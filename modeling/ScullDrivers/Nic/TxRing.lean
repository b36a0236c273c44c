import ScullDrivers.Interaction.Run
import ScullDrivers.Nic.Sequential
import ScullDrivers.RingBuffer

/-!
# The transmit ring of `network/nic.c`

`TxStep` is one whole call on the transmit side, in any order: the interface opened or stopped, a
packet handed to `mynic_start_xmit` with any answer of `dma_map_single`, an interrupt with any status
word.  `TxState.accepted` records the packets for which `mynic_start_xmit` returned `NETDEV_TX_OK`.

`TxInv` is the refinement of a FIFO queue: the accepted packets are the freed ones followed by the
queue the ring holds.  Every step keeps it except a transmit into a full ring, which overwrites the
oldest packet, so a run keeps every accepted packet accounted for exactly when it never transmits
into a full ring (`txRing_noLoss_iff`).
-/

namespace ScullDrivers.Nic

open Interaction

/-- The driver, and the packets it has accepted so far, oldest first. -/
structure TxState where
  nic : State Unit
  accepted : List SkBuff

/-- Calls on the transmit side.  A packet handed down comes with what `dma_map_single` answers for it. -/
inductive TxEvent
  | open
  | xmit (skb : SkBuff) (dmaAddr : Option Nat)
  | interrupt (status : BitVec 32)
  | stop

/-- One whole call.  A packet handed down is one the driver does not own, and one for which it
returns `NETDEV_TX_OK` becomes its own. -/
inductive TxStep (b : Externs) : TxState → TxEvent → TxState → Prop
  | open {s : TxState} {n : State Unit} :
    (mynicOpen b).Exec (kernel ()) s.nic 0 n →
    TxStep b s .open ⟨{ n with iface := .up }, s.accepted⟩
  | xmit {s : TxState} {skb : SkBuff} {dmaAddr : Option Nat} {r : Int} {n : State Unit} :
    skb ∉ s.accepted →
    (mynicStartXmit b skb).Exec ((kernel ()).answering (MapsTo dmaAddr)) s.nic r n →
    TxStep b s (.xmit skb dmaAddr)
      ⟨n, if r = netdevTxOk then s.accepted ++ [skb] else s.accepted⟩
  | interrupt {s : TxState} {status : BitVec 32} {r : Int} {n : State Unit} :
    (mynicInterrupt b).Exec (kernel ()) { s.nic with intrStatus := status } r n →
    TxStep b s (.interrupt status) ⟨n, s.accepted⟩
  | stop {s : TxState} {n : State Unit} :
    mynicStop.Exec (kernel ()) s.nic 0 n →
    TxStep b s .stop ⟨{ n with iface := .stopped }, s.accepted⟩

/-- The transmit side of a device nothing was sent through yet. -/
structure TxIdle (s : TxState) : Prop where
  accepted : s.accepted = []
  freed : s.nic.freed = []
  unmapped : s.nic.unmapped = []
  ring : ∀ i, s.nic.txSkbuff i = none
  head : s.nic.txHead = 0
  tail : s.nic.txTail = 0
  submitted : s.nic.txSubmitted = 0
  reported : s.nic.txReported = 0

/-- Every accepted packet was freed exactly once, or is in exactly one slot of the ring. -/
def Accounted (s : TxState) : Prop :=
  ∀ skb ∈ s.accepted,
    (s.nic.freed.count skb = 1 ∧ ∀ i, s.nic.txSkbuff i ≠ some skb) ∨
      (s.nic.freed.count skb = 0 ∧ ∃! i, s.nic.txSkbuff i = some skb)

/-- The step does not store a packet over one that is still in the ring. -/
def NoOverwrite (s : TxState) (e : TxEvent) : Prop :=
  ∀ skb dmaAddr, e = .xmit skb dmaAddr → s.nic.txSkbuff s.nic.txHead = none

/-- The step does not transmit while `MYNIC_TX_RING_SIZE` packets are outstanding. -/
def HasRoom (s : TxState) (e : TxEvent) : Prop :=
  ∀ skb dmaAddr, e = .xmit skb dmaAddr → s.nic.outstanding < mynicTxRingSize

/-! ## The ring as a queue -/

/-- The ring holds the queue `q` of packets, the oldest at position `t`; everything accepted before
is freed. -/
structure RingInv (n : State Unit) (accepted : List SkBuff) (t : Nat) (q : List SkBuff) : Prop where
  holds : Ring.Holds n.txSkbuff t q
  tail_eq : n.txTail = Ring.slot mynicTxRingSize t
  head_eq : n.txHead = Ring.slot mynicTxRingSize n.txSubmitted
  submitted_eq : n.txSubmitted = t + q.length
  freed_length : n.freed.length = t
  accepted_eq : accepted = n.freed ++ q
  unmapped_eq : n.unmapped.map Prod.fst = n.freed
  nodup : accepted.Nodup

/-- The invariant between calls: the position of the oldest packet is the number of packets reported
sent. -/
def TxInv (s : TxState) : Prop :=
  ∃ q, RingInv s.nic s.accepted s.nic.txReported q

theorem txRingNext_slot (m : Nat) :
    txRingNext (Ring.slot mynicTxRingSize m) = Ring.slot mynicTxRingSize (m + 1) :=
  Fin.ext (Ring.slot_succ m)

theorem TxIdle.inv {s : TxState} (idle : TxIdle s) : TxInv s := by
  refine ⟨[], ?_, ?_, ?_, ?_, ?_, ?_, ?_, ?_⟩
  · exact Ring.holds_nil idle.ring _
  · rw [idle.tail, idle.reported]
    rfl
  · rw [idle.head, idle.submitted]
    rfl
  · rw [idle.submitted, idle.reported]
    rfl
  · rw [idle.freed, idle.reported]
    rfl
  · rw [idle.accepted, idle.freed]
    rfl
  · rw [idle.unmapped, idle.freed]
    rfl
  · rw [idle.accepted]
    exact List.nodup_nil

section RingInv

variable {n n' : State Unit} {accepted : List SkBuff} {t : Nat} {q : List SkBuff} {skb : SkBuff}
  {b : Externs}

theorem RingInv.outstanding_eq (inv : RingInv n accepted n.txReported q) :
    n.outstanding = q.length := by
  have submitted := inv.submitted_eq
  unfold State.outstanding
  omega

/-- The slot the next transmit stores to. -/
theorem RingInv.head_slot (inv : RingInv n accepted t q) :
    n.txHead = Ring.slot mynicTxRingSize (t + q.length) := by
  rw [inv.head_eq, inv.submitted_eq]

/-- A transmit with room appends the packet to the queue. -/
theorem RingInv.xmit (inv : RingInv n accepted t q) (room : q.length < mynicTxRingSize)
    (fresh : skb ∉ accepted) (dmaAddr : Option Nat) :
    RingInv (n.xmit skb dmaAddr) (accepted ++ [skb]) t (q ++ [skb]) where
  holds := by
    have pushed := inv.holds.push (x := skb) room
    rw [← inv.head_slot] at pushed
    exact pushed
  tail_eq := inv.tail_eq
  head_eq := by
    show txRingNext n.txHead = Ring.slot mynicTxRingSize (n.txSubmitted + 1)
    rw [inv.head_eq, txRingNext_slot]
  submitted_eq := by
    show n.txSubmitted + 1 = t + (q ++ [skb]).length
    rw [inv.submitted_eq, List.length_append, List.length_singleton]
    omega
  freed_length := inv.freed_length
  accepted_eq := by
    show accepted ++ [skb] = n.freed ++ (q ++ [skb])
    rw [inv.accepted_eq, List.append_assoc]
  unmapped_eq := inv.unmapped_eq
  nodup := by
    rw [List.nodup_append]
    refine ⟨inv.nodup, List.nodup_singleton _, fun x mem y single same => ?_⟩
    rw [List.mem_singleton] at single
    subst single same
    exact fresh mem

/-- One iteration of the reclaim loop frees the oldest packet. -/
theorem RingInv.reclaim (inv : RingInv n accepted t (skb :: q)) :
    RingInv n.reclaim accepted (t + 1) q := by
  have stored : n.txSkbuff n.txTail = some skb := by
    rw [inv.tail_eq]
    exact inv.holds.slot_head
  rw [State.reclaim_of_some stored]
  refine ⟨?_, ?_, inv.head_eq, ?_, ?_, ?_, ?_, inv.nodup⟩
  · have popped := inv.holds.pop
    rw [← inv.tail_eq] at popped
    exact popped
  · show txRingNext n.txTail = Ring.slot mynicTxRingSize (t + 1)
    rw [inv.tail_eq, txRingNext_slot]
  · have submitted := inv.submitted_eq
    rw [List.length_cons] at submitted
    show n.txSubmitted = t + 1 + q.length
    omega
  · show (n.freed ++ [skb]).length = t + 1
    rw [List.length_append, inv.freed_length, List.length_singleton]
  · show accepted = (n.freed ++ [skb]) ++ q
    rw [inv.accepted_eq, List.append_assoc, List.singleton_append]
  · show (n.unmapped ++ [(skb, skb.len)]).map Prod.fst = n.freed ++ [skb]
    rw [List.map_append, inv.unmapped_eq]
    rfl

/-- Reclaiming `sent` packets frees the `sent` oldest ones. -/
theorem RingInv.reclaims {sent : Nat} (inv : RingInv n accepted t q) (le : sent ≤ q.length) :
    RingInv (State.reclaim^[sent] n) accepted (t + sent) (q.drop sent) := by
  induction sent generalizing n t q with
  | zero => exact inv
  | succ sent ih =>
      cases q with
      | nil => exact absurd le (Nat.not_succ_le_zero sent)
      | cons skb q =>
          have rest := ih inv.reclaim (Nat.le_of_succ_le_succ le)
          rw [Function.iterate_succ_apply, List.drop_succ_cons,
            show t + (sent + 1) = t + 1 + sent by omega]
          exact rest

theorem reclaim_txReported (n : State Unit) : n.reclaim.txReported = n.txReported := by
  unfold State.reclaim
  cases n.txSkbuff n.txTail <;> rfl

theorem reclaims_txReported (sent : Nat) (n : State Unit) :
    (State.reclaim^[sent] n).txReported = n.txReported := by
  induction sent generalizing n with
  | zero => rfl
  | succ sent ih => rw [Function.iterate_succ_apply, ih, reclaim_txReported]

/-- The transmit part of the handler keeps the invariant. -/
theorem RingInv.complete {sent : Nat} (inv : RingInv n accepted n.txReported q)
    (le : n.txReported + sent ≤ n.txSubmitted) :
    RingInv (n.complete () sent) accepted (n.complete () sent).txReported (q.drop sent) := by
  have submitted := inv.submitted_eq
  let m : State Unit := { n with lock := some (), txReported := n.txReported + sent }
  have start : RingInv m accepted n.txReported q :=
    ⟨inv.holds, inv.tail_eq, inv.head_eq, inv.submitted_eq, inv.freed_length, inv.accepted_eq,
      inv.unmapped_eq, inv.nodup⟩
  have fits : sent ≤ q.length := by omega
  have done := start.reclaims fits
  have reported : (n.complete () sent).txReported = n.txReported + sent :=
    reclaims_txReported sent m
  rw [reported]
  exact ⟨done.holds, done.tail_eq, done.head_eq, done.submitted_eq, done.freed_length,
    done.accepted_eq, done.unmapped_eq, done.nodup⟩

end RingInv

/-! ## Steps and runs -/

section

variable {b : Externs} {s s₀ s' : TxState} {e : TxEvent} {past : List (TxState × TxEvent)}

/-- Every step keeps the invariant, a transmit only while the ring has room. -/
theorem TxInv.step (step : TxStep b s e s') (room : HasRoom s e) (inv : TxInv s) : TxInv s' := by
  obtain ⟨q, inv⟩ := inv
  cases step with
  | «open» run =>
      obtain ⟨-, rfl⟩ := exec_mynicOpen.mp run
      exact ⟨q, inv.holds, inv.tail_eq, inv.head_eq, inv.submitted_eq, inv.freed_length,
        inv.accepted_eq, inv.unmapped_eq, inv.nodup⟩
  | stop run =>
      obtain ⟨-, -, rfl⟩ := exec_mynicStop.mp run
      exact ⟨q, inv.holds, inv.tail_eq, inv.head_eq, inv.submitted_eq, inv.freed_length,
        inv.accepted_eq, inv.unmapped_eq, inv.nodup⟩
  | @xmit skb dmaAddr _ _ fresh run =>
      obtain ⟨rfl, -, rfl⟩ := exec_mynicStartXmit.mp run
      have lt := room skb dmaAddr rfl
      rw [inv.outstanding_eq] at lt
      exact ⟨q ++ [skb], inv.xmit lt fresh dmaAddr⟩
  | @interrupt status _ _ run =>
      obtain ⟨-, effect⟩ := exec_mynicInterrupt.mp run
      have start : RingInv (State.acknowledge b { s.nic with intrStatus := status }) s.accepted
          s.nic.txReported q :=
        ⟨inv.holds, inv.tail_eq, inv.head_eq, inv.submitted_eq, inv.freed_length, inv.accepted_eq,
          inv.unmapped_eq, inv.nodup⟩
      split at effect
      · obtain ⟨-, sent, le, rfl⟩ := effect
        exact ⟨q.drop sent, RingInv.complete start le⟩
      · subst effect
        exact ⟨q, start⟩

theorem TxInv.accounted (inv : TxInv s) : Accounted s := by
  obtain ⟨q, inv⟩ := inv
  have parts := inv.nodup
  rw [inv.accepted_eq, List.nodup_append] at parts
  obtain ⟨freedNodup, queueNodup, disjoint⟩ := parts
  intro skb mem
  rw [inv.accepted_eq, List.mem_append] at mem
  rcases mem with freed | queued
  · refine .inl ⟨List.count_eq_one_of_mem freedNodup freed, fun i stored => ?_⟩
    exact disjoint skb freed skb (inv.holds.mem_of_slot stored) rfl
  · refine .inr ⟨List.count_eq_zero.mpr fun freed => ?_, ?_⟩
    · exact disjoint skb freed skb queued rfl
    · exact inv.holds.existsUnique queueNodup queued

theorem TxInv.noOverwrite (inv : TxInv s) (room : HasRoom s e) : NoOverwrite s e := by
  obtain ⟨q, inv⟩ := inv
  intro skb dmaAddr xmit
  have lt := room skb dmaAddr xmit
  rw [inv.outstanding_eq] at lt
  rw [inv.head_slot]
  exact inv.holds.slot_end lt

/-- A transmit into a full ring loses the oldest packet. -/
theorem TxInv.hasRoom (inv : TxInv s) (step : TxStep b s e s') (after : Accounted s') :
    HasRoom s e := by
  obtain ⟨q, inv⟩ := inv
  rintro skb dmaAddr rfl
  by_contra full
  cases step with
  | xmit fresh run =>
      obtain ⟨rfl, -, rfl⟩ := exec_mynicStartXmit.mp run
      have parts := inv.nodup
      rw [inv.accepted_eq, List.nodup_append] at parts
      obtain ⟨-, queueNodup, disjoint⟩ := parts
      rw [inv.outstanding_eq, Nat.not_lt] at full
      have length_eq : q.length = mynicTxRingSize := le_antisymm inv.holds.length_le full
      cases q with
      | nil => exact absurd length_eq (by decide)
      | cons oldest q =>
          have atHead : s.nic.txSkbuff s.nic.txHead = some oldest := by
            rw [inv.head_slot]
            exact inv.holds.full length_eq
          have mem : oldest ∈ s.accepted := by
            rw [inv.accepted_eq]
            exact List.mem_append_right _ List.mem_cons_self
          -- only the slot at the head held it, and that slot now holds `skb`
          have gone : ∀ i, (s.nic.xmit skb dmaAddr).txSkbuff i ≠ some oldest := by
            intro i stored
            change Function.update s.nic.txSkbuff s.nic.txHead (some skb) i = some oldest at stored
            by_cases here : i = s.nic.txHead
            · subst here
              rw [Function.update_self] at stored
              exact fresh (Option.some.inj stored ▸ mem)
            · rw [Function.update_of_ne here] at stored
              exact here ((inv.holds.existsUnique queueNodup List.mem_cons_self).unique stored
                atHead)
          have kept : oldest ∉ s.nic.freed := fun freed =>
            disjoint oldest freed oldest List.mem_cons_self rfl
          rcases after oldest (by rw [if_pos rfl]; exact List.mem_append_left _ mem) with
            ⟨freed, -⟩ | ⟨-, i, stored, -⟩
          · rw [show (s.nic.xmit skb dmaAddr).freed = s.nic.freed from rfl,
              List.count_eq_zero.mpr kept] at freed
            exact absurd freed (by decide)
          · exact gone i stored

/-- All along a run that never transmits into a full ring, the ring is a queue. -/
theorem TxInv.run (run : Run (TxStep b) s₀ past s) (idle : TxIdle s₀)
    (room : AllSteps HasRoom past) : Always TxInv past s :=
  run.always idle.inv TxInv.step room

/-- A run accounts for every accepted packet exactly when it never transmits into a full ring. -/
theorem always_accounted_iff (run : Run (TxStep b) s₀ past s) (idle : TxIdle s₀) :
    Always Accounted past s ↔ AllSteps HasRoom past :=
  run.always_iff_allSteps idle.inv TxInv.accounted TxInv.step fun step inv after =>
    inv.hasRoom step after

/-- **No loss in the transmit ring.**  A run accounts for every accepted packet, and never
overwrites one that is still in the ring, exactly when it never transmits into a full ring. -/
theorem txRing_noLoss_iff (run : Run (TxStep b) s₀ past s) (idle : TxIdle s₀) :
    (Always Accounted past s ∧ AllSteps NoOverwrite past) ↔ AllSteps HasRoom past := by
  constructor
  · intro both
    exact (always_accounted_iff run idle).mp both.1
  · intro room
    have inv := TxInv.run run idle room
    exact ⟨(always_accounted_iff run idle).mpr room, fun x mem =>
      (inv.1 x mem).noOverwrite (room x mem)⟩

end

/-! ## Filling the ring -/

/-- The driver after a transmit. -/
def TxState.sent (s : TxState) (skb : SkBuff) (dmaAddr : Option Nat) : TxState :=
  ⟨s.nic.xmit skb dmaAddr, s.accepted ++ [skb]⟩

theorem TxState.sent_step {b : Externs} {s : TxState} {skb : SkBuff} {dmaAddr : Option Nat}
    (fresh : skb ∉ s.accepted) (unlocked : s.nic.lock = none) :
    TxStep b s (.xmit skb dmaAddr) (s.sent skb dmaAddr) :=
  .xmit fresh (exec_mynicStartXmit.mpr ⟨rfl, unlocked, rfl⟩)

/-- The driver after `k` transmits and no interrupt. -/
def flood : Nat → TxState
  | 0 => ⟨{}, []⟩
  | k + 1 => (flood k).sent (floodSkb k) (some k)

/-- The steps taken to `flood k`. -/
def floodPast : Nat → List (TxState × TxEvent)
  | 0 => []
  | k + 1 => floodPast k ++ [(flood k, .xmit (floodSkb k) (some k))]

theorem flood_idle : TxIdle (flood 0) := by
  constructor <;> first | rfl | exact fun _ => rfl

theorem flood_lock (k : Nat) : (flood k).nic.lock = none := by
  cases k <;> rfl

theorem flood_outstanding (k : Nat) : (flood k).nic.outstanding = k := by
  have both : (flood k).nic.txSubmitted = k ∧ (flood k).nic.txReported = 0 := by
    induction k with
    | zero => exact ⟨rfl, rfl⟩
    | succ k ih => exact ⟨congrArg (· + 1) ih.1, ih.2⟩
  unfold State.outstanding
  rw [both.1, both.2, Nat.sub_zero]

theorem lt_of_mem_flood {k : Nat} {skb : SkBuff} (mem : skb ∈ (flood k).accepted) : skb.id < k := by
  induction k with
  | zero => exact absurd mem List.not_mem_nil
  | succ k ih =>
      rcases List.mem_append.mp mem with before | last
      · exact Nat.lt_succ_of_lt (ih before)
      · rw [List.mem_singleton] at last
        subst last
        exact Nat.lt_succ_self k

theorem flood_run (b : Externs) (k : Nat) :
    Run (TxStep b) (flood 0) (floodPast k) (flood k) := by
  induction k with
  | zero => exact .nil
  | succ k ih =>
      have fresh : floodSkb k ∉ (flood k).accepted := fun mem =>
        absurd (lt_of_mem_flood mem) (Nat.lt_irrefl k)
      exact ih.snoc (TxState.sent_step fresh (flood_lock k))

theorem flood_hasRoom {k : Nat} (le : k ≤ mynicTxRingSize) : AllSteps HasRoom (floodPast k) := by
  induction k with
  | zero => exact allSteps_nil
  | succ k ih =>
      refine allSteps_snoc.mpr ⟨ih (Nat.le_of_succ_le le), fun skb dmaAddr _ => ?_⟩
      rw [flood_outstanding]
      exact le

/-- Filling the ring loses nothing. -/
theorem txRing_noLoss_flood :
    Always Accounted (floodPast 128) (flood 128) ∧ AllSteps NoOverwrite (floodPast 128) :=
  (txRing_noLoss_iff (flood_run demoExterns 128) flood_idle).mpr (flood_hasRoom (le_refl 128))

/-- One packet more than the ring holds loses the first one. -/
theorem txRing_loses :
    ¬ ∀ (b : Externs) (s₀ s : TxState) (past : List (TxState × TxEvent)),
      TxIdle s₀ → Run (TxStep b) s₀ past s →
        Always Accounted past s ∧ AllSteps NoOverwrite past := by
  intro claim
  have kept := (claim demoExterns (flood 0) (flood 129) _ flood_idle (flood_run demoExterns 129)).1
  have room := (always_accounted_iff (flood_run demoExterns 129) flood_idle).mp kept
  have last := (allSteps_snoc.mp room).2 (floodSkb 128) (some 128) rfl
  rw [flood_outstanding] at last
  exact absurd last (by decide)

end ScullDrivers.Nic
