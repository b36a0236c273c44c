import ScullDrivers.Interaction.Run
import ScullDrivers.Pmd.Driver
import ScullDrivers.RingBuffer

/-!
# Transmit ownership in the poll-mode driver

A transmit queue set up with `MY_PMD_NB_DESC` descriptors, the bursts the application makes on it one
iteration at a time, and the hardware finishing packets between any two iterations.  The driver calls
no function that frees an mbuf, so `TxState.freed` stays as it is; what becomes of an accepted mbuf is
a question of the ring alone.

The ring holds the last `MY_PMD_NB_DESC` mbufs that were accepted (`TxInv`), so each of them is
accounted for exactly while no more than that were (`txRing_owned_iff`).
-/

namespace ScullDrivers.Pmd

open Interaction Outcome

/-! ## Bursts cut short -/

section Cut

variable {txPkts : List Mbuf} {left sent k : Nat} {q q' q'' : MyQueue}

/-- One packet more: the loop run up to the `k`-th packet, and then its body. -/
theorem myPmdTxBurstLoop_cut (run : myPmdTxBurstLoop txPkts (· < k) left sent q = .ok (k, q'))
    (le : sent ≤ k) (lt : k < sent + left) (body : myPmdTxBurstBody txPkts k q' = .ok q'') :
    myPmdTxBurstLoop txPkts (· < k + 1) left sent q = .ok (k + 1, q'') := by
  induction left generalizing sent q with
  | zero => exact absurd lt (Nat.not_lt_of_le le)
  | succ left ih =>
      unfold myPmdTxBurstLoop at run ⊢
      rcases Nat.lt_or_eq_of_le le with below | rfl
      · rw [if_pos (decide_eq_true below)] at run
        rw [if_pos (decide_eq_true (Nat.lt_succ_of_lt below))]
        obtain ⟨q₁, first, rest⟩ := bind_eq_ok.mp run
        exact bind_eq_ok.mpr ⟨q₁, first, ih rest below (by omega)⟩
      · rw [if_neg (by simp)] at run
        cases run
        rw [if_pos (decide_eq_true (Nat.lt_succ_self sent))]
        refine bind_eq_ok.mpr ⟨q'', body, ?_⟩
        -- the condition fails before the next iteration, if there is one
        cases left with
        | zero => rfl
        | succ left =>
            unfold myPmdTxBurstLoop
            rw [if_neg (by simp)]

/-- A burst nothing was sent of yet. -/
theorem myPmdTxBurst_zero (nbPkts : UInt16) :
    myPmdTxBurst q txPkts nbPkts (· < 0) = .ok (0, q) := by
  unfold myPmdTxBurst
  cases nbPkts.toNat with
  | zero => rfl
  | succ left => rfl

end Cut

/-! ## The system -/

/-- A `my_pmd_tx_burst` call in progress, with the queue it was entered on. -/
structure TxBurst where
  txPkts : List Mbuf
  nbPkts : UInt16
  sent : Nat
  entry : MyQueue

/-- One transmit queue, the mbufs accepted from the application in order, how many of them the
hardware has finished, and the mbufs the driver has freed. -/
structure TxState where
  queue : MyQueue
  call : Option TxBurst := none
  accepted : List Mbuf := []
  finished : Nat := 0
  freed : List Mbuf := []

/-- `HW ring not full`. -/
def TxState.NotFull (s : TxState) : Prop := s.accepted.length - s.finished < myPmdNbDesc

inductive TxLabel
  | call
  | send
  | leave
  | finish
  deriving DecidableEq

/-- One step of the application, of the burst in progress or of the hardware. -/
inductive TxStep : TxState → TxLabel → TxState → Prop
  | call {s : TxState} {txPkts : List Mbuf} {nbPkts : UInt16} :
    s.call = none → nbPkts.toNat ≤ txPkts.length → (∀ mbuf ∈ txPkts, mbuf ≠ 0) →
    TxStep s .call { s with call := some ⟨txPkts, nbPkts, 0, s.queue⟩ }
  | send {s : TxState} {c : TxBurst} {mbuf : Mbuf} {q : MyQueue} :
    s.call = some c → c.sent < c.nbPkts.toNat → s.NotFull → c.txPkts[c.sent]? = some mbuf →
    myPmdTxBurstBody c.txPkts c.sent s.queue = .ok q →
    TxStep s .send
      { s with
        queue := q, call := some { c with sent := c.sent + 1 }, accepted := s.accepted ++ [mbuf] }
  | leave {s : TxState} {c : TxBurst} :
    s.call = some c → (c.sent < c.nbPkts.toNat → ¬ s.NotFull) →
    TxStep s .leave { s with call := none }
  | finish {s : TxState} :
    s.finished < s.accepted.length → TxStep s .finish { s with finished := s.finished + 1 }

/-- A queue that was just set up with 1024 descriptors, on any port. -/
structure TxFresh (s : TxState) : Prop where
  setup : ∃ (port port' : MyPmdPrivate) (i : Fin myPmdNbTxQueues),
    myPmdTxQueueSetup port (UInt16.ofNat i) 1024 true = .ok (0, port') ∧ s.queue = port'.txQueues i
  call : s.call = none
  accepted : s.accepted = []
  finished : s.finished = 0
  freed : s.freed = []

/-- A slot of the ring holds the mbuf. -/
def TxState.Held (s : TxState) (mbuf : Mbuf) : Prop :=
  ∃ slots, s.queue.txRing = some slots ∧ mbuf ∈ slots

/-- Every accepted mbuf is either freed exactly once or still held in a slot. -/
def TxOwned (s : TxState) : Prop :=
  ∀ mbuf ∈ s.accepted, s.freed.count mbuf = 1 ∨ mbuf ∉ s.freed ∧ s.Held mbuf

/-- No store overwrites a slot holding an mbuf that was never freed. -/
def NoOverwrite (s : TxState) (l : TxLabel) : Prop :=
  l = .send → ∀ slots old, s.queue.txRing = some slots → slots[s.queue.txTail]? = some old →
    old = 0 ∨ old ∈ s.freed

/-- The burst sends while fewer mbufs were accepted than the ring has slots. -/
def FirstLap (s : TxState) (l : TxLabel) : Prop := l = .send → s.accepted.length < myPmdNbDesc

/-! ## The invariant -/

/-- What a burst in progress relies on, and that it is `my_pmd_tx_burst` so far. -/
structure TxBurst.Valid (c : TxBurst) (q : MyQueue) : Prop where
  long : c.nbPkts.toNat ≤ c.txPkts.length
  nonNull : ∀ mbuf ∈ c.txPkts, mbuf ≠ 0
  sent_le : c.sent ≤ c.nbPkts.toNat
  burst : myPmdTxBurst c.entry c.txPkts c.nbPkts (· < c.sent) = .ok (c.sent, q)

/-- The ring trails what was accepted, and the driver has freed nothing. -/
structure TxInv (s : TxState) : Prop where
  ring : ∃ slots, s.queue.txRing = some slots ∧ slots.length = myPmdNbDesc ∧
    Ring.Trails 0 slots s.accepted
  tail : s.queue.txTail = s.accepted.length % myPmdNbDesc
  nonNull : ∀ mbuf ∈ s.accepted, mbuf ≠ 0
  freed : s.freed = []
  valid : ∀ c, s.call = some c → c.Valid s.queue

section

variable {s₀ s s' : TxState} {l : TxLabel} {past : List (TxState × TxLabel)} {mbuf : Mbuf}

theorem TxFresh.inv (fresh : TxFresh s) : TxInv s := by
  obtain ⟨port, port', i, setup, queue⟩ := fresh.setup
  obtain ⟨j, index, made⟩ := myPmdTxQueueSetup_eq_ok.mp setup
  cases made
  rw [UInt16.toNat_ofNat_of_lt' (i.isLt.trans (by decide))] at index
  obtain rfl : i = j := Fin.ext index
  simp only [Function.update_self] at queue
  refine ⟨⟨_, congrArg MyQueue.txRing queue, List.length_replicate, ?_⟩, ?_, ?_, fresh.freed, ?_⟩
  · rw [fresh.accepted]
    exact Ring.trails_nil 0 _
  · rw [fresh.accepted, queue]
    rfl
  · rw [fresh.accepted]
    exact fun _ mem => absurd mem List.not_mem_nil
  · intro c call
    rw [fresh.call] at call
    cases call

/-- Each step keeps the invariant. -/
theorem TxInv.step (inv : TxInv s) (step : TxStep s l s') : TxInv s' := by
  cases step with
  | call idle long nonNull =>
      refine ⟨inv.ring, inv.tail, inv.nonNull, inv.freed, fun c call => ?_⟩
      cases call
      exact ⟨long, nonNull, Nat.zero_le _, myPmdTxBurst_zero _⟩
  | @send c mbuf q call more notFull entry body =>
      obtain ⟨slots, live, len, trails⟩ := inv.ring
      have valid := inv.valid c call
      obtain ⟨mbuf', slots', entry', live', -, made⟩ := myPmdTxBurstBody_eq_ok.mp body
      cases entry.symm.trans entry'
      cases live.symm.trans live'
      refine ⟨⟨slots.set s.queue.txTail mbuf, ?_, ?_, ?_⟩, ?_, ?_, inv.freed, fun c' call' => ?_⟩
      · rw [made]
      · rw [List.length_set, len]
      · rw [inv.tail, ← len]
        exact trails.push
      · rw [made, inv.tail, List.length_append, List.length_singleton, Nat.mod_add_mod]
      · intro m mem
        rcases List.mem_append.mp mem with before | last
        · exact inv.nonNull m before
        · rw [List.mem_singleton.mp last]
          exact valid.nonNull mbuf (List.mem_of_getElem? entry)
      · cases call'
        exact ⟨valid.long, valid.nonNull, more,
          myPmdTxBurstLoop_cut valid.burst (Nat.zero_le _) (by rwa [Nat.zero_add]) body⟩
  | leave call ended =>
      refine ⟨inv.ring, inv.tail, inv.nonNull, inv.freed, fun c call' => ?_⟩
      cases call'
  | finish lt => exact ⟨inv.ring, inv.tail, inv.nonNull, inv.freed, inv.valid⟩

theorem TxInv.run (run : Run TxStep s₀ past s) (fresh : TxFresh s₀) : Always TxInv past s := by
  have unconditional : AllSteps (fun _ _ => True) past := fun _ _ => trivial
  exact run.always fresh.inv (fun step _ inv => inv.step step) unconditional

/-- A burst that returns did what `my_pmd_tx_burst` does. -/
theorem TxInv.burst_of_leave {c : TxBurst} (inv : TxInv s) (call : s.call = some c) :
    myPmdTxBurst c.entry c.txPkts c.nbPkts (· < c.sent) = .ok (c.sent, s.queue) :=
  (inv.valid c call).burst

/-! ## Ownership -/

/-- A store overwrites nothing exactly in the first lap. -/
theorem TxInv.noOverwrite_iff (inv : TxInv s) : NoOverwrite s l ↔ FirstLap s l := by
  obtain ⟨slots, live, len, trails⟩ := inv.ring
  constructor
  · intro kept send
    by_contra second
    have full : slots.length ≤ s.accepted.length := by omega
    have pos : 0 < slots.length := by
      rw [len]
      decide
    have lt : s.accepted.length - slots.length < s.accepted.length := by omega
    have stale : slots[s.queue.txTail]? = some s.accepted[s.accepted.length - slots.length] := by
      rw [inv.tail, ← len, trails.next_stale pos full, List.getElem?_eq_getElem lt]
    rcases kept send slots _ live stale with null | freed
    · exact inv.nonNull _ (List.getElem_mem lt) null
    · rw [inv.freed] at freed
      exact absurd freed List.not_mem_nil
  · intro room send slots' old live' entry
    cases live.symm.trans live'
    have unused := trails.next_unused (by rw [len]; exact room send)
    rw [len, ← inv.tail, entry] at unused
    exact Or.inl (Option.some.inj unused)

/-- In the first lap everything accepted is held. -/
theorem TxInv.owned (inv : TxInv s) (lap : s.accepted.length ≤ myPmdNbDesc) : TxOwned s := by
  obtain ⟨slots, live, len, trails⟩ := inv.ring
  intro mbuf mem
  refine Or.inr ⟨?_, slots, live, trails.mem (by rw [len]; exact lap) mem⟩
  rw [inv.freed]
  exact List.not_mem_nil

/-- From the second lap on, an mbuf accepted more than a lap ago is neither freed nor held. -/
theorem TxInv.lost (inv : TxInv s) (distinct : s.accepted.Nodup)
    (mem : mbuf ∈ s.accepted.take (s.accepted.length - myPmdNbDesc)) :
    mbuf ∉ s.freed ∧ ¬ s.Held mbuf := by
  obtain ⟨slots, live, len, trails⟩ := inv.ring
  refine ⟨?_, fun held => ?_⟩
  · rw [inv.freed]
    exact List.not_mem_nil
  · obtain ⟨slots', live', stored⟩ := held
    cases live.symm.trans live'
    have full : slots.length ≤ s.accepted.length := by
      have := List.length_pos_of_mem mem
      rw [List.length_take] at this
      omega
    have recent := trails.mem_drop full stored
    rw [len] at recent
    rw [← List.take_append_drop (s.accepted.length - myPmdNbDesc) s.accepted] at distinct
    exact List.disjoint_of_nodup_append distinct mem recent

/-- While every burst sends in the first lap, no more is accepted than the ring has slots. -/
theorem length_accepted_le (run : Run TxStep s₀ past s) (fresh : TxFresh s₀)
    (room : AllSteps FirstLap past) :
    Always (fun s => s.accepted.length ≤ myPmdNbDesc) past s := by
  refine run.always (by rw [fresh.accepted]; exact Nat.zero_le _) (fun step lap le => ?_) room
  cases step with
  | send =>
      rw [List.length_append, List.length_singleton]
      exact lap rfl
  | call | leave | finish => exact le

/-- **Transmit ownership.**  In a run from a fresh queue every accepted mbuf is always freed exactly
once or held in a slot, and no unfreed one is overwritten, exactly when nothing is sent once
`MY_PMD_NB_DESC` mbufs were accepted. -/
theorem txRing_owned_iff (run : Run TxStep s₀ past s) (fresh : TxFresh s₀) :
    (Always TxOwned past s ∧ AllSteps NoOverwrite past) ↔ AllSteps FirstLap past := by
  have inv := TxInv.run run fresh
  have same : AllSteps NoOverwrite past ↔ AllSteps FirstLap past :=
    forall₂_congr fun x mem => (inv.1 x mem).noOverwrite_iff
  constructor
  · intro both
    exact same.mp both.2
  · intro room
    have le := length_accepted_le run fresh room
    exact ⟨⟨fun x mem => (inv.1 x mem).owned (le.1 x mem), inv.2.owned le.2⟩, same.mpr room⟩

/-! ## Hardware that keeps up -/

/-- With hardware that finishes each packet before the next is sent, a burst sends them all. -/
theorem exists_run_sent (fresh : TxFresh s₀) {txPkts : List Mbuf} (nbPkts : UInt16) (n : Nat)
    (long : nbPkts.toNat ≤ txPkts.length) (nonNull : ∀ mbuf ∈ txPkts, mbuf ≠ 0)
    (le : n ≤ nbPkts.toNat) :
    ∃ past s, Run TxStep s₀ past s ∧ s.call = some ⟨txPkts, nbPkts, n, s₀.queue⟩ ∧
      s.accepted = txPkts.take n ∧ s.finished = n ∧ (n ≤ myPmdNbDesc → AllSteps FirstLap past) := by
  induction n with
  | zero =>
      refine ⟨_, _, Run.nil.snoc (.call fresh.call long nonNull), rfl, fresh.accepted,
        fresh.finished, fun _ => ?_⟩
      exact allSteps_snoc.mpr ⟨allSteps_nil, fun send => nomatch send⟩
  | succ n ih =>
      obtain ⟨past, s, run, call, accepted, finished, first⟩ := ih (Nat.le_of_succ_le le)
      have inv := (TxInv.run run fresh).2
      obtain ⟨slots, live, len, -⟩ := inv.ring
      have lt : n < txPkts.length := Nat.lt_of_succ_le (le.trans long)
      have length : s.accepted.length = n := by
        rw [accepted, List.length_take, Nat.min_eq_left lt.le]
      have entry : txPkts[n]? = some txPkts[n] := List.getElem?_eq_getElem lt
      have bound : s.queue.txTail < slots.length := by
        rw [inv.tail, len]
        exact Nat.mod_lt _ (by decide)
      have notFull : s.NotFull := by
        unfold TxState.NotFull
        rw [length, finished, Nat.sub_self]
        decide
      have sent := run.snoc (.send call le notFull entry
        (myPmdTxBurstBody_eq_ok.mpr ⟨_, slots, entry, live, bound, rfl⟩))
      refine ⟨_, _, sent.snoc (.finish ?_), rfl, ?_, congrArg (· + 1) finished, fun lap => ?_⟩
      · rw [List.length_append, List.length_singleton, length, finished]
        exact Nat.lt_succ_self n
      · rw [accepted, List.take_add_one, entry]
        rfl
      · refine allSteps_snoc.mpr ⟨allSteps_snoc.mpr ⟨first (Nat.le_of_succ_le lap), fun _ => ?_⟩,
          fun send => nomatch send⟩
        rw [length]
        exact lap

end

/-- A queue that was just set up, in a port with nothing else in it. -/
def freshTx : TxState := { queue := { txRing := some (List.replicate myPmdNbDesc 0) } }

theorem freshTx_fresh : TxFresh freshTx := by
  refine ⟨⟨{}, _, 0, myPmdTxQueueSetup_eq_ok.mpr ⟨0, rfl, rfl⟩, ?_⟩, rfl, rfl, rfl, rfl⟩
  simp only [Function.update_self]
  rfl

/-- One packet more than the ring has slots. -/
def tooMany : List Mbuf := List.range' 1 (myPmdNbDesc + 1)

theorem tooMany_nonNull : ∀ mbuf ∈ tooMany, mbuf ≠ 0 := by
  intro mbuf mem
  exact Nat.ne_of_gt (List.mem_range'_1.mp mem).1

/-- A burst of as many packets as the ring has slots is owned throughout. -/
theorem txRing_owned_lap : ∃ past s, Run TxStep freshTx past s ∧
    s.accepted.length = myPmdNbDesc ∧ Always TxOwned past s ∧ AllSteps NoOverwrite past := by
  obtain ⟨past, s, run, -, accepted, -, room⟩ := exists_run_sent freshTx_fresh 1025 1024
    (by rw [tooMany, List.length_range']; decide) tooMany_nonNull (by decide)
  refine ⟨past, s, run, ?_, (txRing_owned_iff run freshTx_fresh).mpr (room (by decide))⟩
  rw [accepted, List.length_take, tooMany, List.length_range']
  decide

/-- A burst of one packet more loses the first one. -/
theorem txRing_loses_first :
    ¬ ∀ (s₀ s : TxState) (past : List (TxState × TxLabel)), TxFresh s₀ → Run TxStep s₀ past s →
      Always TxOwned past s ∧ AllSteps NoOverwrite past := by
  intro claim
  obtain ⟨past, s, run, -, accepted, -, -⟩ := exists_run_sent freshTx_fresh 1025 1025
    (by rw [tooMany, List.length_range']; decide) tooMany_nonNull (le_refl _)
  have inv := (TxInv.run run freshTx_fresh).2
  have all : s.accepted = tooMany := by
    rw [accepted]
    exact List.take_of_length_le (by rw [tooMany, List.length_range']; decide)
  have mem : 1 ∈ s.accepted.take (s.accepted.length - myPmdNbDesc) := by
    rw [all, tooMany, List.length_range', Nat.add_sub_cancel_left]
    exact List.mem_cons_self
  have gone := inv.lost (by rw [all]; exact List.nodup_range') mem
  rcases (claim _ s past freshTx_fresh run).1.2 1 (List.mem_of_mem_take mem) with freed | held
  · rw [List.count_eq_zero.mpr gone.1] at freed
    exact absurd freed (by decide)
  · exact gone.2 held.2

end ScullDrivers.Pmd
