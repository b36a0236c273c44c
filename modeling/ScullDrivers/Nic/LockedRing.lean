import ScullDrivers.Interaction.Lock
import ScullDrivers.Interaction.Protocol
import ScullDrivers.Nic.Quiescence
import ScullDrivers.Nic.TxRing
import ScullDrivers.RingBuffer

/-!
# The transmit ring in every interleaving

`mynic_start_xmit` and `mynic_interrupt` share the ring under `priv->lock`.  Here they run side by side,
with everything else that may run for a bound device in between any two of their calls.  `txGuard` is
what the lock guards: the slots, the indices, the counts of the device and the ledger of what was freed.

* Every access to the ring is made by the holder of the lock (`ring_accessed_locked`).
* As long as packets are stored while the ring has room, what was freed is at every moment an initial
  part of what was stored, and so of what was handed to `mynic_start_xmit`, and the ring holds the rest in
  order (`txRing_fifo_interleaved`).
* No packet is stored over another one exactly in the runs where the ring always has room
  (`always_storesInEmptySlot_iff`).
-/

namespace ScullDrivers.Nic

open Interaction

/-! ## What the lock guards -/

/-- The packet a call stores in the ring. -/
def Call.packet : Call → Option SkBuff
  | .storeTxSkbuff _ skb => skb
  | _ => none

/-- The packet a move stores in the ring. -/
def storedBy : NicMove → Option SkBuff
  | .call _ e _ => e.packet
  | _ => none

/-- The packet a move hands to `mynic_start_xmit`. -/
def handedBy : NicMove → Option SkBuff
  | .start (.xmit skb) => some skb
  | _ => none

/-- The packets stored so far, oldest first. -/
def storedPackets (past : List (NicConfig × NicMove)) : List SkBuff :=
  past.filterMap fun x => storedBy x.2

/-- The packets handed to `mynic_start_xmit` so far, oldest first. -/
def handedPackets (past : List (NicConfig × NicMove)) : List SkBuff :=
  past.filterMap fun x => handedBy x.2

/-- The step does not store a packet while `MYNIC_TX_RING_SIZE` packets are outstanding. -/
def StoresWithRoom (c : NicConfig) (m : NicMove) : Prop :=
  (storedBy m).isSome → c.state.outstanding < mynicTxRingSize

/-- The part of the driver `priv->lock` guards, the packets stored so far, and whether each of them
found room. -/
structure TxRing where
  slots : Fin mynicTxRingSize → Option SkBuff
  head : Fin mynicTxRingSize
  tail : Fin mynicTxRingSize
  submitted : Nat
  reported : Nat
  unmapped : List SkBuff
  freed : List SkBuff
  stored : List SkBuff
  roomy : Prop

/-- The ring after the given steps. -/
def ringOf (past : List (NicConfig × NicMove)) (s : State Context) : TxRing where
  slots := s.txSkbuff
  head := s.txHead
  tail := s.txTail
  submitted := s.txSubmitted
  reported := s.txReported
  unmapped := s.unmapped.map Prod.fst
  freed := s.freed
  stored := storedPackets past
  roomy := AllSteps StoresWithRoom past

/-- Packets submitted and not reported sent yet. -/
def TxRing.outstanding (v : TxRing) : Nat := v.submitted - v.reported

/-- What a call has to do with `priv->lock`.  Probe, which makes the lock and the ring, does not run
for a bound device. -/
def ringAccess : Call → Access
  | .spinLock => .acquire
  | .spinUnlock => .release
  | .loadTxHead | .storeTxHead _ | .loadTxTail | .storeTxTail _ | .loadTxSkbuff _
  | .storeTxSkbuff _ _ | .writelTx _ | .packetsSent | .dmaUnmapSingle _ _ | .devKfreeSkbIrq _ =>
      .guarded
  | .allocEtherdev | .spinLockInit => .barred
  | _ => .free

/-- What the guarded calls do to the ring. -/
def TxRing.Does : (e : Call) → TxRing → Resp e → TxRing → Prop
  | .loadTxHead, v, r, v' => r = v.head ∧ v' = v
  | .loadTxTail, v, r, v' => r = v.tail ∧ v' = v
  | .loadTxSkbuff k, v, r, v' => r = v.slots k ∧ v' = v
  | .storeTxHead k, v, _, v' => v' = { v with head := k }
  | .storeTxTail k, v, _, v' => v' = { v with tail := k }
  | .storeTxSkbuff k skb, v, _, v' => v' = { v with
      slots := Function.update v.slots k skb
      stored := v.stored ++ skb.toList
      roomy := v.roomy ∧ (skb.isSome → v.outstanding < mynicTxRingSize) }
  | .writelTx _, v, _, v' => v' = { v with submitted := v.submitted + 1 }
  | .packetsSent, v, r, v' => v.reported + r ≤ v.submitted ∧ v' = { v with reported := v.reported + r }
  | .dmaUnmapSingle skb _, v, _, v' => v' = { v with unmapped := v.unmapped ++ [skb] }
  | .devKfreeSkbIrq skb, v, _, v' => v' = { v with freed := v.freed ++ [skb] }
  | _, v, _, v' => v' = v

/-- The ring is a queue `q` behind the packets freed so far, `left` of which were reported sent and
are still to be reclaimed. -/
structure TxRing.Fifo (v : TxRing) (left : Nat) (q : List SkBuff) : Prop where
  holds : Ring.Holds v.slots v.freed.length q
  head_eq : v.head = Ring.slot mynicTxRingSize v.submitted
  tail_eq : v.tail = Ring.slot mynicTxRingSize v.freed.length
  submitted_eq : v.submitted = v.freed.length + q.length
  reported_eq : v.reported = v.freed.length + left
  left_le : left ≤ q.length
  stored_eq : v.stored = v.freed ++ q
  unmapped_eq : v.unmapped = v.freed

/-- If every packet stored so far found room, the ring is a queue. -/
def TxRing.Reclaiming (v : TxRing) (left : Nat) : Prop := v.roomy → ∃ q, v.Fifo left q

/-- If every packet stored so far found room, what was freed is what was stored first, and a packet
about to be stored finds its slot empty exactly when there is room. -/
def TxRing.Expects (e : Call) (v : TxRing) : Prop :=
  v.roomy → v.freed <+: v.stored ∧ ∀ k skb, e = .storeTxSkbuff k (some skb) →
    (v.slots k = none ↔ v.outstanding < mynicTxRingSize)

/-- `priv->lock` and what it guards. -/
def txGuard : Guard Call Resp TxRing where
  access := ringAccess
  does := TxRing.Does
  free v := v.Reclaiming 0
  here := TxRing.Expects

section Ring

variable {v : TxRing} {left : Nat} {q : List SkBuff} {skb : SkBuff} {e : Call}

theorem TxRing.Fifo.freed_prefix (fifo : v.Fifo left q) : v.freed <+: v.stored := by
  rw [fifo.stored_eq]
  exact List.prefix_append _ _

/-- What a call that stores no packet expects. -/
theorem TxRing.expects_of_prefix (other : e.packet = none)
    (before : v.roomy → v.freed <+: v.stored) : v.Expects e := by
  refine fun roomy => ⟨before roomy, fun k skb same => ?_⟩
  subst same
  cases other

theorem TxRing.Reclaiming.freed_prefix (inv : v.Reclaiming left) (roomy : v.roomy) :
    v.freed <+: v.stored := by
  obtain ⟨q, fifo⟩ := inv roomy
  exact fifo.freed_prefix

theorem TxRing.Fifo.head_slot (fifo : v.Fifo 0 q) :
    v.head = Ring.slot mynicTxRingSize (v.freed.length + q.length) := by
  rw [fifo.head_eq, fifo.submitted_eq]

theorem TxRing.Fifo.outstanding_eq (fifo : v.Fifo 0 q) : v.outstanding = q.length := by
  have submitted := fifo.submitted_eq
  have reported := fifo.reported_eq
  unfold TxRing.outstanding
  omega

/-- The slot behind the newest packet is empty exactly when there is room. -/
theorem TxRing.Fifo.slot_empty_iff (fifo : v.Fifo 0 q) :
    v.slots v.head = none ↔ v.outstanding < mynicTxRingSize := by
  rw [fifo.outstanding_eq, fifo.head_slot]
  constructor
  · intro empty
    by_contra full
    have length_eq : q.length = mynicTxRingSize :=
      le_antisymm fifo.holds.length_le (Nat.not_lt.mp full)
    cases q with
    | nil => exact absurd length_eq (by decide)
    | cons oldest q => cases (fifo.holds.full length_eq).symm.trans empty
  · exact fun room => fifo.holds.slot_end room

/-- The ring after a transmit. -/
def TxRing.push (v : TxRing) (skb : SkBuff) : TxRing :=
  { v with
    slots := Function.update v.slots v.head (some skb)
    stored := v.stored ++ [skb]
    roomy := v.roomy ∧ ((some skb).isSome → v.outstanding < mynicTxRingSize)
    head := txRingNext v.head
    submitted := v.submitted + 1 }

/-- A transmit with room appends its packet to the queue. -/
theorem TxRing.Fifo.push (fifo : v.Fifo 0 q) (room : v.outstanding < mynicTxRingSize) :
    (v.push skb).Fifo 0 (q ++ [skb]) where
  holds := by
    rw [fifo.outstanding_eq] at room
    have pushed := fifo.holds.push (x := skb) room
    rw [← fifo.head_slot] at pushed
    exact pushed
  head_eq := by
    show txRingNext v.head = Ring.slot mynicTxRingSize (v.submitted + 1)
    rw [fifo.head_eq, txRingNext_slot]
  tail_eq := fifo.tail_eq
  submitted_eq := by
    show v.submitted + 1 = v.freed.length + (q ++ [skb]).length
    rw [fifo.submitted_eq, List.length_append, List.length_singleton, Nat.add_assoc]
  reported_eq := fifo.reported_eq
  left_le := Nat.zero_le _
  stored_eq := by
    show v.stored ++ [skb] = v.freed ++ (q ++ [skb])
    rw [fifo.stored_eq, List.append_assoc]
  unmapped_eq := fifo.unmapped_eq

/-- The device reports packets sent. -/
theorem TxRing.Fifo.report {sent : Nat} (fifo : v.Fifo 0 q) (le : v.reported + sent ≤ v.submitted) :
    TxRing.Fifo { v with reported := v.reported + sent } sent q := by
  have submitted := fifo.submitted_eq
  have reported := fifo.reported_eq
  refine ⟨fifo.holds, fifo.head_eq, fifo.tail_eq, fifo.submitted_eq, ?_, ?_, fifo.stored_eq,
    fifo.unmapped_eq⟩
  · show v.reported + sent = v.freed.length + sent
    omega
  · omega

/-- The ring after an iteration of the reclaim loop that has found a packet. -/
def TxRing.pop (v : TxRing) (skb : SkBuff) : TxRing :=
  { v with
    unmapped := v.unmapped ++ [skb]
    freed := v.freed ++ [skb]
    slots := Function.update v.slots v.tail none
    stored := v.stored ++ (none : Option SkBuff).toList
    roomy := v.roomy ∧ ((none : Option SkBuff).isSome → v.outstanding < mynicTxRingSize)
    tail := txRingNext v.tail }

/-- The reclaim loop finds the oldest packet. -/
theorem TxRing.Fifo.slot_tail (fifo : v.Fifo (left + 1) q) :
    ∃ skb rest, q = skb :: rest ∧ v.slots v.tail = some skb := by
  cases q with
  | nil => exact absurd fifo.left_le (Nat.not_succ_le_zero left)
  | cons skb rest =>
      refine ⟨skb, rest, rfl, ?_⟩
      rw [fifo.tail_eq]
      exact fifo.holds.slot_head

/-- An iteration of the reclaim loop removes the oldest packet. -/
theorem TxRing.Fifo.pop (fifo : v.Fifo (left + 1) (skb :: q)) : (v.pop skb).Fifo left q where
  holds := by
    have popped := fifo.holds.pop
    rw [← fifo.tail_eq] at popped
    show Ring.Holds (Function.update v.slots v.tail none) (v.freed ++ [skb]).length q
    rw [List.length_append, List.length_singleton]
    exact popped
  head_eq := fifo.head_eq
  tail_eq := by
    show txRingNext v.tail = Ring.slot mynicTxRingSize (v.freed ++ [skb]).length
    rw [fifo.tail_eq, txRingNext_slot, List.length_append, List.length_singleton]
  submitted_eq := by
    show v.submitted = (v.freed ++ [skb]).length + q.length
    rw [fifo.submitted_eq, List.length_append, List.length_singleton, List.length_cons]
    omega
  reported_eq := by
    show v.reported = (v.freed ++ [skb]).length + left
    rw [fifo.reported_eq, List.length_append, List.length_singleton]
    omega
  left_le := Nat.le_of_succ_le_succ fifo.left_le
  stored_eq := by
    show v.stored ++ [] = (v.freed ++ [skb]) ++ q
    rw [fifo.stored_eq, List.append_nil, List.append_assoc, List.singleton_append]
  unmapped_eq := by
    show v.unmapped ++ [skb] = v.freed ++ [skb]
    rw [fifo.unmapped_eq]

end Ring

/-! ## The two functions keep the discipline -/

section Keeps

variable {b : Externs} {v : TxRing} {left : Nat}

/-- A call on the ring that stores no packet. -/
theorem keeps_onRing {α : Type} {e : Call} {k : Resp e → Prog Call Resp α}
    (access : ringAccess e = .guarded) (other : e.packet = none)
    (before : v.roomy → v.freed <+: v.stored)
    (next : ∀ r v', TxRing.Does e v r v' → (k r).Keeps txGuard (some v')) :
    (Prog.call e k).Keeps txGuard (some v) :=
  (keeps_held_guarded access).mpr ⟨TxRing.expects_of_prefix other before, next⟩

/-- `mynic_start_xmit` under the lock and up to its return. -/
theorem mynicStartXmit_keeps (skb : SkBuff) : (mynicStartXmit b skb).Keeps txGuard none := by
  unfold mynicStartXmit
  refine (keeps_call_free rfl).mpr fun _ => (keeps_call_acquire rfl).mpr fun _ v free => ?_
  have unchanged : v.roomy → v.freed <+: v.stored := free.freed_prefix
  have appended : v.roomy ∧ ((some skb).isSome → v.outstanding < mynicTxRingSize) →
      v.freed <+: v.stored ++ [skb] := fun roomy =>
    (unchanged roomy.1).trans (List.prefix_append _ _)
  refine keeps_onRing rfl rfl unchanged ?_
  rintro _ _ ⟨rfl, rfl⟩
  refine (keeps_held_guarded rfl).mpr ⟨fun roomy => ⟨unchanged roomy, fun k skb' same => ?_⟩, ?_⟩
  · cases same
    obtain ⟨q, fifo⟩ := free roomy
    exact fifo.slot_empty_iff
  rintro _ _ rfl
  refine keeps_onRing rfl rfl appended ?_
  rintro _ _ ⟨rfl, rfl⟩
  refine keeps_onRing rfl rfl appended ?_
  rintro _ _ rfl
  refine keeps_onRing rfl rfl appended ?_
  rintro _ _ rfl
  refine (keeps_held_release rfl).mpr ⟨TxRing.expects_of_prefix rfl appended, ?_,
    fun _ => rfl⟩
  rintro ⟨roomy, room⟩
  obtain ⟨q, fifo⟩ := free roomy
  exact ⟨q ++ [skb], fifo.push (room rfl)⟩

/-- The reclaim loop, `left` iterations of which are to come. -/
theorem mynicInterruptReclaim_keeps {rest : Unit → Prog Call Resp Unit} (inv : v.Reclaiming left)
    (after : ∀ v : TxRing, v.Reclaiming 0 → (rest ()).Keeps txGuard (some v)) :
    (mynicInterruptReclaim left >>= rest).Keeps txGuard (some v) := by
  induction left generalizing v with
  | zero => exact after v inv
  | succ left ih =>
      have unchanged : v.roomy → v.freed <+: v.stored := inv.freed_prefix
      refine keeps_onRing rfl rfl unchanged ?_
      rintro _ v ⟨rfl, rfl⟩
      refine keeps_onRing rfl rfl unchanged ?_
      rintro found v ⟨stored, rfl⟩
      cases found with
      | none =>
          refine keeps_onRing rfl rfl unchanged ?_
          rintro _ _ ⟨rfl, rfl⟩
          refine keeps_onRing rfl rfl unchanged ?_
          rintro _ _ rfl
          -- a slot the device reports sent is not empty
          refine ih fun roomy => ?_
          obtain ⟨q, fifo⟩ := inv roomy
          obtain ⟨skb, _, _, here⟩ := fifo.slot_tail
          cases stored.trans here
      | some skb =>
          have oldest : v.roomy → ∃ q, v.Fifo (left + 1) (skb :: q) := by
            intro roomy
            obtain ⟨q, fifo⟩ := inv roomy
            obtain ⟨skb', rest, rfl, here⟩ := fifo.slot_tail
            cases stored.trans here
            exact ⟨rest, fifo⟩
          have freed : v.roomy → v.freed ++ [skb] <+: v.stored := by
            intro roomy
            obtain ⟨q, fifo⟩ := oldest roomy
            exact ⟨q, by rw [fifo.stored_eq, List.append_assoc, List.singleton_append]⟩
          have cleared : v.roomy ∧ ((none : Option SkBuff).isSome → v.outstanding < mynicTxRingSize) →
              v.freed ++ [skb] <+: v.stored ++ (none : Option SkBuff).toList := by
            intro roomy
            rw [Option.toList_none, List.append_nil]
            exact freed roomy.1
          refine keeps_onRing rfl rfl unchanged ?_
          rintro _ _ rfl
          refine keeps_onRing rfl rfl unchanged ?_
          rintro _ _ rfl
          refine keeps_onRing rfl rfl freed ?_
          rintro _ _ rfl
          refine keeps_onRing rfl rfl cleared ?_
          rintro _ _ ⟨rfl, rfl⟩
          refine keeps_onRing rfl rfl cleared ?_
          rintro _ _ rfl
          refine ih fun roomy => ?_
          obtain ⟨q, fifo⟩ := oldest roomy.1
          exact ⟨q, fifo.pop⟩

theorem mynicInterruptTx_keeps (status : BitVec 32) :
    (mynicInterruptTx b status).Keeps txGuard none := by
  unfold mynicInterruptTx
  split
  · refine (keeps_call_acquire rfl).mpr fun _ v free => ?_
    refine keeps_onRing rfl rfl free.freed_prefix ?_
    rintro sent _ ⟨le, rfl⟩
    have reported : TxRing.Reclaiming { v with reported := v.reported + sent } sent := by
      intro roomy
      obtain ⟨q, fifo⟩ := free roomy
      exact ⟨q, fifo.report le⟩
    refine mynicInterruptReclaim_keeps reported fun v inv => ?_
    refine (keeps_held_release rfl).mpr
      ⟨TxRing.expects_of_prefix rfl inv.freed_prefix, inv, fun _ => ?_⟩
    exact (keeps_call_free rfl).mpr fun _ => rfl
  · rfl

theorem mynicInterrupt_keeps : (mynicInterrupt b).Keeps txGuard none := by
  have rx : ∀ status, (mynicInterruptRx b status).Keeps txGuard none := by
    intro status
    have only : (mynicInterruptRx b status).OnlyCalls fun e => txGuard.access e = .free :=
      mynicInterruptRx_onlyCalls rfl
    exact only.keeps
  rw [mynicInterrupt_eq]
  refine (keeps_call_free rfl).mpr fun status => (keeps_call_free rfl).mpr fun _ => ?_
  exact (rx status).bind fun _ => (mynicInterruptTx_keeps status).bind fun _ => rfl

/-- Every function called for a bound device keeps the discipline of the lock. -/
theorem Request.code_keeps {q : Request} (bound : boundCallers q.context = true) :
    (q.code b).Keeps txGuard none := by
  have outside : ∀ {i : Context} {p : Code}, i = .net ∨ i = .poll → p.OnlyCalls i.calls →
      p.Keeps txGuard none := by
    intro i p either only
    refine (only.mono fun e own => ?_).keeps
    rcases either with rfl | rfl
    · cases e <;> first | rfl | exact own.elim
    · cases e <;> first | rfl | exact own.elim
  cases q with
  | probe | remove => cases bound
  | «open» => exact outside (.inl rfl) (Request.code_calls .open)
  | stop => exact outside (.inl rfl) (Request.code_calls .stop)
  | xmit skb => exact mynicStartXmit_keeps skb
  | interrupt => exact mynicInterrupt_keeps
  | poll budget => exact outside (.inr rfl) (Request.code_calls (.poll budget))

end Keeps

/-! ## The lock governs the driver -/

section Governs

variable {b : Externs} {c c' : NicConfig} {m : NicMove} {past : List (NicConfig × NicMove)}
  {s s' : State Context}

theorem filterMap_snoc {α β : Type} (f : α → Option β) (xs : List α) (x : α) :
    (xs ++ [x]).filterMap f = xs.filterMap f ++ (f x).toList := by
  rw [List.filterMap_append]
  cases kept : f x with
  | none => rw [List.filterMap_cons_none kept, List.filterMap_nil, Option.toList_none]
  | some y => rw [List.filterMap_cons_some kept, List.filterMap_nil, Option.toList_some]

/-- The ring after one step more. -/
theorem ringOf_snoc : ringOf (past ++ [(c, m)]) s = { ringOf past s with
    stored := storedPackets past ++ (storedBy m).toList
    roomy := AllSteps StoresWithRoom past ∧ StoresWithRoom c m } := by
  have stored : storedPackets (past ++ [(c, m)]) = storedPackets past ++ (storedBy m).toList :=
    filterMap_snoc ..
  have roomy : AllSteps StoresWithRoom (past ++ [(c, m)]) =
      (AllSteps StoresWithRoom past ∧ StoresWithRoom c m) := propext allSteps_snoc
  unfold ringOf
  rw [stored, roomy]

/-- A step that stores no packet leaves the ring to the state. -/
theorem ringOf_snoc_of_none (none : storedBy m = none) :
    ringOf (past ++ [(c, m)]) s = ringOf past s := by
  have room : StoresWithRoom c m = True := by
    rw [StoresWithRoom, none]
    exact eq_true nofun
  rw [ringOf_snoc, none, room, Option.toList_none, List.append_nil, and_true]
  rfl

theorem txGuard_governs : txGuard.Governs (nic b boundCallers) State.lock ringOf where
  code may := Request.code_keeps may.1
  begun past c q := by
    rw [ringOf_snoc_of_none rfl]
    cases q <;> exact ⟨rfl, rfl⟩
  free past c i e r access _ := by
    cases e with
    | spinLock | spinUnlock | loadTxHead | storeTxHead | loadTxTail | storeTxTail | loadTxSkbuff
    | storeTxSkbuff | writelTx | packetsSent | dmaUnmapSingle | devKfreeSkbIrq | allocEtherdev
    | spinLockInit => cases access
    | _ =>
        rw [ringOf_snoc_of_none rfl]
        exact ⟨rfl, rfl⟩
  acquire past c i e r access answer := by
    cases e with
    | spinLock =>
        rw [ringOf_snoc_of_none rfl]
        exact ⟨answer, rfl, rfl⟩
    | _ => cases access
  release past c i e r access _ := by
    cases e with
    | spinUnlock =>
        rw [ringOf_snoc_of_none rfl]
        exact ⟨rfl, rfl⟩
    | _ => cases access
  guarded past c i e r access answer := by
    refine ⟨?_, ?_⟩
    · cases e with
      | spinLock | spinUnlock | allocEtherdev | spinLockInit => cases access
      | _ => rfl
    · cases e with
      | loadTxHead | loadTxTail | loadTxSkbuff =>
          rw [ringOf_snoc_of_none rfl]
          exact ⟨answer, rfl⟩
      | packetsSent =>
          rw [ringOf_snoc_of_none rfl]
          exact ⟨answer, rfl⟩
      | storeTxHead | storeTxTail | writelTx | devKfreeSkbIrq =>
          rw [ringOf_snoc_of_none rfl]
          rfl
      | dmaUnmapSingle skb len =>
          rw [ringOf_snoc_of_none rfl]
          exact congrArg (fun unmapped => { ringOf past c.state with unmapped }) List.map_append
      | storeTxSkbuff k skb =>
          rw [ringOf_snoc]
          rfl
      | _ => cases access
  finished past c i a := by
    rw [ringOf_snoc_of_none rfl]
    cases i <;> exact ⟨rfl, rfl⟩
  device past c h := by
    rw [ringOf_snoc_of_none rfl]
    cases h <;> exact ⟨rfl, rfl⟩

end Governs

/-! ## The discipline of the lock -/

/-- A bound device that nothing runs for, and that was handed no packet yet. -/
structure TxQuiet (c : NicConfig) : Prop where
  threads : ∀ i, c.threads i = none
  lock : c.state.lock = none
  ring : ∀ i, c.state.txSkbuff i = none
  head : c.state.txHead = 0
  tail : c.state.txTail = 0
  submitted : c.state.txSubmitted = 0
  reported : c.state.txReported = 0
  unmapped : c.state.unmapped = []
  freed : c.state.freed = []

/-- The ring is accessed, and the lock given back, by its holder; nobody waits for a lock it holds, or
returns with it. -/
structure RingLocked (c : NicConfig) : Prop where
  access : ∀ {i e k}, c.threads i = some (.call e k) → ringAccess e = .guarded →
    c.state.lock = some i
  unlock : ∀ {i k}, c.threads i = some (.call .spinUnlock k) → c.state.lock = some i
  lock : ∀ {i k}, c.threads i = some (.call .spinLock k) → c.state.lock ≠ some i
  returned : ∀ {i a}, c.threads i = some (.ret a) → c.state.lock ≠ some i

section Runs

variable {b : Externs} {c₀ c c' : NicConfig} {m : NicMove} {past : List (NicConfig × NicMove)}

theorem TxQuiet.fifo (quiet : TxQuiet c) : (ringOf [] c.state).Fifo 0 [] where
  holds := Ring.holds_nil quiet.ring _
  head_eq := by
    show c.state.txHead = Ring.slot mynicTxRingSize c.state.txSubmitted
    rw [quiet.head, quiet.submitted]
    rfl
  tail_eq := by
    show c.state.txTail = Ring.slot mynicTxRingSize c.state.freed.length
    rw [quiet.tail, quiet.freed]
    rfl
  submitted_eq := by
    show c.state.txSubmitted = c.state.freed.length + 0
    rw [quiet.submitted, quiet.freed]
    rfl
  reported_eq := by
    show c.state.txReported = c.state.freed.length + 0
    rw [quiet.reported, quiet.freed]
    rfl
  left_le := le_rfl
  stored_eq := by
    show [] = c.state.freed ++ []
    rw [quiet.freed]
    rfl
  unmapped_eq := by
    show c.state.unmapped.map Prod.fst = c.state.freed
    rw [quiet.unmapped, quiet.freed]
    rfl

/-- The discipline of the lock in every state of a run. -/
theorem TxQuiet.kept (quiet : TxQuiet c₀) (run : Run (nic b boundCallers).Step c₀ past c) :
    txGuard.Kept State.lock (ringOf past c.state) c :=
  txGuard_governs.run run quiet.threads quiet.lock fun _ => ⟨[], quiet.fifo⟩

theorem RingLocked.of_kept {v : TxRing} (kept : txGuard.Kept State.lock v c) : RingLocked c where
  access head access := kept.owner_eq head access
  unlock := by
    intro i k head
    by_contra apart
    have keeps := kept.threads i _ head
    rw [if_neg apart] at keeps
    rcases keeps.access_none with other | other
    · cases other
    · cases other
  lock := by
    intro i k head holds
    have keeps := kept.threads i _ head
    rw [if_pos holds] at keeps
    rcases keeps.access_some with other | other | other
    · cases other
    · cases other
    · cases other
  returned := by
    intro i a head holds
    have keeps := kept.threads i _ head
    rw [if_pos holds] at keeps
    cases keeps

/-- **Mutual exclusion on the ring.**  In every interleaving of transmits, interrupt handlers, polls and
the functions that open and stop the interface, the ring is accessed by the holder of `priv->lock` only,
who gives it back before it returns and never waits for it. -/
theorem ring_accessed_locked (run : Run (nic b boundCallers).Step c₀ past c) (quiet : TxQuiet c₀) :
    Always RingLocked past c :=
  run.always_of_forall fun run => .of_kept (quiet.kept run)

end Runs

/-! ## From the packet handed down to the packet stored -/

/-- The protocol of `mynic_start_xmit`: it stores the packet it was handed, once. -/
inductive XmitNext : Option SkBuff → (e : Call) → Resp e → Option SkBuff → Prop
  | store {k : Fin mynicTxRingSize} {skb : SkBuff} :
    XmitNext (some skb) (.storeTxSkbuff k (some skb)) () none
  | other {g : Option SkBuff} {e : Call} {r : Resp e} : e.packet = none → XmitNext g e r g

/-- The packet `mynic_start_xmit` was handed and has not stored yet. -/
abbrev XmitAt (c : NicConfig) : Option SkBuff → Prop :=
  c.At .xmit XmitNext (fun _ g => g = none) (fun g => g = none)

/-- Only transmits store packets. -/
def StoresNone (i : Context) (p : Code) : Prop :=
  i = .xmit ∨ i = .pci ∨ p.OnlyCalls fun e => e.packet = none

/-- What was handed down is what was stored, and the packet on its way to the ring. -/
structure Handed (past : List (NicConfig × NicMove)) (c : NicConfig) : Prop where
  xmit : ∃ g, XmitAt c g ∧ handedPackets past = storedPackets past ++ g.toList
  absent : c.threads .pci = none
  others : ∀ i p, c.threads i = some p → StoresNone i p

section Handed

variable {b : Externs} {c₀ c c' : NicConfig} {m : NicMove} {past : List (NicConfig × NicMove)}

theorem mynicStartXmit_stores (skb : SkBuff) :
    (mynicStartXmit b skb).Follows XmitNext (fun _ g => g = none) (some skb) := by
  refine fun _ => ⟨_, .other rfl, fun _ => ⟨_, .other rfl, fun _ => ⟨_, .other rfl, fun _ => ?_⟩⟩⟩
  refine ⟨_, .store, fun _ => ⟨_, .other rfl, fun _ => ⟨_, .other rfl, fun _ => ?_⟩⟩⟩
  exact ⟨_, .other rfl, fun _ => ⟨_, .other rfl, rfl⟩⟩

theorem mynicInterruptReclaim_storesNone (sent : Nat) :
    (mynicInterruptReclaim sent).OnlyCalls fun e => e.packet = none := by
  induction sent with
  | zero => trivial
  | succ sent ih =>
      simp only [mynicInterruptReclaim, perform_bind, onlyCalls_call]
      refine ⟨rfl, fun idx => ⟨rfl, fun skb => ?_⟩⟩
      refine Prog.OnlyCalls.bind ?_ fun _ => ⟨rfl, fun _ => ⟨rfl, fun _ => ih⟩⟩
      cases skb with
      | none => trivial
      | some skb => exact ⟨rfl, fun _ => ⟨rfl, fun _ => ⟨rfl, fun _ => trivial⟩⟩⟩

theorem mynicInterrupt_storesNone : (mynicInterrupt b).OnlyCalls fun e => e.packet = none := by
  simp only [mynicInterrupt_eq, mynicInterruptStatus, perform_bind, onlyCalls_call]
  refine ⟨rfl, fun status => ⟨rfl, fun _ => ?_⟩⟩
  refine Prog.OnlyCalls.bind (mynicInterruptRx_onlyCalls rfl) fun _ =>
    Prog.OnlyCalls.bind ?_ fun _ => trivial
  unfold mynicInterruptTx
  split
  · simp only [perform_bind, onlyCalls_call]
    refine ⟨rfl, fun _ => ⟨rfl, fun sent => ?_⟩⟩
    exact Prog.OnlyCalls.bind (mynicInterruptReclaim_storesNone sent) fun _ =>
      ⟨rfl, fun _ => ⟨rfl, fun _ => trivial⟩⟩
  · trivial

theorem Request.code_storesNone (q : Request) : StoresNone q.context (q.code b) := by
  cases q with
  | probe | remove => exact .inr (.inl rfl)
  | xmit skb => exact .inl rfl
  | «open» | stop => exact .inr (.inr ⟨rfl, fun _ => ⟨rfl, fun _ => ⟨rfl, fun _ => trivial⟩⟩⟩)
  | interrupt => exact .inr (.inr mynicInterrupt_storesNone)
  | poll budget =>
      refine .inr (.inr ((mynicPollLoop_calls budget budget 0).mono fun e own => ?_))
      cases e <;> first | rfl | exact own.elim

theorem storedPackets_snoc :
    storedPackets (past ++ [(c, m)]) = storedPackets past ++ (storedBy m).toList :=
  filterMap_snoc ..

theorem handedPackets_snoc :
    handedPackets (past ++ [(c, m)]) = handedPackets past ++ (handedBy m).toList :=
  filterMap_snoc ..

/-- A step that neither hands a packet down nor stores one. -/
theorem handedPackets_of_none {g : Option SkBuff}
    (handed : handedPackets past = storedPackets past ++ g.toList)
    (noneHanded : handedBy m = none) (noneStored : storedBy m = none) :
    handedPackets (past ++ [(c, m)]) = storedPackets (past ++ [(c, m)]) ++ g.toList := by
  rw [handedPackets_snoc, storedPackets_snoc, noneHanded, noneStored, Option.toList_none,
    List.append_nil, List.append_nil]
  exact handed

/-- Every step keeps the account of the packets handed down. -/
theorem Handed.step (step : (nic b boundCallers).Step c m c') (inv : Handed past c) :
    Handed (past ++ [(c, m)]) c' := by
  obtain ⟨⟨g, stage, handed⟩, absent, others⟩ := inv
  refine ⟨?_, threads_eq_none_step rfl step absent, ?_⟩
  swap
  · refine step.threads (T := StoresNone) Request.code_storesNone ?_ others
    intro i e k r before
    exact before.imp_right (Or.imp_right fun only => only.2 r)
  cases step with
  | @start q idle may =>
      cases q with
      | probe | remove => cases may.1
      | xmit skb =>
          obtain rfl := stage.1 idle
          refine ⟨some skb, .running Config.set_threads_self (mynicStartXmit_stores skb), ?_⟩
          rw [handedPackets_snoc, storedPackets_snoc, handed, Option.toList_none, List.append_nil]
          exact congrArg (· ++ [skb]) (List.append_nil _).symm
      | «open» | stop | interrupt | poll =>
          exact ⟨g, stage.of_threads rfl, handedPackets_of_none handed rfl rfl⟩
  | @call i e k r head may answer =>
      by_cases here : i = .xmit
      · subst here
        obtain ⟨g', next, rest⟩ := stage.call head r
        refine ⟨g', .running Config.set_threads_self rest, ?_⟩
        cases next with
        | store =>
            rw [handedPackets_snoc, storedPackets_snoc, handed]
            exact (List.append_nil _).trans (List.append_nil _).symm
        | other none => exact handedPackets_of_none handed rfl none
      · have none : e.packet = none := by
          rcases others i _ head with same | same | only
          · exact absurd same here
          · subst same
            cases absent.symm.trans head
          · exact only.1
        exact ⟨g, stage.of_threads (Config.set_threads_of_ne (Ne.symm here)),
          handedPackets_of_none handed rfl none⟩
  | @finish i a head may =>
      refine ⟨g, ?_, handedPackets_of_none handed rfl rfl⟩
      by_cases here : i = .xmit
      · subst here
        exact .idle Config.set_threads_self (stage.returned head)
      · exact stage.of_threads (Config.set_threads_of_ne (Ne.symm here))
  | @device h => exact ⟨g, stage.of_threads rfl, handedPackets_of_none handed rfl rfl⟩

theorem TxQuiet.handed (quiet : TxQuiet c₀) (run : Run (nic b boundCallers).Step c₀ past c) :
    Handed past c := by
  induction run with
  | nil =>
      refine ⟨⟨none, .idle (quiet.threads _) rfl, rfl⟩, quiet.threads _, fun i p running => ?_⟩
      cases (quiet.threads i).symm.trans running
  | snoc run step ih => exact ih.step step

end Handed

/-! ## The ring is a queue -/

/-- The packets freed are the first ones stored, and the first ones handed to `mynic_start_xmit`; when the
lock is free and no transmit is under way, the others are in the ring, in order, and they are the
outstanding ones. -/
structure TxAccount (past : List (NicConfig × NicMove)) (c : NicConfig) : Prop where
  stored : c.state.freed <+: storedPackets past
  freed : c.state.freed <+: handedPackets past
  unmapped : c.state.lock = none → c.state.unmapped.map Prod.fst = c.state.freed
  queued : c.state.lock = none → c.threads .xmit = none →
    ∃ q, handedPackets past = c.state.freed ++ q ∧ q.length = c.state.outstanding ∧
      Ring.Holds c.state.txSkbuff c.state.freed.length q

/-- A packet is stored in an empty slot only. -/
def StoresInEmptySlot (c : NicConfig) : NicMove → Prop
  | .call _ (.storeTxSkbuff k (some _)) _ => c.state.txSkbuff k = none
  | _ => True

section Queue

variable {b : Externs} {c₀ c c' : NicConfig} {m : NicMove} {past : List (NicConfig × NicMove)}

/-- **The transmit ring is a queue in every interleaving.**  As long as packets are stored while fewer
than `MYNIC_TX_RING_SIZE` are outstanding, what is freed is at every moment an initial part of what was
stored and of what was handed down, so nothing is freed twice, out of order or before it was handed down; and whenever the lock
is free and no transmit is under way, the ring holds all the rest. -/
theorem txRing_fifo_interleaved (run : Run (nic b boundCallers).Step c₀ past c) (quiet : TxQuiet c₀)
    (room : AllSteps StoresWithRoom past) : TxAccount past c := by
  have kept := quiet.kept run
  obtain ⟨⟨g, stage, handed⟩, -, -⟩ := quiet.handed run
  have freed : c.state.freed <+: storedPackets past := by
    cases lock : c.state.lock with
    | none => exact TxRing.Reclaiming.freed_prefix (kept.free lock) room
    | some i =>
        obtain ⟨e, k, -, expects⟩ := kept.here lock
        exact (expects room).1
  refine ⟨freed, ?_, fun unlocked => ?_, fun unlocked idle => ?_⟩
  · rw [handed]
    exact freed.trans (List.prefix_append _ _)
  · obtain ⟨q, fifo⟩ := kept.free unlocked room
    exact fifo.unmapped_eq
  · obtain ⟨q, fifo⟩ := kept.free unlocked room
    obtain rfl := stage.1 idle
    refine ⟨q, ?_, fifo.outstanding_eq.symm, fifo.holds⟩
    rw [handed, Option.toList_none, List.append_nil]
    exact fifo.stored_eq

/-- A packet is stored in an empty slot exactly when there is room, as long as there always was. -/
theorem storesInEmptySlot_iff (run : Run (nic b boundCallers).Step c₀ past c) (quiet : TxQuiet c₀)
    (room : AllSteps StoresWithRoom past) (step : (nic b boundCallers).Step c m c') :
    StoresInEmptySlot c m ↔ StoresWithRoom c m := by
  have kept := quiet.kept run
  cases step with
  | @call i e _ r head may answer =>
      cases e with
      | storeTxSkbuff k skb =>
          cases skb with
          | none => exact iff_of_true trivial nofun
          | some skb =>
              have holds := kept.owner_eq head rfl
              have keeps := kept.threads i _ head
              rw [if_pos holds] at keeps
              have same := (keeps.here room).2 k skb rfl
              exact same.trans ⟨fun lt _ => lt, fun lt => lt rfl⟩
      | _ => exact iff_of_true trivial nofun
  | start | finish | device => exact iff_of_true trivial nofun

/-- **When a packet is overwritten.**  In any interleaving no packet is stored over another one exactly
when each of them is stored while fewer than `MYNIC_TX_RING_SIZE` are outstanding. -/
theorem always_storesInEmptySlot_iff (run : Run (nic b boundCallers).Step c₀ past c)
    (quiet : TxQuiet c₀) : AllSteps StoresInEmptySlot past ↔ AllSteps StoresWithRoom past := by
  induction run with
  | nil => exact iff_of_true allSteps_nil allSteps_nil
  | snoc run step ih =>
      rw [allSteps_snoc, allSteps_snoc, ih]
      exact and_congr_right fun room => storesInEmptySlot_iff run quiet room step

end Queue

/-! ## Two transmits and an interrupt between them -/

theorem boundNic_txQuiet : TxQuiet boundNic :=
  ⟨fun _ => rfl, rfl, fun _ => rfl, rfl, rfl, rfl, rfl, rfl, rfl⟩

/-- A packet is stored in a slot and submitted, up to the release of the lock. -/
def storeAndKick (skb : SkBuff) (k : Fin mynicTxRingSize) : List NicMove :=
  [.call .xmit .spinLock (), .call .xmit .loadTxHead k, .call .xmit (.storeTxSkbuff k (some skb)) (),
    .call .xmit .loadTxHead k, .call .xmit (.storeTxHead (txRingNext k)) (),
    .call .xmit (.writelTx 1) ()]

/-- The handler takes the lock and reclaims one packet from a slot. -/
def reclaimOne (skb : SkBuff) (k : Fin mynicTxRingSize) : List NicMove :=
  [.call .irq .spinLock (), .call .irq .packetsSent 1, .call .irq .loadTxTail k,
    .call .irq (.loadTxSkbuff k) (some skb), .call .irq (.dmaUnmapSingle skb 60) (),
    .call .irq (.devKfreeSkbIrq skb) (), .call .irq (.storeTxSkbuff k none) (),
    .call .irq .loadTxTail k, .call .irq (.storeTxTail (txRingNext k)) ()]

/-- The handler is called while the first packet is submitted, and reclaims it while the second
transmit waits for the lock. -/
def transmitTwice : List NicMove :=
  [.start (.xmit (floodSkb 0)), .call .xmit (.dmaMapSingle (floodSkb 0) 60) (some 0)] ++
    storeAndKick (floodSkb 0) 0 ++
    [.device (.report 2), .start .interrupt, .call .irq .readlIntrStatus 2,
      .call .irq (.writelIntrStatus 2) (), .call .xmit .spinUnlock (), .finish .xmit 0,
      .start (.xmit (floodSkb 1)), .call .xmit (.dmaMapSingle (floodSkb 1) 60) none] ++
    reclaimOne (floodSkb 0) 0 ++ [.call .irq .spinUnlock ()] ++ storeAndKick (floodSkb 1) 1 ++
    [.call .xmit .spinUnlock (), .finish .xmit 0]

instance (c : NicConfig) (m : NicMove) : Decidable (StoresWithRoom c m) :=
  inferInstanceAs (Decidable (_ → _))

/-- The run of `transmitTwice`. -/
theorem transmitTwice_run : ∃ past c, Run (nic demoExterns boundCallers).Step boundNic past c ∧
    AllSteps StoresWithRoom past ∧ c.state.freed = [floodSkb 0] ∧
      c.state.txSkbuff 1 = some (floodSkb 1) := by
  obtain ⟨past, c, run, room, reached⟩ := Machine.run_of_play (M := nic demoExterns boundCallers)
    StoresWithRoom transmitTwice boundNic
    (fun c => c.state.freed = [floodSkb 0] ∧ c.state.txSkbuff 1 = some (floodSkb 1)) (by decide)
  exact ⟨past, c, run, room, of_decide_eq_true reached⟩

/-- Two transmits and a handler keep out of each other's way. -/
theorem ring_accessed_locked_twice : ∃ past c, Run (nic demoExterns boundCallers).Step boundNic past c ∧
    c.state.freed = [floodSkb 0] ∧ Always RingLocked past c := by
  obtain ⟨past, c, run, -, freed, -⟩ := transmitTwice_run
  exact ⟨past, c, run, freed, ring_accessed_locked run boundNic_txQuiet⟩

/-- The first of two packets is freed, the second one is in the ring. -/
theorem txRing_interleaved_twice : ∃ past c, Run (nic demoExterns boundCallers).Step boundNic past c ∧
    c.state.freed = [floodSkb 0] ∧ c.state.txSkbuff 1 = some (floodSkb 1) ∧ TxAccount past c := by
  obtain ⟨past, c, run, room, freed, stored⟩ := transmitTwice_run
  exact ⟨past, c, run, freed, stored, txRing_fifo_interleaved run boundNic_txQuiet room⟩

/-- Neither of two packets is stored over another one. -/
theorem always_storesInEmptySlot_twice : ∃ past c,
    Run (nic demoExterns boundCallers).Step boundNic past c ∧ c.state.freed = [floodSkb 0] ∧
      AllSteps StoresInEmptySlot past := by
  obtain ⟨past, c, run, room, freed, -⟩ := transmitTwice_run
  exact ⟨past, c, run, freed, (always_storesInEmptySlot_iff run boundNic_txQuiet).mpr room⟩

end ScullDrivers.Nic
