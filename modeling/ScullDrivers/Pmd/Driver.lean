import Mathlib.Data.Fin.Basic
import Mathlib.Data.List.Basic
import Mathlib.Logic.Function.Basic
import ScullDrivers.Outcome

/-!
# The poll-mode driver, `network/dpdk/pmd.c`

The queue functions of the driver on the state they read and write.  An access outside an array, or
through a ring pointer that is `NULL`, is a `Fault`.

The conditions the source leaves to the hardware (`/* HW ring not empty */`, `/* HW ring not full */`)
are arguments: the answers the loop gets, one for each evaluation.  The result of
`rte_zmalloc_socket` is an argument as well.
-/

namespace ScullDrivers.Pmd

open Outcome

/-- `MY_PMD_NB_RX_QUEUES`. -/
abbrev myPmdNbRxQueues : Nat := 4

/-- `MY_PMD_NB_TX_QUEUES`. -/
abbrev myPmdNbTxQueues : Nat := 4

/-- `MY_PMD_NB_DESC`. -/
def myPmdNbDesc : Nat := 1024

/-- A pointer to an `rte_mbuf`; `0` is `NULL`. -/
abbrev Mbuf := Nat

/-- An access the C program must not make. -/
inductive Fault
  | queueIndex (idx : Nat)
  | nullRing
  | ringIndex (idx : Nat)
  | pktsIndex (idx : Nat)
  deriving DecidableEq

/-- A ring pointer: `NULL`, or an array of mbuf pointers. -/
abbrev RingPtr := Option (List Mbuf)

/-- `struct my_queue`. -/
structure MyQueue where
  rxRing : RingPtr := none
  txRing : RingPtr := none
  rxHead : Nat := 0
  rxTail : Nat := 0
  txHead : Nat := 0
  txTail : Nat := 0
  hwRingBase : Nat := 0
  deriving DecidableEq

/-- The queues of `struct my_pmd_private`. -/
structure MyPmdPrivate where
  rxQueues : Fin myPmdNbRxQueues → MyQueue := fun _ => {}
  txQueues : Fin myPmdNbTxQueues → MyQueue := fun _ => {}

/-- `ring[idx]`. -/
def ringLoad (ring : RingPtr) (idx : Nat) : Except Fault Mbuf :=
  match ring with
  | none => .error .nullRing
  | some slots =>
      match slots[idx]? with
      | none => .error (.ringIndex idx)
      | some mbuf => .ok mbuf

/-- `ring[idx] = mbuf`. -/
def ringStore (ring : RingPtr) (idx : Nat) (mbuf : Mbuf) : Except Fault RingPtr :=
  match ring with
  | none => .error .nullRing
  | some slots =>
      if idx < slots.length then .ok (some (slots.set idx mbuf)) else .error (.ringIndex idx)

/-- `pkts[idx]`, an entry of an array of the application. -/
def pktsLoad (pkts : List Mbuf) (idx : Nat) : Except Fault Mbuf :=
  match pkts[idx]? with
  | none => .error (.pktsIndex idx)
  | some mbuf => .ok mbuf

/-- The queue an index selects, of `n` declared ones. -/
def queueAt (n : Nat) (queueIdx : UInt16) : Except Fault (Fin n) :=
  if declared : queueIdx.toNat < n then .ok ⟨queueIdx.toNat, declared⟩
  else .error (.queueIndex queueIdx.toNat)

/-- `rte_zmalloc_socket` of `nbDesc` pointers: a zeroed array, or `NULL` when it is not granted. -/
def rteZmallocSocket (nbDesc : UInt16) (granted : Bool) : RingPtr :=
  if granted then some (List.replicate nbDesc.toNat 0) else none

/-! ## Queue setup -/

/-- `my_pmd_rx_queue_setup`. -/
def myPmdRxQueueSetup (priv : MyPmdPrivate) (queueIdx nbDesc : UInt16) (granted : Bool) :
    Except Fault (Int × MyPmdPrivate) := do
  let i ← queueAt myPmdNbRxQueues queueIdx
  let q := { priv.rxQueues i with rxRing := rteZmallocSocket nbDesc granted }
  let q := { q with rxHead := 0, rxTail := 0 }
  return (0, { priv with rxQueues := Function.update priv.rxQueues i q })

/-- `my_pmd_tx_queue_setup`. -/
def myPmdTxQueueSetup (priv : MyPmdPrivate) (queueIdx nbDesc : UInt16) (granted : Bool) :
    Except Fault (Int × MyPmdPrivate) := do
  let i ← queueAt myPmdNbTxQueues queueIdx
  let q := { priv.txQueues i with txRing := rteZmallocSocket nbDesc granted }
  let q := { q with txHead := 0, txTail := 0 }
  return (0, { priv with txQueues := Function.update priv.txQueues i q })

/-! ## Bursts -/

/-- The body of the loop of `my_pmd_rx_burst`, and the mbuf it writes to `rx_pkts`. -/
def myPmdRxBurstBody (q : MyQueue) : Except Fault (Mbuf × MyQueue) := do
  let mbuf ← ringLoad q.rxRing q.rxHead
  return (mbuf, { q with rxHead := (q.rxHead + 1) % myPmdNbDesc })

/-- The loop of `my_pmd_rx_burst`; `left` is `nb_pkts - received`, and `rxPkts` what was written to
`rx_pkts` so far. -/
def myPmdRxBurstLoop (notEmpty : Nat → Bool) :
    (left : Nat) → (rxPkts : List Mbuf) → MyQueue → Except Fault (List Mbuf × MyQueue)
  | 0, rxPkts, q => .ok (rxPkts, q)
  | left + 1, rxPkts, q =>
      if notEmpty rxPkts.length then do
        let (mbuf, q) ← myPmdRxBurstBody q
        myPmdRxBurstLoop notEmpty left (rxPkts ++ [mbuf]) q
      else .ok (rxPkts, q)

/-- `my_pmd_rx_burst`: the entries written to `rx_pkts`, whose number it returns. -/
def myPmdRxBurst (q : MyQueue) (nbPkts : UInt16) (notEmpty : Nat → Bool) :
    Except Fault (List Mbuf × MyQueue) :=
  myPmdRxBurstLoop notEmpty nbPkts.toNat [] q

/-- The body of the loop of `my_pmd_tx_burst`. -/
def myPmdTxBurstBody (txPkts : List Mbuf) (sent : Nat) (q : MyQueue) : Except Fault MyQueue := do
  let mbuf ← pktsLoad txPkts sent
  let txRing ← ringStore q.txRing q.txTail mbuf
  return { q with txRing, txTail := (q.txTail + 1) % myPmdNbDesc }

/-- The loop of `my_pmd_tx_burst`; `left` is `nb_pkts - sent`. -/
def myPmdTxBurstLoop (txPkts : List Mbuf) (notFull : Nat → Bool) :
    (left sent : Nat) → MyQueue → Except Fault (Nat × MyQueue)
  | 0, sent, q => .ok (sent, q)
  | left + 1, sent, q =>
      if notFull sent then do
        let q ← myPmdTxBurstBody txPkts sent q
        myPmdTxBurstLoop txPkts notFull left (sent + 1) q
      else .ok (sent, q)

/-- `my_pmd_tx_burst`: the number of packets sent. -/
def myPmdTxBurst (q : MyQueue) (txPkts : List Mbuf) (nbPkts : UInt16) (notFull : Nat → Bool) :
    Except Fault (Nat × MyQueue) :=
  myPmdTxBurstLoop txPkts notFull nbPkts.toNat 0 q

/-! ## What the functions do when they make no bad access -/

section

variable {ring ring' : RingPtr} {idx sent : Nat} {mbuf : Mbuf} {q q' : MyQueue} {txPkts : List Mbuf}
  {priv : MyPmdPrivate} {queueIdx nbDesc : UInt16} {granted : Bool}

theorem ringLoad_eq_ok : ringLoad ring idx = .ok mbuf ↔
    ∃ slots, ring = some slots ∧ slots[idx]? = some mbuf := by
  unfold ringLoad
  cases ring with
  | none => simp
  | some slots =>
      cases entry : slots[idx]? with
      | none => simp [entry]
      | some mbuf' => simp [entry]

theorem ringStore_eq_ok : ringStore ring idx mbuf = .ok ring' ↔
    ∃ slots, ring = some slots ∧ idx < slots.length ∧ ring' = some (slots.set idx mbuf) := by
  unfold ringStore
  cases ring with
  | none => simp
  | some slots =>
      by_cases bound : idx < slots.length
      · simp [bound, eq_comm]
      · simp [bound]

theorem pktsLoad_eq_ok : pktsLoad txPkts idx = .ok mbuf ↔ txPkts[idx]? = some mbuf := by
  unfold pktsLoad
  cases entry : txPkts[idx]? with
  | none => simp
  | some mbuf' => simp

theorem queueAt_eq_ok {n : Nat} {queueIdx : UInt16} {i : Fin n} :
    queueAt n queueIdx = .ok i ↔ queueIdx.toNat = i.val := by
  unfold queueAt
  constructor
  · intro found
    split at found
    · cases found
      rfl
    · cases found
  · intro same
    rw [dif_pos (same ▸ i.isLt)]
    exact congrArg Except.ok (Fin.ext same)

/-- What setting up a receive queue does: it returns `0`, also with a ring that was not granted. -/
theorem myPmdRxQueueSetup_eq_ok {r : Int × MyPmdPrivate} :
    myPmdRxQueueSetup priv queueIdx nbDesc granted = .ok r ↔
      ∃ i : Fin myPmdNbRxQueues, queueIdx.toNat = i.val ∧
        r = (0, { priv with rxQueues := Function.update priv.rxQueues i { priv.rxQueues i with
          rxRing := rteZmallocSocket nbDesc granted, rxHead := 0, rxTail := 0 } }) := by
  constructor
  · intro run
    obtain ⟨i, found, made⟩ := bind_eq_ok.mp run
    cases made
    exact ⟨i, queueAt_eq_ok.mp found, rfl⟩
  · intro made
    obtain ⟨i, found, rfl⟩ := made
    exact bind_eq_ok.mpr ⟨i, queueAt_eq_ok.mpr found, rfl⟩

/-- What setting up a transmit queue does: it returns `0`, also with a ring that was not granted. -/
theorem myPmdTxQueueSetup_eq_ok {r : Int × MyPmdPrivate} :
    myPmdTxQueueSetup priv queueIdx nbDesc granted = .ok r ↔
      ∃ i : Fin myPmdNbTxQueues, queueIdx.toNat = i.val ∧
        r = (0, { priv with txQueues := Function.update priv.txQueues i { priv.txQueues i with
          txRing := rteZmallocSocket nbDesc granted, txHead := 0, txTail := 0 } }) := by
  constructor
  · intro run
    obtain ⟨i, found, made⟩ := bind_eq_ok.mp run
    cases made
    exact ⟨i, queueAt_eq_ok.mp found, rfl⟩
  · intro made
    obtain ⟨i, found, rfl⟩ := made
    exact bind_eq_ok.mpr ⟨i, queueAt_eq_ok.mpr found, rfl⟩

/-- What one iteration of a receive burst does. -/
theorem myPmdRxBurstBody_eq_ok : myPmdRxBurstBody q = .ok (mbuf, q') ↔
    ∃ slots, q.rxRing = some slots ∧ slots[q.rxHead]? = some mbuf ∧
      q' = { q with rxHead := (q.rxHead + 1) % myPmdNbDesc } := by
  constructor
  · intro run
    obtain ⟨loaded, load, made⟩ := bind_eq_ok.mp run
    cases made
    obtain ⟨slots, live, entry⟩ := ringLoad_eq_ok.mp load
    exact ⟨slots, live, entry, rfl⟩
  · intro inside
    obtain ⟨slots, live, entry, rfl⟩ := inside
    exact bind_eq_ok.mpr ⟨mbuf, ringLoad_eq_ok.mpr ⟨slots, live, entry⟩, rfl⟩

/-- What one iteration of a transmit burst does. -/
theorem myPmdTxBurstBody_eq_ok : myPmdTxBurstBody txPkts sent q = .ok q' ↔
    ∃ mbuf slots, txPkts[sent]? = some mbuf ∧ q.txRing = some slots ∧ q.txTail < slots.length ∧
      q' = { q with
        txRing := some (slots.set q.txTail mbuf), txTail := (q.txTail + 1) % myPmdNbDesc } := by
  constructor
  · intro run
    obtain ⟨mbuf, load, run⟩ := bind_eq_ok.mp run
    obtain ⟨ring, store, made⟩ := bind_eq_ok.mp run
    cases made
    obtain ⟨slots, live, bound, rfl⟩ := ringStore_eq_ok.mp store
    exact ⟨mbuf, slots, pktsLoad_eq_ok.mp load, live, bound, rfl⟩
  · intro inside
    obtain ⟨mbuf, slots, entry, live, bound, rfl⟩ := inside
    exact bind_eq_ok.mpr ⟨mbuf, pktsLoad_eq_ok.mpr entry,
      bind_eq_ok.mpr ⟨_, ringStore_eq_ok.mpr ⟨slots, live, bound, rfl⟩, rfl⟩⟩

end

/-! ## What the hardware lets a burst move -/

/-- Of `left` evaluations of a condition, from the `k`-th on, how many hold before the first that
does not. -/
def leading (cond : Nat → Bool) : (left k : Nat) → Nat
  | 0, _ => 0
  | left + 1, k => if cond k then leading cond left (k + 1) + 1 else 0

/-- The packets the hardware lets a burst of `nbPkts` move. -/
def burstLen (cond : Nat → Bool) (nbPkts : UInt16) : Nat := leading cond nbPkts.toNat 0

end ScullDrivers.Pmd
