import ScullDrivers.Pmd.Driver
import ScullDrivers.RingBuffer

/-!
# Transmitting a list in bursts

`HW ring not full` read as a number of free descriptors that drops by one for each accepted mbuf.
Under it a transmit burst is a row of stores (`myPmdTxBurst_eq_ok`), and stores in a row can be cut
anywhere: however a packet list is cut into bursts, they accept what one burst of the whole list
accepts and leave the queue as it does.
-/

namespace ScullDrivers.Pmd

open Outcome

/-- `my_pmd_tx_burst` on `ns` packets at a time of a packet list, each burst from the first packet
not yet accepted on, with `free` free descriptors at the start: the number of packets accepted. -/
def txBursts (txPkts : List Mbuf) : (ns : List UInt16) → (free : Nat) → MyQueue →
    Except Fault (Nat × MyQueue)
  | [], _, q => .ok (0, q)
  | n :: ns, free, q => do
      let (sent, q) ← myPmdTxBurst q txPkts n (· < free)
      let (rest, q) ← txBursts (txPkts.drop sent) ns (free - sent) q
      return (sent + rest, q)

/-- The packets that bursts of `ns` packets are offered. -/
def offered (ns : List UInt16) : Nat := (ns.map UInt16.toNat).sum

/-- Bursts of `ns` packets cut a list of `nbPkts` packets, when `free` descriptors are free: the whole
list is offered, and a burst, which starts at the first packet not yet accepted, does not go past its
end. -/
def Cuts (nbPkts free : Nat) (ns : List UInt16) : Prop :=
  nbPkts ≤ offered ns ∧
    ∀ before n after, ns = before ++ n :: after → min (offered before) free + n.toNat ≤ nbPkts

/-- The queue with `mbufs` stored in a row. -/
def MyQueue.storeTx (q : MyQueue) (slots mbufs : List Mbuf) : MyQueue :=
  { q with
    txRing := some (Ring.storeAll slots q.txTail mbufs)
    txTail := (q.txTail + mbufs.length) % myPmdNbDesc }

section

variable {q : MyQueue} {slots txPkts mbufs mbufs' : List Mbuf} {mbuf : Mbuf} {nbPkts : UInt16}
  {ns : List UInt16} {free left sent : Nat}

/-! ## Rows of stores in a queue -/

theorem length_ring_storeTx (size : slots.length = myPmdNbDesc) :
    (Ring.storeAll slots q.txTail mbufs).length = myPmdNbDesc := by
  rw [Ring.length_storeAll, size]

theorem MyQueue.storeTx_nil (ring : q.txRing = some slots) (tail : q.txTail < myPmdNbDesc) :
    q.storeTx slots [] = q := by
  unfold MyQueue.storeTx
  rw [Ring.storeAll, List.length_nil, Nat.add_zero, Nat.mod_eq_of_lt tail, ← ring]

/-- A row stored after a row. -/
theorem MyQueue.storeTx_append (size : slots.length = myPmdNbDesc) :
    q.storeTx slots (mbufs ++ mbufs') =
      (q.storeTx slots mbufs).storeTx (Ring.storeAll slots q.txTail mbufs) mbufs' := by
  have lap : (Ring.storeAll slots q.txTail mbufs).length = myPmdNbDesc := length_ring_storeTx size
  have ring := Ring.storeAll_mod (Ring.storeAll slots q.txTail mbufs) (q.txTail + mbufs.length) mbufs'
  rw [lap] at ring
  unfold MyQueue.storeTx
  rw [ring, ← Ring.storeAll_append, List.length_append, Nat.mod_add_mod, Nat.add_assoc]

/-- One iteration of the loop is a row of one. -/
theorem myPmdTxBurstBody_storeTx (ring : q.txRing = some slots) (size : slots.length = myPmdNbDesc)
    (tail : q.txTail < myPmdNbDesc) (entry : txPkts[sent]? = some mbuf) :
    myPmdTxBurstBody txPkts sent q = .ok (q.storeTx slots [mbuf]) := by
  refine myPmdTxBurstBody_eq_ok.mpr ⟨mbuf, slots, entry, ring, size ▸ tail, ?_⟩
  unfold MyQueue.storeTx
  rw [Ring.storeAll, Ring.storeAll, size, Nat.mod_eq_of_lt tail, List.length_singleton]

theorem MyQueue.storeTx_tail_lt : (q.storeTx slots mbufs).txTail < myPmdNbDesc :=
  Nat.mod_lt _ (Nat.succ_pos _)

/-! ## One burst -/

/-- The loop of a burst stores what is left of its packets, or as many as descriptors are left. -/
theorem myPmdTxBurstLoop_eq_ok (ring : q.txRing = some slots) (size : slots.length = myPmdNbDesc)
    (tail : q.txTail < myPmdNbDesc) (long : sent + left ≤ txPkts.length) :
    myPmdTxBurstLoop txPkts (· < free) left sent q =
      .ok (sent + min left (free - sent),
        q.storeTx slots ((txPkts.drop sent).take (min left (free - sent)))) := by
  induction left generalizing sent q slots with
  | zero =>
      rw [Nat.zero_min, List.take_zero, MyQueue.storeTx_nil ring tail]
      rfl
  | succ left ih =>
      unfold myPmdTxBurstLoop
      by_cases room : sent < free
      · have lt : sent < txPkts.length := by omega
        have entry : txPkts[sent]? = some txPkts[sent] := List.getElem?_eq_getElem lt
        have body := myPmdTxBurstBody_storeTx ring size tail entry
        have long' : sent + 1 + left ≤ txPkts.length := by omega
        have rest := ih (q := q.storeTx slots [txPkts[sent]]) rfl (length_ring_storeTx size)
          MyQueue.storeTx_tail_lt long'
        have count : min (left + 1) (free - sent) = min left (free - (sent + 1)) + 1 := by omega
        rw [if_pos (decide_eq_true room), body]
        refine rest.trans ?_
        rw [← MyQueue.storeTx_append size, count, List.drop_eq_getElem_cons lt, List.take_succ_cons,
          List.singleton_append, show ∀ k, sent + 1 + k = sent + (k + 1) by omega]
      · have none : free - sent = 0 := by omega
        rw [if_neg (by simpa using room), none, Nat.min_zero, List.take_zero,
          MyQueue.storeTx_nil ring tail]
        rfl

/-- **One burst**: it accepts the first packets of the list, as many as descriptors are free, and
stores them in a row. -/
theorem myPmdTxBurst_eq_ok (ring : q.txRing = some slots) (size : slots.length = myPmdNbDesc)
    (tail : q.txTail < myPmdNbDesc) (long : nbPkts.toNat ≤ txPkts.length) :
    myPmdTxBurst q txPkts nbPkts (· < free) =
      .ok (min nbPkts.toNat free, q.storeTx slots (txPkts.take (min nbPkts.toNat free))) := by
  have long' : 0 + nbPkts.toNat ≤ txPkts.length := by omega
  unfold myPmdTxBurst
  rw [myPmdTxBurstLoop_eq_ok ring size tail long', Nat.zero_add, Nat.sub_zero, List.drop_zero]

/-! ## A list in bursts -/

/-- Sizes that add up to the length of the list cut it. -/
theorem cuts_of_offered {nb : Nat} (sum : offered ns = nb) : Cuts nb free ns := by
  refine ⟨sum.ge, fun before n after split => ?_⟩
  rw [← sum, split]
  simp only [offered, List.map_append, List.map_cons, List.sum_append, List.sum_cons]
  omega

/-- **Bursts in a row**: they accept what they are offered, or as many packets as descriptors are
free, and store them in a row. -/
theorem txBursts_eq_ok (ring : q.txRing = some slots) (size : slots.length = myPmdNbDesc)
    (tail : q.txTail < myPmdNbDesc)
    (inside : ∀ before n after, ns = before ++ n :: after →
      min (offered before) free + n.toNat ≤ txPkts.length) :
    txBursts txPkts ns free q =
      .ok (min (offered ns) free, q.storeTx slots (txPkts.take (min (offered ns) free))) := by
  induction ns generalizing txPkts free q slots with
  | nil =>
      have none : min (offered []) free = 0 := Nat.zero_min free
      rw [none, List.take_zero, MyQueue.storeTx_nil ring tail]
      rfl
  | cons n ns ih =>
      have sum : ∀ ns, offered (n :: ns) = n.toNat + offered ns := fun ns => List.sum_cons
      have first : n.toNat ≤ txPkts.length := by
        have le := inside [] n ns rfl
        omega
      have burst : myPmdTxBurst q txPkts n (· < free) = _ := myPmdTxBurst_eq_ok ring size tail first
      have later : ∀ before m after, ns = before ++ m :: after →
          min (offered before) (free - min n.toNat free) + m.toNat ≤
            (txPkts.drop (min n.toNat free)).length := by
        intro before m after split
        have le := inside (n :: before) m after (by rw [split, List.cons_append])
        rw [sum] at le
        rw [List.length_drop]
        omega
      have rest := ih (q := q.storeTx slots (txPkts.take (min n.toNat free))) rfl
        (length_ring_storeTx size) MyQueue.storeTx_tail_lt later
      have count : min (offered (n :: ns)) free =
          min n.toNat free + min (offered ns) (free - min n.toNat free) := by
        rw [sum]
        omega
      unfold txBursts
      refine bind_eq_ok.mpr ⟨_, burst, bind_eq_ok.mpr ⟨_, rest, ?_⟩⟩
      change Except.ok (_ + _, _) = _
      rw [← MyQueue.storeTx_append size, ← List.take_add, ← count]

/-- A cut list is accepted up to its end, or until no descriptor is free. -/
theorem Cuts.accepted {nb : Nat} (cut : Cuts nb free ns) : min (offered ns) free = min nb free := by
  obtain ⟨whole, inside⟩ := cut
  rcases List.eq_nil_or_concat ns with rfl | ⟨before, n, rfl⟩
  · have none : offered [] = 0 := rfl
    omega
  · have last := inside before n [] List.concat_eq_append
    have sum : offered (before.concat n) = offered before + n.toNat := by
      simp [offered]
    omega

end

/-- **Transmit bursts do not depend on how the packets are cut.**  With `free` free descriptors one
burst of `nbPkts` packets accepts the first of them, as many as descriptors are free, the `k`-th into
slot `txTail + k` of the ring, and touches no other slot and no other field but the tail.  Bursts that
cut the packets accept as many and leave the same queue. -/
theorem myPmdTxBurst_stream (q : MyQueue) (slots txPkts : List Mbuf) (nbPkts : UInt16) (free : Nat)
    (ring : q.txRing = some slots) (size : slots.length = myPmdNbDesc)
    (tail : q.txTail < myPmdNbDesc) (few : free ≤ myPmdNbDesc)
    (long : nbPkts.toNat ≤ txPkts.length) :
    ∃ stored q', myPmdTxBurst q txPkts nbPkts (· < free) = .ok (min nbPkts.toNat free, q') ∧
      q' = { q with
        txRing := some stored, txTail := (q.txTail + min nbPkts.toNat free) % myPmdNbDesc } ∧
      stored.length = myPmdNbDesc ∧
      (∀ k < min nbPkts.toNat free, stored[(q.txTail + k) % myPmdNbDesc]? = txPkts[k]?) ∧
      (∀ i, (∀ k < min nbPkts.toNat free, i ≠ (q.txTail + k) % myPmdNbDesc) →
        stored[i]? = slots[i]?) ∧
      ∀ ns, Cuts nbPkts.toNat free ns →
        txBursts txPkts ns free q = .ok (min nbPkts.toNat free, q') := by
  have length : (txPkts.take (min nbPkts.toNat free)).length = min nbPkts.toNat free := by
    rw [List.length_take]
    omega
  refine ⟨Ring.storeAll slots q.txTail (txPkts.take (min nbPkts.toNat free)), _,
    myPmdTxBurst_eq_ok ring size tail long, ?_, length_ring_storeTx size, ?_, ?_, ?_⟩
  · rw [MyQueue.storeTx, length]
  · intro k lt
    rw [← size, Ring.getElem?_storeAll (by omega) (by omega), List.getElem?_take_of_lt lt]
  · intro i apart
    refine Ring.getElem?_storeAll_of_ne fun k lt => ?_
    rw [length] at lt
    rw [size]
    exact apart k lt
  · intro ns cut
    rw [← cut.accepted]
    refine txBursts_eq_ok ring size tail fun before n after split => ?_
    exact (cut.2 before n after split).trans long

/-- A burst of three packets over the end of the ring, with two free descriptors, and the same
packets in bursts of one, none and two. -/
theorem myPmdTxBurst_stream_wrap : ∃ q',
    myPmdTxBurst { txRing := some (List.replicate 1024 5), txTail := 1023 } [7, 8, 9] 3 (· < 2) =
      .ok (2, q') ∧
    q'.txTail = 1 ∧ (q'.txRing.bind fun stored => stored[0]?) = some 8 ∧
    txBursts [7, 8, 9] [1, 0, 2] 2 { txRing := some (List.replicate 1024 5), txTail := 1023 } =
      .ok (2, q') := by
  obtain ⟨stored, q', burst, made, -, slot, -, cut⟩ :=
    myPmdTxBurst_stream { txRing := some (List.replicate 1024 5), txTail := 1023 }
      (List.replicate 1024 5) [7, 8, 9] 3 2 rfl List.length_replicate (by decide) (by decide)
      (by decide)
  subst made
  exact ⟨_, burst, rfl, slot 1 (by decide), cut [1, 0, 2] (cuts_of_offered rfl)⟩

end ScullDrivers.Pmd
