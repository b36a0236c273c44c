import ScullDrivers.Pmd.Bounds

/-!
# Polling a receive queue

An application polls a queue with one receive burst after the other.  Each burst asks for as many packets
as it likes and is answered as the hardware likes, but what the bursts do together depends only on how many
packets the hardware had for them (`rxBursts_eq`): they stop at the same bad access, or hand out the same
mbufs and leave the same queue.  Those are the entries of the ring from `rx_head` on, read round and round
at `MY_PMD_NB_DESC` (`rxBursts_stream`).  That `rx_head` is below `MY_PMD_NB_DESC` is an invariant of the
driver: setup stores `0` (`rxQueueSetup_head`), and bursts keep it (`rxBursts_head`).
-/

namespace ScullDrivers.Pmd

open Outcome

/-- A call of `my_pmd_rx_burst`: `nb_pkts`, and what the hardware answers. -/
abbrev RxPoll := UInt16 × (Nat → Bool)

/-- `my_pmd_rx_burst` again and again: all that the bursts handed out. -/
def rxBursts : List RxPoll → MyQueue → Except Fault (List Mbuf × MyQueue)
  | [], q => .ok ([], q)
  | (nbPkts, notEmpty) :: polls, q => do
      let (rxPkts, q) ← myPmdRxBurst q nbPkts notEmpty
      let (rest, q) ← rxBursts polls q
      return (rxPkts ++ rest, q)

/-- The packets the hardware has for the bursts. -/
def rxTotal : List RxPoll → Nat
  | [] => 0
  | (nbPkts, notEmpty) :: polls => burstLen notEmpty nbPkts + rxTotal polls

/-- The body of the loop of `my_pmd_rx_burst`, `n` times. -/
def rxReceive : (n : Nat) → MyQueue → Except Fault (List Mbuf × MyQueue)
  | 0, q => .ok ([], q)
  | n + 1, q => do
      let (mbuf, q) ← myPmdRxBurstBody q
      let (rest, q) ← rxReceive n q
      return (mbuf :: rest, q)

section

variable {q q' : MyQueue} {mbuf : Mbuf} {rxPkts out : List Mbuf} {polls polls' : List RxPoll}
  {m n left : Nat} {cond : Nat → Bool}

/-! ## Bursts are iterations -/

/-- Iterations in two parts. -/
theorem rxReceive_add : rxReceive (m + n) q = (do
    let (first, q) ← rxReceive m q
    let (rest, q) ← rxReceive n q
    return (first ++ rest, q)) := by
  induction m generalizing q with
  | zero =>
      rw [Nat.zero_add]
      show rxReceive n q = (rxReceive n q >>= _)
      cases rxReceive n q with
      | error fault => rfl
      | ok rest => rfl
  | succ m ih =>
      rw [Nat.succ_add, rxReceive, rxReceive]
      cases myPmdRxBurstBody q with
      | error fault => rfl
      | ok r =>
          obtain ⟨mbuf, q₁⟩ := r
          show (rxReceive (m + n) q₁ >>= _) = (rxReceive m q₁ >>= _) >>= _
          rw [ih]
          cases rxReceive m q₁ with
          | error fault => rfl
          | ok first =>
              obtain ⟨first, q₂⟩ := first
              show (rxReceive n q₂ >>= _) >>= _ = rxReceive n q₂ >>= _
              cases rxReceive n q₂ with
              | error fault => rfl
              | ok rest => rfl

/-- The loop is as many iterations as the hardware has packets. -/
theorem myPmdRxBurstLoop_eq_rxReceive : myPmdRxBurstLoop cond left rxPkts q = (do
    let (rest, q) ← rxReceive (leading cond left rxPkts.length) q
    return (rxPkts ++ rest, q)) := by
  induction left generalizing rxPkts q with
  | zero =>
      show _ = Except.ok (rxPkts ++ [], q)
      rw [List.append_nil]
      rfl
  | succ left ih =>
      unfold myPmdRxBurstLoop leading
      by_cases ready : cond rxPkts.length = true
      · rw [if_pos ready, if_pos ready, rxReceive]
        cases body : myPmdRxBurstBody q with
        | error fault => rfl
        | ok r =>
            obtain ⟨mbuf, q₁⟩ := r
            show myPmdRxBurstLoop cond left (rxPkts ++ [mbuf]) q₁ = _
            rw [ih, List.length_append, List.length_singleton]
            show _ = (rxReceive _ q₁ >>= _) >>= _
            cases rxReceive (leading cond left (rxPkts.length + 1)) q₁ with
            | error fault => rfl
            | ok rest => exact congrArg (fun out => Except.ok (out, rest.2)) (List.append_assoc ..)
      · rw [if_neg ready, if_neg ready]
        show _ = Except.ok (rxPkts ++ [], q)
        rw [List.append_nil]

theorem myPmdRxBurst_eq_rxReceive {nbPkts : UInt16} :
    myPmdRxBurst q nbPkts cond = rxReceive (burstLen cond nbPkts) q := by
  unfold myPmdRxBurst burstLen
  rw [myPmdRxBurstLoop_eq_rxReceive]
  cases rxReceive _ q with
  | error fault => rfl
  | ok r => rfl

/-- **Bursts do not depend on how they are cut**: all that the bursts do is what as many iterations do as
there were packets. -/
theorem rxBursts_eq : rxBursts polls q = rxReceive (rxTotal polls) q := by
  induction polls generalizing q with
  | nil => rfl
  | cons poll polls ih =>
      rw [rxTotal, rxReceive_add, ← myPmdRxBurst_eq_rxReceive]
      unfold rxBursts
      cases myPmdRxBurst q poll.1 poll.2 with
      | error fault => rfl
      | ok r =>
          show (rxBursts polls r.2 >>= _) = rxReceive _ r.2 >>= _
          rw [ih]

/-! ## What iterations hand out -/

/-- What iterations leave behind: they stayed in the ring and handed out what is there, and only the head
moved. -/
theorem rxReceive_ok (head : q.rxHead = m % myPmdNbDesc) (run : rxReceive n q = .ok (out, q')) :
    InRing q.rxRing m n ∧ out.length = n ∧
      (∀ k < n, q.rxRing.bind (fun slots => slots[(m + k) % myPmdNbDesc]?) = out[k]?) ∧
      q' = { q with rxHead := (m + n) % myPmdNbDesc } := by
  induction n generalizing m q out with
  | zero =>
      cases run
      exact ⟨inRing_zero, rfl, fun k lt => absurd lt (Nat.not_lt_zero k), by rw [Nat.add_zero, ← head]⟩
  | succ n ih =>
      obtain ⟨⟨mbuf, q₁⟩, body, run⟩ := bind_eq_ok.mp run
      obtain ⟨⟨rest, q₂⟩, run, made⟩ := bind_eq_ok.mp run
      cases made
      obtain ⟨slots, ring, entry, rfl⟩ := myPmdRxBurstBody_eq_ok.mp body
      obtain ⟨bound, -⟩ := List.getElem?_eq_some_iff.mp entry
      have next : (q.rxHead + 1) % myPmdNbDesc = (m + 1) % myPmdNbDesc := by
        rw [head, Nat.mod_add_mod]
      have position : ∀ k, m + 1 + k = m + (k + 1) := fun k => by omega
      obtain ⟨inside, length, handed, rfl⟩ := ih next run
      refine ⟨inRing_succ.mpr ⟨⟨slots, ring, head ▸ bound⟩, inside⟩, congrArg (· + 1) length, ?_, ?_⟩
      · intro k lt
        cases k with
        | zero =>
            rw [ring, Option.bind_some, Nat.add_zero, ← head, entry]
            rfl
        | succ k =>
            have later := handed k (Nat.lt_of_succ_lt_succ lt)
            rw [position] at later
            exact later
      · rw [position]

/-- Iterations that stay in the ring make no bad access. -/
theorem exists_rxReceive (head : q.rxHead = m % myPmdNbDesc) (inside : InRing q.rxRing m n) :
    ∃ r, rxReceive n q = .ok r := by
  induction n generalizing m q with
  | zero => exact ⟨_, rfl⟩
  | succ n ih =>
      obtain ⟨⟨slots, ring, bound⟩, inside⟩ := inRing_succ.mp inside
      have entry : slots[q.rxHead]? = some slots[m % myPmdNbDesc] := by
        rw [head]
        exact List.getElem?_eq_getElem bound
      have next : (q.rxHead + 1) % myPmdNbDesc = (m + 1) % myPmdNbDesc := by
        rw [head, Nat.mod_add_mod]
      obtain ⟨r, run⟩ := ih (q := { q with rxHead := (q.rxHead + 1) % myPmdNbDesc }) next inside
      have body := myPmdRxBurstBody_eq_ok.mpr ⟨slots, ring, entry, rfl⟩
      exact ⟨_, bind_eq_ok.mpr ⟨_, body, bind_eq_ok.mpr ⟨r, run, rfl⟩⟩⟩

end

/-! ## The head of the ring -/

/-- Setting up a queue puts its head inside `MY_PMD_NB_DESC`, and leaves those of the other queues. -/
theorem rxQueueSetup_head {priv priv' : MyPmdPrivate} {queueIdx nbDesc : UInt16} {granted : Bool} {r : Int}
    (heads : ∀ i, (priv.rxQueues i).rxHead < myPmdNbDesc)
    (run : myPmdRxQueueSetup priv queueIdx nbDesc granted = .ok (r, priv')) (i : Fin myPmdNbRxQueues) :
    (priv'.rxQueues i).rxHead < myPmdNbDesc := by
  obtain ⟨set, -, made⟩ := myPmdRxQueueSetup_eq_ok.mp run
  cases made
  rcases eq_or_ne i set with rfl | other
  · simp only [Function.update_self]
    decide
  · simp only [Function.update_of_ne other]
    exact heads i

/-- Bursts keep the head inside. -/
theorem rxBursts_head {q q' : MyQueue} {polls : List RxPoll} {out : List Mbuf}
    (head : q.rxHead < myPmdNbDesc) (run : rxBursts polls q = .ok (out, q')) :
    q'.rxHead < myPmdNbDesc := by
  rw [rxBursts_eq] at run
  obtain ⟨-, -, -, moved⟩ := rxReceive_ok (Nat.mod_eq_of_lt head).symm run
  rw [moved]
  exact Nat.mod_lt _ (by decide)

/-- **Receive bursts as one stream.**  Whatever the bursts ask for and the hardware answers, on a ring of
any length and with `rx_head` below `MY_PMD_NB_DESC`, as the driver keeps it, a row of receive bursts makes no bad access exactly when the ring has all the slots of as many
positions from `rx_head` on, taken round at `MY_PMD_NB_DESC`, as there were packets.  Then the mbufs handed
out, burst after burst, are what is in those slots, and of the queue nothing changes but `rx_head`.  Two
rows for which the hardware has as many packets do the same. -/
theorem rxBursts_stream (q : MyQueue) (polls : List RxPoll) (head : q.rxHead < myPmdNbDesc) :
    ((∃ r, rxBursts polls q = .ok r) ↔ InRing q.rxRing q.rxHead (rxTotal polls)) ∧
      (∀ out q', rxBursts polls q = .ok (out, q') →
        out.length = rxTotal polls ∧
        (∀ k < rxTotal polls,
          q.rxRing.bind (fun slots => slots[(q.rxHead + k) % myPmdNbDesc]?) = out[k]?) ∧
        q' = { q with rxHead := (q.rxHead + rxTotal polls) % myPmdNbDesc }) ∧
      ∀ polls', rxTotal polls' = rxTotal polls → rxBursts polls' q = rxBursts polls q := by
  have start : q.rxHead = q.rxHead % myPmdNbDesc := (Nat.mod_eq_of_lt head).symm
  refine ⟨⟨fun ran => ?_, fun inside => ?_⟩, fun out q' run => ?_, fun polls' same => ?_⟩
  · obtain ⟨⟨out, q'⟩, run⟩ := ran
    rw [rxBursts_eq] at run
    exact (rxReceive_ok start run).1
  · rw [rxBursts_eq]
    exact exists_rxReceive start inside
  · rw [rxBursts_eq] at run
    exact (rxReceive_ok start run).2
  · rw [rxBursts_eq, rxBursts_eq, same]

/-- Three packets from a ring of three slots, in a burst that asks for more and one of two, and in one
burst; a fourth one is not there. -/
theorem rxBursts_stream_three : ∃ q',
    rxBursts [(5, (· < 1)), (2, fun _ => true)] { rxRing := some [9, 8, 7] } = .ok ([9, 8, 7], q') ∧
      rxBursts [(3, fun _ => true)] { rxRing := some [9, 8, 7] } = .ok ([9, 8, 7], q') ∧
      ¬ ∃ r, rxBursts [(2, fun _ => true), (2, fun _ => true)] { rxRing := some [9, 8, 7] } = .ok r := by
  obtain ⟨-, -, same⟩ := rxBursts_stream { rxRing := some [9, 8, 7] }
    [(5, (· < 1)), (2, fun _ => true)] (Nat.succ_pos _)
  obtain ⟨inside, -, -⟩ := rxBursts_stream { rxRing := some [9, 8, 7] }
    [(2, fun _ => true), (2, fun _ => true)] (Nat.succ_pos _)
  have burst : rxBursts [(5, (· < 1)), (2, fun _ => true)] { rxRing := some [9, 8, 7] } =
      .ok ([9, 8, 7], _) := rfl
  refine ⟨_, burst, (same [(3, fun _ => true)] rfl).trans burst, fun ran => ?_⟩
  obtain ⟨slots, ring, bound⟩ := inside.mp ran 3 (by decide)
  cases ring
  exact absurd bound (by decide)

end ScullDrivers.Pmd
