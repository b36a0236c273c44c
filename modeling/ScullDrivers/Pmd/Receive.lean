import ScullDrivers.Interaction.Run
import ScullDrivers.Pmd.Driver

/-!
# Receive ownership in the poll-mode driver

A receive queue set up with `MY_PMD_NB_DESC` descriptors and the bursts the application makes on it one
iteration at a time; whether the hardware has a packet is open at every evaluation.  The log records
what an application sees of the ring: an mbuf handed out of a slot, and a new buffer installed in one.

A burst reads the ring and never stores to it, so the hand-outs go round what setup left there
(`RxInv`): all `NULL`, and the same again in every lap.
-/

namespace ScullDrivers.Pmd

open Interaction Outcome

/-! ## Bursts cut short -/

section Cut

variable {rxPkts out : List Mbuf} {left : Nat} {mbuf : Mbuf} {q q' q'' : MyQueue}

/-- One packet more: the loop run up to a packet, and then its body. -/
theorem myPmdRxBurstLoop_cut
    (run : myPmdRxBurstLoop (· < out.length) left rxPkts q = .ok (out, q'))
    (le : rxPkts.length ≤ out.length) (lt : out.length < rxPkts.length + left)
    (body : myPmdRxBurstBody q' = .ok (mbuf, q'')) :
    myPmdRxBurstLoop (· < out.length + 1) left rxPkts q = .ok (out ++ [mbuf], q'') := by
  induction left generalizing rxPkts q with
  | zero => exact absurd lt (Nat.not_lt_of_le le)
  | succ left ih =>
      unfold myPmdRxBurstLoop at run ⊢
      rcases Nat.lt_or_eq_of_le le with below | same
      · rw [if_pos (decide_eq_true below)] at run
        rw [if_pos (decide_eq_true (Nat.lt_succ_of_lt below))]
        obtain ⟨⟨first, q₁⟩, load, rest⟩ := bind_eq_ok.mp run
        have length : (rxPkts ++ [first]).length = rxPkts.length + 1 := by
          rw [List.length_append, List.length_singleton]
        exact bind_eq_ok.mpr ⟨_, load, ih rest (by omega) (by omega)⟩
      · rw [if_neg (by simp [same])] at run
        cases run
        rw [if_pos (decide_eq_true (same ▸ Nat.lt_succ_self _))]
        refine bind_eq_ok.mpr ⟨(mbuf, q''), body, ?_⟩
        -- the condition fails before the next iteration, if there is one
        cases left with
        | zero => rfl
        | succ left =>
            unfold myPmdRxBurstLoop
            exact if_neg (by simp)

/-- A burst nothing was received by yet. -/
theorem myPmdRxBurst_zero (nbPkts : UInt16) :
    myPmdRxBurst q nbPkts (· < 0) = .ok ([], q) := by
  unfold myPmdRxBurst
  cases nbPkts.toNat with
  | zero => rfl
  | succ left => rfl

end Cut

/-! ## The system -/

/-- A `my_pmd_rx_burst` call in progress, with what it wrote to `rx_pkts` and the queue it was entered
on. -/
structure RxBurst where
  nbPkts : UInt16
  rxPkts : List Mbuf
  entry : MyQueue

inductive RxEvent
  | handOut (slot : Nat) (mbuf : Mbuf)
  | install (slot : Nat) (mbuf : Mbuf)

structure RxState where
  queue : MyQueue
  call : Option RxBurst := none
  log : List RxEvent := []

inductive RxLabel
  | call
  | receive
  | leave
  deriving DecidableEq

/-- One step of the application or of the burst in progress.  The burst goes on while the hardware
has a packet and `nb_pkts` are not reached, and may find the hardware ring empty at any time. -/
inductive RxStep : RxState → RxLabel → RxState → Prop
  | call {s : RxState} {nbPkts : UInt16} :
    s.call = none → RxStep s .call { s with call := some ⟨nbPkts, [], s.queue⟩ }
  | receive {s : RxState} {c : RxBurst} {mbuf : Mbuf} {q : MyQueue} :
    s.call = some c → c.rxPkts.length < c.nbPkts.toNat →
    myPmdRxBurstBody s.queue = .ok (mbuf, q) →
    RxStep s .receive
      { queue := q, call := some { c with rxPkts := c.rxPkts ++ [mbuf] },
        log := s.log ++ [.handOut s.queue.rxHead mbuf] }
  | leave {s : RxState} {c : RxBurst} :
    s.call = some c → RxStep s .leave { s with call := none }

/-- A queue at its first descriptor, with `slots` in its ring, that no burst was made on yet. -/
structure RxStart (slots : List Mbuf) (s : RxState) : Prop where
  ring : s.queue.rxRing = some slots
  head : s.queue.rxHead = 0
  call : s.call = none
  log : s.log = []

/-- A queue that was just set up with 1024 descriptors, on any port. -/
structure RxFresh (s : RxState) : Prop where
  setup : ∃ (port port' : MyPmdPrivate) (i : Fin myPmdNbRxQueues),
    myPmdRxQueueSetup port (UInt16.ofNat i) 1024 true = .ok (0, port') ∧ s.queue = port'.rxQueues i
  call : s.call = none
  log : s.log = []

/-- Nothing handed out is `NULL`, and nothing is handed out again unless a new buffer was installed in
that slot in between. -/
structure RxClean (s : RxState) : Prop where
  nonNull : ∀ slot mbuf, RxEvent.handOut slot mbuf ∈ s.log → mbuf ≠ 0
  once : ∀ j k slot slot' mbuf, j < k → s.log[j]? = some (RxEvent.handOut slot mbuf) →
    s.log[k]? = some (RxEvent.handOut slot' mbuf) →
    ∃ (l : Nat) (mbuf' : Mbuf), j < l ∧ l < k ∧ s.log[l]? = some (RxEvent.install slot' mbuf')

/-! ## The invariant -/

/-- The hand-outs went round the ring in order, and the ring is as it was; a burst in progress is
`my_pmd_rx_burst` so far. -/
structure RxInv (slots : List Mbuf) (s : RxState) : Prop where
  ring : s.queue.rxRing = some slots
  head : s.queue.rxHead = s.log.length % myPmdNbDesc
  log : ∀ k < s.log.length, ∃ mbuf, slots[k % myPmdNbDesc]? = some mbuf ∧
    s.log[k]? = some (RxEvent.handOut (k % myPmdNbDesc) mbuf)
  burst : ∀ c, s.call = some c → c.rxPkts.length ≤ c.nbPkts.toNat ∧
    myPmdRxBurst c.entry c.nbPkts (· < c.rxPkts.length) = .ok (c.rxPkts, s.queue)

section

variable {slots : List Mbuf} {s₀ s s' : RxState} {l : RxLabel} {past : List (RxState × RxLabel)}

theorem RxStart.inv (start : RxStart slots s) : RxInv slots s := by
  refine ⟨start.ring, ?_, fun k lt => ?_, fun c call => ?_⟩
  · rw [start.head, start.log]
    rfl
  · rw [start.log] at lt
    exact absurd lt (Nat.not_lt_zero k)
  · rw [start.call] at call
    cases call

/-- Setup fills the ring with `NULL`. -/
theorem RxFresh.start (fresh : RxFresh s) : RxStart (List.replicate myPmdNbDesc 0) s := by
  obtain ⟨port, port', i, setup, queue⟩ := fresh.setup
  obtain ⟨j, index, made⟩ := myPmdRxQueueSetup_eq_ok.mp setup
  cases made
  rw [UInt16.toNat_ofNat_of_lt' (i.isLt.trans (by decide))] at index
  obtain rfl : i = j := Fin.ext index
  simp only [Function.update_self] at queue
  exact ⟨congrArg MyQueue.rxRing queue, congrArg MyQueue.rxHead queue, fresh.call, fresh.log⟩

/-- Each step keeps the invariant. -/
theorem RxInv.step (inv : RxInv slots s) (step : RxStep s l s') : RxInv slots s' := by
  cases step with
  | call idle =>
      refine ⟨inv.ring, inv.head, inv.log, fun c call => ?_⟩
      cases call
      exact ⟨Nat.zero_le _, myPmdRxBurst_zero _⟩
  | @receive c mbuf q call more body =>
      obtain ⟨slots', live, entry, made⟩ := myPmdRxBurstBody_eq_ok.mp body
      cases inv.ring.symm.trans live
      refine ⟨?_, ?_, fun k lt => ?_, fun c' call' => ?_⟩
      · rw [made]
        exact inv.ring
      · rw [made, inv.head, List.length_append, List.length_singleton, Nat.mod_add_mod]
      · rw [List.length_append, List.length_singleton] at lt
        rcases Nat.lt_or_eq_of_le (Nat.le_of_lt_succ lt) with below | rfl
        · obtain ⟨m, slot, handed⟩ := inv.log k below
          exact ⟨m, slot, by rw [List.getElem?_append_left below, handed]⟩
        · rw [inv.head] at entry
          exact ⟨mbuf, entry, by rw [List.getElem?_concat_length, inv.head]⟩
      · cases call'
        obtain ⟨-, burst⟩ := inv.burst c call
        rw [List.length_append, List.length_singleton]
        exact ⟨more, myPmdRxBurstLoop_cut burst (Nat.zero_le _) (by rwa [List.length_nil,
          Nat.zero_add]) body⟩
  | leave call =>
      refine ⟨inv.ring, inv.head, inv.log, fun c call' => ?_⟩
      cases call'

theorem RxInv.run (run : Run RxStep s₀ past s) (start : RxStart slots s₀) :
    Always (RxInv slots) past s := by
  have unconditional : AllSteps (fun _ _ => True) past := fun _ _ => trivial
  exact run.always start.inv (fun step _ inv => inv.step step) unconditional

/-- A burst that returns did what `my_pmd_rx_burst` does. -/
theorem RxInv.burst_of_leave {c : RxBurst} (inv : RxInv slots s) (call : s.call = some c) :
    myPmdRxBurst c.entry c.nbPkts (· < c.rxPkts.length) = .ok (c.rxPkts, s.queue) :=
  (inv.burst c call).2

/-- Where `nb_pkts` are not reached and the hardware has a packet, the burst hands one out: its
accesses stay inside the ring. -/
theorem RxInv.exists_receive {c : RxBurst} (inv : RxInv slots s) (call : s.call = some c)
    (length : slots.length = myPmdNbDesc) (more : c.rxPkts.length < c.nbPkts.toNat) :
    ∃ s', RxStep s .receive s' := by
  have bound : s.queue.rxHead < slots.length := by
    rw [inv.head, length]
    exact Nat.mod_lt _ (by decide)
  exact ⟨_, .receive call more (myPmdRxBurstBody_eq_ok.mpr
    ⟨slots, inv.ring, List.getElem?_eq_getElem bound, rfl⟩)⟩

/-! ## Ownership -/

/-- From a ring of `NULL`s the log is clean only while it is empty. -/
theorem RxInv.clean_iff (inv : RxInv (List.replicate myPmdNbDesc 0) s) :
    RxClean s ↔ s.log = [] := by
  constructor
  · intro clean
    by_contra some
    have pos : 0 < s.log.length := List.length_pos_of_ne_nil some
    obtain ⟨mbuf, slot, handed⟩ := inv.log 0 pos
    have null := List.eq_of_mem_replicate (List.mem_of_getElem? slot)
    exact clean.nonNull _ mbuf (List.mem_of_getElem? handed) null
  · intro none
    refine ⟨fun slot mbuf mem => ?_, fun j k slot slot' mbuf lt handed => ?_⟩
    · rw [none] at mem
      exact absurd mem List.not_mem_nil
    · rw [none] at handed
      cases handed

/-- The burst is handed no packet by the hardware. -/
def NoPacket (_ : RxState) (l : RxLabel) : Prop := l ≠ .receive

/-- **Receive ownership.**  In a run from a fresh queue everything handed out is a non-`NULL` mbuf, and
nothing is handed out twice without a refill, exactly when the hardware never has a packet for a
burst. -/
theorem rxRing_owned_iff (run : Run RxStep s₀ past s) (fresh : RxFresh s₀) :
    Always RxClean past s ↔ AllSteps NoPacket past := by
  refine run.always_iff_allSteps
    (I := fun s => RxInv (List.replicate myPmdNbDesc 0) s ∧ s.log = [])
    ⟨fresh.start.inv, fresh.log⟩ (fun inv => inv.1.clean_iff.mpr inv.2) ?_ ?_
  · intro s l s' step quiet inv
    refine ⟨inv.1.step step, ?_⟩
    cases step with
    | receive => exact absurd rfl quiet
    | call | leave => exact inv.2
  · intro s l s' step inv clean received
    have empty := (inv.1.step step).clean_iff.mp clean
    subst received
    cases step with
    | receive call more body => exact absurd empty (List.concat_ne_nil _ _)

end

/-- A queue that was just set up, in a port with nothing else in it. -/
def freshRx : RxState := { queue := { rxRing := some (List.replicate myPmdNbDesc 0) } }

theorem freshRx_fresh : RxFresh freshRx := by
  refine ⟨⟨{}, _, 0, myPmdRxQueueSetup_eq_ok.mpr ⟨0, rfl, rfl⟩, ?_⟩, rfl, rfl⟩
  simp only [Function.update_self]
  rfl

theorem freshRx_call (nbPkts : UInt16) :
    RxStep freshRx .call { freshRx with call := some ⟨nbPkts, [], freshRx.queue⟩ } :=
  .call rfl

/-- An application that polls an idle port is handed nothing wrong. -/
theorem rxRing_owned_idle : ∃ past s, Run RxStep freshRx past s ∧ past.length = 2 ∧
    Always RxClean past s := by
  have polled := (Run.nil.snoc (freshRx_call 32)).snoc (RxStep.leave rfl)
  refine ⟨_, _, polled, rfl, (rxRing_owned_iff polled freshRx_fresh).mpr ?_⟩
  refine allSteps_snoc.mpr ⟨allSteps_snoc.mpr ⟨allSteps_nil, ?_⟩, ?_⟩
  · exact fun same => nomatch same
  · exact fun same => nomatch same

/-- The first packet of a fresh queue is handed out as `NULL`. -/
theorem rxRing_hands_out_null :
    ¬ ∀ (s₀ s : RxState) (past : List (RxState × RxLabel)), RxFresh s₀ → Run RxStep s₀ past s →
      Always RxClean past s := by
  intro claim
  have entered := Run.nil.snoc (freshRx_call 1)
  have inv := (RxInv.run entered freshRx_fresh.start).2
  obtain ⟨s, received⟩ := inv.exists_receive rfl List.length_replicate Nat.one_pos
  have clean := (claim _ s _ freshRx_fresh (entered.snoc received)).2
  have empty := (inv.step received).clean_iff.mp clean
  cases received with
  | receive call more body => exact absurd empty (List.concat_ne_nil _ _)

end ScullDrivers.Pmd
