import ScullDrivers.Interaction.Protocol
import ScullDrivers.Nic.LockedRing

/-!
# Received frames in every interleaving

Frames arrive, and every function called for a bound device runs, in between any two calls of
`mynic_poll`.  `Delivers` is the protocol of the poll, with the frame it has in hand and the number it
has delivered.  The frame in hand stays the oldest one whatever arrives, so what was delivered and what
is still queued is at every moment what has arrived, byte for byte and in order; and every poll returns
the number of frames it delivered, completing exactly when it stays below its budget (`rx_in_order`).
-/

namespace ScullDrivers.Nic

open Interaction

/-! ## What has arrived and what the poll has done -/

/-- The frame a move brings. -/
def arrivedBy : NicMove → Option Packet
  | .device (.arrive frame) => some frame
  | _ => none

/-- The frames that have arrived so far, oldest first. -/
def arrivedFrames (past : List (NicConfig × NicMove)) : List Packet :=
  past.filterMap fun x => arrivedBy x.2

/-- The last poll: its budget, the frames it has delivered, the arguments of `napi_complete_done`. -/
structure PollRecord where
  budget : Nat := 0
  delivered : Nat := 0
  completed : List Nat := []

/-- The record after one move more. -/
def PollRecord.note (p : PollRecord) : NicMove → PollRecord
  | .start (.poll budget) => { budget }
  | .call .poll (.netifReceiveSkb _) _ => { p with delivered := p.delivered + 1 }
  | .call .poll (.napiCompleteDone rxDone) _ => { p with completed := p.completed ++ [rxDone] }
  | _ => p

/-- The record after the given steps. -/
def pollRecord (past : List (NicConfig × NicMove)) : PollRecord :=
  past.foldl (fun p x => p.note x.2) {}

/-- What has arrived was delivered, oldest first and byte for byte, or is queued; and a poll about to
return returns the number of frames it has delivered, within its budget, and has completed once, with
that number, or, if its budget is used up, not at all. -/
structure RxAccount (b : Externs) (past : List (NicConfig × NicMove)) (c : NicConfig) : Prop where
  order : c.state.received ++ c.state.rxQueue.map (mynicPollSkb b) =
    (arrivedFrames past).map (mynicPollSkb b)
  bytes : c.state.received.map RxSkb.frame ++ c.state.rxQueue = arrivedFrames past
  returned : ∀ a, c.threads .poll = some (.ret a) →
    a = (pollRecord past).delivered ∧ (pollRecord past).delivered ≤ (pollRecord past).budget ∧
      (pollRecord past).completed =
        if (pollRecord past).delivered < (pollRecord past).budget then [(pollRecord past).delivered]
        else []

/-- A bound device that nothing runs for and that has received nothing. -/
structure RxQuiet (c : NicConfig) : Prop where
  threads : ∀ i, c.threads i = none
  rxQueue : c.state.rxQueue = []
  received : c.state.received = []

/-! ## The protocol of the poll -/

/-- How far a poll that has delivered `n` frames is: in its loop, having seen that there is a frame,
with a frame in hand, with an `sk_buff` for it, past the loop, having completed, having enabled the
receive interrupt. -/
inductive DeliveryStage
  | looping (n : Nat)
  | found (n : Nat)
  | holding (n : Nat) (buf : Packet)
  | built (n : Nat) (buf : Packet)
  | ending (n : Nat)
  | completed (n : Nat)
  | enabled (n : Nat)

/-- The frames delivered. -/
def DeliveryStage.count : DeliveryStage → Nat
  | .looping n | .found n | .holding n _ | .built n _ | .ending n | .completed n | .enabled n => n

/-- The frame in hand. -/
def DeliveryStage.inHand : DeliveryStage → Option Packet
  | .holding _ buf | .built _ buf => some buf
  | .looping _ | .found _ | .ending _ | .completed _ | .enabled _ => none

/-- The arguments of `napi_complete_done`. -/
def DeliveryStage.completions : DeliveryStage → List Nat
  | .completed n | .enabled n => [n]
  | .looping _ | .found _ | .holding _ _ | .built _ _ | .ending _ => []

/-- The protocol of `mynic_poll`: it delivers the frame it has in hand. -/
inductive Delivers (b : Externs) : DeliveryStage → (e : Call) → Resp e → DeliveryStage → Prop
  | available {n : Nat} : Delivers b (.looping n) .packetsAvailable true (.found n)
  | empty {n : Nat} : Delivers b (.looping n) .packetsAvailable false (.ending n)
  | descriptor {n : Nat} {buf : Packet} : Delivers b (.found n) .rxDescriptor buf (.holding n buf)
  | allocated {n : Nat} {buf : Packet} :
    Delivers b (.holding n buf) (.netdevAllocSkbIpAlign buf.length) true (.built n buf)
  | noMemory {n : Nat} {buf : Packet} :
    Delivers b (.holding n buf) (.netdevAllocSkbIpAlign buf.length) false (.ending n)
  | receive {n : Nat} {buf : Packet} :
    Delivers b (.built n buf) (.netifReceiveSkb (mynicPollSkb b buf)) () (.looping (n + 1))
  | complete {n : Nat} : Delivers b (.ending n) (.napiCompleteDone n) () (.completed n)
  | enable {n : Nat} {v : BitVec 32} : Delivers b (.completed n) (.writelControl v) () (.enabled n)

/-- A poll returns what it has delivered, having used its budget up or having completed. -/
def Returns (budget : Nat) (a : Int) (g : DeliveryStage) : Prop :=
  a = g.count ∧ (g = .looping budget ∨ g = .enabled g.count ∧ g.count < budget)

section Follows

variable {b : Externs} {budget n left : Nat}

theorem mynicPollEnd_delivers (less : n < budget) :
    (mynicPollEnd b budget n).Follows (Delivers b) (Returns budget) (.ending n) := by
  unfold mynicPollEnd
  rw [if_pos less]
  exact fun _ => ⟨_, .complete, fun _ => ⟨_, .enable, rfl, .inr ⟨rfl, less⟩⟩⟩

theorem mynicPollLoop_delivers (sum : left + n = budget) :
    (mynicPollLoop b budget left n).Follows (Delivers b) (Returns budget) (.looping n) := by
  induction left generalizing n with
  | zero =>
      obtain rfl : n = budget := (Nat.zero_add n).symm.trans sum
      unfold mynicPollLoop mynicPollEnd
      rw [if_neg (lt_irrefl n)]
      exact ⟨rfl, .inl rfl⟩
  | succ left ih =>
      have less : n < budget := by omega
      unfold mynicPollLoop
      intro available
      cases available with
      | false => exact ⟨_, .empty, mynicPollEnd_delivers less⟩
      | true =>
          refine ⟨_, .available, fun buf => ⟨_, .descriptor, fun allocated => ?_⟩⟩
          cases allocated with
          | false => exact ⟨_, .noMemory, mynicPollEnd_delivers less⟩
          | true => exact ⟨_, .allocated, fun _ => ⟨_, .receive, ih (by omega)⟩⟩

end Follows

/-! ## The invariant -/

/-- The stage of the poll. -/
abbrev DeliveryAt (b : Externs) (budget : Nat) (c : NicConfig) : DeliveryStage → Prop :=
  c.At .poll (Delivers b) (Returns budget) (fun _ => True)

/-- What holds between any two steps: the frame in hand is the oldest one that is queued. -/
structure Delivering (b : Externs) (past : List (NicConfig × NicMove)) (c : NicConfig) (budget : Nat)
    (g : DeliveryStage) : Prop where
  stage : DeliveryAt b budget c g
  order : c.state.received ++ c.state.rxQueue.map (mynicPollSkb b) =
    (arrivedFrames past).map (mynicPollSkb b)
  inHand : ∀ buf, g.inHand = some buf → c.state.rxQueue.head? = some buf
  record : c.threads .poll ≠ none → pollRecord past = ⟨budget, g.count, g.completions⟩

section

variable {b : Externs} {c₀ c c' : NicConfig} {m : NicMove} {past : List (NicConfig × NicMove)}
  {budget : Nat} {g : DeliveryStage}

theorem arrivedFrames_snoc :
    arrivedFrames (past ++ [(c, m)]) = arrivedFrames past ++ (arrivedBy m).toList :=
  filterMap_snoc ..

theorem pollRecord_snoc : pollRecord (past ++ [(c, m)]) = (pollRecord past).note m :=
  List.foldl_concat ..

/-- Only the poll delivers, and nothing else takes frames off the queue. -/
theorem effect_rx {τ : Type} {i : τ} {e : Call} {s : State τ} {r : Resp e}
    (other : ∀ skb, e ≠ .netifReceiveSkb skb) :
    (effect i e s r).received = s.received ∧ (effect i e s r).rxQueue = s.rxQueue := by
  cases e with
  | netifReceiveSkb skb => exact absurd rfl (other skb)
  | allocEtherdev =>
      by_cases null : r = 0
      · simp only [effect, null, if_true, and_self]
      · simp only [effect, null, if_false, State.allocNetdev, and_self]
  | _ => exact ⟨rfl, rfl⟩

/-- A step outside the poll that brings no frame. -/
theorem Delivering.of_outside (inv : Delivering b past c budget g)
    (threads : c'.threads .poll = c.threads .poll) (quiet : arrivedBy m = none)
    (note : ∀ p : PollRecord, p.note m = p) (received : c'.state.received = c.state.received)
    (rxQueue : c'.state.rxQueue = c.state.rxQueue) :
    Delivering b (past ++ [(c, m)]) c' budget g where
  stage := inv.stage.of_threads threads
  order := by
    rw [arrivedFrames_snoc, quiet, received, rxQueue, Option.toList_none, List.append_nil]
    exact inv.order
  inHand buf here := by
    rw [rxQueue]
    exact inv.inHand buf here
  record busy := by
    rw [pollRecord_snoc, note]
    exact inv.record (threads ▸ busy)

/-- A call of the poll that delivers nothing. -/
theorem Delivering.of_call {e : Call} {k : Resp e → Code} {r : Resp e} {g' : DeliveryStage}
    (inv : Delivering b past c budget g) (head : c.threads .poll = some (.call e k))
    (rest : (k r).Follows (Delivers b) (Returns budget) g') (other : ∀ skb, e ≠ .netifReceiveSkb skb)
    (note : (⟨budget, g.count, g.completions⟩ : PollRecord).note (.call .poll e r) =
      ⟨budget, g'.count, g'.completions⟩)
    (inHand : ∀ buf, g'.inHand = some buf → c.state.rxQueue.head? = some buf) :
    Delivering b (past ++ [(c, .call .poll e r)]) (c.set (effect .poll e c.state r) .poll (some (k r)))
      budget g' where
  stage := .running Config.set_threads_self rest
  order := by
    rw [arrivedFrames_snoc, Config.set_state, (effect_rx other).1, (effect_rx other).2]
    exact inv.order.trans (congrArg (List.map (mynicPollSkb b)) (List.append_nil _).symm)
  inHand := by
    rw [Config.set_state, (effect_rx other).2]
    exact inHand
  record _ := by
    have busy : c.threads .poll ≠ none := fun idle => nomatch idle.symm.trans head
    rw [pollRecord_snoc, inv.record busy, note]

/-- One call of the poll. -/
theorem Delivering.call {e : Call} {k : Resp e → Code} {r : Resp e} {g' : DeliveryStage}
    (inv : Delivering b past c budget g) (head : c.threads .poll = some (.call e k))
    (answer : returns e c.state r) (next : Delivers b g e r g')
    (rest : (k r).Follows (Delivers b) (Returns budget) g') :
    Delivering b (past ++ [(c, .call .poll e r)]) (c.set (effect .poll e c.state r) .poll (some (k r)))
      budget g' := by
  cases next with
  | available | empty | noMemory | enable | complete => exact inv.of_call head rest nofun rfl nofun
  | descriptor =>
      refine inv.of_call head rest nofun rfl fun buf here => ?_
      cases here
      exact answer
  | allocated => exact inv.of_call head rest nofun rfl inv.inHand
  | @receive n buf =>
      have oldest := inv.inHand buf rfl
      obtain ⟨queue, queued⟩ : ∃ queue, c.state.rxQueue = buf :: queue :=
        List.head?_eq_some_iff.mp oldest
      have busy : c.threads .poll ≠ none := fun idle => nomatch idle.symm.trans head
      refine ⟨.running Config.set_threads_self rest, ?_, nofun, fun _ => ?_⟩
      · have order := inv.order
        rw [queued, List.map_cons, List.append_cons] at order
        rw [arrivedFrames_snoc]
        show (c.state.received ++ [mynicPollSkb b buf]) ++ c.state.rxQueue.tail.map (mynicPollSkb b) = _
        rw [queued]
        exact order.trans (congrArg (List.map (mynicPollSkb b)) (List.append_nil _).symm)
      · rw [pollRecord_snoc, inv.record busy]
        rfl

/-- Every step keeps the invariant. -/
theorem Delivering.step (step : (nic b boundCallers).Step c m c') (within : WithinCalls c)
    (absent : c.threads .pci = none) (inv : Delivering b past c budget g) :
    ∃ budget g, Delivering b (past ++ [(c, m)]) c' budget g := by
  cases step with
  | @start q idle may =>
      cases q with
      | probe | remove => cases may.1
      | «open» | stop | xmit | interrupt =>
          exact ⟨budget, g, inv.of_outside rfl rfl (fun _ => rfl) rfl rfl⟩
      | poll budget =>
          refine ⟨budget, .looping 0, ?_, ?_, nofun, fun _ => ?_⟩
          · exact .running Config.set_threads_self (mynicPollLoop_delivers rfl)
          · rw [arrivedFrames_snoc]
            exact inv.order.trans (congrArg (List.map (mynicPollSkb b)) (List.append_nil _).symm)
          · rw [pollRecord_snoc]
            rfl
  | @call i e k r head may answer =>
      by_cases poll : i = .poll
      · subst poll
        obtain ⟨g', next, rest⟩ := inv.stage.call head r
        exact ⟨budget, g', inv.call head answer next rest⟩
      · have own := within.head head
        have other : ∀ skb, e ≠ .netifReceiveSkb skb := by
          intro skb same
          subst same
          cases i with
          | pci => cases absent.symm.trans head
          | poll => exact poll rfl
          | net | xmit | irq => exact own
        have note : ∀ p : PollRecord, p.note (.call i e r) = p := by
          intro p
          cases i with
          | poll => exact absurd rfl poll
          | pci | net | xmit | irq => rfl
        obtain ⟨received, rxQueue⟩ := effect_rx (i := i) (s := c.state) (r := r) other
        exact ⟨budget, g, inv.of_outside (Config.set_threads_of_ne (Ne.symm poll)) rfl note received
          rxQueue⟩
  | @finish i a head may =>
      by_cases poll : i = .poll
      · subst poll
        refine ⟨budget, .looping 0, .idle Config.set_threads_self trivial, ?_, nofun, fun busy => ?_⟩
        · rw [arrivedFrames_snoc]
          exact inv.order.trans (congrArg (List.map (mynicPollSkb b)) (List.append_nil _).symm)
        · exact absurd Config.set_threads_self busy
      · have other := Config.set_threads_of_ne (c := c) (s := c.state.leave i a) (p := none)
          (Ne.symm poll)
        exact ⟨budget, g, inv.of_outside other rfl (fun _ => rfl) (by cases i <;> rfl)
          (by cases i <;> rfl)⟩
  | @device h =>
      cases h with
      | report status => exact ⟨budget, g, inv.of_outside rfl rfl (fun _ => rfl) rfl rfl⟩
      | arrive frame =>
          refine ⟨budget, g, inv.stage.of_threads rfl, ?_, fun buf here => ?_, fun busy => ?_⟩
          · rw [arrivedFrames_snoc, List.map_append, ← inv.order, List.append_assoc]
            exact congrArg _ List.map_append
          · show (c.state.rxQueue ++ [frame]).head? = some buf
            rw [List.head?_append, inv.inHand buf here, Option.some_or]
          · rw [pollRecord_snoc]
            exact inv.record busy

/-- What was delivered and what is queued are, byte for byte, what has arrived. -/
theorem Delivering.bytes (inv : Delivering b past c budget g) :
    c.state.received.map RxSkb.frame ++ c.state.rxQueue = arrivedFrames past := by
  have order := congrArg (List.map RxSkb.frame) inv.order
  rw [List.map_append, mynicPollSkbs_frames, mynicPollSkbs_frames] at order
  exact order

/-- **Receive in every interleaving.**  Whatever arrives and whatever runs in between the calls of the
poll, every frame that has arrived was delivered, once, byte for byte and in order of arrival, or is
queued behind those that were; and each poll returns the number of frames it has delivered, within its
budget, and has completed exactly if it is below. -/
theorem rx_in_order (run : Run (nic b boundCallers).Step c₀ past c) (quiet : RxQuiet c₀) :
    RxAccount b past c := by
  have inv : (∃ budget g, Delivering b past c budget g) ∧ WithinCalls c ∧ c.threads .pci = none := by
    induction run with
    | nil =>
        refine ⟨⟨0, .looping 0, .idle (quiet.threads _) trivial, ?_, nofun, fun busy => ?_⟩, ?_,
          quiet.threads _⟩
        · rw [quiet.received, quiet.rxQueue]
          rfl
        · exact absurd (quiet.threads _) busy
        · intro i p running
          cases (quiet.threads i).symm.trans running
    | snoc run step ih =>
        obtain ⟨⟨budget, g, inv⟩, within, absent⟩ := ih
        exact ⟨inv.step step within absent, within.step step, threads_eq_none_step rfl step absent⟩
  obtain ⟨⟨budget, g, inv⟩, -, -⟩ := inv
  refine ⟨inv.order, inv.bytes, fun a head => ?_⟩
  have busy : c.threads .poll ≠ none := fun idle => nomatch idle.symm.trans head
  obtain ⟨rfl, either⟩ := inv.stage.returned head
  rw [inv.record busy]
  rcases either with rfl | ⟨done, less⟩
  · exact ⟨rfl, le_rfl, (if_neg (lt_irrefl _)).symm⟩
  · refine ⟨rfl, less.le, ?_⟩
    rw [if_pos less, done]
    rfl

end

/-! ## A frame that arrives while another one is in hand -/

theorem boundNic_rxQuiet : RxQuiet boundNic := ⟨fun _ => rfl, rfl, rfl⟩

/-- The interface is opened, and of two frames the second one arrives while the poll has the first one in
hand; the budget is one frame. -/
def arriveInBetween : List NicMove :=
  [.start .open, .call .net .napiEnable (), .call .net .netifStartQueue (),
    .call .net (.writelControl 3) (), .finish .net 0, .device (.arrive [1])] ++
    [.start .interrupt, .call .irq .readlIntrStatus 1, .call .irq (.writelIntrStatus 1) (),
    .call .irq .napiSchedule (), .finish .irq 1, .start (.poll 1),
    .call .poll .packetsAvailable true, .call .poll .rxDescriptor [1], .device (.arrive [2]),
    .call .poll (.netdevAllocSkbIpAlign 1) true,
    .call .poll (.netifReceiveSkb (mynicPollSkb demoExterns [1])) ()]

/-- The first frame is delivered, the second one queued. -/
theorem rx_in_order_between : ∃ past c, Run (nic demoExterns boundCallers).Step boundNic past c ∧
    c.state.received = [mynicPollSkb demoExterns [1]] ∧ c.state.rxQueue = [[2]] ∧
      RxAccount demoExterns past c := by
  obtain ⟨past, c, run, -, reached⟩ := Machine.run_of_play (M := nic demoExterns boundCallers)
    (fun _ _ => True) arriveInBetween boundNic
    (fun c => c.state.received = [mynicPollSkb demoExterns [1]] ∧ c.state.rxQueue = [[2]]) (by decide)
  obtain ⟨received, queued⟩ := of_decide_eq_true reached
  exact ⟨past, c, run, received, queued, rx_in_order run boundNic_rxQuiet⟩

end ScullDrivers.Nic
