import ScullDrivers.Interaction.Protocol
import ScullDrivers.Nic.System

/-!
# No stranded receive packet

Frames arrive at any moment, each raising `RX_INTR`; the handler schedules the poll and the poll
delivers what it finds.  `IrqNext` and `PollNext` are the protocols of the two functions: a handler
that has read `RX_INTR` owes a `napi_schedule`, and a poll that has left its loop is ending and calls
`napi_complete_done`.

A poll that leaves its loop because an allocation failed ends although frames are available, and
nothing but an event that was raised meanwhile runs it again.  A run in which allocations fail only
while such an event is raised leaves no frame undelivered in any state that is at rest
(`delivered_at_rest`).
-/

namespace ScullDrivers.Nic

open Interaction

/-! ## Protocols of the handler and of the poll -/

/-- How far the interrupt handler is. -/
inductive IrqStage
  | fresh | owing | settled

/-- The calls of the transmit part of the handler. -/
def TxPartCalls : Call → Prop
  | .spinLock | .spinUnlock | .packetsSent | .loadTxTail | .storeTxTail _ | .loadTxSkbuff _
  | .storeTxSkbuff _ _ | .dmaUnmapSingle _ _ | .devKfreeSkbIrq _ | .netifWakeQueue => True
  | _ => False

/-- The protocol of `mynic_interrupt`: having read `RX_INTR` it owes a `napi_schedule`, and it
acknowledges `RX_INTR` only then. -/
inductive IrqNext (b : Externs) : IrqStage → (e : Call) → Resp e → IrqStage → Prop
  | readRx {status : BitVec 32} : status &&& b.RX_INTR ≠ 0 →
    IrqNext b .fresh .readlIntrStatus status .owing
  | readOther {status : BitVec 32} : status &&& b.RX_INTR = 0 →
    IrqNext b .fresh .readlIntrStatus status .settled
  | ackRx {v : BitVec 32} : IrqNext b .owing (.writelIntrStatus v) () .owing
  | schedule : IrqNext b .owing .napiSchedule () .settled
  | ackOther {v : BitVec 32} : v &&& b.RX_INTR = 0 →
    IrqNext b .settled (.writelIntrStatus v) () .settled
  | txPart {e : Call} {r : Resp e} : TxPartCalls e → IrqNext b .settled e r .settled

/-- The handler reads the status first. -/
theorem IrqNext.read {b : Externs} {e : Call} {r : Resp e} {h : IrqStage}
    (next : IrqNext b .fresh e r h) : e = .readlIntrStatus := by
  cases next <;> rfl

/-- How far the poll is. -/
inductive PollStage
  | looping | ending | done

/-- The protocol of `mynic_poll`: it leaves the loop for `napi_complete_done` when no packet is
available, or when an allocation fails. -/
inductive PollNext : PollStage → (e : Call) → Resp e → PollStage → Prop
  | available : PollNext .looping .packetsAvailable true .looping
  | empty : PollNext .looping .packetsAvailable false .ending
  | descriptor {buf : Packet} : PollNext .looping .rxDescriptor buf .looping
  | allocated {len : Nat} : PollNext .looping (.netdevAllocSkbIpAlign len) true .looping
  | noMemory {len : Nat} : PollNext .looping (.netdevAllocSkbIpAlign len) false .ending
  | receive {skb : RxSkb} : PollNext .looping (.netifReceiveSkb skb) () .looping
  | complete {rxDone : Nat} : PollNext .ending (.napiCompleteDone rxDone) () .done
  | enable {v : BitVec 32} : PollNext .done (.writelControl v) () .done

section Follows

variable {b : Externs}

theorem mynicInterruptReclaim_txPart (sent : Nat) :
    (mynicInterruptReclaim sent).OnlyCalls TxPartCalls := by
  induction sent with
  | zero => trivial
  | succ sent ih =>
      simp only [mynicInterruptReclaim, perform_bind, onlyCalls_call]
      refine ⟨trivial, fun idx => ⟨trivial, fun skb => ?_⟩⟩
      refine Prog.OnlyCalls.bind ?_ fun _ => ⟨trivial, fun _ => ⟨trivial, fun _ => ih⟩⟩
      cases skb with
      | none => trivial
      | some skb => exact ⟨trivial, fun _ => ⟨trivial, fun _ => ⟨trivial, fun _ => trivial⟩⟩⟩

theorem mynicInterruptTx_txPart (status : BitVec 32) :
    (mynicInterruptTx b status).OnlyCalls TxPartCalls := by
  unfold mynicInterruptTx
  split
  · simp only [perform_bind, onlyCalls_call]
    refine ⟨trivial, fun _ => ⟨trivial, fun sent => ?_⟩⟩
    exact Prog.OnlyCalls.bind (mynicInterruptReclaim_txPart sent) fun _ =>
      ⟨trivial, fun _ => ⟨trivial, fun _ => trivial⟩⟩
  · trivial

/-- The handler owes nothing when it returns. -/
theorem mynicInterrupt_follows :
    (mynicInterrupt b).Follows (IrqNext b) (fun _ g => g = .settled) .fresh := by
  have tail : ∀ status, (mynicInterruptTx b status >>= fun _ => (pure irqHandled : Code)).Follows
      (IrqNext b) (fun _ g => g = .settled) .settled := by
    intro status
    have part : (mynicInterruptTx b status).Follows (IrqNext b) (fun _ g => g = .settled) .settled :=
      (mynicInterruptTx_txPart status).follows (fun _ _ call => .txPart call) fun _ => rfl
    exact part.bind fun _ _ settled => settled
  rw [mynicInterrupt_eq]
  intro status
  by_cases rx : status &&& b.RX_INTR ≠ 0
  · refine ⟨.owing, .readRx rx, ?_⟩
    simp only [mynicInterruptStatus, mynicInterruptRx, perform_bind, if_pos rx]
    exact fun _ => ⟨.owing, .ackRx, fun _ => ⟨.settled, .schedule, tail status⟩⟩
  · have rx : status &&& b.RX_INTR = 0 := not_not.mp rx
    refine ⟨.settled, .readOther rx, ?_⟩
    simp only [mynicInterruptStatus, mynicInterruptRx, perform_bind, ne_eq, rx, not_true_eq_false,
      if_false]
    exact fun _ => ⟨.settled, .ackOther rx, tail status⟩

theorem mynicPollEnd_follows {budget rxDone : Nat} (less : rxDone < budget) :
    (mynicPollEnd b budget rxDone).Follows PollNext (fun _ g => g ≠ .ending) .ending := by
  unfold mynicPollEnd
  rw [if_pos less]
  exact fun _ => ⟨.done, .complete, fun _ => ⟨.done, .enable, PollStage.noConfusion⟩⟩

theorem mynicPollLoop_follows {budget left rxDone : Nat} (sum : left + rxDone = budget) :
    (mynicPollLoop b budget left rxDone).Follows PollNext (fun _ g => g ≠ .ending) .looping := by
  induction left generalizing rxDone with
  | zero =>
      unfold mynicPollLoop mynicPollEnd
      rw [if_neg (by omega)]
      exact PollStage.noConfusion
  | succ left ih =>
      have less : rxDone < budget := by omega
      unfold mynicPollLoop
      intro available
      cases available with
      | false => exact ⟨.ending, .empty, mynicPollEnd_follows less⟩
      | true =>
          refine ⟨.looping, .available, fun buf => ⟨.looping, .descriptor, fun allocated => ?_⟩⟩
          cases allocated with
          | false => exact ⟨.ending, .noMemory, mynicPollEnd_follows less⟩
          | true =>
              refine ⟨.looping, .allocated, fun _ => ⟨.looping, .receive, ?_⟩⟩
              exact ih (by omega)

/-- The poll does not return between leaving its loop and `napi_complete_done`. -/
theorem mynicPoll_follows (budget : Nat) :
    (mynicPoll b budget).Follows PollNext (fun _ g => g ≠ .ending) .looping :=
  mynicPollLoop_follows rfl

end Follows

/-! ## The property -/

/-- The contexts of the receive path. -/
def receivers (i : Context) : Bool := i = .irq ∨ i = .poll

/-- An RX interrupt is pending in the device. -/
def RxPending (b : Externs) (s : State Context) : Prop := s.intrStatus &&& b.RX_INTR ≠ 0

/-- An RX interrupt is being handled: the handler has a `napi_schedule` ahead whatever happens. -/
def RxHandled (c : NicConfig) : Prop :=
  ∃ p, c.threads .irq = some p ∧ p.Eventually (· = .napiSchedule)

/-- No RX interrupt is pending or being handled, and the poll is neither scheduled nor running. -/
structure AtRest (b : Externs) (c : NicConfig) : Prop where
  notPending : ¬ RxPending b c.state
  notHandled : ¬ RxHandled c
  notScheduled : c.state.napi.sched = false
  notRunning : c.threads .poll = none

/-- At rest no available packet is left undelivered. -/
def Delivered (b : Externs) (c : NicConfig) : Prop := AtRest b c → c.state.rxQueue = []

/-- The step is not a failing allocation, unless an RX interrupt is pending or being handled, or the
poll was scheduled again since it runs. -/
def FailsWhileRaised (b : Externs) (c : NicConfig) : NicMove → Prop
  | .call .poll (.netdevAllocSkbIpAlign _) false =>
      RxPending b c.state ∨ RxHandled c ∨ c.state.napi.missed = true
  | _ => True

/-- An open interface that has received nothing yet. -/
structure OpenIdle (c : NicConfig) : Prop where
  threads : ∀ i, c.threads i = none
  enabled : c.state.napi.enabled = true
  sched : c.state.napi.sched = false
  missed : c.state.napi.missed = false
  rxQueue : c.state.rxQueue = []

/-! ## The invariant -/

/-- The stage of the handler. -/
abbrev IrqAt (b : Externs) (c : NicConfig) : IrqStage → Prop :=
  c.At .irq (IrqNext b) (fun _ h => h = .settled) (fun h => h = .settled)

/-- The stage of the poll. -/
abbrev PollAt (c : NicConfig) : PollStage → Prop :=
  c.At .poll PollNext (fun _ g => g ≠ .ending) (fun g => g ≠ .ending)

/-- An available packet has something that will deliver it. -/
structure RxLedger (b : Externs) (s : State Context) (h : IrqStage) (g : PollStage) : Prop where
  enabled : s.napi.enabled = true
  missed : s.napi.missed = true → s.napi.sched = true
  running : g ≠ .done → s.napi.sched = true
  raised : s.rxQueue ≠ [] →
    RxPending b s ∨ h = .owing ∨ s.napi.sched = true ∧ (s.napi.missed = true ∨ g ≠ .ending)

/-- What holds between any two steps. -/
def RxInv (b : Externs) (c : NicConfig) : Prop :=
  ∃ h g, IrqAt b c h ∧ PollAt c g ∧ RxLedger b c.state h g

section

variable {b : Externs} {s : State Context} {h h' : IrqStage} {g g' : PollStage} {e : Call}
  {r : Resp e}

/-- Raising status bits leaves a pending interrupt pending. -/
theorem or_and_ne_zero {x y m : BitVec 32} (pending : x &&& m ≠ 0) : (x ||| y) &&& m ≠ 0 := by
  rw [BitVec.and_or_distrib_right]
  intro zero
  exact pending (BitVec.or_eq_zero_iff.mp zero).1

/-- Acknowledging other bits leaves a pending interrupt pending. -/
theorem and_not_and {x v m : BitVec 32} (other : v &&& m = 0) : (x &&& ~~~v) &&& m = x &&& m := by
  ext i hi
  have bit := congrArg (·[i]) other
  simp only [BitVec.getElem_and, BitVec.getElem_not] at bit ⊢
  grind

/-- A context scheduled while it is scheduled or running runs again. -/
theorem Napi.schedule_again {n : Napi} (enabled : n.enabled = true) (sched : n.sched = true) :
    n.schedule = { n with missed := true } := by
  unfold Napi.schedule
  rw [if_pos enabled, if_pos sched]

theorem Napi.schedule_first {n : Napi} (enabled : n.enabled = true) (sched : ¬ n.sched = true) :
    n.schedule = { n with sched := true } := by
  unfold Napi.schedule
  rw [if_pos enabled, if_neg sched]

/-- One call of the handler. -/
theorem RxLedger.irq (led : RxLedger b s h g) (next : IrqNext b h e r h') :
    RxLedger b (effect .irq e s r) h' g := by
  cases next with
  | readRx rx => exact ⟨led.enabled, led.missed, led.running, fun _ => .inr (.inl rfl)⟩
  | readOther other =>
      refine ⟨led.enabled, led.missed, led.running, fun some => ?_⟩
      rcases led.raised some with pending | owing | scheduled
      · exact .inl pending
      · cases owing
      · exact .inr (.inr scheduled)
  | ackRx => exact ⟨led.enabled, led.missed, led.running, fun _ => .inr (.inl rfl)⟩
  | schedule =>
      have effect_napi : (effect Context.irq .napiSchedule s ()).napi = s.napi.schedule := rfl
      by_cases sched : s.napi.sched = true
      · rw [Napi.schedule_again led.enabled sched] at effect_napi
        refine ⟨?_, ?_, ?_, ?_⟩ <;> rw [effect_napi]
        · exact led.enabled
        · exact fun _ => sched
        · exact led.running
        · exact fun _ => .inr (.inr ⟨sched, .inl rfl⟩)
      · rw [Napi.schedule_first led.enabled sched] at effect_napi
        have notEnding : g ≠ .ending := fun ending =>
          sched (led.running (ending ▸ PollStage.noConfusion))
        refine ⟨?_, ?_, ?_, ?_⟩ <;> rw [effect_napi]
        · exact led.enabled
        · exact fun _ => rfl
        · exact fun _ => rfl
        · exact fun _ => .inr (.inr ⟨rfl, .inr notEnding⟩)
  | @ackOther v other =>
      refine ⟨led.enabled, led.missed, led.running, fun some => ?_⟩
      rcases led.raised some with pending | owing | scheduled
      · refine .inl ?_
        show (s.intrStatus &&& ~~~v) &&& b.RX_INTR ≠ 0
        rw [and_not_and other]
        exact pending
      · cases owing
      · exact .inr (.inr scheduled)
  | txPart call =>
      cases e with
      | spinLock | spinUnlock | packetsSent | loadTxTail | storeTxTail | loadTxSkbuff
      | storeTxSkbuff | dmaUnmapSingle | devKfreeSkbIrq | netifWakeQueue =>
          exact ⟨led.enabled, led.missed, led.running, led.raised⟩
      | _ => exact call.elim

/-- One call of the poll. -/
theorem RxLedger.poll {c : NicConfig} (led : RxLedger b c.state h g) (next : PollNext g e r g')
    (answer : returns e c.state r) (ok : FailsWhileRaised b c (.call .poll e r))
    (handled : RxHandled c → h = .owing) : RxLedger b (effect .poll e c.state r) h g' := by
  cases next with
  | available | descriptor | allocated | enable =>
      exact ⟨led.enabled, led.missed, led.running, led.raised⟩
  | empty =>
      refine ⟨led.enabled, led.missed, fun _ => led.running PollStage.noConfusion, fun some => ?_⟩
      exact absurd some (of_decide_eq_false answer.symm)
  | noMemory =>
      have sched := led.running PollStage.noConfusion
      refine ⟨led.enabled, led.missed, fun _ => sched, fun _ => ?_⟩
      rcases ok with pending | handling | missed
      · exact .inl pending
      · exact .inr (.inl (handled handling))
      · exact .inr (.inr ⟨sched, .inl missed⟩)
  | receive =>
      refine ⟨led.enabled, led.missed, led.running, fun some => led.raised fun empty => some ?_⟩
      show c.state.rxQueue.tail = []
      rw [empty]
      rfl
  | @complete rxDone =>
      have effect_napi : (effect Context.poll (.napiCompleteDone rxDone) c.state ()).napi =
        c.state.napi.complete := rfl
      unfold Napi.complete at effect_napi
      by_cases missed : c.state.napi.missed = true
      · rw [if_pos missed] at effect_napi
        have sched := led.missed missed
        refine ⟨?_, ?_, ?_, ?_⟩ <;> rw [effect_napi]
        · exact led.enabled
        · exact fun _ => sched
        · exact fun _ => sched
        · exact fun _ => .inr (.inr ⟨sched, .inr PollStage.noConfusion⟩)
      · rw [if_neg missed] at effect_napi
        have raised : c.state.rxQueue ≠ [] → RxPending b c.state ∨ h = .owing := by
          intro some
          rcases led.raised some with pending | owing | ⟨-, again | looping⟩
          · exact .inl pending
          · exact .inr owing
          · exact absurd again missed
          · exact absurd rfl looping
        refine ⟨?_, ?_, fun running => absurd rfl running, fun some => ?_⟩
        · rw [effect_napi]
          exact led.enabled
        · rw [effect_napi]
          exact fun again => absurd again missed
        · rcases raised some with pending | owing
          · exact .inl pending
          · exact .inr (.inl owing)

end

/-! ## Steps and runs -/

section

variable {b : Externs} {c₀ c c' : NicConfig} {m : NicMove} {past : List (NicConfig × NicMove)}
  {h : IrqStage} {g : PollStage}

/-- A handler that owes a `napi_schedule` will make it. -/
theorem RxHandled.of_owing (stage : IrqAt b c .owing) : RxHandled c := by
  have busy : c.threads .irq ≠ none := fun idle => IrqStage.noConfusion (stage.1 idle)
  obtain ⟨p, running⟩ := Option.ne_none_iff_exists'.mp busy
  refine ⟨p, running, (stage.2 p running).eventually (S := fun h => h = .owing) ?_ ?_ rfl⟩
  · intro h e r h' owing next
    subst owing
    cases next with
    | ackRx => exact .inr rfl
    | schedule => exact .inl rfl
  · intro a h owing settled
    subst owing
    cases settled

/-- Only a handler that owes a `napi_schedule` makes it whatever happens. -/
theorem RxHandled.owing (handled : RxHandled c) (stage : IrqAt b c h) : h = .owing := by
  obtain ⟨p, running, eventually⟩ := handled
  have follows := stage.2 p running
  have settled : ∀ {p : Code}, p.Follows (IrqNext b) (fun _ h => h = .settled) .settled →
      ¬ p.Eventually (· = .napiSchedule) := by
    intro p follows
    refine (follows.onlyCalls (S := fun h => h = .settled) ?_ rfl).not_eventually
    intro h e r h' here next
    subst here
    cases next with
    | ackOther => exact ⟨Call.noConfusion, rfl⟩
    | txPart call =>
        refine ⟨fun same => ?_, rfl⟩
        subst same
        exact call
  cases h with
  | owing => rfl
  | settled => exact absurd eventually (settled follows)
  | fresh =>
      -- the answer 0 has no `RX_INTR` in it
      cases p with
      | ret a => exact eventually.elim
      | call e k =>
          obtain ⟨r⟩ : Nonempty (Resp e) := inferInstance
          obtain ⟨h', next, -⟩ := follows r
          obtain rfl := next.read
          rcases eventually with now | later
          · cases now
          · obtain ⟨h', next, rest⟩ := follows (0 : BitVec 32)
            cases next with
            | readRx rx => exact absurd (BitVec.zero_and) rx
            | readOther other => exact absurd (later (0 : BitVec 32)) (settled rest)

theorem OpenIdle.inv (idle : OpenIdle c) : RxInv b c := by
  refine ⟨.settled, .done, .idle (idle.threads .irq) rfl,
    .idle (idle.threads .poll) PollStage.noConfusion, idle.enabled, fun missed => ?_,
    fun running => absurd rfl running, fun some => absurd idle.rxQueue some⟩
  cases idle.missed.symm.trans missed

theorem RxInv.delivered (inv : RxInv b c) : Delivered b c := by
  obtain ⟨h, g, irq, poll, led⟩ := inv
  intro rest
  by_contra some
  rcases led.raised some with pending | owing | ⟨sched, -⟩
  · exact rest.notPending pending
  · subst owing
    exact rest.notHandled (RxHandled.of_owing irq)
  · cases rest.notScheduled.symm.trans sched

/-- The stages of the other context stay when one moves. -/
theorem RxInv.start {q : Request} (inv : RxInv b c) (idle : c.threads q.context = none)
    (admits : c.state.admits q) (receiver : receivers q.context = true) :
    RxInv b (c.set (c.state.enter q) q.context (some (q.code b))) := by
  obtain ⟨h, g, irq, poll, led⟩ := inv
  cases q with
  | probe | remove | «open» | stop | xmit => cases receiver
  | interrupt =>
      refine ⟨.fresh, g, .running rfl mynicInterrupt_follows, poll.of_threads rfl, led.enabled,
        led.missed, led.running, fun some => ?_⟩
      rcases led.raised some with pending | owing | scheduled
      · exact .inl pending
      · subst owing
        cases irq.1 idle
      · exact .inr (.inr scheduled)
  | poll budget =>
      obtain ⟨-, sched⟩ := admits
      exact ⟨h, .looping, irq.of_threads rfl, .running rfl (mynicPoll_follows budget), led.enabled,
        led.missed, fun _ => sched, fun some => (led.raised some).imp_right fun later =>
          later.imp_right fun scheduled => ⟨sched, .inr PollStage.noConfusion⟩⟩

/-- Every step keeps the invariant, a failing allocation only while something is raised. -/
theorem RxInv.step (rx : b.RX_INTR ≠ 0) (step : (nic b receivers).Step c m c')
    (ok : FailsWhileRaised b c m) (inv : RxInv b c) (others : ∀ i, receivers i = false →
      c.threads i = none) : RxInv b c' := by
  cases step with
  | @start q idle may => exact inv.start idle may.2 may.1
  | @call i e k r head may answer =>
      obtain ⟨h, g, irq, poll, led⟩ := inv
      cases i with
      | pci | net | xmit => cases (others _ rfl).symm.trans head
      | irq =>
          obtain ⟨h', next, rest⟩ := irq.call head r
          exact ⟨h', g, .running Config.set_threads_self rest, poll.of_threads rfl, led.irq next⟩
      | poll =>
          obtain ⟨g', next, rest⟩ := poll.call head r
          exact ⟨h, g', irq.of_threads rfl, .running Config.set_threads_self rest,
            led.poll next answer ok fun handled => handled.owing irq⟩
  | @finish i a head may =>
      obtain ⟨h, g, irq, poll, led⟩ := inv
      cases i with
      | pci | net | xmit => cases (others _ rfl).symm.trans head
      | irq =>
          exact ⟨h, g, .idle Config.set_threads_self (irq.returned head), poll.of_threads rfl,
            led.enabled, led.missed, led.running, led.raised⟩
      | poll =>
          exact ⟨h, g, irq.of_threads rfl, .idle Config.set_threads_self (poll.returned head),
            led.enabled, led.missed, led.running, led.raised⟩
  | @device d =>
      obtain ⟨h, g, irq, poll, led⟩ := inv
      cases d with
      | report status =>
          refine ⟨h, g, irq.of_threads rfl, poll.of_threads rfl, led.enabled, led.missed, led.running,
            fun some => ?_⟩
          exact (led.raised some).imp_left fun pending => or_and_ne_zero pending
      | arrive frame =>
          refine ⟨h, g, irq.of_threads rfl, poll.of_threads rfl, led.enabled, led.missed, led.running,
            fun _ => .inl ?_⟩
          show (c.state.intrStatus ||| b.RX_INTR) &&& b.RX_INTR ≠ 0
          rw [BitVec.or_comm]
          refine or_and_ne_zero ?_
          rw [BitVec.and_self]
          exact rx

/-- **No stranded receive packet.**  In any run of the handler and the poll over an open interface,
with any arrivals and any budgets, in which allocations fail only while an RX interrupt is pending or
being handled or the poll was scheduled again, every state at rest has delivered every packet. -/
theorem delivered_at_rest (rx : b.RX_INTR ≠ 0) (run : Run (nic b receivers).Step c₀ past c)
    (idle : OpenIdle c₀) (steps : AllSteps (FailsWhileRaised b) past) :
    Always (Delivered b) past c := by
  let I : NicConfig → Prop := fun c => RxInv b c ∧ ∀ i, receivers i = false → c.threads i = none
  have inv : Always I past c := by
    refine run.always ⟨idle.inv, fun i _ => idle.threads i⟩ (fun step ok inv => ?_) steps
    refine ⟨inv.1.step rx step ok inv.2, fun i absent => ?_⟩
    exact threads_eq_none_step absent step (inv.2 i absent)
  exact inv.mono fun _ both => both.1.delivered

end

/-! ## One frame -/

/-- An open interface that has received nothing. -/
def openNic : NicConfig :=
  ⟨{ napi := { added := true, enabled := true }, iface := .up, control := 3, registered := true,
     irqRequested := true, binding := .bound }, fun _ => none⟩

theorem openNic_openIdle : OpenIdle openNic := ⟨fun _ => rfl, rfl, rfl, rfl, rfl⟩

/-- A receive interrupt taken, and the poll it schedules entered. -/
def interruptAndPoll : List NicMove :=
  [.start .interrupt, .call .irq .readlIntrStatus 1, .call .irq (.writelIntrStatus 1) (),
    .call .irq .napiSchedule (), .finish .irq 1, .start (.poll 64)]

/-- The poll finds a frame. -/
def pollFinds (frame : Packet) : List NicMove :=
  [.call .poll .packetsAvailable true, .call .poll .rxDescriptor frame]

/-- The poll completes and returns. -/
def pollCompletes (rxDone : Nat) : List NicMove :=
  [.call .poll (.napiCompleteDone rxDone) (), .call .poll (.writelControl 3) (),
    .finish .poll rxDone]

/-- The poll delivers a frame of one byte. -/
def pollDelivers (byte : UInt8) : List NicMove :=
  pollFinds [byte] ++ [.call .poll (.netdevAllocSkbIpAlign 1) true,
    .call .poll (.netifReceiveSkb (mynicPollSkb demoExterns [byte])) ()]

/-- The allocation for the only frame fails. -/
def failWithNothingRaised : List NicMove :=
  [.device (.arrive [1])] ++ interruptAndPoll ++ pollFinds [1] ++
    [.call .poll (.netdevAllocSkbIpAlign 1) false] ++ pollCompletes 0

/-- The allocation fails after a second frame has arrived. -/
def failWhilePending : List NicMove :=
  [.device (.arrive [1])] ++ interruptAndPoll ++ pollFinds [1] ++
    [.device (.arrive [2]), .call .poll (.netdevAllocSkbIpAlign 1) false] ++ pollCompletes 0 ++
    interruptAndPoll ++ pollDelivers 1 ++ pollDelivers 2 ++
    [.call .poll .packetsAvailable false] ++ pollCompletes 2

/-- Allocations fail only while an RX interrupt is pending. -/
def FailsWhilePending (c : NicConfig) : NicMove → Prop
  | .call .poll (.netdevAllocSkbIpAlign _) false => c.state.intrStatus &&& demoExterns.RX_INTR ≠ 0
  | _ => True

theorem FailsWhilePending.failsWhileRaised {c : NicConfig} {m : NicMove}
    (ok : FailsWhilePending c m) : FailsWhileRaised demoExterns c m := by
  unfold FailsWhileRaised
  split
  · exact .inl ok
  · trivial

instance (c : NicConfig) (m : NicMove) : Decidable (FailsWhilePending c m) :=
  match m with
  | .call .poll e r => by
      revert r
      apply Call.casesOn (motive := fun e => ∀ r, Decidable (FailsWhilePending c (.call .poll e r))) e
        <;> intros <;> first
        | exact instDecidableTrue
        | (rename_i r; exact (match r with | true => instDecidableTrue | false => instDecidableNot))
  | .call .pci _ _ | .call .net _ _ | .call .xmit _ _ | .call .irq _ _ => instDecidableTrue
  | .start _ | .finish _ _ | .device _ => instDecidableTrue

/-- A failing allocation while an interrupt is pending leaves nothing behind. -/
theorem delivered_at_rest_pending :
    ∃ past c, Run (nic demoExterns receivers).Step openNic past c ∧ c.state.received.length = 2 ∧
      Always (Delivered demoExterns) past c := by
  obtain ⟨past, c, run, steps, received⟩ := Machine.run_of_play (M := nic demoExterns receivers)
    FailsWhilePending failWhilePending openNic (fun c => c.state.received.length = 2) (by decide)
  exact ⟨past, c, run, of_decide_eq_true received, delivered_at_rest (by decide) run
    openNic_openIdle fun x mem => (steps x mem).failsWhileRaised⟩

/-- A failing allocation strands the frame it was for. -/
theorem frame_stranded :
    ¬ ∀ (b : Externs) (c₀ c : NicConfig) (past : List (NicConfig × NicMove)), b.RX_INTR ≠ 0 →
      OpenIdle c₀ → Run (nic b receivers).Step c₀ past c → Always (Delivered b) past c := by
  intro claim
  obtain ⟨past, c, run, -, reached⟩ := Machine.run_of_play (M := nic demoExterns receivers)
    (fun _ _ => True) failWithNothingRaised openNic
    (fun c => c.state.intrStatus = 0 ∧ c.busy .irq = false ∧ c.state.napi.sched = false ∧
      c.busy .poll = false ∧ c.state.rxQueue = [[1]]) (by decide)
  obtain ⟨quiet, irqIdle, notScheduled, pollIdle, frames⟩ := of_decide_eq_true reached
  have rest : AtRest demoExterns c := by
    refine ⟨fun pending => ?_, fun handled => ?_, notScheduled, ?_⟩
    · rw [RxPending, quiet] at pending
      exact pending BitVec.zero_and
    · obtain ⟨p, running, -⟩ := handled
      rw [Config.busy, running] at irqIdle
      cases irqIdle
    · exact Option.isNone_iff_eq_none.mp (Option.isSome_eq_false_iff.mp pollIdle)
  have empty := (claim demoExterns openNic c past (by decide) openNic_openIdle run).2 rest
  cases frames.symm.trans empty

end ScullDrivers.Nic
