import ScullDrivers.Interaction.Threads
import ScullDrivers.Nic.Kernel

/-!
# The driver among its callers

`nic` runs the functions of the driver side by side, each in the context the kernel calls it from:
probe and remove of the PCI core, open and stop under the rtnl lock, transmits, the interrupt handler
and the poll.  A context runs one function at a time.  The device may raise any status bits, and a
frame may arrive, at any moment.

`State.admits` says when the kernel may make each call.  A result about some of the functions only
takes the machine in which just their contexts are `present`.
-/

namespace ScullDrivers.Nic

open Interaction

/-- Where the driver is called from. -/
inductive Context
  | pci | net | xmit | irq | poll
  deriving DecidableEq

/-- Calls of the driver. -/
inductive Request
  | probe
  | remove
  | open
  | stop
  | xmit (skb : SkBuff)
  | interrupt
  | poll (budget : Nat)

/-- The context a call is made from. -/
def Request.context : Request → Context
  | .probe | .remove => .pci
  | .open | .stop => .net
  | .xmit _ => .xmit
  | .interrupt => .irq
  | .poll _ => .poll

/-- The function called. -/
def Request.code (b : Externs) : Request → Code
  | .probe => mynicProbe
  | .remove => mynicRemove
  | .open => mynicOpen b
  | .stop => mynicStop
  | .xmit skb => mynicStartXmit b skb
  | .interrupt => mynicInterrupt b
  | .poll budget => mynicPoll b budget

/-- The kernel may make the call. -/
def State.admits (s : State Context) : Request → Prop
  | .probe => s.binding = .unbound
  | .remove => s.binding = .bound
  | .open => s.registered = true ∧ s.rtnl = none ∧ (s.iface = .fresh ∨ s.iface = .stopped)
  | .stop => s.registered = true ∧ s.rtnl = none ∧ s.iface = .up
  | .xmit _ => s.registered = true
  | .interrupt => s.irqRequested = true
  | .poll _ => s.napi.enabled = true ∧ s.napi.sched = true

/-- What the kernel notes when it makes the call. -/
def State.enter (s : State Context) : Request → State Context
  | .probe => { s with binding := .probing }
  | .remove => { s with binding := .removing }
  | .open => { s with rtnl := some .net, iface := .opening }
  | .stop => { s with rtnl := some .net, iface := .stopping }
  | .xmit _ => s
  | .interrupt => { s with irqRunning := true }
  | .poll _ => { s with napi := { s.napi with polling := true } }

/-- What the kernel notes when the function called from a context returns. -/
def State.leave (s : State Context) : Context → Int → State Context
  | .pci, err =>
      { s with binding := if s.binding = .probing ∧ err = 0 then .bound else .unbound }
  | .net, _ => { s with rtnl := none, iface := if s.iface = .opening then .up else .stopped }
  | .xmit, _ => s
  | .irq, _ => { s with irqRunning := false }
  | .poll, _ => { s with napi := { s.napi with polling := false } }

/-- What the device does by itself. -/
inductive Device
  | report (status : BitVec 32)
  | arrive (frame : Packet)

/-- The effect of a move of the device.  Every arrival raises `RX_INTR`. -/
def State.device (b : Externs) (s : State Context) : Device → State Context
  | .report status => { s with intrStatus := s.intrStatus ||| status }
  | .arrive frame =>
      { s with rxQueue := s.rxQueue ++ [frame], intrStatus := s.intrStatus ||| b.RX_INTR }

/-- The driver called from the contexts that are `present`. -/
def nic (b : Externs) (present : Context → Bool) :
    Machine Context Request Call Resp Int (State Context) Device where
  slot := Request.context
  code := Request.code b
  mayStart _ q s := present q.context = true ∧ s.admits q
  begun q s := s.enter q
  mayRun _ _ := True
  returns := returns
  effect := effect
  finished i a s := s.leave i a
  device h s := s.device b h

/-- A configuration of the driver among its callers. -/
abbrev NicConfig := Config Context Call Resp Int (State Context)

/-- A step of the driver, of a caller or of the device. -/
abbrev NicMove := Move Context Request Call Resp Int Device

instance (e : Call) : Nonempty (Resp e) := by
  cases e <;> exact ⟨default⟩

/-! ## Running it -/

instance (s : State Context) (q : Request) : Decidable (s.admits q) := by
  cases q <;> first | exact decEq _ _ | exact instDecidableAnd

instance (b : Externs) (present : Context → Bool) (busy : Context → Bool) (q : Request)
    (s : State Context) : Decidable ((nic b present).mayStart busy q s) :=
  inferInstanceAs (Decidable (_ ∧ s.admits q))

instance (b : Externs) (present : Context → Bool) (busy : Context → Bool) (i : Context) :
    Decidable ((nic b present).mayRun busy i) :=
  inferInstanceAs (Decidable True)

instance (b : Externs) (present : Context → Bool) (e : Call) (s : State Context) (r : Resp e) :
    Decidable ((nic b present).returns e s r) :=
  inferInstanceAs (Decidable (returns e s r))

/-! ## What the contexts call -/

/-- The calls of a context; those of probe and remove are not restricted. -/
def Context.calls : Context → Call → Prop
  | .pci, _ => True
  | .net, .napiEnable | .net, .napiDisable | .net, .netifStartQueue | .net, .netifStopQueue
  | .net, .writelControl _ => True
  | .xmit, .dmaMapSingle _ _ | .xmit, .spinLock | .xmit, .spinUnlock | .xmit, .loadTxHead
  | .xmit, .storeTxHead _ | .xmit, .storeTxSkbuff _ _ | .xmit, .writelTx _ => True
  | .irq, .readlIntrStatus | .irq, .writelIntrStatus _ | .irq, .napiSchedule | .irq, .spinLock
  | .irq, .spinUnlock | .irq, .packetsSent | .irq, .loadTxTail | .irq, .storeTxTail _
  | .irq, .loadTxSkbuff _ | .irq, .storeTxSkbuff _ _ | .irq, .dmaUnmapSingle _ _
  | .irq, .devKfreeSkbIrq _ | .irq, .netifWakeQueue => True
  | .poll, .packetsAvailable | .poll, .rxDescriptor | .poll, .netdevAllocSkbIpAlign _
  | .poll, .netifReceiveSkb _ | .poll, .napiCompleteDone _ | .poll, .writelControl _ => True
  | _, _ => False

variable {b : Externs}

theorem mynicInterruptRx_onlyCalls {P : Call → Prop} {status : BitVec 32} (schedule : P .napiSchedule) :
    (mynicInterruptRx b status).OnlyCalls P := by
  unfold mynicInterruptRx
  split
  · exact ⟨schedule, fun _ => trivial⟩
  · trivial

theorem mynicInterruptReclaim_calls (sent : Nat) :
    (mynicInterruptReclaim sent).OnlyCalls Context.irq.calls := by
  induction sent with
  | zero => trivial
  | succ sent ih =>
      simp only [mynicInterruptReclaim, perform_bind, onlyCalls_call]
      refine ⟨trivial, fun idx => ⟨trivial, fun skb => ?_⟩⟩
      refine Prog.OnlyCalls.bind ?_ fun _ => ⟨trivial, fun _ => ⟨trivial, fun _ => ih⟩⟩
      cases skb with
      | none => trivial
      | some skb => exact ⟨trivial, fun _ => ⟨trivial, fun _ => ⟨trivial, fun _ => trivial⟩⟩⟩

theorem mynicInterrupt_calls : (mynicInterrupt b).OnlyCalls Context.irq.calls := by
  simp only [mynicInterrupt_eq, mynicInterruptStatus, perform_bind, onlyCalls_call]
  refine ⟨trivial, fun status => ⟨trivial, fun _ => ?_⟩⟩
  refine Prog.OnlyCalls.bind (mynicInterruptRx_onlyCalls trivial) fun _ =>
    Prog.OnlyCalls.bind ?_ fun _ => trivial
  unfold mynicInterruptTx
  split
  · simp only [perform_bind, onlyCalls_call]
    refine ⟨trivial, fun _ => ⟨trivial, fun sent => ?_⟩⟩
    exact Prog.OnlyCalls.bind (mynicInterruptReclaim_calls sent) fun _ =>
      ⟨trivial, fun _ => ⟨trivial, fun _ => trivial⟩⟩
  · trivial

theorem mynicPollEnd_calls (budget rxDone : Nat) :
    (mynicPollEnd b budget rxDone).OnlyCalls Context.poll.calls := by
  unfold mynicPollEnd
  split
  · exact ⟨trivial, fun _ => ⟨trivial, fun _ => trivial⟩⟩
  · trivial

theorem mynicPollLoop_calls (budget left rxDone : Nat) :
    (mynicPollLoop b budget left rxDone).OnlyCalls Context.poll.calls := by
  induction left generalizing rxDone with
  | zero => exact mynicPollEnd_calls budget rxDone
  | succ left ih =>
      unfold mynicPollLoop
      refine ⟨trivial, fun available => ?_⟩
      cases available with
      | false => exact mynicPollEnd_calls budget rxDone
      | true =>
          refine ⟨trivial, fun buf => ⟨trivial, fun allocated => ?_⟩⟩
          cases allocated with
          | false => exact mynicPollEnd_calls budget rxDone
          | true => exact ⟨trivial, fun _ => ih (rxDone + 1)⟩

/-- Every function makes the calls of its context only. -/
theorem Request.code_calls (q : Request) : (q.code b).OnlyCalls q.context.calls := by
  cases q with
  | probe | remove => exact Prog.onlyCalls_of_forall fun _ => trivial
  | «open» | stop =>
      exact ⟨trivial, fun _ => ⟨trivial, fun _ => ⟨trivial, fun _ => trivial⟩⟩⟩
  | xmit skb =>
      exact ⟨trivial, fun _ => ⟨trivial, fun _ => ⟨trivial, fun _ => ⟨trivial, fun _ => ⟨trivial,
        fun _ => ⟨trivial, fun _ => ⟨trivial, fun _ => ⟨trivial, fun _ => trivial⟩⟩⟩⟩⟩⟩⟩⟩
  | interrupt => exact mynicInterrupt_calls
  | poll budget => exact mynicPollLoop_calls budget budget 0

/-- All that is left of the running functions makes the calls of its context only. -/
def WithinCalls (c : NicConfig) : Prop :=
  ∀ i p, c.threads i = some p → p.OnlyCalls i.calls

section

variable {present : Context → Bool} {c c' : NicConfig} {m : NicMove}

theorem WithinCalls.step (step : (nic b present).Step c m c') (inv : WithinCalls c) :
    WithinCalls c' :=
  step.threads (T := fun (i : Context) (p : Code) => p.OnlyCalls i.calls) Request.code_calls
    (fun only => only.2 _) inv

/-- The call a context makes is one of its own. -/
theorem WithinCalls.head (inv : WithinCalls c) {i : Context} {e : Call} {k : Resp e → Code}
    (head : c.threads i = some (.call e k)) : i.calls e :=
  (inv i _ head).1

/-- A context that is not present runs nothing. -/
theorem threads_eq_none_step {i : Context} (absent : present i = false)
    (step : (nic b present).Step c m c') (idle : c.threads i = none) : c'.threads i = none := by
  cases step with
  | @start q free may =>
      have other : i ≠ (nic b present).slot q := by
        intro same
        have here := may.1
        rw [← show i = q.context from same, absent] at here
        cases here
      rwa [Config.set_threads_of_ne other]
  | @call j e k r head may answer =>
      have other : i ≠ j := by
        intro same
        subst same
        rw [idle] at head
        cases head
      rwa [Config.set_threads_of_ne other]
  | @finish j a head may =>
      have other : i ≠ j := by
        intro same
        subst same
        rw [idle] at head
        cases head
      rwa [Config.set_threads_of_ne other]
  | device => exact idle

end

end ScullDrivers.Nic
