import ScullDrivers.Nic.System

/-!
# After `mynic_stop`

`mynic_stop` clears the control register, stops the transmit queue and only then waits for a running
poll; it never waits for the interrupt handler.  A poll that writes the control register again, or a
handler that wakes the queue again, between the write and the return of `mynic_stop` undoes it.

`Passed` is that window, and a run in which neither happens inside it leaves the register at 0 and
the queue stopped from every return of `mynic_stop` to the next `mynic_open` (`quiesced_after_stop`),
over any number of up and down cycles.
-/

namespace ScullDrivers.Nic

open Interaction

/-- Every caller of a bound device: all but probe and remove. -/
def boundCallers (i : Context) : Bool := i ≠ .pci

/-- A bound device that nothing runs for, never opened so far. -/
structure NeverOpened (c : NicConfig) : Prop where
  threads : ∀ i, c.threads i = none
  iface : c.state.iface = .fresh

/-- `mynic_stop` has made the call `e`, and `mynic_open` has not begun since. -/
def Passed (c : NicConfig) (e : Call) : Prop :=
  c.state.iface = .stopped ∨
    c.state.iface = .stopping ∧ ∀ p, c.threads .net = some p → p.OnlyCalls (· ≠ e)

/-- The step does not write the control register in the poll after `mynic_stop` has cleared it, nor
wake the queue in the interrupt handler after `mynic_stop` has stopped it. -/
def StopUndisturbed (c : NicConfig) : NicMove → Prop
  | .call .poll (.writelControl _) _ => ¬ Passed c (.writelControl 0)
  | .call .irq .netifWakeQueue _ => ¬ Passed c .netifStopQueue
  | _ => True

/-- From the return of `mynic_stop` on, the control register is 0 and the queue is stopped. -/
def Quiesced (c : NicConfig) : Prop :=
  c.state.iface = .stopped → c.state.control = 0 ∧ c.state.queueStopped = true

/-! ## What the calls leave alone -/

section Frame

variable {τ : Type} {i : τ} {e : Call} {s : State τ} {r : Resp e}

theorem effect_control (other : ∀ v, e ≠ .writelControl v) :
    (effect i e s r).control = s.control := by
  cases e with
  | writelControl v => exact absurd rfl (other v)
  | allocEtherdev =>
      by_cases null : r = 0
      · simp only [effect, null, if_true]
      · simp only [effect, null, if_false, State.allocNetdev]
  | _ => rfl

theorem effect_queueStopped (alloc : e ≠ .allocEtherdev) (start : e ≠ .netifStartQueue)
    (stop : e ≠ .netifStopQueue) (wake : e ≠ .netifWakeQueue) :
    (effect i e s r).queueStopped = s.queueStopped := by
  cases e with
  | allocEtherdev => exact absurd rfl alloc
  | netifStartQueue => exact absurd rfl start
  | netifStopQueue => exact absurd rfl stop
  | netifWakeQueue => exact absurd rfl wake
  | _ => rfl

theorem effect_iface (alloc : e ≠ .allocEtherdev) (unlist : ∀ netdev, e ≠ .unlistNetdevice netdev) :
    (effect i e s r).iface = s.iface := by
  cases e with
  | allocEtherdev => exact absurd rfl alloc
  | unlistNetdevice netdev => exact absurd rfl (unlist netdev)
  | _ => rfl

end Frame

/-- Only probe and remove change the state of the interface. -/
theorem iface_of_calls {i : Context} {e : Call} {s : State Context} {r : Resp e} (bound : i ≠ .pci)
    (own : i.calls e) : (effect i e s r).iface = s.iface := by
  refine effect_iface (fun same => ?_) (fun netdev same => ?_)
  · subst same
    cases i with
    | pci => exact bound rfl
    | _ => exact own
  · subst same
    cases i with
    | pci => exact bound rfl
    | _ => exact own

/-! ## The invariant -/

/-- The calls of `mynic_stop`. -/
def StopCalls : Call → Prop
  | .writelControl v => v = 0
  | .netifStopQueue | .napiDisable => True
  | _ => False

theorem mynicStop_calls : mynicStop.OnlyCalls StopCalls :=
  ⟨rfl, fun _ => ⟨trivial, fun _ => ⟨trivial, fun _ => trivial⟩⟩⟩

/-- What holds between any two steps. -/
structure StopInv (c : NicConfig) : Prop where
  within : WithinCalls c
  absent : c.threads .pci = none
  /-- The net context runs `mynic_open` or what is left of `mynic_stop`. -/
  busy : ∀ p, c.threads .net = some p →
    c.state.iface = .opening ∨ c.state.iface = .stopping ∧ p.OnlyCalls StopCalls
  control : Passed c (.writelControl 0) → c.state.control = 0
  queue : Passed c .netifStopQueue → c.state.queueStopped = true

section

variable {b : Externs} {c₀ c c' : NicConfig} {m : NicMove} {past : List (NicConfig × NicMove)}

theorem NeverOpened.inv (fresh : NeverOpened c) : StopInv c where
  within := by
    intro i p running
    rw [fresh.threads] at running
    cases running
  absent := fresh.threads .pci
  busy := by
    intro p running
    rw [fresh.threads] at running
    cases running
  control := by
    intro passed
    rcases passed with stopped | ⟨stopping, -⟩
    · cases fresh.iface.symm.trans stopped
    · cases fresh.iface.symm.trans stopping
  queue := by
    intro passed
    rcases passed with stopped | ⟨stopping, -⟩
    · cases fresh.iface.symm.trans stopped
    · cases fresh.iface.symm.trans stopping

theorem StopInv.quiesced (inv : StopInv c) : Quiesced c := fun stopped =>
  ⟨inv.control (.inl stopped), inv.queue (.inl stopped)⟩

/-- A step outside the net context does not move the window. -/
theorem Passed.of_frame {e : Call} (passed : Passed c' e) (net : c'.threads .net = c.threads .net)
    (iface : c'.state.iface = c.state.iface) : Passed c e := by
  rw [Passed, net, iface] at passed
  exact passed

/-- The invariant after a step that neither changes the net context, nor the interface, nor writes
in the window. -/
theorem StopInv.of_frame (inv : StopInv c) (within : WithinCalls c') (absent : c'.threads .pci = none)
    (net : c'.threads .net = c.threads .net) (iface : c'.state.iface = c.state.iface)
    (control : Passed c (.writelControl 0) → c'.state.control = c.state.control)
    (queue : Passed c .netifStopQueue → c'.state.queueStopped = c.state.queueStopped) :
    StopInv c' where
  within := within
  absent := absent
  busy := by
    rw [net, iface]
    exact inv.busy
  control := by
    intro passed
    have before := passed.of_frame net iface
    exact (control before).trans (inv.control before)
  queue := by
    intro passed
    have before := passed.of_frame net iface
    exact (queue before).trans (inv.queue before)

/-- The window is closed while `mynic_open` runs. -/
theorem not_passed_of_opening {e : Call} (opening : c.state.iface = .opening) : ¬ Passed c e := by
  intro passed
  rcases passed with stopped | ⟨stopping, -⟩
  · cases opening.symm.trans stopped
  · cases opening.symm.trans stopping

/-- The programs of the net context. -/
theorem StopInv.start (inv : StopInv c) {q : Request} (idle : c.threads q.context = none)
    (may : c.state.admits q) (bound : q.context ≠ .pci)
    (within : WithinCalls (c.set (c.state.enter q) q.context (some (q.code b)))) :
    StopInv (c.set (c.state.enter q) q.context (some (q.code b))) := by
  have absent : (c.set (c.state.enter q) q.context (some (q.code b))).threads .pci = none := by
    rw [Config.set_threads_of_ne bound.symm]
    exact inv.absent
  cases q with
  | probe | remove => exact absurd rfl bound
  | xmit skb | interrupt | poll budget =>
      exact inv.of_frame within absent rfl rfl (fun _ => rfl) (fun _ => rfl)
  | «open» =>
      have opening : (c.set (c.state.enter .open) Context.net (some (mynicOpen b))).state.iface =
          .opening := rfl
      exact ⟨within, absent, fun p _ => .inl opening,
        fun passed => absurd passed (not_passed_of_opening opening),
        fun passed => absurd passed (not_passed_of_opening opening)⟩
  | stop =>
      refine ⟨within, absent, fun p running => .inr ⟨rfl, ?_⟩, fun passed => ?_, fun passed => ?_⟩
      · cases running
        exact mynicStop_calls
      · rcases passed with stopped | ⟨-, behind⟩
        · cases stopped
        · exact absurd rfl (behind mynicStop rfl).1
      · rcases passed with stopped | ⟨-, behind⟩
        · cases stopped
        · exact absurd rfl ((behind mynicStop rfl).2 ()).1

/-- A call of `mynic_open` or `mynic_stop`. -/
theorem StopInv.netCall (inv : StopInv c) {e : Call} {k : Resp e → Code} {r : Resp e}
    (head : c.threads .net = some (.call e k))
    (within : WithinCalls (c.set (effect .net e c.state r) .net (some (k r)))) :
    StopInv (c.set (effect .net e c.state r) .net (some (k r))) := by
  have iface : (effect Context.net e c.state r).iface = c.state.iface :=
    iface_of_calls (by decide) (inv.within.head head)
  have absent := inv.absent
  rcases inv.busy _ head with opening | ⟨stopping, only⟩
  · have opening : (effect Context.net e c.state r).iface = .opening := iface.trans opening
    exact ⟨within, absent, fun p _ => .inl opening,
      fun passed => absurd passed (not_passed_of_opening opening),
      fun passed => absurd passed (not_passed_of_opening opening)⟩
  · have stopping' : (effect Context.net e c.state r).iface = .stopping := iface.trans stopping
    have notStopped : (effect Context.net e c.state r).iface ≠ .stopped := by
      rw [stopping']
      decide
    -- a call passed in the branch was made just now or was passed before
    have before : ∀ {e'}, Passed (c.set (effect .net e c.state r) .net (some (k r))) e' →
        (∀ r', (k r') = k r) → e ≠ e' → Passed c e' := by
      intro e' passed same ne
      rcases passed with stopped | ⟨-, behind⟩
      · exact absurd stopped notStopped
      · refine .inr ⟨stopping, fun p running => ?_⟩
        cases head.symm.trans running
        exact ⟨ne, fun r' => same r' ▸ behind (k r) rfl⟩
    have busy : ∀ p, some (k r) = some p → (effect Context.net e c.state r).iface = .opening ∨
        (effect Context.net e c.state r).iface = .stopping ∧ p.OnlyCalls StopCalls := by
      intro p running
      cases running
      exact .inr ⟨stopping', only.2 r⟩
    have call := only.1
    cases e with
    | writelControl v =>
        obtain rfl : v = 0 := call
        exact ⟨within, absent, busy, fun _ => rfl,
          fun passed => inv.queue (before passed (fun _ => rfl) Call.noConfusion)⟩
    | netifStopQueue =>
        exact ⟨within, absent, busy,
          fun passed => inv.control (before passed (fun _ => rfl) Call.noConfusion), fun _ => rfl⟩
    | napiDisable =>
        exact ⟨within, absent, busy,
          fun passed => inv.control (before passed (fun _ => rfl) Call.noConfusion),
          fun passed => inv.queue (before passed (fun _ => rfl) Call.noConfusion)⟩
    | _ => exact absurd call id

/-- A call made outside the net context. -/
theorem StopInv.otherCall (inv : StopInv c) {i : Context} {e : Call} {k : Resp e → Code}
    {r : Resp e} (head : c.threads i = some (.call e k)) (bound : i ≠ .pci) (other : i ≠ .net)
    (ok : StopUndisturbed c (.call i e r))
    (within : WithinCalls (c.set (effect i e c.state r) i (some (k r)))) :
    StopInv (c.set (effect i e c.state r) i (some (k r))) := by
  have own := inv.within.head head
  have absent : (c.set (effect i e c.state r) i (some (k r))).threads .pci = none := by
    rw [Config.set_threads_of_ne bound.symm]
    exact inv.absent
  refine inv.of_frame within absent (Config.set_threads_of_ne other.symm) (iface_of_calls bound own)
    (fun passed => ?_) (fun passed => ?_)
  · cases i with
    | pci => exact absurd rfl bound
    | net => exact absurd rfl other
    | xmit | irq =>
        refine effect_control fun v same => ?_
        subst same
        exact own
    | poll =>
        refine effect_control fun v same => ?_
        subst same
        exact ok passed
  · cases i with
    | pci => exact absurd rfl bound
    | net => exact absurd rfl other
    | xmit | poll =>
        refine effect_queueStopped ?_ ?_ ?_ ?_ <;>
          · intro same
            subst same
            exact own
    | irq =>
        refine effect_queueStopped ?_ ?_ ?_ fun same => ?_
        · intro same
          subst same
          exact own
        · intro same
          subst same
          exact own
        · intro same
          subst same
          exact own
        · subst same
          exact ok passed

/-- A function returning. -/
theorem StopInv.finish (inv : StopInv c) {i : Context} {a : Int}
    (head : c.threads i = some (.ret a))
    (within : WithinCalls (c.set (c.state.leave i a) i none)) :
    StopInv (c.set (c.state.leave i a) i none) := by
  cases i with
  | pci => cases inv.absent.symm.trans head
  | xmit | irq | poll =>
      exact inv.of_frame within inv.absent rfl rfl (fun _ => rfl) (fun _ => rfl)
  | net =>
      have idle : ∀ p, (c.set (c.state.leave .net a) Context.net none).threads .net = some p →
          False := by
        intro p running
        cases running
      rcases inv.busy _ head with opening | ⟨stopping, -⟩
      · have up : (c.state.leave .net a).iface = .up := if_pos opening
        have closed : ∀ e, ¬ Passed (c.set (c.state.leave .net a) Context.net none) e := by
          intro e passed
          rcases passed with stopped | ⟨stopping, -⟩
          · cases up.symm.trans stopped
          · cases up.symm.trans stopping
        exact ⟨within, inv.absent, fun p running => (idle p running).elim,
          fun passed => absurd passed (closed _), fun passed => absurd passed (closed _)⟩
      · -- everything `mynic_stop` calls is behind it
        have passed : ∀ e, Passed c e := fun e => .inr ⟨stopping, fun p running => by
          cases head.symm.trans running
          trivial⟩
        exact ⟨within, inv.absent, fun p running => (idle p running).elim,
          fun _ => inv.control (passed _), fun _ => inv.queue (passed _)⟩

/-- Every undisturbed step keeps the invariant. -/
theorem StopInv.step (step : (nic b boundCallers).Step c m c') (ok : StopUndisturbed c m)
    (inv : StopInv c) : StopInv c' := by
  have within := inv.within.step step
  cases step with
  | @start q idle may => exact inv.start idle may.2 (of_decide_eq_true may.1) within
  | @call i e k r head may answer =>
      by_cases net : i = .net
      · subst net
        exact inv.netCall head within
      · refine inv.otherCall head (fun pci => ?_) net ok within
        subst pci
        cases inv.absent.symm.trans head
  | finish head may => exact inv.finish head within
  | @device h =>
      cases h with
      | report status | arrive frame =>
          exact inv.of_frame within inv.absent rfl rfl (fun _ => rfl) (fun _ => rfl)

/-- **Quiescence after `mynic_stop`.**  In any run from a device never opened, whose polls and
interrupt handlers do not write in the window of `mynic_stop`, the control register is 0 and the
queue is stopped from every return of `mynic_stop` until the next `mynic_open` begins. -/
theorem quiesced_after_stop (run : Run (nic b boundCallers).Step c₀ past c) (fresh : NeverOpened c₀)
    (steps : AllSteps StopUndisturbed past) : Always Quiesced past c := by
  have inv : Always StopInv past c := run.always fresh.inv StopInv.step steps
  exact inv.mono fun _ => StopInv.quiesced

end

/-! ## Two cycles -/

/-- A bound device with its interrupt requested, never opened. -/
def boundNic : NicConfig :=
  ⟨{ napi := { added := true }, registered := true, irqRequested := true, binding := .bound },
    fun _ => none⟩

theorem boundNic_neverOpened : NeverOpened boundNic := ⟨fun _ => rfl, rfl⟩

/-- The interface opened, an interrupt with the given status taken, and a poll that finds nothing run
up to its last write. -/
def openAndPoll (status : BitVec 32) : List NicMove :=
  [.start .open, .call .net .napiEnable (), .call .net .netifStartQueue (),
    .call .net (.writelControl 3) (), .finish .net 0, .device (.report status), .start .interrupt,
    .call .irq .readlIntrStatus status, .call .irq (.writelIntrStatus status) (),
    .call .irq .napiSchedule (), .finish .irq 1, .start (.poll 64),
    .call .poll .packetsAvailable false, .call .poll (.napiCompleteDone 0) ()]

/-- The poll finishes, and then the interface is stopped. -/
def pollThenStop : List NicMove :=
  openAndPoll 1 ++ [.call .poll (.writelControl 3) (), .finish .poll 0, .start .stop,
    .call .net (.writelControl 0) (), .call .net .netifStopQueue (), .call .net .napiDisable (),
    .finish .net 0]

/-- The interface is stopped, and the poll finishes while `mynic_stop` waits for it. -/
def stopDuringPoll : List NicMove :=
  openAndPoll 1 ++ [.start .stop, .call .net (.writelControl 0) (), .call .net .netifStopQueue (),
    .call .poll (.writelControl 3) (), .finish .poll 0, .call .net .napiDisable (), .finish .net 0]

/-- Neither function writes at all while the interface is going down or is down. -/
def WritesWhileUp (c : NicConfig) : NicMove → Prop
  | .call .poll (.writelControl _) _ | .call .irq .netifWakeQueue _ =>
      c.state.iface ≠ .stopping ∧ c.state.iface ≠ .stopped
  | _ => True

theorem WritesWhileUp.stopUndisturbed {c : NicConfig} {m : NicMove} (up : WritesWhileUp c m) :
    StopUndisturbed c m := by
  unfold StopUndisturbed
  split
  · intro passed
    rcases passed with stopped | ⟨stopping, -⟩
    · exact up.2 stopped
    · exact up.1 stopping
  · intro passed
    rcases passed with stopped | ⟨stopping, -⟩
    · exact up.2 stopped
    · exact up.1 stopping
  · trivial

instance (c : NicConfig) (m : NicMove) : Decidable (WritesWhileUp c m) :=
  match m with
  | .call .poll e r => by
      revert r
      apply Call.casesOn (motive := fun e => ∀ r, Decidable (WritesWhileUp c (.call .poll e r))) e
        <;> intros <;> first | exact instDecidableTrue | exact instDecidableAnd
  | .call .irq e r => by
      revert r
      apply Call.casesOn (motive := fun e => ∀ r, Decidable (WritesWhileUp c (.call .irq e r))) e
        <;> intros <;> first | exact instDecidableTrue | exact instDecidableAnd
  | .call .pci _ _ | .call .net _ _ | .call .xmit _ _ => instDecidableTrue
  | .start _ | .finish _ _ | .device _ => instDecidableTrue

/-- A cycle in which the poll is over before the interface is stopped. -/
theorem quiesced_after_stop_cycle :
    ∃ past c, Run (nic demoExterns boundCallers).Step boundNic past c ∧ c.state.iface = .stopped ∧
      Always Quiesced past c := by
  obtain ⟨past, c, run, steps, stopped⟩ := Machine.run_of_play (M := nic demoExterns boundCallers)
    WritesWhileUp pollThenStop boundNic (fun c => c.state.iface = .stopped) (by decide)
  exact ⟨past, c, run, of_decide_eq_true stopped, quiesced_after_stop run boundNic_neverOpened
    fun x mem => (steps x mem).stopUndisturbed⟩

/-- A cycle in which the poll in progress writes the control register again. -/
theorem stop_not_quiesced :
    ¬ ∀ (b : Externs) (c₀ c : NicConfig) (past : List (NicConfig × NicMove)),
      NeverOpened c₀ → Run (nic b boundCallers).Step c₀ past c → Always Quiesced past c := by
  intro claim
  obtain ⟨past, c, run, -, reached⟩ := Machine.run_of_play (M := nic demoExterns boundCallers)
    (fun _ _ => True) stopDuringPoll boundNic
    (fun c => c.state.iface = .stopped ∧ c.state.control = 3) (by decide)
  obtain ⟨stopped, rewritten⟩ := of_decide_eq_true reached
  have cleared := ((claim demoExterns boundNic c past boundNic_neverOpened run).2 stopped).1
  exact absurd (rewritten.symm.trans cleared) (by decide)

end ScullDrivers.Nic
