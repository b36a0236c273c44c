import ScullDrivers.Interaction.Threads
import ScullDrivers.Nic.Kernel

/-!
# The transmit lock against the interrupt handler

Any number of CPUs run `mynic_start_xmit`, and a hard interrupt may arrive on each of them between
any two of its steps: the handler then runs to its end before the transmit path goes on.  Neither
function disables interrupts while it holds `priv->lock`, so a handler that takes the lock on a CPU
whose own transmit path holds it waits for ever.

What decides is the status word the handler reads in that window: with `TX_INTR` in it the handler
ends up waiting (`selfDeadlock_of_txIntr`), and a run in which no handler reads such a word there
never reaches the deadlock (`selfDeadlock_free`).
-/

namespace ScullDrivers.Nic

open Interaction

/-! ## CPUs with interrupts enabled -/

/-- What runs on a CPU: the transmit path, and a hard interrupt on top of it. -/
inductive Level
  | xmit | irq
  deriving DecidableEq

/-- A packet handed to the transmit path on a CPU, or an interrupt arriving there. -/
inductive CpuRequest (Cpu : Type)
  | xmit (cpu : Cpu) (skb : SkBuff)
  | interrupt (cpu : Cpu)

variable {Cpu : Type}

/-- The slot of a request. -/
def CpuRequest.slot : CpuRequest Cpu → Cpu × Level
  | .xmit cpu _ => (cpu, .xmit)
  | .interrupt cpu => (cpu, .irq)

/-- The function that serves a request. -/
def CpuRequest.code (b : Externs) : CpuRequest Cpu → Code
  | .xmit _ skb => mynicStartXmit b skb
  | .interrupt _ => mynicInterrupt b

/-- The transmit path of a CPU runs only while no interrupt handler does. -/
def CpuRuns (busy : Cpu × Level → Bool) (i : Cpu × Level) : Prop :=
  i.2 = .xmit → busy (i.1, .irq) = false

/-- The CPUs; the device may report any status word at any moment. -/
def cpus (Cpu : Type) (b : Externs) :
    Machine (Cpu × Level) (CpuRequest Cpu) Call Resp Int (State (Cpu × Level)) (BitVec 32) where
  slot := CpuRequest.slot
  code := CpuRequest.code b
  mayStart busy q _ := CpuRuns busy q.slot
  begun _ s := s
  mayRun := CpuRuns
  returns := returns
  effect := effect
  finished _ _ s := s
  device status s := { s with intrStatus := status }

/-- A configuration of the CPUs. -/
abbrev CpuConfig (Cpu : Type) := Config (Cpu × Level) Call Resp Int (State (Cpu × Level))

/-- A move of a CPU, or a status word the device reports. -/
abbrev CpuMove (Cpu : Type) := Move (Cpu × Level) (CpuRequest Cpu) Call Resp Int (BitVec 32)

/-- The handler is about to take `priv->lock` on a CPU whose interrupted `mynic_start_xmit` holds
it. -/
def SelfDeadlock (c : CpuConfig Cpu) : Prop :=
  ∃ cpu k, c.threads (cpu, .irq) = some (.call .spinLock k) ∧ c.state.lock = some (cpu, .xmit)

/-- The step does not read a status word with `TX_INTR` in it on a CPU whose interrupted
`mynic_start_xmit` holds `priv->lock`. -/
def QuietWindow (b : Externs) (c : CpuConfig Cpu) : CpuMove Cpu → Prop
  | .call i .readlIntrStatus _ =>
      i.2 = .irq → c.state.lock = some (i.1, .xmit) → c.state.intrStatus &&& b.TX_INTR = 0
  | _ => True

/-- Nothing runs, and the lock is free. -/
structure CpusIdle (c : CpuConfig Cpu) : Prop where
  threads : ∀ i, c.threads i = none
  lock : c.state.lock = none

/-! ## The invariant -/

/-- A call leaves the lock alone, frees it, or takes it for the thread that made the call. -/
theorem effect_lock {τ : Type} (i : τ) (e : Call) (s : State τ) (r : Resp e) :
    (effect i e s r).lock = s.lock ∨ (effect i e s r).lock = none ∨
      (effect i e s r).lock = some i := by
  cases e with
  | spinLock => exact .inr (.inr rfl)
  | spinLockInit | spinUnlock => exact .inr (.inl rfl)
  | allocEtherdev =>
      by_cases null : r = 0
      · exact .inl (by simp only [effect, null, if_true])
      · exact .inr (.inl (by simp only [effect, null, if_false, State.allocNetdev]))
  | _ => exact .inl rfl

/-- The handler has read nothing yet, has no `spin_lock` ahead, or runs while the transmit path it
interrupted does not hold the lock. -/
def HandlerSafe (b : Externs) (c : CpuConfig Cpu) : Prop :=
  ∀ cpu p, c.threads (cpu, .irq) = some p →
    p = mynicInterrupt b ∨ p.OnlyCalls (· ≠ .spinLock) ∨ c.state.lock ≠ some (cpu, .xmit)

section

variable {b : Externs} {c₀ c c' : CpuConfig Cpu} {past : List (CpuConfig Cpu × CpuMove Cpu)}
  {m : CpuMove Cpu}

/-- Without `TX_INTR` the handler does not take the lock. -/
theorem mynicInterruptStatus_onlyCalls {status : BitVec 32} (quiet : status &&& b.TX_INTR = 0) :
    (mynicInterruptStatus b status).OnlyCalls (· ≠ .spinLock) := by
  simp only [mynicInterruptStatus, perform_bind, onlyCalls_call]
  refine ⟨Call.noConfusion, fun _ => ?_⟩
  refine Prog.OnlyCalls.bind ?_ fun _ => Prog.OnlyCalls.bind ?_ fun _ => trivial
  · unfold mynicInterruptRx
    split
    · exact ⟨Call.noConfusion, fun _ => trivial⟩
    · trivial
  · unfold mynicInterruptTx
    rw [if_neg (not_not.mpr quiet)]
    trivial

theorem CpusIdle.handlerSafe (idle : CpusIdle c) : HandlerSafe b c := by
  intro cpu p running
  rw [idle.threads] at running
  cases running

/-- What a handler that does not move needs of a step: the transmit path below it does not take the
lock. -/
theorem HandlerSafe.of_lock (inv : HandlerSafe b c) {cpu : Cpu} {p : Code}
    (running : c.threads (cpu, .irq) = some p)
    (lock : c'.state.lock = some (cpu, .xmit) → c.state.lock = some (cpu, .xmit)) :
    p = mynicInterrupt b ∨ p.OnlyCalls (· ≠ .spinLock) ∨ c'.state.lock ≠ some (cpu, .xmit) := by
  rcases inv cpu p running with fresh | only | free
  · exact .inl fresh
  · exact .inr (.inl only)
  · exact .inr (.inr fun held => free (lock held))

/-- One call of a handler. -/
theorem HandlerSafe.call {cpu : Cpu} {e : Call} {k : Resp e → Code} {r : Resp e}
    (inv : HandlerSafe b c) (head : c.threads (cpu, .irq) = some (.call e k))
    (answer : returns e c.state r) (quiet : QuietWindow b c (.call (cpu, .irq) e r)) :
    (k r).OnlyCalls (· ≠ .spinLock) ∨
      (effect (cpu, .irq) e c.state r).lock ≠ some (cpu, .xmit) := by
  have keep : c.state.lock ≠ some (cpu, .xmit) →
      (effect (cpu, .irq) e c.state r).lock ≠ some (cpu, .xmit) := by
    intro free held
    rcases effect_lock (cpu, Level.irq) e c.state r with same | none | mine
    · exact free (same.symm.trans held)
    · exact Option.some_ne_none _ (held.symm.trans none)
    · cases mine.symm.trans held
  rcases inv cpu _ head with fresh | only | free
  · by_cases held : c.state.lock = some (cpu, .xmit)
    · rw [mynicInterrupt_eq] at fresh
      cases fresh
      obtain rfl : r = c.state.intrStatus := answer
      exact .inl (mynicInterruptStatus_onlyCalls (quiet rfl held))
    · exact .inr (keep held)
  · exact .inl (only.2 r)
  · exact .inr (keep free)

theorem HandlerSafe.not_selfDeadlock (inv : HandlerSafe b c) : ¬ SelfDeadlock c := by
  intro dead
  obtain ⟨cpu, k, head, held⟩ := dead
  rcases inv cpu _ head with fresh | only | free
  · cases fresh
  · exact only.1 rfl
  · exact free held

variable [DecidableEq Cpu]

/-- Every step in a quiet window keeps the invariant. -/
theorem HandlerSafe.step (step : (cpus Cpu b).Step c m c') (quiet : QuietWindow b c m)
    (inv : HandlerSafe b c) : HandlerSafe b c' := by
  intro cpu p running
  cases step with
  | @start q idle may =>
      by_cases here : (cpu, .irq) = (cpus Cpu b).slot q
      · rw [here, Config.set_threads_self] at running
        cases running
        cases q with
        | xmit cpu' skb => cases here
        | interrupt cpu' => exact .inl rfl
      · rw [Config.set_threads_of_ne here] at running
        exact inv.of_lock running id
  | @call i e k r head may answer =>
      by_cases here : (cpu, .irq) = i
      · subst here
        rw [Config.set_threads_self] at running
        cases running
        exact .inr (inv.call head answer quiet)
      · rw [Config.set_threads_of_ne here] at running
        refine inv.of_lock running fun held => ?_
        rcases effect_lock i e c.state r with same | none | mine
        · exact same.symm.trans held
        · exact absurd (none.symm.trans held) (Option.some_ne_none _).symm
        · -- only the interrupted transmit path could take it, and that one does not run
          have taker : i = (cpu, .xmit) := Option.some.inj (mine.symm.trans held)
          subst taker
          have quietCpu := may rfl
          rw [Config.busy, running] at quietCpu
          cases quietCpu
  | @finish i a head may =>
      by_cases here : (cpu, .irq) = i
      · subst here
        rw [Config.set_threads_self] at running
        cases running
      · rw [Config.set_threads_of_ne here] at running
        exact inv.of_lock running id
  | device => exact inv.of_lock running id

/-- **No self-deadlock on the transmit lock**, on any number of CPUs, in any run in which no handler
reads `TX_INTR` on a CPU whose interrupted transmit path holds the lock. -/
theorem selfDeadlock_free (run : Run (cpus Cpu b).Step c₀ past c) (idle : CpusIdle c₀)
    (quiet : AllSteps (QuietWindow b) past) : Always (fun c => ¬ SelfDeadlock c) past c := by
  have inv : Always (HandlerSafe b) past c := run.always idle.handlerSafe HandlerSafe.step quiet
  exact inv.mono fun _ => HandlerSafe.not_selfDeadlock

/-! ## The window -/

/-- With `TX_INTR` in the status the handler takes the lock, at once or after it has scheduled the
poll. -/
theorem mynicInterruptStatus_tx {status : BitVec 32} (tx : status &&& b.TX_INTR ≠ 0) :
    ∃ k, mynicInterruptStatus b status = .call (.writelIntrStatus status) fun _ =>
      if status &&& b.RX_INTR ≠ 0 then .call .napiSchedule fun _ => .call .spinLock k
      else .call .spinLock k := by
  simp only [mynicInterruptStatus, mynicInterruptRx, mynicInterruptTx, perform_bind]
  rw [if_pos tx]
  by_cases rx : status &&& b.RX_INTR ≠ 0
  · simp only [rx, not_false_eq_true, if_true, ne_eq]
    exact ⟨_, rfl⟩
  · simp only [rx, if_false]
    exact ⟨_, rfl⟩

/-- A handler that is about to read `TX_INTR` on a CPU whose transmit path holds the lock can run
into the deadlock. -/
theorem selfDeadlock_of_txIntr {cpu : Cpu} (run : Run (cpus Cpu b).Step c₀ past c)
    (head : c.threads (cpu, .irq) = some (mynicInterrupt b))
    (held : c.state.lock = some (cpu, .xmit)) (tx : c.state.intrStatus &&& b.TX_INTR ≠ 0) :
    ∃ more c', Run (cpus Cpu b).Step c₀ (past ++ more) c' ∧ SelfDeadlock c' := by
  obtain ⟨k, shape⟩ := mynicInterruptStatus_tx tx
  have may : ∀ busy, (cpus Cpu b).mayRun busy (cpu, .irq) := fun _ xmit => Level.noConfusion xmit
  rw [mynicInterrupt_eq] at head
  have answer : returns .readlIntrStatus c.state c.state.intrStatus := rfl
  have read := run.snoc (.call head (may _) answer)
  rw [shape] at read
  have acked := read.snoc (.call (r := ()) Config.set_threads_self (may _) trivial)
  by_cases rx : c.state.intrStatus &&& b.RX_INTR ≠ 0
  · rw [if_pos rx] at acked
    have scheduled := acked.snoc (.call (r := ()) Config.set_threads_self (may _) trivial)
    rw [List.append_assoc, List.append_assoc] at scheduled
    exact ⟨_, _, scheduled, cpu, k, Config.set_threads_self, held⟩
  · rw [if_neg rx, List.append_assoc] at acked
    exact ⟨_, _, acked, cpu, k, Config.set_threads_self, held⟩

end

/-! ## One CPU -/

/-- One CPU that runs nothing. -/
def idleCpu : CpuConfig Unit := ⟨{}, fun _ => none⟩

theorem idleCpu_idle : CpusIdle idleCpu := ⟨fun _ => rfl, rfl⟩

instance (busy : Unit × Level → Bool) (i : Unit × Level) : Decidable (CpuRuns busy i) :=
  inferInstanceAs (Decidable (_ → _))

instance (busy : Unit × Level → Bool) (q : CpuRequest Unit) (s : State (Unit × Level)) :
    Decidable ((cpus Unit demoExterns).mayStart busy q s) :=
  inferInstanceAs (Decidable (CpuRuns busy q.slot))

instance (busy : Unit × Level → Bool) (i : Unit × Level) :
    Decidable ((cpus Unit demoExterns).mayRun busy i) :=
  inferInstanceAs (Decidable (CpuRuns busy i))

instance (e : Call) (s : State (Unit × Level)) (r : Resp e) :
    Decidable ((cpus Unit demoExterns).returns e s r) :=
  inferInstanceAs (Decidable (returns e s r))

instance (c : CpuConfig Unit) (m : CpuMove Unit) : Decidable (QuietWindow demoExterns c m) :=
  match m with
  | .call i e r => by
      revert r
      apply Call.casesOn (motive := fun e => ∀ r, Decidable (QuietWindow demoExterns c (.call i e r))) e
        <;> intros <;> first
        | exact instDecidableTrue
        | exact inferInstanceAs (Decidable (_ → _ → _))
  | .start _ | .finish _ _ | .device _ => instDecidableTrue

/-- A transmit interrupted while it holds the lock, and the handler entered with the given status. -/
def interruptedXmit (status : BitVec 32) : List (CpuMove Unit) :=
  [.start (.xmit () (floodSkb 0)),
    .call ((), .xmit) (.dmaMapSingle (floodSkb 0) 60) (some 0),
    .call ((), .xmit) .spinLock (), .device status, .start (.interrupt ()),
    .call ((), .irq) .readlIntrStatus status, .call ((), .irq) (.writelIntrStatus status) ()]

/-- A receive interrupt in the middle of a transmit is handled without a deadlock. -/
theorem selfDeadlock_free_rx :
    ∃ past c, Run (cpus Unit demoExterns).Step idleCpu past c ∧
      (c.state.lock = some ((), .xmit) ∧ c.busy ((), .irq) = true) ∧
      Always (fun c => ¬ SelfDeadlock c) past c := by
  obtain ⟨past, c, run, quiet, reached⟩ := Machine.run_of_play (M := cpus Unit demoExterns)
    (QuietWindow demoExterns) (interruptedXmit 1) idleCpu
    (fun c => c.state.lock = some ((), .xmit) ∧ c.busy ((), .irq) = true) (by decide)
  exact ⟨past, c, run, of_decide_eq_true reached, selfDeadlock_free run idleCpu_idle quiet⟩

/-- A transmit interrupt in the middle of a transmit deadlocks. -/
theorem selfDeadlock_reached :
    ¬ ∀ (b : Externs) (c₀ c : CpuConfig Unit) (past : List (CpuConfig Unit × CpuMove Unit)),
      CpusIdle c₀ → Run (cpus Unit b).Step c₀ past c →
        Always (fun c => ¬ SelfDeadlock c) past c := by
  intro claim
  obtain ⟨past, c, run, -, reached⟩ := Machine.run_of_play (M := cpus Unit demoExterns)
    (fun _ _ => True) (interruptedXmit 2) idleCpu
    (fun c => c.state.lock = some ((), .xmit) ∧
      (c.threads ((), .irq)).bind Prog.head? = some .spinLock) (by decide)
  obtain ⟨held, head⟩ := of_decide_eq_true reached
  obtain ⟨p, running, head⟩ := Option.bind_eq_some_iff.mp head
  obtain ⟨k, rfl⟩ := Prog.exists_of_head? head
  exact (claim demoExterns idleCpu c past idleCpu_idle run).2 ⟨(), k, running, held⟩

end ScullDrivers.Nic
