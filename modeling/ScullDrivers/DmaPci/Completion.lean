import ScullDrivers.DmaPci.Driver
import ScullDrivers.Interaction.Protocol

/-!
# The DMA PCI driver: completions

`my_device_simulate_dma` in the context of probe, which calls the interrupt handler itself, against
any number of invocations of the handler by the kernel on another CPU, one register access at a time.
The handler takes an interrupt by reading the status register and acknowledges it by writing it, and
nothing keeps the two contexts apart in between.  Each completion is handled exactly once throughout a
run as long as no context reads the status register while the other is between the two, and only then
(`always_handledOnce_iff`).
-/

namespace ScullDrivers.DmaPci

open Interaction

/-! ## The two contexts -/

/-- `my_device_simulate_dma` runs in the context of probe, the kernel calls the handler in `irq`. -/
inductive Context
  | probe
  | irq
  deriving DecidableEq

/-- The other one. -/
def Context.other : Context → Context
  | .probe => .irq
  | .irq => .probe

/-- The device registers, and what has happened so far. -/
structure State where
  regs : Reg → UInt32
  dmaAddr : UInt64 := 0
  /-- How often DONE was set. -/
  settings : Nat := 0
  /-- How often the handler read the status register, which every invocation of it does once. -/
  reads : Nat := 0
  /-- How often it found DONE there. -/
  seen : Nat := 0
  /-- How often it scheduled the tasklet. -/
  scheduled : Nat := 0
  /-- How often it returned `IRQ_HANDLED`. -/
  handled : Nat := 0
  /-- How often it returned `IRQ_NONE`. -/
  noned : Nat := 0
  /-- The handler running in the context has found DONE and not yet written the register. -/
  acking : Context → Bool := fun _ => false

/-- The DONE bit of a value of the status register. -/
def IsDone (v : UInt32) : Prop := v &&& myDeviceDmaDoneBit ≠ 0

instance (v : UInt32) : Decidable (IsDone v) := inferInstanceAs (Decidable (_ ≠ _))

/-- The handler running in the context has read the status register. -/
def State.readStatus (s : State) (i : Context) (v : UInt32) : State :=
  if IsDone v then
    { s with reads := s.reads + 1, seen := s.seen + 1, acking := Function.update s.acking i true }
  else { s with reads := s.reads + 1 }

/-- The status register is written in the context. -/
def State.writeStatus (s : State) (i : Context) (v : UInt32) : State :=
  { s with
    regs := Function.update s.regs .status v
    settings := if IsDone v then s.settings + 1 else s.settings
    acking := Function.update s.acking i false }

/-- What a call does. -/
def accessed (i : Context) : (e : Call) → State → Resp e → State
  | .ioread32 _ .status, s, v => s.readStatus i v
  | .iowrite32 v _ .status, s, _ => s.writeStatus i v
  | .iowrite32 v _ .control, s, _ => { s with regs := Function.update s.regs .control v }
  | .iowrite32 v _ .dmaLen, s, _ => { s with regs := Function.update s.regs .dmaLen v }
  | .iowrite64DmaAddr v _, s, _ => { s with dmaAddr := v }
  | .taskletSchedule _, s, _ => { s with scheduled := s.scheduled + 1 }
  | .returned .handled, s, _ => { s with handled := s.handled + 1 }
  | .returned .none, s, _ => { s with noned := s.noned + 1 }
  | _, s, _ => s

/-- A register reads as it was last written. -/
def answers : (e : Call) → State → Resp e → Prop
  | .ioread32 _ reg, s, v => v = s.regs reg
  | .ioread64DmaAddr _, s, v => v = s.dmaAddr
  | _, _, _ => True

instance (e : Call) (s : State) (r : Resp e) : Decidable (answers e s r) := by
  revert r
  cases e <;> intro r <;> first | exact instDecidableTrue | exact decEq _ _

/-- The two contexts on their CPUs: either may start when it is idle, and take a step at any time. -/
def contexts (pageSize : UInt64) (priv : MyDevicePriv) :
    Machine Context Context Call Resp Unit State Empty where
  slot i := i
  code
    | .probe => myDeviceSimulateDma pageSize priv
    | .irq => invokeIsr priv
  mayStart _ _ _ := True
  begun _ s := s
  mayRun _ _ := True
  returns := answers
  effect := accessed
  finished _ _ s := s
  device h := nomatch h

instance (pageSize : UInt64) (priv : MyDevicePriv) (busy : Context → Bool) (q : Context) (s : State) :
    Decidable ((contexts pageSize priv).mayStart busy q s) :=
  inferInstanceAs (Decidable True)

instance (pageSize : UInt64) (priv : MyDevicePriv) (busy : Context → Bool) (i : Context) :
    Decidable ((contexts pageSize priv).mayRun busy i) :=
  inferInstanceAs (Decidable True)

instance (pageSize : UInt64) (priv : MyDevicePriv) (e : Call) (s : State) (r : Resp e) :
    Decidable ((contexts pageSize priv).returns e s r) :=
  inferInstanceAs (Decidable (answers e s r))

abbrev DmaConfig := Config Context Call Resp Unit State

abbrev DmaMove := Move Context Context Call Resp Unit Empty

/-! ## The property -/

/-- Each setting of DONE is found by at most one invocation of the handler, and before the next one;
and when nothing runs, one invocation a setting has scheduled the tasklet and returned `IRQ_HANDLED`,
and the others have returned `IRQ_NONE`. -/
structure HandledOnce (c : DmaConfig) : Prop where
  order : c.state.handled ≤ c.state.scheduled ∧ c.state.scheduled ≤ c.state.seen
  once : c.state.seen ≤ c.state.settings ∧ c.state.settings ≤ c.state.seen + 1
  rest : (∀ i, c.threads i = none) → c.state.scheduled = c.state.settings ∧
    c.state.handled = c.state.settings ∧ c.state.handled + c.state.noned = c.state.reads

/-- The read of the status register, with which an invocation of the handler begins. -/
def Call.readsStatus : Call → Bool
  | .ioread32 _ .status => true
  | _ => false

/-- A context that reads the status register finds the other one not about to acknowledge. -/
def ReadsAlone (c : DmaConfig) : DmaMove → Prop
  | .call i e _ => e.readsStatus = true → c.state.acking i.other = false
  | .start _ | .finish _ _ | .device _ => True

instance (c : DmaConfig) (m : DmaMove) : Decidable (ReadsAlone c m) :=
  match m with
  | .call i e _ =>
      inferInstanceAs (Decidable (e.readsStatus = true → c.state.acking i.other = false))
  | .start _ | .finish _ _ | .device _ => instDecidableTrue

/-- Nothing has run yet, and DONE is clear.  With DONE set at the start, from before the run, the first
invocation to read it would handle a completion that is no setting of the run; such starts are left
out. -/
structure Fresh (c : DmaConfig) : Prop where
  threads : ∀ i, c.threads i = none
  clear : ¬ IsDone (c.state.regs .status)
  acking : ∀ i, c.state.acking i = false
  settings : c.state.settings = 0
  reads : c.state.reads = 0
  seen : c.state.seen = 0
  scheduled : c.state.scheduled = 0
  handled : c.state.handled = 0
  noned : c.state.noned = 0

/-! ## Protocols of the transfer and of the handler -/

/-- How far a context is: before the completion, entering the handler, having found DONE, having
acknowledged it, having scheduled the tasklet, having found nothing, past the handler. -/
inductive Stage
  | before | entered | acking | acked | scheduled | unseen | finished
  deriving DecidableEq

/-- The calls of the transfer. -/
def TransferCalls : Call → Prop
  | .ioread32 _ .control | .ioread32 _ .dmaLen | .ioread64DmaAddr _ | .memset _ _ _ => True
  | _ => False

/-- The protocol of both: an invocation of the handler that has found DONE writes the status register,
schedules the tasklet and returns `IRQ_HANDLED`. -/
inductive Next : Stage → (e : Call) → Resp e → Stage → Prop
  | transfer {e : Call} {r : Resp e} : TransferCalls e → Next .before e r .before
  | fail {v : UInt32} {p : Ptr} : ¬ IsDone v → Next .before (.iowrite32 v p .status) () .finished
  | raise {v : UInt32} {p : Ptr} : IsDone v → Next .before (.iowrite32 v p .status) () .entered
  | see {v : UInt32} {p : Ptr} : IsDone v → Next .entered (.ioread32 p .status) v .acking
  | miss {v : UInt32} {p : Ptr} : ¬ IsDone v → Next .entered (.ioread32 p .status) v .unseen
  | ack {v : UInt32} {p : Ptr} : ¬ IsDone v → Next .acking (.iowrite32 v p .status) () .acked
  | schedule {pdev : PciDev} : Next .acked (.taskletSchedule pdev) () .scheduled
  | handled : Next .scheduled (.returned .handled) () .finished
  | none : Next .unseen (.returned .none) () .finished
  | stop {v : UInt32} {p : Ptr} : Next .finished (.iowrite32 v p .control) () .finished

section Follows

variable {pageSize : UInt64} {priv : MyDevicePriv}

theorem not_isDone_zero : ¬ IsDone 0 := by decide

theorem not_isDone_acknowledged (status : UInt32) : ¬ IsDone (status &&& ~~~myDeviceDmaDoneBit) := by
  have cleared : ~~~myDeviceDmaDoneBit &&& myDeviceDmaDoneBit = 0 := by decide
  rw [IsDone, UInt32.and_assoc, cleared, UInt32.and_zero]
  exact not_not_intro rfl

theorem invokeIsr_follows :
    (invokeIsr priv).Follows Next (fun _ g => g = .finished) .entered := by
  unfold invokeIsr myDeviceIsr
  simp only [perform_bind, call_bind]
  intro status
  by_cases done : IsDone status
  · refine ⟨.acking, .see done, ?_⟩
    have branch : status &&& myDeviceDmaDoneBit ≠ 0 := done
    simp only [if_pos branch]
    refine fun _ => ⟨.acked, .ack (not_isDone_acknowledged status), fun _ => ?_⟩
    exact ⟨.scheduled, .schedule, fun _ => ⟨.finished, .handled, rfl⟩⟩
  · refine ⟨.unseen, .miss done, ?_⟩
    have branch : ¬ status &&& myDeviceDmaDoneBit ≠ 0 := done
    simp only [if_neg branch]
    exact fun _ => ⟨.finished, .none, rfl⟩

theorem simulateCompletion_follows (direction : Direction) (dmaLen : UInt32) :
    (simulateCompletion pageSize priv direction dmaLen).Follows Next (fun _ g => g = .finished)
      .before := by
  have raised : IsDone (myDeviceDmaDoneBit ||| myDeviceIrqEnableBit) := by decide
  unfold simulateCompletion
  split
  · have transfer : (simulateTransfer priv dmaLen direction).Follows Next (fun _ g => g = .before)
        .before := by
      cases direction with
      | toDevice => rfl
      | fromDevice => exact fun _ => ⟨.before, .transfer trivial, rfl⟩
    refine transfer.bind fun _ g here => ?_
    subst here
    exact fun _ => ⟨.entered, .raise raised, invokeIsr_follows⟩
  · exact fun _ => ⟨.finished, .fail not_isDone_zero, rfl⟩

theorem myDeviceSimulateDma_follows :
    (myDeviceSimulateDma pageSize priv).Follows Next (fun _ g => g = .finished) .before := by
  refine fun control => ⟨.before, .transfer trivial, fun _ => ⟨.before, .transfer trivial, ?_⟩⟩
  refine fun dmaLen => ⟨.before, .transfer trivial, ?_⟩
  refine (simulateCompletion_follows _ dmaLen).bind fun _ g here => ?_
  subst here
  exact fun _ => ⟨.finished, .stop, rfl⟩

end Follows

/-! ## The invariant -/

/-- The stage of a context. -/
abbrev StageAt (c : DmaConfig) (i : Context) : Stage → Prop :=
  c.At i Next (fun _ g => g = .finished) (fun g => g = .finished)

/-- An invocation that has found DONE has still to schedule the tasklet. -/
def Stage.toSchedule : Stage → Nat
  | .acking | .acked => 1
  | _ => 0

/-- An invocation that has found DONE has still to return. -/
def Stage.toHandle : Stage → Nat
  | .acking | .acked | .scheduled => 1
  | _ => 0

/-- An invocation that has found nothing has still to return. -/
def Stage.toPass : Stage → Nat
  | .unseen => 1
  | _ => 0

/-- Who owes the last completion, with probe in stage `p` and the kernel in stage `k`: nobody when DONE
is clear; the invocation that comes to read it; or the one that has read it and not written. -/
inductive Owed (done : Prop) (settings seen : Nat) : Stage → Stage → Prop
  | none {p k : Stage} : ¬ done → settings = seen → p ≠ .acking → k ≠ .acking →
    Owed done settings seen p k
  | unread {k : Stage} : done → settings = seen + 1 → k ≠ .acking →
    Owed done settings seen .entered k
  | byProbe {k : Stage} : done → settings = seen → k ≠ .acking → Owed done settings seen .acking k
  | byKernel : done → settings = seen → Owed done settings seen .entered .acking

/-- What the counters say, with one context in stage `g` and the other in stage `h`. -/
structure Counts (s : State) (g h : Stage) : Prop where
  scheduled : s.scheduled + g.toSchedule + h.toSchedule = s.seen
  handled : s.handled + g.toHandle + h.toHandle = s.seen
  noned : s.handled + s.noned + g.toHandle + h.toHandle + g.toPass + h.toPass = s.reads

/-- The books between any two steps. -/
structure Books (s : State) (p k : Stage) : Prop where
  kernel : k ≠ .before
  probeAcking : s.acking .probe = true ↔ p = .acking
  irqAcking : s.acking .irq = true ↔ k = .acking
  counts : Counts s p k
  owed : Owed (IsDone (s.regs .status)) s.settings s.seen p k

/-- What holds between any two steps. -/
def DmaInv (c : DmaConfig) : Prop :=
  ∃ p k, StageAt c .probe p ∧ StageAt c .irq k ∧ Books c.state p k

section

variable {pageSize : UInt64} {priv : MyDevicePriv} {c c' c₀ : DmaConfig} {m : DmaMove} {s : State}
  {i j : Context} {p p' k k' g g' h : Stage} {e : Call} {r : Resp e} {v : UInt32}
  {past : List (DmaConfig × DmaMove)}

/-! ## One access -/

theorem State.readStatus_done (done : IsDone v) : s.readStatus i v =
    { s with
      reads := s.reads + 1
      seen := s.seen + 1
      acking := Function.update s.acking i true } := if_pos done

theorem State.readStatus_clear (clear : ¬ IsDone v) :
    s.readStatus i v = { s with reads := s.reads + 1 } := if_neg clear

theorem accessed_read {q : Ptr} :
    accessed i (.ioread32 q .status) s v = s.readStatus i v := rfl

theorem Call.exists_of_readsStatus (read : e.readsStatus = true) :
    ∃ q, e = .ioread32 q .status := by
  unfold Call.readsStatus at read
  split at read
  · exact ⟨_, rfl⟩
  · cases read

theorem accessed_transfer (call : TransferCalls e) : accessed i e s r = s := by
  cases e with
  | ioread32 p reg =>
      cases reg with
      | control | dmaLen => rfl
      | status => exact call.elim
  | ioread64DmaAddr | memset => rfl
  | _ => exact call.elim

/-- A context acknowledges for itself only. -/
theorem accessed_acking_other (ne : j ≠ i) (next : Next g e r g') :
    (accessed i e s r).acking j = s.acking j := by
  cases next with
  | transfer call => rw [accessed_transfer call]
  | see done =>
      rw [accessed_read, State.readStatus_done done]
      exact Function.update_of_ne ne ..
  | miss clear => rw [accessed_read, State.readStatus_clear clear]
  | fail | raise | ack => exact Function.update_of_ne ne ..
  | schedule | handled | none | stop => rfl

theorem accessed_acking (acking : s.acking i = true ↔ g = .acking) (next : Next g e r g') :
    (accessed i e s r).acking i = true ↔ g' = .acking := by
  cases next with
  | transfer call =>
      rw [accessed_transfer call]
      exact acking
  | see done =>
      rw [accessed_read, State.readStatus_done done]
      simp
  | miss clear =>
      rw [accessed_read, State.readStatus_clear clear]
      simpa using acking
  | fail | raise | ack => simp [accessed, State.writeStatus]
  | schedule | handled | none | stop => simpa [accessed] using acking

/-- The counters follow the stages. -/
theorem Counts.call (counts : Counts s g h) (next : Next g e r g') :
    Counts (accessed i e s r) g' h := by
  obtain ⟨scheduled, handled, noned⟩ := counts
  cases next with
  | transfer call =>
      rw [accessed_transfer call]
      exact ⟨scheduled, handled, noned⟩
  | fail | raise | stop => exact ⟨scheduled, handled, noned⟩
  | see done =>
      rw [accessed_read, State.readStatus_done done]
      refine ⟨?_, ?_, ?_⟩
      all_goals
        simp only [Stage.toSchedule, Stage.toHandle, Stage.toPass] at scheduled handled noned ⊢
        omega
  | miss clear =>
      rw [accessed_read, State.readStatus_clear clear]
      refine ⟨scheduled, handled, ?_⟩
      simp only [Stage.toHandle, Stage.toPass] at noned ⊢
      omega
  | ack => exact ⟨scheduled, handled, noned⟩
  | schedule =>
      refine ⟨?_, handled, noned⟩
      simp only [accessed, Stage.toSchedule] at scheduled ⊢
      omega
  | handled =>
      refine ⟨scheduled, ?_, ?_⟩
      all_goals
        simp only [accessed, Stage.toHandle, Stage.toPass] at handled noned ⊢
        omega
  | none =>
      refine ⟨scheduled, handled, ?_⟩
      simp only [accessed, Stage.toHandle, Stage.toPass] at noned ⊢
      omega

theorem Counts.symm (counts : Counts s g h) : Counts s h g := by
  obtain ⟨scheduled, handled, noned⟩ := counts
  exact ⟨by omega, by omega, by omega⟩

/-- Where probe is neither about to read DONE nor to acknowledge it, nothing is owed. -/
theorem Owed.settled {done : Prop} {settings seen : Nat} (owed : Owed done settings seen p k)
    (entered : p ≠ .entered) (acking : p ≠ .acking) : ¬ done ∧ settings = seen ∧ k ≠ .acking := by
  cases owed with
  | none clear same _ other => exact ⟨clear, same, other⟩
  | unread => exact absurd rfl entered
  | byProbe => exact absurd rfl acking
  | byKernel => exact absurd rfl entered

/-- The kernel's invocation moves on without touching DONE. -/
theorem Owed.kernel {done : Prop} {settings seen : Nat} (owed : Owed done settings seen p k)
    (acking : k ≠ .acking) (acking' : k' ≠ .acking) : Owed done settings seen p k' := by
  cases owed with
  | none clear same other => exact .none clear same other acking'
  | unread done ahead => exact .unread done ahead acking'
  | byProbe done same => exact .byProbe done same acking'
  | byKernel => exact absurd rfl acking

/-- A context that reads DONE while the other one is not acknowledging it is the first to do so. -/
theorem Owed.unread_of_done {done : Prop} {settings seen : Nat} (owed : Owed done settings seen p k)
    (up : done) (probe : p ≠ .acking) (kernel : k ≠ .acking) :
    p = .entered ∧ settings = seen + 1 := by
  cases owed with
  | none clear => exact absurd up clear
  | unread _ ahead => exact ⟨rfl, ahead⟩
  | byProbe => exact absurd rfl probe
  | byKernel => exact absurd rfl kernel

/-- An invocation that has not acknowledged yet is the one that has found the last setting. -/
theorem Owed.claimed {done : Prop} {settings seen : Nat} (owed : Owed done settings seen p k)
    (acking : p = .acking ∨ k = .acking) : done ∧ settings = seen := by
  cases owed with
  | none _ _ probe kernel => exact (acking.elim probe kernel).elim
  | unread _ _ kernel => exact (acking.elim Stage.noConfusion kernel).elim
  | byProbe up same => exact ⟨up, same⟩
  | byKernel up same => exact ⟨up, same⟩

/-- One call of probe. -/
theorem Owed.probe (owed : Owed (IsDone (s.regs .status)) s.settings s.seen p k)
    (next : Next p e r p') (answer : answers e s r)
    (alone : e.readsStatus = true → k ≠ .acking) :
    Owed (IsDone ((accessed .probe e s r).regs .status)) (accessed .probe e s r).settings
      (accessed .probe e s r).seen p' k := by
  cases next with
  | transfer call =>
      rw [accessed_transfer call]
      exact owed
  | fail clear =>
      obtain ⟨-, same, other⟩ := owed.settled Stage.noConfusion Stage.noConfusion
      simp only [accessed, State.writeStatus, Function.update_self, if_neg clear]
      exact .none clear same Stage.noConfusion other
  | raise done =>
      obtain ⟨-, same, other⟩ := owed.settled Stage.noConfusion Stage.noConfusion
      simp only [accessed, State.writeStatus, Function.update_self, if_pos done]
      exact .unread done (congrArg (· + 1) same) other
  | see done =>
      have up : IsDone (s.regs .status) := answer ▸ done
      have other := alone rfl
      rw [accessed_read, State.readStatus_done done]
      exact .byProbe up (owed.unread_of_done up Stage.noConfusion other).2 other
  | miss clear =>
      have down : ¬ IsDone (s.regs .status) := answer ▸ clear
      rw [accessed_read, State.readStatus_clear clear]
      cases owed with
      | none _ same _ other => exact .none down same Stage.noConfusion other
      | unread up => exact absurd up down
      | byKernel up => exact absurd up down
  | ack clear =>
      simp only [accessed, State.writeStatus, Function.update_self, if_neg clear]
      cases owed with
      | none _ _ acking => exact absurd rfl acking
      | byProbe _ same other => exact .none clear same Stage.noConfusion other
  | schedule | handled | none =>
      obtain ⟨clear, same, other⟩ := owed.settled Stage.noConfusion Stage.noConfusion
      exact .none clear same Stage.noConfusion other
  | stop => exact owed

/-- One call of the kernel's invocation of the handler. -/
theorem Owed.irq (owed : Owed (IsDone (s.regs .status)) s.settings s.seen p k)
    (next : Next k e r k') (answer : answers e s r) (kernel : k ≠ .before)
    (alone : e.readsStatus = true → p ≠ .acking) :
    Owed (IsDone ((accessed .irq e s r).regs .status)) (accessed .irq e s r).settings
      (accessed .irq e s r).seen p k' := by
  cases next with
  | transfer | fail | raise => exact absurd rfl kernel
  | see done =>
      have up : IsDone (s.regs .status) := answer ▸ done
      obtain ⟨here, ahead⟩ := owed.unread_of_done up (alone rfl) Stage.noConfusion
      rw [accessed_read, State.readStatus_done done, here]
      exact .byKernel up ahead
  | miss clear =>
      rw [accessed_read, State.readStatus_clear clear]
      exact owed.kernel Stage.noConfusion Stage.noConfusion
  | ack clear =>
      simp only [accessed, State.writeStatus, Function.update_self, if_neg clear]
      cases owed with
      | none _ _ _ acking => exact absurd rfl acking
      | unread _ _ acking => exact absurd rfl acking
      | byProbe _ _ acking => exact absurd rfl acking
      | byKernel _ same => exact .none clear same Stage.noConfusion Stage.noConfusion
  | schedule | handled | none | stop => exact owed.kernel Stage.noConfusion Stage.noConfusion

theorem Next.ne_before (next : Next g e r g') (later : g ≠ .before) : g' ≠ .before := by
  cases next with
  | transfer => exact absurd rfl later
  | fail | raise | see | miss | ack | schedule | handled | none | stop => exact Stage.noConfusion

theorem Books.probe (books : Books s p k) (next : Next p e r p') (answer : answers e s r)
    (alone : e.readsStatus = true → s.acking .irq = false) :
    Books (accessed .probe e s r) p' k := by
  obtain ⟨kernel, probeAcking, irqAcking, counts, owed⟩ := books
  refine ⟨kernel, accessed_acking probeAcking next, ?_, counts.call next,
    owed.probe next answer fun read claims => ?_⟩
  · rw [accessed_acking_other (by decide) next]
    exact irqAcking
  · cases (irqAcking.mpr claims).symm.trans (alone read)

theorem Books.irq (books : Books s p k) (next : Next k e r k') (answer : answers e s r)
    (alone : e.readsStatus = true → s.acking .probe = false) :
    Books (accessed .irq e s r) p k' := by
  obtain ⟨kernel, probeAcking, irqAcking, counts, owed⟩ := books
  refine ⟨next.ne_before kernel, ?_, accessed_acking irqAcking next, (counts.symm.call next).symm,
    owed.irq next answer kernel fun read claims => ?_⟩
  · rw [accessed_acking_other (by decide) next]
    exact probeAcking
  · cases (probeAcking.mpr claims).symm.trans (alone read)

/-! ## Runs -/

theorem Fresh.inv (fresh : Fresh c) : DmaInv c := by
  refine ⟨.finished, .finished, .idle (fresh.threads _) rfl, .idle (fresh.threads _) rfl, ?_⟩
  refine ⟨Stage.noConfusion, ?_, ?_, ⟨?_, ?_, ?_⟩, ?_⟩
  · simp [fresh.acking]
  · simp [fresh.acking]
  · simp [fresh.scheduled, fresh.seen, Stage.toSchedule]
  · simp [fresh.handled, fresh.seen, Stage.toHandle]
  · simp [fresh.handled, fresh.noned, fresh.reads, Stage.toHandle, Stage.toPass]
  · exact .none fresh.clear (fresh.settings.trans fresh.seen.symm) Stage.noConfusion
      Stage.noConfusion

theorem Stage.toSchedule_le (g : Stage) : g.toSchedule ≤ g.toHandle := by
  cases g with
  | before | entered | acking | acked | scheduled | unseen | finished => decide

theorem DmaInv.handledOnce (inv : DmaInv c) : HandledOnce c := by
  obtain ⟨p, k, probe, irq, books⟩ := inv
  obtain ⟨scheduled, handled, noned⟩ := books.counts
  refine ⟨⟨?_, by omega⟩, ?_, fun idle => ?_⟩
  · have owes := Stage.toSchedule_le p
    have owes' := Stage.toSchedule_le k
    omega
  · rcases books.owed with ⟨-, same, -, -⟩ | ⟨-, same, -⟩ | ⟨-, same, -⟩ | ⟨-, same⟩
    all_goals omega
  · cases probe.1 (idle .probe)
    cases irq.1 (idle .irq)
    obtain ⟨-, same, -⟩ := books.owed.settled Stage.noConfusion Stage.noConfusion
    simp only [Stage.toSchedule, Stage.toHandle, Stage.toPass] at scheduled handled noned
    omega

/-- Every step keeps the invariant where a context reads the status register alone. -/
theorem DmaInv.step (step : (contexts pageSize priv).Step c m c') (ok : ReadsAlone c m)
    (inv : DmaInv c) : DmaInv c' := by
  obtain ⟨p, k, probe, irq, books⟩ := inv
  cases step with
  | @start q idle may =>
      cases q with
      | probe =>
          cases probe.1 idle
          obtain ⟨clear, same, other⟩ := books.owed.settled Stage.noConfusion Stage.noConfusion
          refine ⟨.before, k, .running rfl myDeviceSimulateDma_follows, irq.of_threads rfl, ?_⟩
          exact ⟨books.kernel, books.probeAcking.trans (by decide), books.irqAcking,
            ⟨books.counts.1, books.counts.2, books.counts.3⟩,
            .none clear same Stage.noConfusion other⟩
      | irq =>
          cases irq.1 idle
          refine ⟨p, .entered, probe.of_threads rfl, .running rfl invokeIsr_follows, ?_⟩
          exact ⟨Stage.noConfusion, books.probeAcking, books.irqAcking.trans (by decide),
            ⟨books.counts.1, books.counts.2, books.counts.3⟩,
            books.owed.kernel Stage.noConfusion Stage.noConfusion⟩
  | @call i e body r head may answer =>
      cases i with
      | probe =>
          obtain ⟨p', next, rest⟩ := probe.call head r
          exact ⟨p', k, .running Config.set_threads_self rest, irq.of_threads rfl,
            books.probe next answer ok⟩
      | irq =>
          obtain ⟨k', next, rest⟩ := irq.call head r
          exact ⟨p, k', probe.of_threads rfl, .running Config.set_threads_self rest,
            books.irq next answer ok⟩
  | @finish i a head may =>
      cases i with
      | probe =>
          exact ⟨p, k, .idle Config.set_threads_self (probe.returned head), irq.of_threads rfl, books⟩
      | irq =>
          exact ⟨p, k, probe.of_threads rfl, .idle Config.set_threads_self (irq.returned head), books⟩
  | @device h => cases h

/-- A context that reads the status register while the other one is about to acknowledge finds DONE a
second time. -/
theorem DmaInv.reads_alone (step : (contexts pageSize priv).Step c m c') (inv : DmaInv c)
    (once : HandledOnce c') : ReadsAlone c m := by
  obtain ⟨p, k, probe, irq, books⟩ := inv
  cases step with
  | start | finish => trivial
  | @device h => cases h
  | @call i e body r head may answer =>
      intro read
      obtain ⟨q, here⟩ := Call.exists_of_readsStatus read
      subst here
      have claimed : ¬ (p = .acking ∨ k = .acking) := by
        intro acking
        obtain ⟨up, same⟩ := books.owed.claimed acking
        have done : IsDone r := (show r = c.state.regs .status from answer) ▸ up
        have once : (c.state.readStatus i r).seen ≤ (c.state.readStatus i r).settings := once.once.1
        rw [State.readStatus_done done] at once
        exact absurd (same ▸ once) (Nat.not_succ_le_self _)
      cases i with
      | probe => exact eq_false_of_ne_true fun acking => claimed (.inr (books.irqAcking.mp acking))
      | irq => exact eq_false_of_ne_true fun acking => claimed (.inl (books.probeAcking.mp acking))

/-- **Each completion is handled exactly once**, throughout a run from a clear DONE bit, when and only
when no context reads the status register while the other one is between its read of DONE and its
acknowledgement. -/
theorem always_handledOnce_iff (fresh : Fresh c₀)
    (run : Run (contexts pageSize priv).Step c₀ past c) :
    Always HandledOnce past c ↔ AllSteps ReadsAlone past := by
  refine run.always_iff_allSteps fresh.inv DmaInv.handledOnce ?_ ?_
  · intro c m c' step ok inv
    exact inv.step step ok
  · intro c m c' step inv once
    exact inv.reads_alone step once

end

/-! ## One completion -/

/-- Private data with a buffer. -/
def demoPriv : MyDevicePriv := ⟨⟨1, 0, 16384⟩, 1, 1, 1, 1, 9⟩

/-- Registers as probe leaves them for the transfer of a page to the device. -/
def demoRegs : Reg → UInt32
  | .control => 1
  | .status => 0
  | .dmaLen => 4096

/-- Nothing has run yet. -/
def demoStart : DmaConfig := ⟨{ regs := demoRegs }, fun _ => none⟩

theorem demoStart_fresh : Fresh demoStart :=
  ⟨fun _ => rfl, by decide, fun _ => rfl, rfl, rfl, rfl, rfl, rfl, rfl⟩

/-- The transfer, up to the setting of DONE. -/
def setDone : List DmaMove :=
  [.start .probe, .call .probe (.ioread32 1 .control) 1, .call .probe (.ioread64DmaAddr 1) 0,
    .call .probe (.ioread32 1 .dmaLen) 4096, .call .probe (.iowrite32 6 1 .status) ()]

/-- An invocation of the handler that has found DONE, up to its return. -/
def acknowledge (i : Context) : List DmaMove :=
  [.call i (.iowrite32 4 1 .status) (), .call i (.taskletSchedule demoPriv.pdev) (),
    .call i (.returned .handled) ()]

/-- The kernel's invocation takes the interrupt before probe calls the handler. -/
def kernelFirst : List DmaMove :=
  setDone ++ [.start .irq, .call .irq (.ioread32 1 .status) 6] ++ acknowledge .irq ++
    [.finish .irq (), .call .probe (.ioread32 1 .status) 4, .call .probe (.returned .none) (),
      .call .probe (.iowrite32 0 1 .control) (), .finish .probe ()]

/-- Both read DONE before either acknowledges it. -/
def bothRead : List DmaMove :=
  setDone ++ [.start .irq, .call .irq (.ioread32 1 .status) 6, .call .probe (.ioread32 1 .status) 6] ++
    acknowledge .irq ++ [.finish .irq ()] ++ acknowledge .probe ++
    [.call .probe (.iowrite32 0 1 .control) (), .finish .probe ()]

/-- Each completion is handled once when the kernel's invocation is over before probe's begins. -/
theorem always_handledOnce_kernelFirst : ∃ past c, Run (contexts 4096 demoPriv).Step demoStart past c ∧
    (c.state.settings = 1 ∧ c.state.reads = 2) ∧ Always HandledOnce past c := by
  obtain ⟨past, c, run, steps, reached⟩ := Machine.run_of_play (M := contexts 4096 demoPriv)
    ReadsAlone kernelFirst demoStart (fun c => c.state.settings = 1 ∧ c.state.reads = 2) (by decide)
  exact ⟨past, c, run, of_decide_eq_true reached,
    (always_handledOnce_iff demoStart_fresh run).mpr steps⟩

/-- Two invocations take the same completion for theirs. -/
theorem handled_twice : ¬ ∀ (pageSize : UInt64) (priv : MyDevicePriv) (c₀ c : DmaConfig)
    (past : List (DmaConfig × DmaMove)), Fresh c₀ → Run (contexts pageSize priv).Step c₀ past c →
      Always HandledOnce past c := by
  intro claim
  obtain ⟨past, c, run, -, reached⟩ := Machine.run_of_play (M := contexts 4096 demoPriv)
    (fun _ _ => True) bothRead demoStart (fun c => c.busy .probe = false ∧ c.busy .irq = false ∧
      c.state.settings = 1 ∧ c.state.handled = 2) (by decide)
  obtain ⟨probeIdle, irqIdle, once, twice⟩ := of_decide_eq_true reached
  have idle : ∀ i, c.threads i = none := by
    intro i
    cases i with
    | probe => exact Option.isNone_iff_eq_none.mp (Option.isSome_eq_false_iff.mp probeIdle)
    | irq => exact Option.isNone_iff_eq_none.mp (Option.isSome_eq_false_iff.mp irqIdle)
  have same := ((claim _ _ _ _ _ demoStart_fresh run).2.rest idle).2.1
  rw [once, twice] at same
  cases same

end ScullDrivers.DmaPci
