import ScullDrivers.DmaPci.Driver
import ScullDrivers.Interaction.Protocol

/-!
# The DMA PCI driver: removing a device that still interrupts

`my_device_remove` runs against the interrupt handler and the tasklet of the device, which raises
interrupts at any moment.  `free_irq` waits for a handler that runs and keeps others from starting, and
`tasklet_kill` waits until the tasklet is neither scheduled nor running.  `RemoveNext` is the protocol of
the remove: the line first, then the tasklet, then the mapping of the registers.

So no register is accessed once they are unmapped, and when the remove has returned nothing of the driver
runs, or is scheduled to run, any more, in every interleaving, exactly when the interrupt number is
positive (`removal_safe_iff`): the remove does not free the line 0, which probe takes.
-/

namespace ScullDrivers.DmaPci

open Interaction

/-! ## The parties -/

/-- What runs of the driver while a device is removed. -/
inductive Party
  | remove | irq | tasklet
  deriving DecidableEq

/-- What the kernel and the device keep of a device that is bound. -/
structure BoundState where
  regs : Reg → UInt32 := fun _ => 0
  /-- The registers are mapped. -/
  mapped : Bool := true
  /-- The handler is on the interrupt line. -/
  requested : Bool := true
  /-- The handler runs. -/
  handling : Bool := false
  /-- The tasklet is scheduled. -/
  scheduled : Bool := false
  /-- The tasklet runs. -/
  processing : Bool := false
  /-- The remove was not called yet. -/
  bound : Bool := true
  /-- The remove has returned. -/
  removed : Bool := false

/-- The kernel may make the call. -/
def BoundState.admits (s : BoundState) : Party → Prop
  | .remove => s.bound = true
  | .irq => s.requested = true
  | .tasklet => s.scheduled = true

/-- What the kernel notes when it makes the call. -/
def BoundState.enter (s : BoundState) : Party → BoundState
  | .remove => { s with bound := false }
  | .irq => { s with handling := true }
  | .tasklet => { s with scheduled := false, processing := true }

/-- What the kernel notes when the call returns. -/
def BoundState.leave (s : BoundState) : Party → BoundState
  | .remove => { s with removed := true }
  | .irq => { s with handling := false }
  | .tasklet => { s with processing := false }

/-- The call returns, with this answer. -/
def answersBound : (e : Call) → BoundState → Resp e → Prop
  | .ioread32 _ reg, s, v => v = s.regs reg
  | .freeIrq _ _, s, _ => s.handling = false
  | .taskletKill _, s, _ => s.scheduled = false ∧ s.processing = false
  | _, _, _ => True

/-- What a call does. -/
def effectBound : (e : Call) → BoundState → BoundState
  | .iowrite32 v _ reg, s => { s with regs := Function.update s.regs reg v }
  | .taskletSchedule _, s => { s with scheduled := true }
  | .freeIrq _ _, s => { s with requested := false }
  | .iounmap _, s => { s with mapped := false }
  | _, s => s

/-- The remove of a device against its handler and its tasklet.  The device sets its status register to
any value at any moment. -/
def removal (pageSize : UInt64) (priv : MyDevicePriv) :
    Machine Party Party Call Resp Unit BoundState UInt32 where
  slot i := i
  code
    | .remove => myDeviceRemove pageSize priv.pdev priv
    | .irq => invokeIsr priv
    | .tasklet => myDeviceTaskletHandler priv
  mayStart _ i s := s.admits i
  begun i s := s.enter i
  mayRun _ _ := True
  returns := answersBound
  effect _ e s _ := effectBound e s
  finished i _ s := s.leave i
  device v s := { s with regs := Function.update s.regs .status v }

abbrev RemovalConfig := Config Party Call Resp Unit BoundState

abbrev RemovalMove := Move Party Party Call Resp Unit UInt32

/-! ## The property -/

/-- The call accesses a register. -/
def Call.accessesRegs : Call → Bool
  | .ioread32 _ _ | .iowrite32 _ _ _ | .ioread64DmaAddr _ | .iowrite64DmaAddr _ _ => true
  | _ => false

/-- Registers are accessed while they are mapped only, and nothing of the driver runs, or will run, once
the remove has returned. -/
structure RemovedSafely (c : RemovalConfig) : Prop where
  mapped : ∀ {i e k}, c.threads i = some (.call e k) → e.accessesRegs = true → c.state.mapped = true
  settled : c.state.removed = true → c.state.requested = false ∧ c.threads .irq = none ∧
    c.threads .tasklet = none ∧ c.state.scheduled = false

/-- A device as probe leaves it. -/
structure BoundIdle (c : RemovalConfig) : Prop where
  threads : ∀ i, c.threads i = none
  mapped : c.state.mapped = true
  requested : c.state.requested = true
  handling : c.state.handling = false
  scheduled : c.state.scheduled = false
  processing : c.state.processing = false
  bound : c.state.bound = true
  removed : c.state.removed = false

/-! ## The protocol of the remove -/

/-- How far the remove is: not called, disabling the interrupts of the device, past `free_irq`, past
`tasklet_kill`, past `iounmap`. -/
inductive RemoveStage
  | bound | disabling | freed | killed | unmapped
  deriving DecidableEq

/-- The calls that concern neither the handler, the tasklet nor the registers. -/
def Call.unrelated : Call → Bool
  | .dmaFreeCoherent _ _ _ _ | .pciReleaseRegion _ | .pciDisableDevice _ => true
  | _ => false

/-- The protocol of `my_device_remove` for a line other than 0. -/
inductive RemoveNext : RemoveStage → (e : Call) → Resp e → RemoveStage → Prop
  | disable {e : Call} {r : Resp e} : e.accessesRegs = true → RemoveNext .disabling e r .disabling
  | free {irq : Int32} {pdev : PciDev} : RemoveNext .disabling (.freeIrq irq pdev) () .freed
  | kill {pdev : PciDev} : RemoveNext .freed (.taskletKill pdev) () .killed
  | unmap {base : Ptr} : RemoveNext .killed (.iounmap base) () .unmapped
  | killed {e : Call} {r : Resp e} : e.unrelated = true → RemoveNext .killed e r .killed
  | unmapped {e : Call} {r : Resp e} : e.unrelated = true → RemoveNext .unmapped e r .unmapped

/-- The tasklet is gone. -/
def RemoveStage.late (g : RemoveStage) : Prop := g = .killed ∨ g = .unmapped

section Follows

variable {pageSize : UInt64} {priv : MyDevicePriv}

theorem myDeviceRemove_follows (line : 0 < priv.irq) :
    (myDeviceRemove pageSize priv.pdev priv).Follows RemoveNext (fun _ g => g.late) .disabling := by
  have disable : (removeDisable priv).Follows RemoveNext (fun _ g => g = .disabling) .disabling := by
    unfold removeDisable
    split
    · exact fun _ => ⟨_, .disable rfl, fun _ => ⟨_, .disable rfl, rfl⟩⟩
    · rfl
  have buffer : (removeBuffer pageSize priv.pdev priv).Follows RemoveNext (fun _ g => g = .killed)
      .killed := by
    unfold removeBuffer
    split
    · exact fun _ => ⟨_, .killed rfl, rfl⟩
    · rfl
  have mapping : (removeMapping priv).Follows RemoveNext (fun _ g => g.late) .killed := by
    unfold removeMapping
    split
    · exact fun _ => ⟨_, .unmap, .inr rfl⟩
    · exact .inl rfl
  unfold myDeviceRemove removeIrq
  rw [if_pos line]
  refine disable.bind fun _ g here => ?_
  subst here
  refine fun _ => ⟨_, .free, fun _ => ⟨_, .kill, ?_⟩⟩
  refine buffer.bind fun _ g here => ?_
  subst here
  refine mapping.bind fun _ g here => ?_
  rcases here with rfl | rfl
  · exact fun _ => ⟨_, .killed rfl, fun _ => ⟨_, .killed rfl, .inl rfl⟩⟩
  · exact fun _ => ⟨_, .unmapped rfl, fun _ => ⟨_, .unmapped rfl, .inr rfl⟩⟩

end Follows

/-! ## The invariant -/

instance (e : Call) : Nonempty (Resp e) := by
  cases e <;> exact ⟨default⟩

/-- The calls of the handler. -/
def Call.ofHandler : Call → Bool
  | .ioread32 _ _ | .iowrite32 _ _ _ | .taskletSchedule _ | .returned _ => true
  | _ => false

/-- What the handler and the tasklet call. -/
def PartyCalls (i : Party) (p : Prog Call Resp Unit) : Prop :=
  match i with
  | .remove => True
  | .irq => p.OnlyCalls fun e => e.ofHandler = true
  | .tasklet => p = .ret ()

/-- The stage of the remove. -/
abbrev RemoveAt (c : RemovalConfig) : RemoveStage → Prop :=
  c.At .remove RemoveNext (fun _ g => g.late) (fun g => g = .bound ∨ g.late)

/-- What the kernel has noted, with the remove in stage `g`. -/
structure RemovalBooks (c : RemovalConfig) (g : RemoveStage) : Prop where
  handling : c.state.handling = false → c.threads .irq = none
  processing : c.state.processing = false → c.threads .tasklet = none
  bound : c.state.bound = true → g = .bound
  removed : c.state.removed = true → g.late
  freed : g = .freed ∨ g.late → c.state.requested = false ∧ c.threads .irq = none
  killed : g.late → c.threads .tasklet = none ∧ c.state.scheduled = false
  mapped : g ≠ .unmapped → c.state.mapped = true

/-- What holds between any two steps. -/
structure RemovalInv (c : RemovalConfig) (g : RemoveStage) : Prop where
  stage : RemoveAt c g
  books : RemovalBooks c g
  calls : ∀ i p, c.threads i = some p → PartyCalls i p

section

variable {pageSize : UInt64} {priv : MyDevicePriv} {c₀ c c' : RemovalConfig} {m : RemovalMove}
  {g g' : RemoveStage} {e : Call} {r : Resp e} {past : List (RemovalConfig × RemovalMove)}

/-- A step that notes nothing, and after which an idle party is still idle. -/
theorem RemovalBooks.of_regs (books : RemovalBooks c g) (regs : Reg → UInt32)
    (state : c'.state = { c.state with regs })
    (idle : ∀ i, c.threads i = none → c'.threads i = none) : RemovalBooks c' g := by
  refine ⟨?_, ?_, ?_, ?_, ?_, ?_, ?_⟩
  · rw [state]
    exact fun clear => idle _ (books.handling clear)
  · rw [state]
    exact fun clear => idle _ (books.processing clear)
  · rw [state]
    exact books.bound
  · rw [state]
    exact books.removed
  · rw [state]
    exact fun late => ⟨(books.freed late).1, idle _ (books.freed late).2⟩
  · rw [state]
    exact fun late => ⟨idle _ (books.killed late).1, (books.killed late).2⟩
  · rw [state]
    exact books.mapped

/-- A busy party that stays busy leaves the idle ones idle. -/
theorem idle_of_set {i : Party} {p p' : Prog Call Resp Unit} {s : BoundState}
    (busy : c.threads i = some p) (j : Party) (idle : c.threads j = none) :
    (c.set s i (some p')).threads j = none := by
  have other : j ≠ i := by
    intro same
    subst same
    cases idle.symm.trans busy
  rwa [Config.set_threads_of_ne other]

theorem effectBound_accessesRegs (access : e.accessesRegs = true) (s : BoundState) :
    ∃ regs, effectBound e s = { s with regs } := by
  cases e with
  | ioread32 p reg | ioread64DmaAddr p | iowrite64DmaAddr v p => exact ⟨s.regs, rfl⟩
  | iowrite32 v p reg => exact ⟨_, rfl⟩
  | _ => cases access

theorem effectBound_unrelated (unrelated : e.unrelated = true) (s : BoundState) :
    effectBound e s = s := by
  cases e with
  | dmaFreeCoherent | pciReleaseRegion | pciDisableDevice => rfl
  | _ => cases unrelated

/-- The remove is called. -/
theorem RemovalBooks.begin (books : RemovalBooks c .bound) {p : Prog Call Resp Unit} :
    RemovalBooks (c.set (c.state.enter .remove) .remove (some p)) .disabling where
  handling := books.handling
  processing := books.processing
  bound := nofun
  removed removed := absurd (books.removed removed) nofun
  freed late := absurd late nofun
  killed late := absurd late nofun
  mapped _ := books.mapped nofun

/-- One call of the remove. -/
theorem RemovalBooks.remove {k : Resp e → Prog Call Resp Unit} (books : RemovalBooks c g)
    (next : RemoveNext g e r g') (head : c.threads .remove = some (.call e k))
    (answer : answersBound e c.state r) :
    RemovalBooks (c.set (effectBound e c.state) .remove (some (k r))) g' := by
  cases next with
  | disable access =>
      obtain ⟨regs, effect⟩ := effectBound_accessesRegs access c.state
      exact books.of_regs regs effect (idle_of_set head)
  | killed unrelated | unmapped unrelated =>
      exact books.of_regs c.state.regs (effectBound_unrelated unrelated c.state)
        (idle_of_set head)
  | free =>
      refine ⟨books.handling, books.processing, fun bound => ?_, fun removed => ?_, fun _ => ?_, nofun,
        fun _ => books.mapped nofun⟩
      · cases books.bound bound
      · cases books.removed removed <;> contradiction
      · exact ⟨rfl, books.handling answer⟩
  | kill =>
      refine ⟨books.handling, books.processing, fun bound => ?_, fun _ => .inl rfl, fun _ => ?_,
        fun _ => ?_, fun _ => books.mapped nofun⟩
      · cases books.bound bound
      · exact books.freed (.inl rfl)
      · exact ⟨books.processing answer.2, answer.1⟩
  | unmap =>
      refine ⟨books.handling, books.processing, fun bound => ?_, fun _ => .inr rfl, fun _ => ?_,
        fun _ => ?_, fun mapped => absurd rfl mapped⟩
      · cases books.bound bound
      · exact books.freed (.inr (.inl rfl))
      · exact books.killed (.inl rfl)

/-- One call of the handler. -/
theorem RemovalBooks.irq {k : Resp e → Prog Call Resp Unit} (books : RemovalBooks c g)
    (call : e.ofHandler = true) (head : c.threads .irq = some (.call e k)) :
    RemovalBooks (c.set (effectBound e c.state) .irq (some (k r))) g := by
  cases e with
  | ioread32 p reg | returned a =>
      exact books.of_regs c.state.regs rfl (idle_of_set head)
  | iowrite32 v p reg => exact books.of_regs _ rfl (idle_of_set head)
  | taskletSchedule pdev =>
      have early : ¬ g.late := fun late => nomatch (books.freed (.inr late)).2.symm.trans head
      exact ⟨fun clear => idle_of_set head _ (books.handling clear), books.processing, books.bound,
        books.removed, fun late => ⟨(books.freed late).1, idle_of_set head _ (books.freed late).2⟩,
        fun late => absurd late early, books.mapped⟩
  | _ => cases call

/-- The handler makes its own calls only. -/
theorem invokeIsr_ofHandler : (invokeIsr priv).OnlyCalls fun e => e.ofHandler = true := by
  unfold invokeIsr myDeviceIsr
  simp only [perform_bind, call_bind]
  refine ⟨rfl, fun status => ?_⟩
  by_cases done : status &&& myDeviceDmaDoneBit ≠ 0
  · simp only [if_pos done]
    exact ⟨rfl, fun _ => ⟨rfl, fun _ => ⟨rfl, fun _ => trivial⟩⟩⟩
  · simp only [if_neg done]
    exact ⟨rfl, fun _ => trivial⟩

theorem partyCalls_code (i : Party) :
    PartyCalls i ((removal pageSize priv).code i) := by
  cases i with
  | remove => trivial
  | irq => exact invokeIsr_ofHandler
  | tasklet => rfl

/-- A party is called. -/
theorem RemovalInv.start (line : 0 < priv.irq) {i : Party} (inv : RemovalInv c g)
    (idle : c.threads i = none) (may : c.state.admits i) :
    ∃ g', RemoveAt (c.set (c.state.enter i) i (some ((removal pageSize priv).code i))) g' ∧
      RemovalBooks (c.set (c.state.enter i) i (some ((removal pageSize priv).code i))) g' := by
  obtain ⟨stage, books, -⟩ := inv
  cases i with
  | remove =>
      obtain rfl := books.bound may
      exact ⟨.disabling, .running Config.set_threads_self (myDeviceRemove_follows line), books.begin⟩
  | irq =>
      have early : ¬ (g = .freed ∨ g.late) := fun late => nomatch may.symm.trans (books.freed late).1
      exact ⟨g, stage.of_threads rfl, nofun, books.processing, books.bound, books.removed,
        fun late => absurd late early, fun late => absurd (.inr late) early, books.mapped⟩
  | tasklet =>
      have early : ¬ g.late := fun late => nomatch may.symm.trans (books.killed late).2
      exact ⟨g, stage.of_threads rfl, books.handling, nofun, books.bound, books.removed, books.freed,
        fun late => absurd late early, books.mapped⟩

/-- A party returns. -/
theorem RemovalInv.finish {i : Party} (inv : RemovalInv c g) (head : c.threads i = some (.ret ())) :
    RemoveAt (c.set (c.state.leave i) i none) g ∧
      RemovalBooks (c.set (c.state.leave i) i none) g := by
  obtain ⟨stage, books, -⟩ := inv
  have still : ∀ j, c.threads j = none → (c.set (c.state.leave i) i none).threads j = none := by
    intro j idle
    by_cases here : j = i
    · subst here
      exact Config.set_threads_self
    · rwa [Config.set_threads_of_ne here]
  cases i with
  | remove =>
      have late := stage.returned head
      exact ⟨.idle Config.set_threads_self (.inr late), books.handling, books.processing, books.bound,
        fun _ => late, books.freed, books.killed, books.mapped⟩
  | irq =>
      exact ⟨stage.of_threads rfl, fun _ => Config.set_threads_self, books.processing, books.bound,
        books.removed, fun late => ⟨(books.freed late).1, Config.set_threads_self⟩, books.killed,
        books.mapped⟩
  | tasklet =>
      exact ⟨stage.of_threads rfl, books.handling, fun _ => Config.set_threads_self, books.bound,
        books.removed, books.freed, fun late => ⟨Config.set_threads_self, (books.killed late).2⟩,
        books.mapped⟩

/-- Every step keeps the invariant. -/
theorem RemovalInv.step (line : 0 < priv.irq) (step : (removal pageSize priv).Step c m c')
    (inv : RemovalInv c g) : ∃ g', RemovalInv c' g' := by
  have calls : ∀ i p, c'.threads i = some p → PartyCalls i p := by
    refine step.threads partyCalls_code ?_ inv.calls
    intro i e k r before
    cases i with
    | remove => trivial
    | irq => exact before.2 r
    | tasklet => cases before
  suffices moved : ∃ g', RemoveAt c' g' ∧ RemovalBooks c' g' by
    obtain ⟨g', stage, books⟩ := moved
    exact ⟨g', stage, books, calls⟩
  cases step with
  | start idle may => exact inv.start line idle may
  | @call i e k r head may answer =>
      cases i with
      | remove =>
          obtain ⟨g', next, rest⟩ := inv.stage.call head r
          exact ⟨g', .running Config.set_threads_self rest, inv.books.remove next head answer⟩
      | irq => exact ⟨g, inv.stage.of_threads rfl, inv.books.irq (inv.calls .irq _ head).1 head⟩
      | tasklet => cases inv.calls .tasklet _ head
  | finish head may => exact ⟨g, inv.finish head⟩
  | device => exact ⟨g, inv.stage.of_threads rfl, inv.books.of_regs _ rfl fun _ idle => idle⟩

theorem BoundIdle.inv (idle : BoundIdle c) : RemovalInv c .bound := by
  refine ⟨.idle (idle.threads _) (.inl rfl), ⟨fun _ => idle.threads _, fun _ => idle.threads _,
    fun _ => rfl, fun removed => ?_, nofun, nofun, fun _ => idle.mapped⟩, fun i p running => ?_⟩
  · cases idle.removed.symm.trans removed
  · cases (idle.threads i).symm.trans running

theorem RemovalInv.safe (inv : RemovalInv c g) : RemovedSafely c where
  mapped := by
    intro i e k head access
    refine inv.books.mapped fun unmapped => ?_
    subst unmapped
    cases i with
    | remove =>
        -- past `iounmap` the remove accesses no register
        obtain ⟨r⟩ : Nonempty (Resp e) := inferInstance
        obtain ⟨g', next, -⟩ := inv.stage.call head r
        cases next with
        | unmapped unrelated =>
            cases e with
            | ioread32 | iowrite32 | ioread64DmaAddr | iowrite64DmaAddr => cases unrelated
            | _ => cases access
    | irq => cases (inv.books.freed (.inr (.inr rfl))).2.symm.trans head
    | tasklet => cases inv.calls .tasklet _ head
  settled removed := by
    have late := inv.books.removed removed
    exact ⟨(inv.books.freed (.inr late)).1, (inv.books.freed (.inr late)).2, inv.books.killed late⟩

theorem RemovalInv.run (line : 0 < priv.irq) (run : Run (removal pageSize priv).Step c₀ past c)
    (idle : BoundIdle c₀) : ∃ g, RemovalInv c g := by
  induction run with
  | nil => exact ⟨.bound, idle.inv⟩
  | snoc run step ih =>
      obtain ⟨g, inv⟩ := ih
      exact inv.step line step

/-! ## The line 0 -/

/-- The call neither frees the interrupt line nor schedules the tasklet. -/
def Call.keepsLine : Call → Bool
  | .freeIrq _ _ | .taskletSchedule _ => false
  | _ => true

/-- The remove does not free a line that is not positive. -/
theorem myDeviceRemove_keepsLine (line : ¬ 0 < priv.irq) :
    (myDeviceRemove pageSize priv.pdev priv).OnlyCalls fun e => e.keepsLine = true := by
  have disable : (removeDisable priv).OnlyCalls fun e => e.keepsLine = true := by
    unfold removeDisable
    split
    · exact ⟨rfl, fun _ => ⟨rfl, fun _ => trivial⟩⟩
    · trivial
  have buffer : (removeBuffer pageSize priv.pdev priv).OnlyCalls fun e => e.keepsLine = true := by
    unfold removeBuffer
    split
    · exact ⟨rfl, fun _ => trivial⟩
    · trivial
  have mapping : (removeMapping priv).OnlyCalls fun e => e.keepsLine = true := by
    unfold removeMapping
    split
    · exact ⟨rfl, fun _ => trivial⟩
    · trivial
  unfold myDeviceRemove removeIrq
  rw [if_neg line]
  refine disable.bind fun _ => ⟨rfl, fun _ => buffer.bind fun _ => mapping.bind fun _ => ?_⟩
  exact ⟨rfl, fun _ => ⟨rfl, fun _ => trivial⟩⟩

/-- With the handler on the line and the tasklet at rest, every other call returns and leaves it so. -/
theorem answered_keepsLine {s : BoundState} (keeps : e.keepsLine = true)
    (rest : s.requested = true ∧ s.scheduled = false ∧ s.processing = false) :
    ∃ r s', (removal pageSize priv).kernel .remove e s r s' ∧
      (s'.requested = true ∧ s'.scheduled = false ∧ s'.processing = false) := by
  cases e with
  | freeIrq | taskletSchedule => cases keeps
  | ioread32 p reg => exact ⟨s.regs reg, _, ⟨rfl, rfl⟩, rest⟩
  | taskletKill pdev => exact ⟨(), _, ⟨rest.2, rfl⟩, rest⟩
  | _ => exact ⟨default, _, ⟨trivial, rfl⟩, rest⟩

/-- A remove that returns with its handler on the line. -/
theorem exists_run_requested (pageSize : UInt64) (line : ¬ 0 < priv.irq) (idle : BoundIdle c₀) :
    ∃ past c, Run (removal pageSize priv).Step c₀ past c ∧ c.state.removed = true ∧
      c.state.requested = true := by
  have start : (removal pageSize priv).Step c₀ (.start .remove) (c₀.set (c₀.state.enter .remove)
      .remove (some (myDeviceRemove pageSize priv.pdev priv))) :=
    .start (idle.threads .remove) idle.bound
  obtain ⟨a, s', exec, requested, -⟩ := (myDeviceRemove_keepsLine line).exists_exec
    answered_keepsLine (s := c₀.state.enter .remove)
    ⟨idle.requested, idle.scheduled, idle.processing⟩
  obtain ⟨past, run⟩ := Machine.run_of_exec (Run.nil.snoc start) (fun _ => trivial) exec
  exact ⟨_, _, run.snoc (.finish Config.set_threads_self trivial), rfl, requested⟩

/-- **Safe removal.**  In every interleaving of the remove, the handler and the tasklet, and whenever the
device interrupts, no register is accessed once the registers are unmapped, and once the remove has
returned neither the handler nor the tasklet runs, or will run, exactly when the interrupt line of the
device is positive. -/
theorem removal_safe_iff (idle : BoundIdle c₀) :
    (∀ past c, Run (removal pageSize priv).Step c₀ past c → Always RemovedSafely past c) ↔
      0 < priv.irq := by
  constructor
  · intro safe
    by_contra line
    obtain ⟨past, c, run, removed, requested⟩ :=
      exists_run_requested pageSize line idle
    cases requested.symm.trans ((safe past c run).2.settled removed).1
  · intro line past c run
    refine run.always_of_forall fun run => ?_
    obtain ⟨g, inv⟩ := RemovalInv.run line run idle
    exact inv.safe

end

/-! ## Two devices -/

/-- A device as probe leaves it, with nothing running. -/
def boundDevice : RemovalConfig := ⟨{}, fun _ => none⟩

theorem boundDevice_boundIdle : BoundIdle boundDevice :=
  ⟨fun _ => rfl, rfl, rfl, rfl, rfl, rfl, rfl, rfl⟩

/-- What probe keeps of a device with that interrupt number. -/
def privWithLine (irq : Int32) : MyDevicePriv where
  pdev := ⟨16, 0, 4096⟩
  regsBase := 32
  regs := 32
  dmaBufferVirt := 48
  irq := irq

/-- A device on line 5 is removed safely, one on line 0 is not. -/
theorem removal_safe_five :
    (∀ past c, Run (removal 4096 (privWithLine 5)).Step boundDevice past c →
      Always RemovedSafely past c) ∧
    ¬ ∀ past c, Run (removal 4096 (privWithLine 0)).Step boundDevice past c →
      Always RemovedSafely past c := by
  constructor
  · exact (removal_safe_iff boundDevice_boundIdle).mpr (by decide)
  · intro safe
    exact absurd ((removal_safe_iff boundDevice_boundIdle).mp safe) (by decide)

end ScullDrivers.DmaPci
