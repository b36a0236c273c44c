import Mathlib.Algebra.GroupWithZero.Nat
import ScullDrivers.Nesting
import ScullDrivers.Uio.Driver

/-!
# Interrupts of the UIO driver

Two results about the line a device interrupts on.  User space writes a level to `/dev/uioX`, and
`dummy_irqcontrol` turns it into the kernel's nesting `enable_irq` and `disable_irq`: the level is kept
exactly for some histories of writes (`obeysWrites_iff`).  And the driver takes the line for a handler of
its own before `uio_register_device` asks for it, so that on an interrupt of a positive number the
probe fails, and no event is delivered (`not_delivers`).
-/

namespace ScullDrivers.Uio

open Interaction Nesting

/-! ## Enabling and disabling -/

/-- The interrupt lines: the depth of each, and how often it was enabled where it was not disabled. -/
abbrev Lines := UInt32 → Switch

/-- The kernel, as far as the depth of the lines goes.  A line that gets a handler starts enabled.  Here
`uio_register_device` is answered as the surroundings please, without the request of the line that it
makes itself: `uioKernel` below models that request, and what comes of it. -/
def lineKernel (a : Answers) : Handler Call Resp Lines
  | .requestIrq irq _ _, lines =>
      (a.requestIrq, if a.requestIrq = 0 then
        Function.update lines irq { lines irq with depth := 0 } else lines)
  | .enableIrq irq, lines => ((), Function.update lines irq ((lines irq).turn true))
  | .disableIrq irq, lines => ((), Function.update lines irq ((lines irq).turn false))
  | e, lines => (a.answer e, lines)

/-- User space writes one value to `/dev/uioX`. -/
def write (a : Answers) (g : Globals) (lines : Lines) (irqOn : Int32) : Lines :=
  ((dummyIrqcontrol g irqOn).eval (lineKernel a) lines).2

/-- User space writes values one after the other. -/
def writes (a : Answers) (g : Globals) (lines : Lines) (values : List Int32) : Lines :=
  values.foldl (write a g) lines

/-- The line of the device, with the globals its probe left. -/
def Globals.line (g : Globals) : UInt32 := g.dummyIrq.toUInt32

/-- After the writes the line is enabled exactly if the last value was not zero, or there was none, and
no call of `enable_irq` found it enabled. -/
def ObeysWrites (a : Answers) (g : Globals) (lines : Lines) (values : List Int32) : Prop :=
  ((writes a g lines values g.line).depth = 0 ↔ ∀ value ∈ values.getLast?, value ≠ 0) ∧
    (writes a g lines values g.line).unbalanced = (lines g.line).unbalanced

/-- In no part of the history from its start were there more values other than zero than zeros. -/
def NeverAhead (values : List Int32) : Prop :=
  ∀ p, p <+: values → p.countP (· ≠ 0) ≤ p.countP (· = 0)

section

variable {pdev : PciDev} {a : Answers} {g g' : Globals} {lines lines' : Lines} {values : List Int32}

theorem write_line {value : Int32} :
    write a g lines value g.line = (lines g.line).turn (decide (value ≠ 0)) := by
  unfold write dummyIrqcontrol Globals.line
  rcases eq_or_ne value 0 with zero | nonzero
  · simp [zero, lineKernel]
  · simp [nonzero, lineKernel]

/-- Writing turns the switch of the line. -/
theorem writes_line : writes a g lines values g.line =
    (lines g.line).turnAll (values.map fun value => decide (value ≠ 0)) := by
  induction values generalizing lines with
  | nil => rfl
  | cons value values ih =>
      have rest := @ih (write a g lines value)
      rw [write_line] at rest
      exact rest

theorem map_prefix {p : List Bool} {f : Int32 → Bool} (pre : p <+: values.map f) :
    ∃ front, front <+: values ∧ p = front.map f := by
  rw [List.prefix_iff_eq_take] at pre
  refine ⟨values.take p.length, List.take_prefix _ _, ?_⟩
  rw [List.map_take]
  exact pre

theorem count_on : (values.map fun value => decide (value ≠ 0)).count true =
    values.countP (· ≠ 0) := by
  rw [List.count, List.countP_map]
  refine List.countP_congr fun value _ => ?_
  simp

theorem count_off : (values.map fun value => decide (value ≠ 0)).count false =
    values.countP (· = 0) := by
  rw [List.count, List.countP_map]
  refine List.countP_congr fun value _ => ?_
  simp

theorem nested_iff : Nested (values.map fun value => decide (value ≠ 0)) ↔ NeverAhead values := by
  constructor
  · intro nested p pre
    have within := nested _ (pre.map fun value => decide (value ≠ 0))
    rwa [count_on, count_off] at within
  · intro never p pre
    obtain ⟨front, within, rfl⟩ := map_prefix pre
    rw [count_on, count_off]
    exact never front within

theorem probeIrq_line
    (ready : (dummyProbeIrq pdev g).eval (lineKernel a) lines = ((0, g'), lines')) :
    (lines' g'.line).depth = 0 := by
  rcases eq_or_ne a.requestIrq 0 with granted | denied
  · rcases eq_or_ne a.uioRegisterDevice 0 with registered | failed
    · simp [dummyProbeIrq, Answers.answer, lineKernel, granted, registered] at ready
      obtain ⟨rfl, rfl⟩ := ready
      simp [Globals.line]
    · simp [dummyProbeIrq, errFreeIrq, errIounmap, errReleaseRegions, errDisableDevice,
        Answers.answer, lineKernel, granted, failed] at ready
  · simp [dummyProbeIrq, errIounmap, errReleaseRegions, errDisableDevice, Answers.answer, lineKernel,
      denied] at ready

/-- A probe that succeeds leaves the line of the device enabled. -/
theorem probe_line (ready : (dummyProbe pdev g).eval (lineKernel a) lines = ((0, g'), lines')) :
    (lines' g'.line).depth = 0 := by
  rcases eq_or_ne a.pciEnableDevice 0 with enabled | refused
  · rcases eq_or_ne a.pciRequestRegions 0 with regions | taken
    · rcases eq_or_ne a.pciIoremapBar 0 with unmapped | mapped
      · simp [dummyProbe, errReleaseRegions, errDisableDevice, Answers.answer, lineKernel, enabled,
          regions, unmapped, enomem] at ready
      · rcases eq_or_ne a.pciEnableMsixExact 0 with msix | legacy
        · simp [dummyProbe, dummyProbeMsix, Answers.answer, lineKernel, enabled, regions, mapped,
            msix] at ready
          exact probeIrq_line ready
        · simp [dummyProbe, dummyProbeMsix, Answers.answer, lineKernel, enabled, regions, mapped,
            legacy] at ready
          exact probeIrq_line ready
    · simp [dummyProbe, errDisableDevice, Answers.answer, lineKernel, enabled, taken] at ready
  · simp [dummyProbe, Answers.answer, lineKernel, refused] at ready

/-- **User space's view of the line.**  After a successful probe, a history of writes leaves the line
enabled as it should be, without an error, exactly if the values other than zero were never ahead and,
when the last one was not zero, there were as many zeros. -/
theorem obeysWrites_iff
    (ready : (dummyProbe pdev g).eval (lineKernel a) lines = ((0, g'), lines')) :
    ObeysWrites a g' lines' values ↔ NeverAhead values ∧
      ∀ value ∈ values.getLast?, value ≠ 0 → values.countP (· ≠ 0) = values.countP (· = 0) := by
  have settled : (lines' g'.line).Settled (values.map fun value => decide (value ≠ 0)) ↔ _ :=
    settled_iff (probe_line ready)
  rw [nested_iff, count_on, count_off, Switch.Settled, ← writes_line (a := a)] at settled
  rw [List.getLast?_map] at settled
  unfold ObeysWrites
  cases last : values.getLast? with
  | none => simpa [last] using settled
  | some value => simpa [last] using settled

end

/-- The first device with its legacy interrupt, its registers mapped at address 1. -/
theorem demoProbe_ready : ∃ g' lines', (dummyProbe (demoDev 1) {}).eval
    (lineKernel { pciIoremapBar := 1, pciEnableMsixExact := -38 }) (fun _ => {}) =
      ((0, g'), lines') :=
  ⟨_, _, rfl⟩

/-- Off and on again. -/
theorem obeysWrites_offOn : ∃ g' lines',
    ObeysWrites { pciIoremapBar := 1, pciEnableMsixExact := -38 } g' lines' [0, 1] := by
  obtain ⟨g', lines', ready⟩ := demoProbe_ready
  have never : ∀ p ∈ ([0, 1] : List Int32).inits, p.countP (· ≠ 0) ≤ p.countP (· = 0) := by decide
  refine ⟨g', lines', (obeysWrites_iff ready).mpr ⟨fun p pre => ?_, fun value _ _ => ?_⟩⟩
  · exact never p ((List.mem_inits p _).mpr pre)
  · decide

/-- After two zeros a one leaves the line disabled. -/
theorem not_obeysWrites : ¬ ∀ (pdev : PciDev) (a : Answers) (g g' : Globals) (lines lines' : Lines)
    (values : List Int32), (dummyProbe pdev g).eval (lineKernel a) lines = ((0, g'), lines') →
    ObeysWrites a g' lines' values := by
  intro claim
  obtain ⟨g', lines', ready⟩ := demoProbe_ready
  obtain ⟨level, -⟩ := claim _ _ _ _ _ _ [0, 0, 1] ready
  rw [writes_line] at level
  have one : ∀ value ∈ ([0, 0, 1] : List Int32).getLast?, value ≠ 0 := by
    intro value last
    cases last
    decide
  have on := level.mpr one
  rw [show lines' g'.line = {} by cases ready; rfl] at on
  exact absurd on (by decide)

/-! ## Delivering events -/

/-- A handler on an interrupt line: one of the driver's, or the one `uio_register_device` installs for a
`struct uio_info`. -/
inductive LineHandler
  | driver (handler : Func)
  | uio (info : UioInfo)

/-- The handlers on each line, and the event count that `read()` of `/dev/uioX` reports. -/
structure UioState where
  handlers : UInt32 → List LineHandler
  events : Nat

/-- The line has this handler, and no other. -/
def UioState.install (s : UioState) (irq : UInt32) (handler : LineHandler) : UioState :=
  { s with handlers := Function.update s.handlers irq [handler] }

/-- `request_irq` without `IRQF_SHARED`, where `granted` is its answer on a line without a handler. -/
def requestLine (irq : UInt32) (handler : LineHandler) (granted : Int) (s : UioState) :
    Int × UioState :=
  match s.handlers irq with
  | [] => if granted = 0 then (0, s.install irq handler) else (granted, s)
  | _ :: _ => (-ebusy, s)

/-- `uio_register_device`: it asks for the line of the device itself, unless there is none or the driver
sees to it. -/
def uioRegister (info : UioInfo) (granted : Int) (s : UioState) : Int × UioState :=
  if granted = 0 ∧ info.irq ≠ 0 ∧ info.irq ≠ uioIrqCustom then
    requestLine (Int32.ofInt info.irq).toUInt32 (.uio info) 0 s
  else (granted, s)

/-- The kernel, as far as the handlers go. -/
def uioKernel (a : Answers) : Handler Call Resp UioState
  | .requestIrq irq handler _, s => requestLine irq (.driver handler) a.requestIrq s
  | .uioRegisterDevice _ info, s => uioRegister info a.uioRegisterDevice s
  | .freeIrq irq, s => ((), { s with handlers := Function.update s.handlers irq [] })
  | e, s => (a.answer e, s)

/-- What a function of the driver returns when it is called as a handler. -/
def Func.returns : Func → IrqReturn
  | .dummyHandler => Uio.dummyHandler
  | .dummyIrqcontrol => .none

/-- What a handler does to the event count: that of UIO counts an event when the function it is given
returns `IRQ_HANDLED`, and no other function signals one. -/
def LineHandler.count : LineHandler → Nat
  | .driver _ => 0
  | .uio info => if info.handler.map Func.returns = some .handled then 1 else 0

/-- The device interrupts. -/
def interrupt (irq : UInt32) (s : UioState) : UioState :=
  { s with events := s.events + ((s.handlers irq).map LineHandler.count).sum }

/-- Every resource the probe asks for is available; MSI-X may be or not. -/
structure Answers.Available (a : Answers) : Prop where
  pciEnableDevice : a.pciEnableDevice = 0
  pciRequestRegions : a.pciRequestRegions = 0
  pciIoremapBar : a.pciIoremapBar ≠ 0
  requestIrq : a.requestIrq = 0
  uioRegisterDevice : a.uioRegisterDevice = 0

/-- The probe succeeds, and then the event count advances by one with every interrupt. -/
def Delivers (pdev : PciDev) (a : Answers) (g : Globals) (s : UioState) : Prop :=
  ((dummyProbe pdev g).eval (uioKernel a) s).1.1 = 0 ∧
    ∀ n, ((interrupt (a.irq pdev))^[n] ((dummyProbe pdev g).eval (uioKernel a) s).2).events =
      ((dummyProbe pdev g).eval (uioKernel a) s).2.events + n

section

variable {pdev : PciDev} {a : Answers} {g : Globals} {s : UioState}

theorem requestLine_free {irq : UInt32} {handler : LineHandler} (free : s.handlers irq = []) :
    requestLine irq handler 0 s = (0, s.install irq handler) := by
  simp [requestLine, free]

theorem requestLine_busy {irq : UInt32} {handler other : LineHandler} {rest : List LineHandler}
    {granted : Int} (busy : s.handlers irq = other :: rest) :
    requestLine irq handler granted s = (-ebusy, s) := by
  simp [requestLine, busy]

/-- UIO does not get a line that already has a handler. -/
theorem uioRegister_busy {info : UioInfo} {other : LineHandler} {rest : List LineHandler}
    (positive : 0 < info.irq) (busy : s.handlers (Int32.ofInt info.irq).toUInt32 = other :: rest) :
    uioRegister info 0 s = (-ebusy, s) := by
  unfold uioRegister uioIrqCustom
  rw [if_pos ⟨rfl, by omega, by omega⟩]
  exact requestLine_busy busy

/-- From `request_irq` on, the driver takes the line, and it is busy when UIO asks for it. -/
theorem eval_dummyProbeIrq_busy (available : a.Available) (positive : 0 < g.dummyIrq)
    (free : s.handlers g.dummyIrq.toUInt32 = []) :
    ((dummyProbeIrq pdev g).eval (uioKernel a) s).1.1 = -ebusy := by
  have number : 0 < (fillUioInfo pdev g).irq := Int32.lt_iff_toInt_lt.mp positive
  have own : (Int32.ofInt (fillUioInfo pdev g).irq).toUInt32 = g.dummyIrq.toUInt32 :=
    congrArg Int32.toUInt32 (Int32.ofInt_toInt g.dummyIrq)
  have busy : (s.install g.dummyIrq.toUInt32 (.driver .dummyHandler)).handlers
      (Int32.ofInt (fillUioInfo pdev g).irq).toUInt32 = [.driver .dummyHandler] := by
    rw [own]
    exact Function.update_self ..
  have taken := uioRegister_busy number busy
  simp [dummyProbeIrq, errFreeIrq, errIounmap, errReleaseRegions, errDisableDevice, uioKernel,
    available.requestIrq, available.uioRegisterDevice, requestLine_free free, taken, ebusy]

/-- **No event is delivered.**  Whatever positive number the device interrupts on, a probe that gets all
it asks for fails. -/
theorem not_delivers (available : a.Available) (positive : 0 < (a.irq pdev).toInt32)
    (free : s.handlers (a.irq pdev) = []) : ¬ Delivers pdev a g s := by
  intro delivers
  obtain ⟨ready, -⟩ := delivers
  have busy : ((dummyProbeIrq pdev { g with
      mmioBase := a.pciIoremapBar, dummyIrq := (a.irq pdev).toInt32 }).eval (uioKernel a) s).1.1 =
        -ebusy := by
    refine eval_dummyProbeIrq_busy available positive ?_
    exact free
  have rest : (dummyProbe pdev g).eval (uioKernel a) s = (dummyProbeIrq pdev { g with
      mmioBase := a.pciIoremapBar, dummyIrq := (a.irq pdev).toInt32 }).eval (uioKernel a) s := by
    rcases eq_or_ne a.pciEnableMsixExact 0 with msix | legacy
    · simp [dummyProbe, dummyProbeMsix, uioKernel, Answers.answer, Answers.irq,
        available.pciEnableDevice, available.pciRequestRegions, available.pciIoremapBar, msix]
    · simp [dummyProbe, dummyProbeMsix, uioKernel, Answers.answer, Answers.irq,
        available.pciEnableDevice, available.pciRequestRegions, available.pciIoremapBar, legacy]
  rw [rest, busy] at ready
  exact absurd ready (by decide)

end

/-- The first device with MSI-X vector 40. -/
theorem not_delivers_msix : ¬ Delivers (demoDev 1) { pciIoremapBar := 1, msixVector := 40 } {}
    ⟨fun _ => [], 0⟩ :=
  not_delivers ⟨rfl, rfl, by decide, rfl, rfl⟩ (by decide) rfl

/-- The first device with its legacy interrupt: UIO finds the line busy, and the probe fails. -/
theorem not_delivers_legacy : ¬ ∀ (pdev : PciDev) (a : Answers) (g : Globals) (s : UioState),
    a.Available → 0 < (a.irq pdev).toInt32 → s.handlers (a.irq pdev) = [] →
    Delivers pdev a g s := by
  intro claim
  obtain ⟨ready, -⟩ := claim (demoDev 1) { pciIoremapBar := 1, pciEnableMsixExact := -38 } {}
    ⟨fun _ => [], 0⟩ ⟨rfl, rfl, by decide, rfl, rfl⟩ (by decide) rfl
  exact absurd ready (by decide)

end ScullDrivers.Uio
