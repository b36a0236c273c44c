import ScullDrivers.Interaction.Program
import ScullDrivers.Resources.Module

/-!
# The PCI interrupt driver, `pci_mmio/pcie.c`

`pci_probe` and `pci_remove` as programs over the kernel functions they call.  The address of the
mapping and the interrupt number of the device are in two globals of the module, which every probe that
gets past the region overwrites, failed or not, so a remove works on what the last such probe left
there.  Each remove gives back what its own device has exactly when that was its own
(`always_exact_iff`), and no failed probe changes anything for the bound devices exactly when none of
them stores anything new there (`perDevice_iff`).  Over loads and unloads as well, the books are right
whenever no device is probed while another one is bound (`loaded_exact_iff`).
-/

namespace ScullDrivers.Pcie

open Interaction Resources

/-! ## The driver -/

/-- An address; `0` is `NULL`. -/
abbrev Ptr := Nat

/-- `ENOMEM`. -/
def enomem : Int := 12

/-- `struct pci_dev`: the device by its address, its interrupt number, and its first BAR. -/
structure PciDev where
  address : Ptr
  irq : UInt32
  resourceStart : UInt64
  resourceLen : UInt64
  deriving DecidableEq

/-- `mmio_base` and `irq_line`. -/
structure Globals where
  mmioBase : Ptr := 0
  irqLine : Int32 := 0
  deriving DecidableEq

/-- The kernel functions the driver calls. -/
inductive Call
  | pciEnableDevice (pdev : PciDev)
  | pciRequestRegion (pdev : PciDev)
  | ioremap (start len : UInt64)
  | requestIrq (irq : UInt32) (devId : PciDev)
  | freeIrq (irq : UInt32) (devId : PciDev)
  | iounmap (base : Ptr)
  | pciReleaseRegion (pdev : PciDev)
  | pciDisableDevice (pdev : PciDev)

/-- What they return. -/
abbrev Resp : Call → Type
  | .pciEnableDevice _ | .pciRequestRegion _ | .requestIrq _ _ => Int
  | .ioremap _ _ => Ptr
  | .freeIrq _ _ | .iounmap _ | .pciReleaseRegion _ | .pciDisableDevice _ => Unit

abbrev kcall (e : Call) : Prog Call Resp (Resp e) := perform e

/-- `pci_probe` from `request_irq` on. -/
def pciProbeIrq (pdev : PciDev) (g : Globals) : Prog Call Resp (Int × Globals) := do
  let err ← kcall (.requestIrq g.irqLine.toUInt32 pdev)
  if err ≠ 0 then do
    kcall (.iounmap g.mmioBase)
    kcall (.pciReleaseRegion pdev)
    kcall (.pciDisableDevice pdev)
    return (err, g)
  else return (0, g)

/-- `pci_probe` from `ioremap` on. -/
def pciProbeMap (pdev : PciDev) (g : Globals) : Prog Call Resp (Int × Globals) := do
  let mmioBase ← kcall (.ioremap pdev.resourceStart pdev.resourceLen)
  let g := { g with mmioBase }
  if g.mmioBase = 0 then do
    kcall (.pciReleaseRegion pdev)
    kcall (.pciDisableDevice pdev)
    return (-enomem, g)
  else pciProbeIrq pdev { g with irqLine := pdev.irq.toInt32 }

/-- `pci_probe`. -/
def pciProbe (pdev : PciDev) (g : Globals) : Prog Call Resp (Int × Globals) := do
  let err ← kcall (.pciEnableDevice pdev)
  if err ≠ 0 then return (err, g)
  else do
    let err ← kcall (.pciRequestRegion pdev)
    if err ≠ 0 then do
      kcall (.pciDisableDevice pdev)
      return (err, g)
    else pciProbeMap pdev g

/-- `pci_remove`. -/
def pciRemove (pdev : PciDev) (g : Globals) : Prog Call Resp Unit := do
  kcall (.freeIrq g.irqLine.toUInt32 pdev)
  kcall (.iounmap g.mmioBase)
  kcall (.pciReleaseRegion pdev)
  kcall (.pciDisableDevice pdev)

/-! ## The kernel -/

/-- What a device holds: it is enabled, its region is its own, its registers are mapped at an address,
and its handler is on an interrupt line. -/
inductive Resource
  | device (pdev : PciDev)
  | region (pdev : PciDev)
  | mapping (base : Ptr)
  | handler (irq : UInt32) (devId : PciDev)
  deriving DecidableEq

/-- What the fallible calls of a probe return. -/
structure Answers where
  pciEnableDevice : Int
  pciRequestRegion : Int
  ioremap : Ptr
  requestIrq : Int

def Answers.answer (a : Answers) : (e : Call) → Resp e
  | .pciEnableDevice _ => a.pciEnableDevice
  | .pciRequestRegion _ => a.pciRequestRegion
  | .ioremap _ _ => a.ioremap
  | .requestIrq _ _ => a.requestIrq
  | .freeIrq _ _ | .iounmap _ | .pciReleaseRegion _ | .pciDisableDevice _ => ()

/-- What a call obtains or gives back. -/
def effect : (e : Call) → Resp e → List (Event Resource)
  | .pciEnableDevice pdev, err => if err = 0 then [.acquire (.device pdev)] else []
  | .pciRequestRegion pdev, err => if err = 0 then [.acquire (.region pdev)] else []
  | .ioremap _ _, base => if base = 0 then [] else [.acquire (.mapping base)]
  | .requestIrq irq devId, err => if err = 0 then [.acquire (.handler irq devId)] else []
  | .freeIrq irq devId, _ => [.release (.handler irq devId)]
  | .iounmap base, _ => [.release (.mapping base)]
  | .pciReleaseRegion pdev, _ => [.release (.region pdev)]
  | .pciDisableDevice pdev, _ => [.release (.device pdev)]

/-- The calls a remove makes have nothing to answer. -/
def Answers.none : Answers := ⟨0, 0, 0, 0⟩

/-- The driver on the bus.  What is noted for a bound device is the mapping its probe obtained. -/
def driver : Driver PciDev Globals Ptr Answers Resource where
  probe pdev a g :=
    let ((err, g), es) := (pciProbe pdev g).eval (logging a.answer effect) []
    (if err = 0 then some a.ioremap else .none, g, es)
  remove pdev _ g :=
    let (_, es) := (pciRemove pdev g).eval (logging Answers.none.answer effect) []
    (g, es)

/-- What a bound device holds, with its registers mapped at `base`. -/
def full (pdev : PciDev) (base : Ptr) : Multiset Resource :=
  {.handler pdev.irq pdev, .mapping base, .region pdev, .device pdev}

/-- What a remove gives back. -/
def gone (pdev : PciDev) (_ : Ptr) (g : Globals) : List Resource :=
  [.handler g.irqLine.toUInt32 pdev, .mapping g.mmioBase, .region pdev, .device pdev]

section

variable {pdev : PciDev} {a : Answers} {g : Globals}

attribute [local simp] Answers.answer effect

/-- The outcomes of `pci_probe`, in the order in which it can fail. -/
theorem probe_eq : driver.probe pdev a g =
    if a.pciEnableDevice ≠ 0 then (none, g, [])
    else if a.pciRequestRegion ≠ 0 then
      (none, g, [.acquire (.device pdev), .release (.device pdev)])
    else if a.ioremap = 0 then
      (none, { g with mmioBase := 0 }, [.acquire (.device pdev), .acquire (.region pdev),
        .release (.region pdev), .release (.device pdev)])
    else if a.requestIrq ≠ 0 then
      (none, ⟨a.ioremap, pdev.irq.toInt32⟩, [.acquire (.device pdev), .acquire (.region pdev),
        .acquire (.mapping a.ioremap), .release (.mapping a.ioremap), .release (.region pdev),
        .release (.device pdev)])
    else
      (some a.ioremap, ⟨a.ioremap, pdev.irq.toInt32⟩, [.acquire (.device pdev),
        .acquire (.region pdev), .acquire (.mapping a.ioremap),
        .acquire (.handler pdev.irq pdev)]) := by
  rcases eq_or_ne a.pciEnableDevice 0 with enabled | refused
  · rcases eq_or_ne a.pciRequestRegion 0 with region | taken
    · rcases eq_or_ne a.ioremap 0 with unmapped | mapped
      · simp [driver, pciProbe, pciProbeMap, enabled, region, unmapped, enomem]
      · rcases eq_or_ne a.requestIrq 0 with granted | denied
        · simp [driver, pciProbe, pciProbeMap, pciProbeIrq, enabled, region, mapped, granted]
        · simp [driver, pciProbe, pciProbeMap, pciProbeIrq, enabled, region, mapped, denied]
    · simp [driver, pciProbe, enabled, taken]
  · simp [driver, pciProbe, refused]

/-- A probe fails and gives back all it obtained, or keeps all of it. -/
theorem probe_cases {k : Option Ptr} {g' : Globals} {es : List (Event Resource)}
    (ran : driver.probe pdev a g = (k, g', es)) :
    k = none ∧ NetZero es ∨
      k = some a.ioremap ∧ replay es 0 = some (full pdev a.ioremap) := by
  rw [probe_eq] at ran
  split_ifs at ran with enabled region mapped line
  · cases ran
    exact .inl ⟨rfl, rfl⟩
  · cases ran
    exact .inl ⟨rfl, by simp [NetZero]⟩
  · cases ran
    exact .inl ⟨rfl, by simp [NetZero]⟩
  · cases ran
    exact .inl ⟨rfl, by simp [NetZero]⟩
  · cases ran
    exact .inr ⟨rfl, by simp [full]⟩

theorem driver_careful : driver.Careful full gone where
  refuse := by
    intro d a g g' es ran
    rcases probe_cases ran with ⟨-, balanced⟩ | ⟨kept, -⟩
    · exact balanced
    · cases kept
  bind := by
    intro d a g k g' es ran
    rcases probe_cases ran with ⟨failed, -⟩ | ⟨kept, held⟩
    · cases failed
    · cases kept
      exact held
  remove := by
    intro d k g g' es ran
    cases ran
    rfl

/-- The globals still hold what the probe of the device left there. -/
def OwnGlobals (b : Binding PciDev Globals Ptr Resource) : Request PciDev Answers → Prop
  | .probe _ _ => True
  | .remove pdev =>
      b.globals.mmioBase = b.own pdev ∧ b.globals.irqLine.toUInt32 = pdev.irq

/-- A remove gives back what its own device has exactly when the globals are its own. -/
theorem releasesOwn_iff {b : Binding PciDev Globals Ptr Resource} {q : Request PciDev Answers} :
    ReleasesOwn full gone b q ↔ OwnGlobals b q := by
  cases q with
  | probe pdev a => exact Iff.rfl
  | remove pdev =>
      constructor
      · intro same
        have held : ∀ r ∈ full pdev (b.own pdev), r ∈ gone pdev (b.own pdev) b.globals := by
          intro r mem
          exact Multiset.mem_coe.mp (same ▸ mem)
        have base := held (.mapping (b.own pdev)) (by simp [full])
        have line := held (.handler pdev.irq pdev) (by simp [full])
        simp only [gone, List.mem_cons, reduceCtorEq, List.not_mem_nil, or_false, false_or,
          Resource.mapping.injEq, Resource.handler.injEq, and_true] at base line
        exact ⟨base.symm, line.symm⟩
      · intro own
        obtain ⟨base, line⟩ := own
        simp only [ReleasesOwn, gone, base, line]
        rfl

/-- What is held is exactly what the bound devices should have, after every call of a run, when and only
when each remove finds its own mapping and interrupt number in the globals. -/
theorem always_exact_iff {b : Binding PciDev Globals Ptr Resource} {own : PciDev → Ptr}
    {past : List (Binding PciDev Globals Ptr Resource × Request PciDev Answers)}
    (run : Run driver.Step (.start g own) past b) :
    Always (Exact full) past b ↔ AllSteps OwnGlobals past := by
  rw [driver_careful.always_exact run]
  exact forall₂_congr fun x _ => releasesOwn_iff

end

/-! ## Probes that fail while devices are bound -/

/-- A remove frees the interrupt and unmaps the registers that the probe of its own device obtained. -/
def FreesOwn (b : Binding PciDev Globals Ptr Resource) : Request PciDev Answers → Prop
  | .probe _ _ => True
  | .remove pdev =>
      .release (.handler pdev.irq pdev) ∈ (driver.remove pdev (b.own pdev) b.globals).2 ∧
        .release (.mapping (b.own pdev)) ∈ (driver.remove pdev (b.own pdev) b.globals).2

/-- **Per-device resources.**  After every call what is held is exactly what the bound devices should
have, each remove gives back what the probe of its own device obtained, and a failed probe changes
nothing for the devices already bound. -/
structure PerDevice (past : List (Binding PciDev Globals Ptr Resource × Request PciDev Answers))
    (b : Binding PciDev Globals Ptr Resource) : Prop where
  exact : Always (Exact full) past b
  removes : AllSteps FreesOwn past
  failures : AllSteps driver.LeavesNoTrace past

/-- The probe does not get as far as the mapping. -/
def Answers.StopsEarly (a : Answers) : Prop :=
  a.pciEnableDevice ≠ 0 ∨ a.pciRequestRegion ≠ 0

instance (a : Answers) : Decidable a.StopsEarly := inferInstanceAs (Decidable (_ ∨ _))

/-- One of the calls of a probe fails. -/
def Answers.Fails (a : Answers) : Prop :=
  a.StopsEarly ∨ a.ioremap = 0 ∨ a.requestIrq ≠ 0

instance (a : Answers) : Decidable a.Fails := inferInstanceAs (Decidable (_ ∨ _))

/-- What a failing probe stores into the globals is there already: the answer of `ioremap`, and, if that
is not `NULL`, the interrupt number of the device. -/
def StoresNothingNew (pdev : PciDev) (a : Answers) (g : Globals) : Prop :=
  g.mmioBase = a.ioremap ∧ (a.ioremap ≠ 0 → g.irqLine = pdev.irq.toInt32)

/-- A request that is a failing probe finds no device bound or stores nothing new. -/
def Harmless (b : Binding PciDev Globals Ptr Resource) : Request PciDev Answers → Prop
  | .probe pdev a => a.Fails →
      b.bound = ∅ ∨ a.StopsEarly ∨ StoresNothingNew pdev a b.globals
  | .remove _ => True

/-- Each remove finds its own globals, and no failing probe stores anything new where a device is
bound. -/
def KeepsApart (b : Binding PciDev Globals Ptr Resource) (q : Request PciDev Answers) : Prop :=
  OwnGlobals b q ∧ Harmless b q

section

variable {pdev : PciDev} {a : Answers} {g : Globals} {b : Binding PciDev Globals Ptr Resource}
  {q : Request PciDev Answers}

theorem mmioBase_eq_iff {base : Ptr} : { g with mmioBase := base } = g ↔ g.mmioBase = base := by
  rw [Globals.mk.injEq]
  simp [eq_comm]

theorem stored_eq_iff {base : Ptr} {line : Int32} :
    (⟨base, line⟩ : Globals) = g ↔ g.mmioBase = base ∧ g.irqLine = line := by
  constructor
  · intro same
    subst same
    exact ⟨rfl, rfl⟩
  · intro both
    rw [← both.1, ← both.2]

/-- A remove that finds its own globals frees its own interrupt and mapping. -/
theorem OwnGlobals.freesOwn (own : OwnGlobals b q) : FreesOwn b q := by
  cases q with
  | probe pdev a => trivial
  | remove pdev =>
      obtain ⟨base, line⟩ := own
      have events : (driver.remove pdev (b.own pdev) b.globals).2 =
          (gone pdev (b.own pdev) b.globals).map .release := driver_careful.remove rfl
      simp only [FreesOwn]
      rw [events, gone, base, line]
      exact ⟨List.mem_cons_self, List.mem_cons_of_mem _ List.mem_cons_self⟩

/-- A probe that fails from the mapping on leaves no trace when it stores nothing new where a device is
bound. -/
theorem late_iff {g' : Globals} {es : List (Event Resource)} (late : ¬ a.StopsEarly) (fails : a.Fails)
    (balanced : NetZero es) (same : g' = b.globals ↔ StoresNothingNew pdev a b.globals) :
    (NetZero es ∧ (b.bound.Nonempty → g' = b.globals)) ↔ Harmless b (.probe pdev a) := by
  simp only [Harmless]
  rw [imp_iff_right fails, and_iff_right balanced, or_iff_right late, same, imp_iff_not_or,
    Finset.not_nonempty_iff_eq_empty]

/-- A failed probe leaves no trace exactly when it is harmless. -/
theorem leavesNoTrace_request_iff : driver.LeavesNoTrace b q ↔ Harmless b q := by
  cases q with
  | remove pdev => exact Iff.rfl
  | probe pdev a =>
      simp only [Driver.LeavesNoTrace, probe_eq]
      split_ifs with enabled region mapped line
      · have early : a.StopsEarly := .inl enabled
        exact iff_of_true (fun _ => ⟨rfl, fun _ => rfl⟩) fun _ => .inr (.inl early)
      · have early : a.StopsEarly := .inr region
        refine iff_of_true (fun _ => ⟨?_, fun _ => rfl⟩) fun _ => .inr (.inl early)
        simp [NetZero]
      · rw [imp_iff_right rfl]
        refine late_iff (not_or.mpr ⟨enabled, region⟩) (.inr (.inl mapped)) ?_ ?_
        · simp [NetZero]
        · simp [StoresNothingNew, mmioBase_eq_iff, mapped]
      · rw [imp_iff_right rfl]
        refine late_iff (not_or.mpr ⟨enabled, region⟩) (.inr (.inr line)) ?_ ?_
        · simp [NetZero]
        · simp [StoresNothingNew, stored_eq_iff, mapped]
      · refine iff_of_true (fun failed => nomatch failed) fun fails => ?_
        rcases fails with (bad | bad) | bad | bad
        · exact absurd bad enabled
        · exact absurd bad region
        · exact absurd bad mapped
        · exact absurd bad line

/-- **Per-device resources.**  In every run each device keeps to its own resources exactly when each
remove finds its own mapping and interrupt number in the globals, and each probe that fails while
another device is bound stops before the mapping or stores there what is there already. -/
theorem perDevice_iff {own : PciDev → Ptr}
    {past : List (Binding PciDev Globals Ptr Resource × Request PciDev Answers)}
    (run : Run driver.Step (.start g own) past b) :
    PerDevice past b ↔ AllSteps KeepsApart past := by
  have failures : AllSteps driver.LeavesNoTrace past ↔ AllSteps Harmless past :=
    forall₂_congr fun x _ => leavesNoTrace_request_iff
  rw [show AllSteps KeepsApart past ↔ _ from allSteps_and]
  constructor
  · intro kept
    exact ⟨(always_exact_iff run).mp kept.exact, failures.mp kept.failures⟩
  · intro both
    obtain ⟨own, harmless⟩ := both
    have removes : AllSteps FreesOwn past := fun x mem => (own x mem).freesOwn
    exact ⟨(always_exact_iff run).mpr own, removes, failures.mpr harmless⟩

end

/-! ## Two devices -/

/-- Device `n`, with interrupt line `n`. -/
def demoDev (n : Nat) : PciDev := ⟨n, UInt32.ofNat n, 4096, 4096⟩

/-- A kernel that grants everything, with the registers mapped at `base`. -/
def grantAll (base : Ptr) : Answers := ⟨0, 0, base, 0⟩

/-- A probe whose handler is refused before any device is bound, and, beside a device that is bound, one
whose region is taken, leave the device to be removed as if it were alone. -/
theorem perDevice_refused : ∃ past b, Run driver.Step (.start {} fun _ => 0) past b ∧
    past.length = 4 ∧ b.bound = ∅ ∧ PerDevice past b := by
  have denied := Run.nil.snoc (Driver.Step.refuse (D := driver) (b := .start {} fun _ => 0)
    (d := demoDev 2) (a := ⟨0, 0, 2, -16⟩) (Finset.notMem_empty _) rfl)
  have bound := denied.snoc (.bind (d := demoDev 1) (a := grantAll 1) (Finset.notMem_empty _) rfl)
  have taken := bound.snoc (.refuse (d := demoDev 2) (a := ⟨0, -16, 2, 0⟩) (by decide) rfl)
  have removed := taken.snoc (.remove (d := demoDev 1) (Finset.mem_insert_self _ _) rfl)
  refine ⟨_, _, removed, rfl, by decide, (perDevice_iff removed).mpr ?_⟩
  simp only [allSteps_snoc]
  have early : Answers.StopsEarly ⟨0, -16, 2, 0⟩ := .inr (by decide)
  exact ⟨⟨⟨⟨allSteps_nil, trivial, fun _ => .inl rfl⟩, trivial, fun _ => .inl rfl⟩,
    trivial, fun _ => .inr (.inl early)⟩, ⟨rfl, rfl⟩, trivial⟩

/-- With two devices, removing the one that was bound first unmaps the registers of the other. -/
theorem not_perDevice : ¬ ∀ (own : PciDev → Ptr)
    (past : List (Binding PciDev Globals Ptr Resource × Request PciDev Answers))
    (b : Binding PciDev Globals Ptr Resource),
    Run driver.Step (.start {} own) past b → PerDevice past b := by
  intro claim
  have first := Run.nil.snoc (Driver.Step.bind (D := driver) (b := .start {} fun _ => 0)
    (d := demoDev 1) (a := grantAll 1) (Finset.notMem_empty _) rfl)
  have second := first.snoc (.bind (d := demoDev 2) (a := grantAll 2) (by decide) rfl)
  have third := second.snoc (.remove (d := demoDev 1) (by decide) rfl)
  have steps := (always_exact_iff third).mp (claim _ _ _ third).exact
  have own := (allSteps_snoc.mp steps).2
  exact absurd own.1 (by decide)

/-- A probe that fails beside a bound device has changed what the remove of that device will use. -/
example : ¬ driver.LeavesNoTrace ⟨⟨1, 1⟩, [], {demoDev 1}, fun _ => 1⟩
    (.probe (demoDev 2) ⟨0, 0, 2, -16⟩) := by
  intro spared
  have same := (spared rfl).2 ⟨demoDev 1, Finset.mem_singleton_self _⟩
  exact absurd same (by decide)

/-! ## The module -/

/-- `pci_irq_init`. -/
def pciIrqInit : Prog BusCall BusCall.Resp Int := perform BusCall.register

/-- `pci_irq_exit`. -/
def pciIrqExit : Prog BusCall BusCall.Resp Unit := perform BusCall.unregister

/-- The module, with its globals zero as it is loaded. -/
def pciIrqModule : Module Globals where
  init := pciIrqInit
  exit := pciIrqExit
  fresh _ := {}

theorem pciIrqModule_plain : pciIrqModule.Plain := ⟨rfl, rfl⟩

/-- The module and the bus. -/
abbrev Life := Hosted PciDev Globals Ptr Resource

section

variable {pdev : PciDev} {a : Answers} {g g' : Globals} {own : PciDev → Ptr}

/-- A probe that succeeds leaves the globals to its device. -/
theorem probe_globals {k : Ptr} {es : List (Event Resource)}
    (ran : driver.probe pdev a g = (some k, g', es)) :
    g'.mmioBase = k ∧ g'.irqLine.toUInt32 = pdev.irq := by
  rw [probe_eq] at ran
  split_ifs at ran
  all_goals cases ran
  exact ⟨rfl, UInt32.toUInt32_toInt32 pdev.irq⟩

/-- **The life of the module.**  Over every order of loads, probes, removes and unloads, what is held is
exactly what the bound devices should have, when and only when each remove finds its own mapping and
interrupt number in the globals.  So it is where no device is probed while another one is bound, and an
unloaded module then holds nothing. -/
theorem loaded_exact_iff {past : List (Life × HostRequest PciDev Answers)} {h : Life}
    (run : Run (driver.HostStep pciIrqModule) (.start g own) past h) :
    (Always (fun h => Exact full h.binding) past h ↔ AllSteps (OnBus OwnGlobals) past) ∧
      (AllSteps (OnBus ProbedAlone) past →
        Always (fun h => Exact full h.binding ∧ (h.phase = .absent → NetZero h.binding.log)) past h) := by
  have exact_iff : Always (fun h => Exact full h.binding) past h ↔ AllSteps (OnBus OwnGlobals) past := by
    rw [driver_careful.hosted_exact pciIrqModule_plain run]
    exact forall₂_congr fun x _ => onBus_congr fun b q => releasesOwn_iff
  refine ⟨exact_iff, fun alone => ?_⟩
  have steps : AllSteps (OnBus OwnGlobals) past := by
    have found := Driver.finds_own
      (fun pdev base g => g.mmioBase = base ∧ g.irqLine.toUInt32 = pdev.irq)
      pciIrqModule_plain probe_globals run alone
    refine fun x mem => (onBus_congr ?_).mp (found x mem)
    intro b q
    cases q with
    | probe pdev a => exact Iff.rfl
    | remove pdev => exact Iff.rfl
  have attached := attached_start.always pciIrqModule_plain run
  exact ((exact_iff.mpr steps).and attached).mono fun h both => ⟨both.1, both.2.netZero both.1⟩

end

/-- Two devices, one after the other, and the module is unloaded while the second one is bound. -/
theorem loaded_exact_two : ∃ past h,
    Run (driver.HostStep pciIrqModule) (.start {} fun _ => 0) past h ∧
      past.map Prod.snd = [.load, .bus (.probe (demoDev 1) (grantAll 16)), .bus (.remove (demoDev 1)),
        .bus (.probe (demoDev 2) (grantAll 32)), .unload, .bus (.remove (demoDev 2)), .unloaded] ∧
      Always (fun h => Exact full h.binding ∧ (h.phase = .absent → NetZero h.binding.log)) past h := by
  have load : driver.HostStep pciIrqModule (.start {} fun _ => 0) .load _ :=
    .load rfl ⟨(0 : Int), _, rfl, rfl, rfl⟩
  have loaded := Run.nil.snoc load
  have first := loaded.snoc (.bus rfl (fun leaving => nomatch leaving)
    (.bind (d := demoDev 1) (a := grantAll 16) (Finset.notMem_empty _) rfl))
  have removed := first.snoc (.bus rfl (fun leaving => nomatch leaving)
    (.remove (d := demoDev 1) (Finset.mem_insert_self _ _) rfl))
  have second := removed.snoc (.bus rfl (fun leaving => nomatch leaving)
    (.bind (d := demoDev 2) (a := grantAll 32) (by decide) rfl))
  have leaving := second.snoc (.unload rfl)
  have last := leaving.snoc (.bus rfl (fun _ => ⟨_, rfl⟩) (.remove (d := demoDev 2) (by decide) rfl))
  have unloaded := last.snoc (.unloaded rfl ⟨(), _, ⟨by decide, rfl⟩, rfl, rfl⟩)
  refine ⟨_, _, unloaded, rfl, (loaded_exact_iff unloaded).2 ?_⟩
  simp only [allSteps_snoc]
  have alone := Finset.erase_insert (Finset.notMem_empty (demoDev 1))
  exact ⟨⟨⟨⟨⟨⟨⟨allSteps_nil, trivial⟩, rfl⟩, trivial⟩, alone⟩, trivial⟩, trivial⟩, trivial⟩

end ScullDrivers.Pcie
