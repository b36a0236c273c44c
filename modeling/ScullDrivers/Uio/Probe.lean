import ScullDrivers.Uio.Driver

/-!
# Failed probes of the UIO driver

The unwinding of `dummy_probe` gives back everything except the MSI-X vectors, which only
`dummy_remove` disables, and the probe stores into the globals of the module before it knows whether it
will succeed.  A failed probe leaves no trace exactly when it did not enable MSI-X, and no device is
bound or it stored nothing new (`leavesNoTrace_iff`).
-/

namespace ScullDrivers.Uio

open Interaction Resources

/-! ## The driver on the bus -/

/-- What a device holds: it is enabled, its regions are its own, its registers are mapped at an address,
it has MSI-X vectors, its handler is on an interrupt line, and it is registered with UIO. -/
inductive Resource
  | device (pdev : PciDev)
  | regions (pdev : PciDev)
  | mapping (base : Ptr)
  | msix (pdev : PciDev)
  | handler (irq : UInt32)
  | uio (pdev : PciDev)
  deriving DecidableEq

/-- What a call obtains or gives back.  Disabling MSI-X where it is not enabled does nothing, nor does
unregistering what is not registered. -/
def effect (msixEnabled : Bool) : (e : Call) → Resp e → List (Event Resource)
  | .pciEnableDevice pdev, ret => if ret = 0 then [.acquire (.device pdev)] else []
  | .pciRequestRegions pdev, ret => if ret = 0 then [.acquire (.regions pdev)] else []
  | .pciIoremapBar _, base => if base = 0 then [] else [.acquire (.mapping base)]
  | .pciEnableMsixExact pdev, ret => if ret = 0 then [.acquire (.msix pdev)] else []
  | .msixVector _, _ => []
  | .requestIrq irq _ _, ret => if ret = 0 then [.acquire (.handler irq)] else []
  | .uioRegisterDevice pdev _, ret => if ret = 0 then [.acquire (.uio pdev)] else []
  | .uioUnregisterDevice info, _ => (info.uioDev.map fun pdev => .release (.uio pdev)).toList
  | .freeIrq irq, _ => [.release (.handler irq)]
  | .iounmap base, _ => [.release (.mapping base)]
  | .pciReleaseRegions pdev, _ => [.release (.regions pdev)]
  | .pciDisableDevice pdev, _ => [.release (.device pdev)]
  | .pciDisableMsix pdev, _ => if msixEnabled then [.release (.msix pdev)] else []
  | .enableIrq _, _ => []
  | .disableIrq _, _ => []

/-- The driver on the bus.  What is noted for a bound device is whether it has MSI-X vectors. -/
def driver : Driver PciDev Globals Bool Answers Resource where
  probe pdev a g :=
    let ((ret, g), es) := (dummyProbe pdev g).eval (logging a.answer (effect false)) []
    (if ret = 0 then some (decide (a.pciEnableMsixExact = 0)) else none, g, es)
  remove pdev msixEnabled g :=
    let answers : Answers := { pciIoremapBar := 0 }
    let (_, es) := (dummyRemove pdev g).eval (logging answers.answer (effect msixEnabled)) []
    (g, es)

/-! ## What a failed probe owes -/

/-- The probe does not get as far as the mapping. -/
def Answers.StopsEarly (a : Answers) : Prop :=
  a.pciEnableDevice ≠ 0 ∨ a.pciRequestRegions ≠ 0

instance (a : Answers) : Decidable a.StopsEarly := inferInstanceAs (Decidable (_ ∨ _))

/-- One of the calls that a probe cannot do without fails. -/
def Answers.Fails (a : Answers) : Prop :=
  a.StopsEarly ∨ a.pciIoremapBar = 0 ∨ a.requestIrq ≠ 0 ∨ a.uioRegisterDevice ≠ 0

instance (a : Answers) : Decidable a.Fails := inferInstanceAs (Decidable (_ ∨ _))

/-- What a failing probe without MSI-X stores into the globals is there already: the answer of
`pci_ioremap_bar`; if that is not `NULL`, the legacy interrupt number; and if `request_irq` succeeded, all
it fills in `dummy_uio_info`, whose `uio_dev` a failing `uio_register_device` leaves `NULL`. -/
def StoresNothingNew (pdev : PciDev) (a : Answers) (g : Globals) : Prop :=
  g.mmioBase = a.pciIoremapBar ∧ (a.pciIoremapBar ≠ 0 → g.dummyIrq = pdev.irq.toInt32 ∧
    (a.requestIrq = 0 → g.dummyUioInfo = { fillUioInfo pdev g with uioDev := none }))

/-- A request that is a failing probe does not enable MSI-X, and finds no device bound or stores
nothing new. -/
def Harmless (b : Binding PciDev Globals Bool Resource) : Request PciDev Answers → Prop
  | .probe pdev a => a.Fails →
      (a.StopsEarly ∨ a.pciIoremapBar = 0 ∨ a.pciEnableMsixExact ≠ 0) ∧
        (b.bound = ∅ ∨ a.StopsEarly ∨ StoresNothingNew pdev a b.globals)
  | .remove _ => True

section

variable {pdev : PciDev} {a : Answers} {g : Globals}

/-- The events of a probe from the mapping on, up to where it can still fail. -/
def begun (pdev : PciDev) (a : Answers) : List (Event Resource) :=
  [.acquire (.device pdev), .acquire (.regions pdev), .acquire (.mapping a.pciIoremapBar)] ++
    if a.pciEnableMsixExact = 0 then [.acquire (.msix pdev)] else []

/-- The events of the unwinding from `err_iounmap:` on. -/
def undone (pdev : PciDev) (a : Answers) : List (Event Resource) :=
  [.release (.mapping a.pciIoremapBar), .release (.regions pdev), .release (.device pdev)]

attribute [local simp] Answers.answer effect

/-- The globals with the mapping and the interrupt number stored. -/
def stored (pdev : PciDev) (a : Answers) (g : Globals) : Globals :=
  { g with mmioBase := a.pciIoremapBar, dummyIrq := (a.irq pdev).toInt32 }

theorem eval_dummyProbeIrq {log : List (Event Resource)} :
    (dummyProbeIrq pdev g).eval (logging a.answer (effect false)) log =
      if a.requestIrq ≠ 0 then
        ((a.requestIrq, g), log ++ [.release (.mapping g.mmioBase), .release (.regions pdev),
          .release (.device pdev)])
      else if a.uioRegisterDevice ≠ 0 then
        ((a.uioRegisterDevice,
            { g with dummyUioInfo := { fillUioInfo pdev g with uioDev := none } }),
          log ++ [.acquire (.handler g.dummyIrq.toUInt32), .release (.handler g.dummyIrq.toUInt32),
            .release (.mapping g.mmioBase), .release (.regions pdev), .release (.device pdev)])
      else
        ((0, { g with dummyUioInfo := { fillUioInfo pdev g with uioDev := some pdev } }),
          log ++ [.acquire (.handler g.dummyIrq.toUInt32), .acquire (.uio pdev)]) := by
  rcases eq_or_ne a.requestIrq 0 with granted | denied
  · rcases eq_or_ne a.uioRegisterDevice 0 with registered | failed
    · simp [dummyProbeIrq, granted, registered]
    · simp [dummyProbeIrq, errFreeIrq, errIounmap, errReleaseRegions, errDisableDevice, granted,
        failed]
  · simp [dummyProbeIrq, errIounmap, errReleaseRegions, errDisableDevice, denied]

/-- Both ways to an interrupt number lead to `request_irq`. -/
theorem eval_dummyProbeMsix {log : List (Event Resource)} :
    (dummyProbeMsix pdev g).eval (logging a.answer (effect false)) log =
      (dummyProbeIrq pdev { g with dummyIrq := (a.irq pdev).toInt32 }).eval
        (logging a.answer (effect false))
        (log ++ if a.pciEnableMsixExact = 0 then [.acquire (.msix pdev)] else []) := by
  rcases eq_or_ne a.pciEnableMsixExact 0 with msix | legacy
  · simp [dummyProbeMsix, Answers.irq, msix]
  · simp [dummyProbeMsix, Answers.irq, legacy]

/-- The outcomes of `dummy_probe`, in the order in which it can fail. -/
theorem probe_eq : driver.probe pdev a g =
    if a.pciEnableDevice ≠ 0 then (none, g, [])
    else if a.pciRequestRegions ≠ 0 then
      (none, g, [.acquire (.device pdev), .release (.device pdev)])
    else if a.pciIoremapBar = 0 then
      (none, { g with mmioBase := 0 }, [.acquire (.device pdev), .acquire (.regions pdev),
        .release (.regions pdev), .release (.device pdev)])
    else if a.requestIrq ≠ 0 then (none, stored pdev a g, begun pdev a ++ undone pdev a)
    else if a.uioRegisterDevice ≠ 0 then
      (none, { stored pdev a g with
          dummyUioInfo := { fillUioInfo pdev (stored pdev a g) with uioDev := none } },
        begun pdev a ++ [.acquire (.handler (a.irq pdev)), .release (.handler (a.irq pdev))] ++
          undone pdev a)
    else
      (some (decide (a.pciEnableMsixExact = 0)), { stored pdev a g with
          dummyUioInfo := { fillUioInfo pdev (stored pdev a g) with uioDev := some pdev } },
        begun pdev a ++ [.acquire (.handler (a.irq pdev)), .acquire (.uio pdev)]) := by
  rcases eq_or_ne a.pciEnableDevice 0 with enabled | refused
  · rcases eq_or_ne a.pciRequestRegions 0 with regions | taken
    · rcases eq_or_ne a.pciIoremapBar 0 with unmapped | mapped
      · simp [driver, dummyProbe, errReleaseRegions, errDisableDevice, enabled, regions, unmapped,
          enomem]
      · have rest : (dummyProbe pdev g).eval (logging a.answer (effect false)) [] =
            (dummyProbeIrq pdev (stored pdev a g)).eval (logging a.answer (effect false))
              (begun pdev a) := by
          simp [dummyProbe, eval_dummyProbeMsix, enabled, regions, mapped, stored, begun]
        simp only [driver, rest, eval_dummyProbeIrq]
        rcases eq_or_ne a.requestIrq 0 with granted | denied
        · rcases eq_or_ne a.uioRegisterDevice 0 with registered | failed
          · simp [enabled, regions, mapped, granted, registered, stored]
          · simp [enabled, regions, mapped, granted, failed, stored, undone]
        · simp [enabled, regions, mapped, denied, stored, undone]
    · simp [driver, dummyProbe, errDisableDevice, enabled, taken]
  · simp [driver, dummyProbe, refused]

/-- Without MSI-X the unwinding gives back all of it, whatever balanced `mid` came before it. -/
theorem balanced_iff {mid : List (Event Resource)} (own : NetZero mid)
    (other : .release (.msix pdev) ∉ mid) :
    NetZero (begun pdev a ++ mid ++ undone pdev a) ↔ a.pciEnableMsixExact ≠ 0 := by
  constructor
  · intro balanced msix
    have kept : Event.acquire (.msix pdev) ∈ begun pdev a ++ mid ++ undone pdev a := by
      simp [begun, msix]
    have given := balanced.release_mem kept
    simp [begun, undone, msix, other] at given
  · intro msix
    have held : replay (begun pdev a) 0 =
        some {.mapping a.pciIoremapBar, .regions pdev, .device pdev} := by
      simp [begun, msix]
    have between := replay_frame {.mapping a.pciIoremapBar, .regions pdev, .device pdev} own
    rw [zero_add] at between
    unfold NetZero
    rw [replay_append, replay_append, held, Option.bind_some, between, Option.bind_some]
    simp [undone]

theorem mmioBase_eq_iff {base : Ptr} : { g with mmioBase := base } = g ↔ g.mmioBase = base := by
  rw [Globals.mk.injEq]
  simp [eq_comm]

/-- What a probe without MSI-X stored was there already. -/
theorem stored_eq_iff (legacy : a.pciEnableMsixExact ≠ 0) :
    stored pdev a g = g ↔ g.mmioBase = a.pciIoremapBar ∧ g.dummyIrq = pdev.irq.toInt32 := by
  rw [stored, Answers.irq, if_neg legacy, Globals.mk.injEq]
  simp [eq_comm]

theorem filled_eq_iff (legacy : a.pciEnableMsixExact ≠ 0) : { stored pdev a g with
      dummyUioInfo := { fillUioInfo pdev (stored pdev a g) with uioDev := none } } = g ↔
    g.mmioBase = a.pciIoremapBar ∧ g.dummyIrq = pdev.irq.toInt32 ∧
      g.dummyUioInfo = { fillUioInfo pdev g with uioDev := none } := by
  constructor
  · intro same
    have kept : stored pdev a g = g := by
      have base := congrArg Globals.mmioBase same
      have irq := congrArg Globals.dummyIrq same
      exact Globals.mk.injEq .. ▸ ⟨rfl, base, irq⟩
    obtain ⟨base, irq⟩ := (stored_eq_iff legacy).mp kept
    rw [kept] at same
    exact ⟨base, irq, (congrArg Globals.dummyUioInfo same).symm⟩
  · intro both
    obtain ⟨base, irq, info⟩ := both
    rw [(stored_eq_iff legacy).mpr ⟨base, irq⟩, ← info]

/-- A probe that fails from the mapping on is harmless when it gives everything back, for which it must
not have enabled MSI-X, and stored nothing new where a device is bound. -/
theorem late_iff {b : Binding PciDev Globals Bool Resource} {es : List (Event Resource)} {g' : Globals}
    (late : ¬ a.StopsEarly) (fails : a.Fails)
    (balanced : NetZero es ↔ a.pciIoremapBar = 0 ∨ a.pciEnableMsixExact ≠ 0)
    (same : a.pciIoremapBar = 0 ∨ a.pciEnableMsixExact ≠ 0 →
      (g' = b.globals ↔ StoresNothingNew pdev a b.globals)) :
    (NetZero es ∧ (b.bound.Nonempty → g' = b.globals)) ↔ Harmless b (.probe pdev a) := by
  simp only [Harmless]
  rw [imp_iff_right fails, balanced, or_iff_right late]
  refine and_congr_right fun legacy => ?_
  rw [same legacy, or_iff_right late, imp_iff_not_or, Finset.not_nonempty_iff_eq_empty]

/-- A request leaves no trace of a failed probe exactly when it is harmless. -/
theorem leavesNoTrace_request_iff {b : Binding PciDev Globals Bool Resource}
    {q : Request PciDev Answers} : driver.LeavesNoTrace b q ↔ Harmless b q := by
  cases q with
  | remove pdev => exact Iff.rfl
  | probe pdev a =>
      simp only [Driver.LeavesNoTrace, probe_eq]
      split_ifs with enabled regions mapped line registered
      · have early : a.StopsEarly := .inl enabled
        exact iff_of_true (fun _ => ⟨rfl, fun _ => rfl⟩) fun _ => ⟨.inl early, .inr (.inl early)⟩
      · have early : a.StopsEarly := .inr regions
        refine iff_of_true (fun _ => ⟨?_, fun _ => rfl⟩) fun _ => ⟨.inl early, .inr (.inl early)⟩
        simp [NetZero]
      · rw [imp_iff_right rfl]
        refine late_iff (not_or.mpr ⟨enabled, regions⟩) (.inr (.inl mapped)) ?_ fun _ => ?_
        · simp [NetZero, mapped]
        · simp [StoresNothingNew, mmioBase_eq_iff, mapped]
      · rw [imp_iff_right rfl]
        refine late_iff (not_or.mpr ⟨enabled, regions⟩) (.inr (.inr (.inl line))) ?_ fun legacy => ?_
        · have given : NetZero (begun pdev a ++ [] ++ undone pdev a) ↔ _ :=
            balanced_iff rfl List.not_mem_nil
          rw [List.append_nil] at given
          rw [given, or_iff_right mapped]
        · rw [stored_eq_iff (legacy.resolve_left mapped)]
          simp [StoresNothingNew, mapped, line]
      · rw [imp_iff_right rfl]
        refine late_iff (not_or.mpr ⟨enabled, regions⟩) (.inr (.inr (.inr registered))) ?_
          fun legacy => ?_
        · rw [or_iff_right mapped]
          refine balanced_iff ?_ ?_
          · simp [NetZero]
          · simp
        · rw [filled_eq_iff (legacy.resolve_left mapped)]
          simp [StoresNothingNew, mapped, not_not.mp line]
      · refine iff_of_true (fun failed => nomatch failed) fun fails => ?_
        rcases fails with (bad | bad) | bad | bad | bad
        · exact absurd bad enabled
        · exact absurd bad regions
        · exact absurd bad mapped
        · exact absurd bad line
        · exact absurd bad registered

/-- **Failed probes.**  In every run, all failed probes leave no trace exactly when all of them are
harmless. -/
theorem leavesNoTrace_iff {b : Binding PciDev Globals Bool Resource} {own : PciDev → Bool}
    {past : List (Binding PciDev Globals Bool Resource × Request PciDev Answers)}
    (_run : Run driver.Step (.start {} own) past b) :
    AllSteps driver.LeavesNoTrace past ↔ AllSteps Harmless past :=
  forall₂_congr fun _ _ => leavesNoTrace_request_iff

end

/-! ## Three probes that fail -/

/-- A probe whose registration with UIO fails before any device is bound, and, beside a device that is
bound, one whose regions are taken, give back all they obtained. -/
theorem leavesNoTrace_givenBack : ∃ past b, Run driver.Step (.start {} fun _ => false) past b ∧
    past.length = 3 ∧ b.bound = {demoDev 1} ∧ AllSteps driver.LeavesNoTrace past := by
  have failed := Run.nil.snoc (Driver.Step.refuse (D := driver) (b := .start {} fun _ => false)
    (d := demoDev 2)
    (a := { pciIoremapBar := 2, pciEnableMsixExact := -22, uioRegisterDevice := -ebusy })
    (Finset.notMem_empty _) rfl)
  have bound := failed.snoc (.bind (d := demoDev 1) (a := { pciIoremapBar := 1 })
    (Finset.notMem_empty _) rfl)
  have taken := bound.snoc (.refuse (d := demoDev 2)
    (a := { pciRequestRegions := -ebusy, pciIoremapBar := 2 }) (by decide) rfl)
  refine ⟨_, _, taken, rfl, rfl, (leavesNoTrace_iff taken).mpr ?_⟩
  simp only [allSteps_snoc]
  refine ⟨⟨⟨allSteps_nil, fun _ => ⟨.inr (.inr (by decide)), .inl rfl⟩⟩,
    fun fails => absurd fails (by decide)⟩, fun _ => ?_⟩
  have early : Answers.StopsEarly { pciRequestRegions := -ebusy, pciIoremapBar := 2 } :=
    .inr (by decide)
  exact ⟨.inl early, .inr (.inl early)⟩

/-- When the registration with UIO fails, the MSI-X vectors stay with the device. -/
theorem not_leavesNoTrace : ¬ ∀ (own : PciDev → Bool)
    (past : List (Binding PciDev Globals Bool Resource × Request PciDev Answers))
    (b : Binding PciDev Globals Bool Resource),
    Run driver.Step (.start {} own) past b → AllSteps driver.LeavesNoTrace past := by
  intro claim
  have failed := Run.nil.snoc (Driver.Step.refuse (D := driver) (b := .start {} fun _ => false)
    (d := demoDev 1) (a := { pciIoremapBar := 1, msixVector := 40, uioRegisterDevice := -ebusy })
    (Finset.notMem_empty _) rfl)
  obtain ⟨balanced, -⟩ := (allSteps_snoc.mp (claim _ _ _ failed)).2 rfl
  exact absurd balanced (by decide)

end ScullDrivers.Uio
