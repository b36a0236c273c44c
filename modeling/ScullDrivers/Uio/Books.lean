import ScullDrivers.Resources.Module
import ScullDrivers.Uio.Probe

/-!
# The UIO driver over its life

`dummy_remove` takes the registration, the interrupt number and the mapping it gives back from globals that
all devices share, and a probe that fails after MSI-X was enabled leaves the vectors held.  What is held is
what the bound devices should have, over every order of loads, probes, removes and unloads, exactly when
neither shows: no such probe fails, and each remove finds its own device's in the globals, as it does
where no device is probed while another one is bound (`books_exact_iff`).
-/

namespace ScullDrivers.Uio

open Interaction Resources

/-! ## What is held for a device -/

/-- What a probe obtained for a device: whether it has MSI-X vectors, its mapping and its interrupt
number. -/
structure Kept where
  msixEnabled : Bool
  mmioBase : Ptr
  irq : UInt32
  deriving DecidableEq

/-- The driver on the bus, with all that is noted for a bound device. -/
def keeping : Driver PciDev Globals Kept Answers Resource where
  probe pdev a g :=
    let (bound, g, es) := driver.probe pdev a g
    (bound.map fun msixEnabled => ⟨msixEnabled, a.pciIoremapBar, a.irq pdev⟩, g, es)
  remove pdev kept g := driver.remove pdev kept.msixEnabled g

/-- What a bound device holds. -/
def full (pdev : PciDev) (kept : Kept) : Multiset Resource :=
  {.uio pdev, .handler kept.irq, .mapping kept.mmioBase, .regions pdev, .device pdev} +
    if kept.msixEnabled then {.msix pdev} else 0

/-- What a remove gives back. -/
def gone (pdev : PciDev) (kept : Kept) (g : Globals) : List Resource :=
  (g.dummyUioInfo.uioDev.map .uio).toList ++
    ([.handler g.dummyIrq.toUInt32, .mapping g.mmioBase, .regions pdev, .device pdev] ++
      if kept.msixEnabled then [Resource.msix pdev] else [])

/-- What a failing probe leaves held: the vectors, if it got as far as enabling MSI-X. -/
def left (pdev : PciDev) (a : Answers) (_ : Globals) : Multiset Resource :=
  if a.StopsEarly ∨ a.pciIoremapBar = 0 ∨ a.pciEnableMsixExact ≠ 0 then 0 else {.msix pdev}

/-- The globals are what the probe of the device left there. -/
def OwnGlobals (pdev : PciDev) (kept : Kept) (g : Globals) : Prop :=
  g.dummyUioInfo.uioDev = some pdev ∧ g.dummyIrq.toUInt32 = kept.irq ∧ g.mmioBase = kept.mmioBase

/-- A failing probe did not enable MSI-X. -/
def NoVectorsLost (_ : Binding PciDev Globals Kept Resource) : Request PciDev Answers → Prop
  | .probe _ a => a.Fails → a.StopsEarly ∨ a.pciIoremapBar = 0 ∨ a.pciEnableMsixExact ≠ 0
  | .remove _ => True

/-- Moreover a remove finds its own device's things in the globals. -/
def KeepsBooks (b : Binding PciDev Globals Kept Resource) (q : Request PciDev Answers) : Prop :=
  NoVectorsLost b q ∧ FindsOwn OwnGlobals b q

section

variable {pdev : PciDev} {a : Answers} {g g' : Globals} {kept : Kept}
  {b : Binding PciDev Globals Kept Resource}

/-! ## One probe, one remove -/

theorem remove_eq : keeping.remove pdev kept g = (g, (gone pdev kept g).map .release) := by
  obtain ⟨msixEnabled, mmioBase, irq⟩ := kept
  cases registered : g.dummyUioInfo.uioDev with
  | none =>
      cases msixEnabled with
      | false => simp [keeping, driver, dummyRemove, effect, gone, registered]
      | true => simp [keeping, driver, dummyRemove, effect, gone, registered]
  | some other =>
      cases msixEnabled with
      | false => simp [keeping, driver, dummyRemove, effect, gone, registered]
      | true => simp [keeping, driver, dummyRemove, effect, gone, registered]

/-- What is held when a probe can fail for the last time. -/
theorem replay_begun : replay (begun pdev a) 0 = some (.mapping a.pciIoremapBar ::ₘ .regions pdev ::ₘ
    .device pdev ::ₘ if a.pciEnableMsixExact = 0 then {.msix pdev} else 0) := by
  rcases eq_or_ne a.pciEnableMsixExact 0 with msix | legacy
  · have last : (Resource.device pdev ::ₘ {.msix pdev} : Multiset Resource) =
        .msix pdev ::ₘ {.device pdev} := Multiset.cons_swap ..
    rw [if_pos msix, last, Multiset.cons_swap (Resource.regions pdev),
      Multiset.cons_swap (Resource.mapping _)]
    simp [begun, msix]
  · simp [begun, legacy]

theorem replay_undone {held : Multiset Resource} : replay (undone pdev a)
    (.mapping a.pciIoremapBar ::ₘ .regions pdev ::ₘ .device pdev ::ₘ held) = some held := by
  simp [undone]

/-- What a probe that fails late leaves. -/
theorem left_of_late (early : ¬ a.StopsEarly) (mapped : a.pciIoremapBar ≠ 0) :
    left pdev a g = if a.pciEnableMsixExact = 0 then {.msix pdev} else 0 := by
  unfold left
  by_cases msix : a.pciEnableMsixExact = 0
  · rw [if_pos msix, if_neg]
    exact not_or.mpr ⟨early, not_or.mpr ⟨mapped, not_not.mpr msix⟩⟩
  · rw [if_neg msix, if_pos (.inr (.inr msix))]

/-- What the events of a probe leave held. -/
theorem replay_probe (pdev : PciDev) (a : Answers) (g : Globals) : replay (driver.probe pdev a g).2.2 0 = some
    ((driver.probe pdev a g).1.elim (left pdev a g) fun msixEnabled =>
      full pdev ⟨msixEnabled, a.pciIoremapBar, a.irq pdev⟩) := by
  rw [probe_eq]
  split_ifs with enabled regions mapped line registered
  · simp [left, Answers.StopsEarly, enabled]
  · simp [left, Answers.StopsEarly, regions]
  · simp [left, mapped]
  · have late : ¬ a.StopsEarly := not_or.mpr ⟨enabled, regions⟩
    rw [Option.elim_none, left_of_late late mapped]
    exact replay_append_of replay_begun replay_undone
  · have late : ¬ a.StopsEarly := not_or.mpr ⟨enabled, regions⟩
    rw [Option.elim_none, left_of_late late mapped, List.append_assoc]
    refine replay_append_of replay_begun ?_
    rw [List.cons_append, List.cons_append, List.nil_append, replay_acquire, replay_release_cons]
    exact replay_undone
  · refine replay_append_of replay_begun ?_
    rw [replay_acquire, replay_acquire, replay_nil]
    simp [full]

theorem mem_gone {r : Resource} : r ∈ gone pdev kept g ↔
    g.dummyUioInfo.uioDev.map .uio = some r ∨ r = .handler g.dummyIrq.toUInt32 ∨
      r = .mapping g.mmioBase ∨ r = .regions pdev ∨ r = .device pdev ∨
        kept.msixEnabled = true ∧ r = .msix pdev := by
  unfold gone
  rw [List.mem_append, List.mem_append, Option.mem_toList]
  cases kept.msixEnabled with
  | false => simp
  | true => simp [or_assoc]

/-- A remove gives back what its device has exactly when the globals are its own. -/
theorem gone_eq_full_iff : ↑(gone pdev kept g) = full pdev kept ↔ OwnGlobals pdev kept g := by
  constructor
  · intro same
    have held : ∀ r ∈ full pdev kept, r ∈ gone pdev kept g := fun r mem => Multiset.mem_coe.mp (same ▸ mem)
    have uio := mem_gone.mp (held (.uio pdev) (by simp [full]))
    have line := mem_gone.mp (held (.handler kept.irq) (by simp [full]))
    have base := mem_gone.mp (held (.mapping kept.mmioBase) (by simp [full]))
    simp only [Option.map_eq_some_iff, reduceCtorEq, Resource.uio.injEq, Resource.handler.injEq,
      Resource.mapping.injEq, and_false, exists_false, exists_eq_right, false_or, or_false] at uio line base
    exact ⟨uio, line.symm, base.symm⟩
  · intro own
    obtain ⟨uio, line, base⟩ := own
    unfold gone full
    rw [uio, line, base]
    cases kept.msixEnabled with
    | false => rfl
    | true => rfl

theorem keeping_leaving : keeping.Leaving full gone left where
  refuse := by
    intro pdev a g g' es ran
    have failed : (driver.probe pdev a g).1 = none := Option.map_eq_none_iff.mp (congrArg Prod.fst ran)
    have events : (driver.probe pdev a g).2.2 = es := congrArg (fun r => r.2.2) ran
    have held := replay_probe pdev a g
    rw [failed, events] at held
    exact held
  bind := by
    intro pdev a g kept g' es ran
    have noted : (driver.probe pdev a g).1.map _ = some kept := congrArg Prod.fst ran
    obtain ⟨msixEnabled, bound, rfl⟩ := Option.map_eq_some_iff.mp noted
    have events : (driver.probe pdev a g).2.2 = es := congrArg (fun r => r.2.2) ran
    have held := replay_probe pdev a g
    rw [bound, events] at held
    exact held
  remove := by
    intro pdev kept g g' es ran
    rw [remove_eq] at ran
    cases ran
    rfl

/-- A probe fails exactly when one of the calls it cannot do without does. -/
theorem probe_eq_none_iff : (driver.probe pdev a g).1 = none ↔ a.Fails := by
  rw [probe_eq]
  split_ifs with enabled regions mapped line registered
  · exact iff_of_true rfl (.inl (.inl enabled))
  · exact iff_of_true rfl (.inl (.inr regions))
  · exact iff_of_true rfl (.inr (.inl mapped))
  · exact iff_of_true rfl (.inr (.inr (.inl line)))
  · exact iff_of_true rfl (.inr (.inr (.inr registered)))
  · refine iff_of_false (fun none => nomatch none) ?_
    exact not_or.mpr ⟨not_or.mpr ⟨enabled, regions⟩, not_or.mpr ⟨mapped, not_or.mpr ⟨line, registered⟩⟩⟩

/-- A probe that succeeds leaves the globals to its device. -/
theorem probe_globals {es : List (Event Resource)} (ran : keeping.probe pdev a g = (some kept, g', es)) :
    OwnGlobals pdev kept g' := by
  have noted : (driver.probe pdev a g).1.map _ = some kept := congrArg Prod.fst ran
  have globals : (driver.probe pdev a g).2.1 = g' := congrArg (fun r => r.2.1) ran
  obtain ⟨msixEnabled, bound, rfl⟩ := Option.map_eq_some_iff.mp noted
  rw [probe_eq] at bound globals
  split_ifs at bound globals
  all_goals cases bound
  subst globals
  exact ⟨rfl, UInt32.toUInt32_toInt32 _, rfl⟩

/-- A request settles what it obtained exactly when it keeps the books. -/
theorem settles_iff {q : Request PciDev Answers} :
    Settles keeping full gone left b q ↔ KeepsBooks b q := by
  cases q with
  | probe pdev a =>
      have nothing : left pdev a b.globals = 0 ↔
          a.StopsEarly ∨ a.pciIoremapBar = 0 ∨ a.pciEnableMsixExact ≠ 0 := by
        unfold left
        split_ifs with none
        · exact iff_of_true rfl none
        · exact iff_of_false (Multiset.singleton_ne_zero _) none
      refine Iff.trans ?_ (and_iff_left trivial).symm
      exact imp_congr (Option.map_eq_none_iff.trans probe_eq_none_iff) nothing
  | remove pdev => exact gone_eq_full_iff.trans (and_iff_right trivial).symm

end

/-! ## The module -/

/-- The module that `module_pci_driver` makes, with its globals zero as it is loaded. -/
def dummyModule : Module Globals where
  init := perform BusCall.register
  exit := perform BusCall.unregister
  fresh _ := {}

theorem dummyModule_plain : dummyModule.Plain := ⟨rfl, rfl⟩

/-- The module and the bus. -/
abbrev Life := Hosted PciDev Globals Kept Resource

/-- **The life of the module.**  Over every order of loads, probes, removes and unloads, what is held is
exactly what the bound devices should have, when and only when no probe fails that enabled MSI-X, and each
remove finds its own device registered with UIO, its interrupt number and its mapping in the globals.  The
second is so where no device is probed while another one is bound; if no vectors are lost either, the books
are right, and an unloaded module holds nothing. -/
theorem books_exact_iff {g : Globals} {own : PciDev → Kept}
    {past : List (Life × HostRequest PciDev Answers)} {h : Life}
    (run : Run (keeping.HostStep dummyModule) (.start g own) past h) :
    (Always (fun h => Exact full h.binding) past h ↔ AllSteps (OnBus KeepsBooks) past) ∧
      (AllSteps (OnBus ProbedAlone) past → AllSteps (OnBus (FindsOwn OwnGlobals)) past) ∧
      (AllSteps (OnBus NoVectorsLost) past → AllSteps (OnBus ProbedAlone) past →
        Always (fun h => Exact full h.binding ∧ (h.phase = .absent → NetZero h.binding.log)) past h) := by
  have exact_iff : Always (fun h => Exact full h.binding) past h ↔ AllSteps (OnBus KeepsBooks) past := by
    rw [keeping_leaving.hosted_exact dummyModule_plain run]
    exact forall₂_congr fun x _ => onBus_congr fun b q => settles_iff
  have found : AllSteps (OnBus ProbedAlone) past → AllSteps (OnBus (FindsOwn OwnGlobals)) past :=
    Driver.finds_own OwnGlobals dummyModule_plain probe_globals run
  refine ⟨exact_iff, found, fun vectors alone => ?_⟩
  have steps : AllSteps (OnBus KeepsBooks) past := fun x mem =>
    onBus_and.mpr ⟨vectors x mem, found alone x mem⟩
  have attached := attached_start.always dummyModule_plain run
  exact ((exact_iff.mpr steps).and attached).mono fun h both => ⟨both.1, both.2.netZero both.1⟩

/-- A device with MSI-X vectors, one whose handler is refused without them, and one that is still bound
when the module is unloaded. -/
theorem books_exact_three : ∃ past h,
    Run (keeping.HostStep dummyModule) (.start {} fun _ => ⟨false, 0, 0⟩) past h ∧
      past.length = 8 ∧ h.phase = .absent ∧ AllSteps (OnBus (FindsOwn OwnGlobals)) past ∧
      Always (fun h => Exact full h.binding ∧ (h.phase = .absent → NetZero h.binding.log)) past h := by
  have load : keeping.HostStep dummyModule (.start {} fun _ => ⟨false, 0, 0⟩) .load _ :=
    .load rfl ⟨(0 : Int), _, rfl, rfl, rfl⟩
  have loaded := Run.nil.snoc load
  have first := loaded.snoc (.bus rfl (fun leaving => nomatch leaving)
    (.bind (d := demoDev 1) (a := { pciIoremapBar := 16, msixVector := 40 }) (Finset.notMem_empty _) rfl))
  have removed := first.snoc (.bus rfl (fun leaving => nomatch leaving)
    (.remove (d := demoDev 1) (Finset.mem_insert_self _ _) rfl))
  have refused := removed.snoc (.bus rfl (fun leaving => nomatch leaving)
    (.refuse (d := demoDev 2)
      (a := { pciIoremapBar := 32, pciEnableMsixExact := -22, requestIrq := -ebusy }) (by decide) rfl))
  have second := refused.snoc (.bus rfl (fun leaving => nomatch leaving)
    (.bind (d := demoDev 3) (a := { pciIoremapBar := 48, pciEnableMsixExact := -22 }) (by decide) rfl))
  have leaving := second.snoc (.unload rfl)
  have last := leaving.snoc (.bus rfl (fun _ => ⟨_, rfl⟩) (.remove (d := demoDev 3) (by decide) rfl))
  have unloaded := last.snoc (.unloaded rfl ⟨(), _, ⟨by decide, rfl⟩, rfl, rfl⟩)
  have none := Finset.erase_insert (Finset.notMem_empty (demoDev 1))
  obtain ⟨-, found, books⟩ := books_exact_iff unloaded
  refine ⟨_, _, unloaded, rfl, rfl, found ?alone, books ?vectors ?alone⟩
  case vectors =>
    simp only [allSteps_snoc]
    refine ⟨⟨⟨⟨⟨⟨⟨⟨allSteps_nil, trivial⟩, ?_⟩, trivial⟩, ?_⟩, ?_⟩, trivial⟩, trivial⟩, trivial⟩
    · exact fun fails => absurd fails (by decide)
    · exact fun _ => .inr (.inr (by decide))
    · exact fun fails => absurd fails (by decide)
  case alone =>
    simp only [allSteps_snoc]
    exact ⟨⟨⟨⟨⟨⟨⟨⟨allSteps_nil, trivial⟩, rfl⟩, trivial⟩, none⟩, none⟩, trivial⟩, trivial⟩, trivial⟩

end ScullDrivers.Uio
