import ScullDrivers.DmaPci.Driver
import ScullDrivers.Resources.Binding

/-!
# The DMA PCI driver: probe and remove

What `my_device_probe` obtains and `my_device_remove` gives back, for any number of devices.  Probe
accepts every interrupt number that is not negative, remove frees the handler only of a positive one.
The books are exact and in order throughout a run exactly when no device is removed whose interrupt
number is `0` (`always_inBalance_iff`).
-/

namespace ScullDrivers.DmaPci

open Interaction Resources

/-! ## What a device holds -/

/-- What is held for a device: it is enabled, its region is its own, its registers are mapped, it has a
buffer, its handler is on an interrupt line, and its tasklet can be scheduled. -/
inductive Resource
  | device (pdev : PciDev)
  | region (pdev : PciDev)
  | mapping (pdev : PciDev) (base : Ptr)
  | buffer (pdev : PciDev) (size : UInt64) (virt : Ptr) (phys : UInt64)
  | handler (pdev : PciDev) (irq : Int32)
  | tasklet (pdev : PciDev)
  deriving DecidableEq

/-- The device it is held for. -/
def Resource.owner : Resource → PciDev
  | .device pdev | .region pdev | .mapping pdev _ | .buffer pdev _ _ _ | .handler pdev _
  | .tasklet pdev => pdev

/-- It is code that can run. -/
def Resource.isCode : Resource → Bool
  | .handler _ _ | .tasklet _ => true
  | _ => false

/-- It is memory that code reaches through the private data. -/
def Resource.isMemory : Resource → Bool
  | .mapping _ _ | .buffer _ _ _ _ => true
  | _ => false

/-- The handler and the tasklet of a device use its registers and its buffer. -/
def uses (s r : Resource) : Prop := s.owner = r.owner ∧ s.isCode ∧ r.isMemory

instance (s r : Resource) : Decidable (uses s r) :=
  inferInstanceAs (Decidable (_ ∧ _ ∧ _))

/-- What the calls of a probe return. -/
structure Answers where
  pciEnableDevice : Int32
  devmKzalloc : Bool
  pciRequestRegion : Int32
  ioremap : Ptr
  dmaAllocCoherent : Ptr × UInt64
  pciIrqVector : Int32
  requestIrq : Int32
  ioread32 : Reg → UInt32
  ioread64DmaAddr : UInt64

def Answers.answer (a : Answers) : (e : Call) → Resp e
  | .pciEnableDevice _ => a.pciEnableDevice
  | .devmKzalloc _ => a.devmKzalloc
  | .pciRequestRegion _ => a.pciRequestRegion
  | .ioremap _ _ => a.ioremap
  | .dmaAllocCoherent _ _ => a.dmaAllocCoherent
  | .pciIrqVector _ => a.pciIrqVector
  | .requestIrq _ _ => a.requestIrq
  | .ioread32 _ reg => a.ioread32 reg
  | .ioread64DmaAddr _ => a.ioread64DmaAddr
  | .memset _ _ _ | .taskletInit _ | .iowrite32 _ _ _ | .iowrite64DmaAddr _ _ | .taskletSchedule _
  | .returned _ | .freeIrq _ _ | .taskletKill _ | .dmaFreeCoherent _ _ _ _ | .iounmap _
  | .pciReleaseRegion _ | .pciDisableDevice _ => ()

/-- What a call made for a device obtains or gives back.  Nothing schedules the tasklet before the
handler is on its line, so it counts as obtained there. -/
def effect (pdev : PciDev) : (e : Call) → Resp e → List (Event Resource)
  | .pciEnableDevice d, err => if err = 0 then [.acquire (.device d)] else []
  | .pciRequestRegion d, err => if err = 0 then [.acquire (.region d)] else []
  | .ioremap _ _, base => if base = 0 then [] else [.acquire (.mapping pdev base)]
  | .dmaAllocCoherent d size, (virt, phys) =>
      if virt = 0 then [] else [.acquire (.buffer d size virt phys)]
  | .requestIrq irq d, err =>
      if err = 0 then [.acquire (.handler d irq), .acquire (.tasklet d)] else []
  | .freeIrq irq d, _ => [.release (.handler d irq)]
  | .taskletKill d, _ => [.release (.tasklet d)]
  | .dmaFreeCoherent d size virt phys, _ => [.release (.buffer d size virt phys)]
  | .iounmap base, _ => [.release (.mapping pdev base)]
  | .pciReleaseRegion d, _ => [.release (.region d)]
  | .pciDisableDevice d, _ => [.release (.device d)]
  | .devmKzalloc _, _ | .memset _ _ _, _ | .pciIrqVector _, _ | .taskletInit _, _ | .ioread32 _ _, _
  | .iowrite32 _ _ _, _ | .ioread64DmaAddr _, _ | .iowrite64DmaAddr _ _, _ | .taskletSchedule _, _
  | .returned _, _ => []

/-- Registers that read as `0`, for a remove: the one it reads it only writes back
(`remove_eq`). -/
def Answers.zero : Answers := ⟨0, true, 0, 0, (0, 0), 0, 0, fun _ => 0, 0⟩

/-- The driver on the bus.  What it keeps for a bound device is its private data. -/
def driver (pageSize : UInt64) : Driver PciDev Unit MyDevicePriv Answers Resource where
  probe pdev a _ :=
    let ((ret, priv), es) := (myDeviceProbe pageSize pdev).eval (logging a.answer (effect pdev)) []
    (if ret = 0 then some priv else none, (), es)
  remove pdev priv _ :=
    let (_, es) :=
      (myDeviceRemove pageSize pdev priv).eval (logging Answers.zero.answer (effect pdev)) []
    ((), es)

/-- What a bound device holds. -/
def full (pageSize : UInt64) (pdev : PciDev) (priv : MyDevicePriv) : Multiset Resource :=
  {.handler pdev priv.irq, .tasklet pdev,
    .buffer pdev (dmaBufferSize pageSize) priv.dmaBufferVirt priv.dmaBufferPhys,
    .mapping pdev priv.regsBase, .region pdev, .device pdev}

/-- What a remove gives back, in this order. -/
def gone (pageSize : UInt64) (pdev : PciDev) (priv : MyDevicePriv) (_ : Unit) : List Resource :=
  (if 0 < priv.irq then [.handler priv.pdev priv.irq] else []) ++ [.tasklet priv.pdev] ++
    (if priv.dmaBufferVirt ≠ 0 then
      [.buffer pdev (dmaBufferSize pageSize) priv.dmaBufferVirt priv.dmaBufferPhys] else []) ++
    (if priv.regsBase ≠ 0 then [.mapping pdev priv.regsBase] else []) ++
    [.region pdev, .device pdev]

section

variable {pageSize : UInt64} {pdev : PciDev} {priv : MyDevicePriv} {a : Answers} {g : Unit}

/-! ## What probe and remove do -/

attribute [local simp] Answers.answer effect

theorem invokeIsr_quiet : (invokeIsr priv).OnlyCalls fun e => effect pdev e (a.answer e) = [] := by
  unfold invokeIsr myDeviceIsr
  rw [perform_bind, call_bind, onlyCalls_call]
  refine ⟨rfl, fun status => ?_⟩
  split
  · exact ⟨rfl, fun _ => ⟨rfl, fun _ => ⟨rfl, fun _ => trivial⟩⟩⟩
  · exact ⟨rfl, fun _ => trivial⟩

/-- Once the handler is on its line, probe obtains and gives back nothing more. -/
theorem probeStart_quiet : (myDeviceProbeStart pageSize priv).OnlyCalls fun e =>
    effect pdev e (a.answer e) = [] := by
  have transfer : ∀ dmaLen direction, (simulateTransfer priv dmaLen direction).OnlyCalls fun e =>
      effect pdev e (a.answer e) = [] := by
    intro dmaLen direction
    cases direction with
    | toDevice => trivial
    | fromDevice => exact ⟨rfl, fun _ => trivial⟩
  have completion : ∀ dmaLen direction, (simulateCompletion pageSize priv direction dmaLen).OnlyCalls
      fun e => effect pdev e (a.answer e) = [] := by
    intro dmaLen direction
    unfold simulateCompletion
    split
    · exact (transfer dmaLen direction).bind fun _ => ⟨rfl, fun _ => invokeIsr_quiet⟩
    · exact ⟨rfl, fun _ => trivial⟩
  have simulate : (myDeviceSimulateDma pageSize priv).OnlyCalls fun e =>
      effect pdev e (a.answer e) = [] := by
    refine ⟨rfl, fun _ => ⟨rfl, fun _ => ⟨rfl, fun dmaLen => ?_⟩⟩⟩
    exact (completion dmaLen _).bind fun _ => ⟨rfl, fun _ => trivial⟩
  refine ⟨rfl, fun _ => ⟨rfl, fun _ => ⟨rfl, fun _ => ⟨rfl, fun _ => ⟨rfl, fun _ => ?_⟩⟩⟩⟩⟩
  exact simulate.bind fun _ => trivial

theorem probeStart_eq {log : List (Event Resource)} :
    (myDeviceProbeStart pageSize priv).eval (logging a.answer (effect pdev)) log =
      ((0, priv), log) := by
  have quiet : ((myDeviceProbeStart pageSize priv).eval (logging a.answer (effect pdev)) log).2 =
      log := probeStart_quiet.log_eq
  have value : ((myDeviceProbeStart pageSize priv).eval (logging a.answer (effect pdev)) log).1 =
      (0, priv) := by
    simp [myDeviceProbeStart]
  exact Prod.ext value quiet

/-- The error path from `free_dma_buffer:` on. -/
theorem freeDmaBuffer_eq {ret : Int32} {log : List (Event Resource)}
    (buffer : priv.dmaBufferVirt ≠ 0) (mapped : priv.regsBase ≠ 0) :
    (freeDmaBuffer pageSize ret priv).eval (logging a.answer (effect pdev)) log = ((ret, priv),
      log ++ [.release (.buffer priv.pdev (dmaBufferSize pageSize) priv.dmaBufferVirt
        priv.dmaBufferPhys), .release (.mapping pdev priv.regsBase), .release (.region priv.pdev),
        .release (.device priv.pdev)]) := by
  simp [freeDmaBuffer, iounmapRegs, releaseRegion, disablePci, buffer, mapped]

/-- Probe from `pci_irq_vector` on: a negative interrupt number fails it, and so does a line it does
not get. -/
theorem probeIrq_eq {log : List (Event Resource)} (buffer : priv.dmaBufferVirt ≠ 0)
    (mapped : priv.regsBase ≠ 0) :
    (myDeviceProbeIrq pageSize priv).eval (logging a.answer (effect pdev)) log =
      if a.pciIrqVector < 0 ∨ a.requestIrq ≠ 0 then
        ((if a.pciIrqVector < 0 then a.pciIrqVector else a.requestIrq,
          { priv with irq := a.pciIrqVector }), log ++
          [.release (.buffer priv.pdev (dmaBufferSize pageSize) priv.dmaBufferVirt
            priv.dmaBufferPhys), .release (.mapping pdev priv.regsBase),
            .release (.region priv.pdev), .release (.device priv.pdev)])
      else
        ((0, { priv with irq := a.pciIrqVector }), log ++
          [.acquire (.handler priv.pdev a.pciIrqVector), .acquire (.tasklet priv.pdev)]) := by
  by_cases negative : a.pciIrqVector < 0
  · simp [myDeviceProbeIrq, freeDmaBuffer_eq, negative, buffer, mapped]
  · rcases eq_or_ne a.requestIrq 0 with granted | refused
    · simp [myDeviceProbeIrq, probeStart_eq, negative, granted]
    · simp [myDeviceProbeIrq, freeDmaBuffer_eq, negative, refused, buffer, mapped]

/-- It does not fail with `0`. -/
theorem irqError_ne_zero {irq err : Int32} (failed : irq < 0 ∨ err ≠ 0) :
    (if irq < 0 then irq else err) ≠ 0 := by
  split
  · rename_i negative
    intro zero
    rw [zero] at negative
    exact absurd negative (by decide)
  · rename_i accepted
    exact failed.resolve_left accepted

/-- What probe keeps for the device when it does not fail. -/
def kept (pdev : PciDev) (a : Answers) : MyDevicePriv :=
  ⟨pdev, a.ioremap, a.ioremap, a.dmaAllocCoherent.1, a.dmaAllocCoherent.2, a.pciIrqVector⟩

/-- The outcomes of `my_device_probe`, in the order in which it can fail. -/
theorem probe_eq : (driver pageSize).probe pdev a g =
    if a.pciEnableDevice ≠ 0 then (none, g, [])
    else if a.devmKzalloc = false ∨ a.pciRequestRegion ≠ 0 then
      (none, g, [.acquire (.device pdev), .release (.device pdev)])
    else if a.ioremap = 0 then
      (none, g, [.acquire (.device pdev), .acquire (.region pdev), .release (.region pdev),
        .release (.device pdev)])
    else if a.dmaAllocCoherent.1 = 0 then
      (none, g, [.acquire (.device pdev), .acquire (.region pdev),
        .acquire (.mapping pdev a.ioremap), .release (.mapping pdev a.ioremap),
        .release (.region pdev), .release (.device pdev)])
    else
      let buffer := Resource.buffer pdev (dmaBufferSize pageSize) a.dmaAllocCoherent.1
        a.dmaAllocCoherent.2
      let obtained := [.acquire (.device pdev), .acquire (.region pdev),
        .acquire (.mapping pdev a.ioremap), .acquire buffer]
      if a.pciIrqVector < 0 ∨ a.requestIrq ≠ 0 then
        (none, g, obtained ++ [.release buffer, .release (.mapping pdev a.ioremap),
          .release (.region pdev), .release (.device pdev)])
      else
        (some (kept pdev a), g, obtained ++ [.acquire (.handler pdev a.pciIrqVector),
          .acquire (.tasklet pdev)]) := by
  rcases eq_or_ne a.pciEnableDevice 0 with enabled | refused
  · rcases Bool.eq_false_or_eq_true a.devmKzalloc with priv | noPriv
    · rcases eq_or_ne a.pciRequestRegion 0 with region | taken
      · rcases eq_or_ne a.ioremap 0 with unmapped | mapped
        · simp [driver, myDeviceProbe, myDeviceProbeRegion, releaseRegion, disablePci, enabled, priv,
            region, unmapped, eio]
        · rcases eq_or_ne a.dmaAllocCoherent.1 0 with noBuffer | buffer
          · simp [driver, myDeviceProbe, myDeviceProbeRegion, myDeviceProbeBuffer, iounmapRegs,
              releaseRegion, disablePci, enabled, priv, region, mapped, noBuffer, enomem]
          · have rest : (myDeviceProbe pageSize pdev).eval (logging a.answer (effect pdev)) [] =
                (myDeviceProbeIrq pageSize { kept pdev a with irq := 0 }).eval
                  (logging a.answer (effect pdev)) [.acquire (.device pdev), .acquire (.region pdev),
                    .acquire (.mapping pdev a.ioremap), .acquire (.buffer pdev
                      (dmaBufferSize pageSize) a.dmaAllocCoherent.1 a.dmaAllocCoherent.2)] := by
              simp [myDeviceProbe, myDeviceProbeRegion, myDeviceProbeBuffer, enabled, priv, region,
                mapped, buffer, kept]
            have bufferKept : ({ kept pdev a with irq := 0 } : MyDevicePriv).dmaBufferVirt ≠ 0 := buffer
            simp only [driver, rest, probeIrq_eq bufferKept mapped]
            by_cases failed : a.pciIrqVector < 0 ∨ a.requestIrq ≠ 0
            · simp [enabled, priv, region, mapped, buffer, if_pos failed, irqError_ne_zero failed, kept]
            · simp [enabled, priv, region, mapped, buffer, if_neg failed, kept]
      · simp [driver, myDeviceProbe, myDeviceProbeRegion, disablePci, enabled, priv, taken]
    · simp [driver, myDeviceProbe, disablePci, enabled, noPriv, enomem]
  · simp [driver, myDeviceProbe, refused]

/-- What the private data of a bound device is like. -/
structure Probed (pdev : PciDev) (priv : MyDevicePriv) : Prop where
  pdev : priv.pdev = pdev
  mapped : priv.regsBase ≠ 0
  buffer : priv.dmaBufferVirt ≠ 0
  irq : 0 ≤ priv.irq

/-- A probe fails and gives back all it obtained, or keeps all of it. -/
theorem probe_cases {k : Option MyDevicePriv} {g' : Unit} {es : List (Event Resource)}
    (ran : (driver pageSize).probe pdev a g = (k, g', es)) :
    k = none ∧ NetZero es ∨
      ∃ priv, k = some priv ∧ Probed pdev priv ∧ replay es 0 = some (full pageSize pdev priv) := by
  rw [probe_eq] at ran
  split_ifs at ran with enabled priv mapped buffer failed
  · cases ran
    exact .inl ⟨rfl, rfl⟩
  · cases ran
    exact .inl ⟨rfl, by simp [NetZero]⟩
  · cases ran
    exact .inl ⟨rfl, by simp [NetZero]⟩
  · cases ran
    exact .inl ⟨rfl, by simp [NetZero]⟩
  · cases ran
    exact .inl ⟨rfl, by simp [NetZero]⟩
  · cases ran
    obtain ⟨accepted, -⟩ := not_or.mp failed
    refine .inr ⟨_, rfl, ⟨rfl, mapped, buffer, Int32.not_lt.mp accepted⟩, ?_⟩
    exact congrArg some (Multiset.cons_swap _ _ _)

/-- Probe gives back things of its device only, and never while they are used. -/
theorem probe_orderly {k : Option MyDevicePriv} {g' : Unit} {es : List (Event Resource)}
    (ran : (driver pageSize).probe pdev a g = (k, g', es)) :
    Orderly uses es 0 ∧ ∀ r, .release r ∈ es → r.owner = pdev := by
  rw [probe_eq] at ran
  split_ifs at ran with enabled priv mapped buffer failed
  · cases ran
    simp
  · cases ran
    simp [orderly_release, uses, Resource.isCode, Resource.owner]
  · cases ran
    simp [orderly_release, uses, Resource.isCode, Resource.owner]
  · cases ran
    simp [orderly_release, uses, Resource.isCode, Resource.owner]
  · cases ran
    simp [orderly_release, uses, Resource.isCode, Resource.owner]
  · cases ran
    simp

theorem removeDisable_eq {log : List (Event Resource)} :
    (removeDisable priv).eval (logging a.answer (effect pdev)) log = ((), log) := by
  rcases eq_or_ne priv.regs 0 with none | mapped
  · simp [removeDisable, none]
  · simp [removeDisable, mapped]

/-- What a remove gives back, whatever the register it reads holds. -/
theorem remove_eq :
    ((myDeviceRemove pageSize pdev priv).eval (logging a.answer (effect pdev)) []).2 =
      (gone pageSize pdev priv g).map .release := by
  have line : ∀ log, (removeIrq priv).eval (logging a.answer (effect pdev)) log =
      ((), log ++ (if 0 < priv.irq then [Resource.handler priv.pdev priv.irq] else []).map
        .release) := by
    intro log
    unfold removeIrq
    split
    · simp
    · simp
  have buffer : ∀ log, (removeBuffer pageSize pdev priv).eval (logging a.answer (effect pdev)) log =
      ((), log ++ (if priv.dmaBufferVirt ≠ 0 then [Resource.buffer pdev (dmaBufferSize pageSize)
        priv.dmaBufferVirt priv.dmaBufferPhys] else []).map .release) := by
    intro log
    unfold removeBuffer
    split
    · simp
    · simp
  have mapping : ∀ log, (removeMapping priv).eval (logging a.answer (effect pdev)) log =
      ((), log ++ (if priv.regsBase ≠ 0 then [Resource.mapping pdev priv.regsBase] else []).map
        .release) := by
    intro log
    unfold removeMapping
    split
    · simp
    · simp
  simp [myDeviceRemove, removeDisable_eq, line, buffer, mapping, gone]

theorem driver_careful : (driver pageSize).Careful (full pageSize) (gone pageSize) where
  refuse := by
    intro pdev a g g' es ran
    rcases probe_cases ran with ⟨-, balanced⟩ | ⟨priv, kept, -⟩
    · exact balanced
    · cases kept
  bind := by
    intro pdev a g k g' es ran
    rcases probe_cases ran with ⟨failed, -⟩ | ⟨priv, kept, -, held⟩
    · cases failed
    · cases kept
      exact held
  remove := by
    intro pdev priv g g' es ran
    cases ran
    exact remove_eq

theorem driver_tidy :
    (driver pageSize).Tidy (full pageSize) (gone pageSize) Resource.owner uses where
  irrefl := by
    intro r used
    obtain ⟨-, code, memory⟩ := used
    cases r with
    | handler | tasklet => cases memory
    | device | region | mapping | buffer => cases code
  within used := used.1
  full := by
    intro pdev priv r mem
    simp only [full, Multiset.insert_eq_cons, Multiset.mem_cons, Multiset.mem_singleton] at mem
    rcases mem with rfl | rfl | rfl | rfl | rfl | rfl
    all_goals rfl
  probe ran := (probe_orderly ran).1
  probe_owner ran given := (probe_orderly ran).2 _ given
  remove := by
    intro pdev priv g
    unfold gone
    split_ifs
    all_goals simp [uses, Resource.isCode, Resource.isMemory]

theorem probe_probed {priv : MyDevicePriv} {g' : Unit} {es : List (Event Resource)}
    (ran : (driver pageSize).probe pdev a g = (some priv, g', es)) : Probed pdev priv := by
  rcases probe_cases ran with ⟨failed, -⟩ | ⟨priv, kept, probed, -⟩
  · cases failed
  · cases kept
    exact probed

/-! ## Balance -/

/-- What is held is what the bound devices should have, all that was given back was given back once,
and no handler or tasklet was there any more when the memory it uses was given back. -/
def InBalance (pageSize : UInt64) (b : Binding PciDev Unit MyDevicePriv Resource) : Prop :=
  Exact (full pageSize) b ∧ Orderly uses b.log 0

/-- A device that is removed does not have the interrupt number `0`. -/
def PositiveLine (b : Binding PciDev Unit MyDevicePriv Resource) : Request PciDev Answers → Prop
  | .probe _ _ => True
  | .remove pdev => (b.own pdev).irq ≠ 0

/-- A remove gives back all its device has exactly when the interrupt number is not `0`. -/
theorem gone_eq_full_iff (probed : Probed pdev priv) :
    ↑(gone pageSize pdev priv g) = full pageSize pdev priv ↔ priv.irq ≠ 0 := by
  obtain ⟨own, mapped, buffer, accepted⟩ := probed
  constructor
  · intro same zero
    have held : Resource.handler pdev priv.irq ∈ gone pageSize pdev priv g := by
      rw [← Multiset.mem_coe, same]
      simp [full]
    simp [gone, mapped, buffer, zero] at held
  · intro nonzero
    have positive : 0 < priv.irq := Int32.lt_of_le_of_ne accepted nonzero.symm
    simp only [gone, own, mapped, buffer, positive, if_true, ne_eq, not_false_eq_true]
    rfl

section Runs

variable {b b' : Binding PciDev Unit MyDevicePriv Resource} {q : Request PciDev Answers}
  {own : PciDev → MyDevicePriv}
  {past : List (Binding PciDev Unit MyDevicePriv Resource × Request PciDev Answers)}

theorem releasesOwn_iff (probed : ∀ pdev ∈ b.bound, Probed pdev (b.own pdev))
    (step : (driver pageSize).Step b q b') :
    ReleasesOwn (full pageSize) (gone pageSize) b q ↔ PositiveLine b q := by
  cases step with
  | bind out ran | refuse out ran => exact Iff.rfl
  | remove mem ran => exact gone_eq_full_iff (probed _ mem)

/-- **Balance of probe and remove.**  The books are exact and in order after every call of a run, when
and only when no device with the interrupt number `0` is removed. -/
theorem always_inBalance_iff (run : Run (driver pageSize).Step (.start g own) past b) :
    Always (InBalance pageSize) past b ↔ AllSteps PositiveLine past := by
  refine (driver_tidy.always_exact_orderly_iff driver_careful run).trans ?_
  have start : ∀ pdev ∈ (Binding.start g own : Binding PciDev Unit MyDevicePriv Resource).bound,
      Probed pdev (own pdev) := fun pdev mem => absurd mem (Finset.notMem_empty pdev)
  refine run.allSteps_iff (I := fun b => ∀ pdev ∈ b.bound, Probed pdev (b.own pdev)) start ?_ ?_
  · intro b q b' step probed
    exact releasesOwn_iff probed step
  · intro b q b' step _ probed
    exact step.bound probe_probed probed

/-- What was obtained for a device that is not bound was given back as often. -/
theorem InBalance.count_released (balance : InBalance pageSize b) {r : Resource}
    (out : r.owner ∉ b.bound) : (released b.log).count r = (acquired b.log).count r :=
  balance.1.count_released (Driver.Tidy.full (D := driver pageSize) driver_tidy) out

end Runs

end

/-! ## Interrupt numbers -/

/-- A device with four pages of registers. -/
def demoDev : PciDev := ⟨1, 0, 16384⟩

/-- A kernel that grants everything and answers that interrupt number. -/
def grantAll (irq : Int32) : Answers := ⟨0, true, 0, 1, (1, 1), irq, 0, fun _ => 0, 0⟩

/-- Probe accepts every interrupt number that is not negative, so a device with it can be bound and
removed. -/
theorem exists_removal {irq : Int32} (accepted : 0 ≤ irq) : ∃ b b',
    Run (driver 4096).Step (.start () fun pdev => { pdev })
      [(.start () fun pdev => { pdev }, .probe demoDev (grantAll irq)), (b, .remove demoDev)] b' ∧
    b.own demoDev = kept demoDev (grantAll irq) ∧ b'.bound = ∅ := by
  have probed : ∃ es, (driver 4096).probe demoDev (grantAll irq) () =
      (some (kept demoDev (grantAll irq)), (), es) := by
    rw [probe_eq]
    simp [grantAll, Int32.not_lt.mpr accepted]
  obtain ⟨es, ran⟩ := probed
  have bound := Run.nil.snoc (Driver.Step.bind (b := .start () fun pdev => { pdev })
    (Finset.notMem_empty demoDev) ran)
  have removed := bound.snoc (.remove (d := demoDev) (Finset.mem_insert_self _ _) rfl)
  refine ⟨_, _, removed, by simp only [Function.update_self], ?_⟩
  exact Finset.erase_insert (Finset.notMem_empty demoDev)

/-- A device with interrupt number `9` that is bound and removed. -/
theorem always_inBalance_nine : ∃ past b,
    Run (driver 4096).Step (.start () fun pdev => { pdev }) past b ∧ past.length = 2 ∧
      b.bound = ∅ ∧ Always (InBalance 4096) past b := by
  obtain ⟨b, b', run, own, none⟩ := exists_removal (show (0 : Int32) ≤ 9 by decide)
  refine ⟨_, b', run, rfl, none, (always_inBalance_iff run).mpr ?_⟩
  intro x mem
  rcases List.mem_pair.mp mem with rfl | rfl
  · trivial
  · have nine : (b.own demoDev).irq = 9 := congrArg MyDevicePriv.irq own
    exact fun zero => absurd (nine.symm.trans zero) (by decide)

/-- Interrupt number `0`, which probe accepts: remove leaves the handler on its line. -/
theorem not_always_inBalance : ¬ ∀ (own : PciDev → MyDevicePriv)
    (past : List (Binding PciDev Unit MyDevicePriv Resource × Request PciDev Answers))
    (b : Binding PciDev Unit MyDevicePriv Resource),
    Run (driver 4096).Step (.start () own) past b → Always (InBalance 4096) past b := by
  intro claim
  obtain ⟨b, b', run, own, none⟩ := exists_removal (show (0 : Int32) ≤ 0 by decide)
  have exact : Always (Exact (full 4096)) _ b' := (claim _ _ _ run).mono fun _ books => books.1
  have steps := (driver_careful.always_exact run).mp exact
  have gave : ↑(gone 4096 demoDev (b.own demoDev) b.globals) = full 4096 demoDev (b.own demoDev) :=
    steps (b, .remove demoDev) (by simp)
  rw [own] at gave
  exact (gone_eq_full_iff ⟨rfl, by decide, by decide, by decide⟩).mp gave rfl

end ScullDrivers.DmaPci
