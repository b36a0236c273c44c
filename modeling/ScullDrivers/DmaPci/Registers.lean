import Mathlib.Logic.Function.Basic
import ScullDrivers.Buffer
import ScullDrivers.DmaPci.Balance

/-!
# The DMA PCI driver and the device registers

The functions of the driver on the device they program: registers that read as they were last written,
the bytes of the DMA buffer, and the tasklet.  `my_device_simulate_dma` leaves the registers as the
protocol of the device says (`simulateDma_registers`).  `my_device_remove` clears the interrupt enable bit
in the control register; the bit is set in the status register, and stays set there
(`remove_not_irqDisabled`).
-/

namespace ScullDrivers.DmaPci

open Interaction Buffer

/-! ## The device -/

/-- The registers of the device, and what the driver touches besides. -/
structure Hardware where
  regs : Reg → UInt32
  dmaAddr : UInt64
  /-- The bytes of the buffer, unless there was a write beyond them. -/
  buffer : Option (List UInt8)
  /-- How often the tasklet was scheduled. -/
  scheduled : ℕ := 0

/-- The device under the calls of the driver, with the answers of the others given. -/
def hardware (answer : (e : Call) → Resp e) : Handler Call Resp Hardware
  | .ioread32 _ reg, s => (s.regs reg, s)
  | .iowrite32 v _ reg, s => ((), { s with regs := Function.update s.regs reg v })
  | .ioread64DmaAddr _, s => (s.dmaAddr, s)
  | .iowrite64DmaAddr v _, s => ((), { s with dmaAddr := v })
  | .memset _ c n, s =>
      ((), { s with buffer := s.buffer.bind fun bytes => write bytes (List.replicate n.toNat c) })
  | .taskletSchedule _, s => ((), { s with scheduled := s.scheduled + 1 })
  | e, s => (answer e, s)

section

variable {answer : (e : Call) → Resp e} {pageSize : UInt64} {priv : MyDevicePriv} {pdev : PciDev}
  {s : Hardware}

/-! ## The handler -/

/-- What an invocation of the handler leaves: DONE acknowledged, and the tasklet scheduled for it. -/
def Hardware.interrupted (s : Hardware) : Hardware :=
  if s.regs .status &&& myDeviceDmaDoneBit ≠ 0 then
    { s with
      regs := Function.update s.regs .status (s.regs .status &&& ~~~myDeviceDmaDoneBit)
      scheduled := s.scheduled + 1 }
  else s

theorem myDeviceIsr_eq :
    ((myDeviceIsr priv).eval (hardware answer) s).2 = s.interrupted := by
  rcases eq_or_ne (s.regs .status &&& myDeviceDmaDoneBit) 0 with clear | done
  · simp [myDeviceIsr, hardware, Hardware.interrupted, clear]
  · simp [myDeviceIsr, hardware, Hardware.interrupted, done]

theorem invokeIsr_eq : (invokeIsr priv).eval (hardware answer) s = ((), s.interrupted) := by
  rw [invokeIsr, eval_bind, myDeviceIsr_eq]
  rfl

/-! ## The transfer -/

/-- What the transfer leaves in the buffer. -/
def transferred (dmaLen : UInt32) (bytes : List UInt8) : Direction → List UInt8
  | .toDevice => bytes
  | .fromDevice => List.replicate dmaLen.toNat 0xAA ++ bytes.drop dmaLen.toNat

/-- The direction in a value of the control register. -/
def Direction.ofControl (control : UInt32) : Direction :=
  if control &&& myDeviceDmaDirBit ≠ 0 then .fromDevice else .toDevice

theorem simulateTransfer_eq {direction : Direction} {dmaLen : UInt32} {bytes : List UInt8}
    (content : s.buffer = some bytes) (fits : dmaLen.toNat ≤ bytes.length) :
    (simulateTransfer priv dmaLen direction).eval (hardware answer) s =
      ((), { s with buffer := some (transferred dmaLen bytes direction) }) := by
  cases direction with
  | toDevice =>
      rw [transferred, ← content]
      rfl
  | fromDevice =>
      have filled : write bytes (List.replicate dmaLen.toNat 0xAA) =
          some (transferred dmaLen bytes .fromDevice) := by
        rw [write_of_le (by rw [List.length_replicate]; exact fits), List.length_replicate]
        rfl
      simp [simulateTransfer, hardware, content, filled]

/-- A completion raises DONE, and the handler called for it acknowledges it. -/
theorem simulateCompletion_eq {direction : Direction} {dmaLen : UInt32}
    (allocated : priv.dmaBufferVirt ≠ 0) (within : dmaLen.toUInt64 ≤ dmaBufferSize pageSize) :
    (simulateCompletion pageSize priv direction dmaLen).eval (hardware answer) s =
      let after := ((simulateTransfer priv dmaLen direction).eval (hardware answer) s).2
      ((), { after with
        regs := Function.update after.regs .status myDeviceIrqEnableBit
        scheduled := after.scheduled + 1 }) := by
  have raised : (myDeviceDmaDoneBit ||| myDeviceIrqEnableBit) &&& myDeviceDmaDoneBit ≠ 0 := by decide
  have acknowledged : (myDeviceDmaDoneBit ||| myDeviceIrqEnableBit) &&& ~~~myDeviceDmaDoneBit =
      myDeviceIrqEnableBit := by decide
  rw [simulateCompletion, if_pos ⟨allocated, within⟩]
  simp [invokeIsr_eq, hardware, Hardware.interrupted, raised, acknowledged]

theorem simulateCompletion_eq_of_not {direction : Direction} {dmaLen : UInt32}
    (refused : ¬ (priv.dmaBufferVirt ≠ 0 ∧ dmaLen.toUInt64 ≤ dmaBufferSize pageSize)) :
    (simulateCompletion pageSize priv direction dmaLen).eval (hardware answer) s =
      ((), { s with regs := Function.update s.regs .status 0 }) := by
  rw [simulateCompletion, if_neg refused]
  rfl

/-- The control register is written back as it was read, before the completion. -/
theorem myDeviceSimulateDma_eq :
    ((myDeviceSimulateDma pageSize priv).eval (hardware answer) s).2 =
      let after := ((simulateCompletion pageSize priv (.ofControl (s.regs .control))
        (s.regs .dmaLen)).eval (hardware answer) s).2
      { after with
        regs := Function.update after.regs .control (s.regs .control &&& ~~~myDeviceDmaStartBit) } := by
  simp only [myDeviceSimulateDma, eval_bind, eval_perform, hardware]
  rfl

/-- The register protocol of a transfer on a buffer of `bytes`: only the start bit changes in the
control register; a transfer that has a buffer and fits it leaves its interrupt acknowledged, one call of
the tasklet, and the buffer filled as the direction says; any other leaves the status register clear. -/
structure Followed (pageSize : UInt64) (priv : MyDevicePriv) (bytes : List UInt8)
    (before after : Hardware) : Prop where
  control : after.regs .control = before.regs .control &&& ~~~myDeviceDmaStartBit
  dmaAddr : after.dmaAddr = before.dmaAddr
  dmaLen : after.regs .dmaLen = before.regs .dmaLen
  done : priv.dmaBufferVirt ≠ 0 ∧ (before.regs .dmaLen).toUInt64 ≤ dmaBufferSize pageSize →
    after.regs .status = myDeviceIrqEnableBit ∧ after.scheduled = before.scheduled + 1 ∧
      after.buffer = some (transferred (before.regs .dmaLen) bytes (.ofControl (before.regs .control)))
  failed : ¬ (priv.dmaBufferVirt ≠ 0 ∧ (before.regs .dmaLen).toUInt64 ≤ dmaBufferSize pageSize) →
    after.regs .status = 0 ∧ after.scheduled = before.scheduled ∧ after.buffer = some bytes

/-- **The transfer and its interrupt follow the register protocol**, whatever the registers and the
buffer hold. -/
theorem simulateDma_registers {bytes : List UInt8} (content : s.buffer = some bytes)
    (length : bytes.length = (dmaBufferSize pageSize).toNat) :
    Followed pageSize priv bytes s
      ((myDeviceSimulateDma pageSize priv).eval (hardware answer) s).2 := by
  rw [myDeviceSimulateDma_eq]
  by_cases fits : priv.dmaBufferVirt ≠ 0 ∧ (s.regs .dmaLen).toUInt64 ≤ dmaBufferSize pageSize
  · have inside : (s.regs .dmaLen).toNat ≤ bytes.length := by
      rw [length]
      exact UInt64.le_iff_toNat_le.mp fits.2
    rw [simulateCompletion_eq fits.1 fits.2, simulateTransfer_eq content inside]
    exact ⟨by simp, rfl, by simp, fun _ => ⟨by simp, rfl, rfl⟩, fun other => absurd fits other⟩
  · rw [simulateCompletion_eq_of_not fits]
    exact ⟨by simp, rfl, by simp, fun other => absurd other fits, fun _ => ⟨by simp, rfl, content⟩⟩

end

/-- Registers before a transfer of two bytes from the device. -/
def twoBytes : Hardware where
  regs
    | .control => myDeviceDmaStartBit ||| myDeviceDmaDirBit
    | .status => 0
    | .dmaLen => 2
  dmaAddr := 1
  buffer := some (List.replicate (4 * 4096) 0)

theorem simulateDma_registers_twoBytes :
    let after := ((myDeviceSimulateDma 4096 { pdev := demoDev, dmaBufferVirt := 1 }).eval
      (hardware (grantAll 9).answer) twoBytes).2
    after.regs .status = myDeviceIrqEnableBit ∧ after.scheduled = 1 ∧
      after.buffer = some ([0xAA, 0xAA] ++ (List.replicate (4 * 4096) 0).drop 2) := by
  have followed := @simulateDma_registers (grantAll 9).answer 4096
    { pdev := demoDev, dmaBufferVirt := 1 } twoBytes _ rfl List.length_replicate
  exact followed.done ⟨by decide, by decide⟩

/-! ## Probe -/

section

variable {answer : (e : Call) → Resp e} {a : Answers} {pageSize : UInt64} {priv : MyDevicePriv} {pdev : PciDev}
  {s : Hardware} {ret : Int32}

theorem disablePci_fst : ((disablePci ret priv).eval (hardware answer) s).1 = (ret, priv) := rfl

theorem releaseRegion_fst : ((releaseRegion ret priv).eval (hardware answer) s).1 = (ret, priv) :=
  rfl

theorem iounmapRegs_fst : ((iounmapRegs ret priv).eval (hardware answer) s).1 = (ret, priv) := by
  unfold iounmapRegs
  split
  · rfl
  · rfl

theorem freeDmaBuffer_fst :
    ((freeDmaBuffer pageSize ret priv).eval (hardware answer) s).1 = (ret, priv) := by
  unfold freeDmaBuffer
  split
  · exact iounmapRegs_fst
  · exact iounmapRegs_fst

/-- What a function of probe returns when it succeeds: it has found a buffer and the registers, and has
programmed them. -/
def Starts (a : Answers) (pageSize : UInt64) (r : (Int32 × MyDevicePriv) × Hardware) : Prop :=
  r.1.1 = 0 → r.1.2.dmaBufferVirt ≠ 0 ∧ r.1.2.regs ≠ 0 ∧
    ∃ s, r.2 = ((myDeviceProbeStart pageSize r.1.2).eval (hardware a.answer) s).2

theorem starts_of_error {r : (Int32 × MyDevicePriv) × Hardware} {e : Int32} (failed : r.1.1 = e)
    (error : e ≠ 0) : Starts a pageSize r :=
  fun ok => absurd (failed.symm.trans ok) error

theorem probeStart_fst :
    ((myDeviceProbeStart pageSize priv).eval (hardware answer) s).1 = (0, priv) := by
  simp only [myDeviceProbeStart, eval_bind, pure_eq, eval_ret]

theorem probeIrq_starts (buffer : priv.dmaBufferVirt ≠ 0) (mapped : priv.regs ≠ 0) :
    Starts a pageSize ((myDeviceProbeIrq pageSize priv).eval (hardware a.answer) s) := by
  by_cases negative : a.pciIrqVector < 0
  · have error : a.pciIrqVector ≠ 0 := by
      intro zero
      rw [zero] at negative
      exact absurd negative (by decide)
    apply starts_of_error _ error
    simp [myDeviceProbeIrq, hardware, Answers.answer, negative, freeDmaBuffer_fst]
  · rcases eq_or_ne a.requestIrq 0 with granted | refused
    · have run : (myDeviceProbeIrq pageSize priv).eval (hardware a.answer) s =
          (myDeviceProbeStart pageSize { priv with irq := a.pciIrqVector }).eval
            (hardware a.answer) s := by
        simp [myDeviceProbeIrq, hardware, Answers.answer, negative, granted]
      intro _
      rw [run, probeStart_fst]
      exact ⟨buffer, mapped, s, rfl⟩
    · apply starts_of_error _ refused
      simp [myDeviceProbeIrq, hardware, Answers.answer, negative, refused, freeDmaBuffer_fst]

theorem probeBuffer_starts (mapped : priv.regs ≠ 0) :
    Starts a pageSize ((myDeviceProbeBuffer pageSize priv).eval (hardware a.answer) s) := by
  rcases eq_or_ne a.dmaAllocCoherent.1 0 with none | buffer
  · apply starts_of_error (e := -enomem) _ (by decide)
    simp [myDeviceProbeBuffer, hardware, Answers.answer, none, iounmapRegs_fst]
  · let held : MyDevicePriv :=
      { priv with
        dmaBufferVirt := a.dmaAllocCoherent.1
        dmaBufferPhys := a.dmaAllocCoherent.2 }
    have starts : ∀ s, Starts a pageSize
        ((myDeviceProbeIrq pageSize held).eval (hardware a.answer) s) :=
      fun s => probeIrq_starts buffer mapped
    simpa [myDeviceProbeBuffer, hardware, Answers.answer, buffer] using starts _

theorem probeRegion_starts :
    Starts a pageSize ((myDeviceProbeRegion pageSize priv).eval (hardware a.answer) s) := by
  rcases eq_or_ne a.pciRequestRegion 0 with claimed | refused
  · rcases eq_or_ne a.ioremap 0 with none | mapped
    · apply starts_of_error (e := -eio) _ (by decide)
      simp [myDeviceProbeRegion, hardware, Answers.answer, claimed, none, releaseRegion_fst]
    · simpa [myDeviceProbeRegion, hardware, Answers.answer, claimed, mapped] using
        probeBuffer_starts mapped
  · apply starts_of_error _ refused
    simp [myDeviceProbeRegion, hardware, Answers.answer, refused, disablePci_fst]

theorem probe_starts :
    Starts a pageSize ((myDeviceProbe pageSize pdev).eval (hardware a.answer) s) := by
  rcases eq_or_ne a.pciEnableDevice 0 with enabled | refused
  · cases memory : a.devmKzalloc with
    | false =>
        apply starts_of_error (e := -enomem) _ (by decide)
        simp [myDeviceProbe, hardware, Answers.answer, enabled, memory, disablePci_fst]
    | true =>
        simpa [myDeviceProbe, hardware, Answers.answer, enabled, memory] using probeRegion_starts
  · apply starts_of_error _ refused
    simp [myDeviceProbe, hardware, Answers.answer, refused]

/-- The length programmed is no larger than the buffer, as it is cut down to 32 bits. -/
theorem programmed_le : (dmaBufferSize pageSize).toUInt32.toUInt64 ≤ dmaBufferSize pageSize := by
  rw [UInt64.le_iff_toNat_le, UInt32.toNat_toUInt64, UInt64.toNat_toUInt32]
  exact Nat.mod_le _ _

/-- The transfer that probe starts leaves the interrupt enable bit alone in the status register. -/
theorem probeStart_status (buffer : priv.dmaBufferVirt ≠ 0) :
    ((myDeviceProbeStart pageSize priv).eval (hardware answer) s).2.regs .status =
      myDeviceIrqEnableBit := by
  simp [myDeviceProbeStart, hardware, myDeviceSimulateDma_eq, simulateCompletion_eq buffer
    programmed_le]

/-! ## Remove -/

/-- What may happen between probe and remove: the device raises DONE, the handler is called. -/
inductive Later
  | done
  | isr

/-- The device after these events. -/
def later (a : Answers) (priv : MyDevicePriv) : List Later → Hardware → Hardware
  | [], s => s
  | .done :: events, s =>
      later a priv events
        { s with regs := Function.update s.regs .status (s.regs .status ||| myDeviceDmaDoneBit) }
  | .isr :: events, s => later a priv events ((myDeviceIsr priv).eval (hardware a.answer) s).2

/-- A successful probe, the events, and remove: the device before and after the remove. -/
def session (pageSize : UInt64) (pdev : PciDev) (a : Answers) (events : List Later) (s : Hardware) :
    Option (Hardware × Hardware) :=
  let ((ret, priv), probed) := (myDeviceProbe pageSize pdev).eval (hardware a.answer) s
  if ret = 0 then
    let before := later a priv events probed
    some (before, ((myDeviceRemove pageSize pdev priv).eval (hardware a.answer) before).2)
  else none

/-- The interrupt enable bit is clear in both registers, and the rest of the control register is as it
was. -/
structure IrqDisabled (before after : Hardware) : Prop where
  status : after.regs .status &&& myDeviceIrqEnableBit = 0
  control : after.regs .control &&& myDeviceIrqEnableBit = 0
  rest : after.regs .control &&& ~~~myDeviceIrqEnableBit =
    before.regs .control &&& ~~~myDeviceIrqEnableBit

/-- Acknowledging DONE keeps the interrupt enable bit. -/
theorem interrupted_irqEnable :
    s.interrupted.regs .status &&& myDeviceIrqEnableBit =
      s.regs .status &&& myDeviceIrqEnableBit := by
  have apart : ~~~myDeviceDmaDoneBit &&& myDeviceIrqEnableBit = myDeviceIrqEnableBit := by decide
  unfold Hardware.interrupted
  split
  · simp only [Function.update_self]
    rw [UInt32.and_assoc, apart]
  · rfl

/-- Raising DONE does too. -/
theorem raised_irqEnable (status : UInt32) :
    (status ||| myDeviceDmaDoneBit) &&& myDeviceIrqEnableBit = status &&& myDeviceIrqEnableBit := by
  have apart : myDeviceDmaDoneBit &&& myDeviceIrqEnableBit = 0 := by decide
  calc (status ||| myDeviceDmaDoneBit) &&& myDeviceIrqEnableBit
      = status &&& myDeviceIrqEnableBit ||| myDeviceDmaDoneBit &&& myDeviceIrqEnableBit :=
        UInt32.toBitVec_inj.mp BitVec.and_or_distrib_right
    _ = status &&& myDeviceIrqEnableBit := by rw [apart, UInt32.or_zero]

theorem later_irqEnable {events : List Later} :
    (later a priv events s).regs .status &&& myDeviceIrqEnableBit =
      s.regs .status &&& myDeviceIrqEnableBit := by
  induction events generalizing s with
  | nil => rfl
  | cons event events ih =>
      cases event with
      | done =>
          rw [later, ih]
          simp only [Function.update_self]
          exact raised_irqEnable _
      | isr => rw [later, ih, myDeviceIsr_eq, interrupted_irqEnable]

/-- Remove touches the control register and no other. -/
theorem remove_regs (mapped : priv.regs ≠ 0) :
    ((myDeviceRemove pageSize pdev priv).eval (hardware answer) s).2.regs =
      Function.update s.regs .control (s.regs .control &&& ~~~myDeviceIrqEnableBit) := by
  have line : ∀ t, ((removeIrq priv).eval (hardware answer) t).2 = t := by
    intro t
    unfold removeIrq
    split
    · rfl
    · rfl
  have buffer : ∀ t, ((removeBuffer pageSize pdev priv).eval (hardware answer) t).2 = t := by
    intro t
    unfold removeBuffer
    split
    · rfl
    · rfl
  have mapping : ∀ t, ((removeMapping priv).eval (hardware answer) t).2 = t := by
    intro t
    unfold removeMapping
    split
    · rfl
    · rfl
  simp [myDeviceRemove, removeDisable, mapped, line, buffer, mapping, hardware]

theorem session_eq {events : List Later} {before after : Hardware}
    (held : session pageSize pdev a events s = some (before, after)) :
    before.regs .status &&& myDeviceIrqEnableBit = myDeviceIrqEnableBit ∧
      after.regs = Function.update before.regs .control
        (before.regs .control &&& ~~~myDeviceIrqEnableBit) := by
  have starts := @probe_starts a pageSize pdev s
  unfold session at held
  simp only at held
  split at held
  next ok =>
    obtain ⟨buffer, mapped, t, probed⟩ := starts ok
    have enabled : myDeviceIrqEnableBit &&& myDeviceIrqEnableBit = myDeviceIrqEnableBit := by decide
    obtain ⟨rfl, rfl⟩ := Prod.mk.inj (Option.some.inj held)
    rw [later_irqEnable, probed, probeStart_status buffer, remove_regs mapped]
    exact ⟨enabled, rfl⟩
  next => cases held

/-- What `my_device_remove` does achieve: it clears the bit, and no other, in the control register. -/
theorem session_control {events : List Later} {before after : Hardware}
    (held : session pageSize pdev a events s = some (before, after)) :
    after.regs .control = before.regs .control &&& ~~~myDeviceIrqEnableBit := by
  rw [(session_eq held).2, Function.update_self]

theorem session_status {events : List Later} {before after : Hardware}
    (held : session pageSize pdev a events s = some (before, after)) :
    after.regs .status &&& myDeviceIrqEnableBit = myDeviceIrqEnableBit := by
  rw [(session_eq held).2, Function.update_of_ne (by decide), (session_eq held).1]

/-- A probe that is granted everything succeeds. -/
theorem exists_session (pageSize : UInt64) (s : Hardware) (events : List Later) : ∃ before after,
    session pageSize demoDev (grantAll 9) events s = some (before, after) := by
  have ok : ((myDeviceProbe pageSize demoDev).eval (hardware (grantAll 9).answer) s).1.1 = 0 := by
    simp [myDeviceProbe, myDeviceProbeRegion, myDeviceProbeBuffer, myDeviceProbeIrq, probeStart_fst,
      hardware, grantAll, Answers.answer]
  exact ⟨_, _, if_pos ok⟩

/-- **Removal never disables the interrupt of the device.**  The bit is cleared in the control register,
while in the status register, where the layout has it, it is as the transfer in probe has left it. -/
theorem remove_not_irqDisabled {events : List Later} {before after : Hardware}
    (held : session pageSize pdev a events s = some (before, after)) : ¬ IrqDisabled before after := by
  intro disabled
  have clear := disabled.status
  rw [session_status held] at clear
  exact absurd clear (by decide)

end

/-- Clear registers, a probe, an interrupt after one more transfer, and remove. -/
theorem remove_not_irqDisabled_clear : ∃ before after,
    session 4096 demoDev (grantAll 9) [.done, .isr] ⟨fun _ => 0, 0, none, 0⟩ = some (before, after) ∧
      ¬ IrqDisabled before after := by
  obtain ⟨before, after, held⟩ := exists_session 4096 ⟨fun _ => 0, 0, none, 0⟩ [.done, .isr]
  exact ⟨before, after, held, remove_not_irqDisabled held⟩

/-- Without any event in between, the status register still holds the bit. -/
theorem not_forall_irqDisabled : ¬ ∀ (pageSize : UInt64) (pdev : PciDev) (a : Answers)
    (events : List Later) (s before after : Hardware),
    session pageSize pdev a events s = some (before, after) → IrqDisabled before after := by
  intro all
  obtain ⟨before, after, held⟩ := exists_session 4096 ⟨fun _ => 0, 0, none, 0⟩ []
  have clear := (all _ _ _ _ _ _ _ held).status
  rw [session_status held] at clear
  exact absurd clear (by decide)

end ScullDrivers.DmaPci
