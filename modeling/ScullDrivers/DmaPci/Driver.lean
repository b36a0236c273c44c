import ScullDrivers.Interaction.Program

/-!
# The DMA PCI driver, `dma_kernel_with_peripheral/driver.c`

The interrupt handler, the simulated transfer, probe and remove as programs over the kernel functions
they call and their accesses to the device registers, one call each, so that a handler on another CPU can
come in between any two of them.  `struct my_device_priv` is a value that probe fills in, keeps as the
driver data of the device and remove reads.  `mdelay`, `wmb` and the printing are left out.
-/

namespace ScullDrivers.DmaPci

open Interaction

/-! ## Constants and data -/

/-- An address; `0` is `NULL`. -/
abbrev Ptr := UInt64

/-- `ENOMEM`. -/
def enomem : Int32 := 12

/-- `EIO`. -/
def eio : Int32 := 5

/-- `MY_DEVICE_DMA_START_BIT`. -/
def myDeviceDmaStartBit : UInt32 := 1

/-- `MY_DEVICE_DMA_DIR_BIT`. -/
def myDeviceDmaDirBit : UInt32 := 2

/-- `MY_DEVICE_DMA_DONE_BIT`. -/
def myDeviceDmaDoneBit : UInt32 := 2

/-- `MY_DEVICE_IRQ_ENABLE_BIT`. -/
def myDeviceIrqEnableBit : UInt32 := 4

/-- `DMA_BUFFER_SIZE`. -/
def dmaBufferSize (pageSize : UInt64) : UInt64 := 4 * pageSize

/-- `irqreturn_t`. -/
inductive IrqReturn
  | none
  | handled
  deriving DecidableEq

/-- `enum dma_data_direction`. -/
inductive Direction
  | toDevice
  | fromDevice
  deriving DecidableEq

/-- `struct pci_dev`: the device by its address, and its first BAR. -/
structure PciDev where
  address : Ptr
  resourceStart : UInt64
  resourceLen : UInt64
  deriving DecidableEq

/-- `struct my_device_priv`.  Its tasklet is named by the device. -/
structure MyDevicePriv where
  pdev : PciDev
  regsBase : Ptr := 0
  regs : Ptr := 0
  dmaBufferVirt : Ptr := 0
  dmaBufferPhys : UInt64 := 0
  irq : Int32 := 0
  deriving DecidableEq

/-- The 32-bit registers of `struct my_device_regs`. -/
inductive Reg
  | control
  | status
  | dmaLen
  deriving DecidableEq

/-- The kernel functions the driver calls and its accesses to the registers mapped at `regs`.
`returned` is no call of the driver: it marks the return of an invocation of the handler. -/
inductive Call
  | pciEnableDevice (pdev : PciDev)
  | devmKzalloc (pdev : PciDev)
  | pciRequestRegion (pdev : PciDev)
  | ioremap (start len : UInt64)
  | dmaAllocCoherent (pdev : PciDev) (size : UInt64)
  | memset (p : Ptr) (c : UInt8) (n : UInt64)
  | pciIrqVector (pdev : PciDev)
  | taskletInit (pdev : PciDev)
  | requestIrq (irq : Int32) (devId : PciDev)
  | ioread32 (regs : Ptr) (reg : Reg)
  | iowrite32 (v : UInt32) (regs : Ptr) (reg : Reg)
  | ioread64DmaAddr (regs : Ptr)
  | iowrite64DmaAddr (v : UInt64) (regs : Ptr)
  | taskletSchedule (pdev : PciDev)
  | returned (r : IrqReturn)
  | freeIrq (irq : Int32) (devId : PciDev)
  | taskletKill (pdev : PciDev)
  | dmaFreeCoherent (pdev : PciDev) (size : UInt64) (virt : Ptr) (phys : UInt64)
  | iounmap (base : Ptr)
  | pciReleaseRegion (pdev : PciDev)
  | pciDisableDevice (pdev : PciDev)
  deriving DecidableEq

/-- What they return: an error number or an interrupt number, a pointer, a buffer with its bus address,
whether there was memory, the contents of a register. -/
abbrev Resp : Call → Type
  | .pciEnableDevice _ | .pciRequestRegion _ | .requestIrq _ _ | .pciIrqVector _ => Int32
  | .devmKzalloc _ => Bool
  | .ioremap _ _ => Ptr
  | .dmaAllocCoherent _ _ => Ptr × UInt64
  | .ioread32 _ _ => UInt32
  | .ioread64DmaAddr _ => UInt64
  | _ => Unit

abbrev kcall (e : Call) : Prog Call Resp (Resp e) := perform e

/-! ## The interrupt handler and the transfer -/

/-- `my_device_isr`. -/
def myDeviceIsr (priv : MyDevicePriv) : Prog Call Resp IrqReturn := do
  let status ← kcall (.ioread32 priv.regs .status)
  if status &&& myDeviceDmaDoneBit ≠ 0 then do
    kcall (.iowrite32 (status &&& ~~~myDeviceDmaDoneBit) priv.regs .status)
    kcall (.taskletSchedule priv.pdev)
    return .handled
  else return .none

/-- An invocation of the handler, up to its return. -/
def invokeIsr (priv : MyDevicePriv) : Prog Call Resp Unit := do
  let r ← myDeviceIsr priv
  kcall (.returned r)

/-- `my_device_tasklet_handler`, the bottom half: it prints, and does nothing with its argument. -/
def myDeviceTaskletHandler (_priv : MyDevicePriv) : Prog Call Resp Unit := return ()

/-- `if (direction == DMA_TO_DEVICE)` in `my_device_simulate_dma`. -/
def simulateTransfer (priv : MyDevicePriv) (dmaLen : UInt32) : Direction → Prog Call Resp Unit
  | .toDevice => return ()
  | .fromDevice => kcall (.memset priv.dmaBufferVirt 0xAA dmaLen.toUInt64)

/-- `my_device_simulate_dma` from its test of the buffer on, up to the write of the control register. -/
def simulateCompletion (pageSize : UInt64) (priv : MyDevicePriv) (direction : Direction)
    (dmaLen : UInt32) : Prog Call Resp Unit :=
  if priv.dmaBufferVirt ≠ 0 ∧ dmaLen.toUInt64 ≤ dmaBufferSize pageSize then do
    simulateTransfer priv dmaLen direction
    kcall (.iowrite32 (myDeviceDmaDoneBit ||| myDeviceIrqEnableBit) priv.regs .status)
    invokeIsr priv
  else kcall (.iowrite32 0 priv.regs .status)

/-- `my_device_simulate_dma`. -/
def myDeviceSimulateDma (pageSize : UInt64) (priv : MyDevicePriv) : Prog Call Resp Unit := do
  let control ← kcall (.ioread32 priv.regs .control)
  let _dmaAddr ← kcall (.ioread64DmaAddr priv.regs)
  let dmaLen ← kcall (.ioread32 priv.regs .dmaLen)
  let direction : Direction :=
    if control &&& myDeviceDmaDirBit ≠ 0 then .fromDevice else .toDevice
  simulateCompletion pageSize priv direction dmaLen
  kcall (.iowrite32 (control &&& ~~~myDeviceDmaStartBit) priv.regs .control)

/-! ## Probe -/

/-- A function with an error path: what it returns, and the private data, whose `pdev` is the device. -/
abbrev Code := Prog Call Resp (Int32 × MyDevicePriv)

/-- `disable_pci:`, and `free_priv:`, which does nothing more. -/
def disablePci (ret : Int32) (priv : MyDevicePriv) : Code := do
  kcall (.pciDisableDevice priv.pdev)
  return (ret, priv)

/-- `release_region:`. -/
def releaseRegion (ret : Int32) (priv : MyDevicePriv) : Code := do
  kcall (.pciReleaseRegion priv.pdev)
  disablePci ret priv

/-- `iounmap_regs:`. -/
def iounmapRegs (ret : Int32) (priv : MyDevicePriv) : Code :=
  if priv.regsBase ≠ 0 then do
    kcall (.iounmap priv.regsBase)
    releaseRegion ret priv
  else releaseRegion ret priv

/-- `free_dma_buffer:`. -/
def freeDmaBuffer (pageSize : UInt64) (ret : Int32) (priv : MyDevicePriv) : Code :=
  if priv.dmaBufferVirt ≠ 0 then do
    kcall (.dmaFreeCoherent priv.pdev (dmaBufferSize pageSize) priv.dmaBufferVirt priv.dmaBufferPhys)
    iounmapRegs ret priv
  else iounmapRegs ret priv

/-- `my_device_probe` from the programming of the registers on.  Nothing fails here any more: no `goto`
leads to `free_irq:`. -/
def myDeviceProbeStart (pageSize : UInt64) (priv : MyDevicePriv) : Code := do
  kcall (.iowrite64DmaAddr priv.dmaBufferPhys priv.regs)
  kcall (.iowrite32 (dmaBufferSize pageSize).toUInt32 priv.regs .dmaLen)
  kcall (.iowrite32 0 priv.regs .control)
  kcall (.iowrite32 (myDeviceDmaDirBit ||| myDeviceIrqEnableBit) priv.regs .control)
  kcall (.iowrite32 (myDeviceDmaStartBit ||| myDeviceDmaDirBit ||| myDeviceIrqEnableBit) priv.regs
    .control)
  myDeviceSimulateDma pageSize priv
  return (0, priv)

/-- `my_device_probe` from `pci_irq_vector` on. -/
def myDeviceProbeIrq (pageSize : UInt64) (priv : MyDevicePriv) : Code := do
  let irq ← kcall (.pciIrqVector priv.pdev)
  let priv := { priv with irq }
  if priv.irq < 0 then freeDmaBuffer pageSize priv.irq priv
  else do
    kcall (.taskletInit priv.pdev)
    let ret ← kcall (.requestIrq priv.irq priv.pdev)
    if ret ≠ 0 then freeDmaBuffer pageSize ret priv
    else myDeviceProbeStart pageSize priv

/-- `my_device_probe` from `dma_alloc_coherent` on. -/
def myDeviceProbeBuffer (pageSize : UInt64) (priv : MyDevicePriv) : Code := do
  let (dmaBufferVirt, dmaBufferPhys) ←
    kcall (.dmaAllocCoherent priv.pdev (dmaBufferSize pageSize))
  let priv := { priv with dmaBufferVirt, dmaBufferPhys }
  if priv.dmaBufferVirt = 0 then iounmapRegs (-enomem) priv
  else do
    kcall (.memset priv.dmaBufferVirt 0 (dmaBufferSize pageSize))
    myDeviceProbeIrq pageSize priv

/-- `my_device_probe` from `pci_request_region` on. -/
def myDeviceProbeRegion (pageSize : UInt64) (priv : MyDevicePriv) : Code := do
  let ret ← kcall (.pciRequestRegion priv.pdev)
  if ret ≠ 0 then disablePci ret priv
  else do
    let regsBase ← kcall (.ioremap priv.pdev.resourceStart priv.pdev.resourceLen)
    let priv := { priv with regsBase }
    if priv.regsBase = 0 then releaseRegion (-eio) priv
    else myDeviceProbeBuffer pageSize { priv with regs := priv.regsBase }

/-- `my_device_probe`. -/
def myDeviceProbe (pageSize : UInt64) (pdev : PciDev) : Code := do
  let ret ← kcall (.pciEnableDevice pdev)
  if ret ≠ 0 then return (ret, { pdev })
  else do
    let priv ← kcall (.devmKzalloc pdev)
    if priv = false then disablePci (-enomem) { pdev }
    else myDeviceProbeRegion pageSize { pdev }

/-! ## Remove -/

/-- `if (priv->regs)` in `my_device_remove`. -/
def removeDisable (priv : MyDevicePriv) : Prog Call Resp Unit :=
  if priv.regs ≠ 0 then do
    let control ← kcall (.ioread32 priv.regs .control)
    kcall (.iowrite32 (control &&& ~~~myDeviceIrqEnableBit) priv.regs .control)
  else return ()

/-- `if (priv->irq > 0)` in `my_device_remove`. -/
def removeIrq (priv : MyDevicePriv) : Prog Call Resp Unit :=
  if 0 < priv.irq then kcall (.freeIrq priv.irq priv.pdev) else return ()

/-- `if (priv->dma_buffer_virt)` in `my_device_remove`. -/
def removeBuffer (pageSize : UInt64) (pdev : PciDev) (priv : MyDevicePriv) : Prog Call Resp Unit :=
  if priv.dmaBufferVirt ≠ 0 then
    kcall (.dmaFreeCoherent pdev (dmaBufferSize pageSize) priv.dmaBufferVirt priv.dmaBufferPhys)
  else return ()

/-- `if (priv->regs_base)` in `my_device_remove`. -/
def removeMapping (priv : MyDevicePriv) : Prog Call Resp Unit :=
  if priv.regsBase ≠ 0 then kcall (.iounmap priv.regsBase) else return ()

/-- `my_device_remove`, with what `pci_get_drvdata` returns. -/
def myDeviceRemove (pageSize : UInt64) (pdev : PciDev) (priv : MyDevicePriv) :
    Prog Call Resp Unit := do
  removeDisable priv
  removeIrq priv
  kcall (.taskletKill priv.pdev)
  removeBuffer pageSize pdev priv
  removeMapping priv
  kcall (.pciReleaseRegion pdev)
  kcall (.pciDisableDevice pdev)

end ScullDrivers.DmaPci
