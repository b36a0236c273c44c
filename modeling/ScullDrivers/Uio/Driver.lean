import ScullDrivers.Interaction.Program
import ScullDrivers.Resources.Binding

/-!
# The UIO driver, `uio/simple_uio_driver.c`

`dummy_probe`, `dummy_remove` and `dummy_irqcontrol` as programs over the kernel functions they call,
with the three globals of the module passed along.  `dummy_uio_info` is the only object of its kind, and
its address the `dev_id` of every handler and the driver data of every device, so neither is an argument
here.  The labels of the `goto`s of `dummy_probe` are definitions of their own.
-/

namespace ScullDrivers.Uio

open Interaction

/-! ## Constants and data -/

/-- An address; `0` is `NULL`. -/
abbrev Ptr := Nat

/-- `ENOMEM`. -/
def enomem : Int := 12

/-- `EBUSY`. -/
def ebusy : Int := 16

/-- `DRIVER_NAME`. -/
def driverName : String := "dummy_uio_full"

/-- `UIO_MEM_PHYS`. -/
def uioMemPhys : Int32 := 1

/-- `UIO_IRQ_CUSTOM`. -/
def uioIrqCustom : Int := -1

/-- `irqreturn_t`. -/
inductive IrqReturn
  | none
  | handled
  deriving DecidableEq

/-- `struct pci_dev`: the device by its address, its legacy interrupt number, and its first BAR. -/
structure PciDev where
  address : Ptr
  irq : UInt32
  resourceStart : UInt64
  resourceLen : UInt64
  deriving DecidableEq

/-- The functions of the driver that it hands out pointers to. -/
inductive Func
  | dummyHandler
  | dummyIrqcontrol
  deriving DecidableEq

/-- `struct uio_info`: what the driver sets, `handler`, which it does not, and `uio_dev`, which
`uio_register_device` sets and `uio_unregister_device` reads. -/
structure UioInfo where
  name : String := ""
  version : String := ""
  memAddr : UInt64 := 0
  memSize : UInt64 := 0
  memMemtype : Int32 := 0
  irq : Int := 0
  irqFlags : UInt64 := 0
  handler : Option Func := none
  irqcontrol : Option Func := none
  uioDev : Option PciDev := none
  deriving DecidableEq

/-- `dummy_uio_info`, `mmio_base` and `dummy_irq`. -/
structure Globals where
  dummyUioInfo : UioInfo := {}
  mmioBase : Ptr := 0
  dummyIrq : Int32 := 0
  deriving DecidableEq

/-- The kernel functions the driver calls, and its read of `msix_entries[0].vector`. -/
inductive Call
  | pciEnableDevice (pdev : PciDev)
  | pciRequestRegions (pdev : PciDev)
  | pciIoremapBar (pdev : PciDev)
  | pciEnableMsixExact (pdev : PciDev)
  | msixVector (pdev : PciDev)
  | requestIrq (irq : UInt32) (handler : Func) (flags : UInt64)
  | uioRegisterDevice (pdev : PciDev) (info : UioInfo)
  | uioUnregisterDevice (info : UioInfo)
  | freeIrq (irq : UInt32)
  | iounmap (base : Ptr)
  | pciReleaseRegions (pdev : PciDev)
  | pciDisableDevice (pdev : PciDev)
  | pciDisableMsix (pdev : PciDev)
  | enableIrq (irq : UInt32)
  | disableIrq (irq : UInt32)

/-- What they return. -/
abbrev Resp : Call → Type
  | .pciEnableDevice _ | .pciRequestRegions _ | .pciEnableMsixExact _ | .requestIrq _ _ _
  | .uioRegisterDevice _ _ => Int
  | .pciIoremapBar _ => Ptr
  | .msixVector _ => UInt32
  | _ => Unit

abbrev kcall (e : Call) : Prog Call Resp (Resp e) := perform e

/-! ## Interrupts -/

/-- `dummy_irqcontrol`. -/
def dummyIrqcontrol (g : Globals) (irqOn : Int32) : Prog Call Resp Int := do
  if irqOn ≠ 0 then kcall (.enableIrq g.dummyIrq.toUInt32)
  else kcall (.disableIrq g.dummyIrq.toUInt32)
  return 0

/-- `dummy_handler`. -/
def dummyHandler : IrqReturn := .handled

/-! ## Probe and remove -/

/-- `err_disable_device:`. -/
def errDisableDevice (pdev : PciDev) (ret : Int) (g : Globals) : Prog Call Resp (Int × Globals) := do
  kcall (.pciDisableDevice pdev)
  return (ret, g)

/-- `err_release_regions:`. -/
def errReleaseRegions (pdev : PciDev) (ret : Int) (g : Globals) : Prog Call Resp (Int × Globals) := do
  kcall (.pciReleaseRegions pdev)
  errDisableDevice pdev ret g

/-- `err_iounmap:`. -/
def errIounmap (pdev : PciDev) (ret : Int) (g : Globals) : Prog Call Resp (Int × Globals) := do
  kcall (.iounmap g.mmioBase)
  errReleaseRegions pdev ret g

/-- `err_free_irq:`. -/
def errFreeIrq (pdev : PciDev) (ret : Int) (g : Globals) : Prog Call Resp (Int × Globals) := do
  kcall (.freeIrq g.dummyIrq.toUInt32)
  errIounmap pdev ret g

/-- `dummy_uio_info` as `dummy_probe` fills it in. -/
def fillUioInfo (pdev : PciDev) (g : Globals) : UioInfo :=
  { g.dummyUioInfo with
    name := driverName
    version := "1.0"
    memAddr := pdev.resourceStart
    memSize := pdev.resourceLen
    memMemtype := uioMemPhys
    irq := g.dummyIrq.toInt
    irqFlags := 0
    irqcontrol := some .dummyIrqcontrol }

/-- `dummy_probe` from `request_irq` on. -/
def dummyProbeIrq (pdev : PciDev) (g : Globals) : Prog Call Resp (Int × Globals) := do
  let ret ← kcall (.requestIrq g.dummyIrq.toUInt32 .dummyHandler 0)
  if ret ≠ 0 then errIounmap pdev ret g
  else do
    let g := { g with dummyUioInfo := fillUioInfo pdev g }
    let ret ← kcall (.uioRegisterDevice pdev g.dummyUioInfo)
    if ret ≠ 0 then
      errFreeIrq pdev ret { g with dummyUioInfo := { g.dummyUioInfo with uioDev := none } }
    else return (0, { g with dummyUioInfo := { g.dummyUioInfo with uioDev := some pdev } })

/-- `dummy_probe` from `pci_enable_msix_exact` on. -/
def dummyProbeMsix (pdev : PciDev) (g : Globals) : Prog Call Resp (Int × Globals) := do
  let ret ← kcall (.pciEnableMsixExact pdev)
  if ret ≠ 0 then dummyProbeIrq pdev { g with dummyIrq := pdev.irq.toInt32 }
  else do
    let vector ← kcall (.msixVector pdev)
    dummyProbeIrq pdev { g with dummyIrq := vector.toInt32 }

/-- `dummy_probe`. -/
def dummyProbe (pdev : PciDev) (g : Globals) : Prog Call Resp (Int × Globals) := do
  let ret ← kcall (.pciEnableDevice pdev)
  if ret ≠ 0 then return (ret, g)
  else do
    let ret ← kcall (.pciRequestRegions pdev)
    if ret ≠ 0 then errDisableDevice pdev ret g
    else do
      let mmioBase ← kcall (.pciIoremapBar pdev)
      let g := { g with mmioBase }
      if g.mmioBase = 0 then errReleaseRegions pdev (-enomem) g
      else dummyProbeMsix pdev g

/-- `dummy_remove`. -/
def dummyRemove (pdev : PciDev) (g : Globals) : Prog Call Resp Unit := do
  kcall (.uioUnregisterDevice g.dummyUioInfo)
  kcall (.freeIrq g.dummyIrq.toUInt32)
  kcall (.iounmap g.mmioBase)
  kcall (.pciReleaseRegions pdev)
  kcall (.pciDisableDevice pdev)
  kcall (.pciDisableMsix pdev)

/-! ## Answers -/

/-- What the fallible calls of a probe return, and the vector it reads. -/
structure Answers where
  pciEnableDevice : Int := 0
  pciRequestRegions : Int := 0
  pciIoremapBar : Ptr
  pciEnableMsixExact : Int := 0
  msixVector : UInt32 := 0
  requestIrq : Int := 0
  uioRegisterDevice : Int := 0

def Answers.answer (a : Answers) : (e : Call) → Resp e
  | .pciEnableDevice _ => a.pciEnableDevice
  | .pciRequestRegions _ => a.pciRequestRegions
  | .pciIoremapBar _ => a.pciIoremapBar
  | .pciEnableMsixExact _ => a.pciEnableMsixExact
  | .msixVector _ => a.msixVector
  | .requestIrq _ _ _ => a.requestIrq
  | .uioRegisterDevice _ _ => a.uioRegisterDevice
  | .uioUnregisterDevice _ | .freeIrq _ | .iounmap _ | .pciReleaseRegions _ | .pciDisableDevice _
  | .pciDisableMsix _ | .enableIrq _ | .disableIrq _ => ()

/-- The interrupt number the probe takes: the vector if there is one, or else the legacy number. -/
def Answers.irq (a : Answers) (pdev : PciDev) : UInt32 :=
  if a.pciEnableMsixExact = 0 then a.msixVector else pdev.irq

/-- Device `n`, with legacy interrupt `n`. -/
def demoDev (n : Nat) : PciDev := ⟨n, UInt32.ofNat n, 4096, 4096⟩

end ScullDrivers.Uio
