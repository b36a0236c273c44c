import ScullDrivers.Interaction.Program

/-!
# The DMA buffer driver, `dma_user/simple_dma_module.c`

`simple_dma_init`, `simple_dma_exit` and `simple_dma_mmap` as programs over the kernel functions they
call, with the globals of the module passed along.  Pointers are the 64-bit values they are, as the error
path of `simple_dma_init` cuts one down to an `int`.  The two branches of the `#if` about the `class_create`
of a kernel version make the same call, and those about a missing device only print.
-/

namespace ScullDrivers.SimpleDma

open Interaction

/-! ## Constants and data -/

/-- `EINVAL`. -/
def einval : Int32 := 22

/-- `DMA_BUFFER_SIZE`. -/
def dmaBufferSize (pageSize : UInt64) : UInt64 := 4 * pageSize

/-- `IS_ERR`: the pointer is one of the last `MAX_ERRNO` values. -/
def isErr (p : UInt64) : Bool := decide (0xFFFFFFFFFFFFF001 ≤ p)

/-- `PTR_ERR`. -/
def ptrErr (p : UInt64) : Int64 := p.toInt64

/-- `simple_dma_dev_t`, `simple_dma_class`, `dma_buffer_virt`, `dma_buffer_phys` and `dma_device`. -/
structure Globals where
  simpleDmaDevT : UInt32 := 0
  simpleDmaClass : UInt64 := 0
  dmaBufferVirt : UInt64 := 0
  dmaBufferPhys : UInt64 := 0
  dmaDevice : UInt64 := 0
  deriving DecidableEq

/-- `struct vm_area_struct`. -/
structure VmAreaStruct where
  vmStart : UInt64
  vmEnd : UInt64
  vmPgoff : UInt64

/-- The kernel functions the driver calls.  `simple_dma_cdev` is the only object of its kind. -/
inductive Call
  | allocChrdevRegion (baseminor count : UInt32)
  | classCreate
  | classFindDevice (cls : UInt64)
  | dmaAllocCoherent (dev size : UInt64)
  | memset (p : UInt64) (c : UInt8) (n : UInt64)
  | cdevInit
  | cdevAdd (dev count : UInt32)
  | deviceCreate (cls : UInt64) (devt : UInt32)
  | cdevDel
  | classDestroy (cls : UInt64)
  | unregisterChrdevRegion (dev count : UInt32)
  | deviceDestroy (cls : UInt64) (devt : UInt32)
  | dmaFreeCoherent (dev size virt phys : UInt64)
  | dmaMmapCoherent (dev : UInt64) (vma : VmAreaStruct) (virt phys size : UInt64)

/-- What they return: an error number, with the device number that was allocated; a pointer, with the
bus address of the buffer. -/
abbrev Resp : Call → Type
  | .allocChrdevRegion _ _ => Int32 × UInt32
  | .dmaAllocCoherent _ _ => UInt64 × UInt64
  | .classCreate | .classFindDevice _ | .deviceCreate _ _ => UInt64
  | .cdevAdd _ _ | .dmaMmapCoherent _ _ _ _ _ => Int32
  | _ => Unit

abbrev kcall (e : Call) : Prog Call Resp (Resp e) := perform e

/-! ## Loading and unloading -/

/-- The `return` statement that `simple_dma_init` ends at: the one at its end, or one that returns an
error number. -/
inductive Return
  | done
  | error (ret : Int32)
  deriving DecidableEq

/-- The `int` it returns. -/
def Return.value : Return → Int32
  | .done => 0
  | .error ret => ret

/-- A function with an error path, on the globals of the module. -/
abbrev Code := Prog Call Resp (Return × Globals)

/-- `unregister_chrdev:`. -/
def unregisterChrdev (ret : Int32) (g : Globals) : Code := do
  kcall (.unregisterChrdevRegion g.simpleDmaDevT 1)
  return (.error ret, g)

/-- `destroy_class:`. -/
def destroyClass (ret : Int32) (g : Globals) : Code := do
  kcall (.classDestroy g.simpleDmaClass)
  unregisterChrdev ret g

/-- `del_cdev:`. -/
def delCdev (ret : Int32) (g : Globals) : Code := do
  kcall .cdevDel
  destroyClass ret g

/-- `simple_dma_init` from the character device on.  When `device_create` fails it returns the pointer
to the class, not the error. -/
def simpleDmaInitCdev (g : Globals) : Code := do
  kcall .cdevInit
  let ret ← kcall (.cdevAdd g.simpleDmaDevT 1)
  if ret < 0 then destroyClass ret g
  else do
    let node ← kcall (.deviceCreate g.simpleDmaClass g.simpleDmaDevT)
    if isErr node then delCdev (ptrErr g.simpleDmaClass).toInt32 g
    else return (.done, g)

/-- `if (dma_device)` in `simple_dma_init`. -/
def simpleDmaInitBuffer (pageSize : UInt64) (g : Globals) : Prog Call Resp Globals := do
  if g.dmaDevice ≠ 0 then do
    let (dmaBufferVirt, dmaBufferPhys) ←
      kcall (.dmaAllocCoherent g.dmaDevice (dmaBufferSize pageSize))
    let g := { g with dmaBufferVirt, dmaBufferPhys }
    if g.dmaBufferVirt = 0 then return g
    else do
      kcall (.memset g.dmaBufferVirt 0 (dmaBufferSize pageSize))
      return g
  else return g

/-- `simple_dma_init`. -/
def simpleDmaInit (pageSize : UInt64) (g : Globals) : Code := do
  let (ret, simpleDmaDevT) ← kcall (.allocChrdevRegion 0 1)
  if ret < 0 then return (.error ret, g)
  else do
    let g := { g with simpleDmaDevT }
    let simpleDmaClass ← kcall .classCreate
    let g := { g with simpleDmaClass }
    if isErr g.simpleDmaClass then unregisterChrdev (ptrErr g.simpleDmaClass).toInt32 g
    else do
      let dmaDevice ← kcall (.classFindDevice g.simpleDmaClass)
      let g ← simpleDmaInitBuffer pageSize { g with dmaDevice }
      simpleDmaInitCdev g

/-- `simple_dma_exit`. -/
def simpleDmaExit (pageSize : UInt64) (g : Globals) : Prog Call Resp Unit := do
  kcall (.deviceDestroy g.simpleDmaClass g.simpleDmaDevT)
  kcall .cdevDel
  kcall (.classDestroy g.simpleDmaClass)
  kcall (.unregisterChrdevRegion g.simpleDmaDevT 1)
  if g.dmaBufferVirt ≠ 0 ∧ g.dmaDevice ≠ 0 then
    kcall (.dmaFreeCoherent g.dmaDevice (dmaBufferSize pageSize) g.dmaBufferVirt g.dmaBufferPhys)
  else if g.dmaBufferVirt ≠ 0 then
    kcall (.dmaFreeCoherent 0 (dmaBufferSize pageSize) g.dmaBufferVirt g.dmaBufferPhys)
  else return ()

/-! ## Mapping the buffer -/

/-- `simple_dma_mmap`. -/
def simpleDmaMmap (pageSize : UInt64) (g : Globals) (vma : VmAreaStruct) :
    Prog Call Resp Int32 := do
  let size := vma.vmEnd - vma.vmStart
  if dmaBufferSize pageSize < size then return -einval
  else if vma.vmPgoff ≠ 0 then return -einval
  else do
    let ret ← kcall (.dmaMmapCoherent g.dmaDevice vma g.dmaBufferVirt g.dmaBufferPhys size)
    if ret < 0 then return ret
    else return 0

/-! ## Answers -/

/-- What the calls of `simple_dma_init` and `simple_dma_mmap` return. -/
structure Answers where
  allocChrdevRegion : Int32 × UInt32
  classCreate : UInt64
  classFindDevice : UInt64
  dmaAllocCoherent : UInt64 × UInt64
  cdevAdd : Int32
  deviceCreate : UInt64
  dmaMmapCoherent : Int32 := 0

def Answers.answer (a : Answers) : (e : Call) → Resp e
  | .allocChrdevRegion _ _ => a.allocChrdevRegion
  | .classCreate => a.classCreate
  | .classFindDevice _ => a.classFindDevice
  | .dmaAllocCoherent _ _ => a.dmaAllocCoherent
  | .cdevAdd _ _ => a.cdevAdd
  | .deviceCreate _ _ => a.deviceCreate
  | .dmaMmapCoherent _ _ _ _ _ => a.dmaMmapCoherent
  | .memset _ _ _ | .cdevInit | .cdevDel | .classDestroy _ | .unregisterChrdevRegion _ _
  | .deviceDestroy _ _ | .dmaFreeCoherent _ _ _ _ => ()

end ScullDrivers.SimpleDma
