import Mathlib.Logic.Function.Basic
import ScullDrivers.Heap

/-!
# The `scull` character driver, `main.c` and `util.c`

`scull_init`, `scull_setup_cdev`, `scull_trim` and the file operations on explicit memory and the
driver's global variables.  The answers of the kernel in `scull_init` (`alloc_chrdev_region`, each
`kmalloc` with the contents of the block it returns, each `cdev_add`) are arguments.  `access_key` and
`sem` of `scull_dev` are left out: no function of the driver uses them, and neither does `printk`
change anything here.
-/

namespace ScullDrivers.Scull

open Heap

/-- `SCULL_QUANTUM_SIZE`. -/
def scullQuantumSize : Int32 := 4000

/-- `SCULL_QSET_SIZE`. -/
def scullQsetSize : Int32 := 1000

/-- `ENOMEM`. -/
def enomem : Int := 12

/-- `EFAULT`. -/
def efault : Int := 14

/-- `O_ACCMODE`. -/
def oAccmode : UInt32 := 3

/-- `O_WRONLY`. -/
def oWronly : UInt32 := 1

/-- `struct scull_qset`. -/
structure ScullQset where
  data : Ptr
  next : Ptr
  deriving DecidableEq

/-- `struct cdev`: what `cdev_init`, `scull_setup_cdev` and `cdev_add` set. -/
structure Cdev where
  ops : Ptr := 0
  owner : Ptr := 0
  dev : UInt32 := 0
  deriving DecidableEq

/-- `struct scull_dev`. -/
structure ScullDev where
  data : Ptr
  quantum : Int32
  qset : Int32
  size : UInt64
  cdev : Cdev
  deriving DecidableEq

/-- A live block by what it was allocated as: the driver's own, or one of the rest of the kernel. -/
inductive Block
  | dev (dev : ScullDev)
  | qset (qset : ScullQset)
  | array (entries : List Ptr)
  | quantum
  | foreign
  deriving DecidableEq

abbrev Mem := Memory Block

def loadDev (m : Mem) (p : Ptr) : Except Fault ScullDev := do
  match ← m.load p with
  | .dev dev => return dev
  | _ => throw (.wrongKind p)

def loadQset (m : Mem) (p : Ptr) : Except Fault ScullQset := do
  match ← m.load p with
  | .qset qset => return qset
  | _ => throw (.wrongKind p)

/-- `p[i]` of an array of pointers. -/
def loadEntry (m : Mem) (p : Ptr) (i : Nat) : Except Fault Ptr := do
  match ← m.load p with
  | .array entries =>
      match entries[i]? with
      | some entry => return entry
      | none => throw (.index p i)
  | _ => throw (.wrongKind p)

/-! ## `util.c` -/

/-- The inner loop of `scull_trim`, from entry `i` on; `left` is `qset - i`. -/
def freeQuanta (dptr : Ptr) : (left i : Nat) → Mem → Except Fault Mem
  | 0, _, m => .ok m
  | left + 1, i, m => do
      let node ← loadQset m dptr
      let quantum ← loadEntry m node.data i
      let m ← m.kfree quantum
      freeQuanta dptr left (i + 1) m

/-- The body of the outer loop of `scull_trim`, and the `next` it leaves. -/
def scullTrimBody (qset : Nat) (dptr : Ptr) (m : Mem) : Except Fault (Ptr × Mem) := do
  let node ← loadQset m dptr
  let m ← if node.data ≠ 0 then do
      let m ← freeQuanta dptr qset 0 m
      let node ← loadQset m dptr
      let m ← m.kfree node.data
      let node ← loadQset m dptr
      m.store dptr (.qset { node with data := 0 })
    else pure m
  let node ← loadQset m dptr
  let m ← m.kfree dptr
  return (node.next, m)

/-- The outer loop of `scull_trim`. -/
def scullTrimLoop (qset : Nat) : (fuel : Nat) → (dptr : Ptr) → Mem → Except Fault Mem
  | 0, _, _ => .error .diverges
  | fuel + 1, dptr, m =>
      if dptr = 0 then .ok m
      else do
        let (next, m) ← scullTrimBody qset dptr m
        scullTrimLoop qset fuel next m

/-- `scull_trim`.  Every iteration of the loop frees a block, so there are no more of them than live
blocks (`scullTrim_ne_diverges`). -/
def scullTrim (dev : Ptr) (m : Mem) : Except Fault (Int × Mem) := do
  let d ← loadDev m dev
  let m ← scullTrimLoop d.qset.toInt.toNat (m.size + 1) d.data m
  let d ← loadDev m dev
  let m ← m.store dev (.dev { d with
    size := 0, quantum := scullQuantumSize, qset := scullQsetSize, data := 0 })
  return (0, m)

/-! ## `main.c`: loading the module -/

/-- `MKDEV`. -/
def mkdev (major minor : UInt32) : UInt32 := major <<< 20 ||| minor

/-- `MAJOR`. -/
def major (dev : UInt32) : UInt32 := dev >>> 20

/-- `MINOR`. -/
def minor (dev : UInt32) : UInt32 := dev &&& 0xfffff

/-- `BASE_MINOR`, `NUM_DEVICES`, and the addresses of `scull_fops` and of the module. -/
structure Params where
  baseMinor : Nat := 0
  numDevices : Nat := 4
  scullFops : Ptr
  thisModule : Ptr

/-- What the driver hands back to the kernel besides memory: `unregister_chrdev_region` of the numbers
from `dev` on, and `cdev_del` of the `cdev` of a device. -/
inductive Release
  | region (dev : UInt32) (count : Nat)
  | cdev (dev : Ptr)
  deriving DecidableEq

/-- Memory, the global variables of the driver, the region of device numbers it holds, the `cdev`s it
has registered by device number, and what it has released so far. -/
structure State where
  memory : Mem
  devno : UInt32 := 0
  scullDevices : Nat → Ptr := fun _ => 0
  region : Option (UInt32 × Nat) := none
  cdevs : List (UInt32 × Ptr) := []
  released : List Release := []

/-- What the kernel answers in `scull_init`: the result of `alloc_chrdev_region` and the major number
it picks, the block of the `i`-th `kmalloc` with what is in it, and the result of the `i`-th
`cdev_add`. -/
structure Answers where
  region : Int × UInt32
  kmalloc : Nat → Ptr × ScullDev
  cdevAdd : Nat → Int

/-- `cdev_add`, which registers the `cdev` of the device unless it fails. -/
def cdevAdd (dev : Ptr) (devno : UInt32) (result : Int) (s : State) : Except Fault State := do
  let d ← loadDev s.memory dev
  let memory ← s.memory.store dev (.dev { d with cdev := { d.cdev with dev := devno } })
  let cdevs := if result = 0 then s.cdevs ++ [(devno, dev)] else s.cdevs
  return { s with memory, cdevs }

/-- `cdev_del`. -/
def cdevDel (dev : Ptr) (s : State) : Except Fault State := do
  let d ← loadDev s.memory dev
  return { s with
    cdevs := s.cdevs.erase (d.cdev.dev, dev), released := s.released ++ [.cdev dev] }

/-- `scull_setup_cdev`. -/
def scullSetupCdev (P : Params) (dev : Ptr) (index : Nat) (result : Int) (s : State) :
    Except Fault State := do
  let devnoSp := mkdev (major s.devno) (UInt32.ofNat (index + P.baseMinor))
  let d ← loadDev s.memory dev
  let memory ← s.memory.store dev (.dev { d with cdev := { ops := P.scullFops } })
  let d ← loadDev memory dev
  let memory ← memory.store dev (.dev { d with cdev := { d.cdev with owner := P.thisModule } })
  -- the result of `cdev_add` is only printed
  cdevAdd dev devnoSp result { s with memory }

/-- The loop at `fail:` in `scull_init`, from device `i` on. -/
def scullInitFailLoop : (left i : Nat) → State → Except Fault State
  | 0, _, s => .ok s
  | left + 1, i, s =>
      if s.scullDevices i ≠ 0 then do
        let s ← cdevDel (s.scullDevices i) s
        let memory ← s.memory.kfree (s.scullDevices i)
        scullInitFailLoop left (i + 1) { s with memory }
      else scullInitFailLoop left (i + 1) s

/-- `unregister_chrdev_region`. -/
def unregisterChrdevRegion (dev : UInt32) (count : Nat) (s : State) : State :=
  { s with region := none, released := s.released ++ [.region dev count] }

/-- `fail:` in `scull_init`. -/
def scullInitFail (P : Params) (s : State) : Except Fault (Int × State) := do
  let s ← scullInitFailLoop P.numDevices 0 s
  return (-enomem, unregisterChrdevRegion s.devno P.numDevices s)

/-- The loop of `scull_init`, from device `i` on. -/
def scullInitLoop (P : Params) (a : Answers) : (left i : Nat) → State → Except Fault (Int × State)
  | 0, _, s => .ok (0, s)
  | left + 1, i, s => do
      let (p, contents) := a.kmalloc i
      let s := { s with scullDevices := Function.update s.scullDevices i p }
      if p = 0 then scullInitFail P s
      else
        let s := { s with memory := s.memory.write p (.dev contents) }
        let s ← scullSetupCdev P p (i + P.baseMinor) (a.cdevAdd i) s
        scullInitLoop P a left (i + 1) s

/-- `scull_init`. -/
def scullInit (P : Params) (a : Answers) (s : State) : Except Fault (Int × State) :=
  let (result, major) := a.region
  if result ≠ 0 then .ok (result, s)
  else
    let devno := mkdev major (UInt32.ofNat P.baseMinor)
    scullInitLoop P a P.numDevices 0 { s with devno, region := some (devno, P.numDevices) }

/-! ## `main.c`: unloading the module -/

/-- The loop of `scull_exit`, the same as the one at `fail:` in `scull_init`. -/
def scullExitLoop : (left i : Nat) → State → Except Fault State := scullInitFailLoop

/-- `scull_exit`, which gives the region back before the devices in it. -/
def scullExit (P : Params) (s : State) : Except Fault State :=
  scullExitLoop P.numDevices 0 (unregisterChrdevRegion s.devno P.numDevices s)

/-! ## `main.c`: file operations -/

/-- `struct file`. -/
structure File where
  fFlags : UInt32
  privateData : Ptr := 0

/-- `scull_open` on the device whose `cdev` the inode names. -/
def scullOpen (dev : Ptr) (filp : File) (s : State) : Except Fault (Int × File × State) := do
  let filp := { filp with privateData := dev }
  if filp.fFlags &&& oAccmode = oWronly then
    let (_, memory) ← scullTrim dev s.memory
    return (0, filp, { s with memory })
  else return (0, filp, s)

/-- `scull_release`. -/
def scullRelease : Int := 0

/-- The string of `scull_read`, with its terminator. -/
def funnyThingToPrint : List UInt8 :=
  ("Something funny haha\n".toList.map fun c => UInt8.ofNat c.toNat) ++ [0]

/-- `scull_read`, where `copy_to_user` leaves `notCopied` bytes uncopied: the result, the bytes that
reach the user's buffer, and `*f_pos`. -/
def scullRead (_count notCopied : Nat) (fPos : Int) : Int × List UInt8 × Int :=
  let len := funnyThingToPrint.length
  let written := funnyThingToPrint.take (len - notCopied)
  if notCopied ≠ 0 then (-efault, written, fPos) else (len, written, fPos)

/-- `scull_write`. -/
def scullWrite (_count : Nat) : Int := 0

end ScullDrivers.Scull
