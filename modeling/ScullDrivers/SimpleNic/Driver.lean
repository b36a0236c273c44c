import Mathlib.Data.Stream.Init
import ScullDrivers.Resources.Module

/-!
# The simple network driver, `network/simple_nic.c`

Its functions as programs of kernel calls, and the module on the bus.  A device has nothing but its
`net_device`, so the books of a run say who may touch one when: they are kept over every order of loads,
probes, removes and unloads, whatever the kernel answers (`module_books`).
-/

namespace ScullDrivers.SimpleNic

open Interaction Resources

/-! ## The driver -/

/-- An address; `0` is `NULL`. -/
abbrev Ptr := Nat

/-- An `sk_buff`. -/
abbrev SkBuff := Nat

/-- `ENOMEM`. -/
def enomem : Int := 12

/-- `NETDEV_TX_OK`. -/
def netdevTxOk : Int := 0

/-- What the driver calls, with the steps of `unregister_netdev`. -/
inductive Call
  | allocEtherdev
  | setNetdevOps (dev : Ptr)
  | pciSetDrvdata (dev : Ptr)
  | pciGetDrvdata
  | registerNetdev (dev : Ptr)
  | rtnlLock
  | netifRunning (dev : Ptr)
  | unlistNetdevice (dev : Ptr)
  | rtnlUnlock
  | freeNetdev (dev : Ptr)
  | netifStartQueue (dev : Ptr)
  | netifStopQueue (dev : Ptr)
  | devKfreeSkb (skb : SkBuff)
  deriving DecidableEq

/-- The answer to a call: an address, an error number, a flag. -/
abbrev Resp : Call → Type
  | .allocEtherdev | .pciGetDrvdata => Ptr
  | .registerNetdev _ => Int
  | .netifRunning _ => Bool
  | _ => Unit

/-- Make one call. -/
abbrev kcall (e : Call) : Prog Call Resp (Resp e) := perform e

/-- A function of the driver that returns an `int`. -/
abbrev Code := Prog Call Resp Int

/-- `mynic_open`. -/
def mynicOpen (dev : Ptr) : Code := do
  kcall (.netifStartQueue dev)
  return 0

/-- `mynic_stop`. -/
def mynicStop (dev : Ptr) : Code := do
  kcall (.netifStopQueue dev)
  return 0

/-- `mynic_xmit`. -/
def mynicXmit (skb : SkBuff) (_dev : Ptr) : Code := do
  kcall (.devKfreeSkb skb)
  return netdevTxOk

/-- `mynic_probe`. -/
def mynicProbe : Code := do
  let dev ← kcall .allocEtherdev
  if dev = 0 then return -enomem
  else do
    kcall (.setNetdevOps dev)
    kcall (.pciSetDrvdata dev)
    let err ← kcall (.registerNetdev dev)
    if err ≠ 0 then do
      kcall (.freeNetdev dev)
      return err
    else return 0

/-- `if (dev is up) ndo_stop(dev)`, as `unregister_netdev` does it. -/
def stopIfRunning (dev : Ptr) (running : Bool) : Prog Call Resp Unit :=
  if running then do
    let _ ← mynicStop dev
    return ()
  else return ()

/-- The kernel's `unregister_netdev`: under the rtnl lock it stops the interface if it is up and takes it
off the list of devices. -/
def unregisterNetdev (dev : Ptr) : Prog Call Resp Unit := do
  kcall .rtnlLock
  let running ← kcall (.netifRunning dev)
  stopIfRunning dev running
  kcall (.unlistNetdevice dev)
  kcall .rtnlUnlock

/-- `mynic_remove`. -/
def mynicRemove : Code := do
  let dev ← kcall .pciGetDrvdata
  unregisterNetdev dev
  kcall (.freeNetdev dev)
  return 0

/-- The init and the exit that `module_pci_driver` makes. -/
def mynicModule (γ : Type) : Module γ where
  init := perform BusCall.register
  exit := perform BusCall.unregister
  fresh := id

theorem mynicModule_plain {γ : Type} : (mynicModule γ).Plain := ⟨rfl, rfl⟩

/-! ## What a device holds -/

/-- A PCI device that matches the table of the driver, by its address on the bus. -/
abbrev PciDev := Nat

/-- What is held for a device: its `net_device`, and that being registered.  `touch` is held by a call
while it reads or writes the `net_device`. -/
inductive Resource
  | netDevice (pdev : PciDev) (dev : Ptr)
  | registration (pdev : PciDev) (dev : Ptr)
  | touch (pdev : PciDev) (dev : Ptr)
  deriving DecidableEq

/-- The interface and the calls that touch the `net_device` use it. -/
def uses : Resource → Resource → Prop
  | .registration pdev dev, r | .touch pdev dev, r => r = .netDevice pdev dev
  | .netDevice _ _, _ => False

/-- What a call does for a device. -/
def events (pdev : PciDev) : (e : Call) → Resp e → List (Event Resource)
  | .allocEtherdev, dev => if dev = 0 then [] else [.acquire (.netDevice pdev dev)]
  | .setNetdevOps dev, _ | .netifRunning dev, _ | .netifStartQueue dev, _ | .netifStopQueue dev, _ =>
      during (.touch pdev dev)
  | .registerNetdev dev, err =>
      during (.touch pdev dev) ++ if err = 0 then [.acquire (.registration pdev dev)] else []
  | .unlistNetdevice dev, _ => during (.touch pdev dev) ++ [.release (.registration pdev dev)]
  | .freeNetdev dev, _ => [.release (.netDevice pdev dev)]
  | .pciSetDrvdata _, _ | .pciGetDrvdata, _ | .rtnlLock, _ | .rtnlUnlock, _ | .devKfreeSkb _, _ => []

/-! ## The driver on the bus -/

/-- What the kernel answers to the calls of one probe or remove.  `netifRunning` is whether the interface
is up when it is unregistered. -/
structure Answers where
  allocEtherdev : Ptr
  registerNetdev : Int
  netifRunning : Bool

/-- What a call finds: what `pci_set_drvdata` stored for the device, and the events so far. -/
structure Noted where
  log : List (Event Resource) := []
  drvdata : Ptr := 0

def Answers.answer (a : Answers) (s : Noted) : (e : Call) → Resp e
  | .allocEtherdev => a.allocEtherdev
  | .registerNetdev _ => a.registerNetdev
  | .netifRunning _ => a.netifRunning
  | .pciGetDrvdata => s.drvdata
  | .setNetdevOps _ | .pciSetDrvdata _ | .rtnlLock | .unlistNetdevice _ | .rtnlUnlock | .freeNetdev _
  | .netifStartQueue _ | .netifStopQueue _ | .devKfreeSkb _ => ()

/-- The surroundings of a call for the device. -/
def surroundings (pdev : PciDev) (a : Answers) : Handler Call Resp Noted := fun e s =>
  let r := a.answer s e
  let drvdata := match e with
    | .pciSetDrvdata dev => dev
    | _ => s.drvdata
  (r, { log := s.log ++ events pdev e r, drvdata })

/-- The driver on the bus.  Each call takes its answers from a tape. -/
def driver : Driver PciDev (Stream' Answers) Ptr Unit Resource where
  probe pdev _ tape :=
    let (ret, s) := mynicProbe.eval (surroundings pdev tape.head) {}
    (if ret = 0 then some s.drvdata else none, tape.tail, s.log)
  remove pdev drvdata tape :=
    let (_, s) := mynicRemove.eval (surroundings pdev tape.head) { drvdata }
    (tape.tail, s.log)

/-- What a bound device holds. -/
def full (pdev : PciDev) (dev : Ptr) : Multiset Resource :=
  {.registration pdev dev, .netDevice pdev dev}

section

variable {pdev : PciDev} {a : Answers} {tape : Stream' Answers} {dev : Ptr}

attribute [local simp] surroundings Answers.answer events

/-- The outcomes of `mynic_probe`, in the order in which it can fail. -/
theorem probe_eq : driver.probe pdev () (.cons a tape) =
    if a.allocEtherdev = 0 then (none, tape, [])
    else
      let begun := .acquire (.netDevice pdev a.allocEtherdev) ::
        (during (.touch pdev a.allocEtherdev) ++ during (.touch pdev a.allocEtherdev))
      if a.registerNetdev ≠ 0 then
        (none, tape, begun ++ [.release (.netDevice pdev a.allocEtherdev)])
      else
        (some a.allocEtherdev, tape, begun ++ [.acquire (.registration pdev a.allocEtherdev)]) := by
  rcases eq_or_ne a.allocEtherdev 0 with none | allocated
  · simp [driver, mynicProbe, none, enomem]
  · rcases eq_or_ne a.registerNetdev 0 with registered | failed
    · simp [driver, mynicProbe, allocated, registered]
    · simp [driver, mynicProbe, allocated, failed]

/-- What `mynic_remove` does. -/
theorem remove_eq : driver.remove pdev dev (.cons a tape) = (tape,
    during (.touch pdev dev) ++ ((if a.netifRunning then during (.touch pdev dev) else []) ++
      (during (.touch pdev dev) ++ [.release (.registration pdev dev),
        .release (.netDevice pdev dev)]))) := by
  cases running : a.netifRunning with
  | false => simp [driver, mynicRemove, unregisterNetdev, stopIfRunning, running]
  | true => simp [driver, mynicRemove, unregisterNetdev, stopIfRunning, mynicStop, running]

/-- A call may touch the `net_device` its device has. -/
theorem staysBacked_touch {es : List (Event Resource)} {held : Multiset Resource}
    (mem : .netDevice pdev dev ∈ held) :
    StaysBacked uses (during (.touch pdev dev) ++ es) held ↔ StaysBacked uses es held := by
  refine staysBacked_during fun r used => ?_
  have base : r = .netDevice pdev dev := used
  exact base ▸ mem

/-- A probe leaves nothing held when it fails and all it should when it does not. -/
theorem probe_books {k : Option Ptr} {tape' : Stream' Answers} {es : List (Event Resource)}
    (ran : driver.probe pdev () (.cons a tape) = (k, tape', es)) :
    replay es 0 = some (k.elim 0 (full pdev)) ∧ StaysBacked uses es 0 := by
  have mem : Resource.netDevice pdev a.allocEtherdev ∈
      ({.netDevice pdev a.allocEtherdev} : Multiset Resource) := Multiset.mem_singleton_self _
  rw [probe_eq] at ran
  split_ifs at ran with none failed
  · cases ran
    simp [Backed]
  · cases ran
    simp only [List.cons_append, List.append_assoc, replay_acquire, replay_during, staysBacked_acquire,
      Multiset.cons_zero, staysBacked_touch mem]
    simp [Backed, uses]
  · cases ran
    simp only [List.cons_append, List.append_assoc, replay_acquire, replay_during, staysBacked_acquire,
      Multiset.cons_zero, staysBacked_touch mem]
    simp [full, Backed, uses]

theorem remove_books {tape' : Stream' Answers} {es : List (Event Resource)}
    (ran : driver.remove pdev dev (.cons a tape) = (tape', es)) :
    replay es (full pdev dev) = some 0 ∧ StaysBacked uses es (full pdev dev) := by
  have mem : Resource.netDevice pdev dev ∈ full pdev dev := by simp [full]
  rw [remove_eq] at ran
  cases ran
  cases a.netifRunning with
  | false =>
      simp only [Bool.false_eq_true, if_false, List.nil_append, replay_during, staysBacked_touch mem]
      simp [full, Backed, uses]
  | true =>
      simp only [if_true, replay_during, staysBacked_touch mem]
      simp [full, Backed, uses]

theorem driver_exacting : driver.Exacting full uses where
  refuse := by
    intro pdev _ tape tape' es ran
    rw [← Stream'.eta tape] at ran
    exact probe_books ran
  bind := by
    intro pdev _ tape dev tape' es ran
    rw [← Stream'.eta tape] at ran
    exact probe_books ran
  remove := by
    intro pdev dev tape tape' es ran
    rw [← Stream'.eta tape] at ran
    exact remove_books ran

/-- The module, what the kernel has still to answer, and the devices with what is kept for each. -/
abbrev Life := Hosted PciDev (Stream' Answers) Ptr Resource

/-- **The life of the module.**  In every run of loads, probes, removes and unloads, whatever the kernel
answers: a device is bound only while the module is there, exactly the bound devices have a `net_device`,
registered and not freed, and none was touched without being there.  From every state the module can be
unloaded, and then all that was ever obtained is given back. -/
theorem module_books {own : PciDev → Ptr} {past : List (Life × HostRequest PciDev Unit)} {life : Life}
    (run : Run (driver.HostStep (mynicModule _)) (.start tape own) past life) :
    Always (Hosted.Books full uses) past life ∧
      ∃ past' life', Run (driver.HostStep (mynicModule _)) life past' life' ∧
        life'.phase = .absent ∧ NetZero life'.binding.log := by
  have books := driver_exacting.hosted mynicModule_plain books_start run
  exact ⟨books, driver_exacting.unloads mynicModule_plain books.2⟩

end

/-- A kernel that grants everything, with the interface up when it is unregistered. -/
def grantAll (dev : Ptr) : Answers := ⟨dev, 0, true⟩

/-- One device is bound, another one is refused, and the module is asked to leave. -/
def demoTape : Stream' Answers :=
  .cons (grantAll 16) (.cons { grantAll 32 with registerNetdev := -12 } (.const (grantAll 0)))

theorem module_books_two : ∃ past life,
    Run (driver.HostStep (mynicModule _)) (.start demoTape fun _ => 0) past life ∧
      past.map Prod.snd = [.load, .bus (.probe 1 ()), .bus (.probe 2 ()), .unload] ∧
      life.binding.bound = {1} ∧ Always (Hosted.Books full uses) past life ∧
      ∃ past' life', Run (driver.HostStep (mynicModule _)) life past' life' ∧
        life'.phase = .absent ∧ NetZero life'.binding.log := by
  have load : driver.HostStep (mynicModule _) (.start demoTape fun _ => 0) .load _ :=
    .load rfl ⟨(0 : Int), _, rfl, rfl, rfl⟩
  have loaded := Run.nil.snoc load
  have first := loaded.snoc (.bus rfl (fun leaving => nomatch leaving)
    (.bind (d := 1) (a := ()) (Finset.notMem_empty 1) rfl))
  have second := first.snoc (.bus rfl (fun leaving => nomatch leaving)
    (.refuse (d := 2) (a := ()) (by decide) rfl))
  have leaving := second.snoc (.unload rfl)
  exact ⟨_, _, leaving, rfl, rfl, module_books leaving⟩

end ScullDrivers.SimpleNic
