import Mathlib.Data.Stream.Init
import ScullDrivers.Nic.Driver
import ScullDrivers.Resources.Module

/-!
# The PCIe network driver: probe and remove

What `mynic_probe` obtains and `mynic_remove` gives back, for any number of devices, whatever the kernel
answers at each call and whether or not the interface is up when it is unregistered.  `struct mynic_priv`
lies in the `net_device`, so a function that touches it needs the `net_device` at that moment, and so do
the interface while it is registered, the interrupt handler and the NAPI context.  The books are kept
throughout every run (`always_booksKept`), and over loads and unloads of the module
(`life_booksKept`).
-/

namespace ScullDrivers.Nic

open Interaction Resources

/-! ## What a device holds -/

/-- A PCI device that matches the table of the driver, by its address on the bus. -/
abbrev PciDev := Nat

/-- What is held for a device: it is enabled, its region is its own, its registers are mapped, it has a
`net_device`, which is registered, its handler is on the interrupt line and its NAPI context is added.
`priv` is held by a call while it touches the private data of the `net_device`. -/
inductive Resource
  | device (pdev : PciDev)
  | region (pdev : PciDev)
  | mapping (pdev : PciDev) (mmio : Ptr)
  | netDevice (pdev : PciDev) (netdev : Ptr)
  | registration (pdev : PciDev) (netdev : Ptr)
  | handler (pdev : PciDev) (netdev : Ptr)
  | napi (pdev : PciDev) (netdev : Ptr)
  | priv (pdev : PciDev) (netdev : Ptr)
  deriving DecidableEq

/-- The device it is held for. -/
def Resource.owner : Resource → PciDev
  | .device pdev | .region pdev | .mapping pdev _ | .netDevice pdev _ | .registration pdev _
  | .handler pdev _ | .napi pdev _ | .priv pdev _ => pdev

/-- The functions of the interface, the handler, the poll function and the calls that touch the private
data use the `net_device` it lies in. -/
def uses : Resource → Resource → Prop
  | .registration pdev netdev, r | .handler pdev netdev, r | .napi pdev netdev, r
  | .priv pdev netdev, r => r = .netDevice pdev netdev
  | .device _, _ | .region _, _ | .mapping _ _, _ | .netDevice _ _, _ => False

/-- The call, or the line that makes it, reads or writes the `net_device` or the private data in it: the
mappings are for `priv->pdev`, the `sk_buff` of a received frame for `priv->netdev`. -/
def Call.inNetdev : Call → Bool
  | .storeMmio _ | .loadMmio | .spinLockInit | .registerNetdev _ | .unlistNetdevice _
  | .netifNapiAdd _ | .netifNapiDel | .netifRunning | .napiEnable | .napiDisable | .netifStartQueue
  | .netifStopQueue | .netifWakeQueue | .writelControl _ | .spinLock | .spinUnlock | .loadTxHead
  | .storeTxHead _ | .loadTxTail | .storeTxTail _ | .loadTxSkbuff _ | .storeTxSkbuff _ _ | .writelTx _
  | .readlIntrStatus | .writelIntrStatus _ | .napiSchedule | .napiCompleteDone _ | .dmaMapSingle _ _
  | .dmaUnmapSingle _ _ | .netdevAllocSkbIpAlign _ | .netifReceiveSkb _ => true
  | .pciEnableDevice | .pciRequestRegion | .pciIomap | .allocEtherdev | .pciSetDrvdata _
  | .pciGetDrvdata | .requestIrq _ | .freeIrq _ | .freeNetdev _ | .pciIounmap _ | .pciReleaseRegion
  | .pciDisableDevice | .rtnlLock | .rtnlUnlock | .packetsSent | .devKfreeSkbIrq _ | .packetsAvailable
  | .rxDescriptor => false

/-- What a call obtains or gives back for the device whose `net_device` is at `netdev`. -/
def moves (pdev : PciDev) (netdev : Ptr) : (e : Call) → Resp e → List (Event Resource)
  | .pciEnableDevice, err => if err = 0 then [.acquire (.device pdev)] else []
  | .pciRequestRegion, err => if err = 0 then [.acquire (.region pdev)] else []
  | .pciIomap, mmio => if mmio = 0 then [] else [.acquire (.mapping pdev mmio)]
  | .allocEtherdev, p => if p = 0 then [] else [.acquire (.netDevice pdev p)]
  | .registerNetdev p, err => if err = 0 then [.acquire (.registration pdev p)] else []
  | .requestIrq p, err => if err = 0 then [.acquire (.handler pdev p)] else []
  | .netifNapiAdd p, _ => [.acquire (.napi pdev p)]
  | .netifNapiDel, _ => [.release (.napi pdev netdev)]
  | .freeIrq p, _ => [.release (.handler pdev p)]
  | .unlistNetdevice p, _ => [.release (.registration pdev p)]
  | .freeNetdev p, _ => [.release (.netDevice pdev p)]
  | .pciIounmap mmio, _ => [.release (.mapping pdev mmio)]
  | .pciReleaseRegion, _ => [.release (.region pdev)]
  | .pciDisableDevice, _ => [.release (.device pdev)]
  | _, _ => []

/-- What a call does, its use of the private data first. -/
def events (pdev : PciDev) (netdev : Ptr) (e : Call) (r : Resp e) : List (Event Resource) :=
  (if e.inNetdev then during (.priv pdev netdev) else []) ++ moves pdev netdev e r

/-! ## The calls of a probe or a remove -/

/-- What the surroundings answer to the calls of one probe or remove.  `netifRunning` is whether the
interface is up when it is unregistered. -/
structure Answers where
  pciEnableDevice : Int
  pciRequestRegion : Int
  pciIomap : Ptr
  allocEtherdev : Ptr
  registerNetdev : Int
  requestIrq : Int
  netifRunning : Bool
  other : (e : Call) → Resp e

/-- What a call finds: `netdev` is where the `net_device` is that the function works on, `drvdata` what
`pci_set_drvdata` stored for the device, `mmio` what is in the private data. -/
structure Books where
  log : List (Event Resource) := []
  netdev : Ptr := 0
  drvdata : Ptr := 0
  mmio : Ptr := 0

def Answers.answer (a : Answers) (s : Books) : (e : Call) → Resp e
  | .pciEnableDevice => a.pciEnableDevice
  | .pciRequestRegion => a.pciRequestRegion
  | .pciIomap => a.pciIomap
  | .allocEtherdev => a.allocEtherdev
  | .registerNetdev _ => a.registerNetdev
  | .requestIrq _ => a.requestIrq
  | .netifRunning => a.netifRunning
  | .loadMmio => s.mmio
  | .pciGetDrvdata => s.drvdata
  | e => a.other e

/-- What a call stores. -/
def Books.store (s : Books) : (e : Call) → Resp e → Books
  | .allocEtherdev, netdev => { s with netdev }
  | .pciGetDrvdata, netdev => { s with netdev }
  | .pciSetDrvdata drvdata, _ => { s with drvdata }
  | .storeMmio mmio, _ => { s with mmio }
  | _, _ => s

/-- The surroundings of a call for the device. -/
def surroundings (pdev : PciDev) (a : Answers) : Handler Call Resp Books := fun e s =>
  let r := a.answer s e
  let s := s.store e r
  (r, { s with log := s.log ++ events pdev s.netdev e r })

/-- What is kept for a bound device. -/
structure Kept where
  drvdata : Ptr
  mmio : Ptr

/-- The driver on the bus.  Each call takes its answers from a tape. -/
def driver : Driver PciDev (Stream' Answers) Kept Unit Resource where
  probe pdev _ tape :=
    let (ret, s) := mynicProbe.eval (surroundings pdev tape.head) {}
    (if ret = 0 then some ⟨s.drvdata, s.mmio⟩ else none, tape.tail, s.log)
  remove pdev kept tape :=
    let (_, s) := mynicRemove.eval (surroundings pdev tape.head)
      { drvdata := kept.drvdata, mmio := kept.mmio }
    (tape.tail, s.log)

/-- The answers still to come, the events so far, and the bound devices with what is kept for each. -/
abbrev Bus := Resources.Binding PciDev (Stream' Answers) Kept Resource

/-- What a bound device holds. -/
def full (pdev : PciDev) (kept : Kept) : Multiset Resource :=
  {.handler pdev kept.drvdata, .registration pdev kept.drvdata, .napi pdev kept.drvdata,
    .mapping pdev kept.mmio, .netDevice pdev kept.drvdata, .region pdev, .device pdev}

section

variable {pdev : PciDev} {a : Answers} {s : Books} {mmio netdev : Ptr} {err : Int}

/-! ## What probe and remove do -/

attribute [local simp] surroundings Answers.answer Books.store events Call.inNetdev moves

/-- What `unregister_netdev` does: it reads whether the interface is up, stops it if it is, and takes it
off the list. -/
def unregisterEvents (pdev : PciDev) (netdev : Ptr) (running : Bool) : List (Event Resource) :=
  let touch := during (.priv pdev netdev)
  touch ++ ((if running then touch ++ (touch ++ touch) else []) ++
    (touch ++ [.release (.registration pdev netdev)]))

theorem unregisterNetdev_eq (here : s.netdev = netdev) :
    (unregisterNetdev netdev).eval (surroundings pdev a) s =
      ((), { s with log := s.log ++ unregisterEvents pdev netdev a.netifRunning }) := by
  cases running : a.netifRunning with
  | false =>
      simp [unregisterNetdev, stopIfRunning, unregisterEvents, running, here]
  | true =>
      simp [unregisterNetdev, stopIfRunning, mynicStop, unregisterEvents, running, here]

/-- The error path from `err_free_netdev:` on. -/
theorem errFreeNetdev_eq : (errFreeNetdev mmio netdev err).eval (surroundings pdev a) s =
    (err, { s with log := s.log ++ [.release (.netDevice pdev netdev),
      .release (.mapping pdev mmio), .release (.region pdev), .release (.device pdev)] }) := by
  simp [errFreeNetdev, errIounmap, errReleaseRegion, errDisablePci]

/-- Probe from `request_irq` on: it unregisters what it registered when it does not get the line. -/
theorem probeIrq_eq (here : s.netdev = netdev) :
    (mynicProbeIrq mmio netdev).eval (surroundings pdev a) s =
      if a.requestIrq ≠ 0 then
        (a.requestIrq, { s with
          log := s.log ++ (unregisterEvents pdev netdev a.netifRunning ++
            [.release (.netDevice pdev netdev), .release (.mapping pdev mmio),
              .release (.region pdev), .release (.device pdev)]) })
      else
        (0, { s with
          log := s.log ++ (.acquire (.handler pdev netdev) ::
            (during (.priv pdev netdev) ++ [.acquire (.napi pdev netdev)])) }) := by
  rcases eq_or_ne a.requestIrq 0 with granted | refused
  · simp [mynicProbeIrq, granted, here]
  · have unregister : ∀ s : Books, s.netdev = netdev →
        (errUnregisterNetdev mmio netdev a.requestIrq).eval (surroundings pdev a) s =
          (a.requestIrq, { s with
            log := s.log ++ (unregisterEvents pdev netdev a.netifRunning ++
              [.release (.netDevice pdev netdev), .release (.mapping pdev mmio),
                .release (.region pdev), .release (.device pdev)]) }) := by
      intro s here
      simp [errUnregisterNetdev, unregisterNetdev_eq here, errFreeNetdev_eq]
    simp [mynicProbeIrq, refused, here, unregister]

variable {tape : Stream' Answers}

/-- What probe obtains before it registers the `net_device`, and touches of it. -/
def obtained (pdev : PciDev) (a : Answers) : List (Event Resource) :=
  [.acquire (.device pdev), .acquire (.region pdev), .acquire (.mapping pdev a.pciIomap),
    .acquire (.netDevice pdev a.allocEtherdev)] ++
    (during (.priv pdev a.allocEtherdev) ++
      (during (.priv pdev a.allocEtherdev) ++ during (.priv pdev a.allocEtherdev)))

/-- The outcomes of `mynic_probe`, in the order in which it can fail. -/
theorem probe_eq : driver.probe pdev () (.cons a tape) =
    if a.pciEnableDevice ≠ 0 then (none, tape, [])
    else if a.pciRequestRegion ≠ 0 then
      (none, tape, [.acquire (.device pdev), .release (.device pdev)])
    else if a.pciIomap = 0 then
      (none, tape, [.acquire (.device pdev), .acquire (.region pdev), .release (.region pdev),
        .release (.device pdev)])
    else if a.allocEtherdev = 0 then
      (none, tape, [.acquire (.device pdev), .acquire (.region pdev),
        .acquire (.mapping pdev a.pciIomap), .release (.mapping pdev a.pciIomap),
        .release (.region pdev), .release (.device pdev)])
    else
      let released := [.release (.netDevice pdev a.allocEtherdev),
        .release (.mapping pdev a.pciIomap), .release (.region pdev), .release (.device pdev)]
      if a.registerNetdev ≠ 0 then (none, tape, obtained pdev a ++ released)
      else if a.requestIrq ≠ 0 then
        (none, tape, obtained pdev a ++ (.acquire (.registration pdev a.allocEtherdev) ::
          (unregisterEvents pdev a.allocEtherdev a.netifRunning ++ released)))
      else
        (some ⟨a.allocEtherdev, a.pciIomap⟩, tape, obtained pdev a ++
          (.acquire (.registration pdev a.allocEtherdev) ::
            .acquire (.handler pdev a.allocEtherdev) ::
            (during (.priv pdev a.allocEtherdev) ++ [.acquire (.napi pdev a.allocEtherdev)]))) := by
  rcases eq_or_ne a.pciEnableDevice 0 with enabled | refused
  · rcases eq_or_ne a.pciRequestRegion 0 with region | taken
    · rcases eq_or_ne a.pciIomap 0 with unmapped | mapped
      · simp [driver, mynicProbe, errReleaseRegion, errDisablePci, enabled, region, unmapped, enomem]
      · rcases eq_or_ne a.allocEtherdev 0 with none | allocated
        · simp [driver, mynicProbe, mynicProbeNetdev, errIounmap, errReleaseRegion, errDisablePci,
            enabled, region, mapped, none, enomem]
        · rcases eq_or_ne a.registerNetdev 0 with registered | failed
          · rcases eq_or_ne a.requestIrq 0 with granted | denied
            · simp [driver, mynicProbe, mynicProbeNetdev, probeIrq_eq, enabled, region, mapped,
                allocated, registered, granted, obtained]
            · simp [driver, mynicProbe, mynicProbeNetdev, probeIrq_eq, enabled, region, mapped,
                allocated, registered, denied, obtained]
          · simp [driver, mynicProbe, mynicProbeNetdev, errFreeNetdev_eq, enabled, region, mapped,
              allocated, failed, obtained]
    · simp [driver, mynicProbe, errDisablePci, enabled, taken]
  · simp [driver, mynicProbe, refused]

/-- What `mynic_remove` does. -/
theorem remove_eq {kept : Kept} : driver.remove pdev kept (.cons a tape) = (tape,
    .release (.handler pdev kept.drvdata) ::
      (unregisterEvents pdev kept.drvdata a.netifRunning ++
        (during (.priv pdev kept.drvdata) ++ (.release (.napi pdev kept.drvdata) ::
          (during (.priv pdev kept.drvdata) ++ [.release (.mapping pdev kept.mmio),
            .release (.netDevice pdev kept.drvdata), .release (.region pdev),
            .release (.device pdev)]))))) := by
  simp [driver, mynicRemove, unregisterNetdev_eq]

/-! ## Balance -/

/-- A call may touch the private data while its device has the `net_device`. -/
theorem staysBacked_touch {es : List (Event Resource)} {held : Multiset Resource}
    (mem : .netDevice pdev netdev ∈ held) :
    StaysBacked uses (during (.priv pdev netdev) ++ es) held ↔ StaysBacked uses es held := by
  refine staysBacked_during fun r used => ?_
  have base : r = .netDevice pdev netdev := used
  exact base ▸ mem

section Phases

variable {es : List (Event Resource)} {held : Multiset Resource}

/-- What is held when the `net_device` is registered. -/
def ready (pdev : PciDev) (a : Answers) : Multiset Resource :=
  {.netDevice pdev a.allocEtherdev, .mapping pdev a.pciIomap, .region pdev, .device pdev}

theorem netDevice_mem_ready : Resource.netDevice pdev a.allocEtherdev ∈ ready pdev a := by
  simp [ready]

theorem replay_obtained : replay (obtained pdev a ++ es) 0 = replay es (ready pdev a) := by
  simp [obtained, ready]

theorem staysBacked_obtained :
    StaysBacked uses (obtained pdev a ++ es) 0 ↔ StaysBacked uses es (ready pdev a) := by
  have mem := @netDevice_mem_ready pdev a
  have touched : StaysBacked uses (during (.priv pdev a.allocEtherdev) ++
      (during (.priv pdev a.allocEtherdev) ++ (during (.priv pdev a.allocEtherdev) ++ es)))
      (ready pdev a) ↔ StaysBacked uses es (ready pdev a) := by
    rw [staysBacked_touch mem, staysBacked_touch mem, staysBacked_touch mem]
  rw [← touched]
  simp [obtained, ready, Backed, uses]

theorem replay_unregister {running : Bool} :
    replay (unregisterEvents pdev netdev running ++ es) (.registration pdev netdev ::ₘ held) =
      replay es held := by
  cases running with
  | false => simp [unregisterEvents]
  | true => simp [unregisterEvents]

theorem staysBacked_unregister {running : Bool} (mem : .netDevice pdev netdev ∈ held) :
    StaysBacked uses (unregisterEvents pdev netdev running ++ es)
      (.registration pdev netdev ::ₘ held) ↔ StaysBacked uses es held := by
  have still : Resource.netDevice pdev netdev ∈ .registration pdev netdev ::ₘ held :=
    Multiset.mem_cons_of_mem mem
  have touched : StaysBacked uses (unregisterEvents pdev netdev running ++ es)
      (.registration pdev netdev ::ₘ held) ↔
      StaysBacked uses (.release (.registration pdev netdev) :: es)
        (.registration pdev netdev ::ₘ held) := by
    cases running with
    | false => simp [unregisterEvents, staysBacked_touch still]
    | true => simp [unregisterEvents, staysBacked_touch still]
  rw [touched, staysBacked_release_cons]
  refine and_iff_right_of_imp fun stays => stays.start.cons fun r used => ?_
  have base : r = .netDevice pdev netdev := used
  exact base ▸ mem

end Phases

/-- A probe leaves nothing held when it fails and all it should when it does not. -/
theorem probe_books {k : Option Kept} {tape' : Stream' Answers} {es : List (Event Resource)}
    (ran : driver.probe pdev () (.cons a tape) = (k, tape', es)) :
    replay es 0 = some (k.elim 0 (full pdev)) ∧ StaysBacked uses es 0 := by
  rw [probe_eq] at ran
  split_ifs at ran with enabled region mapped allocated registered granted
  · cases ran
    simp [Backed]
  · cases ran
    simp [Backed, uses]
  · cases ran
    simp [Backed, uses]
  · cases ran
    simp [Backed, uses]
  · cases ran
    rw [replay_obtained, staysBacked_obtained]
    simp [ready, Backed, uses]
  · cases ran
    rw [replay_obtained, staysBacked_obtained, replay_acquire, staysBacked_acquire,
      replay_unregister, staysBacked_unregister netDevice_mem_ready]
    simp [ready, Backed, uses]
  · cases ran
    have mem : Resource.netDevice pdev a.allocEtherdev ∈ .handler pdev a.allocEtherdev ::ₘ
        .registration pdev a.allocEtherdev ::ₘ ready pdev a :=
      Multiset.mem_cons_of_mem (Multiset.mem_cons_of_mem netDevice_mem_ready)
    rw [replay_obtained, staysBacked_obtained, replay_acquire, replay_acquire, replay_during,
      staysBacked_acquire, staysBacked_acquire, staysBacked_touch mem]
    constructor
    · simp only [replay_acquire, replay_nil, ready, full, Multiset.insert_eq_cons, Option.elim_some]
      rw [Multiset.cons_swap (Resource.napi _ _) (.handler _ _),
        Multiset.cons_swap (Resource.napi _ _) (.registration _ _),
        Multiset.cons_swap (Resource.netDevice _ _) (.mapping _ _)]
    · simp [ready, Backed, uses]

theorem remove_books {kept : Kept} {tape' : Stream' Answers} {es : List (Event Resource)}
    (ran : driver.remove pdev kept (.cons a tape) = (tape', es)) :
    replay es (full pdev kept) = some 0 ∧ StaysBacked uses es (full pdev kept) := by
  rw [remove_eq] at ran
  cases ran
  unfold full
  constructor
  · simp [replay_unregister]
  · have mem : Resource.netDevice pdev kept.drvdata ∈ Resource.napi pdev kept.drvdata ::ₘ
        .mapping pdev kept.mmio ::ₘ .netDevice pdev kept.drvdata ::ₘ .region pdev ::ₘ
          {.device pdev} := by
      simp
    have mem' : Resource.netDevice pdev kept.drvdata ∈ Resource.mapping pdev kept.mmio ::ₘ
        .netDevice pdev kept.drvdata ::ₘ .region pdev ::ₘ {.device pdev} := by
      simp
    simp only [Multiset.insert_eq_cons, staysBacked_release_cons, staysBacked_unregister mem,
      staysBacked_touch mem, staysBacked_touch mem']
    simp [Backed, uses]

theorem driver_exacting : driver.Exacting full uses where
  refuse := by
    intro pdev _ tape tape' es ran
    rw [← Stream'.eta tape] at ran
    exact probe_books ran
  bind := by
    intro pdev _ tape kept tape' es ran
    rw [← Stream'.eta tape] at ran
    exact probe_books ran
  remove := by
    intro pdev kept tape tape' es ran
    rw [← Stream'.eta tape] at ran
    exact remove_books ran

/-- What is held is what the bound devices have, so nothing was given back that its device did not hold,
and at every moment whatever needed a `net_device`, a touch of the private data included, had it. -/
def BooksKept (b : Bus) : Prop :=
  Exact full b ∧ StaysBacked uses b.log 0

/-- What was obtained for a device that is not bound was given back as often. -/
theorem BooksKept.count_released {b : Bus} (books : BooksKept b) {r : Resource}
    (out : r.owner ∉ b.bound) : (released b.log).count r = (acquired b.log).count r := by
  refine books.1.count_released ?_ out
  intro pdev kept r mem
  simp only [full, Multiset.insert_eq_cons, Multiset.mem_cons, Multiset.mem_singleton] at mem
  rcases mem with rfl | rfl | rfl | rfl | rfl | rfl | rfl
  all_goals rfl

/-- **Balance of probe and remove.**  After every call of a run, whatever the kernel answers, the bound
devices hold all they should and nothing else is held; each release was of something its device held, and
no private data was touched that was not there. -/
theorem always_booksKept {tape : Stream' Answers} {own : PciDev → Kept}
    {past : List (Bus × Resources.Request PciDev Unit)} {b : Bus}
    (run : Run driver.Step (.start tape own) past b) : Always BooksKept past b :=
  driver_exacting.always run

end

/-! ## Two devices -/

/-- Zeros and `NULL`s. -/
def zeros : (e : Call) → Resp e
  | .pciEnableDevice | .pciRequestRegion | .registerNetdev _ | .requestIrq _ => (0 : Int)
  | .pciIomap | .allocEtherdev | .loadMmio | .pciGetDrvdata | .packetsSent => (0 : Nat)
  | .netifRunning | .packetsAvailable | .netdevAllocSkbIpAlign _ => false
  | .dmaMapSingle _ _ | .loadTxSkbuff _ => none
  | .loadTxHead | .loadTxTail => ⟨0, by decide⟩
  | .readlIntrStatus => 0#32
  | .rxDescriptor => []
  | .storeMmio _ | .spinLockInit | .pciSetDrvdata _ | .netifNapiAdd _ | .netifNapiDel | .freeIrq _
  | .freeNetdev _ | .pciIounmap _ | .pciReleaseRegion | .pciDisableDevice | .rtnlLock | .rtnlUnlock
  | .unlistNetdevice _ | .napiEnable | .napiDisable | .netifStartQueue | .netifStopQueue
  | .netifWakeQueue | .writelControl _ | .spinLock | .spinUnlock | .storeTxHead _ | .storeTxTail _
  | .storeTxSkbuff _ _ | .writelTx _ | .writelIntrStatus _ | .napiSchedule | .dmaUnmapSingle _ _
  | .devKfreeSkbIrq _ | .netifReceiveSkb _ | .napiCompleteDone _ => ()

/-- A kernel that grants everything, with the interface up when it is unregistered. -/
def grantAll (netdev mmio : Ptr) : Answers := ⟨0, 0, mmio, netdev, 0, 0, true, zeros⟩

/-- The first device is bound, the second one is refused its interrupt line and then bound, and the
first one is removed. -/
def demoTape : Stream' Answers :=
  .cons (grantAll 16 32) (.cons { grantAll 48 64 with requestIrq := -16 }
    (.cons (grantAll 48 64) (.const (grantAll 0 0))))

/-- Two devices that are probed and removed in turn. -/
theorem always_booksKept_two : ∃ past b,
    Run driver.Step (.start demoTape fun _ => ⟨0, 0⟩) past b ∧
      past.map Prod.snd = [.probe 1 (), .probe 2 (), .probe 2 (), .remove 1] ∧
      b.bound = {2} ∧ Always BooksKept past b := by
  have first := Run.nil.snoc (Driver.Step.bind (D := driver) (a := ())
    (b := .start demoTape fun _ => ⟨0, 0⟩) (Finset.notMem_empty 1) rfl)
  have second := first.snoc (.refuse (d := 2) (a := ()) (by decide) rfl)
  have third := second.snoc (.bind (d := 2) (a := ()) (by decide) rfl)
  have fourth := third.snoc (.remove (d := 1) (by decide) rfl)
  exact ⟨_, _, fourth, rfl, rfl, always_booksKept fourth⟩

/-! ## The module -/

/-- `mynic_init`. -/
def mynicInit : Prog BusCall BusCall.Resp Int := perform BusCall.register

/-- `mynic_exit`. -/
def mynicExit : Prog BusCall BusCall.Resp Unit := perform BusCall.unregister

/-- The module.  Its driver has no globals; what the kernel has still to answer is not its own. -/
def mynicModule : Module (Stream' Answers) where
  init := mynicInit
  exit := mynicExit
  fresh := id

theorem mynicModule_plain : mynicModule.Plain := ⟨rfl, rfl⟩

/-- The module and the bus. -/
abbrev Life := Hosted PciDev (Stream' Answers) Kept Resource

/-- **The life of the module.**  Over every order of loads, probes, removes and unloads, whatever the
kernel answers, devices are bound only while the module is there and the books are kept.  From every state
the module can be unloaded, and then all that was ever obtained is given back. -/
theorem life_booksKept {tape : Stream' Answers} {own : PciDev → Kept}
    {past : List (Life × HostRequest PciDev Unit)} {life : Life}
    (run : Run (driver.HostStep mynicModule) (.start tape own) past life) :
    Always (Hosted.Books full uses) past life ∧
      ∃ past' life', Run (driver.HostStep mynicModule) life past' life' ∧
        life'.phase = .absent ∧ NetZero life'.binding.log := by
  have books := driver_exacting.hosted mynicModule_plain books_start run
  exact ⟨books, driver_exacting.unloads mynicModule_plain books.2⟩

/-- A device is bound, a second one refused, and the module asked to leave and loaded again. -/
theorem life_booksKept_reloaded : ∃ past life,
    Run (driver.HostStep mynicModule) (.start demoTape fun _ => ⟨0, 0⟩) past life ∧
      past.map Prod.snd = [.load, .bus (.probe 1 ()), .bus (.probe 2 ()), .unload, .bus (.remove 1),
        .unloaded, .load] ∧
      Always (Hosted.Books full uses) past life ∧
      ∃ past' life', Run (driver.HostStep mynicModule) life past' life' ∧
        life'.phase = .absent ∧ NetZero life'.binding.log := by
  have load : driver.HostStep mynicModule (.start demoTape fun _ => ⟨0, 0⟩) .load _ :=
    .load rfl ⟨(0 : Int), _, rfl, rfl, rfl⟩
  have loaded := Run.nil.snoc load
  have first := loaded.snoc (.bus rfl (fun leaving => nomatch leaving)
    (.bind (d := 1) (a := ()) (Finset.notMem_empty 1) rfl))
  have second := first.snoc (.bus rfl (fun leaving => nomatch leaving)
    (.refuse (d := 2) (a := ()) (by decide) rfl))
  have leaving := second.snoc (.unload rfl)
  have removed := leaving.snoc (.bus rfl (fun _ => ⟨_, rfl⟩) (.remove (d := 1) (by decide) rfl))
  have unloaded := removed.snoc (.unloaded rfl ⟨(), _, ⟨by decide, rfl⟩, rfl, rfl⟩)
  have reloaded := unloaded.snoc (.load rfl ⟨(0 : Int), _, rfl, rfl, rfl⟩)
  exact ⟨_, _, reloaded, rfl, life_booksKept reloaded⟩

end ScullDrivers.Nic
