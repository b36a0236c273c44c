import ScullDrivers.Nic.Driver

/-!
# The kernel and the device around `network/nic.c`

`State` is everything the driver shares with its surroundings: the fields of `struct mynic_priv`, the
registers, the kernel's bookkeeping of the interface, and a ledger of what was mapped, unmapped,
freed and delivered.  `returns` says when a call returns and with which answers, and `effect` what it
does to the state.

* A call blocks where the kernel waits: `spin_lock` and `rtnl_lock` while the lock is taken,
  `napi_disable` while a poll is running, `free_irq` while the handler is running.
* `napi_schedule` on a context that is scheduled or running makes `napi_complete_done` leave it
  scheduled.
* Writing the interrupt status register clears the bits written.
* Nothing is checked on the driver's behalf: NAPI calls on a context that was never added, releases of
  a resource that is not held and stores over a used slot all go through.

Threads are named by an arbitrary type `τ`; only the owners of the two locks mention it.
-/

namespace ScullDrivers.Nic

open Interaction

/-- A NAPI context, `struct napi_struct`. -/
structure Napi where
  /-- Between `netif_napi_add` and `netif_napi_del`. -/
  added : Bool := false
  enabled : Bool := false
  /-- Scheduled, and not completed since. -/
  sched : Bool := false
  /-- Scheduled again while it was scheduled or running. -/
  missed : Bool := false
  /-- A call of the poll function is in progress. -/
  polling : Bool := false
  deriving DecidableEq

/-- Where the interface is between `ndo_open` and `ndo_stop`. -/
inductive Iface
  | fresh | opening | up | stopping | stopped
  deriving DecidableEq

/-- Where the device is between probe and remove. -/
inductive Binding
  | unbound | probing | bound | removing
  deriving DecidableEq

/-- What the driver shares with the kernel and the device. -/
structure State (τ : Type) where
  -- `struct mynic_priv`
  mmio : Ptr := 0
  napi : Napi := {}
  txSkbuff : Fin mynicTxRingSize → Option SkBuff := fun _ => none
  txHead : Fin mynicTxRingSize := 0
  txTail : Fin mynicTxRingSize := 0
  lock : Option τ := none
  -- the device
  control : BitVec 32 := 0
  intrStatus : BitVec 32 := 0
  /-- Packets handed to the device by a kick. -/
  txSubmitted : Nat := 0
  /-- Packets the device has reported sent. -/
  txReported : Nat := 0
  /-- Received frames not delivered yet, oldest first. -/
  rxQueue : List Packet := []
  -- the kernel's view of the interface
  queueStopped : Bool := false
  iface : Iface := .fresh
  registered : Bool := false
  rtnl : Option τ := none
  irqRequested : Bool := false
  irqRunning : Bool := false
  -- the kernel's view of the PCI device
  binding : Binding := .unbound
  drvdata : Ptr := 0
  pciEnabled : Bool := false
  region : Bool := false
  mapping : Ptr := 0
  netdev : Ptr := 0
  -- the ledger, oldest entry first
  mapped : List (SkBuff × Nat) := []
  unmapped : List (SkBuff × Nat) := []
  freed : List SkBuff := []
  received : List RxSkb := []

/-- The fields of a `net_device` fresh from `alloc_etherdev`, its private area zeroed. -/
def State.allocNetdev {τ : Type} (s : State τ) (netdev : Ptr) : State τ :=
  { s with
    netdev, mmio := 0, napi := {}, txSkbuff := fun _ => none, txHead := 0, txTail := 0, lock := none,
    queueStopped := false, iface := .fresh }

/-- `napi_schedule`. -/
def Napi.schedule (n : Napi) : Napi :=
  if n.enabled then
    if n.sched then { n with missed := true } else { n with sched := true }
  else n

/-- `napi_complete_done`. -/
def Napi.complete (n : Napi) : Napi :=
  if n.missed then { n with missed := false } else { n with sched := false }

variable {τ : Type}

/-- The call returns in this state, with this answer. -/
def returns : (e : Call) → State τ → Resp e → Prop
  | .loadMmio, s, r => r = s.mmio
  | .pciGetDrvdata, s, r => r = s.drvdata
  | .freeIrq _, s, _ => s.irqRunning = false
  | .rtnlLock, s, _ => s.rtnl = none
  | .netifRunning, s, r => r = decide (s.iface = .up)
  | .napiDisable, s, _ => s.napi.polling = false
  | .spinLock, s, _ => s.lock = none
  | .loadTxHead, s, r => r = s.txHead
  | .loadTxTail, s, r => r = s.txTail
  | .loadTxSkbuff k, s, r => r = s.txSkbuff k
  | .readlIntrStatus, s, r => r = s.intrStatus
  | .packetsSent, s, r => s.txReported + r ≤ s.txSubmitted
  | .packetsAvailable, s, r => r = decide (s.rxQueue ≠ [])
  | .rxDescriptor, s, r => s.rxQueue.head? = some r
  | _, _, _ => True

instance [DecidableEq τ] (e : Call) (s : State τ) (r : Resp e) : Decidable (returns e s r) := by
  revert r
  cases e <;> intro r <;> first | exact instDecidableTrue | exact decEq _ _ | exact Nat.decLe _ _

/-- The state after a call made by thread `i` and answered `r`. -/
def effect (i : τ) : (e : Call) → State τ → Resp e → State τ
  | .pciEnableDevice, s, r => { s with pciEnabled := r = 0 || s.pciEnabled }
  | .pciRequestRegion, s, r => { s with region := r = 0 || s.region }
  | .pciIomap, s, r => { s with mapping := r }
  | .allocEtherdev, s, r => if r = 0 then s else s.allocNetdev r
  | .storeMmio mmio, s, _ => { s with mmio }
  | .spinLockInit, s, _ => { s with lock := none }
  | .pciSetDrvdata netdev, s, _ => { s with drvdata := netdev }
  | .registerNetdev _, s, r => { s with registered := r = 0 || s.registered }
  | .requestIrq _, s, r => { s with irqRequested := r = 0 || s.irqRequested }
  | .netifNapiAdd _, s, _ => { s with napi := { added := true } }
  | .netifNapiDel, s, _ => { s with napi := { s.napi with added := false } }
  | .freeIrq _, s, _ => { s with irqRequested := false }
  | .freeNetdev _, s, _ => { s with netdev := 0 }
  | .pciIounmap _, s, _ => { s with mapping := 0 }
  | .pciReleaseRegion, s, _ => { s with region := false }
  | .pciDisableDevice, s, _ => { s with pciEnabled := false }
  | .rtnlLock, s, _ => { s with rtnl := some i }
  | .rtnlUnlock, s, _ => { s with rtnl := none }
  | .unlistNetdevice _, s, _ => { s with registered := false, iface := .fresh }
  | .napiEnable, s, _ =>
      { s with napi := { s.napi with enabled := true, sched := false, missed := false } }
  | .napiDisable, s, _ =>
      { s with napi := { s.napi with enabled := false, sched := false, missed := false } }
  | .netifStartQueue, s, _ => { s with queueStopped := false }
  | .netifStopQueue, s, _ => { s with queueStopped := true }
  | .netifWakeQueue, s, _ => { s with queueStopped := false }
  | .writelControl v, s, _ => { s with control := v }
  | .dmaMapSingle skb len, s, r =>
      { s with mapped := s.mapped ++ if r.isSome then [(skb, len)] else [] }
  | .spinLock, s, _ => { s with lock := some i }
  | .spinUnlock, s, _ => { s with lock := none }
  | .storeTxHead k, s, _ => { s with txHead := k }
  | .storeTxTail k, s, _ => { s with txTail := k }
  | .storeTxSkbuff k skb, s, _ => { s with txSkbuff := Function.update s.txSkbuff k skb }
  | .writelTx _, s, _ => { s with txSubmitted := s.txSubmitted + 1 }
  | .writelIntrStatus v, s, _ => { s with intrStatus := s.intrStatus &&& ~~~v }
  | .napiSchedule, s, _ => { s with napi := s.napi.schedule }
  | .packetsSent, s, r => { s with txReported := s.txReported + r }
  | .dmaUnmapSingle skb len, s, _ => { s with unmapped := s.unmapped ++ [(skb, len)] }
  | .devKfreeSkbIrq skb, s, _ => { s with freed := s.freed ++ [skb] }
  | .netifReceiveSkb skb, s, _ =>
      { s with rxQueue := s.rxQueue.tail, received := s.received ++ [skb] }
  | .napiCompleteDone _, s, _ => { s with napi := s.napi.complete }
  | _, s, _ => s

/-- What a call made by thread `i` may do. -/
def kernel (i : τ) : Kernel Call Resp (State τ) := fun e s r s' => returns e s r ∧ s' = effect i e s r

/-- Packets submitted and not reported sent yet. -/
def State.outstanding (s : State τ) : Nat := s.txSubmitted - s.txReported

end ScullDrivers.Nic
