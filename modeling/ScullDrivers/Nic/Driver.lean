import Mathlib.Data.Nat.ModEq
import ScullDrivers.Interaction.Program

/-!
# The PCIe network driver, `network/nic.c`

Every function of the driver is a `Prog` over `Call`: the kernel functions it calls, the registers it
reads and writes, and its accesses to the fields of `struct mynic_priv` that other contexts share.
What the kernel and the device do at each call is `Nic/Kernel.lean`.

The places the source leaves to the hardware (`/* packets available */`, `/* hardware reports packets
sent */`, the receive descriptor) are calls as well, so nothing is assumed about them here.  The
register constants are used by the source and defined nowhere in it, and `eth_type_trans` is the
kernel's; `Externs` is what both may be.
-/

namespace ScullDrivers.Nic

open Interaction

/-! ## Constants and data -/

/-- `MYNIC_TX_RING_SIZE`. -/
def mynicTxRingSize : Nat := 128

instance : NeZero mynicTxRingSize := ⟨by decide⟩

/-- `NETDEV_TX_OK`. -/
def netdevTxOk : Int := 0

/-- `IRQ_HANDLED`. -/
def irqHandled : Int := 1

/-- `ENOMEM`. -/
def enomem : Int := 12

/-- An address; `0` is `NULL`. -/
abbrev Ptr := Nat

/-- An `sk_buff` handed down for transmission: `len` bytes, `dataLen` of them in pages. -/
structure SkBuff where
  id : Nat
  len : Nat
  dataLen : Nat
  dataLen_le : dataLen ≤ len
  deriving DecidableEq

/-- Distinct linear packets of 60 bytes. -/
def floodSkb (k : Nat) : SkBuff := ⟨k, 60, 0, Nat.zero_le 60⟩

/-- `skb_headlen`: the bytes of the linear part. -/
def skbHeadlen (skb : SkBuff) : Nat := skb.len - skb.dataLen

/-- A frame as the device stored it. -/
abbrev Packet := List UInt8

/-- An `sk_buff` on its way up: the link header already pulled and the bytes `skb->data` shows. -/
structure RxSkb where
  macHeader : List UInt8
  data : List UInt8
  protocol : BitVec 16
  ipSummed : Nat
  deriving DecidableEq

/-- All bytes of the frame. -/
def RxSkb.frame (skb : RxSkb) : List UInt8 := skb.macHeader ++ skb.data

/-- `CHECKSUM_NONE`. -/
def checksumNone : Nat := 0

/-- What the driver uses and its source does not define: the register constants it names, and
`eth_type_trans`, which answers the protocol of a frame and pulls its link header, losing no byte. -/
structure Externs where
  ENABLE_IRQ : BitVec 32
  ENABLE_RX : BitVec 32
  ENABLE_RX_IRQ : BitVec 32
  KICK_TX : BitVec 32
  RX_INTR : BitVec 32
  TX_INTR : BitVec 32
  ethTypeTrans : RxSkb → BitVec 16 × RxSkb
  ethTypeTrans_frame : ∀ skb, (ethTypeTrans skb).2.frame = skb.frame

/-- The header `eth_type_trans` pulls. -/
def ethHlen : Nat := 14

/-- `eth_type_trans` of a kernel: the protocol of the frame, and the frame with its link header pulled
when it has one. -/
def demoEthTypeTrans (skb : RxSkb) : BitVec 16 × RxSkb :=
  let hProto : BitVec 16 :=
    .ofNat 16 ((skb.data.getD 12 0).toNat * 256 + (skb.data.getD 13 0).toNat)
  let rest := skb.data.drop ethHlen
  let protocol : BitVec 16 :=
    if 0x0600#16 ≤ hProto then hProto
    else if rest.take 2 = [0xff, 0xff] then 0x0001#16
    else 0x0004#16
  if ethHlen ≤ skb.data.length then
    (protocol, { skb with macHeader := skb.macHeader ++ skb.data.take ethHlen, data := rest })
  else (protocol, skb)

theorem demoEthTypeTrans_frame (skb : RxSkb) : (demoEthTypeTrans skb).2.frame = skb.frame := by
  simp only [demoEthTypeTrans]
  split
  · simp only [RxSkb.frame]
    rw [List.append_assoc, List.take_append_drop]
  · rfl

/-- A device with one bit for each cause. -/
def demoExterns : Externs where
  ENABLE_IRQ := 1
  ENABLE_RX := 2
  ENABLE_RX_IRQ := 3
  KICK_TX := 1
  RX_INTR := 1
  TX_INTR := 2
  ethTypeTrans := demoEthTypeTrans
  ethTypeTrans_frame := demoEthTypeTrans_frame

/-- The index after `i`, `(i + 1) % MYNIC_TX_RING_SIZE`. -/
def txRingNext (i : Fin mynicTxRingSize) : Fin mynicTxRingSize :=
  ⟨(i + 1) % mynicTxRingSize, Nat.mod_lt _ (by decide)⟩

/-! ## What the driver calls -/

/-- Kernel calls, register accesses and shared memory accesses of the driver. -/
inductive Call
  | pciEnableDevice
  | pciRequestRegion
  | pciIomap
  | allocEtherdev
  | storeMmio (mmio : Ptr)
  | loadMmio
  | spinLockInit
  | pciSetDrvdata (netdev : Ptr)
  | pciGetDrvdata
  | registerNetdev (netdev : Ptr)
  | requestIrq (netdev : Ptr)
  | netifNapiAdd (netdev : Ptr)
  | netifNapiDel
  | freeIrq (netdev : Ptr)
  | freeNetdev (netdev : Ptr)
  | pciIounmap (mmio : Ptr)
  | pciReleaseRegion
  | pciDisableDevice
  | rtnlLock
  | rtnlUnlock
  | netifRunning
  | unlistNetdevice (netdev : Ptr)
  | napiEnable
  | napiDisable
  | netifStartQueue
  | netifStopQueue
  | netifWakeQueue
  | writelControl (v : BitVec 32)
  | dmaMapSingle (skb : SkBuff) (len : Nat)
  | spinLock
  | spinUnlock
  | loadTxHead
  | storeTxHead (i : Fin mynicTxRingSize)
  | loadTxTail
  | storeTxTail (i : Fin mynicTxRingSize)
  | loadTxSkbuff (i : Fin mynicTxRingSize)
  | storeTxSkbuff (i : Fin mynicTxRingSize) (skb : Option SkBuff)
  | writelTx (v : BitVec 32)
  | readlIntrStatus
  | writelIntrStatus (v : BitVec 32)
  | napiSchedule
  | packetsSent
  | dmaUnmapSingle (skb : SkBuff) (len : Nat)
  | devKfreeSkbIrq (skb : SkBuff)
  | packetsAvailable
  | rxDescriptor
  | netdevAllocSkbIpAlign (len : Nat)
  | netifReceiveSkb (skb : RxSkb)
  | napiCompleteDone (rxDone : Nat)
  deriving DecidableEq

/-- The answer to a call: an error number, a pointer, a register, a flag.  `packetsSent` is answered
with the number of iterations for which "hardware reports packets sent" holds, and `dmaMapSingle`
with no address when the mapping fails. -/
abbrev Resp : Call → Type
  | .pciEnableDevice | .pciRequestRegion | .registerNetdev _ | .requestIrq _ => Int
  | .pciIomap | .allocEtherdev | .loadMmio | .pciGetDrvdata => Ptr
  | .netifRunning | .packetsAvailable | .netdevAllocSkbIpAlign _ => Bool
  | .dmaMapSingle _ _ => Option Nat
  | .loadTxHead | .loadTxTail => Fin mynicTxRingSize
  | .loadTxSkbuff _ => Option SkBuff
  | .readlIntrStatus => BitVec 32
  | .packetsSent => Nat
  | .rxDescriptor => Packet
  | _ => Unit

/-- Make one call. -/
abbrev kcall (e : Call) : Prog Call Resp (Resp e) := perform e

/-- A function of the driver; every one of them returns an `int`. -/
abbrev Code := Prog Call Resp Int

/-! ## Open, stop and transmit -/

/-- `mynic_open`. -/
def mynicOpen (b : Externs) : Code := do
  kcall .napiEnable
  kcall .netifStartQueue
  kcall (.writelControl (b.ENABLE_IRQ ||| b.ENABLE_RX))
  return 0

/-- `mynic_stop`. -/
def mynicStop : Code := do
  kcall (.writelControl 0)
  kcall .netifStopQueue
  kcall .napiDisable
  return 0

/-- `mynic_start_xmit`.  The address `dma_map_single` returned goes into the descriptor unchecked. -/
def mynicStartXmit (b : Externs) (skb : SkBuff) : Code := do
  let len := skbHeadlen skb
  let _dmaAddr ← kcall (.dmaMapSingle skb len)
  kcall .spinLock
  let txHead ← kcall .loadTxHead
  kcall (.storeTxSkbuff txHead (some skb))
  let txHead ← kcall .loadTxHead
  kcall (.storeTxHead (txRingNext txHead))
  kcall (.writelTx b.KICK_TX)
  kcall .spinUnlock
  return netdevTxOk

/-! ## The interrupt handler -/

/-- The body of `if (skb)` in the reclaim loop. -/
def mynicInterruptFree (idx : Fin mynicTxRingSize) : Option SkBuff → Prog Call Resp Unit
  | none => pure ()
  | some skb => do
      kcall (.dmaUnmapSingle skb skb.len)
      kcall (.devKfreeSkbIrq skb)
      kcall (.storeTxSkbuff idx none)

/-- The reclaim loop, for the given number of packets reported sent. -/
def mynicInterruptReclaim : Nat → Prog Call Resp Unit
  | 0 => pure ()
  | sent + 1 => do
      let idx ← kcall .loadTxTail
      let skb ← kcall (.loadTxSkbuff idx)
      mynicInterruptFree idx skb
      let txTail ← kcall .loadTxTail
      kcall (.storeTxTail (txRingNext txTail))
      mynicInterruptReclaim sent

/-- `if (status & RX_INTR)`. -/
def mynicInterruptRx (b : Externs) (status : BitVec 32) : Prog Call Resp Unit :=
  if status &&& b.RX_INTR ≠ 0 then kcall .napiSchedule else pure ()

/-- `if (status & TX_INTR)`. -/
def mynicInterruptTx (b : Externs) (status : BitVec 32) : Prog Call Resp Unit :=
  if status &&& b.TX_INTR ≠ 0 then do
    kcall .spinLock
    let sent ← kcall .packetsSent
    mynicInterruptReclaim sent
    kcall .spinUnlock
    kcall .netifWakeQueue
  else pure ()

/-- `mynic_interrupt` from the acknowledgement of the status on. -/
def mynicInterruptStatus (b : Externs) (status : BitVec 32) : Code := do
  kcall (.writelIntrStatus status)
  mynicInterruptRx b status
  mynicInterruptTx b status
  return irqHandled

/-- `mynic_interrupt`. -/
def mynicInterrupt (b : Externs) : Code := do
  let status ← kcall .readlIntrStatus
  mynicInterruptStatus b status

theorem mynicInterrupt_eq (b : Externs) :
    mynicInterrupt b = .call .readlIntrStatus (mynicInterruptStatus b) := rfl

/-! ## The poll function -/

/-- The `sk_buff` the loop builds from a received frame. -/
def mynicPollSkb (b : Externs) (buf : Packet) : RxSkb :=
  let skb : RxSkb := { macHeader := [], data := buf, protocol := 0, ipSummed := 0 }
  let (protocol, skb) := b.ethTypeTrans skb
  { skb with protocol, ipSummed := checksumNone }

/-- The `sk_buff` built from a frame has its bytes. -/
theorem mynicPollSkb_frame (b : Externs) (buf : Packet) : (mynicPollSkb b buf).frame = buf :=
  b.ethTypeTrans_frame _

theorem mynicPollSkbs_frames (b : Externs) (bufs : List Packet) :
    (bufs.map (mynicPollSkb b)).map RxSkb.frame = bufs := by
  rw [List.map_map]
  calc bufs.map (RxSkb.frame ∘ mynicPollSkb b)
      = bufs.map id := List.map_congr_left fun buf _ => mynicPollSkb_frame b buf
    _ = bufs := List.map_id _

/-- What follows the loop of `mynic_poll`. -/
def mynicPollEnd (b : Externs) (budget rxDone : Nat) : Code :=
  if rxDone < budget then do
    kcall (.napiCompleteDone rxDone)
    kcall (.writelControl b.ENABLE_RX_IRQ)
    return rxDone
  else return rxDone

/-- The loop of `mynic_poll`; `left` is `budget - rx_done`, the iterations the budget still allows. -/
def mynicPollLoop (b : Externs) (budget : Nat) : (left rxDone : Nat) → Code
  | 0, rxDone => mynicPollEnd b budget rxDone
  | left + 1, rxDone => do
      if ← kcall .packetsAvailable then
        let buf ← kcall .rxDescriptor
        if ← kcall (.netdevAllocSkbIpAlign buf.length) then
          kcall (.netifReceiveSkb (mynicPollSkb b buf))
          mynicPollLoop b budget left (rxDone + 1)
        else mynicPollEnd b budget rxDone
      else mynicPollEnd b budget rxDone

/-- `mynic_poll`. -/
def mynicPoll (b : Externs) (budget : Nat) : Code :=
  mynicPollLoop b budget budget 0

/-! ## Probe and remove -/

/-- `if (dev is up) ndo_stop(dev)`, as `unregister_netdev` does it. -/
def stopIfRunning (running : Bool) : Prog Call Resp Unit :=
  if running then do
    let _ ← mynicStop
    return ()
  else return ()

/-- The kernel's `unregister_netdev`: under the rtnl lock it stops the interface if it is up and
takes it off the list of devices. -/
def unregisterNetdev (netdev : Ptr) : Prog Call Resp Unit := do
  kcall .rtnlLock
  let running ← kcall .netifRunning
  stopIfRunning running
  kcall (.unlistNetdevice netdev)
  kcall .rtnlUnlock

/-- Label `err_disable_pci`. -/
def errDisablePci (err : Int) : Code := do
  kcall .pciDisableDevice
  return err

/-- Label `err_release_region`. -/
def errReleaseRegion (err : Int) : Code := do
  kcall .pciReleaseRegion
  errDisablePci err

/-- Label `err_iounmap`. -/
def errIounmap (mmio : Ptr) (err : Int) : Code := do
  kcall (.pciIounmap mmio)
  errReleaseRegion err

/-- Label `err_free_netdev`. -/
def errFreeNetdev (mmio netdev : Ptr) (err : Int) : Code := do
  kcall (.freeNetdev netdev)
  errIounmap mmio err

/-- Label `err_unregister_netdev`. -/
def errUnregisterNetdev (mmio netdev : Ptr) (err : Int) : Code := do
  unregisterNetdev netdev
  errFreeNetdev mmio netdev err

/-- `mynic_probe` from `request_irq` on. -/
def mynicProbeIrq (mmio netdev : Ptr) : Code := do
  let err ← kcall (.requestIrq netdev)
  if err ≠ 0 then errUnregisterNetdev mmio netdev err
  else do
    kcall (.netifNapiAdd netdev)
    return 0

/-- `mynic_probe` from the allocation of the `net_device` on. -/
def mynicProbeNetdev (mmio : Ptr) : Code := do
  let netdev ← kcall .allocEtherdev
  if netdev = 0 then errIounmap mmio (-enomem)
  else do
    kcall (.storeMmio mmio)
    kcall .spinLockInit
    kcall (.pciSetDrvdata netdev)
    let err ← kcall (.registerNetdev netdev)
    if err ≠ 0 then errFreeNetdev mmio netdev err
    else mynicProbeIrq mmio netdev

/-- `mynic_probe`. -/
def mynicProbe : Code := do
  let err ← kcall .pciEnableDevice
  if err ≠ 0 then return err
  else do
    let err ← kcall .pciRequestRegion
    if err ≠ 0 then errDisablePci err
    else do
      let mmio ← kcall .pciIomap
      if mmio = 0 then errReleaseRegion (-enomem)
      else mynicProbeNetdev mmio

/-- `mynic_remove`. -/
def mynicRemove : Code := do
  let netdev ← kcall .pciGetDrvdata
  kcall (.freeIrq netdev)
  unregisterNetdev netdev
  kcall .netifNapiDel
  let mmio ← kcall .loadMmio
  kcall (.pciIounmap mmio)
  kcall (.freeNetdev netdev)
  kcall .pciReleaseRegion
  kcall .pciDisableDevice
  return 0

end ScullDrivers.Nic
