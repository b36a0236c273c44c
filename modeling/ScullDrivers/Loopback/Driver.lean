import ScullDrivers.Interaction.Threads

/-!
# The loopback driver, `network/simple_loopback.c`

`myloop_xmit` as a program over the kernel functions it calls and its statements that count, and the
machine it runs on: one call at a time, and a receiver that owns an `sk_buff` from the moment
`netif_rx` is given it.  Of `struct sk_buff` only the fields the function touches are kept.
-/

namespace ScullDrivers.Loopback

open Interaction

/-- A pointer to an `sk_buff`. -/
abbrev Skb := Nat

/-- `struct sk_buff`. -/
structure SkBuff where
  len : UInt32
  protocol : UInt16 := 0
  sk : Nat := 0

/-- `struct net_device_stats`. -/
structure NetDeviceStats where
  txPackets : UInt64 := 0
  txBytes : UInt64 := 0
  rxPackets : UInt64 := 0
  rxBytes : UInt64 := 0

/-- What `netif_rx` returns: `NET_RX_SUCCESS` or `NET_RX_DROP`. -/
inductive NetRx
  | success
  | drop
  deriving DecidableEq

/-- `ETH_HLEN`. -/
def ethHlen : UInt32 := 14

/-- `NETDEV_TX_OK`. -/
def netdevTxOk : Int32 := 0

/-- The kernel functions `myloop_xmit` calls, its assignment to `skb->protocol`, and its statements on
`dev->stats`.  Those that add `skb->len` are answered by the value they read. -/
inductive Call
  | skbOrphan (skb : Skb)
  | ethTypeTrans (skb : Skb)
  | setProtocol (skb : Skb) (protocol : UInt16)
  | netifRx (skb : Skb)
  | incTxPackets
  | addTxBytes (skb : Skb)
  | incRxPackets
  | addRxBytes (skb : Skb)
  deriving DecidableEq

abbrev Resp : Call → Type
  | .ethTypeTrans _ => UInt16
  | .netifRx _ => NetRx
  | .addTxBytes _ | .addRxBytes _ => UInt32
  | _ => Unit

abbrev kcall (e : Call) : Prog Call Resp (Resp e) := perform e

/-- `myloop_xmit`. -/
def myloopXmit (skb : Skb) : Prog Call Resp Int32 := do
  kcall (.skbOrphan skb)
  let protocol ← kcall (.ethTypeTrans skb)
  kcall (.setProtocol skb protocol)
  let _ ← kcall (.netifRx skb)
  kcall .incTxPackets
  let _ ← kcall (.addTxBytes skb)
  kcall .incRxPackets
  let _ ← kcall (.addRxBytes skb)
  return netdevTxOk

/-! ## The system -/

/-- A packet `netif_rx` was given: its length then, and what became of it. -/
structure Handed where
  len : UInt32
  outcome : NetRx

/-- The `sk_buff`s that are not freed, those `netif_rx` was given, the counters of the device, and the
packets handed over so far. -/
structure State where
  skbs : Skb → Option SkBuff
  given : Skb → Bool
  stats : NetDeviceStats
  handed : List Handed

/-- A call of `myloop_xmit`, with the `sk_buff` it is made on. -/
structure Request where
  skb : Skb
  buf : SkBuff

/-- What the receiver does. -/
inductive Receiver
  | modify (skb : Skb) (buf : SkBuff)
  | free (skb : Skb)

/-- The `sk_buff` is the driver's to use. -/
def State.Owns (s : State) (skb : Skb) : Prop := s.given skb = false ∧ (s.skbs skb).isSome = true

/-- A field of an `sk_buff` changes. -/
def State.edit (s : State) (skb : Skb) (f : SkBuff → SkBuff) : State :=
  { s with skbs := Function.update s.skbs skb ((s.skbs skb).map f) }

/-- `netif_rx` takes an `sk_buff`, and frees it if it drops the packet. -/
def State.handOver (s : State) (skb : Skb) (outcome : NetRx) : State :=
  { s with
    skbs := if outcome = .drop then Function.update s.skbs skb none else s.skbs
    given := Function.update s.given skb true
    handed := s.handed ++ [⟨(s.skbs skb).elim 0 SkBuff.len, outcome⟩] }

/-- What a call does. -/
def performed : (e : Call) → State → Resp e → State
  | .skbOrphan skb, s, _ => s.edit skb fun buf => { buf with sk := 0 }
  | .ethTypeTrans skb, s, _ => s.edit skb fun buf => { buf with len := buf.len - ethHlen }
  | .setProtocol skb protocol, s, _ => s.edit skb fun buf => { buf with protocol }
  | .netifRx skb, s, outcome => s.handOver skb outcome
  | .incTxPackets, s, _ => { s with stats.txPackets := s.stats.txPackets + 1 }
  | .addTxBytes _, s, len => { s with stats.txBytes := s.stats.txBytes + len.toUInt64 }
  | .incRxPackets, s, _ => { s with stats.rxPackets := s.stats.rxPackets + 1 }
  | .addRxBytes _, s, len => { s with stats.rxBytes := s.stats.rxBytes + len.toUInt64 }

/-- An `sk_buff` reads as it is; one that was freed reads as anything. -/
def answers : (e : Call) → State → Resp e → Prop
  | .addTxBytes skb, s, len | .addRxBytes skb, s, len => ∀ buf ∈ s.skbs skb, len = buf.len
  | _, _, _ => True

/-- The receiver may do as it likes with the `sk_buff`s it was given. -/
def receive : Receiver → State → State
  | .modify skb buf, s =>
      if s.given skb = true ∧ (s.skbs skb).isSome = true then
        { s with skbs := Function.update s.skbs skb (some buf) }
      else s
  | .free skb, s =>
      if s.given skb = true then { s with skbs := Function.update s.skbs skb none } else s

/-- The device: `myloop_xmit` is called with an `sk_buff` that holds an Ethernet header at least. -/
def loopback : Machine Unit Request Call Resp Int32 State Receiver where
  slot _ := ()
  code q := myloopXmit q.skb
  mayStart _ q _ := ethHlen ≤ q.buf.len
  begun q s :=
    { s with
      skbs := Function.update s.skbs q.skb (some q.buf)
      given := Function.update s.given q.skb false }
  mayRun _ _ := True
  returns := answers
  effect _ := performed
  finished _ _ s := s
  device := receive

abbrev LoopConfig := Config Unit Call Resp Int32 State

abbrev LoopMove := Move Unit Request Call Resp Int32 Receiver

instance (e : Call) (s : State) (r : Resp e) : Decidable (answers e s r) :=
  match e, r with
  | .addTxBytes skb, len | .addRxBytes skb, len =>
      inferInstanceAs (Decidable (∀ buf ∈ s.skbs skb, len = buf.len))
  | .skbOrphan _, _ | .ethTypeTrans _, _ | .setProtocol _ _, _ | .netifRx _, _ | .incTxPackets, _
  | .incRxPackets, _ => instDecidableTrue

end ScullDrivers.Loopback
