import ScullDrivers.Interaction.Program
import ScullDrivers.Interaction.Run
import ScullDrivers.Pmd.Driver
import ScullDrivers.Resources.Ledger

/-!
# The poll-mode driver: probe, queue setup, close and remove

What the driver obtains for a port and gives back, over any sequence of its calls.
`rte_eth_dev_release_port` gives back the port with its private data and its block of MAC addresses.
Nothing gives back the mapping of the PCI device or a ring: `my_pmd_close` does nothing, and setting up
a queue again overwrites the only pointer to its ring.  So a probe that fails once it has the mapping
leaves it behind, and a port that was closed and removed leaves the mapping and every ring it was ever
given (`removed_held`); the books are settled exactly in the runs that do neither
(`allSteps_settled_iff`).
-/

namespace ScullDrivers.Pmd

open Interaction Outcome Resources

/-! ## Probe and remove -/

/-- An address; `0` is `NULL`. -/
abbrev Ptr := Nat

/-- `ENOMEM`. -/
def enomem : Int := 12

/-- `struct my_pmd_private`. -/
structure PortPrivate extends MyPmdPrivate where
  mmioBase : Ptr
  portId : Nat
  macAddr : List UInt8 := [0xaa, 0xbb, 0xcc, 0xdd, 0xee, 0xff]
  linkUp : Bool := false

/-- A port, `struct rte_eth_dev` with its data. -/
structure EthDev where
  portId : Nat
  macAddrs : Ptr
  devPrivate : PortPrivate

/-- What probe and remove call. -/
inductive Call
  | rtePciMapResource
  | rteEthDevAllocate
  | rteZmalloc (size : Nat)
  | memcpy (dst : Ptr) (src : List UInt8)
  | rteEthDevReleasePort (portId : Nat)

/-- The answer to a call: a pointer, or the number of the port that was allocated, if it was. -/
abbrev Resp : Call → Type
  | .rtePciMapResource | .rteZmalloc _ => Ptr
  | .rteEthDevAllocate => Option Nat
  | .memcpy _ _ | .rteEthDevReleasePort _ => Unit

/-- Make one call. -/
abbrev pcall (e : Call) : Prog Call Resp (Resp e) := perform e

/-- How a probe ends: it returns, having set up a port or not, or it writes through `NULL`. -/
inductive Probed
  | returned (ret : Int) (dev : Option EthDev)
  | nullStore

/-- `my_pmd_pci_probe` once it has the port.  The block for the MAC addresses is written unchecked. -/
def myPmdPciProbePort (mmio : Ptr) (portId : Nat) : Prog Call Resp Probed := do
  let priv : PortPrivate := { mmioBase := mmio, portId }
  let macAddrs ← pcall (.rteZmalloc 6)
  if macAddrs = 0 then return .nullStore
  else do
    pcall (.memcpy macAddrs priv.macAddr)
    return .returned 0 (some ⟨portId, macAddrs, priv⟩)

/-- `my_pmd_pci_probe`. -/
def myPmdPciProbe : Prog Call Resp Probed := do
  let mmio ← pcall .rtePciMapResource
  if mmio = 0 then return .returned (-enomem) none
  else do
    match ← pcall .rteEthDevAllocate with
    | none => return .returned (-enomem) none
    | some portId => myPmdPciProbePort mmio portId

/-- `my_pmd_pci_remove`. -/
def myPmdPciRemove (priv : PortPrivate) : Prog Call Resp Int := do
  pcall (.rteEthDevReleasePort priv.portId)
  return 0

/-- `my_pmd_start`. -/
def myPmdStart (priv : PortPrivate) : PortPrivate := { priv with linkUp := true }

/-- `my_pmd_stop`. -/
def myPmdStop (priv : PortPrivate) : PortPrivate := { priv with linkUp := false }

/-- `my_pmd_close`. -/
def myPmdClose (priv : PortPrivate) : PortPrivate := priv

/-! ## What is held -/

/-- The registers of the PCI device are mapped, a port is allocated with its private data, it has a block
for its MAC addresses, and its queues have rings. -/
inductive Resource
  | mapping (mmio : Ptr)
  | port (portId : Nat)
  | macAddrs (block : Ptr)
  | ring (ring : Ptr)
  deriving DecidableEq

/-- What the calls of a probe return. -/
structure Answers where
  rtePciMapResource : Ptr
  rteEthDevAllocate : Option Nat
  rteZmalloc : Ptr

def Answers.answer (a : Answers) : (e : Call) → Resp e
  | .rtePciMapResource => a.rtePciMapResource
  | .rteEthDevAllocate => a.rteEthDevAllocate
  | .rteZmalloc _ => a.rteZmalloc
  | .memcpy _ _ | .rteEthDevReleasePort _ => ()

/-- What a call obtains or gives back.  `block` holds the MAC addresses of the port that is released. -/
def effect (block : Ptr) : (e : Call) → Resp e → List (Event Resource)
  | .rtePciMapResource, mmio => if mmio = 0 then [] else [.acquire (.mapping mmio)]
  | .rteEthDevAllocate, none => []
  | .rteEthDevAllocate, some portId => [.acquire (.port portId)]
  | .rteZmalloc _, p => if p = 0 then [] else [.acquire (.macAddrs p)]
  | .memcpy _ _, _ => []
  | .rteEthDevReleasePort portId, _ => [.release (.macAddrs block), .release (.port portId)]

/-- How a probe ends, and what it has done. -/
def probe (a : Answers) : Probed × List (Event Resource) :=
  myPmdPciProbe.eval (logging a.answer (effect 0)) []

/-- What the remove of a port does. -/
def removeEvents (dev : EthDev) : List (Event Resource) :=
  ((myPmdPciRemove dev.devPrivate).eval (logging (Answers.answer ⟨0, none, 0⟩)
    (effect dev.macAddrs)) []).2

/-- What setting up a queue does, which was answered with `ring`. -/
def ringEvents (ring : Ptr) : List (Event Resource) :=
  if ring = 0 then [] else [.acquire (.ring ring)]

/-! ## Calls on a port -/

/-- A port since it was probed: whether it was closed, and what was obtained and given back for it. -/
structure Life where
  dev : EthDev
  closed : Bool
  log : List (Event Resource)

/-- The life of a port with other private data, after more events. -/
def Life.next (life : Life) (priv : PortPrivate) (es : List (Event Resource)) : Life :=
  { life with
    dev := { life.dev with devPrivate := priv }
    log := life.log ++ es }

/-- A PCI device: not bound, bound with a port, or gone with the process that wrote through `NULL`. -/
inductive Slot
  | unbound
  | bound (life : Life)
  | crashed

/-- A call, with what the allocations it makes are answered. -/
inductive PortOp
  | probe (a : Answers)
  | rxQueueSetup (queueIdx nbDesc : UInt16) (ring : Ptr)
  | txQueueSetup (queueIdx nbDesc : UInt16) (ring : Ptr)
  | start
  | stop
  | close
  | remove

/-- One call. -/
inductive PortStep : Slot → PortOp → Slot → Prop
  | bind {a : Answers} {dev : EthDev} {es : List (Event Resource)} :
    probe a = (.returned 0 (some dev), es) →
    PortStep .unbound (.probe a) (.bound ⟨dev, false, es⟩)
  | refuse {a : Answers} {ret : Int} {es : List (Event Resource)} :
    probe a = (.returned ret none, es) → PortStep .unbound (.probe a) .unbound
  | crash {a : Answers} {es : List (Event Resource)} :
    probe a = (.nullStore, es) → PortStep .unbound (.probe a) .crashed
  | rxQueueSetup {life : Life} {queueIdx nbDesc : UInt16} {ring : Ptr} {ret : Int}
    {queues : MyPmdPrivate} :
    myPmdRxQueueSetup life.dev.devPrivate.toMyPmdPrivate queueIdx nbDesc (ring ≠ 0) =
      .ok (ret, queues) →
    PortStep (.bound life) (.rxQueueSetup queueIdx nbDesc ring) (.bound (life.next
      { life.dev.devPrivate with toMyPmdPrivate := queues } (ringEvents ring)))
  | txQueueSetup {life : Life} {queueIdx nbDesc : UInt16} {ring : Ptr} {ret : Int}
    {queues : MyPmdPrivate} :
    myPmdTxQueueSetup life.dev.devPrivate.toMyPmdPrivate queueIdx nbDesc (ring ≠ 0) =
      .ok (ret, queues) →
    PortStep (.bound life) (.txQueueSetup queueIdx nbDesc ring) (.bound (life.next
      { life.dev.devPrivate with toMyPmdPrivate := queues } (ringEvents ring)))
  | start {life : Life} :
    PortStep (.bound life) .start (.bound (life.next (myPmdStart life.dev.devPrivate) []))
  | stop {life : Life} :
    PortStep (.bound life) .stop (.bound (life.next (myPmdStop life.dev.devPrivate) []))
  | close {life : Life} : PortStep (.bound life) .close
      (.bound { life.next (myPmdClose life.dev.devPrivate) [] with closed := true })
  | remove {life : Life} : PortStep (.bound life) .remove .unbound

/-! ## What the calls do -/

section

variable {a : Answers} {dev : EthDev} {ret : Int} {ring : Ptr} {es : List (Event Resource)}

attribute [local simp] Answers.answer effect

/-- The port a probe sets up. -/
def setUp (a : Answers) (portId : Nat) : EthDev :=
  ⟨portId, a.rteZmalloc, { mmioBase := a.rtePciMapResource, portId }⟩

/-- The outcomes of `my_pmd_pci_probe`: nothing is given back in any of them. -/
theorem probe_cases (a : Answers) :
    (a.rtePciMapResource = 0 ∧ probe a = (.returned (-enomem) none, [])) ∨
    (a.rtePciMapResource ≠ 0 ∧ a.rteEthDevAllocate = none ∧
      probe a = (.returned (-enomem) none, [.acquire (.mapping a.rtePciMapResource)])) ∨
    (a.rtePciMapResource ≠ 0 ∧ ∃ portId, a.rteEthDevAllocate = some portId ∧ a.rteZmalloc = 0 ∧
      probe a = (.nullStore,
        [.acquire (.mapping a.rtePciMapResource), .acquire (.port portId)])) ∨
    (a.rtePciMapResource ≠ 0 ∧ ∃ portId, a.rteEthDevAllocate = some portId ∧ a.rteZmalloc ≠ 0 ∧
      probe a = (.returned 0 (some (setUp a portId)), [.acquire (.mapping a.rtePciMapResource),
        .acquire (.port portId), .acquire (.macAddrs a.rteZmalloc)])) := by
  rcases eq_or_ne a.rtePciMapResource 0 with unmapped | mapped
  · exact .inl ⟨unmapped, by simp [probe, myPmdPciProbe, unmapped]⟩
  · refine .inr ?_
    cases allocated : a.rteEthDevAllocate with
    | none =>
        refine .inl ⟨mapped, rfl, ?_⟩
        simp [probe, myPmdPciProbe, mapped, allocated]
    | some portId =>
        refine .inr ?_
        rcases eq_or_ne a.rteZmalloc 0 with noBlock | block
        · refine .inl ⟨mapped, portId, rfl, noBlock, ?_⟩
          simp [probe, myPmdPciProbe, myPmdPciProbePort, mapped, allocated, noBlock]
        · refine .inr ⟨mapped, portId, rfl, block, ?_⟩
          simp [probe, myPmdPciProbe, myPmdPciProbePort, mapped, allocated, block, setUp]

/-- `my_pmd_pci_remove` releases the port, and nothing else. -/
theorem removeEvents_eq : removeEvents dev =
    [.release (.macAddrs dev.macAddrs), .release (.port dev.devPrivate.portId)] := rfl

end

/-! ## What a port holds -/

/-- What a port obtains: `rings` are those its queues were ever given, the overwritten ones too. -/
def EthDev.obtained (dev : EthDev) (rings : List Ptr) : List Resource :=
  [.mapping dev.devPrivate.mmioBase, .port dev.portId, .macAddrs dev.macAddrs] ++ rings.map .ring

/-- Over its life the port obtained all that, and nothing was given back. -/
structure Life.Obtained (life : Life) (rings : List Ptr) : Prop where
  log : life.log = (life.dev.obtained rings).map .acquire
  portId : life.dev.devPrivate.portId = life.dev.portId

section

variable {a : Answers} {life : Life} {rings : List Ptr} {ring : Ptr} {priv : PortPrivate}
  {c c' : Slot} {op : PortOp}

theorem obtained_append {dev : EthDev} {more : List Ptr} :
    dev.obtained (rings ++ more) = dev.obtained rings ++ more.map .ring := by
  simp [EthDev.obtained]

theorem Life.Obtained.next (inv : life.Obtained rings) {more : List Ptr} {es : List (Event Resource)}
    (events : es = (more.map Resource.ring).map .acquire)
    (mmioBase : priv.mmioBase = life.dev.devPrivate.mmioBase)
    (portId : priv.portId = life.dev.devPrivate.portId) :
    (life.next priv es).Obtained (rings ++ more) where
  log := by
    have same : (life.next priv es).dev.obtained rings = life.dev.obtained rings := by
      simp [EthDev.obtained, Life.next, mmioBase]
    rw [obtained_append, same, List.map_append, ← inv.log, ← events]
    rfl
  portId := portId.trans inv.portId

/-- What a queue setup obtained: its ring, if it was granted. -/
theorem ringEvents_eq : ringEvents ring =
    ((if ring = 0 then [] else [ring]).map Resource.ring).map .acquire := by
  unfold ringEvents
  split
  · rfl
  · rfl

/-- Where a bound device has come from. -/
def Slot.Inv : Slot → Prop
  | .bound life => ∃ rings, life.Obtained rings
  | .unbound | .crashed => True

theorem PortStep.inv (step : PortStep c op c') (inv : c.Inv) : c'.Inv := by
  cases step with
  | @bind a dev es run =>
      rcases probe_cases a with ⟨-, out⟩ | ⟨-, -, out⟩ | ⟨-, portId, -, -, out⟩ | ⟨-, portId, -, -, out⟩
      all_goals cases out.symm.trans run
      exact ⟨[], rfl, rfl⟩
  | refuse run | crash run => trivial
  | rxQueueSetup run | txQueueSetup run =>
      obtain ⟨rings, inv⟩ := inv
      exact ⟨_, inv.next ringEvents_eq rfl rfl⟩
  | start | stop =>
      obtain ⟨rings, inv⟩ := inv
      exact ⟨rings ++ [], inv.next rfl rfl rfl⟩
  | @close life =>
      obtain ⟨rings, inv⟩ := inv
      have next : (life.next (myPmdClose life.dev.devPrivate) []).Obtained (rings ++ []) :=
        inv.next rfl rfl rfl
      exact ⟨rings ++ [], next.log, next.portId⟩
  | remove => trivial

/-- **What remove leaves.**  When a port is removed, closed or not, the port and its block are released
once each; the mapping and every ring its queues were ever given are still held. -/
theorem removed_held (inv : life.Obtained rings) : replay (life.log ++ removeEvents life.dev) 0 =
    some (.mapping life.dev.devPrivate.mmioBase ::ₘ ↑(rings.map Resource.ring)) := by
  have held : (↑(life.dev.obtained rings) : Multiset Resource) + 0 =
      .macAddrs life.dev.macAddrs ::ₘ .port life.dev.portId ::ₘ
        .mapping life.dev.devPrivate.mmioBase ::ₘ ↑(rings.map Resource.ring) := by
    simp only [EthDev.obtained, List.cons_append, List.nil_append, ← Multiset.cons_coe, add_zero]
    rw [Multiset.cons_swap (Resource.mapping _) (.port _),
      Multiset.cons_swap (Resource.mapping _) (.macAddrs _),
      Multiset.cons_swap (Resource.port _) (.macAddrs _)]
  rw [replay_append, inv.log, replay_acquires, Option.bind_some, removeEvents_eq, inv.portId, held,
    replay_release_cons, replay_release_cons, replay_nil]

/-! ## Balance -/

/-- The probe returned `0`. -/
def Probed.succeeded : Probed → Bool
  | .returned ret _ => ret = 0
  | .nullStore => false

/-- The books are settled by a call: a probe that does not succeed, one that writes through `NULL`
included, leaves nothing held, and the remove of a closed port leaves nothing that was ever obtained for
it, each of it given back once. -/
def Settled (c : Slot) : PortOp → Prop
  | .probe a => (probe a).1.succeeded = false → NetZero (probe a).2
  | .remove => ∀ life, c = .bound life → life.closed = true →
      NetZero (life.log ++ removeEvents life.dev)
  | .rxQueueSetup _ _ _ | .txQueueSetup _ _ _ | .start | .stop | .close => True

/-- A probe that gets the mapping gets the port and the block as well, and a port that is removed was
not closed. -/
def Spared (c : Slot) : PortOp → Prop
  | .probe a => a.rtePciMapResource ≠ 0 → a.rteEthDevAllocate.isSome ∧ a.rteZmalloc ≠ 0
  | .remove => ∀ life, c = .bound life → life.closed = false
  | .rxQueueSetup _ _ _ | .txQueueSetup _ _ _ | .start | .stop | .close => True

theorem probe_settled_iff : Settled c (.probe a) ↔ Spared c (.probe a) := by
  unfold Settled Spared
  rcases probe_cases a with ⟨unmapped, out⟩ | ⟨mapped, none, out⟩ |
    ⟨mapped, portId, allocated, noBlock, out⟩ | ⟨mapped, portId, allocated, block, out⟩
  · simp [out, unmapped, NetZero]
  · simp [out, mapped, none, NetZero, Probed.succeeded, enomem]
  · simp [out, mapped, allocated, noBlock, NetZero, Probed.succeeded]
  · simp [out, mapped, allocated, block, Probed.succeeded]

/-- A port that is removed still holds its mapping. -/
theorem remove_not_netZero (inv : life.Obtained rings) :
    ¬ NetZero (life.log ++ removeEvents life.dev) := by
  intro balanced
  have same := (removed_held inv).symm.trans balanced
  exact Multiset.cons_ne_zero (Option.some_injective _ same)

theorem PortStep.settled_iff (step : PortStep c op c') (inv : c.Inv) :
    Settled c op ↔ Spared c op := by
  cases step with
  | bind run | refuse run | crash run => exact probe_settled_iff
  | rxQueueSetup run | txQueueSetup run | start | stop | close => exact Iff.rfl
  | remove =>
      obtain ⟨rings, inv⟩ := inv
      constructor
      · intro settled life same
        cases same
        rw [← Bool.not_eq_true]
        exact fun closed => remove_not_netZero inv (settled _ rfl closed)
      · intro spared life same closed
        rw [spared life same] at closed
        cases closed

theorem run_inv {past : List (Slot × PortOp)} (run : Run PortStep .unbound past c) : c.Inv := by
  have steps : AllSteps (fun _ _ => True) past := fun _ _ => trivial
  exact (run.always trivial (fun step _ inv => step.inv inv) steps).2

/-- **Balance of a port.**  In a run the books are settled by every probe that fails and by every remove
of a closed port when, and only when, each probe that gets its mapping gets all the rest and no port is
removed after it was closed. -/
theorem allSteps_settled_iff {past : List (Slot × PortOp)} (run : Run PortStep .unbound past c) :
    AllSteps Settled past ↔ AllSteps Spared past := by
  have start : Slot.unbound.Inv := trivial
  exact run.allSteps_iff start (fun step inv => step.settled_iff inv) fun step _ inv => step.inv inv

end

/-! ## A port that is closed -/

/-- A probe that does not get the mapping, one that succeeds, and the first queue set up twice before the
port is closed. -/
theorem exists_closed : ∃ past life, Run PortStep .unbound past (.bound life) ∧
    past.map Prod.snd = [.probe ⟨0, none, 0⟩, .probe ⟨16, some 1, 32⟩, .rxQueueSetup 0 4 48,
      .rxQueueSetup 0 8 64, .stop, .close] ∧ life.closed = true ∧ AllSteps Spared past := by
  have refused := Run.nil.snoc (PortStep.refuse (a := ⟨0, none, 0⟩) rfl)
  have bound := refused.snoc (.bind (a := ⟨16, some 1, 32⟩) rfl)
  have first := bound.snoc (@PortStep.rxQueueSetup _ 0 4 48 _ _ rfl)
  have second := first.snoc (@PortStep.rxQueueSetup _ 0 8 64 _ _ rfl)
  refine ⟨_, _, (second.snoc .stop).snoc .close, rfl, rfl, ?_⟩
  simp only [allSteps_snoc, allSteps_nil, Spared]
  simp

/-- The books are settled as long as it is not removed. -/
theorem allSteps_settled_closed : ∃ past life, Run PortStep .unbound past (.bound life) ∧
    past.length = 6 ∧ life.closed = true ∧ AllSteps Settled past := by
  obtain ⟨past, life, run, calls, closed, spared⟩ := exists_closed
  have six := congrArg List.length calls
  rw [List.length_map] at six
  exact ⟨past, life, run, six, closed, (allSteps_settled_iff run).mpr spared⟩

/-- Removing it leaves its mapping and both rings. -/
theorem not_allSteps_settled : ¬ ∀ (past : List (Slot × PortOp)) (c : Slot),
    Run PortStep .unbound past c → AllSteps Settled past := by
  intro claim
  obtain ⟨past, life, run, -, closed, -⟩ := exists_closed
  have settled := (allSteps_snoc.mp (claim _ _ (run.snoc .remove))).2
  obtain ⟨rings, inv⟩ := run_inv run
  exact remove_not_netZero inv (settled life rfl closed)

end ScullDrivers.Pmd
