import ScullDrivers.Interaction.Protocol
import ScullDrivers.Nic.System

/-!
# What `mynic_probe` publishes, and when

`register_netdev` lets the kernel open the interface and `request_irq` lets interrupts in, but
`mynic_probe` initialises the NAPI context only after both, with its last call.  `PciNext` is the
protocol of probe, of its error exits and of remove; each stage tells whether the interface is
registered, the handler requested and the NAPI context added (`PciLedger`).

A NAPI call is made on an uninitialised context exactly when `mynic_open` or the handler reaches its
NAPI call while `mynic_probe` still has calls to make (`napi_initialised_iff`): every other order of
the callers with probe, its error exits and remove is safe.
-/

namespace ScullDrivers.Nic

open Interaction

/-! ## The protocol of probe and remove -/

/-- How far probe or remove is.  The flag of an unwinding stage tells whether the NAPI context is
still to be deleted: remove has it, a failing probe has not. -/
inductive PciStage
  | hidden | published | live | probed
  | ready | masked | locked (added : Bool) | closing (added : Bool) | unlisted (added : Bool)
  | withdrawn | gone

/-- The calls that neither publish nor withdraw anything. -/
def ResourceCalls : Call → Prop
  | .pciEnableDevice | .pciRequestRegion | .pciIomap | .storeMmio _ | .loadMmio | .spinLockInit
  | .pciSetDrvdata _ | .pciGetDrvdata | .freeNetdev _ | .pciIounmap _ | .pciReleaseRegion
  | .pciDisableDevice => True
  | _ => False

/-- The calls of `mynic_stop`, as `unregister_netdev` makes it. -/
def CloseCalls : Call → Prop
  | .writelControl _ | .netifStopQueue | .napiDisable => True
  | _ => False

/-- The protocol of `mynic_probe` and `mynic_remove`. -/
inductive PciNext : PciStage → (e : Call) → Resp e → PciStage → Prop
  | resource {g : PciStage} {e : Call} {r : Resp e} : g ≠ .probed → ResourceCalls e →
    PciNext g e r g
  | alloc {netdev : Ptr} : PciNext .hidden .allocEtherdev netdev .hidden
  | register {netdev : Ptr} : PciNext .hidden (.registerNetdev netdev) (0 : Int) .published
  | registerFails {netdev : Ptr} {err : Int} : err ≠ 0 →
    PciNext .hidden (.registerNetdev netdev) err .gone
  | request {netdev : Ptr} : PciNext .published (.requestIrq netdev) (0 : Int) .live
  | requestFails {netdev : Ptr} {err : Int} : err ≠ 0 →
    PciNext .published (.requestIrq netdev) err .published
  | add {netdev : Ptr} : PciNext .live (.netifNapiAdd netdev) () .probed
  | mask {netdev : Ptr} : PciNext .ready (.freeIrq netdev) () .masked
  | lockProbe : PciNext .published .rtnlLock () (.locked false)
  | lockRemove : PciNext .masked .rtnlLock () (.locked true)
  | running {added : Bool} : PciNext (.locked added) .netifRunning true (.closing added)
  | notRunning {added : Bool} : PciNext (.locked added) .netifRunning false (.locked added)
  | close {added : Bool} {e : Call} {r : Resp e} : CloseCalls e →
    PciNext (.closing added) e r (.closing added)
  | unlist {added : Bool} {netdev : Ptr} :
    PciNext (.locked added) (.unlistNetdevice netdev) () (.unlisted added)
  | unlistClosed {added : Bool} {netdev : Ptr} :
    PciNext (.closing added) (.unlistNetdevice netdev) () (.unlisted added)
  | unlockProbe : PciNext (.unlisted false) .rtnlUnlock () .gone
  | unlockRemove : PciNext (.unlisted true) .rtnlUnlock () .withdrawn
  | delete : PciNext .withdrawn .netifNapiDel () .gone

/-- A probe that succeeds has done everything; one that fails has withdrawn what it published. -/
def ProbePost (err : Int) (g : PciStage) : Prop :=
  (err = 0 ∧ g = .probed) ∨ (err ≠ 0 ∧ (g = .hidden ∨ g = .gone))

section Follows

/-- `unregister_netdev` withdraws the interface. -/
theorem unregisterNetdev_follows {netdev : Ptr} {g g' : PciStage} {added : Bool}
    (lock : PciNext g .rtnlLock () (.locked added))
    (unlock : PciNext (.unlisted added) .rtnlUnlock () g') :
    (unregisterNetdev netdev).Follows PciNext (fun _ h => h = g') g := by
  have ending : ∀ {h}, PciNext h (.unlistNetdevice netdev) () (.unlisted added) →
      (kcall (.unlistNetdevice netdev) >>= fun _ => kcall .rtnlUnlock).Follows PciNext
        (fun _ h => h = g') h := fun unlist _ => ⟨_, unlist, fun _ => ⟨_, unlock, rfl⟩⟩
  refine fun _ => ⟨_, lock, fun running => ?_⟩
  cases running with
  | false => exact ⟨_, .notRunning, ending .unlist⟩
  | true =>
      refine ⟨_, .running, fun _ => ⟨_, .close trivial, fun _ => ⟨_, .close trivial, fun _ =>
        ⟨_, .close trivial, ?_⟩⟩⟩⟩
      exact ending .unlistClosed

section Unwind

variable {mmio netdev : Ptr} {err : Int} {g : PciStage}

/-- The labels below `err_unregister_netdev` release resources only. -/
theorem errDisablePci_follows (fail : err ≠ 0) (off : g = .hidden ∨ g = .gone) :
    (errDisablePci err).Follows PciNext ProbePost g := by
  refine fun _ => ⟨g, .resource ?_ trivial, .inr ⟨fail, off⟩⟩
  rcases off with rfl | rfl <;> exact PciStage.noConfusion

theorem errReleaseRegion_follows (fail : err ≠ 0) (off : g = .hidden ∨ g = .gone) :
    (errReleaseRegion err).Follows PciNext ProbePost g := by
  refine fun _ => ⟨g, .resource ?_ trivial, errDisablePci_follows fail off⟩
  rcases off with rfl | rfl <;> exact PciStage.noConfusion

theorem errIounmap_follows (fail : err ≠ 0) (off : g = .hidden ∨ g = .gone) :
    (errIounmap mmio err).Follows PciNext ProbePost g := by
  refine fun _ => ⟨g, .resource ?_ trivial, errReleaseRegion_follows fail off⟩
  rcases off with rfl | rfl <;> exact PciStage.noConfusion

theorem errFreeNetdev_follows (fail : err ≠ 0) (off : g = .hidden ∨ g = .gone) :
    (errFreeNetdev mmio netdev err).Follows PciNext ProbePost g := by
  refine fun _ => ⟨g, .resource ?_ trivial, errIounmap_follows fail off⟩
  rcases off with rfl | rfl <;> exact PciStage.noConfusion

end Unwind

theorem mynicProbeIrq_follows {mmio netdev : Ptr} :
    (mynicProbeIrq mmio netdev).Follows PciNext ProbePost .published := by
  simp only [mynicProbeIrq, perform_bind, pure_eq, follows_call]
  intro err
  by_cases fail : err = 0
  · subst fail
    exact ⟨.live, .request, fun _ => ⟨.probed, .add, .inl ⟨rfl, rfl⟩⟩⟩
  · refine ⟨.published, .requestFails fail, ?_⟩
    have unwind : (errUnregisterNetdev mmio netdev err).Follows PciNext ProbePost .published :=
      (unregisterNetdev_follows .lockProbe .unlockProbe).bind fun _ _ gone =>
        errFreeNetdev_follows fail (.inr gone)
    rw [if_pos fail]
    exact unwind

theorem mynicProbeNetdev_follows {mmio : Ptr} :
    (mynicProbeNetdev mmio).Follows PciNext ProbePost .hidden := by
  simp only [mynicProbeNetdev, perform_bind, follows_call]
  refine fun netdev => ⟨.hidden, .alloc, ?_⟩
  by_cases null : netdev = 0
  · rw [if_pos null]
    exact errIounmap_follows (by decide) (.inl rfl)
  · rw [if_neg null]
    simp only [follows_call]
    refine fun _ => ⟨.hidden, .resource PciStage.noConfusion trivial, fun _ => ⟨.hidden, .resource
      PciStage.noConfusion trivial, fun _ => ⟨.hidden, .resource PciStage.noConfusion trivial,
      fun err => ?_⟩⟩⟩
    by_cases fail : err = 0
    · subst fail
      exact ⟨.published, .register, mynicProbeIrq_follows⟩
    · refine ⟨.gone, .registerFails fail, ?_⟩
      rw [if_pos fail]
      exact errFreeNetdev_follows fail (.inr rfl)

/-- `mynic_probe` publishes in the order of the protocol, and withdraws all of it when it fails. -/
theorem mynicProbe_follows : mynicProbe.Follows PciNext ProbePost .hidden := by
  have resource : ∀ {e r}, ResourceCalls e → PciNext .hidden e r .hidden := fun call =>
    .resource PciStage.noConfusion call
  simp only [mynicProbe, perform_bind, pure_eq, follows_call]
  refine fun err => ⟨.hidden, resource trivial, ?_⟩
  by_cases fail : err = 0
  · rw [if_neg (not_not.mpr fail), follows_call]
    refine fun err => ⟨.hidden, resource trivial, ?_⟩
    by_cases fail : err = 0
    · rw [if_neg (not_not.mpr fail), follows_call]
      refine fun mmio => ⟨.hidden, resource trivial, ?_⟩
      by_cases null : mmio = 0
      · rw [if_pos null]
        exact errReleaseRegion_follows (by decide) (.inl rfl)
      · rw [if_neg null]
        exact mynicProbeNetdev_follows
    · rw [if_pos fail]
      exact errDisablePci_follows fail (.inl rfl)
  · rw [if_pos fail]
    exact .inr ⟨fail, .inl rfl⟩

/-- `mynic_remove` withdraws everything. -/
theorem mynicRemove_follows : mynicRemove.Follows PciNext (fun _ g => g = .gone) .ready := by
  have resource : ∀ {e r}, ResourceCalls e → PciNext .gone e r .gone := fun call =>
    .resource PciStage.noConfusion call
  refine fun netdev => ⟨.ready, .resource PciStage.noConfusion trivial, fun _ => ⟨.masked, .mask, ?_⟩⟩
  refine (unregisterNetdev_follows .lockRemove .unlockRemove).bind fun _ g withdrawn => ?_
  subst withdrawn
  exact fun _ => ⟨.gone, .delete, fun mmio => ⟨.gone, resource trivial, fun _ => ⟨.gone,
    resource trivial, fun _ => ⟨.gone, resource trivial, fun _ => ⟨.gone, resource trivial,
    fun _ => ⟨.gone, resource trivial, rfl⟩⟩⟩⟩⟩⟩

end Follows

/-! ## What each stage has published -/

/-- The interface is registered. -/
def PciStage.registered : PciStage → Bool
  | .published | .live | .probed | .ready | .masked | .locked _ | .closing _ => true
  | _ => false

/-- The interrupt handler is requested. -/
def PciStage.irqRequested : PciStage → Bool
  | .live | .probed | .ready => true
  | _ => false

/-- The NAPI context is initialised. -/
def PciStage.added : PciStage → Bool
  | .probed | .ready | .masked | .withdrawn => true
  | .locked added | .closing added | .unlisted added => added
  | _ => false

/-- `unregister_netdev` holds the rtnl lock. -/
def PciStage.underRtnl : PciStage → Bool
  | .locked _ | .closing _ | .unlisted _ => true
  | _ => false

/-- Stages of remove only. -/
def PciStage.ofRemove : PciStage → Bool
  | .ready | .masked | .withdrawn => true
  | .locked added | .closing added | .unlisted added => added
  | _ => false

/-- What a stage says about the state. -/
structure PciLedger (g : PciStage) (s : State Context) : Prop where
  registered : s.registered = g.registered
  irqRequested : s.irqRequested = g.irqRequested
  added : s.napi.added = g.added
  rtnl : g.underRtnl = true → s.rtnl = some .pci
  /-- Only an interface that was opened is closed. -/
  closing : g ≠ .closing false
  unregistered : g.registered = false → s.iface = .fresh
  /-- No `mynic_open` has returned yet. -/
  unopened : g.added = false → s.iface = .fresh ∨ s.iface = .opening

/-- Two states that do not differ in what probe and remove publish. -/
structure SamePublished (s s' : State Context) : Prop where
  registered : s'.registered = s.registered
  irqRequested : s'.irqRequested = s.irqRequested
  added : s'.napi.added = s.napi.added
  rtnl : s'.rtnl = s.rtnl
  iface : s'.iface = s.iface
  irqRunning : s'.irqRunning = s.irqRunning
  binding : s'.binding = s.binding

section Ledger

variable {g g' : PciStage} {e : Call} {r : Resp e} {s s' : State Context} {i : Context}

theorem PciLedger.of_same (led : PciLedger g s) (same : SamePublished s s') : PciLedger g s' where
  registered := same.registered.trans led.registered
  irqRequested := same.irqRequested.trans led.irqRequested
  added := same.added.trans led.added
  rtnl := fun under => same.rtnl.trans (led.rtnl under)
  closing := led.closing
  unregistered := fun off => same.iface.trans (led.unregistered off)
  unopened := by
    rw [same.iface]
    exact led.unopened

theorem Napi.schedule_added (n : Napi) : n.schedule.added = n.added := by
  unfold Napi.schedule
  split
  · split <;> rfl
  · rfl

theorem Napi.complete_added (n : Napi) : n.complete.added = n.added := by
  unfold Napi.complete
  split <;> rfl

/-- The callers publish nothing. -/
theorem samePublished_of_calls (bound : i ≠ .pci) (own : i.calls e) :
    SamePublished s (effect i e s r) := by
  cases e with
  | napiSchedule => exact ⟨rfl, rfl, Napi.schedule_added _, rfl, rfl, rfl, rfl⟩
  | napiCompleteDone => exact ⟨rfl, rfl, Napi.complete_added _, rfl, rfl, rfl, rfl⟩
  | pciEnableDevice | pciRequestRegion | pciIomap | allocEtherdev | storeMmio | loadMmio
  | spinLockInit | pciSetDrvdata | pciGetDrvdata | registerNetdev | requestIrq | netifNapiAdd
  | netifNapiDel | freeIrq | freeNetdev | pciIounmap | pciReleaseRegion | pciDisableDevice
  | rtnlLock | rtnlUnlock | netifRunning | unlistNetdevice =>
      cases i with
      | pci => exact absurd rfl bound
      | _ => exact own.elim
  | _ => exact ⟨rfl, rfl, rfl, rfl, rfl, rfl, rfl⟩

theorem samePublished_of_resource (call : ResourceCalls e) : SamePublished s (effect i e s r) := by
  cases e with
  | pciEnableDevice | pciRequestRegion | pciIomap | storeMmio | loadMmio | spinLockInit
  | pciSetDrvdata | pciGetDrvdata | freeNetdev | pciIounmap | pciReleaseRegion
  | pciDisableDevice => exact ⟨rfl, rfl, rfl, rfl, rfl, rfl, rfl⟩
  | _ => exact call.elim

theorem samePublished_of_close (call : CloseCalls e) : SamePublished s (effect i e s r) := by
  cases e with
  | writelControl | netifStopQueue | napiDisable => exact ⟨rfl, rfl, rfl, rfl, rfl, rfl, rfl⟩
  | _ => exact call.elim

/-- One call of probe or remove. -/
theorem PciLedger.call (led : PciLedger g s) (next : PciNext g e r g') (answer : returns e s r) :
    PciLedger g' (effect .pci e s r) := by
  cases next with
  | resource last call => exact led.of_same (samePublished_of_resource call)
  | @alloc netdev =>
      by_cases null : netdev = 0
      · rw [show effect Context.pci .allocEtherdev s netdev = s from if_pos null]
        exact led
      · rw [show effect Context.pci .allocEtherdev s netdev = s.allocNetdev netdev from if_neg null]
        exact ⟨led.registered, led.irqRequested, rfl, led.rtnl, led.closing, fun _ => rfl,
          fun _ => .inl rfl⟩
  | register =>
      exact ⟨rfl, led.irqRequested, led.added, led.rtnl, PciStage.noConfusion,
        fun off => Bool.noConfusion off, fun _ => .inl (led.unregistered rfl)⟩
  | @registerFails _ err fail =>
      refine ⟨?_, led.irqRequested, led.added, led.rtnl, PciStage.noConfusion, led.unregistered,
        led.unopened⟩
      show (decide (err = 0) || s.registered) = false
      rw [decide_eq_false fail, led.registered]
      rfl
  | request =>
      exact ⟨led.registered, rfl, led.added, led.rtnl, PciStage.noConfusion, led.unregistered,
        led.unopened⟩
  | @requestFails _ err fail =>
      refine ⟨led.registered, ?_, led.added, led.rtnl, PciStage.noConfusion, led.unregistered,
        led.unopened⟩
      show (decide (err = 0) || s.irqRequested) = false
      rw [decide_eq_false fail, led.irqRequested]
      rfl
  | add =>
      exact ⟨led.registered, led.irqRequested, rfl, led.rtnl, PciStage.noConfusion,
        led.unregistered, fun off => Bool.noConfusion off⟩
  | mask =>
      exact ⟨led.registered, rfl, led.added, led.rtnl, PciStage.noConfusion, led.unregistered,
        led.unopened⟩
  | lockProbe | lockRemove =>
      exact ⟨led.registered, led.irqRequested, led.added, fun _ => rfl, PciStage.noConfusion,
        led.unregistered, led.unopened⟩
  | @running added =>
      have up : s.iface = .up := of_decide_eq_true answer.symm
      refine ⟨led.registered, led.irqRequested, led.added, led.rtnl, fun same => ?_,
        led.unregistered, led.unopened⟩
      cases same
      rcases led.unopened rfl with fresh | opening
      · cases fresh.symm.trans up
      · cases opening.symm.trans up
  | notRunning => exact led
  | close call => exact led.of_same (samePublished_of_close call)
  | unlist | unlistClosed =>
      exact ⟨rfl, led.irqRequested, led.added, led.rtnl, PciStage.noConfusion, fun _ => rfl,
        fun _ => .inl rfl⟩
  | unlockProbe | unlockRemove =>
      exact ⟨led.registered, led.irqRequested, led.added, fun under => Bool.noConfusion under,
        PciStage.noConfusion, led.unregistered, led.unopened⟩
  | delete =>
      exact ⟨led.registered, led.irqRequested, rfl, led.rtnl, PciStage.noConfusion,
        led.unregistered, fun _ => .inl (led.unregistered rfl)⟩

/-- Probe and remove leave a running `mynic_open` or `mynic_stop` alone. -/
theorem PciLedger.keepsNet (led : PciLedger g s) (next : PciNext g e r g') (answer : returns e s r)
    (held : s.rtnl = some .net) (registered : g.registered = true) :
    (effect .pci e s r).rtnl = some .net ∧ g'.registered = true ∧
      (g.added = true → g'.added = true) := by
  cases next with
  | resource last call =>
      exact ⟨(samePublished_of_resource call).rtnl.trans held, registered, id⟩
  | request | requestFails | mask => exact ⟨held, rfl, id⟩
  | add => exact ⟨held, rfl, fun _ => rfl⟩
  | lockProbe | lockRemove =>
      have free : s.rtnl = none := answer
      cases free.symm.trans held
  | running | notRunning | close | unlist | unlistClosed => cases (led.rtnl rfl).symm.trans held
  | _ => cases registered

/-- Probe and remove leave a running handler requested. -/
theorem PciNext.keepsIrq (next : PciNext g e r g') (answer : returns e s r)
    (handling : s.irqRunning = true) (requested : g.irqRequested = true) :
    (effect .pci e s r).irqRunning = true ∧ g'.irqRequested = true := by
  cases next with
  | resource last call =>
      exact ⟨(samePublished_of_resource call).irqRunning.trans handling, requested⟩
  | add => exact ⟨handling, rfl⟩
  | mask =>
      have quiet : s.irqRunning = false := answer
      cases quiet.symm.trans handling
  | _ => cases requested

end Ledger

/-! ## The property -/

/-- `napi_enable`, `napi_disable` and `napi_schedule` are applied to an initialised context. -/
def NapiInitialised (c : NicConfig) : NicMove → Prop
  | .call _ .napiEnable _ | .call _ .napiDisable _ | .call _ .napiSchedule _ =>
      c.state.napi.added = true
  | _ => True

/-- `mynic_probe` has calls left to make. -/
def ProbeUnfinished (c : NicConfig) : Prop :=
  c.state.binding = .probing ∧ ∃ e k, c.threads .pci = some (.call e k)

/-- Neither `mynic_open` nor the handler makes its NAPI call while `mynic_probe` has calls left. -/
def AfterProbe (c : NicConfig) : NicMove → Prop
  | .call .net .napiEnable _ | .call .irq .napiSchedule _ => ¬ ProbeUnfinished c
  | _ => True

/-- Every caller, probe and remove included. -/
def everyCaller (_ : Context) : Bool := true

/-- A device no driver is bound to. -/
structure Unbound (c : NicConfig) : Prop where
  threads : ∀ i, c.threads i = none
  binding : c.state.binding = .unbound
  registered : c.state.registered = false
  irqRequested : c.state.irqRequested = false
  added : c.state.napi.added = false
  iface : c.state.iface = .fresh

/-! ## The invariant -/

/-- The stage of probe or remove, and the one they left behind. -/
inductive PciAt (c : NicConfig) : PciStage → Prop
  | unbound : c.state.binding = .unbound → c.threads .pci = none → PciAt c .hidden
  | bound : c.state.binding = .bound → c.threads .pci = none → PciAt c .probed
  | probing {g : PciStage} {p : Code} : c.state.binding = .probing → c.threads .pci = some p →
    p.Follows PciNext ProbePost g → g.ofRemove = false → PciAt c g
  | removing {g : PciStage} {p : Code} : c.state.binding = .removing → c.threads .pci = some p →
    p.Follows PciNext (fun _ g => g = .gone) g → g.ofRemove = true ∨ g = .gone → PciAt c g

/-- What holds between any two steps. -/
structure PubInv (b : Externs) (c : NicConfig) (g : PciStage) : Prop where
  within : WithinCalls c
  pci : PciAt c g
  ledger : PciLedger g c.state
  /-- The interface is opened and stopped only while it is registered, under the rtnl lock, and it
  has made no NAPI call before the context was added. -/
  net : ∀ p, c.threads .net = some p →
    c.state.rtnl = some .net ∧ g.registered = true ∧ (g.added = true ∨ p = mynicOpen b)
  /-- The handler runs only while it is requested. -/
  irq : ∀ p, c.threads .irq = some p → c.state.irqRunning = true ∧ g.irqRequested = true

section

variable {b : Externs} {c₀ c c' : NicConfig} {m : NicMove} {past : List (NicConfig × NicMove)}
  {g g' : PciStage} {e : Call} {r : Resp e}

theorem PciAt.of_same (stage : PciAt c g) (threads : c'.threads .pci = c.threads .pci)
    (binding : c'.state.binding = c.state.binding) : PciAt c' g := by
  cases stage with
  | unbound unbound idle => exact .unbound (binding.trans unbound) (threads.trans idle)
  | bound bound idle => exact .bound (binding.trans bound) (threads.trans idle)
  | probing probing running follows own =>
      exact .probing (binding.trans probing) (threads.trans running) follows own
  | removing removing running follows own =>
      exact .removing (binding.trans removing) (threads.trans running) follows own

/-- A probe stays in its own stages, and so does a remove. -/
theorem PciNext.ofRemove (next : PciNext g e r g') :
    (g.ofRemove = false → g'.ofRemove = false) ∧
      (g.ofRemove = true ∨ g = .gone → g'.ofRemove = true ∨ g' = .gone) := by
  cases next with
  | resource last call => exact ⟨id, id⟩
  | alloc | register | registerFails | request | requestFails | add | lockProbe =>
      exact ⟨id, fun own => by rcases own with own | own <;> cases own⟩
  | mask | lockRemove => exact ⟨fun own => Bool.noConfusion own, fun _ => .inl rfl⟩
  | running | notRunning | close | unlist | unlistClosed =>
      exact ⟨id, fun own => own.imp_right fun same => by cases same⟩
  | unlockProbe => exact ⟨fun _ => rfl, fun _ => .inr rfl⟩
  | unlockRemove => exact ⟨fun own => Bool.noConfusion own, fun _ => .inl rfl⟩
  | delete => exact ⟨fun own => Bool.noConfusion own, fun _ => .inr rfl⟩

/-- The last call of `mynic_probe` is the one that adds the NAPI context. -/
theorem PciNext.not_probed : ¬ PciNext .probed e r g' := by
  intro next
  cases next with
  | resource last call => exact last rfl

/-- Probe and remove disable the context at most, when they close the interface. -/
theorem PciNext.napi (next : PciNext g e r g') :
    e ≠ .napiEnable ∧ e ≠ .napiSchedule ∧ (e = .napiDisable → ∃ added, g = .closing added) := by
  cases next with
  | resource last call =>
      refine ⟨?_, ?_, ?_⟩ <;>
        · intro same
          subst same
          exact call.elim
  | close call =>
      refine ⟨?_, ?_, fun _ => ⟨_, rfl⟩⟩ <;>
        · intro same
          subst same
          exact call.elim
  | _ => exact ⟨Call.noConfusion, Call.noConfusion, fun same => by cases same⟩

theorem effect_binding {i : Context} {s : State Context} : (effect i e s r).binding = s.binding := by
  cases e with
  | allocEtherdev =>
      by_cases null : r = 0
      · simp only [effect, null, if_true]
      · simp only [effect, null, if_false, State.allocNetdev]
  | _ => rfl

/-- One call of probe or remove: the protocol allows it. -/
theorem PciAt.call {k : Resp e → Code} (stage : PciAt c g)
    (head : c.threads .pci = some (.call e k)) (r : Resp e) :
    ∃ g', PciNext g e r g' ∧
      ∀ s : State Context, s.binding = c.state.binding → PciAt (c.set s .pci (some (k r))) g' := by
  cases stage with
  | unbound unbound idle => cases idle.symm.trans head
  | bound bound idle => cases idle.symm.trans head
  | probing probing running follows own =>
      cases head.symm.trans running
      obtain ⟨g', next, rest⟩ := follows r
      exact ⟨g', next, fun s same => .probing (same.trans probing) rfl rest (next.ofRemove.1 own)⟩
  | removing removing running follows own =>
      cases head.symm.trans running
      obtain ⟨g', next, rest⟩ := follows r
      exact ⟨g', next, fun s same => .removing (same.trans removing) rfl rest (next.ofRemove.2 own)⟩

/-- While `mynic_probe` has calls left the context is not initialised. -/
theorem PubInv.not_added (inv : PubInv b c g) (unfinished : ProbeUnfinished c) :
    g.added = false := by
  obtain ⟨probing, e, k, head⟩ := unfinished
  cases inv.pci with
  | unbound unbound idle => cases probing.symm.trans unbound
  | bound bound idle => cases probing.symm.trans bound
  | removing removing running follows own => cases probing.symm.trans removing
  | probing _ running follows own =>
      cases head.symm.trans running
      cases g with
      | hidden | published | live | gone => rfl
      | locked | closing | unlisted => exact own
      | ready | masked | withdrawn => cases own
      | probed =>
          obtain ⟨a, returned, -⟩ := follows.returned fun _ _ _ => PciNext.not_probed
          cases returned

/-- Otherwise a registered interface has its context initialised. -/
theorem PubInv.added (inv : PubInv b c g) (finished : ¬ ProbeUnfinished c)
    (registered : g.registered = true) : g.added = true := by
  cases inv.pci with
  | unbound unbound idle => cases registered
  | bound bound idle => rfl
  | @probing _ p probing running follows own =>
      cases p with
      | call e k => exact absurd ⟨probing, e, k, running⟩ finished
      | ret err =>
          rcases follows with ⟨-, rfl⟩ | ⟨-, rfl | rfl⟩
          · rfl
          · cases registered
          · cases registered
  | removing removing running follows own =>
      rcases own with own | rfl
      · cases g with
        | hidden | published | live | probed | gone => cases own
        | ready | masked | withdrawn => rfl
        | locked | closing | unlisted => exact own
      · cases registered

/-- A requested handler belongs to a registered interface. -/
theorem PciStage.registered_of_irqRequested (requested : g.irqRequested = true) :
    g.registered = true := by
  cases g with
  | live | probed | ready => rfl
  | _ => cases requested

/-- The contexts that enable or schedule NAPI run while the interface is registered, so the context is
initialised exactly when no probe is unfinished. -/
theorem PubInv.added_iff {i : Context} {k : Resp e → Code} (inv : PubInv b c g)
    (head : c.threads i = some (.call e k)) (caller : i = .net ∨ i = .irq) :
    c.state.napi.added = true ↔ ¬ ProbeUnfinished c := by
  have registered : g.registered = true := by
    rcases caller with rfl | rfl
    · exact (inv.net _ head).2.1
    · exact PciStage.registered_of_irqRequested (inv.irq _ head).2
  rw [inv.ledger.added]
  refine ⟨fun on unfinished => ?_, fun finished => inv.added finished registered⟩
  cases on.symm.trans (inv.not_added unfinished)

/-- `napi_disable` finds the context initialised: the interface was opened, or is being removed. -/
theorem PubInv.added_of_disable {i : Context} {k : Resp .napiDisable → Code} (inv : PubInv b c g)
    (head : c.threads i = some (.call .napiDisable k)) : c.state.napi.added = true := by
  have added := inv.ledger.added
  cases i with
  | net =>
      rcases (inv.net _ head).2.2 with on | fresh
      · exact added.trans on
      · cases fresh
  | pci =>
      obtain ⟨g', next, -⟩ := inv.pci.call head ()
      obtain ⟨on, rfl⟩ := next.napi.2.2 rfl
      cases on with
      | true => exact added
      | false => exact absurd rfl inv.ledger.closing
  | xmit | irq | poll => exact (inv.within.head head).elim

/-- A NAPI call is made on an initialised context exactly when the condition holds. -/
theorem PubInv.napiInitialised_iff (inv : PubInv b c g) (step : (nic b everyCaller).Step c m c') :
    NapiInitialised c m ↔ AfterProbe c m := by
  cases step with
  | start | finish | device => exact Iff.rfl
  | @call i e k r head may answer =>
      have own := inv.within.head head
      cases e with
      | napiEnable =>
          cases i with
          | net => exact inv.added_iff head (.inl rfl)
          | pci =>
              obtain ⟨g', next, -⟩ := inv.pci.call head r
              exact absurd rfl next.napi.1
          | xmit | irq | poll => exact own.elim
      | napiSchedule =>
          cases i with
          | irq => exact inv.added_iff head (.inr rfl)
          | pci =>
              obtain ⟨g', next, -⟩ := inv.pci.call head r
              exact absurd rfl next.napi.2.1
          | xmit | net | poll => exact own.elim
      | napiDisable =>
          have added := inv.added_of_disable head
          cases i <;> exact iff_of_true added trivial
      | _ => cases i <;> exact Iff.rfl

/-- The invariant after a step that publishes nothing and leaves these contexts alone. -/
theorem PubInv.of_same (inv : PubInv b c g) (within : WithinCalls c')
    (same : SamePublished c.state c'.state) (pci : c'.threads .pci = c.threads .pci)
    (net : c'.threads .net = c.threads .net) (irq : c'.threads .irq = c.threads .irq) :
    PubInv b c' g where
  within := within
  pci := inv.pci.of_same pci same.binding
  ledger := inv.ledger.of_same same
  net := by
    rw [net, same.rtnl]
    exact inv.net
  irq := by
    rw [irq, same.irqRunning]
    exact inv.irq

/-- A request of the kernel. -/
theorem PubInv.start {q : Request} (inv : PubInv b c g) (idle : c.threads q.context = none)
    (admits : c.state.admits q)
    (within : WithinCalls (c.set (c.state.enter q) q.context (some (q.code b)))) :
    ∃ g', PubInv b (c.set (c.state.enter q) q.context (some (q.code b))) g' := by
  have led := inv.ledger
  cases q with
  | probe =>
      cases inv.pci with
      | unbound =>
          exact ⟨.hidden, within, .probing rfl rfl mynicProbe_follows rfl,
            ⟨led.registered, led.irqRequested, led.added, led.rtnl, led.closing, led.unregistered,
              led.unopened⟩, inv.net, inv.irq⟩
      | bound bound => cases bound.symm.trans admits
      | probing probing => cases probing.symm.trans admits
      | removing removing => cases removing.symm.trans admits
  | remove =>
      cases inv.pci with
      | bound =>
          exact ⟨.ready, within, .removing rfl rfl mynicRemove_follows (.inl rfl),
            ⟨led.registered, led.irqRequested, led.added, led.rtnl, PciStage.noConfusion,
              led.unregistered, led.unopened⟩, inv.net, inv.irq⟩
      | unbound unbound => cases unbound.symm.trans admits
      | probing probing => cases probing.symm.trans admits
      | removing removing => cases removing.symm.trans admits
  | «open» =>
      obtain ⟨registered, free, -⟩ := admits
      refine ⟨g, within, inv.pci.of_same rfl rfl, ⟨led.registered, led.irqRequested, led.added,
        fun under => ?_, led.closing, fun off => ?_, fun _ => .inr rfl⟩, fun p running => ?_, inv.irq⟩
      · cases free.symm.trans (led.rtnl under)
      · cases (led.registered.trans off).symm.trans registered
      · cases running
        exact ⟨rfl, led.registered.symm.trans registered, .inr rfl⟩
  | stop =>
      obtain ⟨registered, free, up⟩ := admits
      have on : g.added = true := by
        by_contra off
        rcases led.unopened (Bool.eq_false_iff.mpr off) with fresh | opening
        · cases fresh.symm.trans up
        · cases opening.symm.trans up
      refine ⟨g, within, inv.pci.of_same rfl rfl, ⟨led.registered, led.irqRequested, led.added,
        fun under => ?_, led.closing, fun off => ?_, fun off => ?_⟩, fun p running => ?_, inv.irq⟩
      · cases free.symm.trans (led.rtnl under)
      · cases (led.registered.trans off).symm.trans registered
      · cases off.symm.trans on
      · exact ⟨rfl, led.registered.symm.trans registered, .inl on⟩
  | xmit skb => exact ⟨g, inv.of_same within ⟨rfl, rfl, rfl, rfl, rfl, rfl, rfl⟩ rfl rfl rfl⟩
  | poll budget => exact ⟨g, inv.of_same within ⟨rfl, rfl, rfl, rfl, rfl, rfl, rfl⟩ rfl rfl rfl⟩
  | interrupt =>
      exact ⟨g, within, inv.pci.of_same rfl rfl, ⟨led.registered, led.irqRequested, led.added,
        led.rtnl, led.closing, led.unregistered, led.unopened⟩, inv.net,
        fun p _ => ⟨rfl, led.irqRequested.symm.trans admits⟩⟩

/-- One call of probe or remove. -/
theorem PubInv.pciCall {k : Resp e → Code} (inv : PubInv b c g)
    (head : c.threads .pci = some (.call e k)) (answer : returns e c.state r)
    (within : WithinCalls (c.set (effect .pci e c.state r) .pci (some (k r)))) :
    ∃ g', PubInv b (c.set (effect .pci e c.state r) .pci (some (k r))) g' := by
  obtain ⟨g', next, stage⟩ := inv.pci.call head r
  have led := inv.ledger.call next answer
  refine ⟨g', within, stage _ effect_binding, led, fun p running => ?_, fun p running => ?_⟩
  · obtain ⟨held, registered, napi⟩ := inv.net p running
    obtain ⟨held', registered', kept⟩ := inv.ledger.keepsNet next answer held registered
    exact ⟨held', registered', napi.imp_left kept⟩
  · obtain ⟨handling, requested⟩ := inv.irq p running
    exact next.keepsIrq answer handling requested

/-- A call of another context. -/
theorem PubInv.otherCall {i : Context} {k : Resp e → Code} (inv : PubInv b c g)
    (head : c.threads i = some (.call e k)) (other : i ≠ .pci) (ok : AfterProbe c (.call i e r))
    (within : WithinCalls (c.set (effect i e c.state r) i (some (k r)))) :
    PubInv b (c.set (effect i e c.state r) i (some (k r))) g := by
  have same : SamePublished c.state (effect i e c.state r) :=
    samePublished_of_calls other (inv.within.head head)
  have pci : PciAt (c.set (effect i e c.state r) i (some (k r))) g :=
    inv.pci.of_same (Config.set_threads_of_ne other.symm) same.binding
  have led := inv.ledger.of_same same
  cases i with
  | pci => exact absurd rfl other
  | xmit | poll => exact inv.of_same within same rfl rfl rfl
  | irq =>
      refine ⟨within, pci, led, fun p running => ?_, fun p _ => ?_⟩
      · rw [Config.set_state, same.rtnl]
        exact inv.net p running
      · rw [Config.set_state, same.irqRunning]
        exact inv.irq _ head
  | net =>
      obtain ⟨held, registered, napi⟩ := inv.net _ head
      refine ⟨within, pci, led, fun p _ => ⟨same.rtnl.trans held, registered, .inl ?_⟩,
        fun p running => ?_⟩
      · rcases napi with on | fresh
        · exact on
        · -- the first call of `mynic_open`, made after probe is over
          cases fresh
          exact inv.added ok registered
      · rw [Config.set_state, same.irqRunning]
        exact inv.irq p running

/-- A function returning. -/
theorem PubInv.finish {i : Context} {a : Int} (inv : PubInv b c g)
    (head : c.threads i = some (.ret a))
    (within : WithinCalls (c.set (c.state.leave i a) i none)) :
    ∃ g', PubInv b (c.set (c.state.leave i a) i none) g' := by
  have led := inv.ledger
  cases i with
  | xmit | poll => exact ⟨g, inv.of_same within ⟨rfl, rfl, rfl, rfl, rfl, rfl, rfl⟩ rfl rfl rfl⟩
  | irq =>
      refine ⟨g, within, inv.pci.of_same rfl rfl, ⟨led.registered, led.irqRequested, led.added,
        led.rtnl, led.closing, led.unregistered, led.unopened⟩, inv.net, fun p running => ?_⟩
      cases running
  | net =>
      obtain ⟨held, registered, napi⟩ := inv.net _ head
      have on : g.added = true := napi.resolve_right fun fresh => by cases fresh
      refine ⟨g, within, inv.pci.of_same rfl rfl, ⟨led.registered, led.irqRequested, led.added,
        fun under => ?_, led.closing, fun off => ?_, fun off => ?_⟩, fun p running => ?_, inv.irq⟩
      · cases held.symm.trans (led.rtnl under)
      · cases registered.symm.trans off
      · cases on.symm.trans off
      · cases running
  | pci =>
      have unbind : ∀ {g : PciStage}, PubInv b c g → g = .hidden ∨ g = .gone →
          (c.state.leave .pci a).binding = .unbound →
          PubInv b (c.set (c.state.leave .pci a) .pci none) .hidden := by
        intro g inv off unbound
        have led := inv.ledger
        rcases off with rfl | rfl
        · exact ⟨within, .unbound unbound rfl, ⟨led.registered, led.irqRequested, led.added,
            led.rtnl, led.closing, led.unregistered, led.unopened⟩, inv.net, inv.irq⟩
        · exact ⟨within, .unbound unbound rfl, ⟨led.registered, led.irqRequested, led.added,
            led.rtnl, PciStage.noConfusion, led.unregistered, led.unopened⟩, inv.net, inv.irq⟩
      cases inv.pci with
      | unbound unbound idle => cases idle.symm.trans head
      | bound bound idle => cases idle.symm.trans head
      | probing probing running follows own =>
          cases head.symm.trans running
          rcases follows with ⟨ok, rfl⟩ | ⟨fail, off⟩
          · have bound : (c.state.leave .pci a).binding = .bound := if_pos ⟨probing, ok⟩
            exact ⟨.probed, within, .bound bound rfl, ⟨led.registered, led.irqRequested, led.added,
              led.rtnl, led.closing, led.unregistered, led.unopened⟩, inv.net, inv.irq⟩
          · exact ⟨.hidden, unbind inv off (if_neg fun both => fail both.2)⟩
      | removing removing running follows own =>
          cases head.symm.trans running
          refine ⟨.hidden, unbind inv (.inr follows) (if_neg fun both => ?_)⟩
          cases removing.symm.trans both.1

/-- Every step keeps the invariant, a NAPI call of `mynic_open` or the handler once probe is over. -/
theorem PubInv.step (inv : ∃ g, PubInv b c g) (step : (nic b everyCaller).Step c m c')
    (ok : AfterProbe c m) : ∃ g, PubInv b c' g := by
  obtain ⟨g, inv⟩ := inv
  have within := inv.within.step step
  cases step with
  | start idle may => exact inv.start idle may.2 within
  | @call i e k r head may answer =>
      by_cases pci : i = .pci
      · subst pci
        exact inv.pciCall head answer within
      · exact ⟨g, inv.otherCall head pci ok within⟩
  | finish head may => exact inv.finish head within
  | @device d =>
      refine ⟨g, ?_⟩
      cases d with
      | report status | arrive frame =>
          exact inv.of_same within ⟨rfl, rfl, rfl, rfl, rfl, rfl, rfl⟩ rfl rfl rfl

theorem Unbound.inv (unbound : Unbound c) : PubInv b c .hidden where
  within := by
    intro i p running
    rw [unbound.threads] at running
    cases running
  pci := .unbound unbound.binding (unbound.threads .pci)
  ledger := ⟨unbound.registered, unbound.irqRequested, unbound.added,
    fun under => Bool.noConfusion under, PciStage.noConfusion, fun _ => unbound.iface,
    fun _ => .inl unbound.iface⟩
  net := by
    intro p running
    rw [unbound.threads] at running
    cases running
  irq := by
    intro p running
    rw [unbound.threads] at running
    cases running

/-- **Publication order.**  In any run of the driver among all its callers, from a device no driver is
bound to, the NAPI calls are all made on an initialised context exactly when neither `mynic_open` nor
the handler makes its NAPI call while `mynic_probe` has calls left to make. -/
theorem napi_initialised_iff (run : Run (nic b everyCaller).Step c₀ past c) (unbound : Unbound c₀) :
    AllSteps NapiInitialised past ↔ AllSteps AfterProbe past := by
  have base : ∃ g, PubInv b c₀ g := ⟨.hidden, unbound.inv⟩
  refine run.allSteps_iff base (fun step inv => ?_) fun step ok inv => PubInv.step inv step ok
  obtain ⟨g, inv⟩ := inv
  exact inv.napiInitialised_iff step

end

/-! ## Two lives -/

/-- A device no driver was ever bound to. -/
def unboundNic : NicConfig := ⟨{}, fun _ => none⟩

theorem unboundNic_unbound : Unbound unboundNic := ⟨fun _ => rfl, rfl, rfl, rfl, rfl, rfl⟩

/-- A probe up to the registration of the interface. -/
def probeRegisters : List NicMove :=
  [.start .probe, .call .pci .pciEnableDevice (0 : Int), .call .pci .pciRequestRegion (0 : Int),
    .call .pci .pciIomap (1 : Nat), .call .pci .allocEtherdev (2 : Nat), .call .pci (.storeMmio 1) (),
    .call .pci .spinLockInit (), .call .pci (.pciSetDrvdata 2) (),
    .call .pci (.registerNetdev 2) (0 : Int)]

/-- The interface opened as soon as it is registered. -/
def openDuringProbe : List NicMove := probeRegisters ++ [.start .open]

/-- A whole life: the interface opened and an interrupt taken after probe, and the device removed
with the interface still open. -/
def wholeLife : List NicMove :=
  probeRegisters ++
    [.call .pci (.requestIrq 2) (0 : Int), .call .pci (.netifNapiAdd 2) (), .finish .pci 0,
      .start .open, .call .net .napiEnable (), .call .net .netifStartQueue (),
      .call .net (.writelControl 3) (), .finish .net 0, .device (.report 1), .start .interrupt,
      .call .irq .readlIntrStatus (1 : BitVec 32), .call .irq (.writelIntrStatus 1) (),
      .call .irq .napiSchedule (), .finish .irq 1, .start .remove, .call .pci .pciGetDrvdata (2 : Nat),
      .call .pci (.freeIrq 2) (), .call .pci .rtnlLock (), .call .pci .netifRunning true,
      .call .pci (.writelControl 0) (), .call .pci .netifStopQueue (), .call .pci .napiDisable (),
      .call .pci (.unlistNetdevice 2) (), .call .pci .rtnlUnlock (), .call .pci .netifNapiDel (),
      .call .pci .loadMmio (1 : Nat), .call .pci (.pciIounmap 1) (), .call .pci (.freeNetdev 2) (),
      .call .pci .pciReleaseRegion (), .call .pci .pciDisableDevice (), .finish .pci 0]

/-- No NAPI call of `mynic_open` or the handler while the device is being probed. -/
def NotWhileProbing (c : NicConfig) : NicMove → Prop
  | .call .net .napiEnable _ | .call .irq .napiSchedule _ => c.state.binding ≠ .probing
  | _ => True

theorem NotWhileProbing.afterProbe {c : NicConfig} {m : NicMove} (ok : NotWhileProbing c m) :
    AfterProbe c m := by
  unfold AfterProbe
  split
  · exact fun unfinished => ok unfinished.1
  · exact fun unfinished => ok unfinished.1
  · trivial

instance (c : NicConfig) (m : NicMove) : Decidable (NotWhileProbing c m) :=
  match m with
  | .call .net e r => by
      revert r
      apply Call.casesOn (motive := fun e => ∀ r, Decidable (NotWhileProbing c (.call .net e r))) e
        <;> intros <;> first | exact instDecidableTrue | exact instDecidableNot
  | .call .irq e r => by
      revert r
      apply Call.casesOn (motive := fun e => ∀ r, Decidable (NotWhileProbing c (.call .irq e r))) e
        <;> intros <;> first | exact instDecidableTrue | exact instDecidableNot
  | .call .pci _ _ | .call .xmit _ _ | .call .poll _ _ => instDecidableTrue
  | .start _ | .finish _ _ | .device _ => instDecidableTrue

/-- A whole life makes its NAPI calls on an initialised context. -/
theorem napi_initialised_life :
    ∃ past c, Run (nic demoExterns everyCaller).Step unboundNic past c ∧
      (c.state.binding = .unbound ∧ c.state.drvdata = 2) ∧ AllSteps NapiInitialised past := by
  obtain ⟨past, c, run, steps, reached⟩ := Machine.run_of_play (M := nic demoExterns everyCaller)
    NotWhileProbing wholeLife unboundNic
    (fun c => c.state.binding = .unbound ∧ c.state.drvdata = 2) (by decide)
  refine ⟨past, c, run, of_decide_eq_true reached, ?_⟩
  exact (napi_initialised_iff run unboundNic_unbound).mpr fun x mem => (steps x mem).afterProbe

/-- Opened before probe is over, the interface enables an uninitialised context. -/
theorem napi_enabled_uninitialised :
    ¬ ∀ (b : Externs) (c₀ c : NicConfig) (past : List (NicConfig × NicMove)), Unbound c₀ →
      Run (nic b everyCaller).Step c₀ past c → AllSteps NapiInitialised past := by
  intro claim
  obtain ⟨past, c, run, -, reached⟩ := Machine.run_of_play (M := nic demoExterns everyCaller)
    (fun _ _ => True) openDuringProbe unboundNic
    (fun c => c.state.napi.added = false ∧
      (c.threads .net).bind Prog.head? = some .napiEnable) (by decide)
  obtain ⟨off, head⟩ := of_decide_eq_true reached
  obtain ⟨p, running, head⟩ := Option.bind_eq_some_iff.mp head
  obtain ⟨k, rfl⟩ := Prog.exists_of_head? head
  have enabled := run.snoc (.call (r := ()) running trivial trivial)
  have last := (allSteps_snoc.mp (claim demoExterns unboundNic _ _ unboundNic_unbound enabled)).2
  cases off.symm.trans last

end ScullDrivers.Nic
