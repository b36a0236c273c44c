import ScullDrivers.Nic.Balance
import ScullDrivers.Nic.Publication

/-!
# What is accessed while it is there

`struct mynic_priv` is freed with the `net_device`, and the registers are accessed through a mapping that
probe and remove make and undo.  `LifeNext` is the protocol of probe, of its error exits and of remove, as
far as the two are concerned: they are there from before the interface is registered until it is
unregistered and the interrupt freed.

So no function of the driver accesses either of them before it is there or after it is gone, in any
interleaving (`accesses_live`), provided the network core waits for a running transmit before it
unregisters the interface, and `mynic_open` does not enable NAPI while `mynic_probe` has calls left.  The
last is needed: `netif_napi_add` would forget that the poll is running, and the interface would then be
closed, and the `net_device` freed, without waiting for it.
-/

namespace ScullDrivers.Nic

open Interaction

/-! ## The property -/

/-- The call accesses a register of the device. -/
def Call.accessesRegs : Call → Bool
  | .writelControl _ | .writelTx _ | .readlIntrStatus | .writelIntrStatus _ => true
  | _ => false

/-- A call that accesses the `net_device`, or the private data in it, finds it allocated, and one that
accesses a register finds the registers mapped. -/
def AccessesLive (c : NicConfig) : NicMove → Prop
  | .call _ e _ => (e.inNetdev = true → c.state.netdev ≠ 0) ∧
      (e.accessesRegs = true → c.state.mapping ≠ 0)
  | _ => True

/-- `mynic_open` enables NAPI when no probe has calls left to make, and the interface is taken off the
list while no transmit is running. -/
def InTurn (c : NicConfig) : NicMove → Prop
  | .call .net .napiEnable _ => ¬ ProbeUnfinished c
  | .call .pci (.unlistNetdevice _) _ => c.threads .xmit = none
  | _ => True

/-! ## The protocol of probe and remove -/

/-- What is there, and who may be using it.  The flag of an unwinding stage tells whether it is one of
remove or of a failing probe. -/
inductive LifeStage
  | bare | mapped | hidden (leaving : Bool) | published | live | bound | masked
  | locked (leaving : Bool) | closing (leaving : Bool) | closed (leaving : Bool)
  | unlisted (leaving : Bool) | unmapped | gone
  deriving DecidableEq

/-- The calls that concern neither the `net_device` nor the registers. -/
def PlainCalls : Call → Prop
  | .pciEnableDevice | .pciRequestRegion | .pciReleaseRegion | .pciDisableDevice | .pciSetDrvdata _
  | .pciGetDrvdata => True
  | _ => False

/-- The calls on a `net_device` that is not registered. -/
def PrivateCalls : Call → Prop
  | .storeMmio _ | .loadMmio | .spinLockInit | .netifNapiDel => True
  | _ => False

/-- The calls of `mynic_stop` that disable nothing. -/
def StopQueueCalls : Call → Prop
  | .writelControl _ | .netifStopQueue => True
  | _ => False

/-- The protocol of `mynic_probe` and `mynic_remove`. -/
inductive LifeNext : LifeStage → (e : Call) → Resp e → LifeStage → Prop
  | plain {h : LifeStage} {e : Call} {r : Resp e} : PlainCalls e → LifeNext h e r h
  | map {mmio : Ptr} : mmio ≠ 0 → LifeNext .bare .pciIomap mmio .mapped
  | mapFails : LifeNext .bare .pciIomap (0 : Nat) .bare
  | alloc {netdev : Ptr} : netdev ≠ 0 → LifeNext .mapped .allocEtherdev netdev (.hidden false)
  | allocFails : LifeNext .mapped .allocEtherdev (0 : Nat) .mapped
  | access {leaving : Bool} {e : Call} {r : Resp e} : PrivateCalls e →
    LifeNext (.hidden leaving) e r (.hidden leaving)
  | register {netdev : Ptr} :
    LifeNext (.hidden false) (.registerNetdev netdev) (0 : Int) .published
  | registerFails {netdev : Ptr} {err : Int} : err ≠ 0 →
    LifeNext (.hidden false) (.registerNetdev netdev) err (.hidden false)
  | request {netdev : Ptr} : LifeNext .published (.requestIrq netdev) (0 : Int) .live
  | requestFails {netdev : Ptr} {err : Int} : err ≠ 0 →
    LifeNext .published (.requestIrq netdev) err .published
  | add {netdev : Ptr} : LifeNext .live (.netifNapiAdd netdev) () .bound
  | mask {netdev : Ptr} : LifeNext .bound (.freeIrq netdev) () .masked
  | lockProbe : LifeNext .published .rtnlLock () (.locked false)
  | lockRemove : LifeNext .masked .rtnlLock () (.locked true)
  | running {leaving : Bool} : LifeNext (.locked leaving) .netifRunning true (.closing leaving)
  | notRunning {leaving : Bool} : LifeNext (.locked leaving) .netifRunning false (.closed leaving)
  | stopQueue {leaving : Bool} {e : Call} {r : Resp e} : StopQueueCalls e →
    LifeNext (.closing leaving) e r (.closing leaving)
  | disable {leaving : Bool} : LifeNext (.closing leaving) .napiDisable () (.closed leaving)
  | unlist {leaving : Bool} {netdev : Ptr} :
    LifeNext (.closed leaving) (.unlistNetdevice netdev) () (.unlisted leaving)
  | unlock {leaving : Bool} : LifeNext (.unlisted leaving) .rtnlUnlock () (.hidden leaving)
  | free {netdev : Ptr} : LifeNext (.hidden false) (.freeNetdev netdev) () .mapped
  | unmap {mmio : Ptr} : LifeNext .mapped (.pciIounmap mmio) () .gone
  | unmapFirst {mmio : Ptr} : LifeNext (.hidden true) (.pciIounmap mmio) () .unmapped
  | freeLast {netdev : Ptr} : LifeNext .unmapped (.freeNetdev netdev) () .gone

/-- A probe that succeeds leaves the device bound; one that fails leaves nothing. -/
def LifePost (err : Int) (h : LifeStage) : Prop :=
  (err = 0 ∧ h = .bound) ∨ (err ≠ 0 ∧ (h = .bare ∨ h = .gone))

section Follows

variable {mmio netdev : Ptr} {err : Int} {h h' : LifeStage} {leaving : Bool}

theorem unregisterNetdev_life (lock : LifeNext h .rtnlLock () (.locked leaving)) :
    (unregisterNetdev netdev).Follows LifeNext (fun _ h => h = .hidden leaving) h := by
  have ending : (kcall (.unlistNetdevice netdev) >>= fun _ => kcall .rtnlUnlock).Follows LifeNext
      (fun _ h => h = .hidden leaving) (.closed leaving) :=
    fun _ => ⟨_, .unlist, fun _ => ⟨_, .unlock, rfl⟩⟩
  refine fun _ => ⟨_, lock, fun running => ?_⟩
  cases running with
  | false => exact ⟨_, .notRunning, ending⟩
  | true =>
      exact ⟨_, .running, fun _ => ⟨_, .stopQueue trivial, fun _ => ⟨_, .stopQueue trivial, fun _ =>
        ⟨_, .disable, ending⟩⟩⟩⟩

theorem errDisablePci_life (fail : err ≠ 0) (off : h = .bare ∨ h = .gone) :
    (errDisablePci err).Follows LifeNext LifePost h :=
  fun _ => ⟨h, .plain trivial, .inr ⟨fail, off⟩⟩

theorem errReleaseRegion_life (fail : err ≠ 0) (off : h = .bare ∨ h = .gone) :
    (errReleaseRegion err).Follows LifeNext LifePost h :=
  fun _ => ⟨h, .plain trivial, errDisablePci_life fail off⟩

theorem errIounmap_life (fail : err ≠ 0) : (errIounmap mmio err).Follows LifeNext LifePost .mapped :=
  fun _ => ⟨.gone, .unmap, errReleaseRegion_life fail (.inr rfl)⟩

theorem errFreeNetdev_life (fail : err ≠ 0) :
    (errFreeNetdev mmio netdev err).Follows LifeNext LifePost (.hidden false) :=
  fun _ => ⟨.mapped, .free, errIounmap_life fail⟩

theorem mynicProbeIrq_life : (mynicProbeIrq mmio netdev).Follows LifeNext LifePost .published := by
  simp only [mynicProbeIrq, perform_bind, pure_eq, follows_call]
  intro err
  by_cases fail : err = 0
  · subst fail
    exact ⟨.live, .request, fun _ => ⟨.bound, .add, .inl ⟨rfl, rfl⟩⟩⟩
  · refine ⟨.published, .requestFails fail, ?_⟩
    rw [if_pos fail]
    refine (unregisterNetdev_life .lockProbe).bind fun _ h hidden => ?_
    subst hidden
    exact errFreeNetdev_life fail

theorem mynicProbeNetdev_life : (mynicProbeNetdev mmio).Follows LifeNext LifePost .mapped := by
  simp only [mynicProbeNetdev, perform_bind, follows_call]
  intro netdev
  by_cases null : netdev = 0
  · subst null
    exact ⟨.mapped, .allocFails, errIounmap_life (by decide)⟩
  · refine ⟨.hidden false, .alloc null, ?_⟩
    rw [if_neg null]
    simp only [follows_call]
    refine fun _ => ⟨_, .access trivial, fun _ => ⟨_, .access trivial, fun _ => ⟨_, .plain trivial,
      fun err => ?_⟩⟩⟩
    by_cases fail : err = 0
    · subst fail
      exact ⟨.published, .register, mynicProbeIrq_life⟩
    · refine ⟨.hidden false, .registerFails fail, ?_⟩
      rw [if_pos fail]
      exact errFreeNetdev_life fail

theorem mynicProbe_life : mynicProbe.Follows LifeNext LifePost .bare := by
  simp only [mynicProbe, perform_bind, pure_eq, follows_call]
  refine fun err => ⟨.bare, .plain trivial, ?_⟩
  by_cases fail : err = 0
  · rw [if_neg (not_not.mpr fail), follows_call]
    refine fun err => ⟨.bare, .plain trivial, ?_⟩
    by_cases fail : err = 0
    · rw [if_neg (not_not.mpr fail), follows_call]
      intro mmio
      by_cases null : mmio = 0
      · subst null
        exact ⟨.bare, .mapFails, errReleaseRegion_life (by decide) (.inl rfl)⟩
      · refine ⟨.mapped, .map null, ?_⟩
        rw [if_neg null]
        exact mynicProbeNetdev_life
    · rw [if_pos fail]
      exact errDisablePci_life fail (.inl rfl)
  · rw [if_pos fail]
    exact .inr ⟨fail, .inl rfl⟩

theorem mynicRemove_life : mynicRemove.Follows LifeNext (fun _ h => h = .gone) .bound := by
  refine fun netdev => ⟨.bound, .plain trivial, fun _ => ⟨.masked, .mask, ?_⟩⟩
  refine (unregisterNetdev_life .lockRemove).bind fun _ h hidden => ?_
  subst hidden
  exact fun _ => ⟨_, .access trivial, fun mmio => ⟨_, .access trivial, fun _ => ⟨.unmapped, .unmapFirst,
    fun _ => ⟨.gone, .freeLast, fun _ => ⟨.gone, .plain trivial, fun _ => ⟨.gone, .plain trivial,
    rfl⟩⟩⟩⟩⟩⟩

end Follows

/-! ## What each stage says -/

/-- The interface is registered. -/
def LifeStage.registered : LifeStage → Bool
  | .published | .live | .bound | .masked | .locked _ | .closing _ | .closed _ => true
  | _ => false

/-- The interrupt handler is requested. -/
def LifeStage.irqRequested : LifeStage → Bool
  | .live | .bound => true
  | _ => false

/-- The `net_device` is allocated. -/
def LifeStage.allocated : LifeStage → Bool
  | .bare | .mapped | .gone => false
  | _ => true

/-- The registers are mapped. -/
def LifeStage.isMapped : LifeStage → Bool
  | .bare | .unmapped | .gone => false
  | _ => true

/-- `unregister_netdev` holds the rtnl lock. -/
def LifeStage.underRtnl : LifeStage → Bool
  | .locked _ | .closing _ | .closed _ | .unlisted _ => true
  | _ => false

/-- The stages of remove. -/
def LifeStage.ofRemove : LifeStage → Bool
  | .bound | .masked | .unmapped | .gone => true
  | .hidden leaving | .locked leaving | .closing leaving | .closed leaving | .unlisted leaving => leaving
  | _ => false

/-- What a stage says about the state. -/
structure LifeLedger (h : LifeStage) (s : State Context) : Prop where
  registered : s.registered = h.registered
  irqRequested : s.irqRequested = h.irqRequested
  netdev : h.allocated = true → s.netdev ≠ 0
  mapping : h.isMapped = true → s.mapping ≠ 0
  rtnl : h.underRtnl = true → s.rtnl = some .pci
  /-- The interface is not in use before the NAPI context is added, nor once it is closed. -/
  unused : h = .published ∨ h = .live ∨ (∃ leaving, h = .closed leaving) → s.napi.enabled = false

/-- What the kernel says about the state. -/
structure KernelLedger (s : State Context) : Prop where
  enabled : s.napi.enabled = true → s.registered = true ∧ s.iface ≠ .fresh ∧ s.iface ≠ .stopped
  polling : s.napi.polling = true → s.napi.enabled = true
  moving : s.iface = .opening ∨ s.iface = .stopping → s.rtnl = some .net
  handling : s.irqRunning = true → s.irqRequested = true

/-- An interface that is being stopped still has its NAPI context disabled, or had. -/
def Stopping (s : State Context) (p : Code) : Prop :=
  p.OnlyCalls (· ≠ .napiEnable) ∧ (p.Eventually (· = .napiDisable) ∨ s.napi.enabled = false)

/-- Who is running. -/
structure CallersLedger (c : NicConfig) : Prop where
  net : ∀ p, c.threads .net = some p → c.state.rtnl = some .net ∧ c.state.registered = true ∧
    (c.state.iface = .opening ∨ (c.state.iface = .stopping ∧ Stopping c.state p))
  irq : ∀ p, c.threads .irq = some p → c.state.irqRunning = true
  xmit : ∀ p, c.threads .xmit = some p → c.state.registered = true
  poll : ∀ p, c.threads .poll = some p → c.state.napi.polling = true

/-- The stage of probe or remove, and the one they left behind. -/
inductive LifeAt (c : NicConfig) : LifeStage → Prop
  | unbound : c.state.binding = .unbound → c.threads .pci = none → LifeAt c .bare
  | bound : c.state.binding = .bound → c.threads .pci = none → LifeAt c .bound
  | probing {h : LifeStage} {p : Code} : c.state.binding = .probing → c.threads .pci = some p →
    p.Follows LifeNext LifePost h → LifeAt c h
  | removing {h : LifeStage} {p : Code} : c.state.binding = .removing → c.threads .pci = some p →
    p.Follows LifeNext (fun _ h => h = .gone) h → h.ofRemove = true → LifeAt c h

/-- What holds between any two steps. -/
structure LifeInv (c : NicConfig) (h : LifeStage) : Prop where
  within : WithinCalls c
  pci : LifeAt c h
  ledger : LifeLedger h c.state
  kernel : KernelLedger c.state
  callers : CallersLedger c

/-- Two states that do not differ in what these ledgers say. -/
structure SameLife (s s' : State Context) : Prop where
  registered : s'.registered = s.registered
  irqRequested : s'.irqRequested = s.irqRequested
  irqRunning : s'.irqRunning = s.irqRunning
  rtnl : s'.rtnl = s.rtnl
  iface : s'.iface = s.iface
  enabled : s'.napi.enabled = s.napi.enabled
  polling : s'.napi.polling = s.napi.polling
  netdev : s'.netdev = s.netdev
  mapping : s'.mapping = s.mapping
  binding : s'.binding = s.binding

section Ledger

variable {b : Externs} {c c' : NicConfig} {h h' : LifeStage} {e : Call} {r : Resp e}
  {s s' : State Context} {i : Context}

theorem LifeLedger.of_same (led : LifeLedger h s) (same : SameLife s s') : LifeLedger h s' where
  registered := same.registered.trans led.registered
  irqRequested := same.irqRequested.trans led.irqRequested
  netdev here := same.netdev ▸ led.netdev here
  mapping here := same.mapping ▸ led.mapping here
  rtnl under := same.rtnl.trans (led.rtnl under)
  unused here := same.enabled.trans (led.unused here)

theorem KernelLedger.of_same (led : KernelLedger s) (same : SameLife s s') : KernelLedger s' := by
  refine ⟨?_, ?_, ?_, ?_⟩
  · rw [same.enabled, same.registered, same.iface]
    exact led.enabled
  · rw [same.polling, same.enabled]
    exact led.polling
  · rw [same.iface, same.rtnl]
    exact led.moving
  · rw [same.irqRunning, same.irqRequested]
    exact led.handling

theorem LifeAt.of_same (stage : LifeAt c h) (threads : c'.threads .pci = c.threads .pci)
    (binding : c'.state.binding = c.state.binding) : LifeAt c' h := by
  cases stage with
  | unbound unbound idle => exact .unbound (binding.trans unbound) (threads.trans idle)
  | bound bound idle => exact .bound (binding.trans bound) (threads.trans idle)
  | probing probing running follows =>
      exact .probing (binding.trans probing) (threads.trans running) follows
  | removing removing running follows own =>
      exact .removing (binding.trans removing) (threads.trans running) follows own

/-- A call that changes nothing, of a context other than those of open, stop, probe and remove. -/
theorem CallersLedger.of_same {p p' : Code} (led : CallersLedger c) (same : SameLife c.state s)
    (head : c.threads i = some p) (other : i ≠ .net) : CallersLedger (c.set s i (some p')) := by
  have busy : ∀ {j q}, (c.set s i (some p')).threads j = some q → ∃ q', c.threads j = some q' := by
    intro j q running
    rcases eq_or_ne j i with rfl | apart
    · exact ⟨p, head⟩
    · exact ⟨q, (Config.set_threads_of_ne apart).symm.trans running⟩
  refine ⟨fun q running => ?_, fun q running => ?_, fun q running => ?_, fun q running => ?_⟩
  · rw [Config.set_threads_of_ne other.symm] at running
    rw [Config.set_state, same.rtnl, same.registered, same.iface, Stopping, same.enabled]
    exact led.net q running
  · obtain ⟨q', before⟩ := busy running
    exact same.irqRunning.trans (led.irq q' before)
  · obtain ⟨q', before⟩ := busy running
    exact same.registered.trans (led.xmit q' before)
  · obtain ⟨q', before⟩ := busy running
    exact same.polling.trans (led.poll q' before)

theorem Napi.schedule_enabled (n : Napi) :
    n.schedule.enabled = n.enabled ∧ n.schedule.polling = n.polling := by
  unfold Napi.schedule
  split
  · split <;> exact ⟨rfl, rfl⟩
  · exact ⟨rfl, rfl⟩

theorem Napi.complete_enabled (n : Napi) :
    n.complete.enabled = n.enabled ∧ n.complete.polling = n.polling := by
  unfold Napi.complete
  split <;> exact ⟨rfl, rfl⟩

/-- The calls of the callers that enable or disable nothing. -/
theorem sameLife_of_calls (bound : i ≠ .pci) (own : i.calls e) (enable : e ≠ .napiEnable)
    (disable : e ≠ .napiDisable) : SameLife s (effect i e s r) := by
  cases e with
  | napiEnable => exact absurd rfl enable
  | napiDisable => exact absurd rfl disable
  | napiSchedule =>
      exact ⟨rfl, rfl, rfl, rfl, rfl, (Napi.schedule_enabled _).1, (Napi.schedule_enabled _).2, rfl,
        rfl, rfl⟩
  | napiCompleteDone =>
      exact ⟨rfl, rfl, rfl, rfl, rfl, (Napi.complete_enabled _).1, (Napi.complete_enabled _).2, rfl,
        rfl, rfl⟩
  | pciEnableDevice | pciRequestRegion | pciIomap | allocEtherdev | storeMmio | loadMmio
  | spinLockInit | pciSetDrvdata | pciGetDrvdata | registerNetdev | requestIrq | netifNapiAdd
  | netifNapiDel | freeIrq | freeNetdev | pciIounmap | pciReleaseRegion | pciDisableDevice
  | rtnlLock | rtnlUnlock | netifRunning | unlistNetdevice =>
      cases i with
      | pci => exact absurd rfl bound
      | _ => exact own.elim
  | _ => exact ⟨rfl, rfl, rfl, rfl, rfl, rfl, rfl, rfl, rfl, rfl⟩

theorem sameLife_of_plain (call : PlainCalls e) : SameLife s (effect i e s r) := by
  cases e with
  | pciEnableDevice | pciRequestRegion | pciReleaseRegion | pciDisableDevice | pciSetDrvdata
  | pciGetDrvdata => exact ⟨rfl, rfl, rfl, rfl, rfl, rfl, rfl, rfl, rfl, rfl⟩
  | _ => exact call.elim

theorem sameLife_of_private (call : PrivateCalls e) : SameLife s (effect i e s r) := by
  cases e with
  | storeMmio | loadMmio | spinLockInit | netifNapiDel => exact ⟨rfl, rfl, rfl, rfl, rfl, rfl, rfl, rfl, rfl, rfl⟩
  | _ => exact call.elim

theorem sameLife_of_stopQueue (call : StopQueueCalls e) : SameLife s (effect i e s r) := by
  cases e with
  | writelControl | netifStopQueue => exact ⟨rfl, rfl, rfl, rfl, rfl, rfl, rfl, rfl, rfl, rfl⟩
  | _ => exact call.elim

/-- A registered interface has its `net_device` and its registers. -/
theorem LifeStage.registered_there (registered : h.registered = true) :
    h.allocated = true ∧ h.isMapped = true := by
  cases h with
  | published | live | bound | masked | locked | closing | closed => exact ⟨rfl, rfl⟩
  | _ => cases registered

theorem LifeStage.registered_if_requested (requested : h.irqRequested = true) :
    h.registered = true := by
  cases h with
  | live | bound => rfl
  | _ => cases requested

end Ledger

/-! ## Probe and remove -/

section Pci

variable {c : NicConfig} {h h' : LifeStage} {e : Call} {r : Resp e} {s : State Context}

/-- A call of probe or remove, as the other contexts see it. -/
theorem CallersLedger.withPci {p : Option Code} (led : CallersLedger c)
    (net : c.threads .net ≠ none → s.rtnl = c.state.rtnl ∧ s.registered = c.state.registered ∧
      s.iface = c.state.iface ∧ s.napi.enabled = c.state.napi.enabled)
    (irq : c.threads .irq ≠ none → s.irqRunning = true)
    (xmit : c.threads .xmit ≠ none → s.registered = true)
    (poll : c.threads .poll ≠ none → s.napi.polling = true) : CallersLedger (c.set s .pci p) := by
  refine ⟨fun q running => ?_, fun q running => ?_, fun q running => ?_, fun q running => ?_⟩
  · have before : c.threads .net = some q := running
    obtain ⟨rtnl, registered, iface, enabled⟩ := net (before ▸ Option.some_ne_none q)
    rw [Config.set_state, rtnl, registered, iface, Stopping, enabled]
    exact led.net q before
  · have before : c.threads .irq = some q := running
    exact irq (before ▸ Option.some_ne_none q)
  · have before : c.threads .xmit = some q := running
    exact xmit (before ▸ Option.some_ne_none q)
  · have before : c.threads .poll = some q := running
    exact poll (before ▸ Option.some_ne_none q)

/-- Nobody uses an interface that is not registered. -/
theorem LifeInv.off (inv : LifeInv c h) (off : h.registered = false) :
    c.threads .net = none ∧ c.threads .xmit = none ∧ c.threads .poll = none ∧
      c.state.napi.enabled = false := by
  have unregistered : c.state.registered ≠ true := by
    rw [inv.ledger.registered, off]
    exact Bool.false_ne_true
  have disabled : c.state.napi.enabled ≠ true := fun on => unregistered (inv.kernel.enabled on).1
  refine ⟨?_, ?_, ?_, Bool.eq_false_iff.mpr disabled⟩
  · exact Option.eq_none_iff_forall_ne_some.mpr fun p running =>
      unregistered (inv.callers.net p running).2.1
  · exact Option.eq_none_iff_forall_ne_some.mpr fun p running =>
      unregistered (inv.callers.xmit p running)
  · exact Option.eq_none_iff_forall_ne_some.mpr fun p running =>
      disabled (inv.kernel.polling (inv.callers.poll p running))

/-- The poll function runs while NAPI is enabled only. -/
theorem LifeInv.poll_idle (inv : LifeInv c h) (disabled : c.state.napi.enabled = false) :
    c.threads .poll = none := by
  refine Option.eq_none_iff_forall_ne_some.mpr fun p running => ?_
  cases disabled.symm.trans (inv.kernel.polling (inv.callers.poll p running))

/-- The interface is opened and stopped under the rtnl lock. -/
theorem LifeInv.net_idle (inv : LifeInv c h) (other : c.state.rtnl ≠ some .net) :
    c.threads .net = none :=
  Option.eq_none_iff_forall_ne_some.mpr fun p running => other (inv.callers.net p running).1

/-- The ledgers after a call of probe or remove. -/
structure AfterPci (c : NicConfig) (h : LifeStage) (s : State Context) (p : Option Code) : Prop where
  ledger : LifeLedger h s
  kernel : KernelLedger s
  callers : CallersLedger (c.set s .pci p)

theorem LifeInv.afterPci_of_same {p : Option Code} (inv : LifeInv c h)
    (same : SameLife c.state s) : AfterPci c h s p where
  ledger := inv.ledger.of_same same
  kernel := inv.kernel.of_same same
  callers := by
    refine inv.callers.withPci (fun _ => ⟨same.rtnl, same.registered, same.iface, same.enabled⟩)
      (fun busy => ?_) (fun busy => ?_) (fun busy => ?_)
    · obtain ⟨q, running⟩ := Option.ne_none_iff_exists'.mp busy
      exact same.irqRunning.trans (inv.callers.irq q running)
    · obtain ⟨q, running⟩ := Option.ne_none_iff_exists'.mp busy
      exact same.registered.trans (inv.callers.xmit q running)
    · obtain ⟨q, running⟩ := Option.ne_none_iff_exists'.mp busy
      exact same.polling.trans (inv.callers.poll q running)

/-- A call that touches neither who runs nor what the kernel knows of the interface. -/
theorem LifeInv.afterPci_of_memory {p : Option Code} {netdev mapping : Ptr} (inv : LifeInv c h)
    (registered : h'.registered = h.registered) (irqRequested : h'.irqRequested = h.irqRequested)
    (under : h'.underRtnl = false) (off : h'.registered = false)
    (there : h'.allocated = true → netdev ≠ 0) (mapped : h'.isMapped = true → mapping ≠ 0) :
    AfterPci c h' { c.state with netdev, mapping } p where
  ledger := by
    refine ⟨inv.ledger.registered.trans registered.symm,
      inv.ledger.irqRequested.trans irqRequested.symm, there, mapped,
      (fun locked => nomatch locked.symm.trans under), ?_⟩
    rintro (rfl | rfl | ⟨leaving, rfl⟩)
    · cases off
    · cases off
    · cases off
  kernel := ⟨inv.kernel.enabled, inv.kernel.polling, inv.kernel.moving, inv.kernel.handling⟩
  callers := ⟨inv.callers.net, inv.callers.irq, inv.callers.xmit, inv.callers.poll⟩

/-- One call of probe or remove. -/
theorem LifeInv.callPci {p : Option Code} (inv : LifeInv c h) (next : LifeNext h e r h')
    (answer : returns e c.state r)
    (drained : ∀ netdev, e = .unlistNetdevice netdev → c.threads .xmit = none) :
    AfterPci c h' (effect .pci e c.state r) p := by
  obtain ⟨registered, irqRequested, there, mapped, rtnl, unused⟩ := inv.ledger
  have busy : ∀ {i}, c.threads i = none → c.threads i ≠ none → False := fun idle busy => busy idle
  have irqBusy : c.threads .irq ≠ none → c.state.irqRunning = true := by
    intro some
    obtain ⟨q, running⟩ := Option.ne_none_iff_exists'.mp some
    exact inv.callers.irq q running
  have xmitBusy : c.threads .xmit ≠ none → c.state.registered = true := by
    intro some
    obtain ⟨q, running⟩ := Option.ne_none_iff_exists'.mp some
    exact inv.callers.xmit q running
  have pollBusy : c.threads .poll ≠ none → c.state.napi.polling = true := by
    intro some
    obtain ⟨q, running⟩ := Option.ne_none_iff_exists'.mp some
    exact inv.callers.poll q running
  cases next with
  | plain call => exact inv.afterPci_of_same (sameLife_of_plain call)
  | access call => exact inv.afterPci_of_same (sameLife_of_private call)
  | stopQueue call => exact inv.afterPci_of_same (sameLife_of_stopQueue call)
  | map some =>
      exact inv.afterPci_of_memory rfl rfl rfl rfl nofun fun _ => some
  | mapFails => exact inv.afterPci_of_memory rfl rfl rfl rfl nofun nofun
  | unmap => exact inv.afterPci_of_memory rfl rfl rfl rfl nofun nofun
  | free => exact inv.afterPci_of_memory rfl rfl rfl rfl nofun fun _ => mapped rfl
  | unmapFirst => exact inv.afterPci_of_memory rfl rfl rfl rfl (fun _ => there rfl) nofun
  | freeLast => exact inv.afterPci_of_memory rfl rfl rfl rfl nofun nofun
  | @alloc netdev some =>
      obtain ⟨net, xmit, poll, disabled⟩ := inv.off rfl
      rw [show effect Context.pci .allocEtherdev c.state netdev = c.state.allocNetdev netdev from
        if_neg some]
      have moving : c.state.irqRunning = true → False := fun handling => by
        cases irqRequested.symm.trans (inv.kernel.handling handling)
      refine ⟨⟨registered, irqRequested, fun _ => some, fun _ => mapped rfl, nofun, fun _ => rfl⟩,
        ⟨nofun, nofun, fun moved => ?_, inv.kernel.handling⟩, ?_⟩
      · rcases moved with moved | moved <;> cases moved
      · exact inv.callers.withPci (fun some => (busy net some).elim) irqBusy
          (fun some => (busy xmit some).elim) fun some => (busy poll some).elim
  | allocFails =>
      rw [show effect Context.pci .allocEtherdev c.state (0 : Nat) = c.state from rfl]
      exact inv.afterPci_of_memory rfl rfl rfl rfl (fun alloc => nomatch alloc) fun _ => mapped rfl
  | register =>
      obtain ⟨net, xmit, poll, disabled⟩ := inv.off rfl
      exact ⟨⟨rfl, irqRequested, fun _ => there rfl, fun _ => mapped rfl, nofun, fun _ => disabled⟩,
        ⟨fun on => ⟨rfl, (inv.kernel.enabled on).2⟩, inv.kernel.polling, inv.kernel.moving,
          inv.kernel.handling⟩,
        inv.callers.withPci (fun some => (busy net some).elim) irqBusy
          (fun _ => rfl) pollBusy⟩
  | @registerFails netdev err fail =>
      have same : SameLife c.state (effect .pci (.registerNetdev netdev) c.state err) := by
        refine ⟨?_, rfl, rfl, rfl, rfl, rfl, rfl, rfl, rfl, rfl⟩
        show (decide (err = 0) || c.state.registered) = c.state.registered
        rw [decide_eq_false fail, Bool.false_or]
      exact inv.afterPci_of_same same
  | request =>
      exact ⟨⟨registered, rfl, fun _ => there rfl, fun _ => mapped rfl, nofun,
          fun _ => unused (.inl rfl)⟩,
        ⟨inv.kernel.enabled, inv.kernel.polling, inv.kernel.moving, fun _ => rfl⟩,
        inv.callers.withPci (fun _ => ⟨rfl, rfl, rfl, rfl⟩) irqBusy xmitBusy pollBusy⟩
  | @requestFails netdev err fail =>
      have same : SameLife c.state (effect .pci (.requestIrq netdev) c.state err) := by
        refine ⟨rfl, ?_, rfl, rfl, rfl, rfl, rfl, rfl, rfl, rfl⟩
        show (decide (err = 0) || c.state.irqRequested) = c.state.irqRequested
        rw [decide_eq_false fail, Bool.false_or]
      exact inv.afterPci_of_same same
  | add =>
      have disabled := unused (.inr (.inl rfl))
      have poll := inv.poll_idle disabled
      refine ⟨⟨registered, irqRequested, fun _ => there rfl, fun _ => mapped rfl, nofun, fun _ => rfl⟩,
        ⟨nofun, nofun, inv.kernel.moving, inv.kernel.handling⟩,
        inv.callers.withPci (fun _ => ⟨rfl, rfl, rfl, disabled.symm⟩) irqBusy xmitBusy
          fun some => (busy poll some).elim⟩
  | mask =>
      have quiet : c.state.irqRunning = false := answer
      refine ⟨⟨registered, rfl, fun _ => there rfl, fun _ => mapped rfl, nofun, ?_⟩,
        ⟨inv.kernel.enabled, inv.kernel.polling, inv.kernel.moving, fun handling => ?_⟩,
        inv.callers.withPci (fun _ => ⟨rfl, rfl, rfl, rfl⟩) irqBusy xmitBusy pollBusy⟩
      · rintro (same | same | ⟨leaving, same⟩) <;> cases same
      · cases quiet.symm.trans handling
  | lockProbe | lockRemove =>
      have unlocked : c.state.rtnl = none := answer
      have net := inv.net_idle (unlocked ▸ nofun)
      refine ⟨⟨registered, irqRequested, fun _ => there rfl, fun _ => mapped rfl, fun _ => rfl, ?_⟩,
        ⟨inv.kernel.enabled, inv.kernel.polling, fun moved => ?_, inv.kernel.handling⟩,
        inv.callers.withPci (fun some => (busy net some).elim) irqBusy xmitBusy pollBusy⟩
      · rintro (same | same | ⟨leaving, same⟩) <;> cases same
      · cases unlocked.symm.trans (inv.kernel.moving moved)
  | running =>
      refine ⟨⟨registered, irqRequested, fun _ => there rfl, fun _ => mapped rfl, fun _ => rtnl rfl, ?_⟩,
        inv.kernel, inv.callers.withPci (fun _ => ⟨rfl, rfl, rfl, rfl⟩) irqBusy xmitBusy pollBusy⟩
      rintro (same | same | ⟨leaving, same⟩) <;> cases same
  | notRunning =>
      have down : c.state.iface ≠ .up := of_decide_eq_false answer.symm
      have still : ¬ (c.state.iface = .opening ∨ c.state.iface = .stopping) := fun moved => by
        cases (rtnl rfl).symm.trans (inv.kernel.moving moved)
      have disabled : c.state.napi.enabled = false := by
        refine Bool.eq_false_iff.mpr fun on => ?_
        obtain ⟨-, fresh, stopped⟩ := inv.kernel.enabled on
        cases iface : c.state.iface with
        | fresh => exact fresh iface
        | opening => exact still (.inl iface)
        | up => exact down iface
        | stopping => exact still (.inr iface)
        | stopped => exact stopped iface
      exact ⟨⟨registered, irqRequested, fun _ => there rfl, fun _ => mapped rfl, fun _ => rtnl rfl,
          fun _ => disabled⟩,
        inv.kernel, inv.callers.withPci (fun _ => ⟨rfl, rfl, rfl, rfl⟩) irqBusy xmitBusy pollBusy⟩
  | disable =>
      have quiet : c.state.napi.polling = false := answer
      have locked := rtnl rfl
      have net := inv.net_idle (by rw [locked]; nofun)
      exact ⟨⟨registered, irqRequested, fun _ => there rfl, fun _ => mapped rfl, fun _ => rtnl rfl,
          fun _ => rfl⟩,
        ⟨nofun, (fun polling => nomatch quiet.symm.trans polling), inv.kernel.moving,
          inv.kernel.handling⟩,
        inv.callers.withPci (fun some => (busy net some).elim) irqBusy xmitBusy pollBusy⟩
  | unlist =>
      have disabled := unused (.inr (.inr ⟨_, rfl⟩))
      have locked := rtnl rfl
      have net := inv.net_idle (by rw [locked]; nofun)
      have xmit := drained _ rfl
      refine ⟨⟨rfl, irqRequested, fun _ => there rfl, fun _ => mapped rfl, fun _ => rtnl rfl, ?_⟩,
        ⟨(fun on => nomatch disabled.symm.trans on), inv.kernel.polling, fun moved => ?_,
          inv.kernel.handling⟩,
        inv.callers.withPci (fun some => (busy net some).elim) irqBusy
          (fun some => (busy xmit some).elim) pollBusy⟩
      · exact fun _ => disabled
      · rcases moved with moved | moved <;> cases moved
  | unlock =>
      have locked := rtnl rfl
      have net := inv.net_idle (by rw [locked]; nofun)
      refine ⟨⟨registered, irqRequested, fun _ => there rfl, fun _ => mapped rfl, nofun, ?_⟩,
        ⟨inv.kernel.enabled, inv.kernel.polling, fun moved => ?_, inv.kernel.handling⟩,
        inv.callers.withPci (fun some => (busy net some).elim) irqBusy xmitBusy pollBusy⟩
      · rintro (same | same | ⟨leaving, same⟩) <;> cases same
      · cases locked.symm.trans (inv.kernel.moving moved)

end Pci

/-! ## The invariant -/

section

variable {b : Externs} {c₀ c c' : NicConfig} {m : NicMove} {past : List (NicConfig × NicMove)}
  {h h' : LifeStage} {e : Call} {r : Resp e} {i : Context}

/-- A remove stays in its own stages. -/
theorem LifeNext.ofRemove (next : LifeNext h e r h') (own : h.ofRemove = true) :
    h'.ofRemove = true := by
  cases next with
  | plain | access | stopQueue | running | notRunning | disable | unlist | unlock => exact own
  | mask | lockRemove | unmapFirst | freeLast => rfl
  | map | mapFails | alloc | allocFails | register | registerFails | request | requestFails | add
  | lockProbe | free | unmap => cases own

theorem LifeAt.call {k : Resp e → Code} (stage : LifeAt c h)
    (head : c.threads .pci = some (.call e k)) (r : Resp e) :
    ∃ h', LifeNext h e r h' ∧
      ∀ s : State Context, s.binding = c.state.binding → LifeAt (c.set s .pci (some (k r))) h' := by
  cases stage with
  | unbound unbound idle => cases idle.symm.trans head
  | bound bound idle => cases idle.symm.trans head
  | probing probing running follows =>
      cases head.symm.trans running
      obtain ⟨h', next, rest⟩ := follows r
      exact ⟨h', next, fun s same => .probing (same.trans probing) rfl rest⟩
  | removing removing running follows own =>
      cases head.symm.trans running
      obtain ⟨h', next, rest⟩ := follows r
      exact ⟨h', next, fun s same => .removing (same.trans removing) rfl rest (next.ofRemove own)⟩

/-- Once probe is over the interface is registered with its NAPI context added. -/
theorem LifeAt.not_early (stage : LifeAt c h) (finished : ¬ ProbeUnfinished c) :
    h ≠ .published ∧ h ≠ .live := by
  cases stage with
  | unbound | bound => exact ⟨nofun, nofun⟩
  | @probing _ p probing running follows =>
      cases p with
      | call e k => exact absurd ⟨probing, e, k, running⟩ finished
      | ret err =>
          rcases follows with ⟨-, rfl⟩ | ⟨-, rfl | rfl⟩
          all_goals exact ⟨nofun, nofun⟩
  | removing removing running follows own =>
      refine ⟨fun same => ?_, fun same => ?_⟩ <;>
        · subst same
          cases own

/-- A call of an interrupt, a transmit or a poll. -/
theorem LifeInv.otherCall {k : Resp e → Code} (inv : LifeInv c h)
    (head : c.threads i = some (.call e k)) (pci : i ≠ .pci) (net : i ≠ .net)
    (within : WithinCalls (c.set (effect i e c.state r) i (some (k r)))) :
    LifeInv (c.set (effect i e c.state r) i (some (k r))) h := by
  have own := inv.within.head head
  have enable : e ≠ .napiEnable := by
    rintro rfl
    cases i with
    | pci => exact pci rfl
    | net => exact net rfl
    | _ => exact own
  have disable : e ≠ .napiDisable := by
    rintro rfl
    cases i with
    | pci => exact pci rfl
    | net => exact net rfl
    | _ => exact own
  have same : SameLife c.state (effect i e c.state r) := sameLife_of_calls pci own enable disable
  exact ⟨within, inv.pci.of_same (Config.set_threads_of_ne pci.symm) same.binding,
    inv.ledger.of_same same, inv.kernel.of_same same, inv.callers.of_same same head net⟩

/-- A call of open or stop. -/
theorem LifeInv.netCall {k : Resp e → Code} (inv : LifeInv c h)
    (head : c.threads .net = some (.call e k)) (answer : returns e c.state r)
    (ok : InTurn c (.call .net e r))
    (within : WithinCalls (c.set (effect .net e c.state r) .net (some (k r)))) :
    LifeInv (c.set (effect .net e c.state r) .net (some (k r))) h := by
  obtain ⟨held, registered, moving⟩ := inv.callers.net _ head
  have callers : ∀ {s : State Context}, s.rtnl = some .net → s.registered = true →
      (s.iface = .opening ∨ (s.iface = .stopping ∧ Stopping s (k r))) →
      s.irqRunning = c.state.irqRunning → s.napi.polling = c.state.napi.polling →
      CallersLedger (c.set s .net (some (k r))) := by
    intro s rtnl registered' moving' handling polling
    refine ⟨fun q running => ?_, fun q running => ?_, fun _ _ => registered', fun q running => ?_⟩
    · cases running
      exact ⟨rtnl, registered', moving'⟩
    · exact handling.trans (inv.callers.irq q running)
    · exact polling.trans (inv.callers.poll q running)
  have unlocked : h.underRtnl = true → False := fun under => by
    cases held.symm.trans (inv.ledger.rtnl under)
  by_cases enable : e = .napiEnable
  · subst enable
    obtain ⟨published, live⟩ := inv.pci.not_early ok
    have led := inv.ledger
    refine ⟨within, inv.pci.of_same rfl rfl, ⟨led.registered, led.irqRequested, led.netdev,
      led.mapping, led.rtnl, ?_⟩, ⟨fun _ => ⟨registered, ?_⟩, fun _ => rfl, inv.kernel.moving,
      inv.kernel.handling⟩, callers held registered ?_ rfl rfl⟩
    · rintro (same | same | ⟨leaving, same⟩)
      · exact absurd same published
      · exact absurd same live
      · exact (unlocked (by rw [same]; rfl)).elim
    · rcases moving with opening | ⟨stopping, -⟩
      · exact ⟨(fun fresh => nomatch opening.symm.trans fresh),
          (fun stopped => nomatch opening.symm.trans stopped)⟩
      · exact ⟨(fun fresh => nomatch stopping.symm.trans fresh),
          (fun stopped => nomatch stopping.symm.trans stopped)⟩
    · rcases moving with opening | ⟨stopping, only, -⟩
      · exact .inl opening
      · exact absurd rfl only.1
  · by_cases disable : e = .napiDisable
    · subst disable
      have quiet : c.state.napi.polling = false := answer
      have led := inv.ledger
      refine ⟨within, inv.pci.of_same rfl rfl, ⟨led.registered, led.irqRequested, led.netdev,
        led.mapping, led.rtnl, fun _ => rfl⟩, ⟨nofun, fun polling => ?_, inv.kernel.moving,
        inv.kernel.handling⟩, callers held registered ?_ rfl rfl⟩
      · cases quiet.symm.trans polling
      · rcases moving with opening | ⟨stopping, only, -⟩
        · exact .inl opening
        · exact .inr ⟨stopping, only.2 r, .inr rfl⟩
    · have own := inv.within.head head
      have same : SameLife c.state (effect .net e c.state r) :=
        sameLife_of_calls nofun own enable disable
      refine ⟨within, inv.pci.of_same rfl same.binding, inv.ledger.of_same same,
        inv.kernel.of_same same, callers (same.rtnl.trans held) (same.registered.trans registered) ?_
          same.irqRunning same.polling⟩
      rcases moving with opening | ⟨stopping, only, still⟩
      · exact .inl (same.iface.trans opening)
      · refine .inr ⟨same.iface.trans stopping, only.2 r, ?_⟩
        rcases still with here | off
        · rcases here with now | later
          · exact absurd now disable
          · exact .inl (later r)
        · exact .inr (same.enabled.trans off)

/-- A request of the kernel. -/
theorem LifeInv.start {q : Request} (inv : LifeInv c h) (idle : c.threads q.context = none)
    (admits : c.state.admits q)
    (within : WithinCalls (c.set (c.state.enter q) q.context (some (q.code b)))) :
    ∃ h', LifeInv (c.set (c.state.enter q) q.context (some (q.code b))) h' := by
  have led := inv.ledger
  have kernel := inv.kernel
  have callers := inv.callers
  cases q with
  | probe =>
      cases inv.pci with
      | unbound =>
          exact ⟨.bare, within, .probing rfl rfl mynicProbe_life,
            ⟨led.registered, led.irqRequested, led.netdev, led.mapping, led.rtnl, led.unused⟩,
            ⟨kernel.enabled, kernel.polling, kernel.moving, kernel.handling⟩,
            ⟨callers.net, callers.irq, callers.xmit, callers.poll⟩⟩
      | bound bound => cases bound.symm.trans admits
      | probing probing => cases probing.symm.trans admits
      | removing removing => cases removing.symm.trans admits
  | remove =>
      cases inv.pci with
      | bound =>
          exact ⟨.bound, within, .removing rfl rfl mynicRemove_life rfl,
            ⟨led.registered, led.irqRequested, led.netdev, led.mapping, led.rtnl, led.unused⟩,
            ⟨kernel.enabled, kernel.polling, kernel.moving, kernel.handling⟩,
            ⟨callers.net, callers.irq, callers.xmit, callers.poll⟩⟩
      | unbound unbound => cases unbound.symm.trans admits
      | probing probing => cases probing.symm.trans admits
      | removing removing => cases removing.symm.trans admits
  | «open» =>
      obtain ⟨registered, free, down⟩ := admits
      have disabled : c.state.napi.enabled ≠ true := by
        intro on
        obtain ⟨-, fresh, stopped⟩ := kernel.enabled on
        exact down.elim fresh stopped
      refine ⟨h, within, inv.pci.of_same rfl rfl, ⟨led.registered, led.irqRequested, led.netdev,
        led.mapping, fun under => ?_, led.unused⟩, ⟨fun on => absurd on disabled, kernel.polling,
        fun _ => rfl, kernel.handling⟩, ⟨fun q _ => ⟨rfl, registered, .inl rfl⟩, callers.irq,
        callers.xmit, callers.poll⟩⟩
      cases free.symm.trans (led.rtnl under)
  | stop =>
      obtain ⟨registered, free, up⟩ := admits
      refine ⟨h, within, inv.pci.of_same rfl rfl, ⟨led.registered, led.irqRequested, led.netdev,
        led.mapping, fun under => ?_, led.unused⟩, ⟨fun on => ⟨registered, nofun, nofun⟩,
        kernel.polling, fun _ => rfl, kernel.handling⟩, ⟨fun q running => ?_, callers.irq,
        callers.xmit, callers.poll⟩⟩
      · cases free.symm.trans (led.rtnl under)
      · cases running
        refine ⟨rfl, registered, .inr ⟨rfl, ⟨nofun, fun _ => ⟨nofun, fun _ => ⟨nofun, fun _ =>
          trivial⟩⟩⟩, .inl ?_⟩⟩
        exact .inr fun _ => .inr fun _ => .inl rfl
  | xmit skb =>
      exact ⟨h, within, inv.pci.of_same rfl rfl, led, kernel, callers.net, callers.irq,
        fun q _ => admits, callers.poll⟩
  | interrupt =>
      exact ⟨h, within, inv.pci.of_same rfl rfl,
        ⟨led.registered, led.irqRequested, led.netdev, led.mapping, led.rtnl, led.unused⟩,
        ⟨kernel.enabled, kernel.polling, kernel.moving, fun _ => admits⟩, callers.net,
        fun q _ => rfl, callers.xmit, callers.poll⟩
  | poll budget =>
      exact ⟨h, within, inv.pci.of_same rfl rfl,
        ⟨led.registered, led.irqRequested, led.netdev, led.mapping, led.rtnl, led.unused⟩,
        ⟨kernel.enabled, fun _ => admits.1, kernel.moving, kernel.handling⟩, callers.net,
        callers.irq, callers.xmit, fun q _ => rfl⟩

/-- A function returning. -/
theorem LifeInv.finish {a : Int} (inv : LifeInv c h) (head : c.threads i = some (.ret a))
    (within : WithinCalls (c.set (c.state.leave i a) i none)) :
    ∃ h', LifeInv (c.set (c.state.leave i a) i none) h' := by
  have led := inv.ledger
  have kernel := inv.kernel
  have callers := inv.callers
  cases i with
  | xmit =>
      exact ⟨h, within, inv.pci.of_same rfl rfl, led, kernel, callers.net, callers.irq, nofun,
        callers.poll⟩
  | irq =>
      exact ⟨h, within, inv.pci.of_same rfl rfl,
        ⟨led.registered, led.irqRequested, led.netdev, led.mapping, led.rtnl, led.unused⟩,
        ⟨kernel.enabled, kernel.polling, kernel.moving, nofun⟩, callers.net, nofun, callers.xmit,
        callers.poll⟩
  | poll =>
      exact ⟨h, within, inv.pci.of_same rfl rfl,
        ⟨led.registered, led.irqRequested, led.netdev, led.mapping, led.rtnl, led.unused⟩,
        ⟨kernel.enabled, nofun, kernel.moving, kernel.handling⟩, callers.net, callers.irq,
        callers.xmit, nofun⟩
  | net =>
      obtain ⟨held, registered, moving⟩ := callers.net _ head
      refine ⟨h, within, inv.pci.of_same rfl rfl, ⟨led.registered, led.irqRequested, led.netdev,
        led.mapping, fun under => ?_, led.unused⟩, ⟨fun on => ⟨registered, ?_⟩, kernel.polling, ?_,
        kernel.handling⟩, nofun, callers.irq, callers.xmit, callers.poll⟩
      · cases held.symm.trans (led.rtnl under)
      · rcases moving with opening | ⟨-, -, still | off⟩
        · have up : (c.state.leave .net a).iface = .up := if_pos opening
          exact ⟨(fun fresh => nomatch up.symm.trans fresh),
            (fun stopped => nomatch up.symm.trans stopped)⟩
        · exact still.elim
        · cases off.symm.trans on
      · show (if c.state.iface = .opening then Iface.up else .stopped) = .opening ∨
          (if c.state.iface = .opening then Iface.up else .stopped) = .stopping → _
        split
        · rintro (moved | moved) <;> cases moved
        · rintro (moved | moved) <;> cases moved
  | pci =>
      have leave : ∀ {h' : LifeStage}, LifeAt (c.set (c.state.leave .pci a) .pci none) h' →
          LifeLedger h' c.state → LifeInv (c.set (c.state.leave .pci a) .pci none) h' := by
        intro h' stage led
        exact ⟨within, stage,
          ⟨led.registered, led.irqRequested, led.netdev, led.mapping, led.rtnl, led.unused⟩,
          ⟨kernel.enabled, kernel.polling, kernel.moving, kernel.handling⟩,
          ⟨callers.net, callers.irq, callers.xmit, callers.poll⟩⟩
      have bare : LifeLedger .gone c.state → LifeLedger .bare c.state := fun led =>
        ⟨led.registered, led.irqRequested, nofun, nofun, nofun, nofun⟩
      cases inv.pci with
      | unbound unbound idle => cases idle.symm.trans head
      | bound bound idle => cases idle.symm.trans head
      | probing probing running follows =>
          cases head.symm.trans running
          rcases follows with ⟨ok, rfl⟩ | ⟨fail, off⟩
          · exact ⟨.bound, leave (.bound (if_pos ⟨probing, ok⟩) rfl) led⟩
          · refine ⟨.bare, leave (.unbound (if_neg fun both => fail both.2) rfl) ?_⟩
            rcases off with rfl | rfl
            · exact led
            · exact bare led
      | removing removing running follows own =>
          cases head.symm.trans running
          subst follows
          refine ⟨.bare, leave (.unbound (if_neg fun both => ?_) rfl) (bare led)⟩
          cases removing.symm.trans both.1

/-- One step. -/
theorem LifeInv.step (inv : ∃ h, LifeInv c h) (step : (nic b everyCaller).Step c m c')
    (ok : InTurn c m) : ∃ h, LifeInv c' h := by
  obtain ⟨h, inv⟩ := inv
  have within := inv.within.step step
  cases step with
  | start idle may => exact inv.start idle may.2 within
  | @call i e k r head may answer =>
      by_cases pci : i = .pci
      · subst pci
        obtain ⟨h', next, stage⟩ := inv.pci.call head r
        have drained : ∀ netdev, e = .unlistNetdevice netdev → c.threads .xmit = none := by
          rintro netdev rfl
          exact ok
        obtain ⟨ledger, kernel, callers⟩ := inv.callPci (p := some (k r)) next answer drained
        exact ⟨h', within, stage _ effect_binding, ledger, kernel, callers⟩
      · by_cases net : i = .net
        · subst net
          exact ⟨h, inv.netCall head answer ok within⟩
        · exact ⟨h, inv.otherCall head pci net within⟩
  | finish head may => exact inv.finish head within
  | @device d =>
      have led := inv.ledger
      have kernel := inv.kernel
      have callers := inv.callers
      refine ⟨h, ?_⟩
      cases d with
      | report status | arrive frame =>
          exact ⟨within, inv.pci.of_same rfl rfl,
            ⟨led.registered, led.irqRequested, led.netdev, led.mapping, led.rtnl, led.unused⟩,
            ⟨kernel.enabled, kernel.polling, kernel.moving, kernel.handling⟩,
            ⟨callers.net, callers.irq, callers.xmit, callers.poll⟩⟩

/-! ## The accesses -/

/-- Where probe and remove access them, they are there. -/
theorem LifeNext.accesses (next : LifeNext h e r h') :
    (e.inNetdev = true → h.allocated = true) ∧ (e.accessesRegs = true → h.isMapped = true) := by
  cases next with
  | plain call =>
      cases e with
      | pciEnableDevice | pciRequestRegion | pciReleaseRegion | pciDisableDevice | pciSetDrvdata
      | pciGetDrvdata => exact ⟨nofun, nofun⟩
      | _ => exact call.elim
  | access | register | registerFails | add | stopQueue | running | notRunning | disable | unlist =>
      exact ⟨fun _ => rfl, fun _ => rfl⟩
  | _ => exact ⟨nofun, nofun⟩

/-- Whoever makes a call that accesses them finds them there. -/
theorem LifeInv.accesses {k : Resp e → Code} (inv : LifeInv c h)
    (head : c.threads i = some (.call e k)) (r : Resp e) : AccessesLive c (.call i e r) := by
  obtain ⟨ledger, kernel, callers⟩ := And.intro inv.ledger (And.intro inv.kernel inv.callers)
  have there : c.state.registered = true → AccessesLive c (.call i e r) := by
    intro registered
    obtain ⟨allocated, mapped⟩ := LifeStage.registered_there (ledger.registered.symm.trans registered)
    exact ⟨fun _ => ledger.netdev allocated, fun _ => ledger.mapping mapped⟩
  cases i with
  | net => exact there (callers.net _ head).2.1
  | xmit => exact there (callers.xmit _ head)
  | poll => exact there (kernel.enabled (kernel.polling (callers.poll _ head))).1
  | irq =>
      have requested := ledger.irqRequested.symm.trans (kernel.handling (callers.irq _ head))
      exact there (ledger.registered.trans (LifeStage.registered_if_requested requested))
  | pci =>
      obtain ⟨h', next, -⟩ := inv.pci.call head r
      exact ⟨fun here => ledger.netdev (next.accesses.1 here),
        fun here => ledger.mapping (next.accesses.2 here)⟩

theorem Unbound.lifeInv (unbound : Unbound c) (disabled : c.state.napi.enabled = false)
    (idle : c.state.napi.polling = false) (quiet : c.state.irqRunning = false) :
    LifeInv c .bare where
  within := by
    intro i p running
    cases (unbound.threads i).symm.trans running
  pci := .unbound unbound.binding (unbound.threads .pci)
  ledger := ⟨unbound.registered, unbound.irqRequested, nofun, nofun, nofun, fun _ => disabled⟩
  kernel := by
    refine ⟨fun on => ?_, fun polling => ?_, fun moved => ?_, fun handling => ?_⟩
    · cases disabled.symm.trans on
    · cases idle.symm.trans polling
    · rw [unbound.iface] at moved
      rcases moved with moved | moved <;> cases moved
    · cases quiet.symm.trans handling
  callers := by
    refine ⟨fun p running => ?_, fun p running => ?_, fun p running => ?_, fun p running => ?_⟩
    all_goals cases (unbound.threads _).symm.trans running

/-- **Nothing is accessed that is not there.**  In any run of the driver among all its callers, from a
device no driver is bound to, in which `mynic_open` enables NAPI only when no probe has calls left and the
interface is unregistered while no transmit runs, every access to the `net_device` or the private data in
it, by whatever function, finds it allocated, and every access to a register finds the registers mapped. -/
theorem accesses_live (run : Run (nic b everyCaller).Step c₀ past c) (unbound : Unbound c₀)
    (disabled : c₀.state.napi.enabled = false) (idle : c₀.state.napi.polling = false)
    (quiet : c₀.state.irqRunning = false) (turn : AllSteps InTurn past) :
    AllSteps AccessesLive past := by
  have start : ∃ h, LifeInv c₀ h := ⟨.bare, unbound.lifeInv disabled idle quiet⟩
  refine run.allSteps start (fun step ok inv => LifeInv.step inv step ok) (fun step inv => ?_) turn
  obtain ⟨h, inv⟩ := inv
  cases step with
  | start | finish | device => trivial
  | call head may answer => exact inv.accesses head _

end

/-! ## A life with a transmit -/

/-- A packet handed down while the interface is open. -/
def transmitOnce : List NicMove :=
  [.start (.xmit (floodSkb 0)), .call .xmit (.dmaMapSingle (floodSkb 0) 60) (some 7),
    .call .xmit .spinLock (), .call .xmit .loadTxHead (0 : Fin mynicTxRingSize),
    .call .xmit (.storeTxSkbuff 0 (some (floodSkb 0))) (),
    .call .xmit .loadTxHead (0 : Fin mynicTxRingSize), .call .xmit (.storeTxHead 1) (),
    .call .xmit (.writelTx 1) (), .call .xmit .spinUnlock (), .finish .xmit 0]

/-- The interface is taken off the list. -/
def unlists : NicMove → Bool
  | .call .pci (.unlistNetdevice _) _ => true
  | _ => false

/-- The interface is opened after probe, and remove finds no transmit running. -/
def LeftInPeace (c : NicConfig) (m : NicMove) : Prop :=
  NotWhileProbing c m ∧ (unlists m = true → c.busy .xmit = false)

instance (c : NicConfig) (m : NicMove) : Decidable (LeftInPeace c m) :=
  inferInstanceAs (Decidable (_ ∧ _))

theorem LeftInPeace.inTurn {c : NicConfig} {m : NicMove} (ok : LeftInPeace c m) : InTurn c m := by
  unfold InTurn
  split
  · exact fun unfinished => ok.1 unfinished.1
  · exact Option.isNone_iff_eq_none.mp (Option.isSome_eq_false_iff.mp (ok.2 rfl))
  · trivial

/-- Probe, open, a transmit, an interrupt, and remove with the interface open. -/
theorem accesses_live_life : ∃ past c, Run (nic demoExterns everyCaller).Step unboundNic past c ∧
    c.state.binding = .unbound ∧ c.state.txHead = 1 ∧ AllSteps AccessesLive past := by
  obtain ⟨past, c, run, steps, reached⟩ := Machine.run_of_play (M := nic demoExterns everyCaller)
    LeftInPeace (wholeLife.take 17 ++ transmitOnce ++ wholeLife.drop 17) unboundNic
    (fun c => c.state.binding = .unbound ∧ c.state.txHead = 1) (by decide)
  obtain ⟨gone, sent⟩ := of_decide_eq_true reached
  exact ⟨past, c, run, gone, sent, accesses_live run unboundNic_unbound rfl rfl rfl
    fun x mem => (steps x mem).inTurn⟩

end ScullDrivers.Nic
