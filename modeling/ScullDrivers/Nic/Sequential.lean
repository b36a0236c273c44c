import ScullDrivers.Nic.Kernel

/-!
# Undisturbed calls of the `network/nic.c` functions

What one whole call of each function does to the state when nothing else runs meanwhile: the
specifications the results about sequences of calls are built from.  No later module unfolds the
functions themselves for such a result.
-/

namespace ScullDrivers.Nic

open Interaction

variable {τ : Type} {i : τ} {b : Externs} {s s' : State τ} {r : Int}

/-- One call, and what follows it. -/
theorem exec_kcall {α : Type} {e : Call} {k : Resp e → Prog Call Resp α} {a : α} :
    (Prog.call e k).Exec (kernel i) s a s' ↔
      ∃ r, returns e s r ∧ (k r).Exec (kernel i) (effect i e s r) a s' := by
  constructor
  · intro run
    obtain ⟨r, _, ⟨answer, rfl⟩, rest⟩ := run
    exact ⟨r, answer, rest⟩
  · intro run
    obtain ⟨r, answer, rest⟩ := run
    exact ⟨r, _, ⟨answer, rfl⟩, rest⟩

/-- One call where the answers are subject to `A`, and what follows it. -/
theorem exec_kcall_answering {α : Type} {A : (e : Call) → Resp e → Prop} {e : Call}
    {k : Resp e → Prog Call Resp α} {a : α} :
    (Prog.call e k).Exec ((kernel i).answering A) s a s' ↔
      ∃ r, returns e s r ∧ A e r ∧ (k r).Exec ((kernel i).answering A) (effect i e s r) a s' := by
  constructor
  · intro run
    obtain ⟨r, _, ⟨⟨answer, rfl⟩, told⟩, rest⟩ := run
    exact ⟨r, answer, told, rest⟩
  · intro run
    obtain ⟨r, answer, told, rest⟩ := run
    exact ⟨r, _, ⟨⟨answer, rfl⟩, told⟩, rest⟩

/-! ## Transmit -/

/-- `dma_map_single` answers `dmaAddr`. -/
def MapsTo (dmaAddr : Option Nat) : (e : Call) → Resp e → Prop
  | .dmaMapSingle _ _, r => r = dmaAddr
  | _, _ => True

/-- The effect of `mynic_start_xmit`, `dmaAddr` being what `dma_map_single` answered. -/
def State.xmit (s : State τ) (skb : SkBuff) (dmaAddr : Option Nat) : State τ :=
  { s with
    mapped := s.mapped ++ if dmaAddr.isSome then [(skb, skbHeadlen skb)] else []
    lock := none
    txSkbuff := Function.update s.txSkbuff s.txHead (some skb)
    txHead := txRingNext s.txHead
    txSubmitted := s.txSubmitted + 1 }

theorem exec_mynicStartXmit {skb : SkBuff} {dmaAddr : Option Nat} :
    (mynicStartXmit b skb).Exec ((kernel i).answering (MapsTo dmaAddr)) s r s' ↔
      r = netdevTxOk ∧ s.lock = none ∧ s' = s.xmit skb dmaAddr := by
  simp only [mynicStartXmit, perform_bind, pure_eq, exec_kcall_answering, exec_ret]
  constructor
  · intro run
    obtain ⟨_, _, rfl, _, unlocked, _, _, rfl, _, _, _, _, _, rfl, _, _, _, _, _, _, _, _, _, _, ok,
      rfl⟩ := run
    refine ⟨ok, unlocked, ?_⟩
    unfold State.xmit effect
    rfl
  · intro sent
    obtain ⟨ok, unlocked, rfl⟩ := sent
    refine ⟨dmaAddr, trivial, rfl, (), unlocked, trivial, _, rfl, trivial, (), trivial, trivial, _, rfl,
      trivial, (), trivial, trivial, (), trivial, trivial, (), trivial, trivial, ok, ?_⟩
    unfold State.xmit effect
    rfl

/-! ## The interrupt handler -/

/-- The effect of the body of `if (skb)`. -/
def State.release (s : State τ) (idx : Fin mynicTxRingSize) : Option SkBuff → State τ
  | none => s
  | some skb =>
      { s with
        unmapped := s.unmapped ++ [(skb, skb.len)]
        freed := s.freed ++ [skb]
        txSkbuff := Function.update s.txSkbuff idx none }

theorem State.release_txTail {idx : Fin mynicTxRingSize} {skb : Option SkBuff} :
    (s.release idx skb).txTail = s.txTail := by
  cases skb <;> rfl

theorem exec_mynicInterruptFree {idx : Fin mynicTxRingSize} {skb : Option SkBuff} {u : Unit} :
    (mynicInterruptFree idx skb).Exec (kernel i) s u s' ↔ s' = s.release idx skb := by
  cases skb with
  | none => simp [mynicInterruptFree, State.release]
  | some skb =>
      simp only [mynicInterruptFree, perform_bind]
      constructor
      · intro run
        obtain ⟨_, _, run⟩ := exec_kcall.mp run
        obtain ⟨_, _, run⟩ := exec_kcall.mp run
        obtain ⟨_, _, -, rfl⟩ := exec_kcall.mp run
        rfl
      · intro done
        subst done
        exact exec_kcall.mpr ⟨(), trivial, exec_kcall.mpr ⟨(), trivial,
          exec_kcall.mpr ⟨(), trivial, rfl, rfl⟩⟩⟩

/-- One iteration of the reclaim loop. -/
def State.reclaim (s : State τ) : State τ :=
  { s.release s.txTail (s.txSkbuff s.txTail) with txTail := txRingNext s.txTail }

theorem State.reclaim_of_some {skb : SkBuff} (stored : s.txSkbuff s.txTail = some skb) :
    s.reclaim =
      { s with
        unmapped := s.unmapped ++ [(skb, skb.len)]
        freed := s.freed ++ [skb]
        txSkbuff := Function.update s.txSkbuff s.txTail none
        txTail := txRingNext s.txTail } := by
  unfold State.reclaim
  rw [stored]
  rfl

/-- The index the loop stores is the one after the slot it released. -/
theorem effect_storeTxTail (i : τ) (s : State τ) :
    effect i (.storeTxTail (txRingNext (s.release s.txTail (s.txSkbuff s.txTail)).txTail))
      (s.release s.txTail (s.txSkbuff s.txTail)) () = s.reclaim := by
  rw [State.release_txTail]
  rfl

theorem exec_mynicInterruptReclaim {sent : Nat} {u : Unit} :
    (mynicInterruptReclaim sent).Exec (kernel i) s u s' ↔ s' = State.reclaim^[sent] s := by
  induction sent generalizing s with
  | zero => simp [mynicInterruptReclaim]
  | succ sent ih =>
      simp only [mynicInterruptReclaim, perform_bind, exec_kcall, exec_bind,
        exec_mynicInterruptFree, ih, Function.iterate_succ_apply]
      constructor
      · intro run
        obtain ⟨idx, tail, skb, stored, _, s₁, rfl, idx', tail', _, _, rfl⟩ := run
        obtain rfl : idx = s.txTail := tail
        obtain rfl : skb = s.txSkbuff s.txTail := stored
        obtain rfl : idx' = (s.release s.txTail (s.txSkbuff s.txTail)).txTail := tail'
        exact congrArg _ (effect_storeTxTail i s)
      · intro done
        rw [← effect_storeTxTail i s] at done
        exact ⟨_, rfl, _, rfl, (), _, rfl, _, rfl, (), trivial, done⟩

/-- The effect of the handler before its transmit part: the status acknowledged and, for a receive
interrupt, the poll scheduled. -/
def State.acknowledge (b : Externs) (s : State τ) : State τ :=
  { s with
    intrStatus := s.intrStatus &&& ~~~s.intrStatus
    napi := if s.intrStatus &&& b.RX_INTR ≠ 0 then s.napi.schedule else s.napi }

/-- The effect of the transmit part, `sent` packets being reported. -/
def State.complete (i : τ) (sent : Nat) (s : State τ) : State τ :=
  { State.reclaim^[sent] { s with lock := some i, txReported := s.txReported + sent } with
    lock := none
    queueStopped := false }

theorem exec_mynicInterruptTx {status : BitVec 32} {u : Unit} :
    (mynicInterruptTx b status).Exec (kernel i) s u s' ↔
      if status &&& b.TX_INTR ≠ 0 then
        s.lock = none ∧ ∃ sent, s.txReported + sent ≤ s.txSubmitted ∧ s' = s.complete i sent
      else s' = s := by
  have claimed : ∀ sent, effect i .packetsSent (effect i .spinLock s ()) sent =
      { s with lock := some i, txReported := s.txReported + sent } := fun _ => rfl
  unfold mynicInterruptTx
  split
  · simp only [perform_bind, exec_kcall, exec_bind, exec_mynicInterruptReclaim]
    constructor
    · intro run
      obtain ⟨_, unlocked, sent, le, _, _, rfl, _, _, run⟩ := run
      obtain ⟨_, _, -, rfl⟩ := exec_kcall.mp run
      refine ⟨unlocked, sent, le, ?_⟩
      rw [claimed]
      rfl
    · intro done
      obtain ⟨unlocked, sent, le, rfl⟩ := done
      refine ⟨(), unlocked, sent, le, (), _, rfl, (), trivial, ?_⟩
      rw [claimed]
      exact exec_kcall.mpr ⟨(), trivial, rfl, rfl⟩
  · simp

theorem exec_mynicInterruptRx {status : BitVec 32} {u : Unit} :
    (mynicInterruptRx b status).Exec (kernel i) s u s' ↔
      s' = { s with napi := if status &&& b.RX_INTR ≠ 0 then s.napi.schedule else s.napi } := by
  unfold mynicInterruptRx
  split
  · constructor
    · intro run
      obtain ⟨_, _, -, rfl⟩ := exec_kcall.mp run
      rfl
    · intro done
      subst done
      exact exec_kcall.mpr ⟨(), trivial, rfl, rfl⟩
  · simp

theorem exec_mynicInterrupt :
    (mynicInterrupt b).Exec (kernel i) s r s' ↔
      r = irqHandled ∧
        if s.intrStatus &&& b.TX_INTR ≠ 0 then
          s.lock = none ∧
            ∃ sent, s.txReported + sent ≤ s.txSubmitted ∧
              s' = (s.acknowledge b).complete i sent
        else s' = s.acknowledge b := by
  simp only [mynicInterrupt_eq, mynicInterruptStatus, perform_bind, exec_kcall, exec_bind,
    exec_mynicInterruptRx, exec_mynicInterruptTx, pure_eq, exec_ret]
  constructor
  · intro run
    obtain ⟨_, rfl, _, _, _, _, rfl, _, _, tx, ok, rfl⟩ := run
    exact ⟨ok, tx⟩
  · intro done
    obtain ⟨ok, tx⟩ := done
    exact ⟨_, rfl, (), trivial, (), _, rfl, (), _, tx, ok, rfl⟩

/-! ## Open and stop -/

/-- The effect of `mynic_open`. -/
def State.open (b : Externs) (s : State τ) : State τ :=
  { s with
    napi := { s.napi with enabled := true, sched := false, missed := false }
    queueStopped := false
    control := b.ENABLE_IRQ ||| b.ENABLE_RX }

/-- The effect of `mynic_stop`. -/
def State.stop (s : State τ) : State τ :=
  { s with
    control := 0
    queueStopped := true
    napi := { s.napi with enabled := false, sched := false, missed := false } }

theorem exec_mynicOpen :
    (mynicOpen b).Exec (kernel i) s r s' ↔ r = 0 ∧ s' = s.open b := by
  simp only [mynicOpen, perform_bind, exec_kcall, pure_eq, exec_ret]
  constructor
  · intro run
    obtain ⟨_, _, _, _, _, _, ok, rfl⟩ := run
    exact ⟨ok, rfl⟩
  · intro done
    obtain ⟨ok, rfl⟩ := done
    exact ⟨(), trivial, (), trivial, (), trivial, ok, rfl⟩

theorem exec_mynicStop :
    mynicStop.Exec (kernel i) s r s' ↔ r = 0 ∧ s.napi.polling = false ∧ s' = s.stop := by
  simp only [mynicStop, perform_bind, exec_kcall, pure_eq, exec_ret]
  constructor
  · intro run
    obtain ⟨_, _, _, _, _, idle, ok, rfl⟩ := run
    exact ⟨ok, idle, rfl⟩
  · intro done
    obtain ⟨ok, idle, rfl⟩ := done
    exact ⟨(), trivial, (), trivial, (), idle, ok, rfl⟩

/-! ## Probe and remove -/

/-- The effect of a probe in which every call succeeds. -/
def State.probed (mmio netdev : Ptr) (s : State τ) : State τ :=
  { s.allocNetdev netdev with
    pciEnabled := true
    region := true
    mapping := mmio
    mmio := mmio
    drvdata := netdev
    registered := true
    irqRequested := true
    napi := { added := true } }

/-- The unwinding labels return the error they were entered with. -/
theorem exec_errDisablePci {err : Int} (run : (errDisablePci err).Exec (kernel i) s r s') :
    r = err := by
  obtain ⟨_, _, ok, -⟩ := exec_kcall.mp run
  exact ok

theorem exec_errReleaseRegion {err : Int} (run : (errReleaseRegion err).Exec (kernel i) s r s') :
    r = err := by
  obtain ⟨_, _, run⟩ := exec_kcall.mp run
  exact exec_errDisablePci run

theorem exec_errIounmap {mmio : Ptr} {err : Int}
    (run : (errIounmap mmio err).Exec (kernel i) s r s') : r = err := by
  obtain ⟨_, _, run⟩ := exec_kcall.mp run
  exact exec_errReleaseRegion run

theorem exec_errFreeNetdev {mmio netdev : Ptr} {err : Int}
    (run : (errFreeNetdev mmio netdev err).Exec (kernel i) s r s') : r = err := by
  obtain ⟨_, _, run⟩ := exec_kcall.mp run
  exact exec_errIounmap run

theorem exec_errUnregisterNetdev {mmio netdev : Ptr} {err : Int}
    (run : (errUnregisterNetdev mmio netdev err).Exec (kernel i) s r s') : r = err := by
  obtain ⟨_, _, -, run⟩ := exec_bind.mp run
  exact exec_errFreeNetdev run

theorem exec_mynicProbeIrq_ok {mmio netdev : Ptr} :
    (mynicProbeIrq mmio netdev).Exec (kernel i) s 0 s' ↔
      s' = { s with irqRequested := true, napi := { added := true } } := by
  simp only [mynicProbeIrq, perform_bind, pure_eq, exec_kcall]
  constructor
  · intro run
    obtain ⟨err, _, run⟩ := run
    by_cases fail : err = 0
    · subst fail
      obtain ⟨_, _, -, rfl⟩ := exec_kcall.mp run
      rfl
    · rw [if_pos fail] at run
      exact absurd (exec_errUnregisterNetdev run).symm fail
  · intro made
    subst made
    refine ⟨0, trivial, ?_⟩
    rw [if_neg (not_not.mpr rfl)]
    exact exec_kcall.mpr ⟨(), trivial, rfl, rfl⟩

theorem exec_mynicProbeNetdev_ok {mmio : Ptr} :
    (mynicProbeNetdev mmio).Exec (kernel i) s 0 s' ↔
      ∃ netdev, netdev ≠ 0 ∧
        s' = { s.allocNetdev netdev with
          mmio := mmio, lock := none, drvdata := netdev, registered := true, irqRequested := true,
          napi := { added := true } } := by
  simp only [mynicProbeNetdev, perform_bind, exec_kcall]
  constructor
  · intro run
    obtain ⟨netdev, _, run⟩ := run
    by_cases null : netdev = 0
    · rw [if_pos null] at run
      exact absurd (exec_errIounmap run) (by decide)
    · have alloc : effect i .allocEtherdev s netdev = s.allocNetdev netdev := if_neg null
      rw [if_neg null, alloc] at run
      refine ⟨netdev, null, ?_⟩
      generalize s.allocNetdev netdev = m at run ⊢
      obtain ⟨_, _, run⟩ := exec_kcall.mp run
      obtain ⟨_, _, run⟩ := exec_kcall.mp run
      obtain ⟨_, _, run⟩ := exec_kcall.mp run
      obtain ⟨err, _, run⟩ := exec_kcall.mp run
      by_cases fail : err = 0
      · subst fail
        exact exec_mynicProbeIrq_ok.mp run
      · simp only [ne_eq, fail, not_false_eq_true, if_true] at run
        exact absurd (exec_errFreeNetdev run).symm fail
  · intro made
    obtain ⟨netdev, hnetdev, rfl⟩ := made
    have alloc : effect i .allocEtherdev s netdev = s.allocNetdev netdev := if_neg hnetdev
    refine ⟨netdev, trivial, ?_⟩
    rw [if_neg hnetdev, alloc]
    generalize s.allocNetdev netdev = m
    exact exec_kcall.mpr ⟨(), trivial, exec_kcall.mpr ⟨(), trivial, exec_kcall.mpr ⟨(), trivial,
      exec_kcall.mpr ⟨0, trivial, exec_mynicProbeIrq_ok.mpr rfl⟩⟩⟩⟩

/-- `mynic_probe` returns 0 exactly when every call in it succeeded. -/
theorem exec_mynicProbe_ok :
    mynicProbe.Exec (kernel i) s 0 s' ↔
      ∃ mmio netdev, mmio ≠ 0 ∧ netdev ≠ 0 ∧ s' = s.probed mmio netdev := by
  simp only [mynicProbe, perform_bind, pure_eq, exec_kcall]
  constructor
  · intro run
    obtain ⟨err, _, run⟩ := run
    by_cases fail : err = 0
    · subst fail
      obtain ⟨err, _, run⟩ := exec_kcall.mp run
      by_cases fail : err = 0
      · subst fail
        obtain ⟨mmio, _, run⟩ := exec_kcall.mp run
        by_cases null : mmio = 0
        · simp only [null, if_true] at run
          exact absurd (exec_errReleaseRegion run) (by decide)
        · simp only [null, if_false] at run
          obtain ⟨netdev, hnetdev, rfl⟩ := exec_mynicProbeNetdev_ok.mp run
          exact ⟨mmio, netdev, null, hnetdev, rfl⟩
      · simp only [ne_eq, fail, not_false_eq_true, if_true] at run
        exact absurd (exec_errDisablePci run).symm fail
    · rw [if_pos fail] at run
      exact absurd run.1.symm fail
  · intro made
    obtain ⟨mmio, netdev, hmmio, hnetdev, rfl⟩ := made
    refine ⟨0, trivial, exec_kcall.mpr ⟨0, trivial, exec_kcall.mpr ⟨mmio, trivial, ?_⟩⟩⟩
    simp only [hmmio, if_false]
    exact exec_mynicProbeNetdev_ok.mpr ⟨netdev, hnetdev, rfl⟩

theorem exec_stopIfRunning {running : Bool} {u : Unit} :
    (stopIfRunning running).Exec (kernel i) s u s' ↔
      (running = true → s.napi.polling = false) ∧ s' = if running then s.stop else s := by
  cases running with
  | false => simp [stopIfRunning]
  | true =>
      simp only [stopIfRunning, if_true, exec_bind, exec_mynicStop, pure_eq, exec_ret, true_imp_iff]
      constructor
      · intro run
        obtain ⟨_, _, ⟨-, idle, rfl⟩, -, rfl⟩ := run
        exact ⟨idle, rfl⟩
      · intro stop
        obtain ⟨idle, rfl⟩ := stop
        exact ⟨0, _, ⟨rfl, idle, rfl⟩, trivial, rfl⟩

/-- The effect of `unregister_netdev`. -/
def State.unregister (s : State τ) : State τ :=
  { (if s.iface = .up then s.stop else s) with
    rtnl := none
    registered := false
    iface := .fresh }

theorem State.unregister_of_up (up : s.iface = .up) :
    s.unregister = { s.stop with rtnl := none, registered := false, iface := .fresh } := by
  unfold State.unregister
  rw [if_pos up]

theorem State.unregister_of_not_up (down : s.iface ≠ .up) :
    s.unregister = { s with rtnl := none, registered := false, iface := .fresh } := by
  unfold State.unregister
  rw [if_neg down]

theorem exec_unregisterNetdev {netdev : Ptr} {u : Unit} :
    (unregisterNetdev netdev).Exec (kernel i) s u s' ↔
      s.rtnl = none ∧ (s.iface = .up → s.napi.polling = false) ∧ s' = s.unregister := by
  simp only [unregisterNetdev, perform_bind, exec_kcall, exec_bind, exec_stopIfRunning]
  by_cases up : s.iface = .up
  · rw [State.unregister_of_up up]
    constructor
    · intro run
      obtain ⟨_, free, running, answer, _, _, ⟨idle, rfl⟩, _, _, run⟩ := run
      obtain rfl : running = true := answer.trans (decide_eq_true up)
      obtain ⟨_, _, -, rfl⟩ := exec_kcall.mp run
      exact ⟨free, fun _ => idle rfl, rfl⟩
    · intro done
      obtain ⟨free, idle, rfl⟩ := done
      refine ⟨(), free, true, (decide_eq_true up).symm, (), _, ⟨fun _ => idle up, rfl⟩, (), trivial,
        ?_⟩
      exact exec_kcall.mpr ⟨(), trivial, rfl, rfl⟩
  · rw [State.unregister_of_not_up up]
    constructor
    · intro run
      obtain ⟨_, free, running, answer, _, _, ⟨idle, rfl⟩, _, _, run⟩ := run
      obtain rfl : running = false := answer.trans (decide_eq_false up)
      obtain ⟨_, _, -, rfl⟩ := exec_kcall.mp run
      exact ⟨free, fun here => absurd here up, rfl⟩
    · intro done
      obtain ⟨free, idle, rfl⟩ := done
      refine ⟨(), free, false, (decide_eq_false up).symm, (), _,
        ⟨fun running => Bool.noConfusion running, rfl⟩, (), trivial, ?_⟩
      exact exec_kcall.mpr ⟨(), trivial, rfl, rfl⟩

/-- The effect of `mynic_remove`. -/
def State.removed (s : State τ) : State τ :=
  { s.unregister with
    irqRequested := false
    napi := { s.unregister.napi with added := false }
    mapping := 0
    netdev := 0
    region := false
    pciEnabled := false }

theorem exec_mynicRemove :
    mynicRemove.Exec (kernel i) s r s' ↔
      r = 0 ∧ s.irqRunning = false ∧ s.rtnl = none ∧
        (s.iface = .up → s.napi.polling = false) ∧ s' = s.removed := by
  have quieted : ∀ netdev, State.unregister (effect i (.freeIrq netdev) s ()) =
      { s.unregister with irqRequested := false } := by
    intro netdev
    by_cases up : s.iface = .up
    · rw [State.unregister_of_up up,
        State.unregister_of_up (s := effect i (.freeIrq netdev) s ()) up]
      rfl
    · rw [State.unregister_of_not_up up,
        State.unregister_of_not_up (s := effect i (.freeIrq netdev) s ()) up]
      rfl
  simp only [mynicRemove, perform_bind, exec_kcall, exec_bind, exec_unregisterNetdev, pure_eq,
    exec_ret]
  constructor
  · intro run
    obtain ⟨netdev, _, _, quiet, _, _, ⟨free, idle, rfl⟩, _, _, mmio, _, _, _, _, _, _, _, _, _, ok,
      rfl⟩ := run
    refine ⟨ok, quiet, free, idle, ?_⟩
    have settled := quieted netdev
    unfold State.removed
    generalize s.unregister = m at settled ⊢
    rw [show effect i .pciGetDrvdata s netdev = s from rfl]
    generalize State.unregister (effect i (.freeIrq netdev) s ()) = m' at settled ⊢
    subst settled
    rfl
  · intro done
    obtain ⟨ok, quiet, free, idle, rfl⟩ := done
    refine ⟨_, rfl, (), quiet, (), _, ⟨free, idle, rfl⟩, (), trivial, _, rfl, (), trivial, (),
      trivial, (), trivial, (), trivial, ok, ?_⟩
    have settled := quieted s.drvdata
    unfold State.removed
    generalize s.unregister = m at settled ⊢
    rw [show effect i .pciGetDrvdata s s.drvdata = s from rfl]
    generalize State.unregister (effect i (.freeIrq s.drvdata) s ()) = m' at settled ⊢
    subst settled
    rfl

end ScullDrivers.Nic
