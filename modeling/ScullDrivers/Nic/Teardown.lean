import ScullDrivers.Nic.TxRing

/-!
# Tearing the interface down

`Session` is a whole life of the device: a successful `mynic_probe`, any calls on the transmit side
with never more packets outstanding than the ring holds, and `mynic_remove`.  Only the interrupt
handler unmaps and frees a packet, and neither `mynic_stop` nor `mynic_remove` looks at the ring, so
a session releases every accepted packet exactly when none is outstanding at its end
(`session_releases_iff`).
-/

namespace ScullDrivers.Nic

open Interaction

/-- The transmit side of a device no driver has used yet. -/
structure TxUnused (n : State Unit) : Prop where
  freed : n.freed = []
  unmapped : n.unmapped = []
  submitted : n.txSubmitted = 0
  reported : n.txReported = 0

/-- A device probed, used through the steps `past`, and removed: `s` is the driver when
`mynic_remove` is entered and `n` the state when it has returned. -/
structure Session (b : Externs) (past : List (TxState × TxEvent)) (s : TxState) (n : State Unit) :
    Prop where
  lives : ∃ n₀ n₁, TxUnused n₀ ∧ mynicProbe.Exec (kernel ()) n₀ 0 n₁ ∧
    Run (TxStep b) ⟨n₁, []⟩ past s
  room : AllSteps HasRoom past
  remove : ∃ r, mynicRemove.Exec (kernel ()) s.nic r n

/-- The packet was unmapped once and freed once. -/
def Released (n : State Unit) (skb : SkBuff) : Prop :=
  (n.unmapped.map Prod.fst).count skb = 1 ∧ n.freed.count skb = 1

variable {b : Externs} {past : List (TxState × TxEvent)} {s : TxState} {n n₀ n₁ : State Unit}

/-- A successful probe leaves an empty ring. -/
theorem TxUnused.idle (unused : TxUnused n₀) (probe : mynicProbe.Exec (kernel ()) n₀ 0 n₁) :
    TxIdle ⟨n₁, []⟩ := by
  obtain ⟨mmio, netdev, -, -, rfl⟩ := exec_mynicProbe_ok.mp probe
  exact ⟨rfl, unused.freed, unused.unmapped, fun _ => rfl, rfl, rfl, unused.submitted,
    unused.reported⟩

/-- `mynic_remove` unmaps and frees nothing. -/
theorem removed_ledger (m : State Unit) :
    m.removed.unmapped = m.unmapped ∧ m.removed.freed = m.freed := by
  unfold State.removed State.unregister
  split <;> exact ⟨rfl, rfl⟩

/-- At the end of a session the released packets are those the interrupt handler has reclaimed. -/
theorem Session.inv (session : Session b past s n) :
    TxInv s ∧ n.unmapped = s.nic.unmapped ∧ n.freed = s.nic.freed := by
  obtain ⟨n₀, n₁, unused, probe, run⟩ := session.lives
  obtain ⟨r, remove⟩ := session.remove
  obtain ⟨-, -, -, -, rfl⟩ := exec_mynicRemove.mp remove
  exact ⟨(TxInv.run run (unused.idle probe) session.room).2, removed_ledger s.nic⟩

/-- **No leak at teardown.**  A session has unmapped and freed every accepted packet exactly once
when `mynic_remove` returns if and only if no packet was outstanding when it was entered. -/
theorem session_releases_iff (session : Session b past s n) :
    (∀ skb ∈ s.accepted, Released n skb) ↔ s.nic.outstanding = 0 := by
  obtain ⟨⟨q, inv⟩, unmapped_eq, freed_eq⟩ := session.inv
  have parts := inv.nodup
  rw [inv.accepted_eq, List.nodup_append] at parts
  obtain ⟨freedNodup, -, disjoint⟩ := parts
  rw [inv.outstanding_eq, List.length_eq_zero_iff]
  constructor
  · intro released
    cases q with
    | nil => rfl
    | cons skb q =>
        have mem : skb ∈ s.accepted := by
          rw [inv.accepted_eq]
          exact List.mem_append_right _ List.mem_cons_self
        have freed : skb ∈ s.nic.freed := by
          have once := (released skb mem).2
          rw [freed_eq] at once
          exact List.count_pos_iff.mp (once ▸ Nat.one_pos)
        exact absurd rfl (disjoint skb freed skb List.mem_cons_self)
  · intro drained skb mem
    rw [inv.accepted_eq, drained, List.append_nil] at mem
    unfold Released
    rw [unmapped_eq, freed_eq, inv.unmapped_eq]
    have once := List.count_eq_one_of_mem freedNodup mem
    exact ⟨once, once⟩

/-! ## Two sessions -/

/-- A probed device nothing was sent through yet. -/
def probedNic : State Unit := State.probed 1 1 {}

theorem probedNic_probe : mynicProbe.Exec (kernel ()) {} 0 probedNic :=
  exec_mynicProbe_ok.mpr ⟨1, 1, by decide, by decide, rfl⟩

/-- One packet sent through it. -/
def sentOne : TxState := TxState.sent ⟨probedNic, []⟩ (floodSkb 0) (some 0)

theorem sentOne_step (b : Externs) :
    TxStep b ⟨probedNic, []⟩ (.xmit (floodSkb 0) (some 0)) sentOne :=
  TxState.sent_step List.not_mem_nil rfl

/-- The steps taken to `sentOne`. -/
def sentOnePast : List (TxState × TxEvent) := [(⟨probedNic, []⟩, .xmit (floodSkb 0) (some 0))]

theorem sentOne_hasRoom : AllSteps HasRoom sentOnePast := by
  intro x mem skb dmaAddr _
  rw [sentOnePast, List.mem_singleton] at mem
  subst mem
  decide

/-- Removed with the packet still outstanding. -/
theorem sentOne_session (b : Externs) : Session b sentOnePast sentOne sentOne.nic.removed where
  lives := by
    refine ⟨{}, probedNic, ⟨rfl, rfl, rfl, rfl⟩, probedNic_probe, ?_⟩
    exact Run.snoc Run.nil (sentOne_step b)
  room := sentOne_hasRoom
  remove := ⟨0, exec_mynicRemove.mpr ⟨rfl, rfl, rfl, fun up => absurd up (by decide), rfl⟩⟩

/-- The packet reported sent by a transmit interrupt. -/
def reclaimedOne : TxState :=
  ⟨(State.acknowledge demoExterns { sentOne.nic with intrStatus := 2 }).complete () 1,
    sentOne.accepted⟩

theorem reclaimedOne_step : TxStep demoExterns sentOne (.interrupt 2) reclaimedOne := by
  have handled : (mynicInterrupt demoExterns).Exec (kernel ()) { sentOne.nic with intrStatus := 2 }
      irqHandled reclaimedOne.nic := by
    refine exec_mynicInterrupt.mpr ⟨rfl, ?_⟩
    rw [if_pos (by decide)]
    exact ⟨rfl, 1, by decide, rfl⟩
  exact .interrupt handled

/-- Removed after the packet was reclaimed. -/
theorem reclaimedOne_session :
    Session demoExterns (sentOnePast ++ [(sentOne, .interrupt 2)]) reclaimedOne
      reclaimedOne.nic.removed where
  lives := by
    refine ⟨{}, probedNic, ⟨rfl, rfl, rfl, rfl⟩, probedNic_probe, ?_⟩
    exact Run.snoc (Run.snoc Run.nil (sentOne_step demoExterns)) reclaimedOne_step
  room := allSteps_snoc.mpr ⟨sentOne_hasRoom, fun _ _ same => by cases same⟩
  remove := ⟨0, exec_mynicRemove.mpr ⟨rfl, rfl, rfl, fun up => absurd up (by decide), rfl⟩⟩

/-- A session that drains the ring releases its packet. -/
theorem session_releases_drained : Released reclaimedOne.nic.removed (floodSkb 0) :=
  (session_releases_iff reclaimedOne_session).mpr rfl (floodSkb 0) List.mem_cons_self

/-- Removing the device with one packet outstanding leaks it. -/
theorem session_leaks :
    ¬ ∀ (b : Externs) (past : List (TxState × TxEvent)) (s : TxState) (n : State Unit),
      Session b past s n → ∀ skb ∈ s.accepted, Released n skb := by
  intro claim
  have released := claim demoExterns _ _ _ (sentOne_session demoExterns) (floodSkb 0) List.mem_cons_self
  have kept : sentOne.nic.removed.freed = [] := (removed_ledger sentOne.nic).2
  rw [Released, kept] at released
  exact absurd released.2 (by decide)

end ScullDrivers.Nic
