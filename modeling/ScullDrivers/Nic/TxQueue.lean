import ScullDrivers.Nic.TxRing

/-!
# The transmit ring as a queue, and the mappings of its packets

While at most `MYNIC_TX_RING_SIZE` packets are outstanding the ring is a FIFO queue, up to and including a
full one, where `tx_head` and `tx_tail` meet (`txRing_fifo`).

The ledger of DMA mappings is another matter.  `mynic_start_xmit` maps the linear part of a packet, and
does not look at whether that succeeded; `mynic_interrupt` unmaps the whole length.  The two agree
throughout a run exactly when every mapping succeeds and every packet reported sent is linear
(`always_wellMapped_iff`).
-/

namespace ScullDrivers.Nic

open Interaction

variable {b : Externs} {s s₀ s' : TxState} {e : TxEvent} {past : List (TxState × TxEvent)}

/-! ## The bound -/

/-- At most `MYNIC_TX_RING_SIZE` packets are outstanding. -/
def Bounded (s : TxState) : Prop := s.nic.outstanding ≤ mynicTxRingSize

theorem TxInv.bounded (inv : TxInv s) : Bounded s := by
  obtain ⟨q, inv⟩ := inv
  unfold Bounded
  rw [inv.outstanding_eq]
  exact inv.holds.length_le

theorem TxInv.hasRoom_of_bounded (step : TxStep b s e s') (inv : TxInv s) (after : Bounded s') :
    HasRoom s e := by
  obtain ⟨q, inv⟩ := inv
  intro skb dmaAddr xmit
  subst xmit
  cases step with
  | xmit fresh run =>
      obtain ⟨rfl, -, rfl⟩ := exec_mynicStartXmit.mp run
      have submitted := inv.submitted_eq
      have bound : s.nic.txSubmitted + 1 - s.nic.txReported ≤ mynicTxRingSize := after
      unfold State.outstanding
      omega

/-- A run stays within the bound exactly when it never transmits at the bound. -/
theorem always_bounded_iff (run : Run (TxStep b) s₀ past s) (idle : TxIdle s₀) :
    Always Bounded past s ↔ AllSteps HasRoom past :=
  run.always_iff_allSteps idle.inv TxInv.bounded TxInv.step TxInv.hasRoom_of_bounded

theorem TxInv.always (run : Run (TxStep b) s₀ past s) (idle : TxIdle s₀)
    (bounded : Always Bounded past s) : Always TxInv past s :=
  TxInv.run run idle ((always_bounded_iff run idle).mp bounded)

/-! ## The queue -/

/-- The packets submitted and not freed yet, oldest first. -/
def TxState.waiting (s : TxState) : List SkBuff := s.accepted.drop s.nic.freed.length

/-- The slot `k` after `tx_tail`. -/
def State.slotAfterTail (n : State Unit) (k : ℕ) : Fin mynicTxRingSize :=
  Ring.slot mynicTxRingSize (n.txTail + k)

/-- The ring is a FIFO queue: the packets freed are the first ones submitted, none of them twice, and as
many as the device has reported sent; the others wait in the slots from `tx_tail` on, in the order of
their submission, and every other slot is empty; the two indices count what was submitted and what was
freed. -/
structure IsFifo (s : TxState) : Prop where
  freed : s.nic.freed <+: s.accepted
  once : s.nic.freed.Nodup
  counted : s.nic.freed.length = s.nic.txReported
  held : ∀ k skb, s.waiting[k]? = some skb → s.nic.txSkbuff (s.nic.slotAfterTail k) = some skb
  empty : ∀ i, (∀ k < s.waiting.length, s.nic.slotAfterTail k ≠ i) → s.nic.txSkbuff i = none
  distinct : ∀ j < s.waiting.length, ∀ k < s.waiting.length,
    s.nic.slotAfterTail j = s.nic.slotAfterTail k → j = k
  head : (s.nic.txHead : ℕ) = s.accepted.length % mynicTxRingSize
  tail : (s.nic.txTail : ℕ) = s.nic.freed.length % mynicTxRingSize

section RingInv

variable {n : State Unit} {accepted q : List SkBuff} {t : ℕ}

theorem RingInv.slotAfterTail (inv : RingInv n accepted t q) (k : ℕ) :
    n.slotAfterTail k = Ring.slot mynicTxRingSize (t + k) := by
  rw [State.slotAfterTail, inv.tail_eq, Ring.val_slot, Ring.slot_eq_iff, Nat.mod_add_mod]

theorem RingInv.waiting (inv : RingInv n accepted t q) : (⟨n, accepted⟩ : TxState).waiting = q := by
  rw [TxState.waiting, inv.accepted_eq, List.drop_left]

end RingInv

theorem TxInv.isFifo (inv : TxInv s) : IsFifo s := by
  obtain ⟨q, inv⟩ := inv
  have parts := inv.nodup
  rw [inv.accepted_eq, List.nodup_append] at parts
  have waiting : s.waiting = q := inv.waiting
  have room := inv.holds.length_le
  refine ⟨?_, parts.1, inv.freed_length, ?_, ?_, ?_, ?_, ?_⟩
  · rw [inv.accepted_eq]
    exact List.prefix_append _ _
  · intro k skb entry
    rw [waiting] at entry
    obtain ⟨lt, -⟩ := List.getElem?_eq_some_iff.mp entry
    rw [inv.slotAfterTail, inv.holds.slot_eq k (by omega), entry]
  · intro i apart
    obtain ⟨k, lt, rfl⟩ := Ring.exists_slot s.nic.txReported i
    rw [inv.holds.slot_eq k lt]
    apply List.getElem?_eq_none
    by_contra inside
    exact apart k (by rw [waiting]; omega) (inv.slotAfterTail k)
  · intro j hj k hk same
    rw [waiting] at hj hk
    rw [inv.slotAfterTail, inv.slotAfterTail] at same
    exact Ring.slot_injOn (by omega) (by omega) same
  · have submitted := inv.submitted_eq
    have length := inv.freed_length
    rw [inv.head_eq, Ring.val_slot, inv.accepted_eq, List.length_append, submitted, length]
  · rw [inv.tail_eq, Ring.val_slot, inv.freed_length]

/-- **The transmit ring is a queue**, all along a run in which at most `MYNIC_TX_RING_SIZE` packets are
outstanding. -/
theorem txRing_fifo (run : Run (TxStep b) s₀ past s) (idle : TxIdle s₀)
    (bounded : Always Bounded past s) : Always IsFifo past s :=
  (TxInv.always run idle bounded).mono fun _ => TxInv.isFifo

/-- The device has reported the two oldest packets of a full ring. -/
def drained : TxState :=
  ⟨State.complete () 2 (State.acknowledge demoExterns
    { (flood 128).nic with intrStatus := demoExterns.TX_INTR }), (flood 128).accepted⟩

/-- Their slots are used again. -/
def refilled : TxState :=
  (drained.sent (floodSkb 128) (some 128)).sent (floodSkb 129) none

/-- The ring is filled, two packets are reclaimed, and two more are stored in their slots. -/
theorem txRing_fifo_wrapped : ∃ past, Run (TxStep demoExterns) (flood 0) past refilled ∧
    refilled.nic.freed = [floodSkb 0, floodSkb 1] ∧ refilled.nic.txSkbuff 0 = some (floodSkb 128) ∧
      Always IsFifo past refilled := by
  have raised : demoExterns.TX_INTR &&& demoExterns.TX_INTR ≠ 0 := by decide
  have reported : TxStep demoExterns (flood 128) (.interrupt demoExterns.TX_INTR) drained := by
    apply TxStep.interrupt (exec_mynicInterrupt.mpr ⟨rfl, _⟩)
    rw [if_pos raised]
    exact ⟨flood_lock 128, 2, by decide +kernel, rfl⟩
  have fresh : ∀ k, 128 ≤ k → floodSkb k ∉ (flood 128).accepted := fun k le mem =>
    absurd (lt_of_mem_flood mem) (Nat.not_lt.mpr le)
  have apart : floodSkb 129 ∉ (flood 128).accepted ++ [floodSkb 128] := by
    rw [List.mem_append, List.mem_singleton, not_or]
    exact ⟨fresh 129 (by decide), by decide⟩
  have first := (flood_run demoExterns 128).snoc reported
  have third : TxStep demoExterns drained (.xmit (floodSkb 128) (some 128)) _ :=
    TxState.sent_step (fresh 128 le_rfl) rfl
  have run : Run (TxStep demoExterns) (flood 0) _ refilled :=
    (first.snoc third).snoc (TxState.sent_step apart rfl)
  refine ⟨_, run, by decide +kernel, by decide +kernel, txRing_fifo run flood_idle ?_⟩
  apply (always_bounded_iff run flood_idle).mpr
  rw [allSteps_snoc, allSteps_snoc, allSteps_snoc]
  refine ⟨⟨⟨flood_hasRoom le_rfl, fun _ _ => TxEvent.noConfusion⟩, fun _ _ _ => ?_⟩, fun _ _ _ => ?_⟩
  · decide +kernel
  · decide +kernel

/-! ## The mappings -/

/-- Every packet in the ring is mapped, and every packet that was freed has been unmapped once, with the
length it was mapped with. -/
structure WellMapped (s : TxState) : Prop where
  ring : ∀ i skb, s.nic.txSkbuff i = some skb → ∃ len, (skb, len) ∈ s.nic.mapped
  freed : ∀ skb ∈ s.nic.freed, ∃ len, (skb, len) ∈ s.nic.mapped ∧
    s.nic.unmapped.filter (fun x => x.1 = skb) = [(skb, len)]

/-- Every packet submitted is mapped. -/
def AllMapped (s : TxState) : Prop := ∀ skb ∈ s.accepted, ∃ len, (skb, len) ∈ s.nic.mapped

/-- The step is no transmit whose mapping fails. -/
def MapSucceeds (_ : TxState) (e : TxEvent) : Prop := ∀ skb, e ≠ .xmit skb none

/-- The packets reported sent, the first ones submitted, are linear. -/
def SentLinear (s : TxState) : Prop := ∀ skb ∈ s.accepted.take s.nic.txReported, skb.dataLen = 0

/-- The two lengths: what is mapped is the linear part of a packet, what is unmapped is all of it. -/
structure MapInv (n : State Unit) : Prop where
  mapped : ∀ x ∈ n.mapped, x.2 = skbHeadlen x.1
  unmapped : n.unmapped = n.freed.map fun skb => (skb, skb.len)

section MapInv

variable {n : State Unit}

theorem MapInv.xmit {skb : SkBuff} (inv : MapInv n) (dmaAddr : Option Nat) :
    MapInv (n.xmit skb dmaAddr) where
  mapped x mem := by
    rcases List.mem_append.mp mem with before | last
    · exact inv.mapped x before
    · cases dmaAddr with
      | none => exact absurd last List.not_mem_nil
      | some dmaAddr =>
          obtain rfl := List.mem_singleton.mp last
          rfl
  unmapped := inv.unmapped

theorem MapInv.reclaim (inv : MapInv n) : MapInv n.reclaim := by
  cases stored : n.txSkbuff n.txTail with
  | none =>
      have same : n.reclaim = { n with txTail := txRingNext n.txTail } := by
        unfold State.reclaim
        rw [stored]
        rfl
      rw [same]
      exact ⟨inv.mapped, inv.unmapped⟩
  | some skb =>
      rw [State.reclaim_of_some stored]
      refine ⟨inv.mapped, ?_⟩
      show n.unmapped ++ [(skb, skb.len)] = (n.freed ++ [skb]).map fun skb => (skb, skb.len)
      rw [inv.unmapped, List.map_append]
      rfl

theorem MapInv.reclaims (inv : MapInv n) (sent : ℕ) : MapInv (State.reclaim^[sent] n) := by
  induction sent generalizing n with
  | zero => exact inv
  | succ sent ih =>
      rw [Function.iterate_succ_apply]
      exact ih inv.reclaim

end MapInv

theorem MapInv.step (step : TxStep b s e s') (inv : MapInv s.nic) : MapInv s'.nic := by
  cases step with
  | «open» run =>
      obtain ⟨-, rfl⟩ := exec_mynicOpen.mp run
      exact ⟨inv.mapped, inv.unmapped⟩
  | stop run =>
      obtain ⟨-, -, rfl⟩ := exec_mynicStop.mp run
      exact ⟨inv.mapped, inv.unmapped⟩
  | @xmit skb dmaAddr _ _ fresh run =>
      obtain ⟨-, -, rfl⟩ := exec_mynicStartXmit.mp run
      exact inv.xmit dmaAddr
  | @interrupt status _ _ run =>
      obtain ⟨-, effect⟩ := exec_mynicInterrupt.mp run
      split at effect
      · obtain ⟨-, sent, -, rfl⟩ := effect
        have start : MapInv { State.acknowledge b { s.nic with intrStatus := status } with
            lock := some ()
            txReported := s.nic.txReported + sent } := ⟨inv.mapped, inv.unmapped⟩
        have done := start.reclaims sent
        exact ⟨done.mapped, done.unmapped⟩
      · subst effect
        exact ⟨inv.mapped, inv.unmapped⟩

/-- A packet that is freed is unmapped once, with its whole length. -/
theorem filter_unmapped {n : State Unit} {skb : SkBuff} (inv : MapInv n) (nodup : n.freed.Nodup)
    (mem : skb ∈ n.freed) : n.unmapped.filter (fun x => x.1 = skb) = [(skb, skb.len)] := by
  rw [inv.unmapped, List.filter_map]
  have single : n.freed.filter (fun x => x = skb) = [skb] := by
    rw [List.filter_eq, List.count_eq_one_of_mem nodup mem]
    rfl
  exact congrArg (List.map _) single

/-- Where the ring is a queue, the ledger is right exactly when every packet submitted is mapped and those
reported sent are linear. -/
theorem wellMapped_iff (inv : TxInv s) (maps : MapInv s.nic) :
    WellMapped s ↔ AllMapped s ∧ SentLinear s := by
  obtain ⟨q, inv⟩ := inv
  have parts := inv.nodup
  rw [inv.accepted_eq, List.nodup_append] at parts
  have sent : s.accepted.take s.nic.txReported = s.nic.freed := by
    rw [inv.accepted_eq, ← inv.freed_length, List.take_left]
  constructor
  · intro well
    constructor
    · intro skb mem
      rw [inv.accepted_eq, List.mem_append] at mem
      rcases mem with freed | queued
      · obtain ⟨len, mapped, -⟩ := well.freed skb freed
        exact ⟨len, mapped⟩
      · obtain ⟨i, stored, -⟩ := inv.holds.existsUnique parts.2.1 queued
        exact well.ring i skb stored
    · intro skb mem
      rw [sent] at mem
      obtain ⟨len, mapped, once⟩ := well.freed skb mem
      rw [filter_unmapped maps parts.1 mem] at once
      have same : skb.len = len := congrArg Prod.snd (List.singleton_inj.mp once)
      have linear : len = skb.len - skb.dataLen := maps.mapped _ mapped
      have bound := skb.dataLen_le
      omega
  · intro both
    obtain ⟨mapped, linearly⟩ := both
    constructor
    · intro i skb stored
      apply mapped
      rw [inv.accepted_eq]
      exact List.mem_append_right _ (inv.holds.mem_of_slot stored)
    · intro skb freed
      have accepted : skb ∈ s.accepted := by
        rw [inv.accepted_eq]
        exact List.mem_append_left _ freed
      obtain ⟨len, entry⟩ := mapped skb accepted
      have linear := linearly skb (by rw [sent]; exact freed)
      have headlen : len = skb.len - skb.dataLen := maps.mapped _ entry
      obtain rfl : len = skb.len := by omega
      exact ⟨skb.len, entry, filter_unmapped maps parts.1 freed⟩

/-! ### Packets that were not mapped -/

theorem reclaims_mapped (sent : ℕ) (n : State Unit) : (State.reclaim^[sent] n).mapped = n.mapped := by
  induction sent generalizing n with
  | zero => rfl
  | succ sent ih =>
      have once : n.reclaim.mapped = n.mapped := by
        unfold State.reclaim
        cases n.txSkbuff n.txTail <;> rfl
      rw [Function.iterate_succ_apply, ih, once]

/-- Only a transmit submits a packet or maps one. -/
theorem TxStep.submits (step : TxStep b s e s') :
    (∃ skb dmaAddr, e = .xmit skb dmaAddr ∧ skb ∉ s.accepted ∧ s'.accepted = s.accepted ++ [skb] ∧
        s'.nic.mapped = s.nic.mapped ++ if dmaAddr.isSome then [(skb, skbHeadlen skb)] else []) ∨
      (∀ skb dmaAddr, e ≠ .xmit skb dmaAddr) ∧ s'.accepted = s.accepted ∧
        s'.nic.mapped = s.nic.mapped := by
  cases step with
  | «open» run =>
      obtain ⟨-, rfl⟩ := exec_mynicOpen.mp run
      exact .inr ⟨fun _ _ => TxEvent.noConfusion, rfl, rfl⟩
  | stop run =>
      obtain ⟨-, -, rfl⟩ := exec_mynicStop.mp run
      exact .inr ⟨fun _ _ => TxEvent.noConfusion, rfl, rfl⟩
  | @xmit skb dmaAddr _ _ fresh run =>
      obtain ⟨rfl, -, rfl⟩ := exec_mynicStartXmit.mp run
      exact .inl ⟨skb, dmaAddr, rfl, fresh, rfl, rfl⟩
  | @interrupt status _ _ run =>
      obtain ⟨-, effect⟩ := exec_mynicInterrupt.mp run
      refine .inr ⟨fun _ _ => TxEvent.noConfusion, rfl, ?_⟩
      split at effect
      · obtain ⟨-, sent, -, rfl⟩ := effect
        exact reclaims_mapped sent _
      · subst effect
        rfl

/-- The ledger has every packet submitted, and no others. -/
structure Ledgered (s : TxState) : Prop where
  all : AllMapped s
  known : ∀ x ∈ s.nic.mapped, x.1 ∈ s.accepted

theorem TxIdle.ledgered (idle : TxIdle s) (unmapped : s.nic.mapped = []) : Ledgered s := by
  constructor
  · intro skb mem
    rw [idle.accepted] at mem
    exact absurd mem List.not_mem_nil
  · intro x mem
    rw [unmapped] at mem
    exact absurd mem List.not_mem_nil

/-- A packet whose mapping succeeds is entered into the ledger. -/
theorem Ledgered.step (step : TxStep b s e s') (succeeds : MapSucceeds s e) (led : Ledgered s) :
    Ledgered s' := by
  rcases step.submits with ⟨skb, dmaAddr, rfl, -, accepted, mapped⟩ | ⟨-, accepted, mapped⟩
  · cases dmaAddr with
    | none => exact absurd rfl (succeeds skb)
    | some dmaAddr =>
        constructor
        · intro x mem
          rw [accepted, List.mem_append, List.mem_singleton] at mem
          rw [mapped]
          rcases mem with before | rfl
          · obtain ⟨len, entry⟩ := led.all x before
            exact ⟨len, List.mem_append_left _ entry⟩
          · exact ⟨skbHeadlen x, List.mem_append_right _ (List.mem_singleton.mpr rfl)⟩
        · intro x mem
          rw [mapped, List.mem_append] at mem
          rw [accepted]
          rcases mem with before | last
          · exact List.mem_append_left _ (led.known x before)
          · obtain rfl := List.mem_singleton.mp last
            exact List.mem_append_right _ (List.mem_singleton.mpr rfl)
  · constructor
    · intro skb mem
      rw [mapped]
      exact led.all skb (accepted ▸ mem)
    · intro x mem
      rw [accepted]
      exact led.known x (mapped ▸ mem)

/-- A packet whose mapping fails is not: an entry for it would be older than the packet. -/
theorem Ledgered.mapSucceeds (step : TxStep b s e s') (led : Ledgered s) (after : AllMapped s') :
    MapSucceeds s e := by
  rintro skb rfl
  rcases step.submits with ⟨_, _, same, fresh, accepted, mapped⟩ | ⟨other, -⟩
  · cases same
    have mem : skb ∈ s'.accepted := by
      rw [accepted]
      exact List.mem_append_right _ (List.mem_singleton.mpr rfl)
    obtain ⟨len, entry⟩ := after skb mem
    rw [mapped, List.mem_append] at entry
    rcases entry with before | last
    · exact fresh (led.known _ before)
    · exact absurd last List.not_mem_nil
  · exact other skb none rfl

/-- Every packet submitted is mapped all along a run exactly when every mapping in it succeeds. -/
theorem always_allMapped_iff (run : Run (TxStep b) s₀ past s) (idle : TxIdle s₀)
    (unmapped : s₀.nic.mapped = []) : Always AllMapped past s ↔ AllSteps MapSucceeds past :=
  run.always_iff_allSteps (idle.ledgered unmapped) Ledgered.all Ledgered.step Ledgered.mapSucceeds

/-- **The ledger of mappings** is right all along a run in which at most `MYNIC_TX_RING_SIZE` packets are
outstanding exactly when every mapping in it succeeds and every packet reported sent is linear. -/
theorem always_wellMapped_iff (run : Run (TxStep b) s₀ past s) (idle : TxIdle s₀)
    (unmapped : s₀.nic.mapped = []) (bounded : Always Bounded past s) :
    Always WellMapped past s ↔ AllSteps MapSucceeds past ∧ Always SentLinear past s := by
  have start : MapInv s₀.nic := by
    constructor
    · intro x mem
      rw [unmapped] at mem
      exact absurd mem List.not_mem_nil
    · rw [idle.unmapped, idle.freed]
      rfl
  have keep : ∀ {s : TxState} {e : TxEvent} {s' : TxState}, TxStep b s e s' → True →
      MapInv s.nic → MapInv s'.nic := fun step _ inv => MapInv.step step inv
  have maps : Always (fun s : TxState => MapInv s.nic) past s :=
    run.always start keep fun _ _ => trivial
  have both := (TxInv.always run idle bounded).and maps
  rw [both.congr fun _ inv => wellMapped_iff inv.1 inv.2, ← always_allMapped_iff run idle unmapped]
  constructor
  · intro all
    exact ⟨all.mono fun _ => And.left, all.mono fun _ => And.right⟩
  · intro each
    exact each.1.and each.2

/-! ## One packet -/

/-- The driver after one packet was mapped and submitted. -/
def oneSent (skb : SkBuff) : TxState := (flood 0).sent skb (some 0)

/-- The driver after the device has reported it sent. -/
def oneFreed (skb : SkBuff) : TxState :=
  ⟨State.complete () 1 (State.acknowledge demoExterns
    { (oneSent skb).nic with intrStatus := demoExterns.TX_INTR }), [skb]⟩

def onePast (skb : SkBuff) : List (TxState × TxEvent) :=
  [(flood 0, .xmit skb (some 0)), (oneSent skb, .interrupt demoExterns.TX_INTR)]

theorem one_run (skb : SkBuff) :
    Run (TxStep demoExterns) (flood 0) (onePast skb) (oneFreed skb) := by
  have sent : TxStep demoExterns (flood 0) (.xmit skb (some 0)) (oneSent skb) :=
    TxState.sent_step List.not_mem_nil rfl
  have raised : demoExterns.TX_INTR &&& demoExterns.TX_INTR ≠ 0 := by decide
  have freed : TxStep demoExterns (oneSent skb) (.interrupt demoExterns.TX_INTR) (oneFreed skb) := by
    apply TxStep.interrupt (exec_mynicInterrupt.mpr ⟨rfl, _⟩)
    rw [if_pos raised]
    exact ⟨rfl, 1, le_refl 1, rfl⟩
  exact (Run.nil.snoc sent).snoc freed

theorem one_bounded (skb : SkBuff) : Always Bounded (onePast skb) (oneFreed skb) := by
  apply (always_bounded_iff (one_run skb) flood_idle).mpr
  intro x mem skb' dmaAddr xmit
  rcases List.mem_cons.mp mem with rfl | mem
  · rw [flood_outstanding]
    decide
  · obtain rfl := List.mem_singleton.mp mem
    cases xmit

/-- A linear packet is unmapped as it was mapped. -/
theorem always_wellMapped_linear :
    Always WellMapped (onePast (floodSkb 0)) (oneFreed (floodSkb 0)) := by
  apply (always_wellMapped_iff (one_run _) flood_idle rfl (one_bounded _)).mpr
  constructor
  · intro x mem skb
    rcases List.mem_cons.mp mem with rfl | mem
    · exact fun same => by cases same
    · obtain rfl := List.mem_singleton.mp mem
      exact fun same => by cases same
  · have freed : SentLinear (oneFreed (floodSkb 0)) := by
      intro skb mem
      obtain rfl := List.mem_singleton.mp mem
      rfl
    have sent : SentLinear (oneSent (floodSkb 0)) := fun skb mem => absurd mem List.not_mem_nil
    have idle : SentLinear (flood 0) := fun skb mem => absurd mem List.not_mem_nil
    exact always_snoc.mpr ⟨always_snoc.mpr ⟨always_nil.mpr idle, sent⟩, freed⟩

/-- A packet of 100 bytes with 40 of them in pages is mapped with 60 and unmapped with 100. -/
theorem not_always_wellMapped : ¬ ∀ (b : Externs) (s₀ s : TxState) (past : List (TxState × TxEvent)),
    Run (TxStep b) s₀ past s → TxIdle s₀ → s₀.nic.mapped = [] → Always Bounded past s →
      Always WellMapped past s := by
  intro all
  let paged : SkBuff := ⟨0, 100, 40, by decide⟩
  have well := (all _ _ _ _ (one_run paged) flood_idle rfl (one_bounded paged)).2
  have mapped : (oneFreed paged).nic.mapped = [(paged, 60)] := rfl
  have unmapped : (oneFreed paged).nic.unmapped = [(paged, 100)] := rfl
  obtain ⟨len, mem, once⟩ := well.freed paged (List.mem_singleton.mpr rfl)
  rw [mapped, List.mem_singleton] at mem
  rw [unmapped, List.filter_singleton] at once
  have short : len = 60 := congrArg Prod.snd mem
  have long : 100 = len := congrArg Prod.snd (List.singleton_inj.mp once)
  omega

end ScullDrivers.Nic
