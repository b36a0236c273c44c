import ScullDrivers.Pmd.Driver

/-!
# Array bounds of the poll-mode driver

A ring is allocated with the `nb_desc` of the caller, but the bursts wrap their indices at
`MY_PMD_NB_DESC`; setup checks neither the queue number nor the allocation.  `Ledger` is what the
application knows of each queue it has set up, and `Op.Fits` says, in its terms, when an operation
stays inside live arrays.  A sequence of operations makes no bad access exactly when each of them fits
(`runOps_ok_iff`).
-/

namespace ScullDrivers.Pmd

open Outcome

/-! ## Bursts -/

/-- The `n` entries from position `m` on lie inside a live ring. -/
def InRing (ring : RingPtr) (m n : Nat) : Prop :=
  ∀ k < n, ∃ slots, ring = some slots ∧ (m + k) % myPmdNbDesc < slots.length

section Bursts

variable {ring ring' : RingPtr} {m n left sent : Nat} {q q' : MyQueue} {rxPkts txPkts out : List Mbuf}
  {cond : Nat → Bool}

theorem inRing_zero : InRing ring m 0 := fun k lt => absurd lt (Nat.not_lt_zero k)

theorem inRing_succ : InRing ring m (n + 1) ↔
    (∃ slots, ring = some slots ∧ m % myPmdNbDesc < slots.length) ∧ InRing ring (m + 1) n := by
  constructor
  · intro inside
    refine ⟨inside 0 (Nat.succ_pos n), fun k lt => ?_⟩
    have next := inside (k + 1) (Nat.succ_lt_succ lt)
    rwa [show m + (k + 1) = m + 1 + k by omega] at next
  · intro inside k lt
    cases k with
    | zero => exact inside.1
    | succ k =>
        have next := inside.2 k (Nat.lt_of_succ_lt_succ lt)
        rwa [show m + 1 + k = m + (k + 1) by omega] at next

/-- Being inside a ring depends on its length only. -/
theorem InRing.of_length (length : ring'.map List.length = ring.map List.length)
    (inside : InRing ring m n) : InRing ring' m n := by
  intro k lt
  obtain ⟨slots, rfl, bound⟩ := inside k lt
  cases ring' with
  | none => cases length
  | some slots' =>
      have same : slots'.length = slots.length := Option.some.inj length
      exact ⟨slots', rfl, same ▸ bound⟩

/-- What a receive burst leaves behind, and that it stayed inside its ring. -/
theorem myPmdRxBurstLoop_ok (head : q.rxHead = m % myPmdNbDesc)
    (run : myPmdRxBurstLoop cond left rxPkts q = .ok (out, q')) :
    InRing q.rxRing m (leading cond left rxPkts.length) ∧
      q' = { q with rxHead := (m + leading cond left rxPkts.length) % myPmdNbDesc } := by
  induction left generalizing m rxPkts q with
  | zero =>
      cases run
      exact ⟨inRing_zero, by rw [leading, Nat.add_zero, ← head]⟩
  | succ left ih =>
      unfold myPmdRxBurstLoop at run
      unfold leading
      by_cases ready : cond rxPkts.length = true
      · rw [if_pos ready] at run ⊢
        obtain ⟨⟨mbuf, q₁⟩, body, run⟩ := bind_eq_ok.mp run
        obtain ⟨slots, live, entry, rfl⟩ := myPmdRxBurstBody_eq_ok.mp body
        obtain ⟨bound, -⟩ := List.getElem?_eq_some_iff.mp entry
        have next : (q.rxHead + 1) % myPmdNbDesc = (m + 1) % myPmdNbDesc := by
          rw [head, Nat.mod_add_mod]
        obtain ⟨inside, rfl⟩ := ih next run
        rw [List.length_append, List.length_singleton] at inside ⊢
        refine ⟨inRing_succ.mpr ⟨⟨slots, live, head ▸ bound⟩, inside⟩, ?_⟩
        rw [show ∀ k, m + 1 + k = m + (k + 1) by omega]
      · rw [if_neg ready] at run ⊢
        cases run
        exact ⟨inRing_zero, by rw [Nat.add_zero, ← head]⟩

/-- A receive burst inside its ring makes no bad access. -/
theorem exists_myPmdRxBurstLoop (head : q.rxHead = m % myPmdNbDesc)
    (inside : InRing q.rxRing m (leading cond left rxPkts.length)) :
    ∃ r, myPmdRxBurstLoop cond left rxPkts q = .ok r := by
  induction left generalizing m rxPkts q with
  | zero => exact ⟨_, rfl⟩
  | succ left ih =>
      unfold myPmdRxBurstLoop
      unfold leading at inside
      by_cases ready : cond rxPkts.length = true
      · rw [if_pos ready] at inside ⊢
        obtain ⟨⟨slots, live, bound⟩, inside⟩ := inRing_succ.mp inside
        have entry : slots[q.rxHead]? = some slots[m % myPmdNbDesc] := by
          rw [head]
          exact List.getElem?_eq_getElem bound
        have next : (q.rxHead + 1) % myPmdNbDesc = (m + 1) % myPmdNbDesc := by
          rw [head, Nat.mod_add_mod]
        rw [myPmdRxBurstBody_eq_ok.mpr ⟨slots, live, entry, rfl⟩]
        refine ih (q := { q with rxHead := (q.rxHead + 1) % myPmdNbDesc }) next ?_
        rw [List.length_append, List.length_singleton]
        exact inside
      · rw [if_neg ready]
        exact ⟨_, rfl⟩

/-- What a transmit burst leaves behind, and that it stayed inside its ring. -/
theorem myPmdTxBurstLoop_ok {total : Nat} (tail : q.txTail = m % myPmdNbDesc)
    (run : myPmdTxBurstLoop txPkts cond left sent q = .ok (total, q')) :
    InRing q.txRing m (leading cond left sent) ∧ total = sent + leading cond left sent ∧
      q'.txTail = (m + leading cond left sent) % myPmdNbDesc ∧
      q'.txRing.map List.length = q.txRing.map List.length := by
  induction left generalizing m sent q with
  | zero =>
      cases run
      exact ⟨inRing_zero, rfl, by rw [leading, Nat.add_zero, tail], rfl⟩
  | succ left ih =>
      unfold myPmdTxBurstLoop at run
      unfold leading
      by_cases ready : cond sent = true
      · rw [if_pos ready] at run ⊢
        obtain ⟨q₁, body, run⟩ := bind_eq_ok.mp run
        obtain ⟨mbuf, slots, -, live, bound, rfl⟩ := myPmdTxBurstBody_eq_ok.mp body
        have next : (q.txTail + 1) % myPmdNbDesc = (m + 1) % myPmdNbDesc := by
          rw [tail, Nat.mod_add_mod]
        obtain ⟨inside, sum, tail', length⟩ := ih next run
        have kept : (some (slots.set q.txTail mbuf)).map List.length = q.txRing.map List.length := by
          rw [live, Option.map_some, Option.map_some, List.length_set]
        refine ⟨inRing_succ.mpr ⟨⟨slots, live, tail ▸ bound⟩, inside.of_length kept.symm⟩, ?_, ?_,
          length.trans kept⟩
        · omega
        · rw [tail', show ∀ k, m + 1 + k = m + (k + 1) by omega]
      · rw [if_neg ready] at run ⊢
        cases run
        exact ⟨inRing_zero, rfl, by rw [Nat.add_zero, tail], rfl⟩

/-- A transmit burst inside its ring makes no bad access to an array long enough. -/
theorem exists_myPmdTxBurstLoop (tail : q.txTail = m % myPmdNbDesc)
    (inside : InRing q.txRing m (leading cond left sent)) (long : sent + left ≤ txPkts.length) :
    ∃ r, myPmdTxBurstLoop txPkts cond left sent q = .ok r := by
  induction left generalizing m sent q with
  | zero => exact ⟨_, rfl⟩
  | succ left ih =>
      unfold myPmdTxBurstLoop
      unfold leading at inside
      by_cases ready : cond sent = true
      · rw [if_pos ready] at inside ⊢
        obtain ⟨⟨slots, live, bound⟩, inside⟩ := inRing_succ.mp inside
        have lt : sent < txPkts.length := by omega
        have entry : txPkts[sent]? = some txPkts[sent] := List.getElem?_eq_getElem lt
        have next : (q.txTail + 1) % myPmdNbDesc = (m + 1) % myPmdNbDesc := by
          rw [tail, Nat.mod_add_mod]
        have kept : (some (slots.set q.txTail txPkts[sent])).map List.length =
            q.txRing.map List.length := by
          rw [live, Option.map_some, Option.map_some, List.length_set]
        rw [myPmdTxBurstBody_eq_ok.mpr ⟨_, slots, entry, live, tail.symm ▸ bound, rfl⟩]
        exact ih (q := { q with
          txRing := some (slots.set q.txTail txPkts[sent]),
          txTail := (q.txTail + 1) % myPmdNbDesc }) next (inside.of_length kept) (by omega)
      · rw [if_neg ready]
        exact ⟨_, rfl⟩

end Bursts

/-! ## What the application knows of a queue -/

/-- The last setup of a queue, and the packets moved through it since. -/
structure Setup where
  nbDesc : Nat
  granted : Bool
  moved : Nat

namespace Setup

/-- A burst moving `n` packets stays inside the ring of this setup. -/
def Fits (s : Setup) (n : Nat) : Prop :=
  n = 0 ∨ s.granted = true ∧ (myPmdNbDesc ≤ s.nbDesc ∨ s.moved + n ≤ s.nbDesc)

instance (s : Setup) (n : Nat) : Decidable (s.Fits n) := inferInstanceAs (Decidable (_ ∨ _))

def advance (s : Setup) (n : Nat) : Setup := { s with moved := s.moved + n }

/-- The setup describes a ring and the index of its next access. -/
structure Tracks (s : Setup) (ring : RingPtr) (idx : Nat) : Prop where
  length : ring.map List.length = if s.granted then some s.nbDesc else none
  idx_eq : idx = s.moved % myPmdNbDesc
  lap : myPmdNbDesc ≤ s.nbDesc ∨ s.moved ≤ s.nbDesc

variable {s : Setup} {ring ring' : RingPtr} {idx n : Nat}

/-- Setup as the driver does it: a ring of `nb_desc` entries or `NULL`, and index `0`. -/
theorem tracks_setup (nbDesc : UInt16) (granted : Bool) :
    Setup.Tracks ⟨nbDesc.toNat, granted, 0⟩ (rteZmallocSocket nbDesc granted) 0 := by
  refine ⟨?_, rfl, Or.inr (Nat.zero_le _)⟩
  cases granted with
  | false => rfl
  | true => exact congrArg some List.length_replicate

theorem Tracks.exists_slots (tracks : s.Tracks ring idx) (granted : s.granted = true) :
    ∃ slots, ring = some slots ∧ slots.length = s.nbDesc := by
  have length := tracks.length
  rw [if_pos granted] at length
  obtain ⟨slots, rfl, len⟩ := Option.map_eq_some_iff.mp length
  exact ⟨slots, rfl, len⟩

theorem Tracks.granted_of_slots {slots : List Mbuf} (tracks : s.Tracks (some slots) idx) :
    s.granted = true ∧ slots.length = s.nbDesc := by
  have length := tracks.length
  by_cases granted : s.granted = true
  · rw [if_pos granted] at length
    exact ⟨granted, Option.some.inj length⟩
  · rw [if_neg granted] at length
    cases length

/-- What the ring allows is what the setup says. -/
theorem Tracks.inRing_iff (tracks : s.Tracks ring idx) : InRing ring s.moved n ↔ s.Fits n := by
  constructor
  · intro inside
    rcases Nat.eq_zero_or_pos n with rfl | pos
    · exact Or.inl rfl
    obtain ⟨slots, rfl, -⟩ := inside 0 pos
    obtain ⟨granted, len⟩ := tracks.granted_of_slots
    refine Or.inr ⟨granted, ?_⟩
    -- past the end of a short ring, the index is the length before it wraps
    by_contra short
    obtain ⟨short, far⟩ := not_or.mp short
    have near : s.moved ≤ s.nbDesc := tracks.lap.resolve_left short
    obtain ⟨_, same, bound⟩ := inside (s.nbDesc - s.moved) (by omega)
    rw [← Option.some.inj same, len, Nat.add_sub_cancel' near,
      Nat.mod_eq_of_lt (Nat.lt_of_not_le short)] at bound
    exact Nat.lt_irrefl _ bound
  · intro fits k lt
    rcases fits with rfl | ⟨granted, room⟩
    · exact absurd lt (Nat.not_lt_zero k)
    obtain ⟨slots, rfl, len⟩ := tracks.exists_slots granted
    refine ⟨slots, rfl, ?_⟩
    rw [len]
    rcases room with long | room
    · exact (Nat.mod_lt _ (by decide)).trans_le long
    · exact (Nat.mod_le _ _).trans_lt (by omega)

/-- A burst that fits leaves a ring the advanced setup describes. -/
theorem Tracks.advance (tracks : s.Tracks ring idx) (fits : s.Fits n)
    (length : ring'.map List.length = ring.map List.length) :
    (s.advance n).Tracks ring' ((s.moved + n) % myPmdNbDesc) := by
  refine ⟨length.trans tracks.length, rfl, ?_⟩
  rcases fits with rfl | ⟨-, room⟩
  · exact tracks.lap
  · exact room

end Setup

/-- What the application knows of the queues; `none` for one it never set up. -/
structure Ledger where
  rx : Fin myPmdNbRxQueues → Option Setup := fun _ => none
  tx : Fin myPmdNbTxQueues → Option Setup := fun _ => none

/-- The ledger describes the port. -/
structure Ledger.Tracks (led : Ledger) (port : MyPmdPrivate) : Prop where
  rx : ∀ i s, led.rx i = some s → s.Tracks (port.rxQueues i).rxRing (port.rxQueues i).rxHead
  tx : ∀ i s, led.tx i = some s → s.Tracks (port.txQueues i).txRing (port.txQueues i).txTail

/-! ## Operations -/

/-- A call of the application on the port, with what the allocator or the hardware answers in it. -/
inductive Op
  | rxSetup (queueIdx nbDesc : UInt16) (granted : Bool)
  | txSetup (queueIdx nbDesc : UInt16) (granted : Bool)
  | rxBurst (i : Fin myPmdNbRxQueues) (nbPkts : UInt16) (notEmpty : Nat → Bool)
  | txBurst (i : Fin myPmdNbTxQueues) (txPkts : List Mbuf) (nbPkts : UInt16) (notFull : Nat → Bool)

namespace Op

def run (port : MyPmdPrivate) : Op → Except Fault MyPmdPrivate
  | rxSetup queueIdx nbDesc granted => do
      let (_, port) ← myPmdRxQueueSetup port queueIdx nbDesc granted
      return port
  | txSetup queueIdx nbDesc granted => do
      let (_, port) ← myPmdTxQueueSetup port queueIdx nbDesc granted
      return port
  | rxBurst i nbPkts notEmpty => do
      let (_, q) ← myPmdRxBurst (port.rxQueues i) nbPkts notEmpty
      return { port with rxQueues := Function.update port.rxQueues i q }
  | txBurst i txPkts nbPkts notFull => do
      let (_, q) ← myPmdTxBurst (port.txQueues i) txPkts nbPkts notFull
      return { port with txQueues := Function.update port.txQueues i q }

/-- The ledger after the operation. -/
def record (led : Ledger) : Op → Ledger
  | rxSetup queueIdx nbDesc granted =>
      if declared : queueIdx.toNat < myPmdNbRxQueues then
        { led with rx := Function.update led.rx ⟨_, declared⟩ (some ⟨nbDesc.toNat, granted, 0⟩) }
      else led
  | txSetup queueIdx nbDesc granted =>
      if declared : queueIdx.toNat < myPmdNbTxQueues then
        { led with tx := Function.update led.tx ⟨_, declared⟩ (some ⟨nbDesc.toNat, granted, 0⟩) }
      else led
  | rxBurst i nbPkts notEmpty =>
      { led with
        rx := Function.update led.rx i ((led.rx i).map (·.advance (burstLen notEmpty nbPkts))) }
  | txBurst i _ nbPkts notFull =>
      { led with
        tx := Function.update led.tx i ((led.tx i).map (·.advance (burstLen notFull nbPkts))) }

/-- What the application may call: a setup with descriptors, and a burst on a queue it has set up,
with an array of at least `nb_pkts` packets to transmit. -/
def Admissible (led : Ledger) : Op → Prop
  | rxSetup _ nbDesc _ | txSetup _ nbDesc _ => 1 ≤ nbDesc.toNat
  | rxBurst i _ _ => (led.rx i).isSome
  | txBurst i txPkts nbPkts _ => (led.tx i).isSome ∧ nbPkts.toNat ≤ txPkts.length

/-- The operation names a declared queue, or fits into the ring of the one it works on. -/
def Fits (led : Ledger) : Op → Prop
  | rxSetup queueIdx _ _ => queueIdx.toNat < myPmdNbRxQueues
  | txSetup queueIdx _ _ => queueIdx.toNat < myPmdNbTxQueues
  | rxBurst i nbPkts notEmpty => ∀ s ∈ led.rx i, s.Fits (burstLen notEmpty nbPkts)
  | txBurst i _ nbPkts notFull => ∀ s ∈ led.tx i, s.Fits (burstLen notFull nbPkts)

instance (led : Ledger) : DecidablePred (Admissible led)
  | rxSetup _ nbDesc _ | txSetup _ nbDesc _ => inferInstanceAs (Decidable (1 ≤ nbDesc.toNat))
  | rxBurst i _ _ => inferInstanceAs (Decidable ((led.rx i).isSome = true))
  | txBurst _ _ _ _ => inferInstanceAs (Decidable (_ ∧ _))

instance (led : Ledger) : DecidablePred (Fits led)
  | rxSetup queueIdx _ _ => inferInstanceAs (Decidable (queueIdx.toNat < _))
  | txSetup queueIdx _ _ => inferInstanceAs (Decidable (queueIdx.toNat < _))
  | rxBurst i _ _ => inferInstanceAs (Decidable (∀ s ∈ led.rx i, s.Fits _))
  | txBurst i _ _ _ => inferInstanceAs (Decidable (∀ s ∈ led.tx i, s.Fits _))

end Op

/-- A property of every operation of a sequence, each at the ledger it is made with. -/
def Along (P : Ledger → Op → Prop) : Ledger → List Op → Prop
  | _, [] => True
  | led, op :: ops => P led op ∧ Along P (op.record led) ops

instance Along.decidable {P : Ledger → Op → Prop} [∀ led op, Decidable (P led op)] :
    (led : Ledger) → (ops : List Op) → Decidable (Along P led ops)
  | _, [] => inferInstanceAs (Decidable True)
  | led, op :: ops =>
      have := Along.decidable (P := P) (op.record led) ops
      inferInstanceAs (Decidable (_ ∧ _))

def runOps : List Op → MyPmdPrivate → Except Fault MyPmdPrivate
  | [], port => .ok port
  | op :: ops, port => do
      let port ← op.run port
      runOps ops port

section Steps

variable {led : Ledger} {port port' : MyPmdPrivate} {op : Op}

/-- Where a ledger or a port changes one receive queue only. -/
theorem Ledger.Tracks.update_rx {i : Fin myPmdNbRxQueues} {q : MyQueue} {s? : Option Setup}
    (tracks : led.Tracks port) (queue : ∀ s, s? = some s → s.Tracks q.rxRing q.rxHead) :
    Ledger.Tracks { led with rx := Function.update led.rx i s? }
      { port with rxQueues := Function.update port.rxQueues i q } := by
  refine ⟨fun j s known => ?_, tracks.tx⟩
  by_cases same : j = i
  · subst same
    simp only [Function.update_self] at known ⊢
    exact queue s known
  · simp only [Function.update_of_ne same] at known ⊢
    exact tracks.rx j s known

/-- Where a ledger or a port changes one transmit queue only. -/
theorem Ledger.Tracks.update_tx {i : Fin myPmdNbTxQueues} {q : MyQueue} {s? : Option Setup}
    (tracks : led.Tracks port) (queue : ∀ s, s? = some s → s.Tracks q.txRing q.txTail) :
    Ledger.Tracks { led with tx := Function.update led.tx i s? }
      { port with txQueues := Function.update port.txQueues i q } := by
  refine ⟨tracks.rx, fun j s known => ?_⟩
  by_cases same : j = i
  · subst same
    simp only [Function.update_self] at known ⊢
    exact queue s known
  · simp only [Function.update_of_ne same] at known ⊢
    exact tracks.tx j s known

/-- An operation that made no bad access fitted, and the ledger still describes the port. -/
theorem Op.run_ok (tracks : led.Tracks port) (may : op.Admissible led)
    (run : op.run port = .ok port') : op.Fits led ∧ (op.record led).Tracks port' := by
  cases op with
  | rxSetup queueIdx nbDesc granted =>
      obtain ⟨_, setup, made⟩ := bind_eq_ok.mp run
      obtain ⟨i, same, rfl⟩ := myPmdRxQueueSetup_eq_ok.mp setup
      cases made
      have declared : queueIdx.toNat < myPmdNbRxQueues := same ▸ i.isLt
      refine ⟨declared, ?_⟩
      obtain rfl : i = ⟨_, declared⟩ := Fin.ext same.symm
      rw [record, dif_pos declared]
      refine tracks.update_rx fun s known => ?_
      cases known
      exact Setup.tracks_setup nbDesc granted
  | txSetup queueIdx nbDesc granted =>
      obtain ⟨_, setup, made⟩ := bind_eq_ok.mp run
      obtain ⟨i, same, rfl⟩ := myPmdTxQueueSetup_eq_ok.mp setup
      cases made
      have declared : queueIdx.toNat < myPmdNbTxQueues := same ▸ i.isLt
      refine ⟨declared, ?_⟩
      obtain rfl : i = ⟨_, declared⟩ := Fin.ext same.symm
      rw [record, dif_pos declared]
      refine tracks.update_tx fun s known => ?_
      cases known
      exact Setup.tracks_setup nbDesc granted
  | rxBurst i nbPkts notEmpty =>
      obtain ⟨⟨out, q⟩, burst, made⟩ := bind_eq_ok.mp run
      cases made
      obtain ⟨s, known⟩ := Option.isSome_iff_exists.mp may
      have queue := tracks.rx i s known
      obtain ⟨inside, rfl⟩ := myPmdRxBurstLoop_ok queue.idx_eq burst
      have fits : s.Fits (burstLen notEmpty nbPkts) := queue.inRing_iff.mp inside
      refine ⟨fun s' known' => ?_, tracks.update_rx fun s' known' => ?_⟩
      · cases known.symm.trans known'
        exact fits
      · rw [known] at known'
        cases known'
        exact queue.advance fits rfl
  | txBurst i txPkts nbPkts notFull =>
      obtain ⟨⟨sent, q⟩, burst, made⟩ := bind_eq_ok.mp run
      cases made
      obtain ⟨s, known⟩ := Option.isSome_iff_exists.mp may.1
      have queue := tracks.tx i s known
      obtain ⟨inside, -, tail, length⟩ := myPmdTxBurstLoop_ok queue.idx_eq burst
      have fits : s.Fits (burstLen notFull nbPkts) := queue.inRing_iff.mp inside
      refine ⟨fun s' known' => ?_, tracks.update_tx fun s' known' => ?_⟩
      · cases known.symm.trans known'
        exact fits
      · rw [known] at known'
        cases known'
        rw [tail]
        exact queue.advance fits length

/-- An operation that fits makes no bad access. -/
theorem Op.exists_run (tracks : led.Tracks port) (may : op.Admissible led) (fits : op.Fits led) :
    ∃ port', op.run port = .ok port' := by
  cases op with
  | rxSetup queueIdx nbDesc granted =>
      exact ⟨_, bind_eq_ok.mpr ⟨_, myPmdRxQueueSetup_eq_ok.mpr ⟨⟨_, fits⟩, rfl, rfl⟩, rfl⟩⟩
  | txSetup queueIdx nbDesc granted =>
      exact ⟨_, bind_eq_ok.mpr ⟨_, myPmdTxQueueSetup_eq_ok.mpr ⟨⟨_, fits⟩, rfl, rfl⟩, rfl⟩⟩
  | rxBurst i nbPkts notEmpty =>
      obtain ⟨s, known⟩ := Option.isSome_iff_exists.mp may
      have queue := tracks.rx i s known
      have inside := queue.inRing_iff.mpr (fits s known)
      have burst : ∃ r, myPmdRxBurst (port.rxQueues i) nbPkts notEmpty = .ok r :=
        exists_myPmdRxBurstLoop queue.idx_eq inside
      obtain ⟨r, burst⟩ := burst
      exact ⟨_, bind_eq_ok.mpr ⟨r, burst, rfl⟩⟩
  | txBurst i txPkts nbPkts notFull =>
      obtain ⟨s, known⟩ := Option.isSome_iff_exists.mp may.1
      have queue := tracks.tx i s known
      have inside := queue.inRing_iff.mpr (fits s known)
      have burst : ∃ r, myPmdTxBurst (port.txQueues i) txPkts nbPkts notFull = .ok r :=
        exists_myPmdTxBurstLoop queue.idx_eq inside (by rw [Nat.zero_add]; exact may.2)
      obtain ⟨r, burst⟩ := burst
      exact ⟨_, bind_eq_ok.mpr ⟨r, burst, rfl⟩⟩

end Steps

/-- A sequence of operations makes no bad access exactly when each of them fits. -/
theorem runOps_ok_iff_of_tracks {led : Ledger} {port : MyPmdPrivate} {ops : List Op}
    (tracks : led.Tracks port) (may : Along Op.Admissible led ops) :
    (∃ port', runOps ops port = .ok port') ↔ Along Op.Fits led ops := by
  induction ops generalizing led port with
  | nil => exact ⟨fun _ => trivial, fun _ => ⟨port, rfl⟩⟩
  | cons op ops ih =>
      obtain ⟨mayFirst, mayRest⟩ := may
      constructor
      · intro done
        obtain ⟨port', run⟩ := done
        obtain ⟨port₁, first, rest⟩ := bind_eq_ok.mp run
        obtain ⟨fits, tracks₁⟩ := Op.run_ok tracks mayFirst first
        exact ⟨fits, (ih tracks₁ mayRest).mp ⟨port', rest⟩⟩
      · intro fits
        obtain ⟨port₁, first⟩ := Op.exists_run tracks mayFirst fits.1
        obtain ⟨-, tracks₁⟩ := Op.run_ok tracks mayFirst first
        obtain ⟨port', rest⟩ := (ih tracks₁ mayRest).mpr fits.2
        exact ⟨port', bind_eq_ok.mpr ⟨port₁, first, rest⟩⟩

theorem Ledger.tracks_initial : Ledger.Tracks {} {} :=
  ⟨fun _ _ known => (nomatch known), fun _ _ known => (nomatch known)⟩

/-- From a fresh port, no access of a sequence of setups and bursts leaves a live array exactly when
every setup names a declared queue, and every burst that moves packets works on a ring that was
granted and either has `MY_PMD_NB_DESC` entries or is not yet passed. -/
theorem runOps_ok_iff (ops : List Op) (may : Along Op.Admissible {} ops) :
    (∃ port, runOps ops {} = .ok port) ↔ Along Op.Fits {} ops :=
  runOps_ok_iff_of_tracks Ledger.tracks_initial may

/-- A ring of 1024 entries, used by bursts of any number of packets. -/
theorem runOps_ok_full : ∃ port, runOps
    [.rxSetup 3 1024 true, .rxBurst 3 4 (fun _ => true), .rxBurst 3 9 (· < 5)] {} = .ok port :=
  (runOps_ok_iff _ (by decide)).mpr (by decide)

/-- A ring of one entry: the second packet is read past its end. -/
def shortRing : List Op :=
  [.rxSetup 0 1 true, .rxBurst 0 1 (fun _ => true), .rxBurst 0 1 (fun _ => true)]

/-- A ring that was not granted, in a setup that returns `0` all the same. -/
def refusedRing : List Op := [.txSetup 0 1024 false, .txBurst 0 [7] 1 (fun _ => true)]

/-- A queue past the declared ones. -/
def undeclaredQueue : List Op := [.rxSetup 4 1024 true]

/-- Three sequences an application may make, each with a bad access of its own kind. -/
theorem runOps_faults :
    (Along Op.Admissible {} shortRing ∧ runOps shortRing {} = .error (.ringIndex 1)) ∧
    (Along Op.Admissible {} refusedRing ∧ runOps refusedRing {} = .error .nullRing) ∧
    (Along Op.Admissible {} undeclaredQueue ∧
      runOps undeclaredQueue {} = .error (.queueIndex 4)) :=
  ⟨⟨by decide, rfl⟩, ⟨by decide, rfl⟩, ⟨by decide, rfl⟩⟩

end ScullDrivers.Pmd
