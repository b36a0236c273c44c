import Mathlib.Algebra.Order.Group.Multiset

/-!
# What is held

A program that acquires and releases resources leaves a list of events.  `replay` follows the list
from what is held at its start and fails at a release of something that is not held, so a list that
can be replayed releases nothing twice and nothing it does not have.  Resources that are held
throughout do not matter (`replay_frame`), and what is held at the start and acquired is what is
released or held at the end (`replay_conserves`).  `Orderly` says that nothing is released while
something else that is held uses it, and `StaysBacked` that at every moment whatever something held
uses is held itself.

Nothing here mentions a driver.
-/

namespace Resources

/-- A resource is obtained or given back. -/
inductive Event (ρ : Type*)
  | acquire (r : ρ)
  | release (r : ρ)
  deriving DecidableEq

variable {ρ : Type*}

/-- The resource an event obtains. -/
def Event.acquired? : Event ρ → Option ρ
  | .acquire r => some r
  | .release _ => none

/-- The resource an event gives back. -/
def Event.released? : Event ρ → Option ρ
  | .acquire _ => none
  | .release r => some r

/-- The resources obtained, each as often as it was. -/
def acquired (es : List (Event ρ)) : Multiset ρ := es.filterMap Event.acquired?

/-- The resources given back, each as often as it was. -/
def released (es : List (Event ρ)) : Multiset ρ := es.filterMap Event.released?

variable [DecidableEq ρ]

/-- What is held after the event, unless it releases what is not held. -/
def Event.apply : Event ρ → Multiset ρ → Option (Multiset ρ)
  | .acquire r, held => some (r ::ₘ held)
  | .release r, held => if r ∈ held then some (held.erase r) else none

/-- What is held after the events, the first one first. -/
def replay : List (Event ρ) → Multiset ρ → Option (Multiset ρ)
  | [], held => some held
  | e :: es, held => (e.apply held).bind (replay es)

/-- All that is obtained is given back, and nothing else. -/
def NetZero (es : List (Event ρ)) : Prop := replay es 0 = some 0

/-- Nothing is given back that is not held. -/
def Sound (es : List (Event ρ)) : Prop := (replay es 0).isSome

instance (es : List (Event ρ)) : Decidable (NetZero es) :=
  inferInstanceAs (Decidable (replay es 0 = some 0))

instance (es : List (Event ρ)) : Decidable (Sound es) :=
  inferInstanceAs (Decidable ((replay es 0).isSome = true))

variable {es es' : List (Event ρ)} {held held' : Multiset ρ} {r : ρ}

@[simp] theorem replay_nil : replay [] held = some held := rfl

@[simp] theorem replay_acquire : replay (.acquire r :: es) held = replay es (r ::ₘ held) := rfl

@[simp] theorem replay_release_cons : replay (.release r :: es) (r ::ₘ held) = replay es held := by
  simp [replay, Event.apply]

@[simp] theorem replay_release_singleton : replay (.release r :: es) {r} = replay es 0 := by
  simp [replay, Event.apply]

theorem replay_release (mem : r ∈ held) :
    replay (.release r :: es) held = replay es (held.erase r) := by
  simp [replay, Event.apply, mem]

theorem mem_of_replay_release (done : replay (.release r :: es) held = some held') : r ∈ held := by
  by_contra out
  simp [replay, Event.apply, out] at done

theorem replay_append : replay (es ++ es') held = (replay es held).bind (replay es') := by
  induction es generalizing held with
  | nil => rfl
  | cons e es ih =>
      rw [List.cons_append, replay, replay, Option.bind_assoc]
      congr 1
      funext between
      exact ih

theorem replay_append_of {between : Multiset ρ} (first : replay es held = some between)
    (rest : replay es' between = some held') : replay (es ++ es') held = some held' := by
  rw [replay_append, first, Option.bind_some, rest]

/-- What is held throughout plays no part. -/
theorem replay_frame (kept : Multiset ρ) (done : replay es held = some held') :
    replay es (held + kept) = some (held' + kept) := by
  induction es generalizing held with
  | nil =>
      cases done
      rfl
  | cons e es ih =>
      cases e with
      | acquire r =>
          rw [replay_acquire] at done ⊢
          rw [← Multiset.cons_add]
          exact ih done
      | release r =>
          have mem := mem_of_replay_release done
          rw [replay_release mem] at done
          rw [replay_release (Multiset.mem_add.mpr (.inl mem)), Multiset.erase_add_left_pos kept mem]
          exact ih done

/-- **Conservation**: what was held and what was acquired is what is held and what was released. -/
theorem replay_conserves (done : replay es held = some held') :
    held + acquired es = held' + released es := by
  induction es generalizing held with
  | nil =>
      cases done
      rfl
  | cons e es ih =>
      cases e with
      | acquire r =>
          have rest := ih done
          rw [Multiset.cons_add] at rest
          exact (Multiset.add_cons r held (acquired es)).trans rest
      | release r =>
          have mem := mem_of_replay_release done
          rw [replay_release mem] at done
          have rest := ih done
          have split : released (.release r :: es) = r ::ₘ released es := rfl
          rw [split, Multiset.add_cons, ← rest, ← Multiset.cons_add, Multiset.cons_erase mem]
          rfl

/-- What is obtained in between is given back exactly as often. -/
theorem NetZero.released_eq (balanced : NetZero es) : released es = acquired es := by
  have same := replay_conserves balanced
  rw [zero_add, zero_add] at same
  exact same.symm

omit [DecidableEq ρ] in
theorem mem_acquired : r ∈ acquired es ↔ .acquire r ∈ es := by
  unfold acquired
  rw [Multiset.mem_coe, List.mem_filterMap]
  constructor
  · intro some
    obtain ⟨e, mem, same⟩ := some
    cases e with
    | acquire r' =>
        cases same
        exact mem
    | release r' => cases same
  · exact fun mem => ⟨_, mem, rfl⟩

omit [DecidableEq ρ] in
theorem mem_released : r ∈ released es ↔ .release r ∈ es := by
  unfold released
  rw [Multiset.mem_coe, List.mem_filterMap]
  constructor
  · intro some
    obtain ⟨e, mem, same⟩ := some
    cases e with
    | acquire r' => cases same
    | release r' =>
        cases same
        exact mem
  · exact fun mem => ⟨_, mem, rfl⟩

/-- What is obtained in between is given back. -/
theorem NetZero.release_mem (balanced : NetZero es) (mem : .acquire r ∈ es) : .release r ∈ es := by
  rw [← mem_released, balanced.released_eq, mem_acquired]
  exact mem

/-- What is given back was obtained before. -/
theorem Sound.acquire_mem (sound : Sound (es ++ .release r :: es')) : .acquire r ∈ es := by
  obtain ⟨held', done⟩ := Option.isSome_iff_exists.mp sound
  rw [replay_append] at done
  obtain ⟨held, first, rest⟩ := Option.bind_eq_some_iff.mp done
  have mem := mem_of_replay_release rest
  have same := replay_conserves first
  rw [zero_add] at same
  rw [← mem_acquired, same]
  exact Multiset.mem_add.mpr (.inl mem)

/-! ## Only obtaining, and giving everything back -/

theorem replay_acquires (rs : List ρ) : replay (rs.map .acquire) held = some (↑rs + held) := by
  induction rs generalizing held with
  | nil => simp
  | cons r rs ih =>
      rw [List.map_cons, replay_acquire, ih, Multiset.add_cons, ← Multiset.cons_coe,
        Multiset.cons_add]

theorem replay_releases (rs : List ρ) : replay (rs.map .release) (↑rs + held) = some held := by
  induction rs with
  | nil => simp
  | cons r rs ih =>
      rw [List.map_cons, ← Multiset.cons_coe, Multiset.cons_add, replay_release_cons]
      exact ih

omit [DecidableEq ρ] in
theorem acquired_releases (rs : List ρ) : acquired (rs.map Event.release) = 0 := by
  induction rs with
  | nil => rfl
  | cons r rs ih => exact ih

omit [DecidableEq ρ] in
theorem released_releases (rs : List ρ) : released (rs.map Event.release) = ↑rs := by
  induction rs with
  | nil => rfl
  | cons r rs ih =>
      rw [← Multiset.cons_coe, ← ih]
      rfl

/-- Releases leave the rest when, and only when, they are of all that goes. -/
theorem replay_releases_iff {rs : List ρ} {gone : Multiset ρ} :
    replay (rs.map .release) (gone + held) = some held ↔ ↑rs = gone := by
  constructor
  · intro done
    have same := replay_conserves done
    rw [acquired_releases, released_releases, add_zero, add_comm gone] at same
    exact (add_left_cancel same).symm
  · intro same
    rw [← same]
    exact replay_releases rs

/-! ## The order of releases -/

/-- Nothing is given back while something held uses it. -/
def Orderly (uses : ρ → ρ → Prop) : List (Event ρ) → Multiset ρ → Prop
  | [], _ => True
  | .acquire r :: es, held => Orderly uses es (r ::ₘ held)
  | .release r :: es, held => (∀ s ∈ held, ¬ uses s r) ∧ Orderly uses es (held.erase r)

section Order

variable {uses : ρ → ρ → Prop}

@[simp] theorem orderly_nil : Orderly uses [] held := trivial

@[simp] theorem orderly_acquire :
    Orderly uses (.acquire r :: es) held ↔ Orderly uses es (r ::ₘ held) := Iff.rfl

theorem orderly_release : Orderly uses (.release r :: es) held ↔
    (∀ s ∈ held, ¬ uses s r) ∧ Orderly uses es (held.erase r) := Iff.rfl

theorem orderly_append {between : Multiset ρ} (first : replay es held = some between) :
    Orderly uses (es ++ es') held ↔ Orderly uses es held ∧ Orderly uses es' between := by
  induction es generalizing held with
  | nil =>
      cases first
      simp
  | cons e es ih =>
      cases e with
      | acquire r => exact ih first
      | release r =>
          rw [replay_release (mem_of_replay_release first)] at first
          rw [List.cons_append, orderly_release, orderly_release, ih first, and_assoc]

/-- What is held throughout may stay, where it uses nothing that is given back. -/
theorem orderly_frame (kept : Multiset ρ) (done : replay es held = some held')
    (apart : ∀ s ∈ kept, ∀ r, .release r ∈ es → ¬ uses s r) (orderly : Orderly uses es held) :
    Orderly uses es (held + kept) := by
  induction es generalizing held with
  | nil => trivial
  | cons e es ih =>
      have rest := fun s mem r later => apart s mem r (List.mem_cons_of_mem e later)
      cases e with
      | acquire r =>
          rw [orderly_acquire, ← Multiset.cons_add]
          exact ih done rest orderly
      | release r =>
          have mem := mem_of_replay_release done
          rw [replay_release mem] at done
          obtain ⟨unused, later⟩ := orderly
          rw [orderly_release, Multiset.erase_add_left_pos kept mem]
          refine ⟨fun s either => ?_, ih done rest later⟩
          rcases Multiset.mem_add.mp either with own | other
          · exact unused s own
          · exact apart s other r List.mem_cons_self

/-- Giving back a list is orderly when each of it is used by nothing that follows. -/
theorem orderly_releases (irrefl : ∀ r, ¬ uses r r) {rs : List ρ}
    (order : rs.Pairwise fun r s => ¬ uses s r) : Orderly uses (rs.map .release) ↑rs := by
  induction order with
  | nil => trivial
  | @cons r rs first rest ih =>
      rw [List.map_cons, orderly_release, ← Multiset.cons_coe, Multiset.erase_cons_head]
      refine ⟨fun s mem => ?_, ih⟩
      rcases Multiset.mem_cons.mp mem with same | later
      · exact same ▸ irrefl r
      · exact first s (Multiset.mem_coe.mp later)

end Order

/-! ## What is in use is held -/

/-- Whatever something held uses is held itself. -/
def Backed (uses : ρ → ρ → Prop) (held : Multiset ρ) : Prop :=
  ∀ s ∈ held, ∀ r, uses s r → r ∈ held

/-- At every moment of the events, whatever something held uses is held itself. -/
def StaysBacked (uses : ρ → ρ → Prop) : List (Event ρ) → Multiset ρ → Prop
  | [], held => Backed uses held
  | e :: es, held =>
      Backed uses held ∧ ∀ held', e.apply held = some held' → StaysBacked uses es held'

/-- Something that is there for the length of one call. -/
def during (r : ρ) : List (Event ρ) := [.acquire r, .release r]

@[simp] theorem replay_during : replay (during r ++ es) held = replay es held :=
  replay_release_cons

section Backing

variable {uses : ρ → ρ → Prop} {kept : Multiset ρ}

omit [DecidableEq ρ] in
theorem backed_zero : Backed uses 0 := fun s mem => absurd mem (Multiset.notMem_zero s)

omit [DecidableEq ρ] in
theorem Backed.add (own : Backed uses held) (other : Backed uses kept) :
    Backed uses (held + kept) := by
  intro s mem r used
  rcases Multiset.mem_add.mp mem with here | there
  · exact Multiset.mem_add.mpr (.inl (own s here r used))
  · exact Multiset.mem_add.mpr (.inr (other s there r used))

omit [DecidableEq ρ] in
theorem Backed.cons (own : Backed uses held) (base : ∀ s, uses r s → s ∈ held) :
    Backed uses (r ::ₘ held) := by
  intro s mem t used
  rcases Multiset.mem_cons.mp mem with rfl | old
  · exact Multiset.mem_cons_of_mem (base t used)
  · exact Multiset.mem_cons_of_mem (own s old t used)

@[simp] theorem staysBacked_nil : StaysBacked uses [] held ↔ Backed uses held := Iff.rfl

@[simp] theorem staysBacked_acquire : StaysBacked uses (.acquire r :: es) held ↔
    Backed uses held ∧ StaysBacked uses es (r ::ₘ held) := by
  simp [StaysBacked, Event.apply]

@[simp] theorem staysBacked_release_cons : StaysBacked uses (.release r :: es) (r ::ₘ held) ↔
    Backed uses (r ::ₘ held) ∧ StaysBacked uses es held := by
  simp [StaysBacked, Event.apply]

@[simp] theorem staysBacked_release_singleton : StaysBacked uses (.release r :: es) {r} ↔
    Backed uses {r} ∧ StaysBacked uses es 0 :=
  staysBacked_release_cons

theorem StaysBacked.start (stays : StaysBacked uses es held) : Backed uses held := by
  cases es with
  | nil => exact stays
  | cons e es => exact stays.1

theorem staysBacked_append {between : Multiset ρ} (first : replay es held = some between) :
    StaysBacked uses (es ++ es') held ↔ StaysBacked uses es held ∧ StaysBacked uses es' between := by
  induction es generalizing held with
  | nil =>
      cases first
      exact ⟨fun stays => ⟨stays.start, stays⟩, fun both => both.2⟩
  | cons e es ih =>
      obtain ⟨next, step, rest⟩ := Option.bind_eq_some_iff.mp first
      have tail : ∀ es₁, StaysBacked uses (e :: es₁) held ↔
          Backed uses held ∧ StaysBacked uses es₁ next := by
        intro es₁
        rw [StaysBacked, step]
        simp
      rw [List.cons_append, tail, tail, ih rest, and_assoc]

/-- What is held throughout may stay, where it uses only itself. -/
theorem StaysBacked.frame (done : replay es held = some held') (own : StaysBacked uses es held)
    (other : Backed uses kept) : StaysBacked uses es (held + kept) := by
  induction es generalizing held with
  | nil => exact own.add other
  | cons e es ih =>
      obtain ⟨next, step, rest⟩ := Option.bind_eq_some_iff.mp done
      have framed : e.apply (held + kept) = some (next + kept) := by
        have single : replay [e] held = some next := by
          rw [replay, step]
          rfl
        have whole : (e.apply (held + kept)).bind some = some (next + kept) := replay_frame kept single
        rwa [Option.bind_fun_some] at whole
      refine ⟨own.1.add other, fun after done' => ?_⟩
      cases framed.symm.trans done'
      exact ih rest (own.2 next step)

/-- Something that uses what is held may be there for the length of a call. -/
theorem staysBacked_during (base : ∀ s, uses r s → s ∈ held) :
    StaysBacked uses (during r ++ es) held ↔ StaysBacked uses es held := by
  show StaysBacked uses (.acquire r :: .release r :: es) held ↔ _
  rw [staysBacked_acquire, staysBacked_release_cons]
  constructor
  · exact fun all => all.2.2
  · exact fun stays => ⟨stays.start, stays.start.cons base, stays⟩

end Backing

end Resources
