import Mathlib.Data.List.Nodup
import Mathlib.Data.Nat.ModEq
import Mathlib.Logic.Function.Basic

/-!
# Ring buffers

A ring of `n` slots addressed by counters that only grow: position `m` of the queue lives in slot
`m % n`.  `Ring.Holds slots t q` says that the queue `q` occupies the slots from position `t` on, in
order, and that every other slot is empty.  `Holds.push` and `Holds.pop` are the two operations of a
FIFO queue on this representation; `Holds.full` says what a push meets in a full ring.

`Ring.Trails` is for a ring whose slots are only ever stored to, one after the other: it holds the
last lap of what was stored, and `empty` where nothing was stored yet.  `Ring.storeAll` is such a row
of stores on slots of any contents.

Nothing here mentions a driver.
-/

namespace Ring

variable {n : Nat} [NeZero n] {α : Type*}

/-- The slot of position `m`. -/
def slot (n : Nat) [NeZero n] (m : Nat) : Fin n := Fin.ofNat n m

@[simp] theorem val_slot (m : Nat) : (slot n m : Nat) = m % n := rfl

theorem slot_eq_iff {a b : Nat} : slot n a = slot n b ↔ a % n = b % n := by
  simp [Fin.ext_iff]

theorem slot_add_self (m : Nat) : slot n (m + n) = slot n m := by
  simp [slot_eq_iff]

/-- Two positions less than a lap apart share no slot. -/
theorem slot_injOn {t i j : Nat} (hi : i < n) (hj : j < n)
    (same : slot n (t + i) = slot n (t + j)) : i = j := by
  have h : t + i ≡ t + j [MOD n] := slot_eq_iff.mp same
  exact Nat.ModEq.eq_of_lt_of_lt (Nat.ModEq.add_left_cancel' t h) hi hj

/-- Every slot is that of one of the `n` positions from `t` on. -/
theorem exists_slot (t : Nat) (i : Fin n) : ∃ k < n, slot n (t + k) = i := by
  refine ⟨(i + (n - t % n)) % n, Nat.mod_lt _ (Nat.pos_of_neZero n), ?_⟩
  have ht : t % n < n := Nat.mod_lt _ (Nat.pos_of_neZero n)
  have hi : (i : Nat) < n := i.isLt
  apply Fin.ext
  rw [val_slot, Nat.add_mod, Nat.mod_mod, ← Nat.add_mod]
  have split : t + (i + (n - t % n)) = i + n * (t / n + 1) := by
    have := Nat.div_add_mod t n
    rw [Nat.mul_add, Nat.mul_one]
    omega
  rw [split, Nat.add_mul_mod_self_left, Nat.mod_eq_of_lt hi]

/-- The queue `q` fills the slots from position `t` on, and nothing else is stored. -/
structure Holds (slots : Fin n → Option α) (t : Nat) (q : List α) : Prop where
  length_le : q.length ≤ n
  slot_eq : ∀ k < n, slots (slot n (t + k)) = q[k]?

variable {slots : Fin n → Option α} {t : Nat} {q : List α} {x : α}

theorem holds_nil (empty : ∀ i, slots i = none) (t : Nat) : Holds slots t ([] : List α) :=
  ⟨Nat.zero_le n, fun k _ => by simp [empty]⟩

/-- What a slot of the ring can contain is an element of the queue. -/
theorem Holds.mem_of_slot (h : Holds slots t q) {i : Fin n} (stored : slots i = some x) :
    x ∈ q := by
  obtain ⟨k, hk, rfl⟩ := exists_slot t i
  rw [h.slot_eq k hk] at stored
  exact List.mem_of_getElem? stored

/-- An element of a queue without repetitions is stored in exactly one slot. -/
theorem Holds.existsUnique (h : Holds slots t q) (nodup : q.Nodup) (mem : x ∈ q) :
    ∃! i, slots i = some x := by
  obtain ⟨k, hk, rfl⟩ := List.getElem_of_mem mem
  have hkn : k < n := hk.trans_le h.length_le
  refine ⟨slot n (t + k), ?_, fun i stored => ?_⟩
  · simp only [h.slot_eq k hkn, List.getElem?_eq_getElem hk]
  · obtain ⟨j, hj, rfl⟩ := exists_slot t i
    simp only [h.slot_eq j hj] at stored
    obtain ⟨hjq, same⟩ := List.getElem?_eq_some_iff.mp stored
    rw [(nodup.getElem_inj_iff).mp same]

/-- The slot after the last element is free while the ring is not full. -/
theorem Holds.slot_end (h : Holds slots t q) (room : q.length < n) :
    slots (slot n (t + q.length)) = none := by
  rw [h.slot_eq _ room, List.getElem?_eq_none (le_refl _)]

/-- In a full ring the slot after the last element is that of the oldest one. -/
theorem Holds.full (h : Holds slots t (x :: q)) (full : (x :: q).length = n) :
    slots (slot n (t + (x :: q).length)) = some x := by
  rw [full, slot_add_self]
  simpa using h.slot_eq 0 (Nat.pos_of_neZero n)

/-- Storing behind the last element appends to the queue. -/
theorem Holds.push (h : Holds slots t q) (room : q.length < n) :
    Holds (Function.update slots (slot n (t + q.length)) (some x)) t (q ++ [x]) := by
  refine ⟨by simpa using Nat.succ_le_of_lt room, fun k hk => ?_⟩
  by_cases here : k = q.length
  · subst here
    simp
  · have ne : slot n (t + k) ≠ slot n (t + q.length) := fun same => here (slot_injOn hk room same)
    rw [Function.update_of_ne ne, h.slot_eq k hk]
    rcases Nat.lt_or_gt_of_ne here with below | above
    · rw [List.getElem?_append_left below]
    · rw [List.getElem?_eq_none above.le, List.getElem?_eq_none (by simpa using Nat.succ_le_of_lt above)]

/-- The slot of the oldest element holds it. -/
theorem Holds.slot_head (h : Holds slots t (x :: q)) : slots (slot n t) = some x := by
  simpa using h.slot_eq 0 (Nat.pos_of_neZero n)

/-- Clearing the slot of the oldest element removes it from the queue. -/
theorem Holds.pop (h : Holds slots t (x :: q)) :
    Holds (Function.update slots (slot n t) none) (t + 1) q := by
  have length_le : q.length + 1 ≤ n := by simpa using h.length_le
  refine ⟨by omega, fun k hk => ?_⟩
  by_cases last : k + 1 = n
  · have wrap : slot n (t + 1 + k) = slot n t := by
      rw [show t + 1 + k = t + n by omega, slot_add_self]
    rw [wrap, Function.update_self, List.getElem?_eq_none (by omega)]
  · have lt : k + 1 < n := by omega
    have ne : slot n (t + 1 + k) ≠ slot n t := by
      intro same
      have zero := slot_injOn (t := t) (i := k + 1) (j := 0) lt (Nat.pos_of_neZero n)
        (by simpa only [Nat.add_zero, Nat.add_assoc, Nat.add_comm 1 k] using same)
      omega
    rw [Function.update_of_ne ne, show t + 1 + k = t + (k + 1) by omega, h.slot_eq _ lt]
    rfl

/-- The slot of the next position. -/
theorem slot_succ (m : Nat) : ((slot n m : Nat) + 1) % n = slot n (m + 1) := by
  simp [Nat.add_mod]

/-! ## A ring that is only stored to -/

/-- `slots` holds the last `slots.length` entries of `log`, and `empty` in the slots the log has not
reached yet. -/
structure Trails (empty : α) (slots log : List α) : Prop where
  recent : ∀ k < log.length, log.length ≤ k + slots.length → slots[k % slots.length]? = log[k]?
  unused : ∀ k < slots.length, log.length ≤ k → slots[k]? = some empty

section

variable {empty y : α} {stored log : List α}

theorem trails_nil (empty : α) (n : Nat) : Trails empty (List.replicate n empty) [] := by
  refine ⟨fun k lt => absurd lt (Nat.not_lt_zero k), fun k lt _ => ?_⟩
  rw [List.length_replicate] at lt
  rw [List.getElem?_replicate, if_pos lt]

/-- In the first lap the next slot is an empty one. -/
theorem Trails.next_unused (h : Trails empty stored log) (room : log.length < stored.length) :
    stored[log.length % stored.length]? = some empty := by
  rw [Nat.mod_eq_of_lt room]
  exact h.unused _ room (le_refl _)

/-- From the second lap on the next slot is that of the entry stored a lap before. -/
theorem Trails.next_stale (h : Trails empty stored log) (pos : 0 < stored.length)
    (full : stored.length ≤ log.length) :
    stored[log.length % stored.length]? = log[log.length - stored.length]? := by
  have same : log.length % stored.length = (log.length - stored.length) % stored.length := by
    rw [← Nat.mod_eq_sub_mod full]
  rw [same]
  exact h.recent _ (by omega) (by omega)

/-- Storing into the next slot. -/
theorem Trails.push (h : Trails empty stored log) :
    Trails empty (stored.set (log.length % stored.length) y) (log ++ [y]) := by
  constructor
  · intro k lt near
    rw [List.length_append, List.length_singleton] at lt near
    rw [List.length_set] at near ⊢
    rcases Nat.lt_or_eq_of_le (Nat.le_of_lt_succ lt) with below | rfl
    · -- an entry less than a lap old has a slot of its own
      have apart : log.length % stored.length ≠ k % stored.length := by
        intro same
        have wrap : log.length ≡ k [MOD stored.length] := same
        have zero : (log.length - k) % stored.length = 0 := by
          have dvd := (Nat.modEq_iff_dvd' below.le).mp wrap.symm
          exact Nat.mod_eq_zero_of_dvd dvd
        rw [Nat.mod_eq_of_lt (by omega)] at zero
        omega
      rw [List.getElem?_set_ne apart, h.recent k below (by omega),
        List.getElem?_append_left below]
    · have pos : 0 < stored.length := by omega
      rw [List.getElem?_set_self (Nat.mod_lt _ pos), List.getElem?_concat_length]
  · intro k lt reached
    rw [List.length_append, List.length_singleton] at reached
    rw [List.length_set] at lt
    rw [Nat.mod_eq_of_lt (by omega), List.getElem?_set_ne (by omega)]
    exact h.unused k lt (by omega)

/-- In the first lap nothing that was stored is gone. -/
theorem Trails.mem (h : Trails empty stored log) (lap : log.length ≤ stored.length) (mem : y ∈ log) :
    y ∈ stored := by
  obtain ⟨k, lt, entry⟩ := List.getElem_of_mem mem
  have held := h.recent k lt (by omega)
  rw [List.getElem?_eq_getElem lt, entry] at held
  exact List.mem_of_getElem? held

/-- From the second lap on only the last lap is left. -/
theorem Trails.mem_drop (h : Trails empty stored log) (full : stored.length ≤ log.length)
    (mem : y ∈ stored) : y ∈ log.drop (log.length - stored.length) := by
  obtain ⟨j, lt, entry⟩ := List.getElem_of_mem mem
  -- the position of the last lap that uses slot `j`
  obtain ⟨k, below, near, rfl⟩ :
      ∃ k < log.length, log.length - stored.length ≤ k ∧ k % stored.length = j := by
    have : NeZero stored.length := ⟨by omega⟩
    obtain ⟨i, lt', same⟩ := exists_slot (log.length - stored.length) (⟨j, lt⟩ : Fin stored.length)
    exact ⟨log.length - stored.length + i, by omega, by omega, congrArg Fin.val same⟩
  have held := h.recent k below (by omega)
  rw [List.getElem?_eq_getElem lt, entry] at held
  refine List.mem_of_getElem? (i := k - (log.length - stored.length)) ?_
  rw [List.getElem?_drop, Nat.add_sub_cancel' near]
  exact held.symm

end

/-! ## A row of stores -/

/-- `slots` with `xs` stored one after the other, from position `m` on. -/
def storeAll (slots : List α) (m : Nat) : List α → List α
  | [] => slots
  | x :: xs => storeAll (slots.set (m % slots.length) x) (m + 1) xs

section

variable {stored xs ys : List α} {m k i : Nat}

@[simp] theorem length_storeAll : (storeAll stored m xs).length = stored.length := by
  induction xs generalizing stored m with
  | nil => rfl
  | cons x xs ih =>
      unfold storeAll
      rw [ih, List.length_set]

/-- Where the row starts matters up to whole laps. -/
theorem storeAll_mod (stored : List α) (m : Nat) (xs : List α) :
    storeAll stored (m % stored.length) xs = storeAll stored m xs := by
  induction xs generalizing stored m with
  | nil => rfl
  | cons x xs ih =>
      unfold storeAll
      rw [Nat.mod_mod, ← ih _ (m % stored.length + 1), ← ih _ (m + 1), List.length_set,
        Nat.mod_add_mod]

/-- Storing a row in two parts. -/
theorem storeAll_append :
    storeAll stored m (xs ++ ys) = storeAll (storeAll stored m xs) (m + xs.length) ys := by
  induction xs generalizing stored m with
  | nil => rfl
  | cons x xs ih =>
      rw [List.cons_append, storeAll, storeAll, ih, List.length_cons, Nat.add_assoc m,
        Nat.add_comm 1]

/-- A slot that is none of the row's keeps its contents. -/
theorem getElem?_storeAll_of_ne (apart : ∀ k < xs.length, i ≠ (m + k) % stored.length) :
    (storeAll stored m xs)[i]? = stored[i]? := by
  induction xs generalizing stored m with
  | nil => rfl
  | cons x xs ih =>
      have here : i ≠ m % stored.length := apart 0 (Nat.succ_pos _)
      unfold storeAll
      rw [ih, List.getElem?_set_ne here.symm]
      intro k lt
      rw [List.length_set, show m + 1 + k = m + (k + 1) by omega]
      exact apart (k + 1) (Nat.succ_lt_succ lt)

/-- The `k`-th of a row no longer than a lap is in the `k`-th slot from its start. -/
theorem getElem?_storeAll (lap : xs.length ≤ stored.length) (lt : k < xs.length) :
    (storeAll stored m xs)[(m + k) % stored.length]? = xs[k]? := by
  induction xs generalizing stored m k with
  | nil => exact absurd lt (Nat.not_lt_zero k)
  | cons x xs ih =>
      rw [List.length_cons] at lap lt
      have pos : 0 < stored.length := by omega
      unfold storeAll
      cases k with
      | zero =>
          -- the rest of the row ends before it comes round to this slot
          rw [getElem?_storeAll_of_ne, Nat.add_zero, List.getElem?_set_self (Nat.mod_lt _ pos)]
          · rfl
          · intro j below same
            have : NeZero stored.length := ⟨by omega⟩
            rw [List.length_set, show m + 1 + j = m + (j + 1) by omega] at same
            have zero := slot_injOn (n := stored.length) (t := m) pos (by omega)
              (slot_eq_iff.mpr same)
            omega
      | succ k =>
          have lap' : xs.length ≤ (stored.set (m % stored.length) x).length := by
            rw [List.length_set]
            omega
          have next := ih (m := m + 1) lap' (Nat.lt_of_succ_lt_succ lt)
          rw [List.length_set, show m + 1 + k = m + (k + 1) by omega] at next
          exact next

end

end Ring
