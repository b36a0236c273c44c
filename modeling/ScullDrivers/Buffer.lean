import Mathlib.Data.Int.Order.Basic
import Mathlib.Data.List.Basic

/-!
# Bounded buffers

A buffer is the list of its elements.  An access outside it has no outcome, so a function of accesses
that returns has stayed inside: `load`, `store` and `write`, which puts a block at the start.  `swap`
exchanges two elements.

* `Turned l i l'` is the state of an in-place reversal after `i` exchanges from the two ends:
  `Turned.exchange` is one more of them, `Turned.reverse` the end.
* `terminated z l` reads up to the terminator `z`, as a C string is read; `terminated_eq_some` says what
  the buffer then starts with.

Nothing here mentions a driver.
-/

namespace Buffer

variable {α : Type*} {l l' : List α} {i j : ℕ} {a b z : α}

/-! ## Accesses -/

/-- The element at `i`. -/
def load (buf : List α) (i : ℤ) : Option α :=
  if 0 ≤ i then buf[i.toNat]? else none

/-- The buffer with `a` at `i`. -/
def store (buf : List α) (i : ℤ) (a : α) : Option (List α) :=
  if 0 ≤ i ∧ i < buf.length then some (buf.set i.toNat a) else none

/-- The buffer with `block` at its start. -/
def write (buf block : List α) : Option (List α) :=
  if block.length ≤ buf.length then some (block ++ buf.drop block.length) else none

@[simp] theorem load_natCast : load l (i : ℤ) = l[i]? := by
  simp [load]

theorem store_natCast (inside : i < l.length) : store l (i : ℤ) a = some (l.set i a) := by
  simp [store, inside]

theorem write_of_le {block : List α} (fits : block.length ≤ l.length) :
    write l block = some (block ++ l.drop block.length) := if_pos fits

/-- A block over a longer one filled with `z`. -/
theorem write_replicate {block : List α} {n : ℕ} (large : n ≤ l.length) (fits : block.length ≤ n) :
    write l (List.replicate n z) = some (List.replicate n z ++ l.drop n) ∧
      write (List.replicate n z ++ l.drop n) block =
        some (block ++ List.replicate (n - block.length) z ++ l.drop n) := by
  have wide : (List.replicate n z).length = n := List.length_replicate
  constructor
  · rw [write_of_le (by rw [wide]; exact large), wide]
  · have inside : block.length ≤ (List.replicate n z).length := by rw [wide]; exact fits
    rw [write_of_le (by rw [List.length_append]; omega), List.drop_append_of_le_length inside,
      List.drop_replicate, List.append_assoc]

/-- The buffer with the elements at `i` and `j` exchanged. -/
def swap (buf : List α) (i j : ℕ) : List α :=
  match buf[i]?, buf[j]? with
  | some a, some b => (buf.set i b).set j a
  | _, _ => buf

theorem swap_eq (first : l[i]? = some a) (second : l[j]? = some b) :
    swap l i j = (l.set i b).set j a := by
  rw [swap, first, second]

@[simp] theorem length_swap : (swap l i j).length = l.length := by
  unfold swap
  split
  · rw [List.length_set, List.length_set]
  · rfl

/-! ## Reversal in place -/

/-- `l'` is `l` with its first `i` and its last `i` elements exchanged, each for the one opposite. -/
structure Turned (l : List α) (i : ℕ) (l' : List α) : Prop where
  length : l'.length = l.length
  outer : ∀ {k j}, k + j + 1 = l.length → k < i ∨ j < i → l'[k]? = l[j]?
  inner : ∀ {k j}, k + j + 1 = l.length → i ≤ k → i ≤ j → l'[k]? = l[k]?

theorem Turned.zero : Turned l 0 l where
  length := rfl
  outer _ near := by omega
  inner _ _ _ := rfl

/-- One more exchange, of the outermost pair still in its place. -/
theorem Turned.exchange (turned : Turned l i l') (opposite : i + j + 1 = l.length) (apart : i < j)
    (low : l'[i]? = some a) (high : l'[j]? = some b) :
    Turned l (i + 1) ((l'.set i b).set j a) where
  length := by rw [List.length_set, List.length_set, turned.length]
  outer {k m} sum near := by
    have length := turned.length
    rw [turned.inner opposite (Nat.le_refl i) (Nat.le_of_lt apart)] at low
    rw [turned.inner (by omega) (Nat.le_of_lt apart) (Nat.le_refl i)] at high
    rcases eq_or_ne j k with rfl | far
    · obtain rfl : m = i := by omega
      rw [List.getElem?_set_self (by rw [List.length_set]; omega), low]
    · rw [List.getElem?_set_ne far]
      rcases eq_or_ne i k with rfl | other
      · obtain rfl : m = j := by omega
        rw [List.getElem?_set_self (by omega), high]
      · rw [List.getElem?_set_ne other]
        exact turned.outer sum (by omega)
  inner {k m} sum left right := by
    rw [List.getElem?_set_ne (by omega), List.getElem?_set_ne (by omega)]
    exact turned.inner sum (by omega) (by omega)

/-- Where the two ends have met, the buffer is reversed. -/
theorem Turned.reverse (turned : Turned l i l') (met : l.length ≤ 2 * i + 1) : l' = l.reverse := by
  apply List.ext_getElem?
  intro k
  rcases Nat.lt_or_ge k l.length with inside | outside
  · obtain ⟨j, sum⟩ : ∃ j, k + j + 1 = l.length := ⟨l.length - 1 - k, by omega⟩
    rw [List.getElem?_reverse' sum]
    rcases Nat.lt_or_ge k i with near | left
    · exact turned.outer sum (.inl near)
    · rcases Nat.lt_or_ge j i with near | right
      · exact turned.outer sum (.inr near)
      · obtain rfl : j = k := by omega
        exact turned.inner sum left right
  · rw [List.getElem?_eq_none (by rw [turned.length]; exact outside),
      List.getElem?_eq_none (by rw [List.length_reverse]; exact outside)]

/-! ## Terminated strings -/

section

variable [DecidableEq α]

/-- What stands before the first `z`, where there is one. -/
def terminated (z : α) : List α → Option (List α)
  | [] => none
  | a :: l => if a = z then some [] else (terminated z l).map (a :: ·)

@[simp] theorem terminated_cons_self : terminated z (z :: l) = some [] := if_pos rfl

theorem terminated_cons_of_ne (other : a ≠ z) :
    terminated z (a :: l) = (terminated z l).map (a :: ·) := if_neg other

/-- The string read is `s` exactly when the buffer starts with `s`, free of `z`, and a `z`. -/
theorem terminated_eq_some {s : List α} :
    terminated z l = some s ↔ z ∉ s ∧ s ++ [z] <+: l := by
  induction l generalizing s with
  | nil => simp [terminated]
  | cons a l ih =>
      rcases eq_or_ne a z with rfl | other
      · cases s with
        | nil => simp
        | cons b s =>
            rw [terminated_cons_self]
            constructor
            · intro read
              cases read
            · rintro ⟨free, pre⟩
              rw [List.cons_append, List.cons_prefix_cons] at pre
              exact absurd (pre.1 ▸ List.mem_cons_self) free
      · rw [terminated_cons_of_ne other, Option.map_eq_some_iff]
        cases s with
        | nil => simp [List.cons_prefix_cons, other.symm]
        | cons b s =>
            simp only [List.cons_append, List.cons_prefix_cons, List.cons.injEq,
              List.mem_cons, not_or]
            constructor
            · rintro ⟨t, read, rfl, rfl⟩
              obtain ⟨free, pre⟩ := ih.mp read
              exact ⟨⟨other.symm, free⟩, rfl, pre⟩
            · rintro ⟨⟨_, free⟩, rfl, pre⟩
              exact ⟨s, ih.mpr ⟨free, pre⟩, rfl, rfl⟩

end

end Buffer
