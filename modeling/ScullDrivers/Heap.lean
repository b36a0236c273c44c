import Mathlib.Data.Finmap

/-!
# Explicitly freed memory

A memory is a finite map from addresses to live blocks, with the addresses freed so far in order.
Loading, storing or freeing where no block is live is a `Fault`, so a program that makes no fault
touches live blocks only and frees none of them twice.  `Memory.dropAll` is what is left after
freeing a list of blocks.

Nothing here mentions a driver.
-/

namespace Heap

/-- An address; `0` is `NULL`. -/
abbrev Ptr := Nat

/-- An access to memory that a program must not make, or a loop that does not end. -/
inductive Fault
  | notLive (p : Ptr)
  | wrongKind (p : Ptr)
  | index (p : Ptr) (i : Nat)
  | diverges
  deriving DecidableEq

/-- Live blocks by address, and the log of what was freed. -/
@[ext] structure Memory (β : Type*) where
  blocks : Finmap fun _ : Ptr => β
  freed : List Ptr := []

namespace Memory

variable {β : Type*}

def load (m : Memory β) (p : Ptr) : Except Fault β :=
  match m.blocks.lookup p with
  | none => .error (.notLive p)
  | some b => .ok b

/-- The block at `p` becomes `b`. -/
def write (m : Memory β) (p : Ptr) (b : β) : Memory β := { m with blocks := m.blocks.insert p b }

def store (m : Memory β) (p : Ptr) (b : β) : Except Fault (Memory β) :=
  if p ∈ m.blocks then .ok (m.write p b) else .error (.notLive p)

/-- The block at `p` is gone. -/
def drop (m : Memory β) (p : Ptr) : Memory β := ⟨m.blocks.erase p, m.freed ++ [p]⟩

/-- Freeing `NULL` does nothing. -/
def kfree (m : Memory β) (p : Ptr) : Except Fault (Memory β) :=
  if p = 0 then .ok m else if p ∈ m.blocks then .ok (m.drop p) else .error (.notLive p)

/-- The number of live blocks. -/
def size (m : Memory β) : Nat := m.blocks.keys.card

def dropAll (m : Memory β) (ps : List Ptr) : Memory β := ps.foldl drop m

variable {m m' : Memory β} {p q : Ptr} {ps qs : List Ptr} {b b' : β}

@[simp] theorem lookup_write : (m.write p b).blocks.lookup p = some b := Finmap.lookup_insert _

theorem lookup_write_ne (ne : q ≠ p) : (m.write p b).blocks.lookup q = m.blocks.lookup q :=
  Finmap.lookup_insert_of_ne _ ne

@[simp] theorem lookup_drop : (m.drop p).blocks.lookup p = none := Finmap.lookup_erase p _

theorem lookup_drop_ne (ne : q ≠ p) : (m.drop p).blocks.lookup q = m.blocks.lookup q :=
  Finmap.lookup_erase_ne ne

theorem load_eq_ok : m.load p = .ok b ↔ m.blocks.lookup p = some b := by
  unfold load
  cases entry : m.blocks.lookup p with
  | none => simp
  | some b' => simp

theorem store_eq_ok : m.store p b = .ok m' ↔ p ∈ m.blocks ∧ m' = m.write p b := by
  unfold store
  by_cases live : p ∈ m.blocks
  · simp [live, eq_comm]
  · simp [live]

theorem kfree_eq_ok : m.kfree p = .ok m' ↔
    p = 0 ∧ m' = m ∨ p ≠ 0 ∧ p ∈ m.blocks ∧ m' = m.drop p := by
  unfold kfree
  by_cases null : p = 0
  · simp [null, eq_comm]
  · by_cases live : p ∈ m.blocks
    · simp [null, live, eq_comm]
    · simp [null, live]

theorem write_write : (m.write p b).write p b' = m.write p b' :=
  Memory.ext (Finmap.insert_insert _) rfl

/-- Writing what is there changes nothing. -/
theorem write_self (block : m.blocks.lookup p = some b) : m.write p b = m := by
  refine Memory.ext (Finmap.ext_lookup fun q => ?_) rfl
  by_cases same : q = p
  · rw [same, lookup_write, block]
  · rw [lookup_write_ne same]

/-- What was written to a block is lost when the block is freed. -/
theorem drop_write : (m.write p b).drop p = m.drop p := by
  refine Memory.ext (Finmap.ext_lookup fun q => ?_) rfl
  by_cases same : q = p
  · rw [same, lookup_drop, lookup_drop]
  · rw [lookup_drop_ne same, lookup_write_ne same, lookup_drop_ne same]

/-! ### Freeing several blocks -/

@[simp] theorem dropAll_nil : m.dropAll [] = m := rfl

@[simp] theorem dropAll_cons : m.dropAll (p :: ps) = (m.drop p).dropAll ps := rfl

theorem dropAll_append : m.dropAll (ps ++ qs) = (m.dropAll ps).dropAll qs := List.foldl_append

theorem lookup_dropAll (out : q ∉ ps) : (m.dropAll ps).blocks.lookup q = m.blocks.lookup q := by
  induction ps generalizing m with
  | nil => rfl
  | cons p ps ih =>
      obtain ⟨ne, rest⟩ := List.ne_and_not_mem_of_not_mem_cons out
      rw [dropAll_cons, ih rest, lookup_drop_ne ne]

theorem lookup_dropAll_mem (mem : q ∈ ps) : (m.dropAll ps).blocks.lookup q = none := by
  induction ps generalizing m with
  | nil => exact absurd mem List.not_mem_nil
  | cons p ps ih =>
      by_cases rest : q ∈ ps
      · rw [dropAll_cons, ih rest]
      · obtain rfl : q = p := (List.mem_cons.mp mem).resolve_right rest
        rw [dropAll_cons, lookup_dropAll rest, lookup_drop]

theorem freed_dropAll : (m.dropAll ps).freed = m.freed ++ ps := by
  induction ps generalizing m with
  | nil => exact (List.append_nil _).symm
  | cons p ps ih => rw [dropAll_cons, ih, drop, List.append_assoc, List.singleton_append]

/-! ### How many blocks are live -/

theorem size_write (live : p ∈ m.blocks) : (m.write p b).size = m.size := by
  refine congrArg Finset.card (Finset.ext fun q => ?_)
  rw [Finmap.mem_keys, Finmap.mem_keys, write, Finmap.mem_insert]
  constructor
  · intro either
    rcases either with rfl | before
    · exact live
    · exact before
  · exact Or.inr

theorem size_drop (live : p ∈ m.blocks) : (m.drop p).size < m.size := by
  unfold size drop
  rw [Finmap.keys_erase]
  exact Finset.card_erase_lt_of_mem (Finmap.mem_keys.mpr live)

theorem size_kfree (run : m.kfree p = .ok m') : m'.size ≤ m.size := by
  rcases kfree_eq_ok.mp run with ⟨-, rfl⟩ | ⟨-, live, rfl⟩
  · exact le_refl _
  · exact (size_drop live).le

/-- Different live blocks are no more than there are. -/
theorem length_le_size (nodup : ps.Nodup) (live : ∀ p ∈ ps, p ∈ m.blocks) : ps.length ≤ m.size := by
  rw [← List.toFinset_card_of_nodup nodup]
  refine Finset.card_le_card fun p mem => ?_
  exact Finmap.mem_keys.mpr (live p (List.mem_toFinset.mp mem))

end Memory

end Heap
