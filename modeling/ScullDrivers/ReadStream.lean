import Mathlib.Algebra.Order.BigOperators.Group.List
import Mathlib.Algebra.Ring.Int.Defs
import Mathlib.Data.List.Basic

/-!
# Reading a stream in calls

A `Call` is what one read asked for and what came of it: the result, the elements that reached the
reader's buffer, and the position before and after.  `Contract` is what a sequence of calls owes a
reader that reads some content from its start: no call overruns the buffer, the position is the sum
of what was returned, what was returned is the beginning of the content, and at its end nothing more
comes.

`contract_iff_of_still` is the contract of a reader whose position never moves.

Nothing here mentions a driver.
-/

namespace ReadStream

/-- One read call. -/
structure Call (α : Type*) where
  count : Nat
  ret : Int
  written : List α
  before : Int
  after : Int

variable {α : Type*}

/-- The elements the calls returned: of each call as many as its result says. -/
def delivered (calls : List (Call α)) : List α := calls.flatMap fun c => c.written.take c.ret.toNat

/-- The sum of the non-negative results. -/
def returned (calls : List (Call α)) : Int := (calls.map fun c => max c.ret 0).sum

/-- The calls read `content` from its start, where `fault` is the result of a failed call. -/
structure Contract (content : List α) (fault : Int) (calls : List (Call α)) : Prop where
  room : ∀ c ∈ calls, c.written.length ≤ c.count
  result : ∀ c ∈ calls, c.ret = fault ∧ c.after = c.before ∨ 0 ≤ c.ret ∧ c.ret ≤ c.count
  position : ∀ past c rest, calls = past ++ c :: rest → c.after = returned (past ++ [c])
  initial : delivered calls <+: content
  exhausted : ∀ past c rest, calls = past ++ c :: rest → delivered past = content → c.ret = 0

variable {content : List α} {fault : Int} {calls past : List (Call α)} {c : Call α}

theorem returned_nonneg : 0 ≤ returned calls := by
  refine List.sum_nonneg fun x mem => ?_
  obtain ⟨c, -, rfl⟩ := List.mem_map.mp mem
  exact le_max_right c.ret 0

theorem returned_snoc : returned (past ++ [c]) = returned past + max c.ret 0 := by
  simp [returned]

/-- Where no call returned anything. -/
theorem returned_eq_zero (failed : ∀ c ∈ calls, c.ret ≤ 0) : returned calls = 0 := by
  refine List.sum_eq_zero fun x mem => ?_
  obtain ⟨c, here, rfl⟩ := List.mem_map.mp mem
  exact max_eq_right (failed c here)

theorem delivered_eq_nil (failed : ∀ c ∈ calls, c.ret ≤ 0) : delivered calls = [] := by
  refine List.flatMap_eq_nil_iff.mpr fun c mem => ?_
  rw [Int.toNat_of_nonpos (failed c mem), List.take_zero]

/-- **A reader whose position never moves** keeps the contract exactly when none of its calls returns
anything, nor overruns the buffer. -/
theorem contract_iff_of_still (nonempty : content ≠ []) (negative : fault < 0)
    (still : ∀ c ∈ calls, c.before = 0 ∧ c.after = 0) :
    Contract content fault calls ↔
      ∀ c ∈ calls, c.written.length ≤ c.count ∧ (c.ret = fault ∨ c.ret = 0) := by
  constructor
  · intro contract c mem
    obtain ⟨past, rest, split⟩ := List.append_of_mem mem
    have moved := contract.position past c rest split
    have before := @returned_nonneg _ past
    rw [returned_snoc, (still c mem).2] at moved
    refine ⟨contract.room c mem, ?_⟩
    rcases contract.result c mem with ⟨failed, -⟩ | ⟨nonneg, -⟩
    · exact .inl failed
    · exact .inr (by omega)
  · intro each
    have failed : ∀ c ∈ calls, c.ret ≤ 0 := by
      intro c mem
      rcases (each c mem).2 with failed | none <;> omega
    have sub : ∀ {past c rest}, calls = past ++ c :: rest → ∀ d ∈ past ++ [c], d ∈ calls := by
      intro past c rest split d mem
      rw [split, List.append_cons]
      exact List.mem_append_left rest mem
    refine ⟨fun c mem => (each c mem).1, ?_, ?_, ?_, ?_⟩
    · intro c mem
      rcases (each c mem).2 with fails | none
      · exact .inl ⟨fails, by rw [(still c mem).1, (still c mem).2]⟩
      · exact .inr (by omega)
    · intro past c rest split
      rw [returned_eq_zero fun d mem => failed d (sub split d mem)]
      exact (still c (sub split c (List.mem_append_right past (.head [])))).2
    · rw [delivered_eq_nil failed]
      exact List.nil_prefix
    · intro past c rest split whole
      rw [delivered_eq_nil fun d mem => failed d (sub split d (List.mem_append_left [c] mem))]
        at whole
      exact absurd whole.symm nonempty

end ReadStream
