import Mathlib.Data.List.Induction
import Mathlib.Data.List.Infix

/-!
# A switch that counts how often it was turned off

Turning such a switch off nests: it is on again only after it was turned on as often as off, and
turning it on where it is on is an error.  A user who takes it for a level, on or off as it was turned
last, is right exactly if it was never turned on more often than off before (`Nested`) and, if it was
turned on last, as often on as off (`settled_iff`).

Nothing here mentions a driver.
-/

namespace Nesting

/-- How often it was turned off and not yet on again, and how often it was turned on where it was on. -/
structure Switch where
  depth : Nat := 0
  unbalanced : Nat := 0
  deriving DecidableEq

/-- Turn it on or off. -/
def Switch.turn (s : Switch) : Bool → Switch
  | true => if s.depth = 0 then { s with unbalanced := s.unbalanced + 1 }
      else { s with depth := s.depth - 1 }
  | false => { s with depth := s.depth + 1 }

/-- Turn it one way after the other. -/
def Switch.turnAll (s : Switch) (ws : List Bool) : Switch := ws.foldl turn s

/-- It was never turned on more often than off. -/
def Nested (ws : List Bool) : Prop := ∀ p, p <+: ws → p.count true ≤ p.count false

/-- It is on exactly if it was turned on last, or never turned, and no turn was an error. -/
def Switch.Settled (s : Switch) (ws : List Bool) : Prop :=
  ((s.turnAll ws).depth = 0 ↔ ∀ w ∈ ws.getLast?, w = true) ∧
    (s.turnAll ws).unbalanced = s.unbalanced

variable {s : Switch} {ws : List Bool} {w : Bool}

@[simp] theorem turnAll_nil : s.turnAll [] = s := rfl

theorem turnAll_snoc : s.turnAll (ws ++ [w]) = (s.turnAll ws).turn w := by
  rw [Switch.turnAll, List.foldl_append]
  rfl

theorem nested_nil : Nested [] := by
  intro p pre
  rw [List.prefix_nil.mp pre]
  exact le_rfl

theorem nested_snoc : Nested (ws ++ [w]) ↔
    Nested ws ∧ (ws ++ [w]).count true ≤ (ws ++ [w]).count false := by
  constructor
  · intro nested
    refine ⟨fun p pre => nested p (pre.trans (List.prefix_append ws [w])), nested _ List.prefix_rfl⟩
  · intro both
    obtain ⟨nested, last⟩ := both
    intro p pre
    rcases List.prefix_concat_iff.mp pre with rfl | pre
    · exact last
    · exact nested p pre

theorem turn_on_of_on (on : s.depth = 0) : s.turn true = ⟨s.depth, s.unbalanced + 1⟩ := if_pos on

theorem turn_on_of_off (off : s.depth ≠ 0) : s.turn true = ⟨s.depth - 1, s.unbalanced⟩ :=
  if_neg off

theorem unbalanced_le : s.unbalanced ≤ (s.turnAll ws).unbalanced := by
  induction ws using List.reverseRecOn with
  | nil => exact le_rfl
  | append_singleton ws w ih =>
      rw [turnAll_snoc]
      cases w with
      | false => exact ih
      | true =>
          by_cases on : (s.turnAll ws).depth = 0
          · rw [turn_on_of_on on]
            exact Nat.le_succ_of_le ih
          · rw [turn_on_of_off on]
            exact ih

/-- Nested turns from where it is on are no error, and it was turned off `depth` times more often than
on. -/
theorem turnAll_of_nested (on : s.depth = 0) (nested : Nested ws) :
    (s.turnAll ws).depth + ws.count true = ws.count false ∧
      (s.turnAll ws).unbalanced = s.unbalanced := by
  induction ws using List.reverseRecOn with
  | nil => exact ⟨on, rfl⟩
  | append_singleton ws w ih =>
      obtain ⟨before, last⟩ := nested_snoc.mp nested
      obtain ⟨depth, errors⟩ := ih before
      rw [turnAll_snoc]
      cases w with
      | false =>
          refine ⟨?_, errors⟩
          simp [Switch.turn]
          omega
      | true =>
          simp at last
          have off : (s.turnAll ws).depth ≠ 0 := by omega
          rw [turn_on_of_off off]
          refine ⟨?_, errors⟩
          simp
          omega

/-- From where it is on, no turn is an error exactly if the turns are nested. -/
theorem unbalanced_eq_iff (on : s.depth = 0) :
    (s.turnAll ws).unbalanced = s.unbalanced ↔ Nested ws := by
  constructor
  · intro errors
    induction ws using List.reverseRecOn with
    | nil => exact nested_nil
    | append_singleton ws w ih =>
        rw [turnAll_snoc] at errors
        have least : s.unbalanced ≤ (s.turnAll ws).unbalanced := unbalanced_le
        cases w with
        | false =>
            have nested := ih errors
            have last := nested ws List.prefix_rfl
            refine nested_snoc.mpr ⟨nested, ?_⟩
            simp
            omega
        | true =>
            by_cases zero : (s.turnAll ws).depth = 0
            · rw [turn_on_of_on zero] at errors
              exact absurd errors (Nat.ne_of_gt (Nat.lt_succ_of_le least))
            · rw [turn_on_of_off zero] at errors
              have nested := ih errors
              obtain ⟨depth, -⟩ := turnAll_of_nested on nested
              refine nested_snoc.mpr ⟨nested, ?_⟩
              simp
              omega
  · exact fun nested => (turnAll_of_nested on nested).2

/-- **A level and a depth.**  From where it is on, the switch is where it was last turned, without an
error, exactly if the turns are nested and, when the last one was on, balanced. -/
theorem settled_iff (on : s.depth = 0) : s.Settled ws ↔
    Nested ws ∧ (ws.getLast? = some true → ws.count true = ws.count false) := by
  unfold Switch.Settled
  rw [unbalanced_eq_iff on, and_comm]
  refine and_congr_right fun nested => ?_
  obtain ⟨depth, -⟩ := turnAll_of_nested on nested
  cases last : ws.getLast? with
  | none =>
      rw [List.getLast?_eq_none_iff] at last
      subst last
      simp [on]
  | some w =>
      cases w with
      | true =>
          simp
          omega
      | false =>
          obtain ⟨front, rfl⟩ := List.getLast?_eq_some_iff.mp last
          have before := (nested_snoc.mp nested).1 front List.prefix_rfl
          simp at depth ⊢
          omega

end Nesting
