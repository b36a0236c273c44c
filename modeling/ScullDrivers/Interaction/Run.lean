import Mathlib.Data.List.Basic

/-!
# Runs of a labelled transition relation

`Run step c₀ past c` says that `c` is reached from `c₀`, and `past` lists every step taken on the
way as the configuration it left and its label.  A condition on steps is a predicate on those pairs,
so "every step of the run meets it" is `∀ x ∈ past, ok x.1 x.2`, and "it holds of every state the run
went through" is `Always`.

Nothing here mentions a driver.
-/

namespace Interaction

variable {C L : Type*}

/-- Runs of `step` from `c₀`: the steps taken so far and the configuration reached. -/
inductive Run (step : C → L → C → Prop) (c₀ : C) : List (C × L) → C → Prop
  | nil : Run step c₀ [] c₀
  | snoc {past : List (C × L)} {c c' : C} {l : L} :
    Run step c₀ past c → step c l c' → Run step c₀ (past ++ [(c, l)]) c'

/-- `P` holds of every configuration of the run, the last one included. -/
def Always (P : C → Prop) (past : List (C × L)) (c : C) : Prop :=
  (∀ x ∈ past, P x.1) ∧ P c

/-- Every step of the run meets `ok`. -/
def AllSteps (ok : C → L → Prop) (past : List (C × L)) : Prop :=
  ∀ x ∈ past, ok x.1 x.2

section

variable {step : C → L → C → Prop} {c₀ c c' : C} {l : L} {past : List (C × L)}
  {P Q I : C → Prop} {ok : C → L → Prop}

@[simp] theorem always_nil : Always P ([] : List (C × L)) c ↔ P c := by
  simp [Always]

@[simp] theorem always_snoc : Always P (past ++ [(c, l)]) c' ↔ Always P past c ∧ P c' := by
  simp only [Always, List.mem_append, List.mem_singleton]
  constructor
  · rintro ⟨all, last⟩
    exact ⟨⟨fun x mem => all x (.inl mem), all (c, l) (.inr rfl)⟩, last⟩
  · rintro ⟨⟨all, here⟩, last⟩
    refine ⟨fun x mem => ?_, last⟩
    rcases mem with mem | rfl
    · exact all x mem
    · exact here

@[simp] theorem allSteps_nil : AllSteps ok ([] : List (C × L)) := by
  simp [AllSteps]

@[simp] theorem allSteps_snoc :
    AllSteps ok (past ++ [(c, l)]) ↔ AllSteps ok past ∧ ok c l := by
  simp only [AllSteps, List.mem_append, List.mem_singleton]
  constructor
  · intro all
    exact ⟨fun x mem => all x (.inl mem), all (c, l) (.inr rfl)⟩
  · rintro ⟨all, here⟩ x (mem | rfl)
    · exact all x mem
    · exact here

/-- All steps meet two conditions together when they meet each of them. -/
theorem allSteps_and {ok' : C → L → Prop} :
    AllSteps (fun c l => ok c l ∧ ok' c l) past ↔ AllSteps ok past ∧ AllSteps ok' past := by
  constructor
  · intro all
    exact ⟨fun x mem => (all x mem).1, fun x mem => (all x mem).2⟩
  · rintro ⟨left, right⟩ x mem
    exact ⟨left x mem, right x mem⟩

theorem Always.mono (imp : ∀ c, P c → Q c) (all : Always P past c) : Always Q past c :=
  ⟨fun x mem => imp _ (all.1 x mem), imp _ all.2⟩

/-- Where two properties agree under an invariant of the run, they agree on the run. -/
theorem Always.congr (inv : Always I past c) (same : ∀ c, I c → (P c ↔ Q c)) :
    Always P past c ↔ Always Q past c := by
  constructor
  · intro all
    exact ⟨fun x mem => (same x.1 (inv.1 x mem)).mp (all.1 x mem), (same c inv.2).mp all.2⟩
  · intro all
    exact ⟨fun x mem => (same x.1 (inv.1 x mem)).mpr (all.1 x mem), (same c inv.2).mpr all.2⟩

theorem Always.and (left : Always P past c) (right : Always Q past c) :
    Always (fun c => P c ∧ Q c) past c :=
  ⟨fun x mem => ⟨left.1 x mem, right.1 x mem⟩, left.2, right.2⟩

/-- **The invariant rule**: what holds at the start and is kept by every step that meets `ok` holds
all along a run whose steps all meet `ok`. -/
theorem Run.always (run : Run step c₀ past c) (base : I c₀)
    (keep : ∀ {c l c'}, step c l c' → ok c l → I c → I c') (steps : AllSteps ok past) :
    Always I past c := by
  induction run with
  | nil => simpa using base
  | snoc run hstep ih =>
      obtain ⟨before, here⟩ := allSteps_snoc.mp steps
      have all := ih before
      exact always_snoc.mpr ⟨all, keep hstep here all.2⟩

/-- What every step from an invariant has, all steps of a run have. -/
theorem Run.allSteps {P : C → L → Prop} (run : Run step c₀ past c) (base : I c₀)
    (keep : ∀ {c l c'}, step c l c' → ok c l → I c → I c')
    (sound : ∀ {c l c'}, step c l c' → I c → P c l) (steps : AllSteps ok past) : AllSteps P past := by
  have both : AllSteps P past ∧ I c := by
    induction run with
    | nil => exact ⟨allSteps_nil, base⟩
    | snoc run hstep ih =>
        obtain ⟨before, here⟩ := allSteps_snoc.mp steps
        obtain ⟨all, inv⟩ := ih before
        exact ⟨allSteps_snoc.mpr ⟨all, sound hstep inv⟩, keep hstep here inv⟩
  exact both.1

/-- What holds at the end of every run holds all along each of them. -/
theorem Run.always_of_forall (run : Run step c₀ past c)
    (all : ∀ {past c}, Run step c₀ past c → P c) : Always P past c := by
  induction run with
  | nil => exact always_nil.mpr (all .nil)
  | snoc run hstep ih => exact always_snoc.mpr ⟨ih, all (run.snoc hstep)⟩

/-- **Exactness of a condition.**  Suppose `I` implies the property `P`, a step from `I` that meets
`ok` keeps `I`, and a step from `I` that does not meet `ok` breaks `P`.  Then a run has `P`
throughout exactly when all its steps meet `ok`. -/
theorem Run.always_iff_allSteps (run : Run step c₀ past c) (base : I c₀)
    (sound : ∀ {c}, I c → P c) (keep : ∀ {c l c'}, step c l c' → ok c l → I c → I c')
    (sharp : ∀ {c l c'}, step c l c' → I c → P c' → ok c l) :
    Always P past c ↔ AllSteps ok past := by
  constructor
  · intro all
    have both : AllSteps ok past ∧ I c := by
      induction run with
      | nil => exact ⟨allSteps_nil, base⟩
      | snoc run hstep ih =>
          obtain ⟨before, last⟩ := always_snoc.mp all
          obtain ⟨steps, inv⟩ := ih before
          have here := sharp hstep inv last
          exact ⟨allSteps_snoc.mpr ⟨steps, here⟩, keep hstep here inv⟩
    exact both.1
  · intro steps
    exact (run.always base keep steps).mono fun _ => sound

/-- **Exactness of a condition on steps.**  Where each step from `I` has the property `P` exactly when
it meets `ok`, and then keeps `I`, the steps of a run all have `P` exactly when they all meet `ok`. -/
theorem Run.allSteps_iff {P : C → L → Prop} (run : Run step c₀ past c) (base : I c₀)
    (same : ∀ {c l c'}, step c l c' → I c → (P c l ↔ ok c l))
    (keep : ∀ {c l c'}, step c l c' → ok c l → I c → I c') :
    AllSteps P past ↔ AllSteps ok past := by
  have both : (AllSteps P past ↔ AllSteps ok past) ∧ (AllSteps ok past → I c) := by
    induction run with
    | nil => exact ⟨iff_of_true allSteps_nil allSteps_nil, fun _ => base⟩
    | snoc run hstep ih =>
        rw [allSteps_snoc, allSteps_snoc]
        refine ⟨?_, fun steps => keep hstep steps.2 (ih.2 steps.1)⟩
        rw [ih.1]
        exact and_congr_right fun before => same hstep (ih.2 before)
  exact both.1

end

end Interaction
