import ScullDrivers.Interaction.Threads

/-!
# Protocols

A protocol is a small automaton: `next g e r g'` allows the call `e` in stage `g`, and leads to stage
`g'` when it is answered `r`.  `p.Follows next post g` says that the program `p`, entered in stage
`g`, makes only calls the protocol allows, whatever the answers, and returns in a stage `post`
accepts.  What is left of the program after a call follows the protocol from the next stage, so an
invariant of interleaved programs can speak of their stages instead of their text: `Config.At` is the
stage of a slot, and the rules below it say how one move of a `Machine` changes it.

Nothing here mentions a driver.
-/

namespace Interaction

variable {E : Type} {R : E → Type} {α β G : Type}

/-- Entered in stage `g`, the program keeps to the protocol and returns as `post` says. -/
def Prog.Follows (next : G → (e : E) → R e → G → Prop) (post : α → G → Prop) :
    Prog E R α → G → Prop
  | .ret a, g => post a g
  | .call e k, g => ∀ r, ∃ g', next g e r g' ∧ (k r).Follows next post g'

section

variable {next : G → (e : E) → R e → G → Prop} {post : α → G → Prop} {g : G} {P : E → Prop}
  {S : G → Prop}

@[simp] theorem follows_ret {a : α} : (Prog.ret a).Follows next post g ↔ post a g := Iff.rfl

@[simp] theorem follows_call {e : E} {k : R e → Prog E R α} :
    (Prog.call e k).Follows next post g ↔ ∀ r, ∃ g', next g e r g' ∧ (k r).Follows next post g' :=
  Iff.rfl

/-- Sequencing: the second part is entered in the stage the first one returns in. -/
theorem Prog.Follows.bind {p : Prog E R α} {f : α → Prog E R β} {post' : β → G → Prop}
    (first : p.Follows next post g) (second : ∀ a g', post a g' → (f a).Follows next post' g') :
    (p >>= f).Follows next post' g := by
  induction p generalizing g with
  | ret a => exact second a g first
  | call e k ih =>
      intro r
      obtain ⟨g', allowed, rest⟩ := first r
      exact ⟨g', allowed, ih r rest⟩

/-- Calls that keep the stage. -/
theorem Prog.OnlyCalls.follows {p : Prog E R α} (only : p.OnlyCalls P)
    (stay : ∀ e r, P e → next g e r g) (done : ∀ a, post a g) : p.Follows next post g := by
  induction p with
  | ret a => exact done a
  | call e k ih => exact fun r => ⟨g, stay e r only.1, ih r (only.2 r)⟩

/-- The stages `S` are left through a call in `P` only, and the program does not return in them. -/
theorem Prog.Follows.eventually {p : Prog E R α} (follows : p.Follows next post g)
    (through : ∀ {g e r g'}, S g → next g e r g' → P e ∨ S g') (stay : ∀ a g, S g → ¬ post a g)
    (here : S g) : p.Eventually P := by
  induction p generalizing g with
  | ret a => exact absurd follows (stay a g here)
  | call e k ih =>
      by_cases call : P e
      · exact .inl call
      · refine .inr fun r => ?_
        obtain ⟨g', allowed, rest⟩ := follows r
        rcases through here allowed with call' | inside
        · exact absurd call' call
        · exact ih r rest inside

variable [∀ e, Nonempty (R e)]

/-- In the stages `S` only the calls in `P` are allowed, and they lead to `S` again. -/
theorem Prog.Follows.onlyCalls {p : Prog E R α} (follows : p.Follows next post g)
    (inside : ∀ {g e r g'}, S g → next g e r g' → P e ∧ S g') (here : S g) : p.OnlyCalls P := by
  induction p generalizing g with
  | ret a => trivial
  | call e k ih =>
      refine ⟨?_, fun r => ?_⟩
      · obtain ⟨r⟩ := ‹∀ e, Nonempty (R e)› e
        obtain ⟨g', allowed, -⟩ := follows r
        exact (inside here allowed).1
      · obtain ⟨g', allowed, rest⟩ := follows r
        exact ih r rest (inside here allowed).2

/-- In a stage that allows no call the program has returned. -/
theorem Prog.Follows.returned {p : Prog E R α} (follows : p.Follows next post g)
    (last : ∀ e r g', ¬ next g e r g') : ∃ a, p = .ret a ∧ post a g := by
  cases p with
  | ret a => exact ⟨a, rfl, follows⟩
  | call e k =>
      obtain ⟨r⟩ := ‹∀ e, Nonempty (R e)› e
      obtain ⟨g', allowed, -⟩ := follows r
      exact absurd allowed (last e r g')

/-- A program that never makes a call of `P` does not make one eventually. -/
theorem Prog.OnlyCalls.not_eventually {p : Prog E R α} (only : p.OnlyCalls fun e => ¬ P e) :
    ¬ p.Eventually P := by
  induction p with
  | ret a => exact id
  | call e k ih =>
      intro eventually
      rcases eventually with call | later
      · exact only.1 call
      · obtain ⟨r⟩ := ‹∀ e, Nonempty (R e)› e
        exact ih r (only.2 r) (later r)

end

/-! ## Stages of slots -/

section At

variable {ι σ : Type} {c c' : Config ι E R α σ} {i : ι}
  {next : G → (e : E) → R e → G → Prop} {post : α → G → Prop} {rest : G → Prop} {g : G}

/-- The program in slot `i` is in stage `g` of its protocol; an idle slot is in a stage of `rest`. -/
def Config.At (c : Config ι E R α σ) (i : ι) (next : G → (e : E) → R e → G → Prop)
    (post : α → G → Prop) (rest : G → Prop) (g : G) : Prop :=
  (c.threads i = none → rest g) ∧ ∀ p, c.threads i = some p → p.Follows next post g

theorem Config.At.of_threads (stage : c.At i next post rest g)
    (same : c'.threads i = c.threads i) : c'.At i next post rest g := by
  unfold Config.At
  rw [same]
  exact stage

theorem Config.At.idle (idle : c.threads i = none) (resting : rest g) :
    c.At i next post rest g := by
  refine ⟨fun _ => resting, fun p running => ?_⟩
  cases idle.symm.trans running

theorem Config.At.running {p : Prog E R α} (running : c.threads i = some p)
    (follows : p.Follows next post g) : c.At i next post rest g := by
  refine ⟨fun none => ?_, fun p' running' => ?_⟩
  · cases none.symm.trans running
  · cases running.symm.trans running'
    exact follows

/-- One call: the protocol allows it, and the slot moves to the next stage. -/
theorem Config.At.call {e : E} {k : R e → Prog E R α} (stage : c.At i next post rest g)
    (head : c.threads i = some (.call e k)) (r : R e) :
    ∃ g', next g e r g' ∧ (k r).Follows next post g' :=
  stage.2 _ head r

/-- A program returns in a stage of its postcondition. -/
theorem Config.At.returned {a : α} (stage : c.At i next post rest g)
    (head : c.threads i = some (.ret a)) : post a g :=
  stage.2 _ head

end At

end Interaction
