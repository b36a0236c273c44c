import Mathlib.Logic.Basic

/-!
# Programs as trees of calls

A driver function computes little by itself: it calls the kernel, touches a device register or a
shared field, looks at the answer and goes on.  `Prog E R α` is that shape: a tree whose nodes are
calls `e : E`, whose branches are the answers `R e`, and whose leaves are returned values.  Programs
are written in `do` notation, so a model reads line by line against the C function.

* `Kernel E R σ` says what the surroundings may do at one call: a relation between the state before
  it, the answer and the state after it.  A call with no successor blocks.
* `Prog.Exec` runs a program to its return without interference.
* `Prog.eval` computes the one run there is when a `Handler` decides every answer, and `logging` is
  the handler that looks its answers up in a table and writes down what the calls do.
* `Prog.OnlyCalls` and `Prog.Eventually` are static properties of the tree alone.

Nothing here mentions a driver.
-/

namespace Interaction

/-- A program that calls `e : E`, is answered in `R e`, and returns in `α`. -/
inductive Prog (E : Type) (R : E → Type) (α : Type) : Type
  | ret (a : α)
  | call (e : E) (k : R e → Prog E R α)

/-- What the surroundings may do at one call. -/
abbrev Kernel (E : Type) (R : E → Type) (σ : Type) := (e : E) → σ → R e → σ → Prop

variable {E : Type} {R : E → Type} {α β σ : Type}

/-- The same surroundings, with their answers subject to `A` as well. -/
def Kernel.answering (K : Kernel E R σ) (A : (e : E) → R e → Prop) : Kernel E R σ :=
  fun e s r s' => K e s r s' ∧ A e r

/-- Run `p`, then what its value selects. -/
def Prog.bind : Prog E R α → (α → Prog E R β) → Prog E R β
  | .ret a, f => f a
  | .call e k, f => .call e fun r => (k r).bind f

instance : Monad (Prog E R) where
  pure := .ret
  bind := .bind

/-- The program of a single call. -/
def perform (e : E) : Prog E R (R e) := .call e .ret

@[simp] theorem pure_eq (a : α) : (pure a : Prog E R α) = .ret a := rfl

@[simp] theorem ret_bind (a : α) (f : α → Prog E R β) : Prog.ret a >>= f = f a := rfl

@[simp] theorem call_bind (e : E) (k : R e → Prog E R α) (f : α → Prog E R β) :
    Prog.call e k >>= f = .call e fun r => k r >>= f := rfl

@[simp] theorem perform_bind (e : E) (f : R e → Prog E R β) :
    perform e >>= f = .call e f := rfl

/-! ## Undisturbed execution -/

/-- `p.Exec K s a s'`: from `s`, with every call answered as `K` allows, `p` returns `a` and leaves
`s'`. -/
def Prog.Exec (K : Kernel E R σ) : Prog E R α → σ → α → σ → Prop
  | .ret a, s, b, s' => b = a ∧ s' = s
  | .call e k, s, b, s' => ∃ r s₁, K e s r s₁ ∧ (k r).Exec K s₁ b s'

section Exec

variable {K : Kernel E R σ} {s s' : σ} {a : α} {b : β}

@[simp] theorem exec_ret {c : α} : (Prog.ret c : Prog E R α).Exec K s a s' ↔ a = c ∧ s' = s :=
  Iff.rfl

@[simp] theorem exec_call {e : E} {k : R e → Prog E R α} :
    (Prog.call e k).Exec K s a s' ↔ ∃ r s₁, K e s r s₁ ∧ (k r).Exec K s₁ a s' :=
  Iff.rfl

/-- Sequencing: the second part runs from where the first one returned. -/
@[simp] theorem exec_bind {p : Prog E R α} {f : α → Prog E R β} :
    (p >>= f).Exec K s b s' ↔ ∃ a s₁, p.Exec K s a s₁ ∧ (f a).Exec K s₁ b s' := by
  induction p generalizing s with
  | ret a =>
      constructor
      · exact fun run => ⟨a, s, ⟨rfl, rfl⟩, run⟩
      · rintro ⟨a', s₁, ⟨rfl, rfl⟩, run⟩
        exact run
  | call e k ih =>
      simp only [call_bind, exec_call, ih]
      constructor
      · rintro ⟨r, s₁, step, a, s₂, first, second⟩
        exact ⟨a, s₂, ⟨r, s₁, step, first⟩, second⟩
      · rintro ⟨a, s₂, ⟨r, s₁, step, first⟩, second⟩
        exact ⟨r, s₁, step, a, s₂, first, second⟩

end Exec

/-! ## Decided answers -/

/-- Surroundings that answer every call in one way. -/
abbrev Handler (E : Type) (R : E → Type) (σ : Type) := (e : E) → σ → R e × σ

/-- What `p` returns and the state it leaves, when `H` answers its calls. -/
def Prog.eval (H : Handler E R σ) : Prog E R α → σ → α × σ
  | .ret a, s => (a, s)
  | .call e k, s => (k (H e s).1).eval H (H e s).2

/-- Answers from a table, with a log of what each call did. -/
def logging {ε : Type} (answer : (e : E) → R e) (effect : (e : E) → R e → List ε) :
    Handler E R (List ε) :=
  fun e log => (answer e, log ++ effect e (answer e))

section Eval

variable {H : Handler E R σ} {s : σ}

@[simp] theorem eval_ret (a : α) : (Prog.ret a : Prog E R α).eval H s = (a, s) := rfl

@[simp] theorem eval_call (e : E) (k : R e → Prog E R α) :
    (Prog.call e k).eval H s = (k (H e s).1).eval H (H e s).2 := rfl

@[simp] theorem eval_perform (e : E) : (perform e : Prog E R (R e)).eval H s = H e s := rfl

@[simp] theorem eval_bind (p : Prog E R α) (f : α → Prog E R β) :
    (p >>= f).eval H s = (f (p.eval H s).1).eval H (p.eval H s).2 := by
  induction p generalizing s with
  | ret a => rfl
  | call e k ih => exact ih _

@[simp] theorem eval_ite {c : Prop} [Decidable c] (p q : Prog E R α) :
    (if c then p else q).eval H s = if c then p.eval H s else q.eval H s := by
  split
  · rfl
  · rfl

@[simp] theorem logging_apply {ε : Type} (answer : (e : E) → R e)
    (effect : (e : E) → R e → List ε) (e : E) (log : List ε) :
    logging answer effect e log = (answer e, log ++ effect e (answer e)) := rfl

end Eval

/-! ## Static properties -/

/-- Every call anywhere in the tree satisfies `P`. -/
def Prog.OnlyCalls (P : E → Prop) : Prog E R α → Prop
  | .ret _ => True
  | .call e k => P e ∧ ∀ r, (k r).OnlyCalls P

/-- Every path from here to a return passes a call satisfying `P`. -/
def Prog.Eventually (P : E → Prop) : Prog E R α → Prop
  | .ret _ => False
  | .call e k => P e ∨ ∀ r, (k r).Eventually P

section Static

variable {P : E → Prop}

@[simp] theorem onlyCalls_ret (a : α) : (Prog.ret a : Prog E R α).OnlyCalls P := trivial

@[simp] theorem onlyCalls_call {e : E} {k : R e → Prog E R α} :
    (Prog.call e k).OnlyCalls P ↔ P e ∧ ∀ r, (k r).OnlyCalls P := Iff.rfl

@[simp] theorem not_eventually_ret (a : α) : ¬ (Prog.ret a : Prog E R α).Eventually P := id

@[simp] theorem eventually_call {e : E} {k : R e → Prog E R α} :
    (Prog.call e k).Eventually P ↔ P e ∨ ∀ r, (k r).Eventually P := Iff.rfl

theorem Prog.OnlyCalls.bind {p : Prog E R α} {f : α → Prog E R β} (first : p.OnlyCalls P)
    (second : ∀ a, (f a).OnlyCalls P) : (p >>= f).OnlyCalls P := by
  induction p with
  | ret a => exact second a
  | call e k ih => exact ⟨first.1, fun r => ih r (first.2 r)⟩

theorem Prog.OnlyCalls.mono {Q : E → Prop} {p : Prog E R α} (only : p.OnlyCalls P)
    (imp : ∀ e, P e → Q e) : p.OnlyCalls Q := by
  induction p with
  | ret a => trivial
  | call e k ih => exact ⟨imp e only.1, fun r => ih r (only.2 r)⟩

theorem Prog.onlyCalls_of_forall {p : Prog E R α} (all : ∀ e, P e) : p.OnlyCalls P := by
  induction p with
  | ret a => trivial
  | call e k ih => exact ⟨all e, ih⟩

theorem Prog.Eventually.bind {p : Prog E R α} {f : α → Prog E R β} (first : p.Eventually P) :
    (p >>= f).Eventually P := by
  induction p with
  | ret a => exact first.elim
  | call e k ih =>
      rcases first with here | later
      · exact .inl here
      · exact .inr fun r => ih r (later r)

/-- A program runs through all that follows it. -/
theorem Prog.eventually_bind {p : Prog E R α} {f : α → Prog E R β}
    (second : ∀ a, (f a).Eventually P) : (p >>= f).Eventually P := by
  induction p with
  | ret a => exact second a
  | call e k ih => exact .inr fun r => ih r

/-- A program all of whose calls are answered wherever `J` holds, and keep it, runs to its return. -/
theorem Prog.OnlyCalls.exists_exec {K : Kernel E R σ} {J : σ → Prop} {p : Prog E R α}
    (only : p.OnlyCalls P) (answered : ∀ {e s}, P e → J s → ∃ r s', K e s r s' ∧ J s') {s : σ}
    (start : J s) : ∃ a s', p.Exec K s a s' ∧ J s' := by
  induction p generalizing s with
  | ret a => exact ⟨a, s, ⟨rfl, rfl⟩, start⟩
  | call e k ih =>
      obtain ⟨r, s₁, step, next⟩ := answered only.1 start
      obtain ⟨a, s', rest, last⟩ := ih r (only.2 r) next
      exact ⟨a, s', ⟨r, s₁, step, rest⟩, last⟩

/-- Calls that do nothing leave the log alone. -/
theorem Prog.OnlyCalls.log_eq {ε : Type} {answer : (e : E) → R e}
    {effect : (e : E) → R e → List ε} {p : Prog E R α}
    (only : p.OnlyCalls fun e => effect e (answer e) = []) {log : List ε} :
    (p.eval (logging answer effect) log).2 = log := by
  induction p with
  | ret a => rfl
  | call e k ih =>
      obtain ⟨quiet, rest⟩ := only
      rw [eval_call, logging_apply, quiet, List.append_nil]
      exact ih _ (rest _)

end Static

end Interaction
