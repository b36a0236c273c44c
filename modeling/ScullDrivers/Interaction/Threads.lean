import Mathlib.Logic.Function.Basic
import ScullDrivers.Interaction.Program
import ScullDrivers.Interaction.Run

/-!
# Interleaved threads over a shared state

A `Machine` runs at most one program in each of its slots `ι`.  The surroundings may start the
program of a request `Q` in its slot, let a busy slot make its next call, take back the slot of a
program that returned, or let the hardware move.  `Machine.Step` is one such move with its label, so
a run of the machine is a `Run` of `Machine.Step`, and every interleaving of the calls is one of
them.

* `Machine.mayRun` is the scheduler: which slots may take a step, given the busy ones.
* `Machine.Step.threads` carries a property of program trees along every step.
* `Machine.play` follows a schedule, and `Machine.run_of_play` turns what it computes into a run.

Nothing here mentions a driver.
-/

namespace Interaction

/-- A shared state and, for each slot, what is left of the program running there. -/
structure Config (ι E : Type) (R : E → Type) (α σ : Type) where
  state : σ
  threads : ι → Option (Prog E R α)

/-- The moves of a machine. -/
inductive Move (ι Q E : Type) (R : E → Type) (α H : Type)
  | start (q : Q)
  | call (i : ι) (e : E) (r : R e)
  | finish (i : ι) (a : α)
  | device (h : H)

/-- The programs a group of threads runs, and what their surroundings do. -/
structure Machine (ι Q E : Type) (R : E → Type) (α σ H : Type) where
  /-- The slot a request is served in. -/
  slot : Q → ι
  /-- The program that serves a request. -/
  code : Q → Prog E R α
  /-- The request may be made, given the busy slots. -/
  mayStart : (ι → Bool) → Q → σ → Prop
  /-- The effect of making a request. -/
  begun : Q → σ → σ
  /-- The scheduler may let a slot take a step, given the busy slots. -/
  mayRun : (ι → Bool) → ι → Prop
  /-- The call returns, with this answer. -/
  returns : (e : E) → σ → R e → Prop
  /-- The effect of a call made in a slot and answered. -/
  effect : ι → (e : E) → σ → R e → σ
  /-- The effect of the program in a slot returning. -/
  finished : ι → α → σ → σ
  /-- Moves of the hardware. -/
  device : H → σ → σ

variable {ι Q E : Type} {R : E → Type} {α σ H : Type}

/-- The slots that run a program. -/
def Config.busy (c : Config ι E R α σ) (i : ι) : Bool := (c.threads i).isSome

variable [DecidableEq ι]

/-- The configuration with slot `i` holding `p`. -/
def Config.set (c : Config ι E R α σ) (s : σ) (i : ι) (p : Option (Prog E R α)) :
    Config ι E R α σ :=
  ⟨s, Function.update c.threads i p⟩

/-- One move. -/
inductive Machine.Step (M : Machine ι Q E R α σ H) :
    Config ι E R α σ → Move ι Q E R α H → Config ι E R α σ → Prop
  | start {c : Config ι E R α σ} {q : Q} :
    c.threads (M.slot q) = none → M.mayStart c.busy q c.state →
    M.Step c (.start q) (c.set (M.begun q c.state) (M.slot q) (some (M.code q)))
  | call {c : Config ι E R α σ} {i : ι} {e : E} {k : R e → Prog E R α} {r : R e} :
    c.threads i = some (.call e k) → M.mayRun c.busy i → M.returns e c.state r →
    M.Step c (.call i e r) (c.set (M.effect i e c.state r) i (some (k r)))
  | finish {c : Config ι E R α σ} {i : ι} {a : α} :
    c.threads i = some (.ret a) → M.mayRun c.busy i →
    M.Step c (.finish i a) (c.set (M.finished i a c.state) i none)
  | device {c : Config ι E R α σ} {h : H} :
    M.Step c (.device h) ⟨M.device h c.state, c.threads⟩

section Set

variable {c : Config ι E R α σ} {s : σ} {i j : ι} {p : Option (Prog E R α)}

@[simp] theorem Config.set_state : (c.set s i p).state = s := rfl

@[simp] theorem Config.set_threads_self : (c.set s i p).threads i = p :=
  Function.update_self ..

theorem Config.set_threads_of_ne (ne : j ≠ i) : (c.set s i p).threads j = c.threads j :=
  Function.update_of_ne ne ..

/-- What holds of the program put into a slot and of those in the others holds of all of them. -/
theorem Config.forall_set {P : ι → Prog E R α → Prop}
    (others : ∀ j p', j ≠ i → c.threads j = some p' → P j p') (here : ∀ p', p = some p' → P i p') :
    ∀ j p', (c.set s i p).threads j = some p' → P j p' := by
  intro j p' running
  by_cases same : j = i
  · subst same
    rw [Config.set_threads_self] at running
    exact here p' running
  · rw [Config.set_threads_of_ne same] at running
    exact others j p' same running

end Set

section Threads

variable {M : Machine ι Q E R α σ H} {c c' : Config ι E R α σ} {m : Move ι Q E R α H}

/-- A property of program trees that holds of the program of every request, and passes from a tree
to the branch of every answer, holds of all that is left of the running programs. -/
theorem Machine.Step.threads {T : ι → Prog E R α → Prop} (code : ∀ q, T (M.slot q) (M.code q))
    (branch : ∀ {i e k r}, T i (.call e k) → T i (k r)) (step : M.Step c m c')
    (inv : ∀ i p, c.threads i = some p → T i p) : ∀ i p, c'.threads i = some p → T i p := by
  intro j p running
  cases step with
  | @start q idle may =>
      by_cases here : j = M.slot q
      · subst here
        rw [Config.set_threads_self] at running
        cases running
        exact code q
      · rw [Config.set_threads_of_ne here] at running
        exact inv j p running
  | @call i e k r head may answer =>
      by_cases here : j = i
      · subst here
        rw [Config.set_threads_self] at running
        cases running
        exact branch (inv j _ head)
      · rw [Config.set_threads_of_ne here] at running
        exact inv j p running
  | @finish i a head may =>
      by_cases here : j = i
      · subst here
        rw [Config.set_threads_self] at running
        cases running
      · rw [Config.set_threads_of_ne here] at running
        exact inv j p running
  | device => exact inv j p running

end Threads

/-! ## One program by itself -/

section Alone

variable {M : Machine ι Q E R α σ H} {c₀ c : Config ι E R α σ} {i : ι} {p : Prog E R α} {a : α}
  {s s' : σ} {past : List (Config ι E R α σ × Move ι Q E R α H)}

/-- What the machine lets a call of a slot do. -/
def Machine.kernel (M : Machine ι Q E R α σ H) (i : ι) : Kernel E R σ :=
  fun e s r s' => M.returns e s r ∧ s' = M.effect i e s r

theorem Config.set_set {p p' : Option (Prog E R α)} : (c.set s i p).set s' i p' = c.set s' i p' := by
  unfold Config.set
  rw [Function.update_idem]

/-- A program that can run undisturbed does so in a run of the machine. -/
theorem Machine.run_of_exec (run : Run M.Step c₀ past (c.set s i (some p)))
    (may : ∀ busy, M.mayRun busy i) (exec : p.Exec (M.kernel i) s a s') :
    ∃ past', Run M.Step c₀ past' (c.set s' i (some (.ret a))) := by
  induction p generalizing s past with
  | ret b =>
      obtain ⟨rfl, rfl⟩ := exec
      exact ⟨past, run⟩
  | call e k ih =>
      obtain ⟨r, s₁, ⟨answer, rfl⟩, rest⟩ := exec
      have longer := run.snoc (.call Config.set_threads_self (may _) answer)
      rw [Config.set_set] at longer
      exact ih r longer rest

end Alone

/-! ## Following a schedule -/

section Play

variable (M : Machine ι Q E R α σ H) [DecidableEq E] [DecidableEq α]
  [∀ busy q s, Decidable (M.mayStart busy q s)] [∀ busy i, Decidable (M.mayRun busy i)]
  [∀ e s r, Decidable (M.returns e s r)]

/-- The configuration a move leads to, if it can be made. -/
def Machine.apply (c : Config ι E R α σ) : Move ι Q E R α H → Option (Config ι E R α σ)
  | .start q =>
      if c.busy (M.slot q) = false ∧ M.mayStart c.busy q c.state then
        some (c.set (M.begun q c.state) (M.slot q) (some (M.code q)))
      else none
  | .call i e r =>
      match c.threads i with
      | some (.call e' k) =>
          if same : e = e' then
            if M.mayRun c.busy i ∧ M.returns e c.state r then
              some (c.set (M.effect i e c.state r) i (some (k (same ▸ r))))
            else none
          else none
      | _ => none
  | .finish i a =>
      match c.threads i with
      | some (.ret a') =>
          if a = a' ∧ M.mayRun c.busy i then some (c.set (M.finished i a c.state) i none) else none
      | _ => none
  | .device h => some ⟨M.device h c.state, c.threads⟩

/-- The configuration a schedule leads to, as long as every step of it meets `ok`. -/
def Machine.play (ok : Config ι E R α σ → Move ι Q E R α H → Prop) [∀ c m, Decidable (ok c m)] :
    List (Move ι Q E R α H) → Config ι E R α σ → Option (Config ι E R α σ)
  | [], c => some c
  | m :: moves, c => if ok c m then (M.apply c m).bind (play ok moves) else none

variable {M} {c c' : Config ι E R α σ} {m : Move ι Q E R α H} {moves : List (Move ι Q E R α H)}
  {ok : Config ι E R α σ → Move ι Q E R α H → Prop} [∀ c m, Decidable (ok c m)]

/-- A move that can be made is a step. -/
theorem Machine.step_of_apply (applied : M.apply c m = some c') : M.Step c m c' := by
  cases m with
  | start q =>
      simp only [Machine.apply] at applied
      split at applied
      · rename_i may
        cases applied
        exact .start (Option.isSome_eq_false_iff.mp may.1 |> Option.isNone_iff_eq_none.mp) may.2
      · cases applied
  | call i e r =>
      simp only [Machine.apply] at applied
      split at applied
      · rename_i e' k head
        split at applied
        · rename_i same
          subst same
          split at applied
          · rename_i may
            cases applied
            exact .call head may.1 may.2
          · cases applied
        · cases applied
      · cases applied
  | finish i a =>
      simp only [Machine.apply] at applied
      split at applied
      · rename_i a' head
        split at applied
        · rename_i may
          obtain ⟨rfl, may⟩ := may
          cases applied
          exact .finish head may
        · cases applied
      · cases applied
  | device h =>
      cases applied
      exact .device

/-- A schedule that can be followed continues a run. -/
theorem Machine.run_append_of_play {c₀ : Config ι E R α σ}
    {past : List (Config ι E R α σ × Move ι Q E R α H)} (run : Run M.Step c₀ past c)
    (steps : AllSteps ok past) (played : M.play ok moves c = some c') :
    ∃ past', Run M.Step c₀ past' c' ∧ AllSteps ok past' := by
  induction moves generalizing past c with
  | nil =>
      cases played
      exact ⟨past, run, steps⟩
  | cons m moves ih =>
      rw [Machine.play] at played
      split at played
      · rename_i here
        obtain ⟨c₁, applied, played⟩ := Option.bind_eq_some_iff.mp played
        have longer := run.snoc (Machine.step_of_apply applied)
        exact ih longer (allSteps_snoc.mpr ⟨steps, here⟩) played
      · cases played

/-- A schedule that can be followed from `c`, and whose last configuration passes a check, is a run
to such a configuration. -/
theorem Machine.run_of_play (ok : Config ι E R α σ → Move ι Q E R α H → Prop)
    [∀ c m, Decidable (ok c m)] (moves : List (Move ι Q E R α H)) (c : Config ι E R α σ)
    (check : Config ι E R α σ → Bool) (played : (M.play ok moves c).any check = true) :
    ∃ past c', Run M.Step c past c' ∧ AllSteps ok past ∧ check c' = true := by
  obtain ⟨c', reached, good⟩ := (Option.any_eq_true ..).mp played
  obtain ⟨past, run, steps⟩ := Machine.run_append_of_play .nil allSteps_nil reached
  exact ⟨past, c', run, steps, good⟩

end Play

/-- The call a program makes next. -/
def Prog.head? : Prog E R α → Option E
  | .ret _ => none
  | .call e _ => some e

theorem Prog.exists_of_head? {p : Prog E R α} {e : E} (head : p.head? = some e) :
    ∃ k, p = .call e k := by
  cases p with
  | ret a => cases head
  | call e' k =>
      cases head
      exact ⟨k, rfl⟩

end Interaction
