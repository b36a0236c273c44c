import ScullDrivers.Interaction.Program
import ScullDrivers.Resources.Binding

/-!
# Modules that register a driver

The loader runs the init of a module that is not loaded, and discards the module if that returns a
negative number.  To unload it, it runs its exit.  The bus calls the probes and removes of a driver while
it is registered; unregistering returns when no device is bound any more, and while the module is
leaving the bus only removes.  `Driver.HostStep` is one move of the loader or the bus, so every order of
loads, probes, removes and unloads is a run of it.

What a driver keeps over the calls of the bus it keeps over loads and unloads, and a module that is not
loaded then holds nothing (`Driver.Exacting.hosted`, `Driver.Leaving.hosted_exact`).  Where devices are
bound one at a time, globals that a probe leaves to its device are its own until it is removed
(`Driver.finds_own`).

Nothing here mentions a driver of its own.
-/

namespace Resources

open Interaction

/-- What a module asks of the bus. -/
inductive BusCall
  | register
  | unregister
  deriving DecidableEq

/-- Registering returns a number, zero if it was successful. -/
abbrev BusCall.Resp : BusCall → Type
  | .register => Int
  | .unregister => Unit

/-- The init and the exit of a module, and its globals as it is loaded. -/
structure Module (γ : Type) where
  init : Prog BusCall BusCall.Resp Int
  exit : Prog BusCall BusCall.Resp Unit
  fresh : γ → γ

/-- A module that registers its driver, and unregisters it again, and nothing else. -/
structure Module.Plain {γ : Type} (M : Module γ) : Prop where
  init : M.init = perform BusCall.register
  exit : M.exit = perform BusCall.unregister

/-- Whether a module is loaded; it is leaving while its exit runs. -/
inductive Phase
  | absent
  | loaded
  | leaving
  deriving DecidableEq

/-- A module, whether its driver is registered, and the devices bound to it. -/
structure Hosted (δ γ κ ρ : Type) where
  phase : Phase
  registered : Bool
  binding : Binding δ γ κ ρ

/-- What the loader and the bus do. -/
inductive HostRequest (δ A : Type)
  | load
  | bus (q : Request δ A)
  | unload
  | unloaded

variable {δ γ κ A ρ : Type} [DecidableEq δ] [DecidableEq ρ]

/-- No module. -/
def Hosted.start (g : γ) (own : δ → κ) : Hosted δ γ κ ρ := ⟨.absent, false, .start g own⟩

/-- The bus.  Unregistering a driver returns when no device is bound to it. -/
def host : Kernel BusCall BusCall.Resp (Hosted δ γ κ ρ)
  | .register, h, err, h' => h' = { h with registered := h.registered || decide ((err : Int) = 0) }
  | .unregister, h, _, h' => h.binding.bound = ∅ ∧ h' = { h with registered := false }

/-- The module as it is loaded. -/
def Hosted.loading (h : Hosted δ γ κ ρ) (M : Module γ) : Hosted δ γ κ ρ :=
  { h with binding := { h.binding with globals := M.fresh h.binding.globals } }

/-- One move of the loader or the bus. -/
inductive Driver.HostStep (D : Driver δ γ κ A ρ) (M : Module γ) :
    Hosted δ γ κ ρ → HostRequest δ A → Hosted δ γ κ ρ → Prop
  | load {h h' : Hosted δ γ κ ρ} {ret : Int} :
    h.phase = .absent → M.init.Exec host (h.loading M) ret h' →
    D.HostStep M h .load { h' with phase := if ret < 0 then .absent else .loaded }
  | bus {h : Hosted δ γ κ ρ} {q : Request δ A} {b : Binding δ γ κ ρ} :
    h.registered = true → (h.phase = .leaving → ∃ d, q = .remove d) → D.Step h.binding q b →
    D.HostStep M h (.bus q) { h with binding := b }
  | unload {h : Hosted δ γ κ ρ} :
    h.phase = .loaded → D.HostStep M h .unload { h with phase := .leaving }
  | unloaded {h h' : Hosted δ γ κ ρ} :
    h.phase = .leaving → M.exit.Exec host h () h' →
    D.HostStep M h .unloaded { h' with phase := .absent }

/-- The driver is registered only while the module is there, and devices are bound only while it is
registered. -/
structure Hosted.Attached (h : Hosted δ γ κ ρ) : Prop where
  there : h.registered = true → h.phase ≠ .absent
  bound : h.binding.bound ≠ ∅ → h.registered = true

section

variable {D : Driver δ γ κ A ρ} {M : Module γ} {h h' : Hosted δ γ κ ρ} {q : HostRequest δ A}
  {full : δ → κ → Multiset ρ} {uses : ρ → ρ → Prop} {g : γ} {own : δ → κ}
  {past : List (Hosted δ γ κ ρ × HostRequest δ A)}

omit [DecidableEq δ] [DecidableEq ρ] in
/-- A module that is not there has no device. -/
theorem Hosted.Attached.none_bound (attached : h.Attached) (absent : h.phase = .absent) :
    h.binding.bound = ∅ := by
  by_contra some
  exact attached.there (attached.bound some) absent

omit [DecidableEq ρ] in
/-- What a move of the loader does, where the module does nothing but register its driver: the log, the
bound devices and what is kept for them stay as they are. -/
theorem Driver.HostStep.cases_plain (step : D.HostStep M h q h') (plain : M.Plain) :
    (∃ r, q = .bus r ∧ h.registered = true ∧ (h.phase = .leaving → ∃ d, r = .remove d) ∧
      D.Step h.binding r h'.binding ∧ h'.phase = h.phase ∧ h'.registered = h.registered) ∨
    (h'.binding.log = h.binding.log ∧ h'.binding.bound = h.binding.bound ∧
      h'.binding.own = h.binding.own ∧
      (q = .load ∧ h.phase = .absent ∧
          (∃ err : Int, h'.registered = (h.registered || decide (err = 0)) ∧
            h'.phase = if err < 0 then .absent else .loaded) ∨
        q = .unload ∧ h.phase = .loaded ∧ h'.binding.globals = h.binding.globals ∧
          h'.phase = .leaving ∧ h'.registered = h.registered ∨
        q = .unloaded ∧ h.phase = .leaving ∧ h.binding.bound = ∅ ∧ h'.phase = .absent ∧
          h'.registered = false)) := by
  cases step with
  | @load h' ret absent exec =>
      rw [plain.init] at exec
      obtain ⟨err, h₁, registering, rfl, rfl⟩ := exec
      cases registering
      exact .inr ⟨rfl, rfl, rfl, .inl ⟨rfl, absent, ret, rfl, rfl⟩⟩
  | @bus r b registered leaving step =>
      exact .inl ⟨r, rfl, registered, leaving, step, rfl, rfl⟩
  | unload loaded => exact .inr ⟨rfl, rfl, rfl, .inr (.inl ⟨rfl, loaded, rfl, rfl, rfl⟩)⟩
  | unloaded leaving exec =>
      rw [plain.exit] at exec
      obtain ⟨-, h₁, ⟨none, rfl⟩, -, rfl⟩ := exec
      exact .inr ⟨rfl, rfl, rfl, .inr (.inr ⟨rfl, leaving, none, rfl, rfl⟩)⟩

omit [DecidableEq ρ] in
/-- One move keeps what is bound attached. -/
theorem Hosted.Attached.step (attached : h.Attached) (plain : M.Plain) (step : D.HostStep M h q h') :
    h'.Attached := by
  obtain ⟨there, bound⟩ := attached
  rcases step.cases_plain plain with ⟨r, -, registered, -, -, phase, same⟩ | ⟨-, devices, -, moved⟩
  · refine ⟨fun _ => ?_, fun _ => same.trans registered⟩
    rw [phase]
    exact there registered
  · rcases moved with ⟨-, absent, err, registered, phase⟩ | ⟨-, loaded, -, phase, registered⟩ |
      ⟨-, leaving, none, -, registered⟩
    · have before : h.registered = false := by
        by_contra already
        exact there (Bool.not_eq_false _ ▸ already) absent
      constructor
      · intro now
        rw [registered, before, Bool.false_or, decide_eq_true_eq] at now
        rw [phase, now]
        exact fun eq => nomatch eq
      · intro some
        rw [devices] at some
        exact absurd (before.symm.trans (bound some)) Bool.false_ne_true
    · refine ⟨fun _ => ?_, fun some => ?_⟩
      · rw [phase]
        exact fun eq => nomatch eq
      · rw [devices] at some
        exact registered.trans (bound some)
    · refine ⟨fun now => ?_, fun some => ?_⟩
      · exact absurd (registered.symm.trans now) Bool.false_ne_true
      · exact absurd (devices.trans none) some

omit [DecidableEq δ] [DecidableEq ρ] in
theorem attached_start : (Hosted.start g own : Hosted δ γ κ ρ).Attached :=
  ⟨fun registered => absurd registered Bool.false_ne_true, fun some => absurd rfl some⟩

omit [DecidableEq ρ] in
/-- What is bound is attached throughout. -/
theorem Hosted.Attached.always {h₀ : Hosted δ γ κ ρ} (attached : h₀.Attached) (plain : M.Plain)
    (run : Run (D.HostStep M) h₀ past h) : Always Hosted.Attached past h := by
  have steps : AllSteps (fun _ _ => True) past := fun _ _ => trivial
  exact run.always attached (fun step _ attached => attached.step plain step) steps

/-! ## Unloading -/

omit [DecidableEq ρ] in
/-- A module that is leaving gets rid of its devices, and is gone. -/
theorem Driver.exists_gone {h₀ : Hosted δ γ κ ρ} (plain : M.Plain)
    (run : Run (D.HostStep M) h₀ past h) (attached : h.Attached) (leaving : h.phase = .leaving) :
    ∃ past' h', Run (D.HostStep M) h₀ past' h' ∧ h'.phase = .absent := by
  induction left : h.binding.bound.card generalizing past h with
  | zero =>
      have none := Finset.card_eq_zero.mp left
      have exec : M.exit.Exec host h () { h with registered := false } := by
        rw [plain.exit]
        exact ⟨(), _, ⟨none, rfl⟩, rfl, rfl⟩
      exact ⟨_, _, run.snoc (.unloaded leaving exec), rfl⟩
  | succ n ih =>
      have some : h.binding.bound ≠ ∅ := by
        intro none
        rw [none] at left
        cases left
      obtain ⟨d, mem⟩ := Finset.nonempty_iff_ne_empty.mpr some
      have removed : D.HostStep M h (.bus (.remove d)) _ :=
        .bus (attached.bound some) (fun _ => ⟨d, rfl⟩) (.remove mem rfl)
      refine ih (run.snoc removed) (attached.step plain removed) leaving ?_
      exact (Finset.card_erase_of_mem mem).trans (by rw [left]; rfl)

omit [DecidableEq ρ] in
/-- A module can always be unloaded. -/
theorem Driver.exists_unloaded (D : Driver δ γ κ A ρ) (plain : M.Plain) (attached : h.Attached) :
    ∃ past h', Run (D.HostStep M) h past h' ∧ h'.phase = .absent := by
  cases phase : h.phase with
  | absent => exact ⟨[], h, .nil, phase⟩
  | leaving => exact Driver.exists_gone plain .nil attached phase
  | loaded =>
      have unload : D.HostStep M h .unload { h with phase := .leaving } := .unload phase
      exact Driver.exists_gone plain (Run.nil.snoc unload) (attached.step plain unload) rfl

/-! ## Books -/

omit [DecidableEq δ] in
/-- Exactness does not depend on the globals. -/
theorem Exact.congr {b b' : Binding δ γ κ ρ} (log : b'.log = b.log) (bound : b'.bound = b.bound)
    (own : b'.own = b.own) : Exact full b' ↔ Exact full b := by
  unfold Exact
  rw [log, bound, own]

/-- Devices are bound only while the module is there, what is held is what they have, and at every moment
whatever was in use had what it needs. -/
structure Hosted.Books (full : δ → κ → Multiset ρ) (uses : ρ → ρ → Prop) (h : Hosted δ γ κ ρ) :
    Prop where
  attached : h.Attached
  exact : Exact full h.binding
  stays : StaysBacked uses h.binding.log 0

omit [DecidableEq δ] in
/-- A module that is not there, and whose books are exact, holds nothing. -/
theorem Hosted.Attached.netZero (attached : h.Attached) (exact : Exact full h.binding)
    (absent : h.phase = .absent) : NetZero h.binding.log := by
  unfold Exact at exact
  rwa [attached.none_bound absent, Finset.sum_empty] at exact

omit [DecidableEq δ] in
theorem books_start : (Hosted.start g own : Hosted δ γ κ ρ).Books full uses :=
  ⟨attached_start, exact_start, backed_zero⟩

/-- **Books kept over loads and unloads.**  A module that only registers an exacting driver keeps the
books in every run of loads, probes, removes and unloads. -/
theorem Driver.Exacting.hosted {h₀ : Hosted δ γ κ ρ} (exacting : D.Exacting full uses) (plain : M.Plain)
    (books : h₀.Books full uses) (run : Run (D.HostStep M) h₀ past h) :
    Always (Hosted.Books full uses) past h := by
  have steps : AllSteps (fun _ _ => True) past := fun _ _ => trivial
  refine run.always books (fun step _ books => ?_) steps
  obtain ⟨attached, exact, stays⟩ := books
  have attached' := attached.step plain step
  rcases step.cases_plain plain with ⟨r, -, -, -, inner, -, -⟩ | ⟨log, bound, own, -⟩
  · obtain ⟨exact', stays'⟩ := exacting.step inner ⟨exact, stays⟩
    exact ⟨attached', exact', stays'⟩
  · exact ⟨attached', (Exact.congr log bound own).mpr exact, log ▸ stays⟩

/-- It can always be unloaded, and everything it ever obtained is given back then. -/
theorem Driver.Exacting.unloads (exacting : D.Exacting full uses) (plain : M.Plain)
    (books : h.Books full uses) :
    ∃ past h', Run (D.HostStep M) h past h' ∧ h'.phase = .absent ∧ NetZero h'.binding.log := by
  obtain ⟨past, h', run, absent⟩ := D.exists_unloaded plain books.attached
  obtain ⟨attached, exact, -⟩ := (exacting.hosted plain books run).2
  exact ⟨past, h', run, absent, attached.netZero exact absent⟩

/-- What a condition on the calls of the bus says about the moves of the loader. -/
def OnBus (P : Binding δ γ κ ρ → Request δ A → Prop) (h : Hosted δ γ κ ρ) : HostRequest δ A → Prop
  | .bus q => P h.binding q
  | .load | .unload | .unloaded => True

omit [DecidableEq δ] [DecidableEq ρ] in
theorem onBus_congr {P Q : Binding δ γ κ ρ → Request δ A → Prop} (same : ∀ b q, P b q ↔ Q b q) :
    OnBus P h q ↔ OnBus Q h q := by
  cases q with
  | bus q => exact same h.binding q
  | load | unload | unloaded => exact Iff.rfl

omit [DecidableEq δ] [DecidableEq ρ] in
theorem onBus_and {P Q : Binding δ γ κ ρ → Request δ A → Prop} :
    OnBus (fun b q => P b q ∧ Q b q) h q ↔ OnBus P h q ∧ OnBus Q h q := by
  cases q with
  | bus q => exact Iff.rfl
  | load | unload | unloaded => exact (and_self_iff ..).symm

section

variable {gone : δ → κ → γ → List ρ} {left : δ → A → γ → Multiset ρ}

/-- **Exactness over loads and unloads.**  A module that only registers its driver holds exactly what the
bound devices have, throughout a run, when and only when every probe and remove settles what it
obtained. -/
theorem Driver.Leaving.hosted_exact (leaves : D.Leaving full gone left) (plain : M.Plain)
    (run : Run (D.HostStep M) (.start g own) past h) :
    Always (fun h => Exact full h.binding) past h ↔
      AllSteps (OnBus (Settles D full gone left)) past := by
  refine run.always_iff_allSteps exact_start id ?_ ?_
  · intro h q h' step ok exact
    rcases step.cases_plain plain with ⟨r, rfl, -, -, inner, -, -⟩ | ⟨log, bound, own, -⟩
    · exact (leaves.exact_step_iff inner exact).mpr ok
    · exact (Exact.congr log bound own).mpr exact
  · intro h q h' step exact exact'
    rcases step.cases_plain plain with ⟨r, rfl, -, -, inner, -, -⟩ | ⟨-, -, -, moved⟩
    · exact (leaves.exact_step_iff inner exact).mp exact'
    · rcases moved with ⟨rfl, -⟩ | ⟨rfl, -⟩ | ⟨rfl, -⟩
      all_goals trivial

/-- For a careful driver that is so when and only when each remove gives back what its own device has. -/
theorem Driver.Careful.hosted_exact (careful : D.Careful full gone) (plain : M.Plain)
    (run : Run (D.HostStep M) (.start g own) past h) :
    Always (fun h => Exact full h.binding) past h ↔ AllSteps (OnBus (ReleasesOwn full gone)) past := by
  rw [careful.leaving.hosted_exact plain run]
  refine forall₂_congr fun x _ => onBus_congr fun b q => ?_
  cases q with
  | probe d a => exact iff_of_true (fun _ => rfl) trivial
  | remove d => exact Iff.rfl

end

end

/-! ## One device at a time -/

/-- A device is probed only when none is bound. -/
def ProbedAlone (b : Binding δ γ κ ρ) : Request δ A → Prop
  | .probe _ _ => b.bound = ∅
  | .remove _ => True

/-- A remove finds the globals to be its own device's. -/
def FindsOwn (owns : δ → κ → γ → Prop) (b : Binding δ γ κ ρ) : Request δ A → Prop
  | .probe _ _ => True
  | .remove d => owns d (b.own d) b.globals

/-- At most one device is bound, and the globals are its own. -/
structure Single (owns : δ → κ → γ → Prop) (b : Binding δ γ κ ρ) : Prop where
  only : ∀ d ∈ b.bound, b.bound = {d}
  own : ∀ d ∈ b.bound, owns d (b.own d) b.globals

section

variable {D : Driver δ γ κ A ρ} {M : Module γ} {b b' : Binding δ γ κ ρ} {owns : δ → κ → γ → Prop}
  {g : γ} {own : δ → κ}

omit [DecidableEq δ] [DecidableEq ρ] in
theorem Single.of_none (none : b.bound = ∅) : Single owns b := by
  constructor
  · intro d mem
    rw [none] at mem
    exact absurd mem (Finset.notMem_empty d)
  · intro d mem
    rw [none] at mem
    exact absurd mem (Finset.notMem_empty d)

omit [DecidableEq ρ] in
/-- Where a probe that succeeds leaves the globals to its device, they stay its own until it is
removed. -/
theorem Single.step {q : Request δ A} (single : Single owns b) (step : D.Step b q b')
    (ensures : ∀ {d a g k g' es}, D.probe d a g = (some k, g', es) → owns d k g')
    (alone : ProbedAlone b q) : Single owns b' := by
  cases step with
  | @bind d a k g es out ran =>
      have none : b.bound = ∅ := alone
      constructor
      · intro e mem
        rw [none, insert_empty_eq, Finset.mem_singleton] at mem
        rw [none, insert_empty_eq, mem]
      · intro e mem
        rw [none, insert_empty_eq, Finset.mem_singleton] at mem
        subst mem
        simp only [Function.update_self]
        exact ensures ran
  | refuse out ran => exact .of_none alone
  | @remove d g es mem ran =>
      apply Single.of_none
      rw [single.only d mem]
      exact Finset.erase_singleton d

omit [DecidableEq ρ] in
/-- Where every device is probed alone, each remove finds the globals to be its own device's. -/
theorem Driver.finds_own (owns : δ → κ → γ → Prop) (plain : M.Plain)
    (ensures : ∀ {d a g k g' es}, D.probe d a g = (some k, g', es) → owns d k g')
    {past : List (Hosted δ γ κ ρ × HostRequest δ A)} {h : Hosted δ γ κ ρ}
    (run : Run (D.HostStep M) (.start g own) past h) (alone : AllSteps (OnBus ProbedAlone) past) :
    AllSteps (OnBus (FindsOwn owns)) past := by
  refine run.allSteps (I := fun h => h.Attached ∧ Single owns h.binding)
    ⟨attached_start, .of_none rfl⟩ ?_ ?_ alone
  · intro h q h' step alone inv
    obtain ⟨attached, single⟩ := inv
    refine ⟨attached.step plain step, ?_⟩
    rcases step.cases_plain plain with ⟨r, rfl, -, -, inner, -, -⟩ | ⟨-, bound, kept, moved⟩
    · exact single.step inner ensures alone
    · rcases moved with ⟨-, absent, -⟩ | ⟨-, -, globals, -, -⟩ | ⟨-, -, none, -, -⟩
      · exact .of_none (bound.trans (attached.none_bound absent))
      · constructor
        · rw [bound]
          exact single.only
        · rw [bound, kept, globals]
          exact single.own
      · exact .of_none (bound.trans none)
  · intro h q h' step inv
    cases step with
    | @bus q b registered leaving inner =>
        cases inner with
        | bind out ran | refuse out ran => trivial
        | remove mem ran => exact inv.2.own _ mem
    | load | unload | unloaded => trivial

end

end Resources
