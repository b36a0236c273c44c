import ScullDrivers.Interaction.Threads

/-!
# Locks

A lock guards a part `V` of the state that the threads of a `Machine` share.  `Guard` says which calls
take the lock, give it back and touch what it guards, what such a touch does, what holds of the guarded
part whenever the lock is free, and what holds at each call made under the lock.

`Prog.Keeps` is what one program owes by itself: it touches the guarded part under the lock only, finds
there what it expects as long as nobody else touches it, gives the lock back when the part is in order
again, and does not return with it.  `Guard.Governs` says that a machine works that way, and is checked
call by call.  Then in every interleaving the guarded part is touched by the holder of the lock only,
and each program finds what it would find if it ran alone (`Guard.Governs.run`).

The guarded part may contain a record of what was done so far: `view` reads it off the steps taken and
the state.

Nothing here mentions a driver.
-/

namespace Interaction

/-- What a call has to do with the lock: nothing, or it takes it, gives it back, or touches what it
guards.  A `barred` call is one that none of the programs makes. -/
inductive Access
  | free | acquire | release | guarded | barred
  deriving DecidableEq

/-- A lock and what it guards. -/
structure Guard (E : Type) (R : E → Type) (V : Type) where
  access : E → Access
  /-- What a guarded call does to what the lock guards. -/
  does : (e : E) → V → R e → V → Prop
  /-- What holds whenever the lock is free. -/
  free : V → Prop
  /-- What holds at a call made under the lock. -/
  here : E → V → Prop

variable {E : Type} {R : E → Type} {α β V : Type}

/-- Entered with what the lock guards, if it is held, the program keeps to the discipline of the lock
and returns without it. -/
def Prog.Keeps (G : Guard E R V) : Prog E R α → Option V → Prop
  | .ret _, held => held = none
  | .call e k, none =>
      match G.access e with
      | .free => ∀ r, (k r).Keeps G none
      | .acquire => ∀ r v, G.free v → (k r).Keeps G (some v)
      | .release | .guarded | .barred => False
  | .call e k, some v =>
      G.here e v ∧
        match G.access e with
        | .free => ∀ r, (k r).Keeps G (some v)
        | .release => G.free v ∧ ∀ r, (k r).Keeps G none
        | .guarded => ∀ r v', G.does e v r v' → (k r).Keeps G (some v')
        | .acquire | .barred => False

section Keeps

variable {G : Guard E R V} {e : E} {k : R e → Prog E R α} {v : V}

@[simp] theorem keeps_ret {a : α} {held : Option V} :
    (Prog.ret a : Prog E R α).Keeps G held ↔ held = none := Iff.rfl

theorem keeps_call_free (access : G.access e = .free) :
    (Prog.call e k).Keeps G none ↔ ∀ r, (k r).Keeps G none := by
  rw [Prog.Keeps, access]

theorem keeps_call_acquire (access : G.access e = .acquire) :
    (Prog.call e k).Keeps G none ↔ ∀ r v, G.free v → (k r).Keeps G (some v) := by
  rw [Prog.Keeps, access]

theorem keeps_held_free (access : G.access e = .free) :
    (Prog.call e k).Keeps G (some v) ↔ G.here e v ∧ ∀ r, (k r).Keeps G (some v) := by
  rw [Prog.Keeps, access]

theorem keeps_held_release (access : G.access e = .release) :
    (Prog.call e k).Keeps G (some v) ↔ G.here e v ∧ G.free v ∧ ∀ r, (k r).Keeps G none := by
  rw [Prog.Keeps, access]

theorem keeps_held_guarded (access : G.access e = .guarded) :
    (Prog.call e k).Keeps G (some v) ↔
      G.here e v ∧ ∀ r v', G.does e v r v' → (k r).Keeps G (some v') := by
  rw [Prog.Keeps, access]

/-- The calls of a program that does not hold the lock. -/
theorem Prog.Keeps.access_none (keeps : (Prog.call e k).Keeps G none) :
    G.access e = .free ∨ G.access e = .acquire := by
  rw [Prog.Keeps] at keeps
  split at keeps
  · exact .inl ‹_›
  · exact .inr ‹_›
  all_goals exact keeps.elim

/-- A program that holds the lock finds what it expects at its next call. -/
theorem Prog.Keeps.here (keeps : (Prog.call e k).Keeps G (some v)) : G.here e v := by
  rw [Prog.Keeps] at keeps
  exact keeps.1

/-- The calls of a program that holds the lock. -/
theorem Prog.Keeps.access_some (keeps : (Prog.call e k).Keeps G (some v)) :
    G.access e = .free ∨ G.access e = .release ∨ G.access e = .guarded := by
  rw [Prog.Keeps] at keeps
  obtain ⟨-, keeps⟩ := keeps
  split at keeps
  · exact .inl ‹_›
  · exact .inr (.inl ‹_›)
  · exact .inr (.inr ‹_›)
  all_goals exact keeps.elim

/-- Outside the lock, the second part is entered as the first one is. -/
theorem Prog.Keeps.bind {p : Prog E R α} {f : α → Prog E R β} {held : Option V}
    (first : p.Keeps G held) (second : ∀ a, (f a).Keeps G none) : (p >>= f).Keeps G held := by
  induction p generalizing held with
  | ret a =>
      cases first
      exact second a
  | call e k ih =>
      cases held with
      | none =>
          rcases first.access_none with access | access
          · rw [keeps_call_free access] at first
            exact (keeps_call_free access).mpr fun r => ih r (first r)
          · rw [keeps_call_acquire access] at first
            exact (keeps_call_acquire access).mpr fun r v free => ih r (first r v free)
      | some v =>
          rcases first.access_some with access | access | access
          · rw [keeps_held_free access] at first
            exact (keeps_held_free access).mpr ⟨first.1, fun r => ih r (first.2 r)⟩
          · rw [keeps_held_release access] at first
            exact (keeps_held_release access).mpr ⟨first.1, first.2.1, fun r => ih r (first.2.2 r)⟩
          · rw [keeps_held_guarded access] at first
            exact (keeps_held_guarded access).mpr
              ⟨first.1, fun r v' does => ih r (first.2 r v' does)⟩

/-- A program that has nothing to do with the lock. -/
theorem Prog.OnlyCalls.keeps {p : Prog E R α} (only : p.OnlyCalls fun e => G.access e = .free) :
    p.Keeps G none := by
  induction p with
  | ret a => rfl
  | call e k ih => exact (keeps_call_free only.1).mpr fun r => ih r (only.2 r)

end Keeps

/-! ## Machines that work under a lock -/

section Machine

variable {ι Q σ H : Type} [DecidableEq ι]

/-- The lock, held by the slot `owner`, governs the machine: the programs keep its discipline, a call
that takes it returns when it is free, and what it guards, which `view` reads off the steps taken and
the state, changes through guarded calls only. -/
structure Guard.Governs (G : Guard E R V) (M : Machine ι Q E R α σ H) (owner : σ → Option ι)
    (view : List (Config ι E R α σ × Move ι Q E R α H) → σ → V) : Prop where
  code : ∀ {busy q s}, M.mayStart busy q s → (M.code q).Keeps G none
  begun : ∀ past c q, owner (M.begun q c.state) = owner c.state ∧
    view (past ++ [(c, .start q)]) (M.begun q c.state) = view past c.state
  free : ∀ past c i {e r}, G.access e = .free → M.returns e c.state r →
    owner (M.effect i e c.state r) = owner c.state ∧
      view (past ++ [(c, .call i e r)]) (M.effect i e c.state r) = view past c.state
  acquire : ∀ past c i {e r}, G.access e = .acquire → M.returns e c.state r →
    owner c.state = none ∧ owner (M.effect i e c.state r) = some i ∧
      view (past ++ [(c, .call i e r)]) (M.effect i e c.state r) = view past c.state
  release : ∀ past c i {e r}, G.access e = .release → M.returns e c.state r →
    owner (M.effect i e c.state r) = none ∧
      view (past ++ [(c, .call i e r)]) (M.effect i e c.state r) = view past c.state
  guarded : ∀ past c i {e r}, G.access e = .guarded → M.returns e c.state r →
    owner (M.effect i e c.state r) = owner c.state ∧
      G.does e (view past c.state) r (view (past ++ [(c, .call i e r)]) (M.effect i e c.state r))
  finished : ∀ past c i a, owner (M.finished i a c.state) = owner c.state ∧
    view (past ++ [(c, .finish i a)]) (M.finished i a c.state) = view past c.state
  device : ∀ past c h, owner (M.device h c.state) = owner c.state ∧
    view (past ++ [(c, .device h)]) (M.device h c.state) = view past c.state

/-- Between any two steps: the holder of the lock runs a program that keeps the discipline from what
the lock guards now, all others one that keeps it without the lock, and when nobody holds it what it
guards is in order. -/
structure Guard.Kept (G : Guard E R V) (owner : σ → Option ι) (v : V) (c : Config ι E R α σ) :
    Prop where
  free : owner c.state = none → G.free v
  held : ∀ i, owner c.state = some i → c.threads i ≠ none
  threads : ∀ i p, c.threads i = some p →
    p.Keeps G (if owner c.state = some i then some v else none)

variable {G : Guard E R V} {M : Machine ι Q E R α σ H} {owner : σ → Option ι}
  {view : List (Config ι E R α σ × Move ι Q E R α H) → σ → V} {v v' : V}
  {c₀ c c' : Config ι E R α σ} {m : Move ι Q E R α H} {i : ι} {e : E} {k : R e → Prog E R α}
  {r : R e} {past : List (Config ι E R α σ × Move ι Q E R α H)}

/-- A move that neither touches the lock nor what it guards, of a slot that does not hold it. -/
theorem Guard.Kept.of_outside {s : σ} {p : Option (Prog E R α)} (kept : G.Kept owner v c)
    (apart : owner c.state ≠ some i) (same : owner s = owner c.state)
    (keeps : ∀ p', p = some p' → p'.Keeps G none) : G.Kept owner v (c.set s i p) := by
  refine ⟨fun free => kept.free (same.symm.trans free), fun j holds => ?_, fun j p' running => ?_⟩
  · have holds' : owner c.state = some j := same.symm.trans holds
    have ne : j ≠ i := by
      intro eq
      exact apart (eq ▸ holds')
    rw [Config.set_threads_of_ne ne]
    exact kept.held j holds'
  · rw [Config.set_state, same]
    by_cases here : j = i
    · subst here
      rw [Config.set_threads_self] at running
      rw [if_neg apart]
      exact keeps p' running
    · rw [Config.set_threads_of_ne here] at running
      exact kept.threads j p' running

/-- A call of the slot that takes the lock, or goes on under it. -/
theorem Guard.Kept.of_holder {s : σ} {p : Prog E R α} (kept : G.Kept owner v c)
    (before : ∀ j, owner c.state = some j → j = i) (after : owner s = some i)
    (keeps : p.Keeps G (some v')) : G.Kept owner v' (c.set s i (some p)) := by
  refine ⟨fun free => ?_, fun j holds => ?_, fun j p' running => ?_⟩
  · cases after.symm.trans free
  · cases after.symm.trans holds
    rw [Config.set_threads_self]
    exact Option.some_ne_none p
  · rw [Config.set_state, after]
    by_cases here : j = i
    · subst here
      rw [Config.set_threads_self] at running
      cases running
      rwa [if_pos rfl]
    · rw [Config.set_threads_of_ne here] at running
      have outside := kept.threads j p' running
      rw [if_neg fun holds => here (before j holds)] at outside
      rwa [if_neg fun same => here (Option.some.inj same).symm]

/-- A call that gives the lock back. -/
theorem Guard.Kept.of_release {s : σ} {p : Prog E R α} (kept : G.Kept owner v c)
    (before : owner c.state = some i) (after : owner s = none) (free : G.free v)
    (keeps : p.Keeps G none) : G.Kept owner v (c.set s i (some p)) := by
  refine ⟨fun _ => free, fun j holds => ?_, fun j p' running => ?_⟩
  · cases after.symm.trans holds
  · rw [Config.set_state, after, if_neg (fun same => nomatch same)]
    by_cases here : j = i
    · subst here
      rw [Config.set_threads_self] at running
      cases running
      exact keeps
    · rw [Config.set_threads_of_ne here] at running
      have outside := kept.threads j p' running
      rwa [if_neg fun holds => here (Option.some.inj (before.symm.trans holds)).symm] at outside

/-- One call of a machine under a lock. -/
theorem Guard.Kept.call (governs : G.Governs M owner view) (kept : G.Kept owner (view past c.state) c)
    (head : c.threads i = some (.call e k)) (answer : M.returns e c.state r) :
    G.Kept owner (view (past ++ [(c, .call i e r)]) (M.effect i e c.state r))
      (c.set (M.effect i e c.state r) i (some (k r))) := by
  have keeps := kept.threads i _ head
  by_cases holds : owner c.state = some i
  · rw [if_pos holds] at keeps
    have before : ∀ j, owner c.state = some j → j = i := fun j same =>
      (Option.some.inj (holds.symm.trans same)).symm
    rcases keeps.access_some with access | access | access
    · obtain ⟨same, still⟩ := governs.free past c i access answer
      rw [still]
      exact kept.of_holder before (same.trans holds) (((keeps_held_free access).mp keeps).2 r)
    · obtain ⟨after, still⟩ := governs.release past c i access answer
      obtain ⟨-, free, rest⟩ := (keeps_held_release access).mp keeps
      rw [still]
      exact kept.of_release holds after free (rest r)
    · obtain ⟨same, does⟩ := governs.guarded past c i access answer
      exact kept.of_holder before (same.trans holds)
        (((keeps_held_guarded access).mp keeps).2 r _ does)
  · rw [if_neg holds] at keeps
    rcases keeps.access_none with access | access
    · obtain ⟨same, still⟩ := governs.free past c i access answer
      rw [still]
      refine kept.of_outside holds same fun p' running => ?_
      cases running
      exact (keeps_call_free access).mp keeps r
    · obtain ⟨none, after, still⟩ := governs.acquire past c i access answer
      rw [still]
      refine kept.of_holder (fun j holds' => ?_) after
        ((keeps_call_acquire access).mp keeps r _ (kept.free none))
      cases none.symm.trans holds'

/-- **The lock rule, one step.** -/
theorem Guard.Kept.step (governs : G.Governs M owner view) (kept : G.Kept owner (view past c.state) c)
    (step : M.Step c m c') : G.Kept owner (view (past ++ [(c, m)]) c'.state) c' := by
  cases step with
  | @start q idle may =>
      obtain ⟨same, still⟩ := governs.begun past c q
      rw [Config.set_state, still]
      refine kept.of_outside (fun holds => kept.held _ holds idle) same fun p' running => ?_
      cases running
      exact governs.code may
  | call head may answer => exact kept.call governs head answer
  | @finish i a head may =>
      obtain ⟨same, still⟩ := governs.finished past c i a
      have keeps := kept.threads i _ head
      rw [Config.set_state, still]
      refine kept.of_outside (fun holds => ?_) same fun p' running => nomatch running
      rw [if_pos holds] at keeps
      cases keeps
  | @device h =>
      obtain ⟨same, still⟩ := governs.device past c h
      show G.Kept owner (view _ (M.device h c.state)) _
      rw [still]
      refine ⟨fun free => kept.free (same.symm.trans free), fun i holds => ?_, ?_⟩
      · exact kept.held i (same.symm.trans holds)
      · rw [same]
        exact kept.threads

/-- **The lock rule.**  A run that starts with nothing running, the lock free and what it guards in
order keeps the discipline of the lock throughout. -/
theorem Guard.Governs.run (governs : G.Governs M owner view) (run : Run M.Step c₀ past c)
    (idle : ∀ i, c₀.threads i = none) (unlocked : owner c₀.state = none)
    (free : G.free (view [] c₀.state)) : G.Kept owner (view past c.state) c := by
  induction run with
  | nil =>
      refine ⟨fun _ => free, fun i holds => ?_, fun i p running => ?_⟩
      · cases unlocked.symm.trans holds
      · cases (idle i).symm.trans running
  | snoc run step ih => exact ih.step governs step

/-- What the lock guards is touched by its holder only. -/
theorem Guard.Kept.owner_eq (kept : G.Kept owner v c) (head : c.threads i = some (.call e k))
    (access : G.access e = .guarded) : owner c.state = some i := by
  by_contra apart
  have keeps := kept.threads i _ head
  rw [if_neg apart] at keeps
  rcases keeps.access_none with other | other
  · cases access.symm.trans other
  · cases access.symm.trans other

/-- The holder of the lock finds what it expects at its next call. -/
theorem Guard.Kept.here (kept : G.Kept owner v c) (holds : owner c.state = some i) :
    ∃ e k, c.threads i = some (.call e k) ∧ G.here e v := by
  obtain ⟨p, running⟩ := Option.ne_none_iff_exists'.mp (kept.held i holds)
  have keeps := kept.threads i p running
  rw [if_pos holds] at keeps
  cases p with
  | ret a => cases keeps
  | call e k => exact ⟨e, k, running, keeps.here⟩

end Machine

end Interaction
