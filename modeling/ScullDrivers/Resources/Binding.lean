import Mathlib.Algebra.BigOperators.Group.Finset.Basic
import ScullDrivers.Interaction.Run
import ScullDrivers.Resources.Ledger

/-!
# Devices bound to a driver

A bus calls the probe of a driver for a device that is not bound to it, and the driver's remove for a
device that is.  Both work on globals the devices share, and leave events on one log.  `Exact` says
that what is held is what the bound devices have, and no more.  A driver whose probes are careful
(`Driver.Careful`) keeps it exactly as long as each remove gives back what its own device has
(`Driver.Careful.always_exact`), and where each call is orderly for itself the whole log is as well
(`Driver.Tidy.always_exact_orderly_iff`).  A driver whose removes give back what their device has
whatever happens, and whose calls touch nothing they do not hold, keeps the books throughout every run
(`Driver.Exacting.always`).  `Driver.LeavesNoTrace` is what a probe that fails owes the bound devices.

Nothing here mentions a driver of its own.
-/

namespace Resources

open Interaction

/-- The callbacks of a driver of devices `δ`, on globals `γ`. -/
structure Driver (δ γ κ A ρ : Type) where
  /-- What the probe of a device returns: what it keeps for the device, unless it fails, the globals
  and its events.  The answers of the surroundings are in `A`. -/
  probe : δ → A → γ → Option κ × γ × List (Event ρ)
  /-- The globals after the remove of a device for which that is kept, and its events. -/
  remove : δ → κ → γ → γ × List (Event ρ)

/-- The globals, the events so far, the bound devices, and what is kept for each of them. -/
structure Binding (δ γ κ ρ : Type) where
  globals : γ
  log : List (Event ρ)
  bound : Finset δ
  own : δ → κ

/-- What the bus asks of a driver. -/
inductive Request (δ A : Type)
  | probe (d : δ) (a : A)
  | remove (d : δ)

variable {δ γ κ A ρ : Type} [DecidableEq δ] [DecidableEq ρ]

/-- The driver as it is loaded. -/
def Binding.start (g : γ) (own : δ → κ) : Binding δ γ κ ρ := ⟨g, [], ∅, own⟩

/-- One request. -/
inductive Driver.Step (D : Driver δ γ κ A ρ) :
    Binding δ γ κ ρ → Request δ A → Binding δ γ κ ρ → Prop
  | bind {b : Binding δ γ κ ρ} {d : δ} {a : A} {k : κ} {g : γ} {es : List (Event ρ)} :
    d ∉ b.bound → D.probe d a b.globals = (some k, g, es) →
    D.Step b (.probe d a) ⟨g, b.log ++ es, insert d b.bound, Function.update b.own d k⟩
  | refuse {b : Binding δ γ κ ρ} {d : δ} {a : A} {g : γ} {es : List (Event ρ)} :
    d ∉ b.bound → D.probe d a b.globals = (none, g, es) →
    D.Step b (.probe d a) ⟨g, b.log ++ es, b.bound, b.own⟩
  | remove {b : Binding δ γ κ ρ} {d : δ} {g : γ} {es : List (Event ρ)} :
    d ∈ b.bound → D.remove d (b.own d) b.globals = (g, es) →
    D.Step b (.remove d) ⟨g, b.log ++ es, b.bound.erase d, b.own⟩

/-- What is held is what the bound devices have. -/
def Exact (full : δ → κ → Multiset ρ) (b : Binding δ γ κ ρ) : Prop :=
  replay b.log 0 = some (∑ d ∈ b.bound, full d (b.own d))

/-- A probe that fails gives back all it obtained, one that succeeds leaves the device all it should
have, and a remove gives back `gone` and does nothing else. -/
structure Driver.Careful (D : Driver δ γ κ A ρ) (full : δ → κ → Multiset ρ)
    (gone : δ → κ → γ → List ρ) : Prop where
  refuse : ∀ {d a g g' es}, D.probe d a g = (none, g', es) → NetZero es
  bind : ∀ {d a g k g' es}, D.probe d a g = (some k, g', es) → replay es 0 = some (full d k)
  remove : ∀ {d k g g' es}, D.remove d k g = (g', es) → es = (gone d k g).map .release

/-- A request that is a failed probe gives back all it obtained, and leaves bound devices the globals
they had. -/
def Driver.LeavesNoTrace (D : Driver δ γ κ A ρ) (b : Binding δ γ κ ρ) : Request δ A → Prop
  | .probe d a => (D.probe d a b.globals).1 = none →
      NetZero (D.probe d a b.globals).2.2 ∧ (b.bound.Nonempty → (D.probe d a b.globals).2.1 = b.globals)
  | .remove _ => True

/-- A remove gives back what its own device has. -/
def ReleasesOwn (full : δ → κ → Multiset ρ) (gone : δ → κ → γ → List ρ)
    (b : Binding δ γ κ ρ) : Request δ A → Prop
  | .probe _ _ => True
  | .remove d => ↑(gone d (b.own d) b.globals) = full d (b.own d)

section

variable {D : Driver δ γ κ A ρ} {full : δ → κ → Multiset ρ} {gone : δ → κ → γ → List ρ}
  {b b' : Binding δ γ κ ρ} {q : Request δ A} {g : γ} {own : δ → κ}
  {past : List (Binding δ γ κ ρ × Request δ A)}

omit [DecidableEq δ] in
theorem exact_start : Exact full (Binding.start g own : Binding δ γ κ ρ) := rfl

omit [DecidableEq ρ] in
/-- What is held when one more device is bound. -/
theorem sum_insert_update {ds : Finset δ} {d : δ} (out : d ∉ ds) (k : κ) :
    ∑ e ∈ insert d ds, full e (Function.update own d k e) = full d k + ∑ e ∈ ds, full e (own e) := by
  rw [Finset.sum_insert out, Function.update_self]
  congr 1
  refine Finset.sum_congr rfl fun e mem => ?_
  rw [Function.update_of_ne (ne_of_mem_of_not_mem mem out)]

/-- A request keeps what is held exact when, and only when, it is no remove or gives back what its own
device has. -/
theorem Driver.Careful.exact_step_iff (careful : D.Careful full gone) (step : D.Step b q b')
    (exact : Exact full b) : Exact full b' ↔ ReleasesOwn full gone b q := by
  unfold Exact at exact ⊢
  cases step with
  | @bind d a k g es out ran =>
      refine iff_of_true ?_ trivial
      rw [replay_append, exact, Option.bind_some, sum_insert_update out]
      have held := replay_frame (∑ e ∈ b.bound, full e (b.own e)) (careful.bind ran)
      rwa [zero_add] at held
  | @refuse d a g es out ran =>
      refine iff_of_true ?_ trivial
      rw [replay_append, exact, Option.bind_some]
      have held := replay_frame (∑ e ∈ b.bound, full e (b.own e)) (careful.refuse ran)
      rwa [zero_add] at held
  | @remove d g es mem ran =>
      rw [replay_append, exact, Option.bind_some, careful.remove ran,
        ← Finset.add_sum_erase _ _ mem]
      exact replay_releases_iff

/-- **Exactness over runs**: what is held is exact throughout a run when, and only when, each remove
gives back what its own device has. -/
theorem Driver.Careful.always_exact (careful : D.Careful full gone)
    (run : Run D.Step (.start g own) past b) :
    Always (Exact full) past b ↔ AllSteps (ReleasesOwn full gone) past := by
  refine run.always_iff_allSteps exact_start id ?_ ?_
  · intro _ _ _ step ok exact
    exact (careful.exact_step_iff step exact).mpr ok
  · intro _ _ _ step exact exact'
    exact (careful.exact_step_iff step exact).mp exact'

omit [DecidableEq δ] in
/-- Where the books are exact, nothing is held of a device that is not bound. -/
theorem Exact.not_held {owner : ρ → δ} (exact : Exact full b)
    (owned : ∀ {d k r}, r ∈ full d k → owner r = d) {r : ρ} (out : owner r ∉ b.bound)
    {held : Multiset ρ} (done : replay b.log 0 = some held) : r ∉ held := by
  intro mem
  have same : held = ∑ d ∈ b.bound, full d (b.own d) :=
    Option.some_injective _ (done.symm.trans exact)
  rw [same] at mem
  obtain ⟨d, bound, has⟩ := Multiset.mem_sum.mp mem
  rw [owned has] at out
  exact out bound

omit [DecidableEq δ] in
/-- What was obtained for a device that is not bound was given back as often. -/
theorem Exact.count_released {owner : ρ → δ} (exact : Exact full b)
    (owned : ∀ {d k r}, r ∈ full d k → owner r = d) {r : ρ} (out : owner r ∉ b.bound) :
    (released b.log).count r = (acquired b.log).count r := by
  have conserved := congrArg (Multiset.count r) (replay_conserves exact)
  have none := Multiset.count_eq_zero.mpr (exact.not_held owned out exact)
  rw [zero_add, Multiset.count_add, none, zero_add] at conserved
  exact conserved.symm

omit [DecidableEq ρ] in
/-- What every probe ensures of what it keeps for a device stays true of the bound devices. -/
theorem Driver.Step.bound {good : δ → κ → Prop}
    (ensures : ∀ {d a g k g' es}, D.probe d a g = (some k, g', es) → good d k)
    (step : D.Step b q b') (inv : ∀ d ∈ b.bound, good d (b.own d)) :
    ∀ d ∈ b'.bound, good d (b'.own d) := by
  intro e mem
  cases step with
  | @bind d a k g es out ran =>
      rcases Finset.mem_insert.mp mem with same | old
      · subst same
        simp only [Function.update_self]
        exact ensures ran
      · simp only [Function.update_of_ne (ne_of_mem_of_not_mem old out)]
        exact inv e old
  | refuse out ran => exact inv e mem
  | remove bound ran => exact inv e (Finset.mem_of_mem_erase mem)

end

/-! ## Probes that fail and leave things held -/

/-- A probe that fails leaves `left` held, one that succeeds leaves the device all it should have, and a
remove gives back `gone` and does nothing else. -/
structure Driver.Leaving (D : Driver δ γ κ A ρ) (full : δ → κ → Multiset ρ) (gone : δ → κ → γ → List ρ)
    (left : δ → A → γ → Multiset ρ) : Prop where
  refuse : ∀ {d a g g' es}, D.probe d a g = (none, g', es) → replay es 0 = some (left d a g)
  bind : ∀ {d a g k g' es}, D.probe d a g = (some k, g', es) → replay es 0 = some (full d k)
  remove : ∀ {d k g g' es}, D.remove d k g = (g', es) → es = (gone d k g).map .release

/-- A probe that fails leaves nothing held, and a remove gives back what its own device has. -/
def Settles (D : Driver δ γ κ A ρ) (full : δ → κ → Multiset ρ) (gone : δ → κ → γ → List ρ)
    (left : δ → A → γ → Multiset ρ) (b : Binding δ γ κ ρ) : Request δ A → Prop
  | .probe d a => (D.probe d a b.globals).1 = none → left d a b.globals = 0
  | .remove d => ↑(gone d (b.own d) b.globals) = full d (b.own d)

section

variable {D : Driver δ γ κ A ρ} {full : δ → κ → Multiset ρ} {gone : δ → κ → γ → List ρ}
  {left : δ → A → γ → Multiset ρ} {b b' : Binding δ γ κ ρ} {q : Request δ A}

omit [DecidableEq δ] in
/-- A careful driver leaves nothing. -/
theorem Driver.Careful.leaving (careful : D.Careful full gone) : D.Leaving full gone fun _ _ _ => 0 :=
  ⟨careful.refuse, careful.bind, careful.remove⟩

/-- A request keeps what is held exact when, and only when, it settles what it obtained. -/
theorem Driver.Leaving.exact_step_iff (leaving : D.Leaving full gone left) (step : D.Step b q b')
    (exact : Exact full b) : Exact full b' ↔ Settles D full gone left b q := by
  unfold Exact at exact ⊢
  cases step with
  | @bind d a k g es out ran =>
      refine iff_of_true ?_ fun failed => ?_
      · rw [sum_insert_update out]
        have held := replay_frame (∑ e ∈ b.bound, full e (b.own e)) (leaving.bind ran)
        rw [zero_add] at held
        exact replay_append_of exact held
      · rw [ran] at failed
        cases failed
  | @refuse d a g es out ran =>
      have held := replay_frame (∑ e ∈ b.bound, full e (b.own e)) (leaving.refuse ran)
      rw [zero_add] at held
      have failed : (D.probe d a b.globals).1 = none := congrArg Prod.fst ran
      rw [replay_append_of exact held, Option.some_inj, add_eq_right]
      exact (imp_iff_right failed).symm
  | @remove d g es mem ran =>
      rw [replay_append, exact, Option.bind_some, leaving.remove ran, ← Finset.add_sum_erase _ _ mem]
      exact replay_releases_iff

end

/-! ## The order of releases -/

/-- A driver that gives things back in order: resources use others of their own device only, the calls
for a device give back what is of that device, each probe is orderly, and so is a remove that gives
back what its device has. -/
structure Driver.Tidy (D : Driver δ γ κ A ρ) (full : δ → κ → Multiset ρ) (gone : δ → κ → γ → List ρ)
    (owner : ρ → δ) (uses : ρ → ρ → Prop) : Prop where
  irrefl : ∀ r, ¬ uses r r
  within : ∀ {r s}, uses s r → owner s = owner r
  full : ∀ {d k r}, r ∈ full d k → owner r = d
  probe : ∀ {d a g k g' es}, D.probe d a g = (k, g', es) → Orderly uses es 0
  probe_owner : ∀ {d a g k g' es r}, D.probe d a g = (k, g', es) → .release r ∈ es → owner r = d
  remove : ∀ {d k g}, (gone d k g).Pairwise fun r s => ¬ uses s r

section

variable {D : Driver δ γ κ A ρ} {full : δ → κ → Multiset ρ} {gone : δ → κ → γ → List ρ}
  {owner : ρ → δ} {uses : ρ → ρ → Prop} {b b' : Binding δ γ κ ρ} {q : Request δ A} {g : γ}
  {own : δ → κ} {past : List (Binding δ γ κ ρ × Request δ A)}

omit [DecidableEq δ] in
/-- What the other devices have uses nothing of a device. -/
theorem Driver.Tidy.apart (tidy : D.Tidy full gone owner uses) {ds : Finset δ} {d : δ} (out : d ∉ ds)
    {k : δ → κ} {r s : ρ} (mem : s ∈ ∑ e ∈ ds, full e (k e)) (here : owner r = d) : ¬ uses s r := by
  intro used
  obtain ⟨e, bound, has⟩ := Multiset.mem_sum.mp mem
  have same : e = d := (tidy.full has).symm.trans ((tidy.within used).trans here)
  exact out (same ▸ bound)

/-- A request that gives back no more than its own device has leaves an orderly log orderly. -/
theorem Driver.Tidy.orderly_step (tidy : D.Tidy full gone owner uses)
    (careful : D.Careful full gone) (step : D.Step b q b') (exact : Exact full b)
    (ok : ReleasesOwn full gone b q) (orderly : Orderly uses b.log 0) : Orderly uses b'.log 0 := by
  have probed : ∀ {d a k g' es}, d ∉ b.bound → D.probe d a b.globals = (k, g', es) →
      Orderly uses (b.log ++ es) 0 := by
    intro d a k g' es out ran
    obtain ⟨held, done⟩ : ∃ held, replay es 0 = some held := by
      cases k with
      | none => exact ⟨0, careful.refuse ran⟩
      | some k => exact ⟨_, careful.bind ran⟩
    refine (orderly_append exact).mpr ⟨orderly, ?_⟩
    have framed := orderly_frame (∑ e ∈ b.bound, full e (b.own e)) done
      (fun s mem r given => tidy.apart out mem (tidy.probe_owner ran given)) (tidy.probe ran)
    rwa [zero_add] at framed
  cases step with
  | bind out ran => exact probed out ran
  | refuse out ran => exact probed out ran
  | @remove d g es mem ran =>
      refine (orderly_append exact).mpr ⟨orderly, ?_⟩
      have own : ↑(gone d (b.own d) b.globals) = full d (b.own d) := ok
      rw [careful.remove ran, ← Finset.add_sum_erase _ _ mem, ← own]
      have done : replay ((gone d (b.own d) b.globals).map .release)
          (↑(gone d (b.own d) b.globals) + 0) = some 0 := replay_releases _
      rw [add_zero] at done
      refine orderly_frame _ done ?_ (orderly_releases tidy.irrefl tidy.remove)
      intro s other r given
      obtain ⟨r', mem', same⟩ := List.mem_map.mp given
      cases same
      have owned : r ∈ full d (b.own d) := own ▸ Multiset.mem_coe.mpr mem'
      exact tidy.apart (Finset.notMem_erase d b.bound) other (tidy.full owned)

/-- **Exactness and order over runs**: what is held is exact and everything was given back in order,
throughout a run, when and only when each remove gives back what its own device has. -/
theorem Driver.Tidy.always_exact_orderly_iff (tidy : D.Tidy full gone owner uses)
    (careful : D.Careful full gone) (run : Run D.Step (.start g own) past b) :
    Always (fun b => Exact full b ∧ Orderly uses b.log 0) past b ↔
      AllSteps (ReleasesOwn full gone) past := by
  refine run.always_iff_allSteps ⟨exact_start, orderly_nil⟩ id ?_ ?_
  · intro b q b' step ok inv
    exact ⟨(careful.exact_step_iff step inv.1).mpr ok,
      tidy.orderly_step careful step inv.1 ok inv.2⟩
  · intro b q b' step inv inv'
    exact (careful.exact_step_iff step inv.1).mp inv'.1

end

/-! ## Drivers whose every call keeps the books -/

/-- A driver whose calls give back, or leave the device, all they should, and at every moment hold what
they use. -/
structure Driver.Exacting (D : Driver δ γ κ A ρ) (full : δ → κ → Multiset ρ) (uses : ρ → ρ → Prop) :
    Prop where
  refuse : ∀ {d a g g' es}, D.probe d a g = (none, g', es) → NetZero es ∧ StaysBacked uses es 0
  bind : ∀ {d a g k g' es}, D.probe d a g = (some k, g', es) →
    replay es 0 = some (full d k) ∧ StaysBacked uses es 0
  remove : ∀ {d k g g' es}, D.remove d k g = (g', es) →
    replay es (full d k) = some 0 ∧ StaysBacked uses es (full d k)

section

variable {D : Driver δ γ κ A ρ} {full : δ → κ → Multiset ρ} {uses : ρ → ρ → Prop}
  {b b' : Binding δ γ κ ρ} {q : Request δ A} {g : γ} {own : δ → κ}
  {past : List (Binding δ γ κ ρ × Request δ A)}

/-- The events of one call follow on a log with exact books, where the other devices' things are `kept`. -/
theorem exact_staysBacked_append {log es : List (Event ρ)} {held held' kept : Multiset ρ}
    (exact : replay log 0 = some (held + kept)) (stays : StaysBacked uses log 0)
    (done : replay es held = some held') (own : StaysBacked uses es held)
    (other : Backed uses kept) :
    replay (log ++ es) 0 = some (held' + kept) ∧ StaysBacked uses (log ++ es) 0 :=
  ⟨replay_append_of exact (replay_frame kept done),
    (staysBacked_append exact).mpr ⟨stays, own.frame done other⟩⟩

omit [DecidableEq δ] in
/-- What an exacting driver leaves a device uses nothing else. -/
theorem Driver.Exacting.backed_full (exacting : D.Exacting full uses) (g : γ) (d : δ) (k : κ) :
    Backed uses (full d k) :=
  (exacting.remove (g := g) rfl).2.start

omit [DecidableEq δ] in
theorem Driver.Exacting.backed_sum (exacting : D.Exacting full uses) (g : γ) (ds : Finset δ)
    (k : δ → κ) : Backed uses (∑ d ∈ ds, full d (k d)) := by
  intro s mem r used
  obtain ⟨d, bound, has⟩ := Multiset.mem_sum.mp mem
  exact Multiset.mem_sum.mpr ⟨d, bound, exacting.backed_full g d (k d) s has r used⟩

theorem Driver.Exacting.step (exacting : D.Exacting full uses) (step : D.Step b q b')
    (books : Exact full b ∧ StaysBacked uses b.log 0) :
    Exact full b' ∧ StaysBacked uses b'.log 0 := by
  obtain ⟨exact, stays⟩ := books
  have others := fun ds => exacting.backed_sum b.globals ds b.own
  unfold Exact at exact ⊢
  cases step with
  | @bind d a k g es out ran =>
      obtain ⟨done, own⟩ := exacting.bind ran
      rw [← zero_add (∑ d ∈ b.bound, full d (b.own d))] at exact
      rw [sum_insert_update out]
      exact exact_staysBacked_append exact stays done own (others b.bound)
  | @refuse d a g es out ran =>
      obtain ⟨done, own⟩ := exacting.refuse ran
      rw [← zero_add (∑ d ∈ b.bound, full d (b.own d))] at exact ⊢
      exact exact_staysBacked_append exact stays done own (others b.bound)
  | @remove d g es mem ran =>
      obtain ⟨done, own⟩ := exacting.remove ran
      rw [← Finset.add_sum_erase _ _ mem] at exact
      rw [← zero_add (∑ d ∈ b.bound.erase d, full d (b.own d))]
      exact exact_staysBacked_append exact stays done own (others _)

/-- **Books kept throughout**: an exacting driver keeps what is held exact, and holds all it uses, in
every run. -/
theorem Driver.Exacting.always (exacting : D.Exacting full uses)
    (run : Run D.Step (.start g own) past b) :
    Always (fun b => Exact full b ∧ StaysBacked uses b.log 0) past b := by
  have steps : AllSteps (fun _ _ => True) past := fun _ _ => trivial
  exact run.always ⟨exact_start, backed_zero⟩ (fun step _ books => exacting.step step books) steps

end

end Resources
