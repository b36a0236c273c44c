import ScullDrivers.Interaction.Protocol
import ScullDrivers.Scull.OpenSteps

/-!
# Opens of one device that overlap

`scull_open` takes no lock: `sem` of `scull_dev` is never used.  Here any number of processes open one
device at a time, access by access.

An open for writing that finds the store, that is, loads a `dev->data` that is not `NULL`, goes on to free
all of it.  `dev->data` is reset last, so another open may find it again.  Once two have, each of them
is bound to free the first list node (`OwedTwice`), so they cannot all return without a double free or a
use after free.  As long as one has, what is left of it runs as if undisturbed, whatever the others do
(`Trimming`).
-/

namespace ScullDrivers.Scull

open Heap Interaction

/-! ## Processes that open the device -/

/-- Memory, and whether an access was made that must not be made. -/
structure Shared where
  memory : Mem
  fault : Bool := false

/-- A process opens the device. -/
structure OpenRequest (T : Type) where
  process : T
  filp : File

section

variable {T : Type} [DecidableEq T]

/-- What an access leaves. -/
def Shared.after (s : Shared) (e : Access) : Shared :=
  match e.run s.memory with
  | .ok (_, memory) => { s with memory }
  | .error _ => { s with fault := true }

/-- Processes that open the device at `dev`.  An access that must not be made may find anything. -/
def openers (T : Type) [DecidableEq T] (fuel : Nat) (dev : Ptr) :
    Machine T (OpenRequest T) Access Access.Resp (Int × File) Shared Empty where
  slot q := q.process
  code q := scullOpenSteps fuel dev q.filp
  mayStart _ _ _ := True
  begun _ s := s
  mayRun _ _ := True
  returns e s r := ∀ r' m', e.run s.memory = .ok (r', m') → r = r'
  effect _ e s _ := s.after e
  finished _ _ s := s
  device h _ := h.elim

abbrev OpenConfig (T : Type) := Config T Access Access.Resp (Int × File) Shared

abbrev OpenMove (T : Type) := Move T (OpenRequest T) Access Access.Resp (Int × File) Empty

/-- The move finds the store: it loads a `dev->data` that is not `NULL`. -/
def findsStore : OpenMove T → Bool
  | .call _ (.devData _) data => data ≠ 0
  | _ => false

/-- How many opens have found the store. -/
def finders (past : List (OpenConfig T × OpenMove T)) : Nat := past.countP fun x => findsStore x.2

/-- The device `d` at `dev` has the store that `nodes` describes, and no loop over it is cut short. -/
structure StoreAt (fuel : Nat) (dev : Ptr) (d : ScullDev) (nodes : List Node) (m : Mem) : Prop where
  block : m.blocks.lookup dev = some (.dev d)
  store : IsStore m d.qset.toInt d.data nodes
  distinct : (footprint nodes).Nodup
  enough : nodes.length < fuel

/-- While at most one open has found the store, no access was made that must not be made; when all have
returned, that is so only if at most one did, and if one did, the store was freed and the device reset. -/
structure OpensSafely (dev : Ptr) (d : ScullDev) (nodes : List Node) (m : Mem)
    (past : List (OpenConfig T × OpenMove T)) (c : OpenConfig T) : Prop where
  sound : finders past ≤ 1 → c.state.fault = false
  sharp : (∀ t, c.threads t = none) → c.state.fault = false → finders past ≤ 1
  freed : (∀ t, c.threads t = none) → finders past = 1 →
    FreesExactly dev (footprint nodes) m c.state.memory ∧
      c.state.memory.blocks.lookup dev = some (.dev d.trimmed)

/-! ## The rest of an open -/

/-- `scull_trim` from `dev->data` on. -/
def trimRest (fuel : Nat) (dev : Ptr) (qset : Int32) (data : Ptr) : Steps Int := do
  scullTrimLoopSteps qset.toInt.toNat fuel data
  resetSteps dev
  return 0

/-- `scull_open` from there on. -/
def openRest (fuel : Nat) (dev : Ptr) (qset : Int32) (filp : File) (data : Ptr) :
    Steps (Int × File) := do
  let _ ← trimRest fuel dev qset data
  return (0, { filp with privateData := dev })

/-- An open that has not loaded `dev->data` yet, with what it has loaded of `dev->qset`, or is done. -/
inductive Early (fuel : Nat) (dev : Ptr) (Q : Int32 → Prop) : Steps (Int × File) → Prop
  | opened (filp : File) : Early fuel dev Q (scullOpenSteps fuel dev filp)
  | counted {qset : Int32} (filp : File) : Q qset →
    Early fuel dev Q (.call (.devData dev) (openRest fuel dev qset filp))
  | returned (a : Int × File) : Early fuel dev Q (.ret a)

/-- An access that only resets the device. -/
def IsReset (dev : Ptr) (e : Access) : Prop :=
  e = .setSize dev 0 ∨ e = .setQuantum dev scullQuantumSize ∨ e = .setQset dev scullQsetSize ∨
    e = .setData dev 0

section Rest

variable {fuel : Nat} {dev head : Ptr} {Q : Int32 → Prop} {qset : Int32} {filp : File} {e : Access}
  {k : e.Resp → Steps (Int × File)}

theorem scullOpenSteps_writing (writing : filp.fFlags &&& oAccmode = oWronly) :
    scullOpenSteps fuel dev filp =
      .call (.devQset dev) fun qset => .call (.devData dev) (openRest fuel dev qset filp) := by
  unfold scullOpenSteps
  dsimp only
  rw [if_pos writing]
  rfl

/-- The next access of an open that has not loaded `dev->data` yet. -/
theorem Early.call (early : Early fuel dev Q (.call e k)) :
    (∃ filp, Prog.call e k =
      .call (.devQset dev) fun qset => .call (.devData dev) (openRest fuel dev qset filp)) ∨
    ∃ qset filp, Q qset ∧ Prog.call e k = .call (.devData dev) (openRest fuel dev qset filp) := by
  generalize same : Prog.call e k = p at early
  cases early with
  | opened filp =>
      by_cases writing : filp.fFlags &&& oAccmode = oWronly
      · exact .inl ⟨filp, scullOpenSteps_writing writing⟩
      · unfold scullOpenSteps at same
        dsimp only at same
        rw [if_neg writing] at same
        cases same
  | counted filp meets => exact .inr ⟨_, filp, meets, rfl⟩
  | returned a => cases same

theorem Early.mono {Q' : Int32 → Prop} {p : Steps (Int × File)} (early : Early fuel dev Q p)
    (imp : ∀ qset, Q qset → Q' qset) : Early fuel dev Q' p := by
  cases early with
  | opened filp => exact .opened filp
  | counted filp meets => exact .counted filp (imp _ meets)
  | returned a => exact .returned a

/-- An open that does not find the store only resets the device. -/
theorem openRest_null : (openRest (fuel + 1) dev qset filp 0).OnlyCalls (IsReset dev) := by
  refine ⟨.inl rfl, fun _ => ⟨.inr (.inl rfl), fun _ => ⟨.inr (.inr (.inl rfl)), fun _ => ⟨?_, ?_⟩⟩⟩⟩
  · exact .inr (.inr (.inr rfl))
  · exact fun _ => trivial

theorem scullTrimBodySteps_eventually {q : Nat} :
    (scullTrimBodySteps q head).Eventually (· = .kfree head) := by
  refine Or.inr fun data => ?_
  show ((if data ≠ 0 then freeArraySteps q head else pure ()) >>= fun _ => _).Eventually _
  exact Prog.eventually_bind fun _ => Or.inr fun next => Or.inl rfl

/-- An open that finds the store is bound to free the first list node. -/
theorem openRest_eventually (nonNull : head ≠ 0) :
    (openRest (fuel + 1) dev qset filp head).Eventually (· = .kfree head) := by
  refine Prog.Eventually.bind (Prog.Eventually.bind ?_)
  unfold scullTrimLoopSteps
  rw [if_neg nonNull]
  exact scullTrimBodySteps_eventually.bind

/-- Not an access to `dev->data`. -/
def Access.OffData (e : Access) : Prop := (∀ p, e ≠ .devData p) ∧ ∀ p data, e ≠ .setData p data

theorem freeQuantaSteps_offData {left i : Nat} : (freeQuantaSteps head left i).OnlyCalls Access.OffData := by
  induction left generalizing i with
  | zero => trivial
  | succ left ih =>
      exact ⟨⟨nofun, nofun⟩, fun _ => ⟨⟨nofun, nofun⟩, fun _ => ⟨⟨nofun, nofun⟩, fun _ => ih⟩⟩⟩

theorem scullTrimBodySteps_offData {q : Nat} : (scullTrimBodySteps q head).OnlyCalls Access.OffData := by
  refine ⟨⟨nofun, nofun⟩, fun data => ?_⟩
  have array : (if data ≠ 0 then freeArraySteps q head else pure ()).OnlyCalls Access.OffData := by
    split
    · exact freeQuantaSteps_offData.bind fun _ => ⟨⟨nofun, nofun⟩, fun _ => ⟨⟨nofun, nofun⟩,
        fun _ => ⟨⟨nofun, nofun⟩, fun _ => trivial⟩⟩⟩
    · trivial
  exact array.bind fun _ => ⟨⟨nofun, nofun⟩, fun _ => ⟨⟨nofun, nofun⟩, fun _ => trivial⟩⟩

theorem scullTrimLoopSteps_offData {q : Nat} : (scullTrimLoopSteps q fuel head).OnlyCalls Access.OffData := by
  induction fuel generalizing head with
  | zero => exact ⟨⟨nofun, nofun⟩, fun endless => endless.elim⟩
  | succ fuel ih =>
      unfold scullTrimLoopSteps
      split
      · trivial
      · exact scullTrimBodySteps_offData.bind fun next => ih

/-- Whether an open that found the store has reset `dev->data`. -/
inductive WalkStage
  | walking
  | closed

/-- It does so last. -/
inductive WalkNext (dev : Ptr) : WalkStage → (e : Access) → e.Resp → WalkStage → Prop
  | walk {e : Access} {r : e.Resp} : e.OffData → WalkNext dev .walking e r .walking
  | close : WalkNext dev .walking (.setData dev 0) () .closed

theorem openRest_follows :
    (openRest fuel dev qset filp head).Follows (WalkNext dev) (fun _ _ => True) .walking := by
  have loop : (scullTrimLoopSteps qset.toInt.toNat fuel head).Follows (WalkNext dev)
      (fun _ s => s = .walking) .walking :=
    scullTrimLoopSteps_offData.follows (fun _ _ off => .walk off) fun _ => rfl
  have rest : (trimRest fuel dev qset head).Follows (WalkNext dev) (fun _ _ => True) .walking := by
    refine loop.bind fun _ s here => ?_
    subst here
    exact fun _ => ⟨_, .walk ⟨nofun, nofun⟩, fun _ => ⟨_, .walk ⟨nofun, nofun⟩,
      fun _ => ⟨_, .walk ⟨nofun, nofun⟩, fun _ => ⟨_, .close, trivial⟩⟩⟩⟩
  exact rest.bind fun _ _ _ => trivial

end Rest

/-! ## The invariant -/

/-- The process is bound to free the block at `head`. -/
def Owes (head : Ptr) (c : OpenConfig T) (t : T) : Prop :=
  ∃ p, c.threads t = some p ∧ p.Eventually (· = .kfree head)

/-- A process is bound to free the block at `head`, and another one as well if it is still live. -/
def OwedTwice (head : Ptr) (c : OpenConfig T) : Prop :=
  ∃ b, Owes head c b ∧ (head ∈ c.state.memory.blocks → ∃ a, a ≠ b ∧ Owes head c a)

/-- What is left of an open that found the store at `head`, in memory `m`: undisturbed it would leave
`final`, it has the first list node to free while this is live, and `dev->data` to reset last. -/
structure Walks (dev head : Ptr) (final m : Mem) (p : Steps (Int × File)) : Prop where
  exec : ∃ a, p.Exec undisturbed m a final
  owes : head ∈ m.blocks → p.Eventually (· = .kfree head)
  stage : ∃ g, p.Follows (WalkNext dev) (fun _ _ => True) g ∧
    (g = .walking → ∃ d, m.blocks.lookup dev = some (.dev d) ∧ d.data = head)

/-- The opens of a device with the store `nodes`, from memory `m` on: none has found the store; one has,
and is not done with it; the store is gone; or two have found it. -/
inductive Trimming (fuel : Nat) (dev : Ptr) (d : ScullDev) (nodes : List Node) (m : Mem)
    (past : List (OpenConfig T × OpenMove T)) (c : OpenConfig T) : Prop
  | unfound : finders past = 0 → d.data ≠ 0 → c.state = ⟨m, false⟩ →
    (∀ t p, c.threads t = some p → Early fuel dev (· = d.qset) p) →
    Trimming fuel dev d nodes m past c
  | walking (t : T) {e : Access} {k : e.Resp → Steps (Int × File)} : finders past = 1 →
    d.data ≠ 0 → c.state.fault = false → c.threads t = some (.call e k) →
    Walks dev d.data ((m.dropAll (footprint nodes)).write dev (.dev d.trimmed)) c.state.memory
      (.call e k) →
    (∀ t' p, c.threads t' = some p → t' ≠ t → Early fuel dev (fun _ => True) p) →
    Trimming fuel dev d nodes m past c
  | gone (d' : ScullDev) : finders past ≤ 1 → c.state.fault = false → d'.data = 0 →
    c.state.memory = (m.dropAll (footprint nodes)).write dev (.dev d') →
    (finders past = 1 → d' = d.trimmed) →
    (∀ t p, c.threads t = some p → Early fuel dev (fun _ => True) p ∨ p.OnlyCalls (IsReset dev)) →
    Trimming fuel dev d nodes m past c
  | doomed : 2 ≤ finders past → d.data ≠ 0 → (c.state.fault = false → OwedTwice d.data c) →
    Trimming fuel dev d nodes m past c

section Invariant

variable {fuel : Nat} {dev head : Ptr} {d d' : ScullDev} {nodes : List Node} {m m' final : Mem}
  {past : List (OpenConfig T × OpenMove T)} {c c' : OpenConfig T} {t : T} {e : Access}
  {k : e.Resp → Steps (Int × File)} {r : e.Resp} {Q : Int32 → Prop} {move : OpenMove T}
  {s : Shared} {p : Option (Steps (Int × File))}

omit [DecidableEq T] in
theorem finders_snoc : finders (past ++ [(c, move)]) =
    finders past + if findsStore move then 1 else 0 := by
  unfold finders
  rw [List.countP_append, List.countP_singleton]

omit [DecidableEq T] in
theorem finders_snoc_none (none : findsStore move = false) :
    finders (past ++ [(c, move)]) = finders past := by
  rw [finders_snoc, none]
  rfl

omit [DecidableEq T] in
theorem finders_le_snoc : finders past ≤ finders (past ++ [(c, move)]) := by
  rw [finders_snoc]
  exact Nat.le_add_right _ _

theorem Shared.after_of_run (run : e.run s.memory = .ok (r, m')) :
    s.after e = { s with memory := m' } := by
  unfold Shared.after
  rw [run]

/-- Without a fault an access did what it should. -/
theorem Shared.run_of_after (sound : (s.after e).fault = false) :
    s.fault = false ∧ ∃ r' m', e.run s.memory = .ok (r', m') ∧ s.after e = { s with memory := m' } := by
  unfold Shared.after at sound ⊢
  cases run : e.run s.memory with
  | error fault =>
      rw [run] at sound
      cases sound
  | ok result =>
      rw [run] at sound
      exact ⟨sound, result.1, result.2, rfl, rfl⟩

/-! ### Two that have found the store -/

omit [DecidableEq T] in
theorem Owes.of_threads (owes : Owes head c t) (same : c'.threads t = c.threads t) :
    Owes head c' t := by
  obtain ⟨q, running, bound⟩ := owes
  exact ⟨q, same.trans running, bound⟩

/-- A move of a process that owes nothing, and does not change memory. -/
theorem OwedTwice.quiet (owed : OwedTwice head c) (same : s.memory = c.state.memory)
    (free : ¬ Owes head c t) : OwedTwice head (c.set s t p) := by
  have keep : ∀ {a}, Owes head c a → Owes head (c.set s t p) a := by
    intro a owes
    have ne : a ≠ t := fun eq => free (eq ▸ owes)
    exact owes.of_threads (Config.set_threads_of_ne ne)
  obtain ⟨b, owes, other⟩ := owed
  refine ⟨b, keep owes, fun live => ?_⟩
  rw [Config.set_state, same] at live
  obtain ⟨a, ne, owes'⟩ := other live
  exact ⟨a, ne, keep owes'⟩

/-- An access that is allowed leaves a process bound to free the block: if it is freed, the other one. -/
theorem OwedTwice.call (owed : OwedTwice head c) (nonNull : head ≠ 0)
    (running : c.threads t = some (.call e k)) (run : e.run c.state.memory = .ok (r, m')) :
    OwedTwice head (c.set { c.state with memory := m' } t (some (k r))) := by
  obtain ⟨b, owes, other⟩ := owed
  by_cases free : e = .kfree head
  · subst free
    obtain ⟨live, rfl⟩ : head ∈ c.state.memory.blocks ∧ m' = c.state.memory.drop head := by
      rcases Memory.kfree_eq_ok.mp (run_kfree.mp run) with ⟨null, -⟩ | ⟨-, live, eq⟩
      · exact absurd null nonNull
      · exact ⟨live, eq⟩
    have dead : head ∉ (c.state.memory.drop head).blocks := by
      rw [← Finmap.lookup_eq_none]
      exact Memory.lookup_drop
    obtain ⟨a, ne, owes'⟩ := other live
    by_cases here : t = b
    · subst here
      exact ⟨a, owes'.of_threads (Config.set_threads_of_ne ne), fun live => absurd live dead⟩
    · have apart : b ≠ t := fun eq => here eq.symm
      exact ⟨b, owes.of_threads (Config.set_threads_of_ne apart), fun live => absurd live dead⟩
  · have keep : ∀ {a}, Owes head c a →
        Owes head (c.set { c.state with memory := m' } t (some (k r))) a := by
      intro a owes
      by_cases here : a = t
      · subst here
        obtain ⟨q, running', bound⟩ := owes
        cases running.symm.trans running'
        exact ⟨k r, Config.set_threads_self, (bound.resolve_left free) r⟩
      · exact owes.of_threads (Config.set_threads_of_ne here)
    refine ⟨b, keep owes, fun live => ?_⟩
    have before : head ∈ c.state.memory.blocks := by
      by_contra dead
      exact Access.run_dead run dead live
    obtain ⟨a, ne, owes'⟩ := other before
    exact ⟨a, ne, keep owes'⟩

/-! ### One that has found the store -/

omit [DecidableEq T] in
theorem exec_dead {α : Type} {a : α} {q : Ptr} {prog : Steps α} (exec : prog.Exec undisturbed m a m')
    (dead : q ∉ m.blocks) : q ∉ m'.blocks := by
  induction prog generalizing m with
  | ret b => exact exec.2 ▸ dead
  | call e k ih =>
      obtain ⟨r, m₁, run, rest⟩ := exec
      exact ih r rest (Access.run_dead run dead)

omit [DecidableEq T] in
/-- While it has accesses left, `dev->data` is what it found, and it is not the one to load it. -/
theorem Walks.data (walks : Walks dev head final m (.call e k)) :
    ∃ d, m.blocks.lookup dev = some (.dev d) ∧ d.data = head ∧ ∀ p, e ≠ .devData p := by
  obtain ⟨a, r, m₁, run, rest⟩ := walks.exec
  obtain ⟨g, follows, data⟩ := walks.stage
  obtain ⟨g', next, -⟩ := follows r
  cases next with
  | walk off =>
      obtain ⟨d, block, here⟩ := data rfl
      exact ⟨d, block, here, off.1⟩
  | close =>
      obtain ⟨d, block, here⟩ := data rfl
      exact ⟨d, block, here, nofun⟩

omit [DecidableEq T] in
/-- Its next access. -/
theorem Walks.call (walks : Walks dev head final m (.call e k)) (nonNull : head ≠ 0)
    (device : dev ∈ final.blocks) :
    ∃ r m₁, e.run m = .ok (r, m₁) ∧ Walks dev head final m₁ (k r) := by
  obtain ⟨a, r, m₁, run, rest⟩ := walks.exec
  refine ⟨r, m₁, run, ⟨a, rest⟩, fun live => ?_, ?_⟩
  · have before : head ∈ m.blocks := by
      by_contra dead
      exact Access.run_dead run dead live
    rcases walks.owes before with free | later
    · subst free
      rcases Memory.kfree_eq_ok.mp (run_kfree.mp run) with ⟨null, -⟩ | ⟨-, -, rfl⟩
      · exact absurd null nonNull
      · exact absurd live (Finmap.lookup_eq_none.mp Memory.lookup_drop)
    · exact later r
  · obtain ⟨g, follows, data⟩ := walks.stage
    obtain ⟨g', next, follows'⟩ := follows r
    refine ⟨g', follows', fun here => ?_⟩
    cases next with
    | close => cases here
    | walk off =>
        obtain ⟨d, block, same⟩ := data rfl
        have kept : dev ∈ m₁.blocks := by
          by_contra dead
          exact exec_dead rest dead device
        rcases Access.run_cases run with rfl | ⟨p, b, -, rfl, written⟩ | ⟨p, -, -, rfl⟩
        · exact ⟨d, block, same⟩
        · by_cases at_dev : dev = p
          · subst at_dev
            obtain ⟨d', rfl, same' | ⟨data', set⟩⟩ := written d block
            · exact ⟨d', Memory.lookup_write, same'.trans same⟩
            · exact absurd set (off.2 dev data')
          · exact ⟨d, (Memory.lookup_write_ne at_dev).trans block, same⟩
        · have apart : dev ≠ p := by
            intro eq
            subst eq
            exact absurd kept (Finmap.lookup_eq_none.mp Memory.lookup_drop)
          exact ⟨d, (Memory.lookup_drop_ne apart).trans block, same⟩

/-! ### Accesses -/

/-- The next access of an open that has not loaded `dev->data` yet leaves memory alone. -/
theorem Early.access (early : Early fuel dev Q (.call e k))
    (block : c.state.memory.blocks.lookup dev = some (.dev d'))
    (answer : (openers T fuel dev).returns e c.state r) :
    c.state.after e = c.state ∧
      ((∃ filp, findsStore (.call t e r : OpenMove T) = false ∧
          k r = .call (.devData dev) (openRest fuel dev d'.qset filp)) ∨
        ∃ qset filp, Q qset ∧ findsStore (.call t e r : OpenMove T) = decide (d'.data ≠ 0) ∧
          k r = openRest fuel dev qset filp d'.data) := by
  rcases early.call with ⟨filp, same⟩ | ⟨qset, filp, meets, same⟩
  · cases same
    have read : readDev dev ScullDev.qset c.state.memory = .ok (d'.qset, c.state.memory) :=
      readDev_eq_ok.mpr ⟨d', block, rfl, rfl⟩
    have found : r = d'.qset := answer _ _ read
    subst found
    exact ⟨Shared.after_of_run read, .inl ⟨filp, rfl, rfl⟩⟩
  · cases same
    have read : readDev dev ScullDev.data c.state.memory = .ok (d'.data, c.state.memory) :=
      readDev_eq_ok.mpr ⟨d', block, rfl, rfl⟩
    have found : r = d'.data := answer _ _ read
    subst found
    exact ⟨Shared.after_of_run read, .inr ⟨qset, filp, meets, rfl, rfl⟩⟩

/-- What is left of an open that has just found the store. -/
theorem walks_start {filp : File} (block : m.blocks.lookup dev = some (.dev d))
    (store : IsStore m d.qset.toInt d.data nodes) (distinct : (footprint nodes).Nodup)
    (enough : nodes.length < fuel) (nonNull : d.data ≠ 0) :
    Walks dev d.data ((m.dropAll (footprint nodes)).write dev (.dev d.trimmed)) m
      (openRest fuel dev d.qset filp d.data) := by
  have kept : (m.dropAll (footprint nodes)).blocks.lookup dev = some (.dev d) := by
    rw [Memory.lookup_dropAll (store.dev_not_mem block)]
    exact block
  have loop := scullTrimLoopSteps_exec.mpr (scullTrimLoop_ok store distinct enough)
  have reset := resetSteps_exec.mpr ⟨d, kept, rfl⟩
  have rest : (trimRest fuel dev d.qset d.data).Exec undisturbed m 0
      ((m.dropAll (footprint nodes)).write dev (.dev d.trimmed)) :=
    exec_bind.mpr ⟨(), _, loop, exec_bind.mpr ⟨(), _, reset, rfl, rfl⟩⟩
  refine ⟨⟨_, exec_bind.mpr ⟨0, _, rest, rfl, rfl⟩⟩, fun _ => ?_, .walking, openRest_follows,
    fun _ => ⟨d, block, rfl⟩⟩
  obtain ⟨fuel, rfl⟩ : ∃ n, fuel = n + 1 := ⟨fuel - 1, by omega⟩
  exact openRest_eventually nonNull

theorem trimmed_mem : dev ∈ ((m.dropAll (footprint nodes)).write dev (.dev d')).blocks :=
  Finmap.mem_of_lookup_eq_some Memory.lookup_write

/-- The open that found the store, when it has accesses left and when it has none. -/
theorem Trimming.go {prog : Steps (Int × File)} (found : finders past = 1) (nonNull : d.data ≠ 0)
    (sound : s.fault = false)
    (walks : Walks dev d.data ((m.dropAll (footprint nodes)).write dev (.dev d.trimmed)) s.memory prog)
    (others : ∀ t' p, c.threads t' = some p → t' ≠ t → Early fuel dev (fun _ => True) p) :
    Trimming fuel dev d nodes m past (c.set s t (some prog)) := by
  cases prog with
  | ret a =>
      obtain ⟨a', -, done⟩ := walks.exec
      refine .gone d.trimmed found.le sound rfl done.symm (fun _ => rfl) ?_
      refine Config.forall_set (fun t' p ne running => .inl (others t' p running ne)) fun p' eq => ?_
      cases eq
      exact .inr trivial
  | call e k =>
      refine .walking t found nonNull sound Config.set_threads_self walks fun t' p running ne => ?_
      rw [Config.set_threads_of_ne ne] at running
      exact others t' p running ne

omit [DecidableEq T] in
/-- An access that only resets the device, when the store is gone. -/
theorem IsReset.run (reset : IsReset dev e)
    (here : c.state.memory = (m.dropAll (footprint nodes)).write dev (.dev d')) (null : d'.data = 0) :
    ∃ r' d'', e.run c.state.memory =
        .ok (r', (m.dropAll (footprint nodes)).write dev (.dev d'')) ∧ d''.data = 0 ∧
      (d' = d.trimmed → d'' = d.trimmed) ∧ findsStore (.call t e r : OpenMove T) = false := by
  have block : c.state.memory.blocks.lookup dev = some (.dev d') := by
    rw [here]
    exact Memory.lookup_write
  have set : ∀ set : ScullDev → ScullDev, setDev dev set c.state.memory =
      .ok ((), (m.dropAll (footprint nodes)).write dev (.dev (set d'))) := by
    intro set
    refine setDev_eq_ok.mpr ⟨d', block, ?_⟩
    rw [here, Memory.write_write]
  rcases reset with rfl | rfl | rfl | rfl
  · exact ⟨_, _, set _, null, fun same => by rw [same]; rfl, rfl⟩
  · exact ⟨_, _, set _, null, fun same => by rw [same]; rfl, rfl⟩
  · exact ⟨_, _, set _, null, fun same => by rw [same]; rfl, rfl⟩
  · exact ⟨_, _, set _, rfl, fun same => by rw [same]; rfl, rfl⟩

/-! ### Steps -/

omit [DecidableEq T] in
theorem findsStore_of_ne (other : ∀ p, e ≠ .devData p) :
    findsStore (.call t e r : OpenMove T) = false := by
  cases e with
  | devData p => exact absurd rfl (other p)
  | _ => rfl

/-- An access before anyone has found the store. -/
theorem Trimming.call_unfound (first : StoreAt fuel dev d nodes m) (none : finders past = 0)
    (nonNull : d.data ≠ 0) (state : c.state = ⟨m, false⟩)
    (early : ∀ t p, c.threads t = some p → Early fuel dev (· = d.qset) p)
    (running : c.threads t = some (.call e k)) (answer : (openers T fuel dev).returns e c.state r) :
    Trimming fuel dev d nodes m (past ++ [(c, .call t e r)])
      (c.set (c.state.after e) t (some (k r))) := by
  have block : c.state.memory.blocks.lookup dev = some (.dev d) := by
    rw [state]
    exact first.block
  obtain ⟨same, result⟩ := (early t _ running).access (t := t) block answer
  rw [same]
  rcases result with ⟨filp, quiet, next⟩ | ⟨qset, filp, meets, finds, next⟩
  · refine .unfound ((finders_snoc_none quiet).trans none) nonNull state ?_
    refine Config.forall_set (fun t' p _ running' => early t' p running') fun p' eq => ?_
    cases eq
    rw [next]
    exact .counted filp rfl
  · subst meets
    have found : finders (past ++ [(c, .call t e r)]) = 1 := by
      rw [finders_snoc, finds, none, decide_eq_true nonNull]
      rfl
    refine .go found nonNull (congrArg Shared.fault state) ?_ fun t' p running' _ =>
      (early t' p running').mono fun _ _ => trivial
    rw [next, state]
    exact walks_start first.block first.store first.distinct first.enough nonNull

/-- An access while one open has found the store and is not done with it. -/
theorem Trimming.call_walking {w : T} {e' : Access} {k' : e'.Resp → Steps (Int × File)}
    (first : StoreAt fuel dev d nodes m) (found : finders past = 1) (nonNull : d.data ≠ 0)
    (sound : c.state.fault = false) (finder : c.threads w = some (.call e' k'))
    (walks : Walks dev d.data ((m.dropAll (footprint nodes)).write dev (.dev d.trimmed))
      c.state.memory (.call e' k'))
    (others : ∀ t' p, c.threads t' = some p → t' ≠ w → Early fuel dev (fun _ => True) p)
    (running : c.threads t = some (.call e k)) (answer : (openers T fuel dev).returns e c.state r) :
    Trimming fuel dev d nodes m (past ++ [(c, .call t e r)])
      (c.set (c.state.after e) t (some (k r))) := by
  obtain ⟨d', block, here, other⟩ := walks.data
  by_cases same : t = w
  · subst same
    cases finder.symm.trans running
    obtain ⟨r', m₁, run, walks'⟩ := walks.call nonNull trimmed_mem
    obtain rfl := answer r' m₁ run
    rw [Shared.after_of_run run]
    exact .go ((finders_snoc_none (findsStore_of_ne other)).trans found) nonNull sound walks' others
  · obtain ⟨still, result⟩ := (others t _ running same).access (t := t) block answer
    rw [still]
    have finder' := (Config.set_threads_of_ne (c := c) (s := c.state) (p := some (k r))
      (Ne.symm same)).trans finder
    rcases result with ⟨filp, quiet, next⟩ | ⟨qset, filp, -, finds, next⟩
    · refine .walking w ((finders_snoc_none quiet).trans found) nonNull sound finder' walks ?_
      refine Config.forall_set (fun t' p _ running' => others t' p running') fun p' eq _ => ?_
      cases eq
      rw [next]
      exact .counted filp trivial
    · refine .doomed ?_ nonNull fun _ => ⟨t, ⟨k r, Config.set_threads_self, ?_⟩, fun live => ?_⟩
      · rw [finders_snoc, finds, found, decide_eq_true (here ▸ nonNull)]
        exact le_rfl
      · obtain ⟨fuel, rfl⟩ : ∃ n, fuel = n + 1 := ⟨fuel - 1, by have := first.enough; omega⟩
        rw [next, here]
        exact openRest_eventually nonNull
      · exact ⟨w, Ne.symm same, _, finder', walks.owes live⟩

/-- An access when the store is gone. -/
theorem Trimming.call_gone (first : StoreAt fuel dev d nodes m) (found : finders past ≤ 1)
    (sound : c.state.fault = false) (null : d'.data = 0)
    (here : c.state.memory = (m.dropAll (footprint nodes)).write dev (.dev d'))
    (trimmed : finders past = 1 → d' = d.trimmed)
    (threads : ∀ t p, c.threads t = some p →
      Early fuel dev (fun _ => True) p ∨ p.OnlyCalls (IsReset dev))
    (running : c.threads t = some (.call e k)) (answer : (openers T fuel dev).returns e c.state r) :
    Trimming fuel dev d nodes m (past ++ [(c, .call t e r)])
      (c.set (c.state.after e) t (some (k r))) := by
  have block : c.state.memory.blocks.lookup dev = some (.dev d') := by
    rw [here]
    exact Memory.lookup_write
  have moved : ∀ {s : Shared} {d'' : ScullDev}, findsStore (.call t e r : OpenMove T) = false →
      s.fault = false → d''.data = 0 →
      s.memory = (m.dropAll (footprint nodes)).write dev (.dev d'') →
      (d' = d.trimmed → d'' = d.trimmed) →
      (Early fuel dev (fun _ => True) (k r) ∨ (k r).OnlyCalls (IsReset dev)) →
      Trimming fuel dev d nodes m (past ++ [(c, .call t e r)]) (c.set s t (some (k r))) := by
    intro s d'' quiet sound null here kept next
    have count : finders (past ++ [(c, .call t e r)]) = finders past := finders_snoc_none quiet
    refine .gone d'' (count.trans_le found) sound null here
      (fun one => kept (trimmed (count.symm.trans one))) ?_
    refine Config.forall_set (fun t' p _ running' => threads t' p running') fun p' eq => ?_
    cases eq
    exact next
  rcases threads t _ running with early | resets
  · obtain ⟨still, result⟩ := early.access (t := t) block answer
    rw [still]
    rcases result with ⟨filp, quiet, next⟩ | ⟨qset, filp, -, finds, next⟩
    · refine moved quiet sound null here id (.inl ?_)
      rw [next]
      exact .counted filp trivial
    · have quiet : findsStore (.call t e r : OpenMove T) = false := by
        rw [finds, null]
        rfl
      obtain ⟨fuel, rfl⟩ : ∃ n, fuel = n + 1 := ⟨fuel - 1, by have := first.enough; omega⟩
      refine moved quiet sound null here id (.inr ?_)
      rw [next, null]
      exact openRest_null
  · obtain ⟨r', d'', run, null', kept, quiet⟩ := resets.1.run (t := t) (r := r) here null
    rw [Shared.after_of_run run]
    exact moved quiet sound null' rfl kept (.inr (resets.2 r))

/-- An access when two have found the store. -/
theorem Trimming.call_doomed (nonNull : d.data ≠ 0)
    (found : 2 ≤ finders past) (owed : c.state.fault = false → OwedTwice d.data c)
    (running : c.threads t = some (.call e k)) (answer : (openers T fuel dev).returns e c.state r) :
    Trimming fuel dev d nodes m (past ++ [(c, .call t e r)])
      (c.set (c.state.after e) t (some (k r))) := by
  refine .doomed (found.trans finders_le_snoc) nonNull fun sound => ?_
  obtain ⟨before, r', m', run, after⟩ := Shared.run_of_after sound
  obtain rfl := answer r' m' run
  rw [after]
  exact (owed before).call nonNull running run

/-- A process that has no access left, or begins an open. -/
theorem Trimming.outside (trimming : Trimming fuel dev d nodes m past c)
    (quiet : findsStore move = false) (resting : ∀ q, c.threads t = some q → ∃ a, q = .ret a)
    (new : ∀ p', p = some p' → Early fuel dev (· = d.qset) p') :
    Trimming fuel dev d nodes m (past ++ [(c, move)]) (c.set c.state t p) := by
  have count : finders (past ++ [(c, move)]) = finders past := finders_snoc_none quiet
  cases trimming with
  | unfound none nonNull state early =>
      exact .unfound (count.trans none) nonNull state
        (Config.forall_set (fun t' p' _ running => early t' p' running) new)
  | walking w found nonNull sound finder walks others =>
      have apart : w ≠ t := by
        intro same
        subst same
        obtain ⟨a, eq⟩ := resting _ finder
        cases eq
      refine .walking w (count.trans found) nonNull sound
        ((Config.set_threads_of_ne apart).trans finder) walks ?_
      exact Config.forall_set (fun t' p' _ running => others t' p' running)
        fun p' eq _ => (new p' eq).mono fun _ _ => trivial
  | gone d' found sound null here trimmed threads =>
      refine .gone d' (count.trans_le found) sound null here
        (fun one => trimmed (count.symm.trans one)) ?_
      exact Config.forall_set (fun t' p' _ running => threads t' p' running)
        fun p' eq => .inl ((new p' eq).mono fun _ _ => trivial)
  | doomed found nonNull owed =>
      refine .doomed (found.trans finders_le_snoc) nonNull fun sound => ?_
      refine (owed sound).quiet rfl fun owes => ?_
      obtain ⟨q, running, bound⟩ := owes
      obtain ⟨a, rfl⟩ := resting q running
      exact bound

/-- One step. -/
theorem Trimming.step (trimming : Trimming fuel dev d nodes m past c)
    (first : StoreAt fuel dev d nodes m) (step : (openers T fuel dev).Step c move c') :
    Trimming fuel dev d nodes m (past ++ [(c, move)]) c' := by
  cases step with
  | @start q idle _ =>
      refine trimming.outside rfl (fun p running => ?_) fun p' eq => ?_
      · cases idle.symm.trans running
      · cases eq
        exact .opened q.filp
  | @call t e k r running _ answer =>
      cases trimming with
      | unfound none nonNull state early =>
          exact .call_unfound first none nonNull state early running answer
      | walking w found nonNull sound finder walks others =>
          exact .call_walking first found nonNull sound finder walks others running answer
      | gone d' found sound null here trimmed threads =>
          exact .call_gone first found sound null here trimmed threads running answer
      | doomed found nonNull owed => exact .call_doomed nonNull found owed running answer
  | @finish t a running _ =>
      refine trimming.outside rfl (fun p running' => ?_) fun p' eq => nomatch eq
      cases running.symm.trans running'
      exact ⟨a, rfl⟩
  | @device h => exact h.elim

omit [DecidableEq T] in
/-- Before the first open. -/
theorem trimming_start (first : StoreAt fuel dev d nodes c.state.memory)
    (idle : ∀ t, c.threads t = none) (sound : c.state.fault = false) :
    Trimming fuel dev d nodes c.state.memory [] c := by
  have early : ∀ {P : Steps (Int × File) → Prop} t p, c.threads t = some p → P p := by
    intro P t p running
    cases (idle t).symm.trans running
  obtain ⟨block, store, -, -⟩ := first
  by_cases null : d.data = 0
  · have empty : nodes = [] := by
      cases nodes with
      | nil => rfl
      | cons n nodes => exact absurd null store.1
    subst empty
    exact .gone d (Nat.zero_le 1) sound null (Memory.write_self block).symm nofun early
  · refine .unfound rfl null ?_ early
    rw [← sound]

/-- What trimming leaves. -/
theorem freesExactly_write (first : StoreAt fuel dev d nodes m) :
    FreesExactly dev (footprint nodes) m ((m.dropAll (footprint nodes)).write dev (.dev d')) where
  freed := Memory.freed_dropAll
  once := first.distinct
  gone := by
    intro p mem
    have other : p ≠ dev := by
      intro same
      exact first.store.dev_not_mem first.block (same ▸ mem)
    rw [Memory.lookup_write_ne other, Memory.lookup_dropAll_mem mem]
  kept := by
    intro p out other
    rw [Memory.lookup_write_ne other, Memory.lookup_dropAll out]

/-- **Opens without a lock.**  In every interleaving, access by access, of any number of processes that
open a device: while at most one has found the store, no block was touched or freed that is not live.
When all have returned, that is so only if at most one found the store, and if one did, each block of the
store was freed once, no other block was touched, and the device is reset. -/
theorem opens_unlocked {c₀ : OpenConfig T} (first : StoreAt fuel dev d nodes c₀.state.memory)
    (idle : ∀ t, c₀.threads t = none) (sound : c₀.state.fault = false)
    (run : Run (openers T fuel dev).Step c₀ past c) :
    OpensSafely dev d nodes c₀.state.memory past c := by
  have trimming : Trimming fuel dev d nodes c₀.state.memory past c := by
    induction run with
    | nil => exact trimming_start first idle sound
    | snoc run step ih => exact ih.step first step
  cases trimming with
  | unfound none nonNull state early =>
      refine ⟨fun _ => congrArg Shared.fault state, fun _ _ => none.le.trans (Nat.zero_le 1), ?_⟩
      exact fun _ one => absurd (none.symm.trans one) Nat.zero_ne_one
  | walking t found nonNull sound finder walks others =>
      refine ⟨fun _ => sound, fun _ _ => found.le, fun idle => ?_⟩
      cases (idle t).symm.trans finder
  | gone d' found sound null here trimmed threads =>
      refine ⟨fun _ => sound, fun _ _ => found, fun _ one => ?_⟩
      rw [here, trimmed one]
      exact ⟨freesExactly_write first, Memory.lookup_write⟩
  | doomed found nonNull owed =>
      refine ⟨fun few => absurd found (Nat.not_le.mpr (Nat.lt_succ_of_le few)), fun idle sound => ?_,
        fun _ one => absurd found (by omega)⟩
      obtain ⟨b, ⟨q, running, -⟩, -⟩ := owed sound
      cases (idle b).symm.trans running

end Invariant

end

/-! ## Two opens -/

section Demo

variable {T : Type} [DecidableEq T] {fuel : Nat} {dev : Ptr}

deriving instance DecidableEq for File

instance (e : Access) : DecidableEq e.Resp := by
  cases e <;> exact inferInstanceAs (DecidableEq _)

instance (busy : T → Bool) (q : OpenRequest T) (s : Shared) :
    Decidable ((openers T fuel dev).mayStart busy q s) := .isTrue trivial

instance (busy : T → Bool) (t : T) : Decidable ((openers T fuel dev).mayRun busy t) := .isTrue trivial

instance (e : Access) (s : Shared) (r : e.Resp) : Decidable ((openers T fuel dev).returns e s r) :=
  match run : e.run s.memory with
  | .ok (r', m') => decidable_of_iff (r = r') ⟨fun same r'' m'' run' => by
      cases run.symm.trans run'
      exact same, fun all => all r' m' run⟩
  | .error fault => .isTrue fun r' m' run' => nomatch run.symm.trans run'

def demoOpens : OpenConfig Bool := ⟨{ memory := demoStore }, fun _ => none⟩

theorem demoOpens_storeAt : StoreAt 2 1 demoDevice [⟨2, 3, [0, 4]⟩] demoOpens.state.memory :=
  ⟨Memory.lookup_write, demoStore_isStore, by decide, by decide⟩

/-- Opened for writing. -/
def writing : File := { fFlags := oWronly }

/-- The stores at the end of an open, and its return. -/
def closing (t : Bool) : List (OpenMove Bool) :=
  [.call t (.setSize 1 0) (), .call t (.setQuantum 1 scullQuantumSize) (),
    .call t (.setQset 1 scullQsetSize) (), .call t (.setData 1 0) (),
    .finish t (0, { writing with privateData := 1 })]

/-- A process that has found the store frees it. -/
def freeing (t : Bool) : List (OpenMove Bool) :=
  [.call t (.nodeData 2) (3 : Nat), .call t (.nodeData 2) (3 : Nat), .call t (.entry 3 0) (0 : Nat),
    .call t (.kfree 0) (), .call t (.nodeData 2) (3 : Nat), .call t (.entry 3 1) (4 : Nat),
    .call t (.kfree 4) (), .call t (.nodeData 2) (3 : Nat), .call t (.kfree 3) (),
    .call t (.setNodeData 2 0) (), .call t (.nodeNext 2) (0 : Nat), .call t (.kfree 2) ()]

/-- The second open begins before the first has found the store, and goes on when it has returned. -/
def oneFinds : List (OpenMove Bool) :=
  [.start ⟨true, writing⟩, .call true (.devQset 1) (2 : Int32), .start ⟨false, writing⟩,
    .call false (.devQset 1) (2 : Int32), .call true (.devData 1) (2 : Nat)] ++ freeing true ++
    closing true ++ [.call false (.devData 1) (0 : Nat)] ++ closing false

/-- Both find the store. -/
def bothFind : List (OpenMove Bool) :=
  [.start ⟨true, writing⟩, .call true (.devQset 1) (2 : Int32), .start ⟨false, writing⟩,
    .call false (.devQset 1) (2 : Int32), .call true (.devData 1) (2 : Nat),
    .call false (.devData 1) (2 : Nat)] ++ freeing true ++ closing true ++
    [.call false (.nodeData 2) (0 : Nat), .call false (.nodeNext 2) (0 : Nat),
      .call false (.kfree 2) ()] ++ closing false

/-- Without and with a double free. -/
theorem opens_unlocked_two :
    (∃ past c, Run (openers Bool 2 1).Step demoOpens past c ∧ (∀ t, c.threads t = none) ∧
      c.state.memory.freed = [4, 3, 2] ∧ c.state.fault = false ∧
      OpensSafely 1 demoDevice [⟨2, 3, [0, 4]⟩] demoStore past c) ∧
    ∃ past c, Run (openers Bool 2 1).Step demoOpens past c ∧ (∀ t, c.threads t = none) ∧
      c.state.fault = true ∧ OpensSafely 1 demoDevice [⟨2, 3, [0, 4]⟩] demoStore past c := by
  have idle : ∀ {c : OpenConfig Bool}, (c.busy true || c.busy false) = false →
      ∀ t, c.threads t = none := by
    intro c resting t
    have both := Bool.or_eq_false_iff.mp resting
    cases t with
    | true => exact Option.isSome_eq_false_iff.mp both.1 |> Option.isNone_iff_eq_none.mp
    | false => exact Option.isSome_eq_false_iff.mp both.2 |> Option.isNone_iff_eq_none.mp
  constructor
  · obtain ⟨past, c, run, -, reached⟩ := Machine.run_of_play (M := openers Bool 2 1)
      (fun _ _ => True) oneFinds demoOpens (fun c => !(c.busy true || c.busy false) &&
        decide (c.state.memory.freed = [4, 3, 2]) && !c.state.fault) (by decide +kernel)
    simp only [Bool.and_eq_true, Bool.not_eq_true', decide_eq_true_eq] at reached
    exact ⟨past, c, run, idle reached.1.1, reached.1.2, reached.2,
      opens_unlocked demoOpens_storeAt (fun _ => rfl) rfl run⟩
  · obtain ⟨past, c, run, -, reached⟩ := Machine.run_of_play (M := openers Bool 2 1)
      (fun _ _ => True) bothFind demoOpens (fun c => !(c.busy true || c.busy false) && c.state.fault)
      (by decide +kernel)
    simp only [Bool.and_eq_true, Bool.not_eq_true'] at reached
    exact ⟨past, c, run, idle reached.1, reached.2,
      opens_unlocked demoOpens_storeAt (fun _ => rfl) rfl run⟩

end Demo

end ScullDrivers.Scull
