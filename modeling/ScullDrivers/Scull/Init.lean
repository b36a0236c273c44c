import ScullDrivers.Scull.Representation

/-!
# Loading `scull`: all or nothing

`scull_init` gives device `i` the minor number of a base that `scull_init` and `scull_setup_cdev` both
add, and only prints what `cdev_add` answers.  The rollback, which it takes when a `kmalloc` fails,
undoes exactly the devices it has set up (`Standing.rollback`).  So it does all or nothing exactly when
it fails, or the base is 0 and no `cdev_add` fails (`scullInit_allOrNothing_iff`).
-/

namespace ScullDrivers.Scull

open Heap Outcome

/-! ## Device numbers -/

section Numbers

variable {a b : UInt32}

theorem toNat_mkdev : (mkdev a b).toNat = a.toNat % 2 ^ 12 * 2 ^ 20 ||| b.toNat := by
  unfold mkdev
  rw [UInt32.toNat_or, UInt32.toNat_shiftLeft, Nat.shiftLeft_eq]
  have shift : (20 : UInt32).toNat % 32 = 20 := rfl
  rw [shift, show 2 ^ 32 = 2 ^ 12 * 2 ^ 20 from rfl, Nat.mul_mod_mul_right]

theorem toNat_minor : (minor a).toNat = a.toNat % 2 ^ 20 := by
  unfold minor
  rw [UInt32.toNat_and, ← Nat.and_two_pow_sub_one_eq_mod]
  rfl

/-- The minor number of a device number is what is left of the one it was made with. -/
theorem minor_mkdev : (minor (mkdev a b)).toNat = b.toNat % 2 ^ 20 := by
  rw [toNat_minor, toNat_mkdev, Nat.or_mod_two_pow, Nat.mul_mod_left, Nat.zero_or]

/-- A minor number that fits is added to the numbers of its major. -/
theorem toNat_mkdev_of_lt (fits : b.toNat < 2 ^ 20) :
    (mkdev a b).toNat = a.toNat % 2 ^ 12 * 2 ^ 20 + b.toNat := by
  rw [toNat_mkdev, ← Nat.shiftLeft_eq, Nat.shiftLeft_add_eq_or_of_lt fits]

theorem major_mkdev (fits : b.toNat < 2 ^ 20) : (major (mkdev a b)).toNat = a.toNat % 2 ^ 12 := by
  unfold major
  have shift : (20 : UInt32).toNat % 32 = 20 := rfl
  rw [UInt32.toNat_shiftRight, shift, toNat_mkdev_of_lt fits, Nat.shiftRight_eq_div_pow]
  omega

theorem toNat_ofNat_of_lt {k : Nat} (fits : k < 2 ^ 20) : (UInt32.ofNat k).toNat = k := by
  exact UInt32.toNat_ofNat_of_lt' (lt_trans fits (by decide))

end Numbers

/-! ## What `scull_init` owes -/

/-- Each device is registered with its minor number, inside the region that was reserved. -/
def Registered (P : Params) (s : State) : Prop :=
  ∃ devno, s.region = some (devno, P.numDevices) ∧
    ∀ i < P.numDevices, ∃ dev, (dev, s.scullDevices i) ∈ s.cdevs ∧
      (minor dev).toNat = P.baseMinor + i ∧
      devno.toNat ≤ dev.toNat ∧ dev.toNat < devno.toNat + P.numDevices

/-- Nothing is left of a `scull_init` that failed: it released once what it obtained, the blocks of the
first `m` calls of `kmalloc` included, and no more. -/
structure NothingLeft (P : Params) (a : Answers) (s s' : State) : Prop where
  region : s'.region = none
  cdevs : s'.cdevs = []
  blocks : s'.memory.blocks = s.memory.blocks
  once : (a.region.1 ≠ 0 ∧ s'.memory.freed = s.memory.freed ∧ s'.released = s.released) ∨
    (a.region.1 = 0 ∧ ∃ m < P.numDevices, (a.kmalloc m).1 = 0 ∧ (∀ k < m, (a.kmalloc k).1 ≠ 0) ∧
      ((List.range m).map fun k => (a.kmalloc k).1).Nodup ∧
      s'.memory.freed = s.memory.freed ++ (List.range m).map (fun k => (a.kmalloc k).1) ∧
      s'.released = s.released ++ (List.range m).map (fun k => .cdev (a.kmalloc k).1) ++
        [.region (mkdev a.region.2 (UInt32.ofNat P.baseMinor)) P.numDevices])

/-- `scull_init` returned `result` and left `s'`: all of it, or nothing. -/
def AllOrNothing (P : Params) (a : Answers) (s : State) (result : Int) (s' : State) : Prop :=
  if result = 0 then Registered P s' else NothingLeft P a s s'

/-- The module holds nothing yet. -/
structure Unused (s : State) : Prop where
  scullDevices : ∀ i, s.scullDevices i = 0
  region : s.region = none
  cdevs : s.cdevs = []

/-! ## The devices that stand -/

/-- The number `scull_setup_cdev` gives to the `cdev` of device `k`. -/
def Params.devnoSp (P : Params) (devno : UInt32) (k : Nat) : UInt32 :=
  mkdev (major devno) (UInt32.ofNat (k + P.baseMinor + P.baseMinor))

/-- Since `s₀`, the devices below `i` were set up and those below `j` undone again. -/
structure Standing (P : Params) (a : Answers) (first : UInt32) (s₀ : State) (j i : Nat) (s : State) :
    Prop where
  scullDevices : ∀ k, s.scullDevices k = if k < i then (a.kmalloc k).1 else 0
  devno : s.devno = first
  contents : ∀ k, j ≤ k → k < i → ∃ d, s.memory.blocks.lookup (a.kmalloc k).1 = some (.dev d) ∧
    d.cdev.dev = P.devnoSp first k
  others : ∀ q, (∀ k, j ≤ k → k < i → q ≠ (a.kmalloc k).1) →
    s.memory.blocks.lookup q = s₀.memory.blocks.lookup q
  freed : s.memory.freed = s₀.memory.freed ++ (List.range j).map fun k => (a.kmalloc k).1
  mem_cdevs : ∀ e, e ∈ s.cdevs ↔
    ∃ k, j ≤ k ∧ k < i ∧ a.cdevAdd k = 0 ∧ e = (P.devnoSp first k, (a.kmalloc k).1)
  nodup : s.cdevs.Nodup
  region : s.region = some (first, P.numDevices)
  released : s.released = s₀.released ++ (List.range j).map fun k => .cdev (a.kmalloc k).1

/-- The first `i` blocks of `kmalloc` are different blocks that were not in use before. -/
structure Granted (a : Answers) (s₀ : State) (i : Nat) : Prop where
  nonNull : ∀ k < i, (a.kmalloc k).1 ≠ 0
  unused : ∀ k < i, (a.kmalloc k).1 ∉ s₀.memory.blocks
  distinct : ∀ k < i, ∀ l < i, (a.kmalloc k).1 = (a.kmalloc l).1 → k = l

section

variable {P : Params} {a : Answers} {first : UInt32} {s₀ s s' : State} {i j left : Nat}

theorem Answers.Fresh.granted (fresh : a.Fresh P.numDevices s₀) (le : i ≤ P.numDevices)
    (nonNull : ∀ k < i, (a.kmalloc k).1 ≠ 0) : Granted a s₀ i := by
  refine ⟨nonNull, fun k lt => (fresh k (by omega) (nonNull k lt)).1, fun k lt l lt' same => ?_⟩
  rcases Nat.lt_trichotomy k l with below | eq | above
  · exact absurd same ((fresh l (by omega) (nonNull l lt')).2 k below)
  · exact eq
  · exact absurd same.symm ((fresh k (by omega) (nonNull k lt)).2 l above)

/-- One more device is set up. -/
theorem Standing.setup (standing : Standing P a first s₀ 0 i s) (granted : Granted a s₀ (i + 1)) :
    ∃ s', scullSetupCdev P (a.kmalloc i).1 (i + P.baseMinor) (a.cdevAdd i) { s with
        memory := s.memory.write (a.kmalloc i).1 (.dev (a.kmalloc i).2)
        scullDevices := Function.update s.scullDevices i (a.kmalloc i).1 } = .ok s' ∧
      Standing P a first s₀ 0 (i + 1) s' := by
  have apart : ∀ k < i, (a.kmalloc k).1 ≠ (a.kmalloc i).1 := fun k lt same =>
    lt.ne (granted.distinct k (by omega) i (by omega) same)
  have number : mkdev (major s.devno) (UInt32.ofNat (i + P.baseMinor + P.baseMinor)) =
      P.devnoSp first i := by
    rw [standing.devno]
    rfl
  refine ⟨_, scullSetupCdev_eq Memory.lookup_write, ?_⟩
  simp only [Memory.write_write, number]
  refine ⟨fun k => ?_, standing.devno, fun k _ lt => ?_, fun q out => ?_, standing.freed, fun e => ?_,
    ?_, standing.region, standing.released⟩
  · rcases eq_or_ne k i with rfl | ne
    · exact (Function.update_self ..).trans (if_pos (Nat.lt_succ_self _)).symm
    · refine (Function.update_of_ne ne _ _).trans ((standing.scullDevices k).trans ?_)
      exact if_congr (by omega) rfl rfl
  · rcases Nat.lt_or_eq_of_le (Nat.le_of_lt_succ lt) with below | rfl
    · obtain ⟨d, entry, dev⟩ := standing.contents k (Nat.zero_le k) below
      exact ⟨d, (Memory.lookup_write_ne (apart k below)).trans entry, dev⟩
    · exact ⟨_, Memory.lookup_write, rfl⟩
  · have ne : q ≠ (a.kmalloc i).1 := out i (Nat.zero_le i) (Nat.lt_succ_self i)
    rw [Memory.lookup_write_ne ne]
    exact standing.others q fun k le lt => out k le (Nat.lt_succ_of_lt lt)
  · split
    · rename_i added
      rw [List.mem_append, List.mem_singleton, standing.mem_cdevs]
      constructor
      · intro either
        rcases either with ⟨k, le, lt, here, same⟩ | same
        · exact ⟨k, le, Nat.lt_succ_of_lt lt, here, same⟩
        · exact ⟨i, Nat.zero_le i, Nat.lt_succ_self i, added, same⟩
      · intro either
        obtain ⟨k, le, lt, here, same⟩ := either
        rcases Nat.lt_or_eq_of_le (Nat.le_of_lt_succ lt) with below | rfl
        · exact .inl ⟨k, le, below, here, same⟩
        · exact .inr same
    · rename_i failed
      rw [standing.mem_cdevs]
      constructor
      · intro either
        obtain ⟨k, le, lt, rest⟩ := either
        exact ⟨k, le, Nat.lt_succ_of_lt lt, rest⟩
      · intro either
        obtain ⟨k, le, lt, here, same⟩ := either
        rcases Nat.lt_or_eq_of_le (Nat.le_of_lt_succ lt) with below | rfl
        · exact ⟨k, le, below, here, same⟩
        · exact absurd here failed
  · split
    · refine List.nodup_append.mpr ⟨standing.nodup, List.nodup_singleton _, ?_⟩
      intro e mem e' mem' same
      obtain ⟨k, -, lt, -, rfl⟩ := (standing.mem_cdevs e).mp mem
      rw [List.mem_singleton] at mem'
      rw [mem'] at same
      exact apart k lt (Prod.ext_iff.mp same).2
    · exact standing.nodup

/-- One device is undone. -/
theorem Standing.undo (standing : Standing P a first s₀ j i s) (granted : Granted a s₀ i)
    (lt : j < i) :
    ∃ s₁ memory, cdevDel (s.scullDevices j) s = .ok s₁ ∧
      s₁.memory.kfree (s₁.scullDevices j) = .ok memory ∧
      Standing P a first s₀ (j + 1) i { s₁ with memory } := by
  have here : s.scullDevices j = (a.kmalloc j).1 := (standing.scullDevices j).trans (if_pos lt)
  obtain ⟨d, entry, dev⟩ := standing.contents j le_rfl lt
  refine ⟨{ s with
    cdevs := s.cdevs.erase (d.cdev.dev, (a.kmalloc j).1)
    released := s.released ++ [.cdev (a.kmalloc j).1] }, s.memory.drop (a.kmalloc j).1, ?_, ?_, ?_⟩
  · rw [here]
    exact bind_eq_ok.mpr ⟨d, loadDev_eq_ok.mpr entry, rfl⟩
  · rw [here]
    exact Memory.kfree_eq_ok.mpr
      (.inr ⟨granted.nonNull j lt, Finmap.mem_of_lookup_eq_some entry, rfl⟩)
  refine ⟨standing.scullDevices, standing.devno, fun k le lt' => ?_, fun q out => ?_, ?_, fun e => ?_,
    ?_, standing.region, ?_⟩
  · obtain ⟨d', entry', dev'⟩ := standing.contents k (by omega) lt'
    refine ⟨d', (Memory.lookup_drop_ne fun same => ?_).trans entry', dev'⟩
    have := granted.distinct k lt' j lt same
    omega
  · rcases eq_or_ne q (a.kmalloc j).1 with rfl | ne
    · rw [Memory.lookup_drop]
      exact (Finmap.lookup_eq_none.mpr (granted.unused j lt)).symm
    · rw [Memory.lookup_drop_ne ne]
      refine standing.others q fun k le lt' => ?_
      rcases Nat.lt_or_eq_of_le le with above | rfl
      · exact out k above lt'
      · exact ne
  · rw [Memory.drop, standing.freed, List.range_succ, List.map_append, List.append_assoc]
    rfl
  · rw [dev, standing.nodup.mem_erase_iff, standing.mem_cdevs]
    constructor
    · intro both
      obtain ⟨ne, k, le, lt', added, rfl⟩ := both
      rcases Nat.lt_or_eq_of_le le with above | rfl
      · exact ⟨k, above, lt', added, rfl⟩
      · exact absurd rfl ne
    · intro some
      obtain ⟨k, le, lt', added, rfl⟩ := some
      refine ⟨fun same => ?_, k, by omega, lt', added, rfl⟩
      have := granted.distinct k lt' j lt (Prod.ext_iff.mp same).2
      omega
  · exact standing.nodup.erase _
  · rw [standing.released, List.range_succ, List.map_append, List.append_assoc]
    rfl

/-- The loop at `fail:` passes over devices that were not set up. -/
theorem scullInitFailLoop_null (null : ∀ k, j ≤ k → s.scullDevices k = 0) :
    scullInitFailLoop left j s = .ok s := by
  induction left generalizing j with
  | zero => rfl
  | succ left ih =>
      rw [scullInitFailLoop, if_neg (not_not.mpr (null j le_rfl))]
      exact ih fun k le => null k (by omega)

/-- The loop at `fail:` undoes the devices that stand, and no other. -/
theorem Standing.rollback (standing : Standing P a first s₀ j i s) (granted : Granted a s₀ i)
    (le : j ≤ i) (within : i ≤ j + left) :
    ∃ s', scullInitFailLoop left j s = .ok s' ∧ Standing P a first s₀ i i s' := by
  induction left generalizing j s with
  | zero =>
      obtain rfl : j = i := by omega
      exact ⟨s, rfl, standing⟩
  | succ left ih =>
      rcases Nat.lt_or_eq_of_le le with lt | rfl
      · obtain ⟨s₁, memory, del, free, next⟩ := standing.undo granted lt
        obtain ⟨s', rest, done⟩ := ih next lt (by omega)
        refine ⟨s', ?_, done⟩
        have nonNull : s.scullDevices j ≠ 0 := by
          rw [standing.scullDevices, if_pos lt]
          exact granted.nonNull j lt
        rw [scullInitFailLoop, if_pos nonNull]
        refine bind_eq_ok.mpr ⟨s₁, del, bind_eq_ok.mpr ⟨memory, ?_, rest⟩⟩
        exact free
      · refine ⟨s, scullInitFailLoop_null fun k above => ?_, standing⟩
        rw [standing.scullDevices, if_neg (by omega)]

/-- When all that stood is undone, nothing is left. -/
theorem Standing.nothingLeft (standing : Standing P a first s₀ i i s) (granted : Granted a s₀ i)
    (answered : a.region.1 = 0) (null : (a.kmalloc i).1 = 0) (lt : i < P.numDevices)
    (number : first = mkdev a.region.2 (UInt32.ofNat P.baseMinor)) :
    NothingLeft P a s₀ (unregisterChrdevRegion s.devno P.numDevices s) where
  region := rfl
  cdevs := by
    refine List.eq_nil_iff_forall_not_mem.mpr fun e mem => ?_
    obtain ⟨k, le, lt', -⟩ := (standing.mem_cdevs e).mp mem
    omega
  blocks := by
    refine Finmap.ext_lookup fun q => standing.others q fun k le lt' => ?_
    omega
  once := by
    refine .inr ⟨answered, i, lt, null, granted.nonNull, ?_, standing.freed, ?_⟩
    · refine List.Nodup.map_on (fun k mem l mem' same => ?_) List.nodup_range
      exact granted.distinct k (List.mem_range.mp mem) l (List.mem_range.mp mem') same
    · show s.released ++ [.region s.devno P.numDevices] = _
      rw [standing.released, standing.devno, number]

theorem scullInitLoop_succ : scullInitLoop P a (left + 1) i s =
    if (a.kmalloc i).1 = 0 then
      scullInitFail P { s with
        scullDevices := Function.update s.scullDevices i (a.kmalloc i).1 }
    else scullSetupCdev P (a.kmalloc i).1 (i + P.baseMinor) (a.cdevAdd i) { s with
        memory := s.memory.write (a.kmalloc i).1 (.dev (a.kmalloc i).2)
        scullDevices := Function.update s.scullDevices i (a.kmalloc i).1 } >>=
      scullInitLoop P a left (i + 1) :=
  rfl

/-- The loop of `scull_init` sets up all devices, or undoes those it has set up when a `kmalloc`
fails. -/
theorem Standing.loop (standing : Standing P a first s₀ 0 i s) (fresh : a.Fresh P.numDevices s₀)
    (nonNull : ∀ k < i, (a.kmalloc k).1 ≠ 0) (total : i + left = P.numDevices)
    (answered : a.region.1 = 0) (number : first = mkdev a.region.2 (UInt32.ofNat P.baseMinor)) :
    (∃ s', scullInitLoop P a left i s = .ok (0, s') ∧ (∀ k < P.numDevices, (a.kmalloc k).1 ≠ 0) ∧
      Standing P a first s₀ 0 P.numDevices s') ∨
    (∃ s', scullInitLoop P a left i s = .ok (-enomem, s') ∧
      (∃ k < P.numDevices, (a.kmalloc k).1 = 0) ∧ NothingLeft P a s₀ s') := by
  induction left generalizing i s with
  | zero =>
      obtain rfl : i = P.numDevices := total
      exact .inl ⟨s, rfl, nonNull, standing⟩
  | succ left ih =>
      by_cases null : (a.kmalloc i).1 = 0
      · right
        have granted := fresh.granted (i := i) (by omega) nonNull
        have failed : Standing P a first s₀ 0 i { s with
            scullDevices := Function.update s.scullDevices i (a.kmalloc i).1 } := by
          refine { standing with scullDevices := fun k => ?_ }
          rcases eq_or_ne k i with rfl | ne
          · rw [if_neg (lt_irrefl _)]
            exact (Function.update_self ..).trans null
          · exact (Function.update_of_ne ne _ _).trans (standing.scullDevices k)
        have within : i ≤ 0 + P.numDevices := by omega
        obtain ⟨s', undo, undone⟩ := failed.rollback granted (Nat.zero_le i) within
        refine ⟨_, ?_, ⟨i, by omega, null⟩, undone.nothingLeft granted answered null (by omega) number⟩
        rw [scullInitLoop_succ, if_pos null]
        exact bind_eq_ok.mpr ⟨s', undo, rfl⟩
      · have longer : ∀ k < i + 1, (a.kmalloc k).1 ≠ 0 := by
          intro k lt
          rcases Nat.lt_or_eq_of_le (Nat.le_of_lt_succ lt) with below | rfl
          · exact nonNull k below
          · exact null
        obtain ⟨s₁, setup, next⟩ := standing.setup (fresh.granted (by omega) longer)
        have step : scullInitLoop P a (left + 1) i s = scullInitLoop P a left (i + 1) s₁ := by
          rw [scullInitLoop_succ, if_neg null]
          exact (congrArg (· >>= scullInitLoop P a left (i + 1)) setup).trans rfl
        rw [step]
        exact ih next longer (by omega)

/-! ## Minor numbers -/

/-- The base is added twice. -/
theorem minor_devnoSp {k : Nat} :
    (minor (P.devnoSp first k)).toNat = (k + P.baseMinor + P.baseMinor) % 2 ^ 20 := by
  unfold Params.devnoSp
  rw [minor_mkdev, UInt32.toNat_ofNat']
  omega

/-- Without a base to add, the number of device `k` is the `k`-th of the region. -/
theorem toNat_devnoSp {k : Nat} (number : first = mkdev a.region.2 (UInt32.ofNat P.baseMinor))
    (zero : P.baseMinor = 0) (lt : k < 2 ^ 20) : (P.devnoSp first k).toNat = first.toNat + k := by
  unfold Params.devnoSp
  have own : (UInt32.ofNat (k + P.baseMinor + P.baseMinor)).toNat = k := by
    rw [zero]
    exact toNat_ofNat_of_lt lt
  have base : (UInt32.ofNat P.baseMinor).toNat = 0 := by
    rw [zero]
    rfl
  rw [toNat_mkdev_of_lt (by omega), own, number, major_mkdev (by omega),
    toNat_mkdev_of_lt (by omega), base]
  omega

/-- The devices that were set up are all registered as they should be exactly when there is no base to
add and no `cdev_add` failed. -/
theorem Standing.registered_iff (standing : Standing P a first s₀ 0 P.numDevices s)
    (granted : Granted a s₀ P.numDevices) (some : 1 ≤ P.numDevices)
    (within : P.baseMinor + P.numDevices ≤ 2 ^ 20)
    (number : first = mkdev a.region.2 (UInt32.ofNat P.baseMinor)) :
    Registered P s ↔ P.baseMinor = 0 ∧ ∀ i < P.numDevices, a.cdevAdd i = 0 := by
  constructor
  · intro registered
    obtain ⟨devno, -, devices⟩ := registered
    have own : ∀ i < P.numDevices,
        a.cdevAdd i = 0 ∧ (i + P.baseMinor + P.baseMinor) % 2 ^ 20 = P.baseMinor + i := by
      intro i lt
      obtain ⟨dev, mem, number, -⟩ := devices i lt
      obtain ⟨k, -, lt', added, same⟩ := (standing.mem_cdevs _).mp mem
      obtain ⟨rfl, same⟩ := Prod.ext_iff.mp same
      rw [standing.scullDevices, if_pos lt] at same
      obtain rfl := granted.distinct i lt k lt' same
      exact ⟨added, minor_devnoSp.symm.trans number⟩
    refine ⟨?_, fun i lt => (own i lt).1⟩
    have := (own 0 some).2
    omega
  · intro both
    obtain ⟨zero, added⟩ := both
    refine ⟨first, standing.region, fun i lt => ⟨P.devnoSp first i, ?_, ?_, ?_⟩⟩
    · rw [standing.scullDevices, if_pos lt]
      exact (standing.mem_cdevs _).mpr ⟨i, Nat.zero_le i, lt, added i lt, rfl⟩
    · rw [minor_devnoSp]
      omega
    · rw [toNat_devnoSp number zero (by omega)]
      omega

theorem outcome_iff {Q : Int → State → Prop} {x : Except Fault (Int × State)} {result : Int}
    (run : x = .ok (result, s)) :
    (∃ result s, x = .ok (result, s) ∧ Q result s) ↔ Q result s := by
  subst run
  constructor
  · intro some
    obtain ⟨_, _, same, good⟩ := some
    cases same
    exact good
  · exact fun good => ⟨_, _, rfl, good⟩

/-- The state in which the loop starts, with the region reserved. -/
def State.begin (P : Params) (a : Answers) (s : State) : State :=
  { s with
    devno := mkdev a.region.2 (UInt32.ofNat P.baseMinor)
    region := some (mkdev a.region.2 (UInt32.ofNat P.baseMinor), P.numDevices) }

theorem scullInit_eq (answered : a.region.1 = 0) :
    scullInit P a s = scullInitLoop P a P.numDevices 0 (s.begin P a) :=
  if_neg (not_not.mpr answered)

/-- Nothing stands yet. -/
theorem Unused.standing (unused : Unused s) :
    Standing P a (mkdev a.region.2 (UInt32.ofNat P.baseMinor)) s 0 0 (s.begin P a) := by
  refine ⟨unused.scullDevices, rfl, fun k _ lt => absurd lt (Nat.not_lt_zero k), fun _ _ => rfl,
    (List.append_nil _).symm, fun e => ?_, ?_, rfl, (List.append_nil _).symm⟩
  · rw [State.begin, unused.cdevs]
    refine iff_of_false List.not_mem_nil fun either => ?_
    obtain ⟨k, -, lt, -⟩ := either
    exact Nat.not_lt_zero k lt
  · rw [State.begin, unused.cdevs]
    exact List.nodup_nil

/-- **All or nothing.**  Loading makes no fault, and does all it should or leaves nothing behind
exactly when it fails, at the region or at a `kmalloc`, or there is no base to add and no `cdev_add`
fails. -/
theorem scullInit_allOrNothing_iff (unused : Unused s) (fresh : a.Fresh P.numDevices s)
    (some : 1 ≤ P.numDevices) (within : P.baseMinor + P.numDevices ≤ 2 ^ 20) :
    (∃ result s', scullInit P a s = .ok (result, s') ∧ AllOrNothing P a s result s') ↔
      a.region.1 ≠ 0 ∨ (∃ i < P.numDevices, (a.kmalloc i).1 = 0) ∨
        (P.baseMinor = 0 ∧ ∀ i < P.numDevices, a.cdevAdd i = 0) := by
  rcases eq_or_ne a.region.1 0 with answered | refused
  · have looped := unused.standing.loop fresh (fun k lt => absurd lt (Nat.not_lt_zero k))
      (Nat.zero_add _) answered rfl
    rw [scullInit_eq answered]
    rcases looped with ⟨s', run, nonNull, standing⟩ | ⟨s', run, null, nothing⟩
    · have same := standing.registered_iff (fresh.granted le_rfl nonNull) some within rfl
      rw [outcome_iff run, AllOrNothing, if_pos rfl, same]
      constructor
      · exact fun good => .inr (.inr good)
      · intro either
        rcases either with refused | ⟨i, lt, null⟩ | good
        · exact absurd answered refused
        · exact absurd null (nonNull i lt)
        · exact good
    · rw [outcome_iff run, AllOrNothing, if_neg (by decide)]
      exact iff_of_true nothing (.inr (.inl null))
  · have run : scullInit P a s = .ok (a.region.1, s) := if_pos refused
    rw [outcome_iff run, AllOrNothing, if_neg refused]
    refine iff_of_true ⟨unused.region, unused.cdevs, rfl, ?_⟩ (.inl refused)
    exact .inl ⟨refused, rfl, rfl⟩

end

/-! ## A base, and a device that cannot be added -/

theorem loadedState_unused : Unused loadedState := ⟨fun _ => rfl, rfl, rfl⟩

/-- With four devices from minor 0 on, and every call granted, it is all. -/
theorem scullInit_all : ∃ result s, scullInit demoParams (grantAll 0) loadedState = .ok (result, s) ∧
    AllOrNothing demoParams (grantAll 0) loadedState result s := by
  refine (scullInit_allOrNothing_iff loadedState_unused (grantAll_fresh 0) ?_ ?_).mpr ?_
  · decide
  · decide
  · exact .inr (.inr ⟨rfl, fun _ _ => rfl⟩)

/-- With a base of 1 every device has the minor number of its neighbour, the last one one outside the
region. -/
theorem scullInit_notAll : ¬ ∀ (P : Params) (a : Answers) (s : State), Unused s →
    a.Fresh P.numDevices s → 1 ≤ P.numDevices → P.baseMinor + P.numDevices ≤ 2 ^ 20 →
    ∃ result s', scullInit P a s = .ok (result, s') ∧ AllOrNothing P a s result s' := by
  intro claim
  obtain ⟨result, s', run, good⟩ := claim { demoParams with baseMinor := 1 } (grantAll 0) loadedState
    loadedState_unused (grantAll_fresh 0) (by decide) (by decide)
  have numbers : ∀ e ∈ s'.cdevs, e.2 = 4 → (minor e.1).toNat = 5 := by
    cases run
    decide
  have here : s'.scullDevices 3 = 4 := by
    cases run
    rfl
  have done : result = 0 := by
    cases run
    rfl
  rw [AllOrNothing, if_pos done] at good
  obtain ⟨devno, -, devices⟩ := good
  obtain ⟨dev, mem, number, -⟩ := devices 3 (by decide)
  have other := numbers _ mem here
  rw [number] at other
  exact absurd other (by decide)

end ScullDrivers.Scull
