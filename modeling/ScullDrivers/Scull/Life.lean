import ScullDrivers.Scull.Init

/-!
# The life of the `scull` module

`scull_init`, any file operations on the devices in any order, `scull_exit`.  The devices hold no store
as long as their data pointers are `NULL`, which no file operation changes (`Serving.run`), so
`scull_exit` finds what `scull_init` left (`Serving.exit`).  A module whose devices come with anything
else in their data pointers makes a fault when the device is opened for writing.  So the life of the
module makes no fault and gives everything back once, whatever the files are used for, exactly when
`kmalloc` happens to return memory with `NULL` there (`life_iff`).
-/

namespace ScullDrivers.Scull

open Heap Outcome

/-- After `scull_exit` memory and the kernel are as they were before `scull_init`: the region, each
`cdev` and each block of a device were released once, and nothing else. -/
structure Unloaded (P : Params) (a : Answers) (s s' : State) : Prop where
  blocks : s'.memory.blocks = s.memory.blocks
  freed : s'.memory.freed = s.memory.freed ++ (List.range P.numDevices).map fun k => (a.kmalloc k).1
  once : ((List.range P.numDevices).map fun k => (a.kmalloc k).1).Nodup
  cdevs : s'.cdevs = []
  region : s'.region = none
  released : s'.released = s.released ++
    .region (mkdev a.region.2 (UInt32.ofNat P.baseMinor)) P.numDevices ::
      (List.range P.numDevices).map fun k => .cdev (a.kmalloc k).1

/-- The devices are in use: all of them stand, and none has a store. -/
structure Serving (P : Params) (a : Answers) (first : UInt32) (s₀ s : State) : Prop where
  standing : Standing P a first s₀ 0 P.numDevices s
  empty : ∀ k < P.numDevices, ∀ d, s.memory.blocks.lookup (a.kmalloc k).1 = some (.dev d) → d.data = 0

section

variable {P : Params} {a : Answers} {first : UInt32} {s₀ s s' : State} {i j left : Nat}

/-! ## File operations -/

/-- What the devices stand for does not depend on what is in them besides their `cdev`. -/
theorem Standing.write {d d' : ScullDev} (standing : Standing P a first s₀ j i s)
    (granted : Granted a s₀ i) {l : Nat} (le : j ≤ l) (lt : l < i)
    (block : s.memory.blocks.lookup (a.kmalloc l).1 = some (.dev d)) (same : d'.cdev = d.cdev) :
    Standing P a first s₀ j i { s with memory := s.memory.write (a.kmalloc l).1 (.dev d') } := by
  refine { standing with contents := fun k le' lt' => ?_, others := fun q out => ?_ }
  · rcases eq_or_ne k l with rfl | ne
    · obtain ⟨b, entry, dev⟩ := standing.contents k le' lt'
      cases block.symm.trans entry
      exact ⟨d', Memory.lookup_write, (congrArg Cdev.dev same).trans dev⟩
    · obtain ⟨b, entry, dev⟩ := standing.contents k le' lt'
      have apart : (a.kmalloc k).1 ≠ (a.kmalloc l).1 := fun eq =>
        ne (granted.distinct k lt' l lt eq)
      exact ⟨b, (Memory.lookup_write_ne apart).trans entry, dev⟩
  · rw [Memory.lookup_write_ne (out l le lt)]
    exact standing.others q out

/-- Opening a device for writing resets it and frees nothing. -/
theorem Serving.trim {l : Nat} (serving : Serving P a first s₀ s)
    (granted : Granted a s₀ P.numDevices) (lt : l < P.numDevices) :
    ∃ memory, scullTrim (s.scullDevices l) s.memory = .ok (0, memory) ∧
      Serving P a first s₀ { s with memory } := by
  obtain ⟨standing, empty⟩ := serving
  obtain ⟨d, block, -⟩ := standing.contents l (Nat.zero_le l) lt
  have here : s.scullDevices l = (a.kmalloc l).1 := (standing.scullDevices l).trans (if_pos lt)
  have noStore : IsStore s.memory d.qset.toInt d.data [] := empty l lt d block
  refine ⟨s.memory.write (a.kmalloc l).1 (.dev d.trimmed), ?_, ?_, fun k below b entry => ?_⟩
  · rw [here]
    exact scullTrim_store block noStore List.nodup_nil
  · exact standing.write granted (Nat.zero_le l) lt block rfl
  · rcases eq_or_ne (a.kmalloc k).1 (a.kmalloc l).1 with same | apart
    · rw [same] at entry
      cases Memory.lookup_write.symm.trans entry
      rfl
    · exact empty k below b ((Memory.lookup_write_ne apart).symm.trans entry)

/-- Each file operation makes no fault and leaves the devices in use. -/
theorem Serving.step (serving : Serving P a first s₀ s) (granted : Granted a s₀ P.numDevices)
    (op : Op P.numDevices) :
    ∃ result s', op.run s = .ok (result, s') ∧ Serving P a first s₀ s' := by
  cases op with
  | openFile l fFlags =>
      by_cases wronly : fFlags &&& oAccmode = oWronly
      · obtain ⟨memory, trim, serving'⟩ := serving.trim granted l.isLt
        refine ⟨0, _, ?_, serving'⟩
        unfold Op.run scullOpen
        simp only [if_pos wronly, trim]
        rfl
      · refine ⟨0, s, ?_, serving⟩
        unfold Op.run scullOpen
        simp only [if_neg wronly]
        rfl
  | read l count notCopied fPos => exact ⟨_, s, rfl, serving⟩
  | write l count => exact ⟨_, s, rfl, serving⟩
  | release l => exact ⟨_, s, rfl, serving⟩

/-- So does every sequence of them. -/
theorem Serving.run (serving : Serving P a first s₀ s) (granted : Granted a s₀ P.numDevices)
    (ops : List (Op P.numDevices)) : ∃ s', runOps ops s = .ok s' ∧ Serving P a first s₀ s' := by
  induction ops generalizing s with
  | nil => exact ⟨s, rfl, serving⟩
  | cons op ops ih =>
      obtain ⟨result, s₁, first, serving₁⟩ := serving.step granted op
      obtain ⟨s', rest, serving'⟩ := ih serving₁
      exact ⟨s', bind_eq_ok.mpr ⟨_, first, rest⟩, serving'⟩

/-! ## `scull_exit` -/

/-- The loop does not look at the region, nor at what was released before. -/
theorem scullExitLoop_frame (run : scullExitLoop left j s = .ok s') :
    ∃ log, s'.released = s.released ++ log ∧ ∀ region released,
      scullExitLoop left j { s with region, released } =
        .ok { s' with region, released := released ++ log } := by
  unfold scullExitLoop at run ⊢
  induction left generalizing j s with
  | zero =>
      cases run
      refine ⟨[], (List.append_nil _).symm, fun region released => ?_⟩
      rw [List.append_nil]
      rfl
  | succ left ih =>
      by_cases present : s.scullDevices j ≠ 0
      · rw [scullInitFailLoop, if_pos present] at run
        obtain ⟨s₁, del, run⟩ := bind_eq_ok.mp run
        obtain ⟨d, load, made⟩ := bind_eq_ok.mp del
        cases made
        obtain ⟨memory, free, run⟩ := bind_eq_ok.mp run
        obtain ⟨log, released_eq, again⟩ := ih run
        refine ⟨.cdev (s.scullDevices j) :: log, ?_, fun region released => ?_⟩
        · exact released_eq.trans (List.append_cons _ _ _).symm
        · rw [scullInitFailLoop, if_pos present, List.append_cons]
          refine bind_eq_ok.mpr ⟨_, bind_eq_ok.mpr ⟨d, load, rfl⟩, bind_eq_ok.mpr ⟨memory, free, ?_⟩⟩
          exact again region (released ++ [.cdev (s.scullDevices j)])
      · rw [scullInitFailLoop, if_neg present] at run
        obtain ⟨log, released_eq, again⟩ := ih run
        refine ⟨log, released_eq, fun region released => ?_⟩
        rw [scullInitFailLoop, if_neg present]
        exact again region released

/-- Unloading gives back all that stands. -/
theorem Standing.exit (standing : Standing P a first s₀ 0 P.numDevices s)
    (granted : Granted a s₀ P.numDevices)
    (number : first = mkdev a.region.2 (UInt32.ofNat P.baseMinor)) :
    ∃ s', scullExit P s = .ok s' ∧ Unloaded P a s₀ s' := by
  obtain ⟨s', undo, undone⟩ :=
    standing.rollback granted (Nat.zero_le _) (Nat.le_of_eq (Nat.zero_add _).symm)
  obtain ⟨log, released, frame⟩ := scullExitLoop_frame undo
  have devices : log = (List.range P.numDevices).map fun k => .cdev (a.kmalloc k).1 := by
    have same := released.symm.trans undone.released
    have before : s.released = s₀.released := standing.released.trans (List.append_nil _)
    rw [before] at same
    exact List.append_cancel_left same
  have exit : scullExit P s = .ok { s' with
      region := none, released := s.released ++ [.region s.devno P.numDevices] ++ log } := by
    rw [scullExit, unregisterChrdevRegion]
    exact frame none (s.released ++ [.region s.devno P.numDevices])
  refine ⟨_, exit, ?_, undone.freed, ?_, ?_, rfl, ?_⟩
  · refine Finmap.ext_lookup fun q => undone.others q fun k le lt => ?_
    omega
  · refine List.Nodup.map_on (fun k mem l mem' same => ?_) List.nodup_range
    exact granted.distinct k (List.mem_range.mp mem) l (List.mem_range.mp mem') same
  · refine List.eq_nil_iff_forall_not_mem.mpr fun e mem => ?_
    obtain ⟨k, le, lt, -⟩ := (undone.mem_cdevs e).mp mem
    omega
  · show s.released ++ [.region s.devno P.numDevices] ++ log = _
    have before : s.released = s₀.released := standing.released.trans (List.append_nil _)
    rw [devices, before, standing.devno, number, List.append_assoc, List.singleton_append]

/-! ## The whole life -/

theorem Loaded.unused (loaded : Loaded s) : Unused s :=
  ⟨loaded.scullDevices, loaded.region, loaded.cdevs⟩

/-- What a `scull_init` that succeeds leaves. -/
theorem scullInit_standing (loaded : Loaded s) (fresh : a.Fresh P.numDevices s)
    (init : scullInit P a s = .ok (0, s')) :
    Granted a s P.numDevices ∧
      Standing P a (mkdev a.region.2 (UInt32.ofNat P.baseMinor)) s 0 P.numDevices s' := by
  rcases eq_or_ne a.region.1 0 with answered | refused
  · have looped := loaded.unused.standing.loop fresh (fun k lt => absurd lt (Nat.not_lt_zero k))
      (Nat.zero_add _) answered rfl
    rw [scullInit_eq answered] at init
    rcases looped with ⟨s₁, run, nonNull, standing⟩ | ⟨s₁, run, -, -⟩
    · cases run.symm.trans init
      exact ⟨fresh.granted le_rfl nonNull, standing⟩
    · cases run.symm.trans init
  · have run : scullInit P a s = .ok (a.region.1, s) := if_pos refused
    have answered : a.region.1 = 0 := (Prod.ext_iff.mp (Except.ok.inj (run.symm.trans init))).1
    exact absurd answered refused

/-- Opening a device for writing follows its data pointer. -/
theorem scullTrim_not_ok {m : Mem} {dev : Ptr} {d : ScullDev} {r : Int × Mem}
    (block : m.blocks.lookup dev = some (.dev d)) (store : d.data ≠ 0)
    (noQset : ∀ node, m.blocks.lookup d.data ≠ some (.qset node)) : scullTrim dev m ≠ .ok r := by
  intro run
  obtain ⟨d', load, run⟩ := bind_eq_ok.mp run
  cases Option.some.inj (block.symm.trans (loadDev_eq_ok.mp load))
  obtain ⟨m', loop, -⟩ := bind_eq_ok.mp run
  rw [scullTrimLoop, if_neg store] at loop
  obtain ⟨next, body, -⟩ := bind_eq_ok.mp loop
  obtain ⟨node, first, -⟩ := bind_eq_ok.mp body
  exact noQset node (loadQset_eq_ok.mp first)

/-- **The life of the module.**  After a `scull_init` that succeeds, whatever the kernel answered to
`cdev_add`, every sequence of file operations followed by `scull_exit` makes no fault and leaves memory
and the kernel as they were, each thing obtained released once, exactly when the memory of every device
happened to have `NULL` for its data pointer. -/
theorem life_iff (loaded : Loaded s) (fresh : a.Fresh P.numDevices s)
    (init : scullInit P a s = .ok (0, s')) :
    (∀ ops : List (Op P.numDevices), ∃ s₁ s₂, runOps ops s' = .ok s₁ ∧ scullExit P s₁ = .ok s₂ ∧
      Unloaded P a s s₂) ↔ ∀ i < P.numDevices, (a.kmalloc i).2.data = 0 := by
  obtain ⟨granted, standing⟩ := scullInit_standing loaded fresh init
  have placed := scullInit_ok loaded fresh init
  constructor
  · intro life i lt
    by_contra store
    obtain ⟨s₁, s₂, run, -, -⟩ := life [.openFile ⟨i, lt⟩ oWronly]
    obtain ⟨d, block, data⟩ := placed.contents i lt
    rw [← placed.scullDevices i lt] at block
    obtain ⟨result, opened, -⟩ := bind_eq_ok.mp run
    obtain ⟨opened', opened, -⟩ := bind_eq_ok.mp opened
    have wronly : oWronly &&& oAccmode = oWronly := by decide
    rw [scullOpen, if_pos wronly] at opened
    obtain ⟨trimmed, trim, -⟩ := bind_eq_ok.mp opened
    exact scullTrim_not_ok block (data ▸ store) (fun node => placed.noQset _ node) trim
  · intro null ops
    have serving : Serving P a (mkdev a.region.2 (UInt32.ofNat P.baseMinor)) s s' := by
      refine ⟨standing, fun k lt d entry => ?_⟩
      obtain ⟨d', entry', data⟩ := placed.contents k lt
      cases entry'.symm.trans entry
      exact data.trans (null k lt)
    obtain ⟨s₁, run, serving⟩ := serving.run granted ops
    obtain ⟨s₂, exit, unloaded⟩ := serving.standing.exit granted rfl
    exact ⟨s₁, s₂, run, exit, unloaded⟩

end

/-! ## Four devices -/

/-- With zeroed data pointers the module can be used and unloaded. -/
theorem life_zeroed : ∃ s, scullInit demoParams (grantAll 0) loadedState = .ok (0, s) ∧
    ∀ ops : List (Op 4), ∃ s₁ s₂, runOps ops s = .ok s₁ ∧ scullExit demoParams s₁ = .ok s₂ ∧
      Unloaded demoParams (grantAll 0) loadedState s₂ := by
  obtain ⟨s, init⟩ := grantAll_init 0
  exact ⟨s, init, (life_iff loadedState_loaded (grantAll_fresh 0) init).mpr fun _ _ => rfl⟩

end ScullDrivers.Scull
