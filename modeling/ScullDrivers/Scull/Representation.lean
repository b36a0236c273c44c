import ScullDrivers.Scull.Store

/-!
# The representation of the `scull` devices

`RepInv` says that every device heads a store of live blocks, no block in two places.  Each file
operation keeps it (`RepInv.run`), so that from a state that has it no trim in any sequence of
operations touches a dead block.  Whether a state has it after `scull_init` depends on the memory
`kmalloc` returned, as nothing there sets `data` (`init_sound_iff`).
-/

namespace ScullDrivers.Scull

open Heap Outcome

/-! ## File operations in any order -/

/-- A file operation on one of the devices, with what the user and the kernel bring to it. -/
inductive Op (n : Nat)
  | openFile (i : Fin n) (fFlags : UInt32)
  | read (i : Fin n) (count notCopied : Nat) (fPos : Int)
  | write (i : Fin n) (count : Nat)
  | release (i : Fin n)

/-- What the operation returns, and the state after it. -/
def Op.run {n : Nat} (s : State) : Op n → Except Fault (Int × State)
  | openFile i fFlags => do
      let (result, _, s) ← scullOpen (s.scullDevices i) { fFlags } s
      return (result, s)
  | read _ count notCopied fPos => .ok ((scullRead count notCopied fPos).1, s)
  | write _ count => .ok (scullWrite count, s)
  | release _ => .ok (scullRelease, s)

def runOps {n : Nat} : List (Op n) → State → Except Fault State
  | [], s => .ok s
  | op :: ops, s => do
      let (_, s) ← op.run s
      runOps ops s

/-! ## The invariant -/

/-- Every device is a live block of its own with a store, and all the blocks of the stores are
different. -/
structure RepInv (n : Nat) (s : State) : Prop where
  devices : ∀ i < n, ∃ d, s.memory.blocks.lookup (s.scullDevices i) = some (.dev d)
  distinct : ∀ i < n, ∀ j < n, s.scullDevices i = s.scullDevices j → i = j
  stores : ∃ nodes : Nat → List Node,
    (∀ i < n, ∀ d, s.memory.blocks.lookup (s.scullDevices i) = some (.dev d) →
      IsStore s.memory d.qset.toInt d.data (nodes i)) ∧
    (∀ i < n, (footprint (nodes i)).Nodup) ∧
    ∀ i < n, ∀ j < n, i ≠ j → (footprint (nodes i)).Disjoint (footprint (nodes j))

section

variable {n : Nat} {s s' : State} {op : Op n}

/-- Trimming a device in place keeps the invariant. -/
theorem RepInv.trim {i : Nat} (inv : RepInv n s) (lt : i < n) :
    ∃ memory, scullTrim (s.scullDevices i) s.memory = .ok (0, memory) ∧
      RepInv n { s with memory } := by
  obtain ⟨d, block⟩ := inv.devices i lt
  obtain ⟨nodes, store, nodup, disjoint⟩ := inv.stores
  have own := store i lt d block
  refine ⟨_, scullTrim_store block own (nodup i lt), ?_⟩
  -- the other devices, and the blocks of their stores, are where they were
  have device : ∀ j < n, j ≠ i → ∀ b, s.memory.blocks.lookup (s.scullDevices j) = some (.dev b) →
      ((s.memory.dropAll (footprint (nodes i))).write (s.scullDevices i)
        (.dev d.trimmed)).blocks.lookup (s.scullDevices j) = some (.dev b) := by
    intro j below ne b entry
    have apart : s.scullDevices j ≠ s.scullDevices i := fun same =>
      ne (inv.distinct j below i lt same)
    rw [Memory.lookup_write_ne apart, Memory.lookup_dropAll (own.dev_not_mem entry), entry]
  refine ⟨fun j below => ?_, inv.distinct, Function.update nodes i [], ?_, ?_, ?_⟩
  · rcases eq_or_ne j i with rfl | ne
    · exact ⟨d.trimmed, Memory.lookup_write⟩
    · obtain ⟨b, entry⟩ := inv.devices j below
      exact ⟨b, device j below ne b entry⟩
  · intro j below b entry
    rcases eq_or_ne j i with rfl | ne
    · rw [Memory.lookup_write] at entry
      cases entry
      rw [Function.update_self]
      rfl
    · obtain ⟨b', entry'⟩ := inv.devices j below
      rw [device j below ne b' entry'] at entry
      cases entry
      rw [Function.update_of_ne ne]
      refine (store j below b entry').congr fun p mem => ?_
      have apart : p ≠ s.scullDevices i := fun same =>
        (store j below b entry').dev_not_mem block (same ▸ mem)
      rw [Memory.lookup_write_ne apart, Memory.lookup_dropAll fun here =>
        disjoint i lt j below ne.symm here mem]
  · intro j below
    rcases eq_or_ne j i with rfl | ne
    · rw [Function.update_self]
      exact List.nodup_nil
    · rw [Function.update_of_ne ne]
      exact nodup j below
  · intro j below k below' apart
    rcases eq_or_ne j i with rfl | ne
    · rw [Function.update_self]
      exact List.disjoint_nil_left _
    · rcases eq_or_ne k i with rfl | ne'
      · rw [Function.update_self]
        exact List.disjoint_nil_right _
      · rw [Function.update_of_ne ne, Function.update_of_ne ne']
        exact disjoint j below k below' apart

/-- Each file operation makes no fault and keeps the invariant. -/
theorem RepInv.step (inv : RepInv n s) (op : Op n) :
    ∃ result s', op.run s = .ok (result, s') ∧ RepInv n s' := by
  cases op with
  | openFile i fFlags =>
      by_cases wronly : fFlags &&& oAccmode = oWronly
      · obtain ⟨memory, trim, inv'⟩ := inv.trim i.isLt
        refine ⟨0, _, ?_, inv'⟩
        unfold Op.run scullOpen
        simp only [if_pos wronly, trim]
        rfl
      · refine ⟨0, s, ?_, inv⟩
        unfold Op.run scullOpen
        simp only [if_neg wronly]
        rfl
  | read i count notCopied fPos => exact ⟨_, s, rfl, inv⟩
  | write i count => exact ⟨_, s, rfl, inv⟩
  | release i => exact ⟨_, s, rfl, inv⟩

/-- No sequence of file operations makes a fault or breaks the invariant. -/
theorem RepInv.run (inv : RepInv n s) (ops : List (Op n)) :
    ∃ s', runOps ops s = .ok s' ∧ RepInv n s' := by
  induction ops generalizing s with
  | nil => exact ⟨s, rfl, inv⟩
  | cons op ops ih =>
      obtain ⟨result, s₁, first, inv₁⟩ := inv.step op
      obtain ⟨s', rest, inv'⟩ := ih inv₁
      exact ⟨s', bind_eq_ok.mpr ⟨_, first, rest⟩, inv'⟩

end

/-! ## What `scull_init` leaves -/

/-- The module was just loaded: it holds nothing, and there is no `scull_qset` block yet. -/
structure Loaded (s : State) : Prop where
  scullDevices : ∀ i, s.scullDevices i = 0
  region : s.region = none
  cdevs : s.cdevs = []
  noQset : ∀ p node, s.memory.blocks.lookup p ≠ some (.qset node)

/-- The blocks the first `n` calls of `kmalloc` return were not live before, and are different. -/
def Answers.Fresh (a : Answers) (n : Nat) (s : State) : Prop :=
  ∀ i < n, (a.kmalloc i).1 ≠ 0 → (a.kmalloc i).1 ∉ s.memory.blocks ∧
    ∀ j < i, (a.kmalloc j).1 ≠ (a.kmalloc i).1

/-- The first `i` devices are in place, with the data pointers that were in their memory, and there is
no `scull_qset` block. -/
structure Placed (a : Answers) (i : Nat) (s : State) : Prop where
  scullDevices : ∀ k < i, s.scullDevices k = (a.kmalloc k).1
  distinct : ∀ k < i, ∀ j < k, (a.kmalloc j).1 ≠ (a.kmalloc k).1
  contents : ∀ k < i, ∃ d, s.memory.blocks.lookup (a.kmalloc k).1 = some (.dev d) ∧
    d.data = (a.kmalloc k).2.data
  noQset : ∀ p node, s.memory.blocks.lookup p ≠ some (.qset node)

section

variable {P : Params} {a : Answers} {s s' : State} {dev : Ptr} {index left i : Nat} {result : Int}

/-- `scull_setup_cdev` fills the `cdev` of its device in and changes nothing else of it, whatever
`cdev_add` answers. -/
theorem scullSetupCdev_eq {d : ScullDev} (block : s.memory.blocks.lookup dev = some (.dev d)) :
    scullSetupCdev P dev index result s = .ok { s with
      memory := s.memory.write dev (.dev { d with cdev := ⟨P.scullFops, P.thisModule,
        mkdev (major s.devno) (UInt32.ofNat (index + P.baseMinor))⟩ })
      cdevs := if result = 0 then
          s.cdevs ++ [(mkdev (major s.devno) (UInt32.ofNat (index + P.baseMinor)), dev)]
        else s.cdevs } := by
  have store : ∀ (m : Mem) (d' : ScullDev) (b : Block), m.blocks.lookup dev = some (.dev d') →
      m.store dev b = .ok (m.write dev b) := fun m d' b entry =>
    Memory.store_eq_ok.mpr ⟨Finmap.mem_of_lookup_eq_some entry, rfl⟩
  unfold scullSetupCdev
  refine bind_eq_ok.mpr ⟨d, loadDev_eq_ok.mpr block, bind_eq_ok.mpr ⟨_, store _ _ _ block, ?_⟩⟩
  refine bind_eq_ok.mpr ⟨_, loadDev_eq_ok.mpr Memory.lookup_write, ?_⟩
  refine bind_eq_ok.mpr ⟨_, store _ _ _ Memory.lookup_write, ?_⟩
  refine bind_eq_ok.mpr ⟨_, loadDev_eq_ok.mpr Memory.lookup_write, ?_⟩
  refine bind_eq_ok.mpr ⟨_, store _ _ _ Memory.lookup_write, ?_⟩
  rw [Memory.write_write, Memory.write_write]
  rfl

/-- The rollback of `scull_init` returns an error. -/
theorem scullInitFail_ne_zero : scullInitFail P s ≠ .ok (0, s') := by
  intro run
  obtain ⟨_, -, made⟩ := bind_eq_ok.mp run
  cases made

/-- A device more is in place. -/
theorem Placed.succ {contents : ScullDev} (placed : Placed a i s)
    (picked : a.kmalloc i = (dev, contents)) (fresh : ∀ k < i, (a.kmalloc k).1 ≠ dev) (cdev : Cdev)
    (cdevs : List (UInt32 × Ptr)) :
    Placed a (i + 1) { s with
      memory := (s.memory.write dev (.dev contents)).write dev (.dev { contents with cdev })
      scullDevices := Function.update s.scullDevices i dev, cdevs } := by
  rw [Memory.write_write]
  have here : (a.kmalloc i).1 = dev := congrArg Prod.fst picked
  refine ⟨fun k lt => ?_, fun k lt => ?_, fun k lt => ?_, fun p node => ?_⟩
  · rcases Nat.lt_or_eq_of_le (Nat.le_of_lt_succ lt) with below | rfl
    · exact (Function.update_of_ne below.ne _ _).trans (placed.scullDevices k below)
    · exact (Function.update_self k dev s.scullDevices).trans here.symm
  · rcases Nat.lt_or_eq_of_le (Nat.le_of_lt_succ lt) with below | rfl
    · exact placed.distinct k below
    · rw [here]
      exact fresh
  · rcases Nat.lt_or_eq_of_le (Nat.le_of_lt_succ lt) with below | rfl
    · obtain ⟨d, entry, same⟩ := placed.contents k below
      exact ⟨d, (Memory.lookup_write_ne (fresh k below)).trans entry, same⟩
    · refine ⟨{ contents with cdev }, ?_, ?_⟩
      · rw [here]
        exact Memory.lookup_write
      · rw [picked]
  · by_cases same : p = dev
    · rw [same]
      exact fun entry => nomatch Memory.lookup_write.symm.trans entry
    · exact fun entry => placed.noQset p node ((Memory.lookup_write_ne same).symm.trans entry)

/-- A loop of `scull_init` that succeeds puts its devices in place. -/
theorem scullInitLoop_ok (placed : Placed a i s)
    (fresh : ∀ k < i + left, (a.kmalloc k).1 ≠ 0 → ∀ j < k, (a.kmalloc j).1 ≠ (a.kmalloc k).1)
    (run : scullInitLoop P a left i s = .ok (0, s')) : Placed a (i + left) s' := by
  induction left generalizing i s with
  | zero =>
      cases run
      exact placed
  | succ left ih =>
      unfold scullInitLoop at run
      rcases picked : a.kmalloc i with ⟨p, contents⟩
      simp only [picked] at run
      split at run
      · exact absurd run scullInitFail_ne_zero
      · rename_i nonNull
        obtain ⟨s₁, setup, rest⟩ := bind_eq_ok.mp run
        rw [scullSetupCdev_eq Memory.lookup_write] at setup
        cases setup
        have apart : ∀ k < i, (a.kmalloc k).1 ≠ p := by
          have here : (a.kmalloc i).1 = p := congrArg Prod.fst picked
          rw [← here]
          exact fresh i (by omega) (here ▸ nonNull)
        rw [show i + (left + 1) = i + 1 + left by omega] at fresh ⊢
        exact ih (placed.succ picked apart _ _) fresh rest

/-- A `scull_init` that succeeds puts all devices in place. -/
theorem scullInit_ok (loaded : Loaded s) (fresh : a.Fresh P.numDevices s)
    (run : scullInit P a s = .ok (0, s')) : Placed a P.numDevices s' := by
  unfold scullInit at run
  rcases answer : a.region with ⟨result, major⟩
  simp only [answer] at run
  split at run
  · rename_i failed
    cases run
    exact absurd rfl failed
  · have start : Placed a 0 { s with
        devno := mkdev major (UInt32.ofNat P.baseMinor)
        region := some (mkdev major (UInt32.ofNat P.baseMinor), P.numDevices) } := by
      refine ⟨fun k lt => ?_, fun k lt => ?_, fun k lt => ?_, loaded.noQset⟩
      · exact absurd lt (Nat.not_lt_zero k)
      · exact absurd lt (Nat.not_lt_zero k)
      · exact absurd lt (Nat.not_lt_zero k)
    have apart : ∀ k < 0 + P.numDevices, (a.kmalloc k).1 ≠ 0 →
        ∀ j < k, (a.kmalloc j).1 ≠ (a.kmalloc k).1 := by
      rw [Nat.zero_add]
      exact fun k lt nonNull => (fresh k lt nonNull).2
    have placed := scullInitLoop_ok start apart run
    rwa [Nat.zero_add] at placed

/-- With the devices in place the invariant holds exactly when their data pointers are `NULL`: there
is no store yet for another one to head. -/
theorem Placed.repInv_iff {n : Nat} (placed : Placed a n s) :
    RepInv n s ↔ ∀ i < n, (a.kmalloc i).2.data = 0 := by
  constructor
  · intro inv i lt
    obtain ⟨nodes, store, -, -⟩ := inv.stores
    obtain ⟨d, entry, same⟩ := placed.contents i lt
    rw [← placed.scullDevices i lt] at entry
    have own := store i lt d entry
    rw [← same]
    cases list : nodes i with
    | nil =>
        rw [list] at own
        exact own
    | cons node rest =>
        rw [list] at own
        obtain ⟨-, -, -, next, block, -⟩ := own
        exact absurd block (placed.noQset _ _)
  · intro null
    refine ⟨fun i lt => ?_, fun i lt j lt' same => ?_, fun _ => [], ?_, ?_, ?_⟩
    · obtain ⟨d, entry, -⟩ := placed.contents i lt
      exact ⟨d, by rw [placed.scullDevices i lt, entry]⟩
    · rw [placed.scullDevices i lt, placed.scullDevices j lt'] at same
      rcases Nat.lt_trichotomy i j with below | eq | above
      · exact absurd same (placed.distinct j lt' i below)
      · exact eq
      · exact absurd same.symm (placed.distinct i lt j above)
    · intro i lt d entry
      obtain ⟨d', entry', same⟩ := placed.contents i lt
      rw [placed.scullDevices i lt, entry'] at entry
      cases entry
      exact same.trans (null i lt)
    · exact fun _ _ => List.nodup_nil
    · exact fun _ _ _ _ _ => List.disjoint_nil_left _

/-- **The representation over whole runs.**  After a `scull_init` that succeeds, every sequence of file
operations runs without a fault and leaves the invariant in place exactly when the memory of every
device happened to have `NULL` for its data pointer. -/
theorem init_sound_iff (loaded : Loaded s) (fresh : a.Fresh P.numDevices s)
    (init : scullInit P a s = .ok (0, s')) :
    (∀ ops : List (Op P.numDevices), ∃ s'', runOps ops s' = .ok s'' ∧ RepInv P.numDevices s'') ↔
      ∀ i < P.numDevices, (a.kmalloc i).2.data = 0 := by
  have placed := scullInit_ok loaded fresh init
  rw [← placed.repInv_iff]
  constructor
  · intro sound
    obtain ⟨s'', run, inv⟩ := sound []
    cases run
    exact inv
  · intro inv ops
    exact inv.run ops

end

/-! ## Memory that was used before -/

/-- The driver as it is loaded, with no other block in memory. -/
def loadedState : State := { memory := ⟨∅, []⟩ }

theorem loadedState_loaded : Loaded loadedState :=
  ⟨fun _ => rfl, rfl, rfl, fun _ _ entry => nomatch entry⟩

/-- `scull_fops` and the module at the addresses 100 and 101, and four devices from minor 0 on. -/
def demoParams : Params := { scullFops := 100, thisModule := 101 }

/-- A kernel that grants everything: block `i + 1` for device `i`, with `data` in its data pointer. -/
def grantAll (data : Ptr) : Answers where
  region := (0, 240)
  kmalloc i := (i + 1, { data, quantum := 7, qset := 3, size := 9, cdev := {} })
  cdevAdd _ := 0

theorem grantAll_fresh (data : Ptr) : (grantAll data).Fresh demoParams.numDevices loadedState := by
  intro i _ _
  refine ⟨Finmap.notMem_empty, fun j lt same => ?_⟩
  exact absurd (Nat.succ.inj same) lt.ne

theorem grantAll_init (data : Ptr) :
    ∃ s, scullInit demoParams (grantAll data) loadedState = .ok (0, s) := ⟨_, rfl⟩

/-- With zeroed data pointers every sequence of file operations runs. -/
theorem init_sound_zeroed : ∃ s, scullInit demoParams (grantAll 0) loadedState = .ok (0, s) ∧
    ∀ ops : List (Op 4), ∃ s', runOps ops s = .ok s' ∧ RepInv 4 s' := by
  obtain ⟨s, init⟩ := grantAll_init 0
  exact ⟨s, init, (init_sound_iff loadedState_loaded (grantAll_fresh 0) init).mpr fun _ _ => rfl⟩

/-- With anything else in the data pointers, opening a device for writing follows it. -/
theorem init_unsound : ¬ ∀ (P : Params) (a : Answers) (s s' : State), Loaded s →
    a.Fresh P.numDevices s → scullInit P a s = .ok (0, s') →
    ∀ ops : List (Op P.numDevices), ∃ s'', runOps ops s' = .ok s'' ∧ RepInv P.numDevices s'' := by
  intro claim
  obtain ⟨s, init⟩ := grantAll_init 57005
  have sound := claim _ _ _ _ loadedState_loaded (grantAll_fresh 57005) init
  obtain ⟨s', run, -⟩ := sound [.openFile (0 : Fin 4) oWronly]
  have fault : runOps [Op.openFile (0 : Fin 4) oWronly] s = .error (.notLive 57005) := by
    cases init
    rfl
  exact absurd (fault.symm.trans run) (fun same => nomatch same)

end ScullDrivers.Scull
