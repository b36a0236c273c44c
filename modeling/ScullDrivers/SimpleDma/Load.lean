import ScullDrivers.Resources.Ledger
import ScullDrivers.Interaction.Run
import ScullDrivers.SimpleDma.Driver

/-!
# Loading, unloading and mapping the DMA buffer

What `simple_dma_init` obtains and gives back on each of its paths (`load_eq`), and what follows from
it: a load that fails leaks exactly when it found a device before (`loadsClean_iff`), an exit never
releases what is not held except after a failed `device_create` whose `int` is not negative
(`unloadsOwn_iff`), and `simple_dma_mmap` passes on whatever is left (`mapsLive_iff`).
-/

namespace ScullDrivers.SimpleDma

open Interaction Resources

/-! ## The kernel -/

/-- What the module holds: device numbers, its class, a reference to a device, the buffer, its `cdev`,
and the device node. -/
inductive Resource
  | region (dev : UInt32)
  | cls (cls : UInt64)
  | reference (dev : UInt64)
  | buffer (dev size virt phys : UInt64)
  | cdev
  | node (cls : UInt64) (devt : UInt32)
  deriving DecidableEq

/-- What a call obtains or gives back. -/
def effect : (e : Call) → Resp e → List (Event Resource)
  | .allocChrdevRegion _ _, r => if r.1 < 0 then [] else [.acquire (.region r.2)]
  | .classCreate, cls => if isErr cls then [] else [.acquire (.cls cls)]
  | .classFindDevice _, dev => if dev = 0 then [] else [.acquire (.reference dev)]
  | .dmaAllocCoherent dev size, r => if r.1 = 0 then [] else [.acquire (.buffer dev size r.1 r.2)]
  | .memset _ _ _, _ => []
  | .cdevInit, _ => []
  | .cdevAdd _ _, ret => if ret < 0 then [] else [.acquire .cdev]
  | .deviceCreate cls devt, node => if isErr node then [] else [.acquire (.node cls devt)]
  | .cdevDel, _ => [.release .cdev]
  | .classDestroy cls, _ => [.release (.cls cls)]
  | .unregisterChrdevRegion dev _, _ => [.release (.region dev)]
  | .deviceDestroy cls devt, _ => [.release (.node cls devt)]
  | .dmaFreeCoherent dev size virt phys, _ => [.release (.buffer dev size virt phys)]
  | .dmaMmapCoherent _ _ _ _ _, _ => []

/-- Loading the module: where `simple_dma_init` ends, the globals it leaves, and its events. -/
def load (pageSize : UInt64) (a : Answers) : (Return × Globals) × List (Event Resource) :=
  (simpleDmaInit pageSize {}).eval (logging a.answer effect) []

/-- The calls of `simple_dma_exit` have nothing to answer. -/
def Answers.none : Answers := ⟨(0, 0), 0, 0, (0, 0), 0, 0, 0⟩

/-- Unloading the module: the events of `simple_dma_exit`. -/
def unload (pageSize : UInt64) (g : Globals) : List (Event Resource) :=
  ((simpleDmaExit pageSize g).eval (logging Answers.none.answer effect) []).2

/-! ## The paths of `simple_dma_init` -/

/-- The buffer is allocated if a device was found. -/
def Answers.buffer (a : Answers) : UInt64 × UInt64 :=
  if a.classFindDevice ≠ 0 then a.dmaAllocCoherent else (0, 0)

/-- The globals after the buffer. -/
def Answers.globals (a : Answers) : Globals where
  simpleDmaDevT := a.allocChrdevRegion.2
  simpleDmaClass := a.classCreate
  dmaBufferVirt := a.buffer.1
  dmaBufferPhys := a.buffer.2
  dmaDevice := a.classFindDevice

/-- The events up to the buffer. -/
def begun (pageSize : UInt64) (a : Answers) : List (Event Resource) :=
  [.acquire (.region a.allocChrdevRegion.2), .acquire (.cls a.classCreate)] ++
    (if a.classFindDevice = 0 then [] else [.acquire (.reference a.classFindDevice)]) ++
    if a.buffer.1 = 0 then []
    else [.acquire (.buffer a.classFindDevice (dmaBufferSize pageSize) a.buffer.1 a.buffer.2)]

section

variable {pageSize : UInt64} {a : Answers} {log : List (Event Resource)}

attribute [local simp] Answers.answer effect

theorem eval_simpleDmaInitBuffer :
    (simpleDmaInitBuffer pageSize ⟨a.allocChrdevRegion.2, a.classCreate, 0, 0, a.classFindDevice⟩).eval
        (logging a.answer effect) log =
      (a.globals, log ++ if a.buffer.1 = 0 then [] else
        [.acquire (.buffer a.classFindDevice (dmaBufferSize pageSize) a.buffer.1 a.buffer.2)]) := by
  rcases eq_or_ne a.classFindDevice 0 with none | found
  · simp [simpleDmaInitBuffer, none, Answers.buffer, Answers.globals]
  · rcases eq_or_ne a.dmaAllocCoherent.1 0 with refused | granted
    · simp [simpleDmaInitBuffer, found, Answers.buffer, refused, Answers.globals]
    · simp [simpleDmaInitBuffer, found, Answers.buffer, granted, Answers.globals]

/-- The outcomes of `simple_dma_init`, in the order in which it can fail. -/
theorem load_eq : load pageSize a =
    if a.allocChrdevRegion.1 < 0 then ((.error a.allocChrdevRegion.1, {}), [])
    else if isErr a.classCreate then
      ((.error (ptrErr a.classCreate).toInt32, ⟨a.allocChrdevRegion.2, a.classCreate, 0, 0, 0⟩),
        [.acquire (.region a.allocChrdevRegion.2), .release (.region a.allocChrdevRegion.2)])
    else if a.cdevAdd < 0 then
      ((.error a.cdevAdd, a.globals), begun pageSize a ++
        [.release (.cls a.classCreate), .release (.region a.allocChrdevRegion.2)])
    else if isErr a.deviceCreate then
      ((.error (ptrErr a.classCreate).toInt32, a.globals), begun pageSize a ++
        [.acquire .cdev, .release .cdev, .release (.cls a.classCreate),
          .release (.region a.allocChrdevRegion.2)])
    else
      ((.done, a.globals), begun pageSize a ++
        [.acquire .cdev, .acquire (.node a.classCreate a.allocChrdevRegion.2)]) := by
  by_cases numbers : a.allocChrdevRegion.1 < 0
  · simp [load, simpleDmaInit, numbers]
  · by_cases cls : isErr a.classCreate
    · simp [load, simpleDmaInit, unregisterChrdev, numbers, cls]
    · have rest : (simpleDmaInit pageSize {}).eval (logging a.answer effect) [] =
          (simpleDmaInitCdev a.globals).eval (logging a.answer effect) (begun pageSize a) := by
        simp [simpleDmaInit, eval_simpleDmaInitBuffer, numbers, cls, begun]
        rfl
      simp only [load, rest]
      by_cases added : a.cdevAdd < 0
      · simp [simpleDmaInitCdev, destroyClass, unregisterChrdev, numbers, cls, added,
          Answers.globals]
      · by_cases node : isErr a.deviceCreate
        · simp [simpleDmaInitCdev, delCdev, destroyClass, unregisterChrdev, numbers, cls, added, node,
            Answers.globals]
        · simp [simpleDmaInitCdev, numbers, cls, added, node, Answers.globals]

end

/-! ## Failed loads -/

/-- The events so far, and the globals of the module while it is loaded. -/
structure Module where
  log : List (Event Resource)
  loaded : Option Globals

/-- What a user asks for. -/
inductive Request
  | load (a : Answers)
  | unload

/-- One request.  A module that is loaded is not loaded again, each load starts with the globals of the
module file, and the exit runs only for a module whose load reached its end. -/
inductive Step (pageSize : UInt64) : Module → Request → Module → Prop
  | load {m : Module} {a : Answers} : m.loaded = none →
    Step pageSize m (.load a) ⟨m.log ++ (load pageSize a).2,
      if (load pageSize a).1.1 = .done then some (load pageSize a).1.2 else none⟩
  | unload {m : Module} {g : Globals} : m.loaded = some g →
    Step pageSize m .unload ⟨m.log ++ unload pageSize g, none⟩

/-- A load that does not reach its end gave back all it obtained, once. -/
def LeaksNothing (pageSize : UInt64) (_ : Module) : Request → Prop
  | .load a => (load pageSize a).1.1 ≠ .done → NetZero (load pageSize a).2
  | .unload => True

/-- One of the calls `simple_dma_init` cannot do without fails. -/
def Answers.Fails (a : Answers) : Prop :=
  a.allocChrdevRegion.1 < 0 ∨ isErr a.classCreate ∨ a.cdevAdd < 0 ∨ isErr a.deviceCreate

/-- A load that fails does so before it looks for a device, or finds none. -/
def FindsNothing (_ : Module) : Request → Prop
  | .load a => a.Fails →
      a.allocChrdevRegion.1 < 0 ∨ isErr a.classCreate ∨ a.classFindDevice = 0
  | .unload => True

section

variable {pageSize : UInt64} {a : Answers} {m m' : Module} {q : Request}

/-- A reference that was taken is not given back by what follows. -/
theorem not_balanced_of_found {es : List (Event Resource)} (found : a.classFindDevice ≠ 0)
    (kept : .release (.reference a.classFindDevice) ∉ es) : ¬ NetZero (begun pageSize a ++ es) := by
  intro balanced
  have taken : .acquire (.reference a.classFindDevice) ∈ begun pageSize a ++ es := by
    simp [begun, found]
  have given := balanced.release_mem taken
  simp only [begun, found, if_false, List.mem_append, List.mem_cons, reduceCtorEq,
    List.not_mem_nil, or_false, false_or, kept] at given
  split at given
  · simp at given
  · simp at given

/-- A load that fails after it looked for a device is clean exactly when it found none. -/
theorem late_iff {es : List (Event Resource)} {ret : Int32} (numbers : ¬ a.allocChrdevRegion.1 < 0)
    (cls : ¬ isErr a.classCreate) (fails : a.Fails)
    (clean : a.classFindDevice = 0 → NetZero (begun pageSize a ++ es))
    (kept : .release (.reference a.classFindDevice) ∉ es) :
    (Return.error ret ≠ .done → NetZero (begun pageSize a ++ es)) ↔ FindsNothing m (.load a) := by
  simp only [FindsNothing]
  rw [imp_iff_right (by simp), imp_iff_right fails, or_iff_right numbers, or_iff_right cls]
  constructor
  · intro balanced
    by_contra found
    exact not_balanced_of_found found kept balanced
  · exact clean

theorem leaksNothing_iff_findsNothing : LeaksNothing pageSize m q ↔ FindsNothing m q := by
  cases q with
  | unload => exact Iff.rfl
  | load a =>
      simp only [LeaksNothing, load_eq]
      split_ifs with numbers cls added node
      · exact iff_of_true (fun _ => rfl) fun _ => .inl numbers
      · refine iff_of_true (fun _ => ?_) fun _ => .inr (.inl cls)
        simp [NetZero]
      · refine late_iff numbers cls (.inr (.inr (.inl added))) (fun none => ?_) ?_
        · simp [NetZero, begun, Answers.buffer, none]
        · simp
      · refine late_iff numbers cls (.inr (.inr (.inr node))) (fun none => ?_) ?_
        · simp [NetZero, begun, Answers.buffer, none]
        · simp
      · refine iff_of_true (fun failed => absurd rfl failed) fun fails => ?_
        rcases fails with bad | bad | bad | bad
        · exact absurd bad numbers
        · exact absurd bad cls
        · exact absurd bad added
        · exact absurd bad node

/-- **Failed loads.**  In every sequence of loads and unloads, all loads that fail gave back all they
obtained exactly when none of them had found a device. -/
theorem loadsClean_iff {past : List (Module × Request)}
    (_run : Run (Step pageSize) ⟨[], none⟩ past m) :
    AllSteps (LeaksNothing pageSize) past ↔ AllSteps FindsNothing past :=
  forall₂_congr fun _ _ => leaksNothing_iff_findsNothing

end

/-- Device numbers `0x0f000000`, a class at `0xffff888012345678`, and no device. -/
def demoAnswers : Answers where
  allocChrdevRegion := (0, 0x0f000000)
  classCreate := 0xffff888012345678
  classFindDevice := 0
  dmaAllocCoherent := (0, 0)
  cdevAdd := 0
  deviceCreate := 0xffff888012346000

/-- The same with a device, and a buffer for it. -/
def foundAnswers : Answers :=
  { demoAnswers with
    classFindDevice := 0xffff888000001000
    dmaAllocCoherent := (0xffffc90000000000, 0x10000) }

/-- Without a device, a load that cannot add its `cdev` is clean. -/
theorem loadsClean_noDevice : ∃ past m,
    Run (Step 4096) ⟨[], none⟩ past m ∧ past.length = 1 ∧ AllSteps (LeaksNothing 4096) past := by
  have failed : Run (Step 4096) ⟨[], none⟩ _ _ :=
    Run.nil.snoc (.load (a := { demoAnswers with cdevAdd := -12 }) rfl)
  refine ⟨_, _, failed, rfl, (loadsClean_iff failed).mpr ?_⟩
  rw [allSteps_snoc]
  exact ⟨allSteps_nil, fun _ => .inr (.inr rfl)⟩

/-- With a device and a buffer for it, the same load keeps both. -/
theorem not_loadsClean : ¬ ∀ (pageSize : UInt64) (past : List (Module × Request)) (m : Module),
    Run (Step pageSize) ⟨[], none⟩ past m → AllSteps (LeaksNothing pageSize) past := by
  intro claim
  have failed : Run (Step 4096) ⟨[], none⟩ _ _ :=
    Run.nil.snoc (.load (a := { foundAnswers with cdevAdd := -12 }) rfl)
  have balanced := (allSteps_snoc.mp (claim _ _ _ failed)).2 (by decide)
  exact absurd balanced (by decide)

/-! ## Loading and unloading once -/

/-- The events of a load and, if it left the module loaded, of the unload after it. -/
def session (pageSize : UInt64) (a : Answers) : List (Event Resource) :=
  (load pageSize a).2 ++
    if (load pageSize a).1.1.value < 0 then [] else unload pageSize (load pageSize a).1.2

/-- `device_create` fails, and the pointer to the class is no negative number when it is cut down to an
`int`. -/
def Answers.LooksLoaded (a : Answers) : Prop :=
  ¬ a.allocChrdevRegion.1 < 0 ∧ ¬ isErr a.classCreate ∧ ¬ a.cdevAdd < 0 ∧ isErr a.deviceCreate ∧
    ¬ (ptrErr a.classCreate).toInt32 < 0

section

variable {pageSize : UInt64} {a : Answers} {p : UInt64}

/-- An error pointer is a negative error number. -/
theorem ptrErr_neg (err : isErr p) : (ptrErr p).toInt32 < 0 := by
  unfold isErr at err
  rw [decide_eq_true_eq, UInt64.le_iff_toNat_le] at err
  have top : p.toNat < 2 ^ 64 := p.toNat_lt
  have least : (0xFFFFFFFFFFFFF001 : UInt64).toNat = 2 ^ 64 - 4095 := rfl
  rw [least] at err
  have number : (ptrErr p).toInt = (p.toNat : Int) - 2 ^ 64 := by
    unfold ptrErr
    rw [← Int64.toInt_toBitVec, UInt64.toBitVec_toInt64, BitVec.toInt_eq_toNat_cond]
    have same : p.toBitVec.toNat = p.toNat := rfl
    rw [same, if_neg (by omega)]
    rfl
  rw [Int32.lt_iff_toInt_lt, Int64.toInt_toInt32, number]
  have small : (((p.toNat : Int) - 2 ^ 64).bmod (2 ^ 32)) = (p.toNat : Int) - 2 ^ 64 := by
    refine Int.bmod_eq_of_le ?_ ?_
    · omega
    · omega
  rw [small]
  have zero : (0 : Int32).toInt = 0 := rfl
  omega

theorem unload_globals : unload pageSize a.globals =
    [.release (.node a.classCreate a.allocChrdevRegion.2), .release .cdev,
      .release (.cls a.classCreate), .release (.region a.allocChrdevRegion.2)] ++
      if a.buffer.1 = 0 then []
      else [.release (.buffer a.classFindDevice (dmaBufferSize pageSize) a.buffer.1 a.buffer.2)] := by
  rcases eq_or_ne a.buffer.1 0 with refused | granted
  · simp [unload, simpleDmaExit, effect, Answers.globals, refused]
  · have found : a.classFindDevice ≠ 0 := by
      intro none
      exact granted (by simp [Answers.buffer, none])
    simp [unload, simpleDmaExit, effect, Answers.globals, granted, found, perform]

/-- What is held besides the class and its numbers once the buffer was asked for. -/
def Answers.extras (pageSize : UInt64) (a : Answers) : Multiset Resource :=
  (if a.buffer.1 = 0 then 0
    else {.buffer a.classFindDevice (dmaBufferSize pageSize) a.buffer.1 a.buffer.2}) +
  if a.classFindDevice = 0 then 0 else {.reference a.classFindDevice}

theorem replay_begun : replay (begun pageSize a) 0 =
    some (a.extras pageSize + {.cls a.classCreate, .region a.allocChrdevRegion.2}) := by
  rcases eq_or_ne a.classFindDevice 0 with none | found
  · simp [begun, Answers.extras, Answers.buffer, none]
  · rcases eq_or_ne a.buffer.1 0 with refused | granted
    · simp only [begun, Answers.extras, if_neg found, if_pos refused]
      rfl
    · simp only [begun, Answers.extras, if_neg found, if_neg granted]
      rfl

/-- What gives back the class and its numbers leaves the reference and the buffer. -/
theorem replay_begun_append {es : List (Event Resource)}
    (done : replay es {.cls a.classCreate, .region a.allocChrdevRegion.2} = some 0) :
    replay (begun pageSize a ++ es) 0 = some (a.extras pageSize) := by
  have rest := replay_frame (a.extras pageSize) done
  rw [zero_add, add_comm] at rest
  exact replay_append_of replay_begun rest

/-- What a load and an unload do, in the order in which the load can fail. -/
theorem session_eq : session pageSize a =
    if a.allocChrdevRegion.1 < 0 then []
    else if isErr a.classCreate then
      [.acquire (.region a.allocChrdevRegion.2), .release (.region a.allocChrdevRegion.2)]
    else if a.cdevAdd < 0 then begun pageSize a ++
      [.release (.cls a.classCreate), .release (.region a.allocChrdevRegion.2)]
    else if isErr a.deviceCreate then begun pageSize a ++
      [.acquire .cdev, .release .cdev, .release (.cls a.classCreate),
        .release (.region a.allocChrdevRegion.2)] ++
      if (ptrErr a.classCreate).toInt32 < 0 then [] else unload pageSize a.globals
    else begun pageSize a ++
      [.acquire .cdev, .acquire (.node a.classCreate a.allocChrdevRegion.2)] ++
      unload pageSize a.globals := by
  unfold session
  rw [load_eq]
  by_cases numbers : a.allocChrdevRegion.1 < 0
  · simp [numbers, Return.value]
  · by_cases cls : isErr a.classCreate
    · simp [numbers, cls, Return.value, ptrErr_neg cls]
    · by_cases added : a.cdevAdd < 0
      · simp [numbers, cls, added, Return.value]
      · by_cases node : isErr a.deviceCreate
        · simp [numbers, cls, added, node, Return.value]
        · simp [numbers, cls, added, node, Return.value]

/-- A load that fails after the buffer gives back nothing it does not have. -/
theorem sound_failed {es : List (Event Resource)}
    (done : replay es {.cls a.classCreate, .region a.allocChrdevRegion.2} = some 0) :
    Sound (begun pageSize a ++ es) := by
  rw [Sound, replay_begun_append done]
  rfl

/-- After a load that reached its end, the unload gives back all of it but the reference. -/
theorem replay_unloaded : replay (begun pageSize a ++
    [.acquire .cdev, .acquire (.node a.classCreate a.allocChrdevRegion.2)] ++
    unload pageSize a.globals) 0 =
      some (if a.classFindDevice = 0 then 0 else {.reference a.classFindDevice}) := by
  have done : replay (begun pageSize a ++ [.acquire .cdev,
      .acquire (.node a.classCreate a.allocChrdevRegion.2),
      .release (.node a.classCreate a.allocChrdevRegion.2), .release .cdev,
      .release (.cls a.classCreate), .release (.region a.allocChrdevRegion.2)]) 0 =
        some (a.extras pageSize) := by
    apply replay_begun_append
    simp
  have rest : replay (if a.buffer.1 = 0 then [] else [.release (.buffer a.classFindDevice
      (dmaBufferSize pageSize) a.buffer.1 a.buffer.2)]) (a.extras pageSize) =
        some (if a.classFindDevice = 0 then 0 else {.reference a.classFindDevice}) := by
    unfold Answers.extras
    split
    · simp
    · rw [Multiset.singleton_add, replay_release_cons]
      rfl
  have all := replay_append_of done rest
  rw [unload_globals]
  simp only [List.append_assoc, List.cons_append, List.nil_append] at all ⊢
  exact all

/-- An unload after a failed `device_create` destroys a device node that was never made. -/
theorem not_sound_unloaded {es : List (Event Resource)}
    (missing : .acquire (.node a.classCreate a.allocChrdevRegion.2) ∉ es) :
    ¬ Sound (begun pageSize a ++ es ++ unload pageSize a.globals) := by
  intro sound
  rw [unload_globals] at sound
  have made := Sound.acquire_mem sound
  rcases List.mem_append.mp made with early | late
  · simp [begun] at early
  · exact missing late

/-- **Loading and unloading.**  Nothing is given back that is not held exactly when a failed
`device_create` does not make the module look loaded. -/
theorem session_sound_iff : Sound (session pageSize a) ↔ ¬ a.LooksLoaded := by
  unfold Answers.LooksLoaded
  rw [session_eq]
  split_ifs with numbers cls added node negative
  · exact iff_of_true rfl fun loaded => loaded.1 numbers
  · exact iff_of_true (by simp [Sound]) fun loaded => loaded.2.1 cls
  · exact iff_of_true (sound_failed (by simp)) fun loaded => loaded.2.2.1 added
  · rw [List.append_nil]
    exact iff_of_true (sound_failed (by simp)) fun loaded => loaded.2.2.2.2 negative
  · refine iff_of_false (not_sound_unloaded (by simp)) fun ok => ?_
    exact ok ⟨numbers, cls, added, node, negative⟩
  · refine iff_of_true ?_ fun loaded => node loaded.2.2.2.1
    rw [Sound, replay_unloaded]
    rfl

end

/-- The class at `0xffff888012345678` is `0x12345678` as an `int`: the module stays loaded without its
device node, and the exit destroys it. -/
theorem not_session_sound : ¬ ∀ (pageSize : UInt64) (a : Answers), Sound (session pageSize a) := by
  intro claim
  have sound := claim 4096 { demoAnswers with deviceCreate := 0xfffffffffffffff4 }
  exact absurd sound (by decide)

/-! ## Mapping the buffer -/

/-- A call of `dma_mmap_coherent`. -/
structure Mapping where
  dev : UInt64
  virt : UInt64
  phys : UInt64
  size : UInt64
  deriving DecidableEq

/-- The calls of `dma_mmap_coherent` alone. -/
def mapped : (e : Call) → Resp e → List Mapping
  | .dmaMmapCoherent dev _ virt phys size, _ => [⟨dev, virt, phys, size⟩]
  | _, _ => []

/-- What `simple_dma_mmap` returns, and its calls of `dma_mmap_coherent`. -/
def mmap (pageSize : UInt64) (a : Answers) (g : Globals) (vma : VmAreaStruct) :
    Int32 × List Mapping :=
  (simpleDmaMmap pageSize g vma).eval (logging a.answer mapped) []

/-- There is a device and a buffer, and the request is for no more than the buffer from its start on. -/
def Live (pageSize : UInt64) (g : Globals) (vma : VmAreaStruct) : Prop :=
  g.dmaDevice ≠ 0 ∧ g.dmaBufferVirt ≠ 0 ∧ vma.vmPgoff = 0 ∧
    vma.vmEnd - vma.vmStart ≤ dmaBufferSize pageSize

/-- `dma_mmap_coherent` is called only on a live buffer, and otherwise a negative error is returned and
nothing is mapped. -/
def MapsLive (pageSize : UInt64) (a : Answers) (g : Globals) (vma : VmAreaStruct) : Prop :=
  ((mmap pageSize a g vma).2 ≠ [] → Live pageSize g vma) ∧
    (¬ Live pageSize g vma → (mmap pageSize a g vma).1 < 0 ∧ (mmap pageSize a g vma).2 = [])

section

variable {pageSize : UInt64} {a : Answers} {g : Globals} {vma : VmAreaStruct}

theorem mmap_eq : mmap pageSize a g vma =
    if dmaBufferSize pageSize < vma.vmEnd - vma.vmStart ∨ vma.vmPgoff ≠ 0 then (-einval, [])
    else (if a.dmaMmapCoherent < 0 then a.dmaMmapCoherent else 0,
      [⟨g.dmaDevice, g.dmaBufferVirt, g.dmaBufferPhys, vma.vmEnd - vma.vmStart⟩]) := by
  by_cases size : dmaBufferSize pageSize < vma.vmEnd - vma.vmStart
  · simp [mmap, simpleDmaMmap, size]
  · by_cases offset : vma.vmPgoff = 0
    · by_cases failed : a.dmaMmapCoherent < 0
      · simp [mmap, simpleDmaMmap, Answers.answer, mapped, size, offset, failed]
      · simp [mmap, simpleDmaMmap, Answers.answer, mapped, size, offset, failed]
    · simp [mmap, simpleDmaMmap, size, offset]

/-- A load that leaves the module loaded leaves what it found and allocated. -/
theorem load_globals (loaded : ¬ (load pageSize a).1.1.value < 0) :
    (load pageSize a).1.2 = a.globals := by
  rw [load_eq] at loaded ⊢
  split_ifs at loaded ⊢ with numbers cls added node
  · exact absurd numbers loaded
  · exact absurd (ptrErr_neg cls) loaded
  · rfl
  · rfl
  · rfl

/-- **Mapping.**  Whatever a load leaves loaded, a mapping only exposes a live buffer exactly when there
is a device and a buffer, or the request is refused for its size or offset. -/
theorem mapsLive_iff (loaded : ¬ (load pageSize a).1.1.value < 0) :
    MapsLive pageSize a (load pageSize a).1.2 vma ↔
      (a.classFindDevice ≠ 0 ∧ a.dmaAllocCoherent.1 ≠ 0) ∨
        dmaBufferSize pageSize < vma.vmEnd - vma.vmStart ∨ vma.vmPgoff ≠ 0 := by
  rw [load_globals loaded]
  unfold MapsLive
  rw [mmap_eq]
  by_cases refused : dmaBufferSize pageSize < vma.vmEnd - vma.vmStart ∨ vma.vmPgoff ≠ 0
  · rw [if_pos refused]
    refine iff_of_true ⟨fun some => absurd rfl some, fun _ => ⟨by decide, rfl⟩⟩ (.inr refused)
  · rw [if_neg refused, or_iff_left refused]
    have live : Live pageSize a.globals vma ↔ a.classFindDevice ≠ 0 ∧ a.dmaAllocCoherent.1 ≠ 0 := by
      obtain ⟨within, start⟩ := not_or.mp refused
      unfold Live
      by_cases found : a.classFindDevice = 0
      · simp [Answers.globals, found]
      · simp [Answers.globals, Answers.buffer, found, not_not.mp start, UInt64.not_lt.mp within]
    rw [← live]
    constructor
    · intro both
      exact both.1 (List.cons_ne_nil _ _)
    · intro here
      exact ⟨fun _ => here, fun out => absurd here out⟩

/-- A request for one page of a buffer that was found and allocated. -/
theorem mapsLive_allocated : MapsLive 4096 foundAnswers (load 4096 foundAnswers).1.2
    ⟨0x7f0000000000, 0x7f0000001000, 0⟩ :=
  (mapsLive_iff (by decide)).mpr (.inl ⟨by decide, by decide⟩)

end

/-- Without a device, a request for one page calls `dma_mmap_coherent` with `NULL` for the device and
the buffer. -/
theorem not_mapsLive : ¬ ∀ (pageSize : UInt64) (a : Answers) (vma : VmAreaStruct),
    ¬ (load pageSize a).1.1.value < 0 → vma.vmStart ≤ vma.vmEnd →
    MapsLive pageSize a (load pageSize a).1.2 vma := by
  intro claim
  obtain ⟨live, -⟩ := claim 4096 demoAnswers ⟨0x7f0000000000, 0x7f0000001000, 0⟩ (by decide)
    (by decide)
  exact absurd rfl (live (by decide)).1

end ScullDrivers.SimpleDma
