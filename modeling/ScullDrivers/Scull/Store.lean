import ScullDrivers.Outcome
import ScullDrivers.Scull.Device

/-!
# The store of a `scull_dev`, and what `scull_trim` does to it

`IsStore` says that a pointer heads a finite list of `scull_qset` blocks with their arrays and quanta,
described by a list of `Node`s, and `footprint` lists its blocks in the order in which they are freed.
On a store whose blocks are all different `scull_trim` frees exactly these and resets the device
(`scullTrim_store`, `scullTrim_frees`); on any memory it ends (`scullTrim_ne_diverges`).
-/

namespace ScullDrivers.Scull

open Heap Outcome

/-! ## Stores -/

/-- A `scull_qset` block with the array it points to; no array, no entries. -/
structure Node where
  ptr : Ptr
  data : Ptr
  entries : List Ptr

/-- The blocks of a node, in the order of `scull_trim`. -/
def Node.footprint (n : Node) : List Ptr :=
  (if n.data = 0 then [] else n.entries.filter (· ≠ 0) ++ [n.data]) ++ [n.ptr]

def footprint (nodes : List Node) : List Ptr := nodes.flatMap Node.footprint

/-- The array of a node is `NULL`, or live with `qset` entries that are `NULL` or live quanta. -/
def Node.Valid (m : Mem) (qset : Int) (n : Node) : Prop :=
  n.data = 0 ∧ n.entries = [] ∨
  n.data ≠ 0 ∧ m.blocks.lookup n.data = some (.array n.entries) ∧
    (n.entries.length : Int) = qset ∧
    ∀ entry ∈ n.entries, entry = 0 ∨ m.blocks.lookup entry = some .quantum

/-- `head` is `NULL` or heads a list of live `scull_qset` blocks, which `nodes` describes. -/
def IsStore (m : Mem) (qset : Int) : (head : Ptr) → List Node → Prop
  | head, [] => head = 0
  | head, n :: nodes =>
      head ≠ 0 ∧ n.ptr = head ∧ n.Valid m qset ∧
        ∃ next, m.blocks.lookup head = some (.qset ⟨n.data, next⟩) ∧ IsStore m qset next nodes

section

variable {m m' : Mem} {qset : Int} {head p dev : Ptr} {n : Node} {nodes : List Node}

theorem footprint_cons : footprint (n :: nodes) = n.footprint ++ footprint nodes := rfl

theorem Node.ptr_mem_footprint : n.ptr ∈ n.footprint :=
  List.mem_append_right _ (List.mem_singleton.mpr rfl)

theorem Node.footprint_null (null : n.data = 0) : n.footprint = [n.ptr] := by
  rw [footprint, if_pos null, List.nil_append]

theorem Node.footprint_array (live : n.data ≠ 0) :
    n.footprint = n.entries.filter (· ≠ 0) ++ [n.data, n.ptr] := by
  rw [footprint, if_neg live, List.append_assoc]
  rfl

/-- Every block of a store is live, and none is a device. -/
theorem Node.Valid.live (valid : n.Valid m qset) (mem : p ∈ n.footprint) (ne : p ≠ n.ptr) :
    ∃ b, m.blocks.lookup p = some b ∧ ∀ d, b ≠ .dev d := by
  rcases valid with ⟨null, -⟩ | ⟨live, array, -, quanta⟩
  · rw [footprint_null null, List.mem_singleton] at mem
    exact absurd mem ne
  · rw [footprint_array live, List.mem_append] at mem
    rcases mem with quantum | rest
    · obtain ⟨entry, nonNull⟩ := List.mem_filter.mp quantum
      rcases quanta p entry with null | block
      · exact absurd null (of_decide_eq_true nonNull)
      · exact ⟨_, block, fun d same => nomatch same⟩
    · rcases List.mem_cons.mp rest with rfl | last
      · exact ⟨_, array, fun d same => nomatch same⟩
      · exact absurd (List.mem_singleton.mp last) ne

theorem IsStore.live (store : IsStore m qset head nodes) (mem : p ∈ footprint nodes) :
    ∃ b, m.blocks.lookup p = some b ∧ ∀ d, b ≠ .dev d := by
  induction nodes generalizing head with
  | nil => exact absurd mem List.not_mem_nil
  | cons n nodes ih =>
      obtain ⟨-, rfl, valid, next, block, rest⟩ := store
      rcases List.mem_append.mp mem with here | later
      · by_cases same : p = n.ptr
        · subst same
          exact ⟨_, block, fun d same => nomatch same⟩
        · exact valid.live here same
      · exact ih rest later

/-- A device is not among the blocks of a store. -/
theorem IsStore.dev_not_mem {d : ScullDev} (store : IsStore m qset head nodes)
    (block : m.blocks.lookup dev = some (.dev d)) : dev ∉ footprint nodes := by
  intro mem
  obtain ⟨b, entry, other⟩ := store.live mem
  rw [block] at entry
  exact other d (Option.some.inj entry).symm

theorem Node.Valid.congr (valid : n.Valid m qset)
    (same : ∀ p ∈ n.footprint, m'.blocks.lookup p = m.blocks.lookup p) : n.Valid m' qset := by
  rcases valid with none | ⟨live, array, length, quanta⟩
  · exact Or.inl none
  · rw [footprint_array live] at same
    refine Or.inr ⟨live, ?_, length, fun entry mem => ?_⟩
    · rw [same _ (List.mem_append_right _ List.mem_cons_self)]
      exact array
    · by_cases null : entry = 0
      · exact Or.inl null
      · have kept : entry ∈ n.entries.filter (· ≠ 0) :=
          List.mem_filter.mpr ⟨mem, decide_eq_true null⟩
        rw [same entry (List.mem_append_left _ kept)]
        exact quanta entry mem

/-- A store depends on its own blocks only. -/
theorem IsStore.congr (store : IsStore m qset head nodes)
    (same : ∀ p ∈ footprint nodes, m'.blocks.lookup p = m.blocks.lookup p) :
    IsStore m' qset head nodes := by
  induction nodes generalizing head with
  | nil => exact store
  | cons n nodes ih =>
      obtain ⟨nonNull, rfl, valid, next, block, rest⟩ := store
      have here : ∀ p ∈ n.footprint, m'.blocks.lookup p = m.blocks.lookup p := fun p mem =>
        same p (List.mem_append_left _ mem)
      refine ⟨nonNull, rfl, valid.congr here, next, ?_, ih rest fun p mem => ?_⟩
      · rw [here _ Node.ptr_mem_footprint]
        exact block
      · exact same p (List.mem_append_right _ mem)

theorem length_le_footprint : nodes.length ≤ (footprint nodes).length := by
  induction nodes with
  | nil => exact Nat.le_refl 0
  | cons n nodes ih =>
      have pos : 0 < n.footprint.length := List.length_pos_of_mem Node.ptr_mem_footprint
      rw [footprint_cons, List.length_append, List.length_cons]
      omega

/-! ## Trimming a store -/

theorem loadDev_eq_ok {d : ScullDev} : loadDev m p = .ok d ↔ m.blocks.lookup p = some (.dev d) := by
  unfold loadDev
  rw [bind_eq_ok]
  constructor
  · intro run
    obtain ⟨b, load, run⟩ := run
    cases b with
    | dev d' =>
        cases run
        exact Memory.load_eq_ok.mp load
    | qset | array | quantum | foreign => cases run
  · intro entry
    exact ⟨.dev d, Memory.load_eq_ok.mpr entry, rfl⟩

theorem loadQset_eq_ok {node : ScullQset} :
    loadQset m p = .ok node ↔ m.blocks.lookup p = some (.qset node) := by
  unfold loadQset
  rw [bind_eq_ok]
  constructor
  · intro run
    obtain ⟨b, load, run⟩ := run
    cases b with
    | qset node' =>
        cases run
        exact Memory.load_eq_ok.mp load
    | dev | array | quantum | foreign => cases run
  · intro entry
    exact ⟨.qset node, Memory.load_eq_ok.mpr entry, rfl⟩

theorem loadEntry_of_lookup {entries : List Ptr} {i : Nat} {entry : Ptr}
    (array : m.blocks.lookup p = some (.array entries)) (at_i : entries[i]? = some entry) :
    loadEntry m p i = .ok entry := by
  unfold loadEntry
  refine bind_eq_ok.mpr ⟨.array entries, Memory.load_eq_ok.mpr array, ?_⟩
  simp only [at_i]
  rfl

/-- The inner loop frees the entries that are not `NULL`, while these are live and all different. -/
theorem freeQuanta_ok {data next : Ptr} {entries : List Ptr} {left i : Nat}
    (node : m.blocks.lookup head = some (.qset ⟨data, next⟩))
    (array : m.blocks.lookup data = some (.array entries)) (length : i + left = entries.length)
    (quanta : ∀ entry ∈ entries.drop i, entry = 0 ∨ m.blocks.lookup entry = some .quantum)
    (nodup : ((entries.drop i).filter (· ≠ 0)).Nodup) :
    freeQuanta head left i m = .ok (m.dropAll ((entries.drop i).filter (· ≠ 0))) := by
  induction left generalizing i m with
  | zero =>
      rw [List.drop_of_length_le (by omega)]
      rfl
  | succ left ih =>
      have lt : i < entries.length := by omega
      rw [List.drop_eq_getElem_cons lt] at quanta nodup ⊢
      unfold freeQuanta
      rw [bind_eq_ok]
      refine ⟨_, loadQset_eq_ok.mpr node, bind_eq_ok.mpr ⟨entries[i],
        loadEntry_of_lookup array (List.getElem?_eq_getElem lt), ?_⟩⟩
      by_cases null : entries[i] = 0
      · have skip : m.kfree entries[i] = .ok m := Memory.kfree_eq_ok.mpr (Or.inl ⟨null, rfl⟩)
        rw [List.filter_cons_of_neg (by simp [null])] at nodup ⊢
        exact bind_eq_ok.mpr ⟨m, skip, ih node array (by omega)
          (fun entry mem => quanta entry (List.mem_cons_of_mem _ mem)) nodup⟩
      · rw [List.filter_cons_of_pos (by simp [null])] at nodup ⊢
        obtain ⟨fresh, nodup⟩ := List.nodup_cons.mp nodup
        have block := (quanta _ List.mem_cons_self).resolve_left null
        have other : ∀ {q b}, m.blocks.lookup q = some b → b ≠ .quantum → q ≠ entries[i] := by
          intro q b entry ne same
          rw [same, block] at entry
          exact ne (Option.some.inj entry).symm
        refine bind_eq_ok.mpr ⟨m.drop entries[i], Memory.kfree_eq_ok.mpr
          (Or.inr ⟨null, Finmap.mem_of_lookup_eq_some block, rfl⟩), ?_⟩
        refine ih ?_ ?_ (by omega) (fun entry mem => ?_) nodup
        · rw [Memory.lookup_drop_ne (other node (fun same => nomatch same))]
          exact node
        · rw [Memory.lookup_drop_ne (other array (fun same => nomatch same))]
          exact array
        · rcases quanta entry (List.mem_cons_of_mem _ mem) with zero | quantum
          · exact Or.inl zero
          · by_cases zero : entry = 0
            · exact Or.inl zero
            have apart : entry ≠ entries[i] := by
              intro same
              exact fresh (List.mem_filter.mpr ⟨same ▸ mem, by simp [null]⟩)
            rw [Memory.lookup_drop_ne apart]
            exact Or.inr quantum

/-- One iteration of the outer loop frees the blocks of its node. -/
theorem scullTrimBody_ok {next : Ptr} (valid : n.Valid m qset) (nonNull : n.ptr ≠ 0)
    (block : m.blocks.lookup n.ptr = some (.qset ⟨n.data, next⟩)) (nodup : n.footprint.Nodup) :
    scullTrimBody qset.toNat n.ptr m = .ok (next, m.dropAll n.footprint) := by
  unfold scullTrimBody
  refine bind_eq_ok.mpr ⟨_, loadQset_eq_ok.mpr block, ?_⟩
  rcases valid with ⟨null, -⟩ | ⟨live, array, length, quanta⟩
  · have free : m.kfree n.ptr = .ok (m.drop n.ptr) := Memory.kfree_eq_ok.mpr
      (Or.inr ⟨nonNull, Finmap.mem_of_lookup_eq_some block, rfl⟩)
    rw [if_neg (not_not_intro null), Node.footprint_null null]
    exact bind_eq_ok.mpr ⟨m, rfl, bind_eq_ok.mpr ⟨_, loadQset_eq_ok.mpr block,
      bind_eq_ok.mpr ⟨_, free, rfl⟩⟩⟩
  · rw [Node.footprint_array live] at nodup ⊢
    obtain ⟨nodupQuanta, nodupRest, apart⟩ := List.nodup_append.mp nodup
    have ne : n.ptr ≠ n.data := by
      intro same
      rw [same] at nodupRest
      exact (List.nodup_cons.mp nodupRest).1 List.mem_cons_self
    set quantaFreed := m.dropAll (n.entries.filter (· ≠ 0)) with freed
    have keep : ∀ p ∈ [n.data, n.ptr], quantaFreed.blocks.lookup p = m.blocks.lookup p :=
      fun p mem => Memory.lookup_dropAll fun quantum => apart p quantum p mem rfl
    have block₁ : quantaFreed.blocks.lookup n.ptr = some (.qset ⟨n.data, next⟩) := by
      rw [keep _ (List.mem_cons_of_mem _ List.mem_cons_self)]
      exact block
    have array₁ : n.data ∈ quantaFreed.blocks := by
      refine Finmap.mem_of_lookup_eq_some (b := .array n.entries) ?_
      rw [keep _ List.mem_cons_self]
      exact array
    have block₂ : (quantaFreed.drop n.data).blocks.lookup n.ptr =
        some (.qset ⟨n.data, next⟩) := by
      rw [Memory.lookup_drop_ne ne]
      exact block₁
    have inner : freeQuanta n.ptr qset.toNat 0 m = .ok quantaFreed :=
      freeQuanta_ok block array (by omega) quanta nodupQuanta
    have freeArray : quantaFreed.kfree n.data = .ok (quantaFreed.drop n.data) :=
      Memory.kfree_eq_ok.mpr (Or.inr ⟨live, array₁, rfl⟩)
    have clear : (quantaFreed.drop n.data).store n.ptr (.qset ⟨0, next⟩) =
        .ok ((quantaFreed.drop n.data).write n.ptr (.qset ⟨0, next⟩)) :=
      Memory.store_eq_ok.mpr ⟨Finmap.mem_of_lookup_eq_some block₂, rfl⟩
    have freeNode : ((quantaFreed.drop n.data).write n.ptr (.qset ⟨0, next⟩)).kfree n.ptr =
        .ok (m.dropAll (n.entries.filter (· ≠ 0) ++ [n.data, n.ptr])) := by
      refine Memory.kfree_eq_ok.mpr (Or.inr ⟨nonNull,
        Finmap.mem_of_lookup_eq_some Memory.lookup_write, ?_⟩)
      rw [Memory.drop_write, Memory.dropAll_append]
      rfl
    rw [if_pos live]
    refine bind_eq_ok.mpr ⟨_, inner, bind_eq_ok.mpr ⟨_, loadQset_eq_ok.mpr block₁, ?_⟩⟩
    refine bind_eq_ok.mpr ⟨_, freeArray, bind_eq_ok.mpr ⟨_, loadQset_eq_ok.mpr block₂, ?_⟩⟩
    refine bind_eq_ok.mpr ⟨_, clear, ?_⟩
    exact bind_eq_ok.mpr ⟨_, loadQset_eq_ok.mpr Memory.lookup_write,
      bind_eq_ok.mpr ⟨_, freeNode, rfl⟩⟩

/-- The outer loop frees the blocks of a store, each once. -/
theorem scullTrimLoop_ok {fuel : Nat} (store : IsStore m qset head nodes)
    (nodup : (footprint nodes).Nodup) (enough : nodes.length < fuel) :
    scullTrimLoop qset.toNat fuel head m = .ok (m.dropAll (footprint nodes)) := by
  induction nodes generalizing head m fuel with
  | nil =>
      obtain ⟨fuel, rfl⟩ : ∃ k, fuel = k + 1 := ⟨fuel - 1, by omega⟩
      unfold scullTrimLoop
      exact if_pos store
  | cons n nodes ih =>
      obtain ⟨fuel, rfl⟩ : ∃ k, fuel = k + 1 := ⟨fuel - 1, by omega⟩
      obtain ⟨nonNull, rfl, valid, next, block, rest⟩ := store
      rw [footprint_cons] at nodup ⊢
      obtain ⟨nodupHere, nodupRest, apart⟩ := List.nodup_append.mp nodup
      have rest' : IsStore (m.dropAll n.footprint) qset next nodes := rest.congr fun p mem =>
        Memory.lookup_dropAll fun here => apart p here p mem rfl
      unfold scullTrimLoop
      rw [if_neg nonNull]
      refine bind_eq_ok.mpr ⟨_, scullTrimBody_ok valid nonNull block nodupHere, ?_⟩
      rw [Memory.dropAll_append]
      exact ih rest' nodupRest (by rw [List.length_cons] at enough; omega)

/-- What trimming makes of a device. -/
def ScullDev.trimmed (d : ScullDev) : ScullDev :=
  { d with size := 0, quantum := scullQuantumSize, qset := scullQsetSize, data := 0 }

/-- **Trimming.**  On a device with a store of different blocks, `scull_trim` frees these and no
others, each once, and resets the device. -/
theorem scullTrim_store {d : ScullDev} (block : m.blocks.lookup dev = some (.dev d))
    (store : IsStore m d.qset.toInt d.data nodes) (nodup : (footprint nodes).Nodup) :
    scullTrim dev m = .ok (0, (m.dropAll (footprint nodes)).write dev (.dev d.trimmed)) := by
  have enough : nodes.length < m.size + 1 := by
    have live : ∀ p ∈ footprint nodes, p ∈ m.blocks := fun p mem =>
      have ⟨_, entry, _⟩ := store.live mem
      Finmap.mem_of_lookup_eq_some entry
    have := Memory.length_le_size nodup live
    have : nodes.length ≤ (footprint nodes).length := length_le_footprint
    omega
  have block' : (m.dropAll (footprint nodes)).blocks.lookup dev = some (.dev d) := by
    rw [Memory.lookup_dropAll (store.dev_not_mem block)]
    exact block
  unfold scullTrim
  refine bind_eq_ok.mpr ⟨_, loadDev_eq_ok.mpr block, bind_eq_ok.mpr ⟨_,
    scullTrimLoop_ok store nodup enough, bind_eq_ok.mpr ⟨_, loadDev_eq_ok.mpr block',
    bind_eq_ok.mpr ⟨_, Memory.store_eq_ok.mpr ⟨Finmap.mem_of_lookup_eq_some block', rfl⟩, rfl⟩⟩⟩⟩

/-- Trimming a device without a store changes nothing once it is reset. -/
theorem scullTrim_trimmed {d : ScullDev} :
    scullTrim dev (m.write dev (.dev d.trimmed)) = .ok (0, m.write dev (.dev d.trimmed)) := by
  have block : (m.write dev (.dev d.trimmed)).blocks.lookup dev = some (.dev d.trimmed) :=
    Memory.lookup_write
  have empty : IsStore (m.write dev (.dev d.trimmed)) d.trimmed.qset.toInt d.trimmed.data [] := rfl
  rw [scullTrim_store block empty List.nodup_nil]
  exact congrArg (fun m => Except.ok (0, m)) Memory.write_write

/-- From `m` to `m'` the blocks `ps` were freed, in this order, each of them once, and no other block was
touched but that at `dev`. -/
structure FreesExactly (dev : Ptr) (ps : List Ptr) (m m' : Mem) : Prop where
  freed : m'.freed = m.freed ++ ps
  once : ps.Nodup
  gone : ∀ p ∈ ps, m'.blocks.lookup p = none
  kept : ∀ p, p ∉ ps → p ≠ dev → m'.blocks.lookup p = m.blocks.lookup p

/-- What trimming frees: every list node, every array, and every quantum that is not `NULL`. -/
theorem mem_footprint : p ∈ footprint nodes ↔
    ∃ n ∈ nodes, p = n.ptr ∨ n.data ≠ 0 ∧ (p = n.data ∨ p ∈ n.entries ∧ p ≠ 0) := by
  rw [footprint, List.mem_flatMap]
  apply exists_congr
  intro n
  apply and_congr_right
  intro _
  rcases eq_or_ne n.data 0 with null | live
  · simp [Node.footprint_null null, null]
  · rw [Node.footprint_array live, and_iff_right live]
    simp only [List.mem_append, List.mem_filter, List.mem_cons, List.not_mem_nil, or_false,
      decide_eq_true_eq]
    tauto

/-- **The whole store, exactly once.**  `scull_trim` ends without touching a block that is not live, frees
the blocks of the store and no others, and resets the device; once more, it frees nothing and leaves the
device as it is. -/
theorem scullTrim_frees {d : ScullDev} (block : m.blocks.lookup dev = some (.dev d))
    (store : IsStore m d.qset.toInt d.data nodes) (nodup : (footprint nodes).Nodup) :
    ∃ m', scullTrim dev m = .ok (0, m') ∧ FreesExactly dev (footprint nodes) m m' ∧
      m'.blocks.lookup dev = some (.dev d.trimmed) ∧ scullTrim dev m' = .ok (0, m') := by
  refine ⟨_, scullTrim_store block store nodup, ?_, Memory.lookup_write, scullTrim_trimmed⟩
  constructor
  · exact Memory.freed_dropAll
  · exact nodup
  · intro p mem
    have other : p ≠ dev := by
      intro same
      exact store.dev_not_mem block (same ▸ mem)
    rw [Memory.lookup_write_ne other, Memory.lookup_dropAll_mem mem]
  · intro p out other
    rw [Memory.lookup_write_ne other, Memory.lookup_dropAll out]

/-- A device of two quanta a node, whose only node has an array with one quantum. -/
def demoDevice : ScullDev := ⟨2, 4000, 2, 10, {}⟩

def demoStore : Mem :=
  ((({ blocks := ∅ : Mem }.write 4 .quantum).write 3 (.array [0, 4])).write 2 (.qset ⟨3, 0⟩)).write 1
    (.dev demoDevice)

theorem demoStore_isStore : IsStore demoStore demoDevice.qset.toInt demoDevice.data [⟨2, 3, [0, 4]⟩] := by
  have node : demoStore.blocks.lookup 2 = some (.qset ⟨3, 0⟩) := by
    rw [demoStore, Memory.lookup_write_ne (by decide), Memory.lookup_write]
  have array : demoStore.blocks.lookup 3 = some (.array [0, 4]) := by
    rw [demoStore, Memory.lookup_write_ne (by decide), Memory.lookup_write_ne (by decide),
      Memory.lookup_write]
  have quantum : demoStore.blocks.lookup 4 = some .quantum := by
    rw [demoStore, Memory.lookup_write_ne (by decide), Memory.lookup_write_ne (by decide),
      Memory.lookup_write_ne (by decide), Memory.lookup_write]
  refine ⟨by decide, rfl, .inr ⟨by decide, array, rfl, fun entry mem => ?_⟩, 0, node, rfl⟩
  rcases List.mem_cons.mp mem with rfl | mem
  · exact .inl rfl
  · obtain rfl := List.mem_singleton.mp mem
    exact .inr quantum

/-- A device with three nodes, the second one of which has no array. -/
def longStore : Mem :=
  ((((((({ blocks := ∅ : Mem }.write 8 .quantum).write 7 (.array [8, 0])).write 6 (.qset ⟨7, 0⟩)).write 5
    (.qset ⟨0, 6⟩)).write 4 .quantum).write 3 (.array [0, 4])).write 2 (.qset ⟨3, 5⟩)).write 1
      (.dev demoDevice)

def longNodes : List Node := [⟨2, 3, [0, 4]⟩, ⟨5, 0, []⟩, ⟨6, 7, [8, 0]⟩]

theorem longStore_isStore : IsStore longStore demoDevice.qset.toInt demoDevice.data longNodes := by
  have quanta : ∀ entry ∈ [0, 4, 8], entry = 0 ∨ longStore.blocks.lookup entry = some .quantum := by
    simp [longStore, Memory.lookup_write_ne]
  have first : Node.Valid longStore demoDevice.qset.toInt ⟨2, 3, [0, 4]⟩ := by
    refine .inr ⟨by decide, by simp [longStore, Memory.lookup_write_ne], rfl, fun entry mem => ?_⟩
    exact quanta entry (by simp at mem ⊢; tauto)
  have last : Node.Valid longStore demoDevice.qset.toInt ⟨6, 7, [8, 0]⟩ := by
    refine .inr ⟨by decide, by simp [longStore, Memory.lookup_write_ne], rfl, fun entry mem => ?_⟩
    exact quanta entry (by simp at mem ⊢; tauto)
  refine ⟨by decide, rfl, first, 5, by simp [longStore, demoDevice, Memory.lookup_write_ne], ?_⟩
  refine ⟨by decide, rfl, .inl ⟨rfl, rfl⟩, 6, by simp [longStore, Memory.lookup_write_ne], ?_⟩
  exact ⟨by decide, rfl, last, 0, by simp [longStore, Memory.lookup_write_ne], rfl⟩

/-- Node after node, the quanta, the array and the node itself are freed. -/
theorem scullTrim_frees_longStore :
    ∃ m', scullTrim 1 longStore = .ok (0, m') ∧ m'.freed = [4, 3, 2, 5, 8, 7, 6] ∧
      scullTrim 1 m' = .ok (0, m') := by
  have block : longStore.blocks.lookup 1 = some (.dev demoDevice) := Memory.lookup_write
  obtain ⟨m', run, frees, -, again⟩ := scullTrim_frees block longStore_isStore (by decide)
  exact ⟨m', run, frees.freed, again⟩

/-! ## Trimming ends -/

/-- A result that is not that of an endless loop. -/
def Ends {α : Type} (x : Except Fault α) : Prop := x ≠ .error .diverges

theorem Ends.bind {α β : Type} {x : Except Fault α} {f : α → Except Fault β} (first : Ends x)
    (rest : ∀ a, x = .ok a → Ends (f a)) : Ends (x >>= f) := by
  intro diverges
  rcases bind_eq_error.mp diverges with here | ⟨a, run, later⟩
  · exact first here
  · exact rest a run later

theorem ends_ok {α : Type} (a : α) : Ends (.ok a) := fun same => nomatch same

theorem ends_load : Ends (m.load p) := by
  unfold Ends Memory.load
  cases m.blocks.lookup p with
  | none => exact fun same => nomatch same
  | some b => exact fun same => nomatch same

theorem ends_loadDev : Ends (loadDev m p) := by
  refine ends_load.bind fun b _ => ?_
  cases b with
  | dev d => exact ends_ok d
  | qset | array | quantum | foreign => exact fun same => nomatch same

theorem ends_loadQset : Ends (loadQset m p) := by
  refine ends_load.bind fun b _ => ?_
  cases b with
  | qset node => exact ends_ok node
  | dev | array | quantum | foreign => exact fun same => nomatch same

theorem ends_loadEntry {i : Nat} : Ends (loadEntry m p i) := by
  refine ends_load.bind fun b _ => ?_
  cases b with
  | array entries =>
      dsimp only
      cases entries[i]? with
      | none => exact fun same => nomatch same
      | some entry => exact ends_ok entry
  | dev | qset | quantum | foreign => exact fun same => nomatch same

theorem ends_kfree : Ends (m.kfree p) := by
  unfold Ends Memory.kfree
  split
  · exact fun same => nomatch same
  · split
    · exact fun same => nomatch same
    · exact fun same => nomatch same

theorem ends_store {b : Block} : Ends (m.store p b) := by
  unfold Ends Memory.store
  split
  · exact fun same => nomatch same
  · exact fun same => nomatch same

theorem ends_freeQuanta {left i : Nat} : Ends (freeQuanta head left i m) := by
  induction left generalizing i m with
  | zero => exact ends_ok m
  | succ left ih =>
      exact ends_loadQset.bind fun _ _ => ends_loadEntry.bind fun _ _ => ends_kfree.bind fun _ _ => ih

theorem ends_scullTrimBody {k : Nat} : Ends (scullTrimBody k head m) := by
  refine ends_loadQset.bind fun node _ => ?_
  have finish : ∀ m : Mem, Ends (do
      let node ← loadQset m head
      let m ← m.kfree head
      return (node.next, m)) := fun m =>
    ends_loadQset.bind fun _ _ => ends_kfree.bind fun _ _ => ends_ok _
  split
  · exact ends_freeQuanta.bind fun _ _ => ends_loadQset.bind fun _ _ => ends_kfree.bind fun _ _ =>
      ends_loadQset.bind fun _ _ => ends_store.bind fun m _ => finish m
  · exact (ends_ok m).bind fun m _ => finish m

theorem size_store {b : Block} (run : m.store p b = .ok m') : m'.size = m.size := by
  obtain ⟨live, rfl⟩ := Memory.store_eq_ok.mp run
  exact Memory.size_write live

theorem size_freeQuanta {left i : Nat} (run : freeQuanta head left i m = .ok m') :
    m'.size ≤ m.size := by
  induction left generalizing i m with
  | zero =>
      cases run
      exact Nat.le_refl _
  | succ left ih =>
      obtain ⟨_, -, run⟩ := bind_eq_ok.mp run
      obtain ⟨_, -, run⟩ := bind_eq_ok.mp run
      obtain ⟨m₁, free, run⟩ := bind_eq_ok.mp run
      exact (ih run).trans (Memory.size_kfree free)

/-- Every iteration of the outer loop frees a block. -/
theorem size_scullTrimBody {k : Nat} {next : Ptr} (nonNull : head ≠ 0)
    (run : scullTrimBody k head m = .ok (next, m')) : m'.size < m.size := by
  have finish : ∀ {m₁ : Mem}, (do
      let node ← loadQset m₁ head
      let m ← m₁.kfree head
      return (node.next, m)) = Except.ok (next, m') → m'.size < m₁.size := by
    intro m₁ run
    obtain ⟨_, -, run⟩ := bind_eq_ok.mp run
    obtain ⟨m₂, free, run⟩ := bind_eq_ok.mp run
    cases run
    rcases Memory.kfree_eq_ok.mp free with ⟨null, -⟩ | ⟨-, live, rfl⟩
    · exact absurd null nonNull
    · exact Memory.size_drop live
  obtain ⟨node, -, run⟩ := bind_eq_ok.mp run
  split at run
  · obtain ⟨m₁, inner, run⟩ := bind_eq_ok.mp run
    obtain ⟨_, -, run⟩ := bind_eq_ok.mp run
    obtain ⟨m₂, free, run⟩ := bind_eq_ok.mp run
    obtain ⟨_, -, run⟩ := bind_eq_ok.mp run
    obtain ⟨m₃, store, run⟩ := bind_eq_ok.mp run
    have last := finish run
    have := size_freeQuanta inner
    have := Memory.size_kfree free
    have := size_store store
    omega
  · obtain ⟨m₁, same, run⟩ := bind_eq_ok.mp run
    cases same
    exact finish run

theorem ends_scullTrimLoop {k fuel : Nat} (enough : m.size < fuel) :
    Ends (scullTrimLoop k fuel head m) := by
  induction fuel generalizing head m with
  | zero => exact absurd enough (Nat.not_lt_zero _)
  | succ fuel ih =>
      unfold scullTrimLoop
      split
      · exact ends_ok m
      · rename_i nonNull
        refine ends_scullTrimBody.bind fun result run => ih ?_
        have := size_scullTrimBody nonNull run
        omega

/-- `scull_trim` ends on any memory. -/
theorem scullTrim_ne_diverges : scullTrim dev m ≠ .error .diverges :=
  ends_loadDev.bind fun _ _ => (ends_scullTrimLoop (Nat.lt_succ_self _)).bind fun _ _ =>
    ends_loadDev.bind fun _ _ => ends_store.bind fun _ _ => ends_ok _

end

end ScullDrivers.Scull
