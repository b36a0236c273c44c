import ScullDrivers.Interaction.Program
import ScullDrivers.Scull.Store

/-!
# `scull_open` access by access

`scullOpenSteps` is `scull_open` with its `scull_trim` as a program of single accesses to the device, to
its store and to the allocator.  Undisturbed it is `scullOpen` (`scullOpenSteps_exec`).  `Access.run_cases`
says what one access can do to memory.
-/

namespace ScullDrivers.Scull

open Heap Interaction Outcome

/-! ## The program -/

/-- An access of `scull_open` to the device, to its store, or to the allocator.  `forever` is a loop that
does not end. -/
inductive Access
  | devQset (dev : Ptr)
  | devData (dev : Ptr)
  | setSize (dev : Ptr) (size : UInt64)
  | setQuantum (dev : Ptr) (quantum : Int32)
  | setQset (dev : Ptr) (qset : Int32)
  | setData (dev : Ptr) (data : Ptr)
  | nodeData (dptr : Ptr)
  | nodeNext (dptr : Ptr)
  | setNodeData (dptr : Ptr) (data : Ptr)
  | entry (data : Ptr) (i : Nat)
  | kfree (p : Ptr)
  | forever
  deriving DecidableEq

/-- What it finds. -/
abbrev Access.Resp : Access → Type
  | .devQset _ => Int32
  | .devData _ | .nodeData _ | .nodeNext _ | .entry _ _ => Ptr
  | .setSize _ _ | .setQuantum _ _ | .setQset _ _ | .setData _ _ | .setNodeData _ _ | .kfree _ => Unit
  | .forever => Empty

/-- A field of a device is read. -/
def readDev {α : Type} (dev : Ptr) (field : ScullDev → α) (m : Mem) : Except Fault (α × Mem) := do
  let d ← loadDev m dev
  return (field d, m)

/-- A field of a device is set. -/
def setDev (dev : Ptr) (set : ScullDev → ScullDev) (m : Mem) : Except Fault (Unit × Mem) := do
  let d ← loadDev m dev
  let m ← m.store dev (.dev (set d))
  return ((), m)

/-- A field of a list node is read. -/
def readNode {α : Type} (dptr : Ptr) (field : ScullQset → α) (m : Mem) : Except Fault (α × Mem) := do
  let node ← loadQset m dptr
  return (field node, m)

/-- What it does to memory. -/
def Access.run : (e : Access) → Mem → Except Fault (e.Resp × Mem)
  | .devQset dev => readDev dev (·.qset)
  | .devData dev => readDev dev (·.data)
  | .setSize dev size => setDev dev fun d => { d with size }
  | .setQuantum dev quantum => setDev dev fun d => { d with quantum }
  | .setQset dev qset => setDev dev fun d => { d with qset }
  | .setData dev data => setDev dev fun d => { d with data }
  | .nodeData dptr => readNode dptr (·.data)
  | .nodeNext dptr => readNode dptr (·.next)
  | .setNodeData dptr data => fun m => do
      let node ← loadQset m dptr
      let m ← m.store dptr (.qset { node with data })
      return ((), m)
  | .entry data i => fun m => do
      let entry ← loadEntry m data i
      return (entry, m)
  | .kfree p => fun m => do
      let m ← m.kfree p
      return ((), m)
  | .forever => fun _ => .error .diverges

abbrev Steps (α : Type) := Prog Access Access.Resp α

abbrev access (e : Access) : Steps e.Resp := perform e

/-- The inner loop of `scull_trim`, from entry `i` on; `left` is `qset - i`. -/
def freeQuantaSteps (dptr : Ptr) : (left i : Nat) → Steps Unit
  | 0, _ => return ()
  | left + 1, i => do
      let data ← access (.nodeData dptr)
      let quantum ← access (.entry data i)
      access (.kfree quantum)
      freeQuantaSteps dptr left (i + 1)

/-- What the body of the outer loop does to a node with an array. -/
def freeArraySteps (qset : Nat) (dptr : Ptr) : Steps Unit := do
  freeQuantaSteps dptr qset 0
  let data ← access (.nodeData dptr)
  access (.kfree data)
  access (.setNodeData dptr 0)

/-- The body of the outer loop of `scull_trim`, and the `next` it leaves. -/
def scullTrimBodySteps (qset : Nat) (dptr : Ptr) : Steps Ptr := do
  let data ← access (.nodeData dptr)
  (if data ≠ 0 then freeArraySteps qset dptr else pure ())
  let next ← access (.nodeNext dptr)
  access (.kfree dptr)
  return next

/-- The outer loop of `scull_trim`. -/
def scullTrimLoopSteps (qset : Nat) : (fuel : Nat) → (dptr : Ptr) → Steps Unit
  | 0, _ => do
      let endless ← access .forever
      nomatch endless
  | fuel + 1, dptr =>
      if dptr = 0 then return ()
      else do
        let next ← scullTrimBodySteps qset dptr
        scullTrimLoopSteps qset fuel next

/-- The end of `scull_trim`. -/
def resetSteps (dev : Ptr) : Steps Unit := do
  access (.setSize dev 0)
  access (.setQuantum dev scullQuantumSize)
  access (.setQset dev scullQsetSize)
  access (.setData dev 0)

/-- `scull_trim`, with at most `fuel` iterations of its outer loop. -/
def scullTrimSteps (fuel : Nat) (dev : Ptr) : Steps Int := do
  let qset ← access (.devQset dev)
  let data ← access (.devData dev)
  scullTrimLoopSteps qset.toInt.toNat fuel data
  resetSteps dev
  return 0

/-- `scull_open` on the device whose `cdev` the inode names. -/
def scullOpenSteps (fuel : Nat) (dev : Ptr) (filp : File) : Steps (Int × File) := do
  let filp := { filp with privateData := dev }
  if filp.fFlags &&& oAccmode = oWronly then
    let _ ← scullTrimSteps fuel dev
    return (0, filp)
  else return (0, filp)

/-- Memory that answers one program only. -/
def undisturbed : Kernel Access Access.Resp Mem := fun e m r m' => e.run m = .ok (r, m')

section Undisturbed

variable {m m' : Mem} {dptr dev p : Ptr} {fuel left i qset : Nat}

/-! ### What an access does -/

theorem readDev_eq_ok {α : Type} {field : ScullDev → α} {r : α} : readDev dev field m = .ok (r, m') ↔
    ∃ d, m.blocks.lookup dev = some (.dev d) ∧ r = field d ∧ m' = m := by
  unfold readDev
  rw [bind_eq_ok]
  refine exists_congr fun d => and_congr loadDev_eq_ok ⟨fun eq => ?_, fun both => ?_⟩
  · cases eq
    exact ⟨rfl, rfl⟩
  · rw [both.1, both.2]
    rfl

theorem setDev_eq_ok {set : ScullDev → ScullDev} {r : Unit} : setDev dev set m = .ok (r, m') ↔
    ∃ d, m.blocks.lookup dev = some (.dev d) ∧ m' = m.write dev (.dev (set d)) := by
  unfold setDev
  rw [bind_eq_ok]
  refine exists_congr fun d => ?_
  rw [loadDev_eq_ok, bind_eq_ok]
  refine and_congr_right fun block => ⟨fun run => ?_, fun eq => ?_⟩
  · obtain ⟨m₁, store, eq⟩ := run
    cases eq
    exact (Memory.store_eq_ok.mp store).2
  · exact ⟨m', Memory.store_eq_ok.mpr ⟨Finmap.mem_of_lookup_eq_some block, eq⟩, rfl⟩

theorem readNode_eq_ok {α : Type} {field : ScullQset → α} {r : α} :
    readNode dptr field m = .ok (r, m') ↔
      ∃ node, m.blocks.lookup dptr = some (.qset node) ∧ r = field node ∧ m' = m := by
  unfold readNode
  rw [bind_eq_ok]
  refine exists_congr fun node => and_congr loadQset_eq_ok ⟨fun eq => ?_, fun both => ?_⟩
  · cases eq
    exact ⟨rfl, rfl⟩
  · rw [both.1, both.2]
    rfl

theorem run_setNodeData {data : Ptr} {r : Unit} :
    (Access.setNodeData dptr data).run m = .ok (r, m') ↔
      ∃ node, m.blocks.lookup dptr = some (.qset node) ∧
        m' = m.write dptr (.qset { node with data }) := by
  show (loadQset m dptr >>= _) = _ ↔ _
  rw [bind_eq_ok]
  refine exists_congr fun node => ?_
  rw [loadQset_eq_ok, bind_eq_ok]
  refine and_congr_right fun block => ⟨fun run => ?_, fun eq => ?_⟩
  · obtain ⟨m₁, store, eq⟩ := run
    cases eq
    exact (Memory.store_eq_ok.mp store).2
  · exact ⟨m', Memory.store_eq_ok.mpr ⟨Finmap.mem_of_lookup_eq_some block, eq⟩, rfl⟩

theorem run_entry {data r : Ptr} : (Access.entry data i).run m = .ok (r, m') ↔
    loadEntry m data i = .ok r ∧ m' = m := by
  show (loadEntry m data i >>= _) = _ ↔ _
  rw [bind_eq_ok]
  constructor
  · rintro ⟨entry, load, eq⟩
    cases eq
    exact ⟨load, rfl⟩
  · rintro ⟨load, rfl⟩
    exact ⟨r, load, rfl⟩

theorem run_kfree {r : Unit} : (Access.kfree p).run m = .ok (r, m') ↔ m.kfree p = .ok m' := by
  show (m.kfree p >>= _) = _ ↔ _
  rw [bind_eq_ok]
  constructor
  · rintro ⟨m₁, free, eq⟩
    cases eq
    exact free
  · exact fun free => ⟨m', free, rfl⟩

/-- An access leaves memory alone, writes to a live block, or frees one.  A device stays a device, and
what it has in `data` is changed by setting it only. -/
theorem Access.run_cases {e : Access} {r : e.Resp} (run : e.run m = .ok (r, m')) :
    m' = m ∨
    (∃ p b, p ∈ m.blocks ∧ m' = m.write p b ∧ ∀ d, m.blocks.lookup p = some (.dev d) →
      ∃ d', b = .dev d' ∧ (d'.data = d.data ∨ ∃ data, e = .setData p data)) ∨
    (∃ p, e = .kfree p ∧ p ∈ m.blocks ∧ m' = m.drop p) := by
  have written : ∀ {dev : Ptr} {set : ScullDev → ScullDev} {r : Unit},
      setDev dev set m = .ok (r, m') →
      (∀ d, (set d).data = d.data ∨ ∃ data, e = .setData dev data) →
      ∃ p b, p ∈ m.blocks ∧ m' = m.write p b ∧ ∀ d, m.blocks.lookup p = some (.dev d) →
        ∃ d', b = .dev d' ∧ (d'.data = d.data ∨ ∃ data, e = .setData p data) := by
    intro dev set r run kept
    obtain ⟨d, block, eq⟩ := setDev_eq_ok.mp run
    refine ⟨dev, _, Finmap.mem_of_lookup_eq_some block, eq, fun d' block' => ?_⟩
    cases block.symm.trans block'
    exact ⟨_, rfl, kept d⟩
  cases e with
  | devQset dev | devData dev =>
      obtain ⟨-, -, -, same⟩ := readDev_eq_ok.mp run
      exact .inl same
  | nodeData dptr | nodeNext dptr =>
      obtain ⟨-, -, -, same⟩ := readNode_eq_ok.mp run
      exact .inl same
  | setSize dev size => exact .inr (.inl (written run fun d => .inl rfl))
  | setQuantum dev quantum => exact .inr (.inl (written run fun d => .inl rfl))
  | setQset dev qset => exact .inr (.inl (written run fun d => .inl rfl))
  | setData dev data => exact .inr (.inl (written run fun d => .inr ⟨data, rfl⟩))
  | setNodeData dptr data =>
      obtain ⟨node, block, eq⟩ := run_setNodeData.mp run
      refine .inr (.inl ⟨dptr, _, Finmap.mem_of_lookup_eq_some block, eq, fun d block' => ?_⟩)
      cases block.symm.trans block'
  | entry data i => exact .inl (run_entry.mp run).2
  | kfree p =>
      rcases Memory.kfree_eq_ok.mp (run_kfree.mp run) with ⟨-, same⟩ | ⟨-, live, eq⟩
      · exact .inl same
      · exact .inr (.inr ⟨p, rfl, live, eq⟩)
  | forever => cases run

/-- What was freed stays so. -/
theorem Access.run_dead {e : Access} {r : e.Resp} (run : e.run m = .ok (r, m')) (dead : p ∉ m.blocks) :
    p ∉ m'.blocks := by
  rcases Access.run_cases run with rfl | ⟨q, b, live, rfl, -⟩ | ⟨q, -, -, rfl⟩
  · exact dead
  · unfold Memory.write
    rw [Finmap.mem_insert]
    rintro (rfl | before)
    · exact dead live
    · exact dead before
  · exact fun after => dead (Finmap.mem_erase.mp after).2

/-! ### Undisturbed programs -/

theorem access_bind_exec {α : Type} {e : Access} {f : e.Resp → Steps α} {a : α} :
    (access e >>= f).Exec undisturbed m a m' ↔
      ∃ r m₁, e.run m = .ok (r, m₁) ∧ (f r).Exec undisturbed m₁ a m' := Iff.rfl

theorem freeQuantaSteps_exec : (freeQuantaSteps dptr left i).Exec undisturbed m () m' ↔
    freeQuanta dptr left i m = .ok m' := by
  induction left generalizing i m with
  | zero => exact ⟨fun done => congrArg Except.ok done.2.symm, fun eq => ⟨rfl, (Except.ok.inj eq).symm⟩⟩
  | succ left ih =>
      simp only [freeQuanta, bind_eq_ok]
      constructor
      · rintro ⟨_, _, data, quantum, _, entry, _, m₁, free, rest⟩
        obtain ⟨node, block, rfl, rfl⟩ := readNode_eq_ok.mp data
        obtain ⟨load, rfl⟩ := run_entry.mp entry
        exact ⟨node, loadQset_eq_ok.mpr block, quantum, load, m₁, run_kfree.mp free, ih.mp rest⟩
      · rintro ⟨node, load, quantum, entry, m₁, free, rest⟩
        exact ⟨node.data, m, readNode_eq_ok.mpr ⟨node, loadQset_eq_ok.mp load, rfl, rfl⟩, quantum, m,
          run_entry.mpr ⟨entry, rfl⟩, (), m₁, run_kfree.mpr free, ih.mpr rest⟩

/-- What the body of the outer loop does to a node with an array. -/
def freeArray (qset : Nat) (dptr : Ptr) (m : Mem) : Except Fault Mem := do
  let m ← freeQuanta dptr qset 0 m
  let node ← loadQset m dptr
  let m ← m.kfree node.data
  let node ← loadQset m dptr
  m.store dptr (.qset { node with data := 0 })

theorem scullTrimBody_eq_ok {next : Ptr} : scullTrimBody qset dptr m = .ok (next, m') ↔
    ∃ node m₁ node', loadQset m dptr = .ok node ∧
      (node.data ≠ 0 ∧ freeArray qset dptr m = .ok m₁ ∨ node.data = 0 ∧ m₁ = m) ∧
      loadQset m₁ dptr = .ok node' ∧ m₁.kfree dptr = .ok m' ∧ next = node'.next := by
  unfold scullTrimBody freeArray
  simp only [bind_eq_ok]
  constructor
  · rintro ⟨node, load, rest⟩
    split at rest
    · rename_i live
      obtain ⟨m₁, inner, rest⟩ := bind_eq_ok.mp rest
      obtain ⟨node₁, load₁, rest⟩ := bind_eq_ok.mp rest
      obtain ⟨m₂, free, rest⟩ := bind_eq_ok.mp rest
      obtain ⟨node₂, load₂, rest⟩ := bind_eq_ok.mp rest
      obtain ⟨m₃, store, rest⟩ := bind_eq_ok.mp rest
      obtain ⟨node', load', rest⟩ := bind_eq_ok.mp rest
      obtain ⟨m₄, last, eq⟩ := bind_eq_ok.mp rest
      cases eq
      exact ⟨node, m₃, node', load, .inl ⟨live, m₁, inner, node₁, load₁, m₂, free, node₂, load₂, store⟩,
        load', last, rfl⟩
    · rename_i none
      obtain ⟨m₁, same, rest⟩ := bind_eq_ok.mp rest
      cases same
      obtain ⟨node', load', rest⟩ := bind_eq_ok.mp rest
      obtain ⟨m₄, last, eq⟩ := bind_eq_ok.mp rest
      cases eq
      exact ⟨node, m, node', load, .inr ⟨not_not.mp none, rfl⟩, load', last, rfl⟩
  · rintro ⟨node, m₃, node', load, array, load', last, rfl⟩
    refine ⟨node, load, ?_⟩
    have rest : (do
        let node ← loadQset m₃ dptr
        let m ← m₃.kfree dptr
        return (node.next, m)) = Except.ok (node'.next, m') :=
      bind_eq_ok.mpr ⟨node', load', bind_eq_ok.mpr ⟨m', last, rfl⟩⟩
    rcases array with ⟨live, m₁, inner, node₁, load₁, m₂, free, node₂, load₂, store⟩ | ⟨none, rfl⟩
    · rw [if_pos live]
      exact bind_eq_ok.mpr ⟨m₁, inner, bind_eq_ok.mpr ⟨node₁, load₁, bind_eq_ok.mpr ⟨m₂, free,
        bind_eq_ok.mpr ⟨node₂, load₂, bind_eq_ok.mpr ⟨m₃, store, rest⟩⟩⟩⟩⟩
    · rw [if_neg (not_not_intro none)]
      exact bind_eq_ok.mpr ⟨m₃, rfl, rest⟩

theorem freeArraySteps_exec : (freeArraySteps qset dptr).Exec undisturbed m () m' ↔
    freeArray qset dptr m = .ok m' := by
  simp only [freeArraySteps, freeArray, exec_bind (p := freeQuantaSteps dptr qset 0), bind_eq_ok]
  constructor
  · rintro ⟨_, m₁, inner, _, _, data, _, m₃, free, _, _, set, -, rfl⟩
    obtain ⟨node, block, rfl, rfl⟩ := readNode_eq_ok.mp data
    obtain ⟨node', block', rfl⟩ := run_setNodeData.mp set
    exact ⟨_, freeQuantaSteps_exec.mp inner, node, loadQset_eq_ok.mpr block, m₃, run_kfree.mp free,
      node', loadQset_eq_ok.mpr block',
      Memory.store_eq_ok.mpr ⟨Finmap.mem_of_lookup_eq_some block', rfl⟩⟩
  · rintro ⟨m₁, inner, node, load, m₃, free, node', load', store⟩
    have block' := loadQset_eq_ok.mp load'
    exact ⟨(), m₁, freeQuantaSteps_exec.mpr inner, node.data, m₁,
      readNode_eq_ok.mpr ⟨node, loadQset_eq_ok.mp load, rfl, rfl⟩, (), m₃, run_kfree.mpr free, (), m',
      run_setNodeData.mpr ⟨node', block', (Memory.store_eq_ok.mp store).2⟩, rfl, rfl⟩

theorem scullTrimBodySteps_exec {next : Ptr} :
    (scullTrimBodySteps qset dptr).Exec undisturbed m next m' ↔
      scullTrimBody qset dptr m = .ok (next, m') := by
  have array : ∀ {data : Ptr} {m₁ : Mem},
      (if data ≠ 0 then freeArraySteps qset dptr else pure ()).Exec undisturbed m () m₁ ↔
        data ≠ 0 ∧ freeArray qset dptr m = .ok m₁ ∨ data = 0 ∧ m₁ = m := by
    intro data m₁
    split
    next live => simp [live, freeArraySteps_exec]
    next none => simp [not_not.mp none]
  rw [scullTrimBody_eq_ok]
  constructor
  · intro exec
    obtain ⟨_, _, data, rest⟩ := access_bind_exec.mp exec
    obtain ⟨_, m₁, first, _, _, next, _, _, free, rfl, rfl⟩ := exec_bind.mp rest
    obtain ⟨node, block, rfl, rfl⟩ := readNode_eq_ok.mp data
    obtain ⟨node', block', rfl, rfl⟩ := readNode_eq_ok.mp next
    exact ⟨node, _, node', loadQset_eq_ok.mpr block, array.mp first, loadQset_eq_ok.mpr block',
      run_kfree.mp free, rfl⟩
  · rintro ⟨node, m₁, node', load, first, load', free, rfl⟩
    refine access_bind_exec.mpr
      ⟨node.data, m, readNode_eq_ok.mpr ⟨node, loadQset_eq_ok.mp load, rfl, rfl⟩, ?_⟩
    exact exec_bind.mpr ⟨(), m₁, array.mpr first, node'.next, m₁,
      readNode_eq_ok.mpr ⟨node', loadQset_eq_ok.mp load', rfl, rfl⟩, (), m', run_kfree.mpr free,
      rfl, rfl⟩

theorem scullTrimLoopSteps_exec : (scullTrimLoopSteps qset fuel dptr).Exec undisturbed m () m' ↔
    scullTrimLoop qset fuel dptr m = .ok m' := by
  induction fuel generalizing dptr m with
  | zero =>
      constructor
      · rintro ⟨endless, -⟩
        exact endless.elim
      · exact fun eq => nomatch eq
  | succ fuel ih =>
      unfold scullTrimLoopSteps scullTrimLoop
      split
      · exact ⟨fun done => congrArg Except.ok done.2.symm, fun eq => ⟨rfl, (Except.ok.inj eq).symm⟩⟩
      · rw [exec_bind, bind_eq_ok]
        constructor
        · rintro ⟨next, m₁, body, rest⟩
          exact ⟨(next, m₁), scullTrimBodySteps_exec.mp body, ih.mp rest⟩
        · rintro ⟨⟨next, m₁⟩, body, rest⟩
          exact ⟨next, m₁, scullTrimBodySteps_exec.mpr body, ih.mpr rest⟩

/-- The four stores at the end leave a trimmed device. -/
theorem resetSteps_exec : (resetSteps dev).Exec undisturbed m () m' ↔
    ∃ d, m.blocks.lookup dev = some (.dev d) ∧ m' = m.write dev (.dev d.trimmed) := by
  constructor
  · rintro ⟨_, _, size, _, _, quantum, _, _, qset, _, _, data, -, rfl⟩
    obtain ⟨d, block, rfl⟩ := setDev_eq_ok.mp size
    obtain ⟨d₁, block₁, rfl⟩ := setDev_eq_ok.mp quantum
    cases Memory.lookup_write.symm.trans block₁
    obtain ⟨d₂, block₂, rfl⟩ := setDev_eq_ok.mp qset
    cases Memory.lookup_write.symm.trans block₂
    obtain ⟨d₃, block₃, rfl⟩ := setDev_eq_ok.mp data
    cases Memory.lookup_write.symm.trans block₃
    refine ⟨d, block, ?_⟩
    rw [Memory.write_write, Memory.write_write, Memory.write_write]
    rfl
  · rintro ⟨d, block, rfl⟩
    refine ⟨(), _, setDev_eq_ok.mpr ⟨d, block, rfl⟩, (), _,
      setDev_eq_ok.mpr ⟨_, Memory.lookup_write, rfl⟩, (), _,
      setDev_eq_ok.mpr ⟨_, Memory.lookup_write, rfl⟩, (), _,
      setDev_eq_ok.mpr ⟨_, Memory.lookup_write, rfl⟩, rfl, ?_⟩
    rw [Memory.write_write, Memory.write_write, Memory.write_write]
    rfl

/-- Nothing between its accesses, the program is the function. -/
theorem scullTrimSteps_exec {ret : Int} : (scullTrimSteps (m.size + 1) dev).Exec undisturbed m ret m' ↔
    scullTrim dev m = .ok (ret, m') := by
  unfold scullTrim
  simp only [bind_eq_ok]
  constructor
  · intro exec
    obtain ⟨_, _, qset, rest⟩ := access_bind_exec.mp exec
    obtain ⟨_, _, data, rest⟩ := access_bind_exec.mp rest
    obtain ⟨_, m₁, loop, rest⟩ := exec_bind.mp rest
    obtain ⟨_, m₂, reset, rfl, rfl⟩ := exec_bind.mp rest
    obtain ⟨d, block, rfl, rfl⟩ := readDev_eq_ok.mp qset
    obtain ⟨d', block', rfl, rfl⟩ := readDev_eq_ok.mp data
    cases block.symm.trans block'
    obtain ⟨d₁, block₁, rfl⟩ := resetSteps_exec.mp reset
    exact ⟨d, loadDev_eq_ok.mpr block, m₁, scullTrimLoopSteps_exec.mp loop, d₁,
      loadDev_eq_ok.mpr block₁, _,
      Memory.store_eq_ok.mpr ⟨Finmap.mem_of_lookup_eq_some block₁, rfl⟩, rfl⟩
  · rintro ⟨d, load, m₁, loop, d₁, load₁, m₂, store, eq⟩
    cases eq
    have block := loadDev_eq_ok.mp load
    obtain ⟨-, rfl⟩ := Memory.store_eq_ok.mp store
    refine access_bind_exec.mpr ⟨d.qset, m, readDev_eq_ok.mpr ⟨d, block, rfl, rfl⟩, ?_⟩
    refine access_bind_exec.mpr ⟨d.data, m, readDev_eq_ok.mpr ⟨d, block, rfl, rfl⟩, ?_⟩
    exact exec_bind.mpr ⟨(), m₁, scullTrimLoopSteps_exec.mpr loop, exec_bind.mpr ⟨(), _,
      resetSteps_exec.mpr ⟨d₁, loadDev_eq_ok.mp load₁, rfl⟩, rfl, rfl⟩⟩

theorem scullOpenSteps_exec {s : State} {filp : File} {r : Int × File} :
    (scullOpenSteps (s.memory.size + 1) dev filp).Exec undisturbed s.memory r m' ↔
      scullOpen dev filp s = .ok (r.1, r.2, { s with memory := m' }) := by
  obtain ⟨ret, file⟩ := r
  unfold scullOpenSteps scullOpen
  dsimp only
  split
  · rw [exec_bind, bind_eq_ok]
    constructor
    · rintro ⟨zero, m₁, trim, eq, rfl⟩
      cases eq
      exact ⟨(zero, m'), scullTrimSteps_exec.mp trim, rfl⟩
    · rintro ⟨⟨zero, m₁⟩, trim, eq⟩
      cases eq
      exact ⟨zero, _, scullTrimSteps_exec.mpr trim, rfl, rfl⟩
  · constructor
    · rintro ⟨eq, rfl⟩
      cases eq
      rfl
    · intro eq
      have parts := Except.ok.inj eq
      exact ⟨Prod.ext (congrArg Prod.fst parts).symm (congrArg (fun r => r.2.1) parts).symm,
        (congrArg (fun r => r.2.2.memory) parts).symm⟩

end Undisturbed

end ScullDrivers.Scull
