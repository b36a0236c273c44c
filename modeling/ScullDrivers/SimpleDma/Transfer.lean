import Mathlib.Algebra.Group.Nat.Defs
import ScullDrivers.Buffer
import ScullDrivers.SimpleDma.Driver

/-!
# The simulated transfer

`simple_dma_ioctl` on the bytes of the buffer.  `SIMPLE_DMA_START_TRANSFER` reverses it in place with two
`int` indices, `reverseLoop_eq`; what any number of calls does to it follows by their parity, `ioctls_eq`.
-/

namespace ScullDrivers.SimpleDma

open Buffer

/-! ## The ioctl -/

/-- `EFAULT`. -/
def efault : Int64 := 14

/-- `ENOTTY`. -/
def enotty : Int64 := 25

/-- `_IO`. -/
def io (type nr : UInt32) : UInt32 := (type <<< 8) ||| nr

/-- `SIMPLE_DMA_MAGIC`, the character `s`. -/
def simpleDmaMagic : UInt32 := 0x73

/-- `SIMPLE_DMA_START_TRANSFER`. -/
def simpleDmaStartTransfer : UInt32 := io simpleDmaMagic 1

section Index

variable {i j : Int32}

theorem toInt_succ_of_lt (apart : i < j) : (i + 1).toInt = i.toInt + 1 := by
  have below := Int32.lt_iff_toInt_lt.mp apart
  have low := i.le_toInt
  have high := j.toInt_lt
  rw [Int32.toInt_add, Int32.toInt_one]
  exact Int.bmod_eq_of_le (by omega) (by omega)

theorem toInt_pred_of_lt (apart : i < j) : (j - 1).toInt = j.toInt - 1 := by
  have below := Int32.lt_iff_toInt_lt.mp apart
  have low := i.le_toInt
  have high := j.toInt_lt
  rw [Int32.toInt_sub, Int32.toInt_one]
  exact Int.bmod_eq_of_le (by omega) (by omega)

end Index

/-- The `for` loop of `simple_dma_ioctl`.  It has no outcome when it touches a byte outside `buf`. -/
def reverseLoop (buf : List UInt8) (i j : Int32) : Option (List UInt8) :=
  if apart : i < j then do
    let temp ← Buffer.load buf i.toInt
    let last ← Buffer.load buf j.toInt
    let buf ← Buffer.store buf i.toInt last
    let buf ← Buffer.store buf j.toInt temp
    reverseLoop buf (i + 1) (j - 1)
  else return buf
termination_by (j.toInt - i.toInt).toNat
decreasing_by
  rw [toInt_succ_of_lt apart, toInt_pred_of_lt apart]
  have below := Int32.lt_iff_toInt_lt.mp apart
  omega

/-- The index `DMA_BUFFER_SIZE - 1`, as the `int` it is stored in. -/
def lastIndex (size : UInt64) : Int32 := (size - 1).toUInt32.toInt32

/-- `simple_dma_ioctl` where `DMA_BUFFER_SIZE` is `size` and `buf` are the bytes at `dma_buffer_virt`. -/
def simpleDmaIoctl (size : UInt64) (g : Globals) (cmd : UInt32) (buf : List UInt8) :
    Option (Int64 × List UInt8) :=
  if cmd = simpleDmaStartTransfer then
    if g.dmaBufferVirt ≠ 0 then do
      let buf ← reverseLoop buf 0 (lastIndex size)
      return (0, buf)
    else return (-efault, buf)
  else return (-enotty, buf)

/-- Several calls of `simple_dma_ioctl`, with nothing written between them. -/
def ioctls (size : UInt64) (g : Globals) :
    List UInt32 → List UInt8 → Option (List Int64 × List UInt8)
  | [], buf => some ([], buf)
  | cmd :: cmds, buf => do
    let (ret, buf) ← simpleDmaIoctl size g cmd buf
    let (rets, buf) ← ioctls size g cmds buf
    return (ret :: rets, buf)

/-! ## Reversal -/

section

variable {size : UInt64} {g : Globals} {buf l l' : List UInt8} {i j : Int32} {a b : ℕ}

theorem reverseLoop_of_not_lt (met : ¬ i < j) : reverseLoop buf i j = some buf := by
  rw [reverseLoop, dif_neg met]
  rfl

/-- One pass of the loop, from indices inside the buffer. -/
theorem reverseLoop_of_lt (low : i.toInt = a) (high : j.toInt = b) (apart : a < b)
    (inside : b < buf.length) :
    reverseLoop buf i j = reverseLoop ((buf.set a buf[b]).set b buf[a]) (i + 1) (j - 1) := by
  have below : i < j := Int32.lt_iff_toInt_lt.mpr (by omega)
  rw [reverseLoop, dif_pos below, low, high, load_natCast, load_natCast,
    List.getElem?_eq_getElem (by omega), List.getElem?_eq_getElem inside]
  simp only [Option.bind_eq_bind, Option.bind_some]
  rw [store_natCast (by omega), Option.bind_some,
    store_natCast (by rw [List.length_set]; exact inside), Option.bind_some]

/-- From a buffer with the ends exchanged up to its two indices, the loop exchanges the rest. -/
theorem reverseLoop_turned (turned : Turned l a l') (low : i.toInt = a)
    (high : j.toInt + a + 1 = l.length) : reverseLoop l' i j = some l.reverse := by
  induction h : l.length - 2 * a using Nat.strongRecOn generalizing a l' i j with
  | ind rest ih =>
      have length := turned.length
      rcases Nat.lt_or_ge (2 * a + 1) l.length with apart | met
      · obtain ⟨b, sum⟩ : ∃ b, a + b + 1 = l.length := ⟨l.length - 1 - a, by omega⟩
        have last : j.toInt = b := by omega
        have below : i < j := Int32.lt_iff_toInt_lt.mpr (by omega)
        have next := turned.exchange sum (by omega) (List.getElem?_eq_getElem (by omega))
          (List.getElem?_eq_getElem (by omega))
        rw [reverseLoop_of_lt low last (by omega) (by omega)]
        exact ih (l.length - 2 * (a + 1)) (by omega) next
          (by rw [toInt_succ_of_lt below, low]; rfl)
          (by rw [toInt_pred_of_lt below]; omega) rfl
      · have done : ¬ i < j := by
          rw [Int32.lt_iff_toInt_lt]
          omega
        rw [reverseLoop_of_not_lt done, turned.reverse met]

theorem toInt_lastIndex : (lastIndex size).toInt = ((size - 1).toNat : ℤ).bmod (2 ^ 32) := by
  rw [lastIndex, Int32.toInt, UInt32.toBitVec_toInt32, BitVec.toInt_eq_toNat_bmod,
    UInt32.toNat_toBitVec, UInt64.toNat_toUInt32, Int.natCast_emod]
  exact Int.emod_bmod _ _

theorem toInt_lastIndex_of_le (pos : 1 ≤ size.toNat) (int : size.toNat ≤ 2 ^ 31) :
    (lastIndex size).toInt + 1 = size.toNat := by
  have below : (size - 1).toNat = size.toNat - 1 :=
    UInt64.toNat_sub_of_le size 1 (UInt64.le_iff_toNat_le.mpr pos)
  rw [toInt_lastIndex, below, Int.bmod_eq_of_le (by omega) (by omega)]
  omega

/-- **The loop reverses the buffer**, without touching a byte outside it. -/
theorem reverseLoop_eq (length : buf.length = size.toNat) (pos : 1 ≤ size.toNat)
    (int : size.toNat ≤ 2 ^ 31) : reverseLoop buf 0 (lastIndex size) = some buf.reverse := by
  apply reverseLoop_turned Turned.zero rfl
  have last := toInt_lastIndex_of_le pos int
  omega

/-! ## Any number of calls -/

/-- What one call leaves in the buffer. -/
def transferred (g : Globals) (cmd : UInt32) (buf : List UInt8) : List UInt8 :=
  if cmd = simpleDmaStartTransfer ∧ g.dmaBufferVirt ≠ 0 then buf.reverse else buf

@[simp] theorem length_transferred {cmd : UInt32} :
    (transferred g cmd buf).length = buf.length := by
  unfold transferred
  split
  · exact List.length_reverse
  · rfl

theorem simpleDmaIoctl_start (allocated : g.dmaBufferVirt ≠ 0)
    (length : buf.length = size.toNat) (pos : 1 ≤ size.toNat) (int : size.toNat ≤ 2 ^ 31) :
    simpleDmaIoctl size g simpleDmaStartTransfer buf = some (0, buf.reverse) := by
  rw [simpleDmaIoctl, if_pos rfl, if_pos allocated, reverseLoop_eq length pos int]
  rfl

theorem simpleDmaIoctl_transferred {cmd : UInt32} (length : buf.length = size.toNat)
    (pos : 1 ≤ size.toNat) (int : size.toNat ≤ 2 ^ 31) :
    ∃ ret, simpleDmaIoctl size g cmd buf = some (ret, transferred g cmd buf) := by
  rcases eq_or_ne cmd simpleDmaStartTransfer with rfl | other
  · rcases eq_or_ne g.dmaBufferVirt 0 with none | allocated
    · rw [transferred, if_neg fun both => both.2 none, simpleDmaIoctl, if_pos rfl,
        if_neg fun some => some none]
      exact ⟨-efault, rfl⟩
    · rw [transferred, if_pos ⟨rfl, allocated⟩, simpleDmaIoctl_start allocated length pos int]
      exact ⟨0, rfl⟩
  · rw [transferred, if_neg fun both => other both.1, simpleDmaIoctl, if_neg other]
    exact ⟨-enotty, rfl⟩

/-- The calls after which an allocated buffer is reversed: those with an odd number of transfers. -/
def OddTransfers (cmds : List UInt32) : Prop :=
  cmds.count simpleDmaStartTransfer % 2 = 1

instance (cmds : List UInt32) : Decidable (OddTransfers cmds) :=
  inferInstanceAs (Decidable (_ = _))

theorem oddTransfers_cons {cmd : UInt32} {cmds : List UInt32} :
    OddTransfers (cmd :: cmds) ↔
      if cmd = simpleDmaStartTransfer then ¬ OddTransfers cmds else OddTransfers cmds := by
  unfold OddTransfers
  split
  next start =>
    rw [start, List.count_cons_self]
    omega
  next other => rw [List.count_cons_of_ne other]

/-- Calls on an allocated buffer, one after the other. -/
theorem ioctls_eq {cmds : List UInt32} (allocated : g.dmaBufferVirt ≠ 0)
    (length : buf.length = size.toNat) (pos : 1 ≤ size.toNat) (int : size.toNat ≤ 2 ^ 31) :
    ∃ rets, ioctls size g cmds buf =
      some (rets, if OddTransfers cmds then buf.reverse else buf) := by
  induction cmds generalizing buf with
  | nil => exact ⟨[], rfl⟩
  | cons cmd cmds ih =>
      have one : ∃ ret, simpleDmaIoctl size g cmd buf = some (ret, transferred g cmd buf) :=
        simpleDmaIoctl_transferred length pos int
      have same : (transferred g cmd buf).length = size.toNat := by rw [length_transferred, length]
      obtain ⟨ret, first⟩ := one
      obtain ⟨rets, rest⟩ := ih same
      have both : ioctls size g (cmd :: cmds) buf = some (ret :: rets,
          if OddTransfers cmds then (transferred g cmd buf).reverse else transferred g cmd buf) := by
        rw [ioctls, first]
        simp only [Option.bind_eq_bind, Option.bind_some, rest]
        rfl
      refine ⟨ret :: rets, both.trans ?_⟩
      rcases eq_or_ne cmd simpleDmaStartTransfer with start | other
      · simp only [oddTransfers_cons, if_pos start, ite_not, transferred,
          if_pos (And.intro start allocated), List.reverse_reverse]
      · have quiet : ¬ (cmd = simpleDmaStartTransfer ∧ g.dmaBufferVirt ≠ 0) :=
          fun both => other both.1
        simp only [oddTransfers_cons, if_neg other, transferred, if_neg quiet]

/-- **`SIMPLE_DMA_START_TRANSFER` reverses the buffer**, byte for byte and inside it, whatever its
length and content; calls without a write between them leave it reversed when they started an odd
number of transfers and as it was when they started an even number; any other command, and any command
without a buffer, leaves it alone. -/
theorem simpleDmaIoctl_reverses (length : buf.length = size.toNat) (pos : 1 ≤ size.toNat)
    (int : size.toNat < 2 ^ 31) :
    (∃ rev, reverseLoop buf 0 (lastIndex size) = some rev ∧ rev.length = buf.length ∧
      ∀ k < buf.length, rev[k]? = buf[buf.length - 1 - k]?) ∧
    (g.dmaBufferVirt ≠ 0 → ∀ cmds, ∃ rets, ioctls size g cmds buf =
      some (rets, if OddTransfers cmds then buf.reverse else buf)) ∧
    ∀ cmd, cmd ≠ simpleDmaStartTransfer ∨ g.dmaBufferVirt = 0 →
      ∃ ret, simpleDmaIoctl size g cmd buf = some (ret, buf) := by
  have bound : size.toNat ≤ 2 ^ 31 := Nat.le_of_lt int
  refine ⟨⟨buf.reverse, reverseLoop_eq length pos bound, List.length_reverse, ?_⟩, ?_, ?_⟩
  · intro k inside
    exact List.getElem?_reverse inside
  · intro allocated cmds
    exact ioctls_eq allocated length pos bound
  · intro cmd quiet
    have one : ∃ ret, simpleDmaIoctl size g cmd buf = some (ret, transferred g cmd buf) :=
      simpleDmaIoctl_transferred length pos bound
    obtain ⟨ret, run⟩ := one
    rw [transferred, if_neg fun both => quiet.elim (absurd both.1) both.2] at run
    exact ⟨ret, run⟩

/-- A buffer of three bytes, and two transfers. -/
theorem simpleDmaIoctl_reverses_three :
    (∃ rev, reverseLoop [1, 2, 3] 0 (lastIndex 3) = some rev ∧ rev[0]? = some 3) ∧
      ∃ rets, ioctls 3 { dmaBufferVirt := 1 } [simpleDmaStartTransfer, simpleDmaStartTransfer]
        [1, 2, 3] = some (rets, [1, 2, 3]) := by
  obtain ⟨⟨rev, run, _, bytes⟩, calls, _⟩ :=
    @simpleDmaIoctl_reverses 3 { dmaBufferVirt := 1 } [1, 2, 3] rfl (by decide) (by decide)
  exact ⟨⟨rev, run, bytes 0 (by decide)⟩, calls (by decide) _⟩

end

end ScullDrivers.SimpleDma
