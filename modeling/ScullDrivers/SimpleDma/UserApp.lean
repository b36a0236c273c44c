import ScullDrivers.SimpleDma.Transfer

/-!
# The user program, `dma_user/user_app.c`

`main` writes a message to its mapping of the buffer, asks for a transfer, and reads the mapping as a
string, where its comments expect the message reversed.  The transfer reverses the whole buffer of the
module, with the zeros behind the message and whatever lies beyond the mapping, so the string read is the
one that stood at the other end of the buffer: `main_reads_reverse_iff`.
-/

namespace ScullDrivers.SimpleDma

open Buffer

/-! ## The program -/

/-- `DMA_BUFFER_SIZE` of the program. -/
def mappingSize : ℕ := 4 * 4096

/-- How `main` exits: with the strings it printed from the mapping, before and after the transfer. -/
inductive Exit
  | failure
  | success (wrote read : List UInt8)
  deriving DecidableEq

/-- `main`, sending `message`, a string without its terminator.  `fd` is what `open` returns and `mapped`
whether `mmap` succeeds; `buf` is the buffer of the module, and the mapping is its start. -/
def main (pageSize : UInt64) (g : Globals) (message : List UInt8) (fd : Int32) (mapped : Bool)
    (buf : List UInt8) : Option (Exit × List UInt8) :=
  if fd < 0 then return (.failure, buf)
  else if mapped = false then return (.failure, buf)
  else if mappingSize < message.length + 1 then return (.failure, buf)
  else do
    let buf ← write buf (List.replicate mappingSize 0)
    let buf ← write buf (message ++ [0])
    let wrote ← terminated 0 (buf.take mappingSize)
    let (ret, buf) ← simpleDmaIoctl (dmaBufferSize pageSize) g simpleDmaStartTransfer buf
    if ret < 0 then return (.failure, buf)
    else do
      let read ← terminated 0 (buf.take mappingSize)
      return (.success wrote read, buf)

/-! ## The buffer at the transfer -/

section

variable {pageSize : UInt64} {g : Globals} {message buf : List UInt8} {fd : Int32} {k : ℕ}

/-- The buffer with the message written. -/
def written (message buf : List UInt8) : List UInt8 :=
  message ++ [0] ++ List.replicate (mappingSize - (message ++ [0]).length) 0 ++ buf.drop mappingSize

theorem terminated_written (free : 0 ∉ message) (fits : message.length + 1 ≤ mappingSize) :
    terminated 0 ((written message buf).take mappingSize) = some message := by
  apply terminated_eq_some.mpr ⟨free, List.prefix_take_iff.mpr ⟨?_, ?_⟩⟩
  · rw [written, List.append_assoc]
    exact List.prefix_append _ _
  · rw [List.length_append]
    exact fits

/-- The ioctl finds the message written, and the program prints what it leaves. -/
theorem main_eq (opened : 0 ≤ fd) (large : mappingSize ≤ buf.length) (free : 0 ∉ message)
    (fits : message.length + 1 ≤ mappingSize) :
    main pageSize g message fd true buf = do
      let (ret, buf) ←
        simpleDmaIoctl (dmaBufferSize pageSize) g simpleDmaStartTransfer (written message buf)
      if ret < 0 then return (.failure, buf)
      else do
        let read ← terminated 0 (buf.take mappingSize)
        return (.success message read, buf) := by
  have fit : (message ++ [0]).length ≤ mappingSize := by rw [List.length_append]; exact fits
  obtain ⟨cleared, copied⟩ := write_replicate (z := 0) large fit
  change _ = some (written message buf) at copied
  have here : ¬ fd < 0 := Int32.not_lt.mpr opened
  rw [main, if_neg here, if_neg (by decide), if_neg (by omega), cleared, Option.bind_eq_bind,
    Option.bind_some, copied, Option.bind_eq_bind, Option.bind_some, terminated_written free fits]
  rfl

theorem length_written (large : mappingSize ≤ buf.length)
    (fits : message.length + 1 ≤ mappingSize) : (written message buf).length = buf.length := by
  simp only [written, List.length_append, List.length_singleton, List.length_replicate,
    List.length_drop]
  omega

/-! ## What is read -/

theorem suffix_append_iff_of_length_le {s front back : List UInt8}
    (within : s.length ≤ back.length) : s <:+ front ++ back ↔ s <:+ back := by
  constructor
  · intro all
    exact List.suffix_of_suffix_length_le all (List.suffix_append front back) within
  · intro last
    exact last.trans (List.suffix_append front back)

/-- The message is read reversed when the buffer that is reversed ends in it. -/
theorem terminated_reverse_iff {l : List UInt8} (free : 0 ∉ message)
    (fits : message.length + 1 ≤ mappingSize) :
    terminated 0 (l.reverse.take mappingSize) = some message.reverse ↔ 0 :: message <:+ l := by
  rw [terminated_eq_some, List.prefix_take_iff, ← List.reverse_cons, List.reverse_prefix,
    List.length_reverse, List.length_cons, List.mem_reverse]
  exact ⟨fun all => all.2.1, fun last => ⟨free, last, fits⟩⟩

/-- Nothing but zeros follows the message in a buffer as large as the mapping. -/
theorem getLast?_written (same : buf.length = mappingSize) :
    (written message buf).getLast? = some 0 := by
  rw [written, List.drop_of_length_le (by omega), List.append_nil, List.getLast?_append,
    List.getLast?_append, List.getLast?_replicate]
  split
  · rfl
  · rfl

theorem not_suffix_written (same : buf.length = mappingSize) (nonempty : message ≠ [])
    (free : 0 ∉ message) : ¬ 0 :: message <:+ written message buf := by
  intro last
  have zero : (written message buf).getLast? = some 0 := getLast?_written same
  obtain ⟨front, eq⟩ := last
  rw [← eq, List.getLast?_append, List.getLast?_cons_of_ne_nil nonempty,
    List.getLast?_eq_some_getLast nonempty] at zero
  have terminator : message.getLast nonempty = 0 := Option.some.inj zero
  exact free (terminator ▸ List.getLast_mem nonempty)

theorem suffix_written_iff (page : pageSize.toNat = 2 ^ k) (large : 12 ≤ k)
    (length : buf.length = 4 * pageSize.toNat) (nonempty : message ≠ []) (free : 0 ∉ message)
    (fits : message.length + 1 ≤ mappingSize) :
    0 :: message <:+ written message buf ↔ 4096 < pageSize.toNat ∧ 0 :: message <:+ buf := by
  rcases Nat.eq_or_lt_of_le large with rfl | larger
  · have small : ¬ 4096 < pageSize.toNat := by omega
    have same : buf.length = mappingSize := by rw [length, page]; rfl
    exact iff_of_false (not_suffix_written same nonempty free) fun both => small both.1
  · have twice : 2 ^ 13 ≤ 2 ^ k := Nat.pow_le_pow_right (by decide) larger
    have size : mappingSize = 4 * 4096 := rfl
    have beyond : (0 :: message).length ≤ (buf.drop mappingSize).length := by
      rw [List.length_cons, List.length_drop]
      omega
    have cut : 0 :: message <:+ buf ↔ 0 :: message <:+ buf.drop mappingSize := by
      conv_lhs => rw [← List.take_append_drop mappingSize buf]
      exact suffix_append_iff_of_length_le beyond
    rw [written, suffix_append_iff_of_length_le beyond, and_iff_right (by omega), cut]

/-! ## The sizes -/

theorem toNat_dmaBufferSize (int : 4 * pageSize.toNat ≤ 2 ^ 31) :
    (dmaBufferSize pageSize).toNat = 4 * pageSize.toNat := by
  rw [dmaBufferSize, UInt64.toNat_mul]
  exact Nat.mod_eq_of_lt (by rw [show (4 : UInt64).toNat = 4 from rfl]; omega)

/-- The last index of a larger buffer is the `int` -1. -/
theorem toInt_lastIndex_of_large (page : pageSize.toNat = 2 ^ k)
    (large : ¬ 4 * pageSize.toNat ≤ 2 ^ 31) : (lastIndex (dmaBufferSize pageSize)).toInt = -1 := by
  obtain ⟨m, rfl⟩ : ∃ m, k = 30 + m := by
    refine ⟨k - 30, (Nat.add_sub_cancel' ?_).symm⟩
    by_contra small
    have bound : 2 ^ k ≤ 2 ^ 29 := Nat.pow_le_pow_right (by decide) (by omega)
    omega
  have size : (dmaBufferSize pageSize).toNat = 2 ^ 32 * 2 ^ m % 2 ^ 64 := by
    rw [dmaBufferSize, UInt64.toNat_mul, page, Nat.pow_add, ← Nat.mul_assoc]
    rfl
  have last : (dmaBufferSize pageSize - 1).toNat % 2 ^ 32 = 2 ^ 32 - 1 := by
    rw [UInt64.toNat_sub, size, show (1 : UInt64).toNat = 1 from rfl]
    omega
  rw [toInt_lastIndex, Int.bmod_def]
  omega

/-! ## The transfer -/

theorem main_eq_reverse (opened : 0 ≤ fd) (allocated : g.dmaBufferVirt ≠ 0)
    (large : mappingSize ≤ buf.length) (free : 0 ∉ message) (fits : message.length + 1 ≤ mappingSize)
    (length : buf.length = 4 * pageSize.toNat) (int : 4 * pageSize.toNat ≤ 2 ^ 31) :
    main pageSize g message fd true buf = do
      let read ← terminated 0 ((written message buf).reverse.take mappingSize)
      return (.success message read, (written message buf).reverse) := by
  have size := toNat_dmaBufferSize int
  have same : (written message buf).length = (dmaBufferSize pageSize).toNat := by
    rw [length_written large fits, length, size]
  have wide : mappingSize = 4 * 4096 := rfl
  rw [main_eq opened large free fits,
    simpleDmaIoctl_start allocated same (by omega) (by omega), Option.bind_eq_bind, Option.bind_some]
  rfl

/-- A buffer too large for an `int` is not reversed at all. -/
theorem main_eq_written (opened : 0 ≤ fd) (allocated : g.dmaBufferVirt ≠ 0)
    (large : mappingSize ≤ buf.length) (free : 0 ∉ message) (fits : message.length + 1 ≤ mappingSize)
    (page : pageSize.toNat = 2 ^ k) (huge : ¬ 4 * pageSize.toNat ≤ 2 ^ 31) :
    main pageSize g message fd true buf = some (.success message message, written message buf) := by
  have met : ¬ 0 < lastIndex (dmaBufferSize pageSize) := by
    rw [Int32.lt_iff_toInt_lt, toInt_lastIndex_of_large page huge]
    decide
  rw [main_eq opened large free fits, simpleDmaIoctl, if_pos rfl, if_pos allocated,
    reverseLoop_of_not_lt met]
  simp only [Option.bind_eq_bind, Option.bind_some, Option.pure_def, terminated_written free fits]
  rfl

/-- With the pages the program was written for, what it reads is empty. -/
theorem main_reads_nil (opened : 0 ≤ fd) (allocated : g.dmaBufferVirt ≠ 0) (free : 0 ∉ message)
    (fits : message.length + 1 ≤ mappingSize) (length : buf.length = mappingSize) :
    ∃ after, main 4096 g message fd true buf = some (.success message [], after) := by
  have first : (written message buf).getLast? = some 0 := getLast?_written length
  rw [← List.head?_reverse, List.head?_eq_some_iff] at first
  obtain ⟨rest, eq⟩ := first
  have size : buf.length = 4 * (4096 : UInt64).toNat := length.trans rfl
  rw [main_eq_reverse opened allocated (Nat.le_of_eq length.symm) free fits size (by decide), eq]
  exact ⟨_, rfl⟩

/-- What `main` needs to find in the buffer: the message, with a zero before it, in the last bytes of
it, beyond the mapping.  A buffer that is not reversed at all asks for a palindrome. -/
def Foretold (pageSize : UInt64) (message buf : List UInt8) : Prop :=
  if 4 * pageSize.toNat ≤ 2 ^ 31 then 4096 < pageSize.toNat ∧ 0 :: message <:+ buf
  else message.reverse = message

/-- **The program reads its message reversed exactly when** the buffer ended in the message before the
program started, where the mapping does not reach. -/
theorem main_reads_reverse_iff (page : pageSize.toNat = 2 ^ k) (large : 12 ≤ k)
    (allocated : g.dmaBufferVirt ≠ 0) (length : buf.length = 4 * pageSize.toNat)
    (nonempty : message ≠ []) (free : 0 ∉ message) (fits : message.length + 1 ≤ 4 * 4096)
    (opened : 0 ≤ fd) :
    (∃ wrote after, main pageSize g message fd true buf =
      some (.success wrote message.reverse, after)) ↔ Foretold pageSize message buf := by
  have size : mappingSize = 4 * 4096 := rfl
  have least : 2 ^ 12 ≤ 2 ^ k := Nat.pow_le_pow_right (by decide) large
  have wide : mappingSize ≤ buf.length := by omega
  unfold Foretold
  split
  next int =>
    rw [← suffix_written_iff page large length nonempty free fits,
      ← terminated_reverse_iff free fits,
      main_eq_reverse opened allocated wide free fits length int]
    cases terminated 0 ((written message buf).reverse.take mappingSize) with
    | none => simp
    | some read => simp
  next huge =>
    rw [main_eq_written opened allocated wide free fits page huge]
    simp [eq_comm]

/-- The message of the program, `Hello from user space!`. -/
def hello : List UInt8 :=
  [72, 101, 108, 108, 111, 32, 102, 114, 111, 109, 32, 117, 115, 101, 114, 32, 115, 112, 97, 99, 101, 33]

/-- A cleared buffer of four pages of 4096 bytes: the program prints nothing for the message. -/
theorem main_hello_reads_nil :
    hello ≠ [] ∧ 0 ∉ hello ∧ hello.length + 1 ≤ 4 * 4096 ∧
    (List.replicate (4 * 4096) (0 : UInt8)).length = 4 * (4096 : UInt64).toNat ∧
    (4096 : UInt64).toNat = 2 ^ 12 ∧ hello.reverse ≠ [] ∧
    ∃ after, main 4096 { dmaBufferVirt := 1 } hello 3 true (List.replicate (4 * 4096) 0) =
      some (.success hello [], after) :=
  ⟨by decide, by decide, by decide, List.length_replicate, rfl, by decide,
    main_reads_nil (by decide) (by decide) (by decide) (by decide) List.length_replicate⟩

/-- Pages of 8192 bytes, and a buffer that ends in the message. -/
theorem main_reads_reverse_hi :
    ∃ wrote after, main 8192 { dmaBufferVirt := 1 } [104, 105] 3 true
      (List.replicate (4 * 8192 - 3) 0 ++ [0, 104, 105]) =
        some (.success wrote [105, 104], after) := by
  apply (main_reads_reverse_iff (k := 13) rfl (by decide) (by decide) ?_ (by decide) (by decide)
    (by decide) (by decide)).mpr
  · rw [Foretold, if_pos (by decide)]
    exact ⟨by decide, List.suffix_append _ _⟩
  · rw [List.length_append, List.length_replicate]
    rfl

end

end ScullDrivers.SimpleDma
