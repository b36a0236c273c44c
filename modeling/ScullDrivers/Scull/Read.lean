import ScullDrivers.ReadStream
import ScullDrivers.Scull.Device

/-!
# Reading a device in calls

`scull_read` copies its whole string at every call: it looks neither at `count` nor at `*f_pos`.  So
the calls on one open file read the string as a stream only as long as none of them succeeds
(`scullReads_contract_iff`).
-/

namespace ScullDrivers.Scull

open ReadStream

/-- What one `scull_read` gets: `count`, and how many bytes `copy_to_user` leaves uncopied. -/
structure ReadArgs where
  count : Nat
  notCopied : Nat

/-- One `scull_read` at the position `fPos`. -/
def scullReadCall (args : ReadArgs) (fPos : Int) : Call UInt8 :=
  let (ret, written, fPos') := scullRead args.count args.notCopied fPos
  { count := args.count, ret, written, before := fPos, after := fPos' }

/-- `scull_read` calls one after the other on one open file, from the position `fPos` on. -/
def scullReads : List ReadArgs → (fPos : Int) → List (Call UInt8)
  | [], _ => []
  | args :: rest, fPos =>
      let call := scullReadCall args fPos
      call :: scullReads rest call.after

/-- The copy fails, with no more than `count` bytes in the user's buffer. -/
def ReadArgs.Fails (args : ReadArgs) : Prop :=
  args.notCopied ≠ 0 ∧ funnyThingToPrint.length - args.notCopied ≤ args.count

section

variable {args : ReadArgs} {reads : List ReadArgs} {fPos : Int} {call : Call UInt8}

theorem scullReadCall_of_copied (copied : args.notCopied = 0) : scullReadCall args fPos =
    ⟨args.count, funnyThingToPrint.length, funnyThingToPrint, fPos, fPos⟩ := by
  unfold scullReadCall scullRead
  rw [copied, if_neg (not_not.mpr rfl), Nat.sub_zero, List.take_length]

theorem scullReadCall_of_failed (failed : args.notCopied ≠ 0) : scullReadCall args fPos =
    ⟨args.count, -efault, funnyThingToPrint.take (funnyThingToPrint.length - args.notCopied), fPos,
      fPos⟩ := by
  unfold scullReadCall scullRead
  rw [if_pos failed]

/-- A call leaves `*f_pos` alone. -/
theorem scullReadCall_after : (scullReadCall args fPos).after = fPos := by
  rcases eq_or_ne args.notCopied 0 with copied | failed
  · rw [scullReadCall_of_copied copied]
  · rw [scullReadCall_of_failed failed]

/-- Every call of a sequence is made at the position the sequence starts from. -/
theorem scullReads_eq_map : scullReads reads fPos = reads.map (scullReadCall · fPos) := by
  induction reads with
  | nil => rfl
  | cons args rest ih => rw [scullReads, scullReadCall_after, ih, List.map_cons]

/-- A call fails as a read may, or returns the whole string. -/
theorem scullReadCall_ret : (scullReadCall args fPos).written.length ≤ args.count ∧
    ((scullReadCall args fPos).ret = -efault ∨ (scullReadCall args fPos).ret = 0) ↔ args.Fails := by
  unfold ReadArgs.Fails
  rcases eq_or_ne args.notCopied 0 with copied | failed
  · rw [scullReadCall_of_copied copied]
    refine iff_of_false (fun fails => ?_) (fun fails => fails.1 copied)
    rcases fails.2 with ret | ret <;> cases ret
  · rw [scullReadCall_of_failed failed, List.length_take_of_le (Nat.sub_le _ _)]
    exact ⟨fun fails => ⟨failed, fails.1⟩, fun fails => ⟨fails.2, .inl rfl⟩⟩

end

/-- **`scull_read` as a stream.**  A sequence of calls keeps the contract exactly when the copy of
each of them fails, with no more bytes copied than were asked for. -/
theorem scullReads_contract_iff (reads : List ReadArgs) :
    Contract funnyThingToPrint (-efault) (scullReads reads 0) ↔ ∀ args ∈ reads, args.Fails := by
  have still : ∀ c ∈ scullReads reads 0, c.before = 0 ∧ c.after = 0 := by
    rw [scullReads_eq_map]
    intro c mem
    obtain ⟨args, -, rfl⟩ := List.mem_map.mp mem
    exact ⟨rfl, scullReadCall_after⟩
  have nonempty : funnyThingToPrint ≠ [] :=
    List.append_ne_nil_of_right_ne_nil _ (List.cons_ne_nil 0 [])
  have negative : -efault < 0 := by decide
  rw [contract_iff_of_still nonempty negative still, scullReads_eq_map, List.forall_mem_map]
  exact forall₂_congr fun args _ => scullReadCall_ret

/-- A read of four bytes gets all of the string, and of two reads of a page each the second gets it
again. -/
theorem not_contract_scullReads :
    ¬ Contract funnyThingToPrint (-efault) (scullReads [⟨4, 0⟩] 0) ∧
      ¬ Contract funnyThingToPrint (-efault) (scullReads [⟨4096, 0⟩, ⟨4096, 0⟩] 0) := by
  constructor
  · intro contract
    exact absurd (contract.room _ (.head _)) (by decide)
  · intro contract
    exact absurd (contract.exhausted [_] _ [] rfl (by decide)) (by decide)

end ScullDrivers.Scull
