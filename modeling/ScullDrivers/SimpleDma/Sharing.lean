import Mathlib.Data.Fintype.Basic
import ScullDrivers.Interaction.Protocol
import ScullDrivers.SimpleDma.Transfer

/-!
# The buffer under concurrent access

Processes that have the buffer mapped read and write bytes of it while others are in
`simple_dma_ioctl`, which takes no lock.  `reverseSteps` is the loop of the ioctl access by access;
undisturbed it is `reverseLoop` (`simpleDmaIoctlSteps_exec`).

A transfer exchanges each byte with the one opposite by four accesses, and only these can be disturbed:
as long as nothing else touches a pair of bytes while it is being exchanged, every exchange has its
effect at once, whatever else goes on (`sharedBuffer`).  Transfers may overlap each other and any writes.
-/

namespace ScullDrivers.SimpleDma

open Interaction Buffer

/-! ## Access by access -/

/-- An access to the buffer: by the driver, or by a process through its mapping. -/
inductive Access
  | load (i : ℤ)
  | store (i : ℤ) (b : UInt8)
  | read (k : ℕ)
  | write (k : ℕ) (b : UInt8)
  deriving DecidableEq

/-- A load finds a byte. -/
abbrev Access.Resp : Access → Type
  | .load _ | .read _ => UInt8
  | .store _ _ | .write _ _ => Unit

abbrev Steps (α : Type) := Prog Access Access.Resp α

abbrev access (e : Access) : Steps e.Resp := perform e

/-- The `for` loop of `simple_dma_ioctl`. -/
def reverseSteps (i j : Int32) : Steps Unit :=
  if apart : i < j then do
    let temp ← access (.load i.toInt)
    let last ← access (.load j.toInt)
    access (.store i.toInt last)
    access (.store j.toInt temp)
    reverseSteps (i + 1) (j - 1)
  else return ()
termination_by (j.toInt - i.toInt).toNat
decreasing_by
  rw [toInt_succ_of_lt apart, toInt_pred_of_lt apart]
  have below := Int32.lt_iff_toInt_lt.mp apart
  omega

/-- `simple_dma_ioctl` where `DMA_BUFFER_SIZE` is `size`. -/
def simpleDmaIoctlSteps (size : UInt64) (g : Globals) (cmd : UInt32) : Steps Int64 :=
  if cmd = simpleDmaStartTransfer then
    if g.dmaBufferVirt ≠ 0 then do
      reverseSteps 0 (lastIndex size)
      return 0
    else return -efault
  else return -enotty

/-- What an access to the bytes `buf` finds.  There is no answer outside them. -/
def found : (e : Access) → List UInt8 → e.Resp → Prop
  | .load i, buf, b => Buffer.load buf i = some b
  | .store i b, buf, _ => (Buffer.store buf i b).isSome
  | .read k, buf, b => buf[k]? = some b
  | .write k _, buf, _ => k < buf.length

/-- What it leaves. -/
def left : Access → List UInt8 → List UInt8
  | .store i b, buf => buf.set i.toNat b
  | .write k b, buf => buf.set k b
  | .load _, buf | .read _, buf => buf

/-- The buffer as memory. -/
def bytes : Kernel Access Access.Resp (List UInt8) :=
  fun e buf r buf' => found e buf r ∧ buf' = left e buf

section Undisturbed

variable {buf buf' : List UInt8} {i j : Int32} {size : UInt64} {g : Globals} {cmd : UInt32}
  {ret : Int64}

theorem store_eq_some {k : ℤ} {b : UInt8} :
    Buffer.store buf k b = some buf' ↔ (Buffer.store buf k b).isSome ∧ buf' = buf.set k.toNat b := by
  unfold Buffer.store
  split
  · exact ⟨fun eq => ⟨rfl, (Option.some.inj eq).symm⟩, fun both => congrArg some both.2.symm⟩
  · exact ⟨nofun, fun both => absurd both.1 nofun⟩

theorem reverseSteps_exec :
    (reverseSteps i j).Exec bytes buf () buf' ↔ reverseLoop buf i j = some buf' := by
  induction h : (j.toInt - i.toInt).toNat using Nat.strongRecOn generalizing buf i j with
  | ind rest ih =>
      rw [reverseSteps, reverseLoop]
      split
      next apart =>
        have below := Int32.lt_iff_toInt_lt.mp apart
        have closer : ((j - 1).toInt - (i + 1).toInt).toNat < rest := by
          rw [toInt_succ_of_lt apart, toInt_pred_of_lt apart]
          omega
        simp only [Option.bind_eq_bind, Option.bind_eq_some_iff]
        constructor
        · rintro ⟨temp, _, ⟨first, rfl⟩, last, _, ⟨second, rfl⟩, _, _, ⟨low, rfl⟩, _, _, ⟨high, rfl⟩,
            loop⟩
          exact ⟨temp, first, last, second, _, store_eq_some.mpr ⟨low, rfl⟩, _,
            store_eq_some.mpr ⟨high, rfl⟩, (ih _ closer rfl).mp loop⟩
        · rintro ⟨temp, first, last, second, _, low, _, high, loop⟩
          obtain ⟨inside, rfl⟩ := store_eq_some.mp low
          obtain ⟨inside', rfl⟩ := store_eq_some.mp high
          exact ⟨temp, _, ⟨first, rfl⟩, last, _, ⟨second, rfl⟩, (), _, ⟨inside, rfl⟩, (), _,
            ⟨inside', rfl⟩, (ih _ closer rfl).mpr loop⟩
      next met =>
        exact ⟨fun done => congrArg some done.2.symm, fun eq => ⟨rfl, (Option.some.inj eq).symm⟩⟩

/-- Nothing between its accesses, the program is the function. -/
theorem simpleDmaIoctlSteps_exec : (simpleDmaIoctlSteps size g cmd).Exec bytes buf ret buf' ↔
    simpleDmaIoctl size g cmd buf = some (ret, buf') := by
  unfold simpleDmaIoctlSteps simpleDmaIoctl
  split
  · split
    · rw [exec_bind, Option.bind_eq_bind, Option.bind_eq_some_iff]
      constructor
      · rintro ⟨_, after, loop, rfl, rfl⟩
        exact ⟨_, reverseSteps_exec.mp loop, rfl⟩
      · rintro ⟨after, loop, eq⟩
        cases eq
        exact ⟨(), _, reverseSteps_exec.mpr loop, rfl, rfl⟩
    · exact ⟨fun done => by rw [done.1, done.2]; rfl, fun eq => by cases eq; exact ⟨rfl, rfl⟩⟩
  · exact ⟨fun done => by rw [done.1, done.2]; rfl, fun eq => by cases eq; exact ⟨rfl, rfl⟩⟩

end Undisturbed

/-! ## Threads that share the buffer -/

/-- The byte opposite. -/
def mirror (n k : ℕ) : ℕ := n - 1 - k

/-- The pair a byte is in, by the lower of the two. -/
def pair (n k : ℕ) : ℕ := min k (mirror n k)

/-- The buffer and, for each thread, the pair it is exchanging: from the first access to the pair until
both bytes are stored. -/
structure Shared (T : Type) where
  buf : List UInt8
  exchanging : T → Option ℕ

/-- What a thread does with the buffer. -/
inductive SharedRequest (T : Type)
  | read (t : T) (k : ℕ)
  | write (t : T) (k : ℕ) (b : UInt8)
  | ioctl (t : T) (cmd : UInt32)

section

variable {T : Type} [DecidableEq T]

/-- The pair the thread is exchanging after an access. -/
def Shared.note (s : Shared T) (t : T) : Access → T → Option ℕ
  | .load i => Function.update s.exchanging t (some (pair s.buf.length i.toNat))
  | .store i _ =>
      if s.buf.length ≤ 2 * i.toNat then Function.update s.exchanging t none else s.exchanging
  | .read _ | .write _ _ => s.exchanging

/-- Threads with the buffer mapped and the device open.  An ioctl returns its result. -/
def sharing (T : Type) [DecidableEq T] (size : UInt64) (g : Globals) :
    Machine T (SharedRequest T) Access Access.Resp (Option Int64) (Shared T) Empty where
  slot
    | .read t _ | .write t _ _ | .ioctl t _ => t
  code
    | .read _ k => do
        let _ ← access (.read k)
        return none
    | .write _ k b => do
        access (.write k b)
        return none
    | .ioctl _ cmd => some <$> simpleDmaIoctlSteps size g cmd
  mayStart _ _ _ := True
  begun _ s := s
  mayRun _ _ := True
  returns e s := found e s.buf
  effect t e s _ := { buf := left e s.buf, exchanging := s.note t e }
  finished _ _ s := s
  device h _ := h.elim

abbrev SharedConfig (T : Type) := Config T Access Access.Resp (Option Int64) (Shared T)

abbrev SharedMove (T : Type) := Move T (SharedRequest T) Access Access.Resp (Option Int64) Empty

/-! ## The property -/

/-- What a move makes of the buffer if an exchange has its effect at once, when its second byte is
stored. -/
def settle (buf : List UInt8) : SharedMove T → List UInt8
  | .call _ (.write k b) _ => buf.set k b
  | .call _ (.store i _) _ =>
      if buf.length ≤ 2 * i.toNat then swap buf (mirror buf.length i.toNat) i.toNat else buf
  | _ => buf

/-- What the buffer holds by its history. -/
def content (buf : List UInt8) (past : List (SharedConfig T × SharedMove T)) : List UInt8 :=
  past.foldl (fun buf x => settle buf x.2) buf

/-- The pair the thread has exchanged with this move. -/
def exchanged (n : ℕ) (t : T) : SharedMove T → Option ℕ
  | .call t' (.store i _) _ => if t' = t ∧ n ≤ 2 * i.toNat then some (pair n i.toNat) else none
  | _ => none

/-- How often the thread has exchanged a pair. -/
def exchanges (n : ℕ) (t : T) (p : ℕ) (past : List (SharedConfig T × SharedMove T)) : ℕ :=
  (past.filterMap fun x => exchanged n t x.2).count p

/-- A transfer of the thread has returned. -/
def transferReturned (t : T) : SharedMove T → Option Unit
  | .finish t' (some 0) => if t' = t then some () else none
  | _ => none

/-- How many transfers of the thread have returned. -/
def transfers (t : T) (past : List (SharedConfig T × SharedMove T)) : ℕ :=
  (past.filterMap fun x => transferReturned t x.2).length

/-- The pair an access must not find another thread exchanging.  Reading disturbs nothing. -/
def Access.pair? (n : ℕ) : Access → Option ℕ
  | .load i | .store i _ => some (pair n i.toNat)
  | .write k _ => some (pair n k)
  | .read _ => none

/-- Nobody else is exchanging the pair. -/
def Undisturbed (c : SharedConfig T) : SharedMove T → Prop
  | .call t e _ => ∀ t', t' ≠ t → c.state.exchanging t' = none ∨
      c.state.exchanging t' ≠ e.pair? c.state.buf.length
  | _ => True

/-- The access is one of the driver. -/
def Access.byDriver : Access → Bool
  | .load _ | .store _ _ => true
  | .read _ | .write _ _ => false

/-- The buffer after this history, from the bytes `buf`. -/
structure BufferShared (buf : List UInt8) (past : List (SharedConfig T × SharedMove T))
    (c : SharedConfig T) : Prop where
  settled : ∀ k < buf.length, (∀ t, c.state.exchanging t ≠ some (pair buf.length k)) →
    c.state.buf[k]? = (content buf past)[k]?
  between : ∀ k < buf.length, c.state.buf[k]? = (content buf past)[k]? ∨
    c.state.buf[k]? = (content buf past)[mirror buf.length k]?
  inside : ∀ {t e k}, c.threads t = some (.call e k) → e.byDriver = true →
    ∃ r, found e c.state.buf r
  exchanged : ∀ t, c.threads t = none → c.state.exchanging t = none ∧
    ∀ p, 2 * p + 1 < buf.length → exchanges buf.length t p past = transfers t past

/-- Nobody is in the driver. -/
structure SharedIdle (c : SharedConfig T) : Prop where
  threads : ∀ t, c.threads t = none
  exchanging : ∀ t, c.state.exchanging t = none

/-! ## The protocol of a transfer -/

/-- How far a thread is: outside the loop, before the exchange of a pair, with one of its bytes loaded,
with both, and with one of them stored. -/
inductive TransferStage
  | outside
  | before (i : ℕ)
  | first (i : ℕ) (temp : UInt8)
  | both (i : ℕ) (temp last : UInt8)
  | half (i : ℕ) (temp : UInt8)

/-- The protocol of a thread, on `n` bytes. -/
inductive TransferNext (n : ℕ) : TransferStage → (e : Access) → e.Resp → TransferStage → Prop
  | read {k : ℕ} {b : UInt8} : TransferNext n .outside (.read k) b .outside
  | write {k : ℕ} {b : UInt8} : TransferNext n .outside (.write k b) () .outside
  | first {i : ℕ} {temp : UInt8} : 2 * i + 1 < n →
    TransferNext n (.before i) (.load i) temp (.first i temp)
  | second {i : ℕ} {temp last : UInt8} : 2 * i + 1 < n →
    TransferNext n (.first i temp) (.load (mirror n i : ℕ)) last (.both i temp last)
  | low {i : ℕ} {temp last : UInt8} : 2 * i + 1 < n →
    TransferNext n (.both i temp last) (.store i last) () (.half i temp)
  | high {i : ℕ} {temp : UInt8} : 2 * i + 1 < n →
    TransferNext n (.half i temp) (.store (mirror n i : ℕ) temp) () (.before (i + 1))

/-- A transfer returns when all pairs are exchanged. -/
inductive TransferDone (n : ℕ) : Option Int64 → TransferStage → Prop
  | transfer {i : ℕ} : n ≤ 2 * i + 1 → TransferDone n (some 0) (.before i)
  | other {ret : Option Int64} : ret ≠ some 0 → TransferDone n ret .outside

/-- The pair a thread is exchanging. -/
def TransferStage.window : TransferStage → Option ℕ
  | .outside | .before _ => none
  | .first i _ | .both i _ _ | .half i _ => some i

/-- How many pairs it has exchanged in its transfer. -/
def TransferStage.passed : TransferStage → ℕ
  | .outside => 0
  | .before i | .first i _ | .both i _ _ | .half i _ => i

/-- The stage a request begins in. -/
def SharedRequest.stage (g : Globals) : SharedRequest T → TransferStage
  | .ioctl _ cmd =>
      if cmd = simpleDmaStartTransfer ∧ g.dmaBufferVirt ≠ 0 then .before 0 else .outside
  | .read _ _ | .write _ _ _ => .outside

section Follows

variable {size : UInt64} {g : Globals} {n a : ℕ} {i j : Int32}

theorem reverseSteps_follows (low : i.toInt = a) (high : j.toInt + a + 1 = n) :
    (reverseSteps i j).Follows (TransferNext n) (fun _ s => ∃ b, s = .before b ∧ n ≤ 2 * b + 1)
      (.before a) := by
  induction h : n - 2 * a using Nat.strongRecOn generalizing a i j with
  | ind rest ih =>
      rw [reverseSteps]
      split
      next apart =>
        have below := Int32.lt_iff_toInt_lt.mp apart
        have room : 2 * a + 1 < n := by omega
        have last : j.toInt = (mirror n a : ℕ) := by
          unfold mirror
          omega
        rw [low, last]
        refine fun _ => ⟨_, .first room, fun _ => ⟨_, .second room, fun _ => ⟨_, .low room,
          fun _ => ⟨_, .high room, ?_⟩⟩⟩⟩
        apply ih (n - 2 * (a + 1)) (by omega) _ _ rfl
        · rw [toInt_succ_of_lt apart, low]
          rfl
        · rw [toInt_pred_of_lt apart]
          omega
      next met =>
        rw [Int32.lt_iff_toInt_lt] at met
        exact ⟨a, rfl, by omega⟩

theorem code_follows (pos : 1 ≤ size.toNat) (int : size.toNat ≤ 2 ^ 31) (q : SharedRequest T) :
    ((sharing T size g).code q).Follows (TransferNext size.toNat) (TransferDone size.toNat)
      (q.stage g) := by
  cases q with
  | read t k => exact fun _ => ⟨_, .read, .other nofun⟩
  | write t k b => exact fun _ => ⟨_, .write, .other nofun⟩
  | ioctl t cmd =>
      unfold sharing simpleDmaIoctlSteps SharedRequest.stage
      by_cases start : cmd = simpleDmaStartTransfer
      · by_cases allocated : g.dmaBufferVirt ≠ 0
        · simp only [if_pos start, if_pos allocated, if_pos (And.intro start allocated)]
          have last := toInt_lastIndex_of_le pos int
          have loop := reverseSteps_follows (n := size.toNat) (i := 0) (j := lastIndex size) (a := 0)
            rfl (by omega)
          have returns : (reverseSteps 0 (lastIndex size) >>= fun _ => (.ret 0 : Steps Int64)).Follows
              (TransferNext size.toNat) (fun ret s => TransferDone size.toNat (some ret) s)
              (.before 0) := by
            refine loop.bind fun _ s done => ?_
            obtain ⟨b, rfl, all⟩ := done
            exact .transfer all
          exact returns.bind fun ret s done => done
        · simp only [if_pos start, if_neg allocated, if_neg fun both => allocated (And.right both)]
          exact .other (by decide)
      · simp only [if_neg start, if_neg fun both => start (And.left both)]
        exact .other (by decide)

end Follows

/-! ## The invariant -/

section Pairs

variable {n i k : ℕ}

theorem pair_low (low : 2 * i + 1 < n) : pair n i = i := by
  unfold pair mirror
  omega

theorem pair_mirror (low : 2 * i + 1 < n) : pair n (mirror n i) = i := by
  unfold pair mirror
  omega

theorem mirror_mirror (inside : k < n) : mirror n (mirror n k) = k := by
  unfold mirror
  omega

/-- The two bytes of a pair. -/
theorem eq_or_eq_mirror (inside : k < n) (same : pair n k = i) : k = i ∨ k = mirror n i := by
  unfold pair mirror at *
  omega

end Pairs

/-- The buffer differs from the other at most in the bytes of a pair. -/
def Apart (n p : ℕ) (buf buf' : List UInt8) : Prop :=
  ∀ k < n, pair n k ≠ p → buf'[k]? = buf[k]?

/-- What a thread has in its variables, and what the pair it is exchanging holds. -/
def Held (n : ℕ) (buf now : List UInt8) : TransferStage → Prop
  | .outside | .before _ => True
  | .first i temp => 2 * i + 1 < n ∧ buf[i]? = now[i]? ∧ buf[mirror n i]? = now[mirror n i]? ∧
      now[i]? = some temp
  | .both i temp last => 2 * i + 1 < n ∧ buf[i]? = now[i]? ∧ buf[mirror n i]? = now[mirror n i]? ∧
      now[i]? = some temp ∧ now[mirror n i]? = some last
  | .half i temp => 2 * i + 1 < n ∧ buf[i]? = now[mirror n i]? ∧
      buf[mirror n i]? = now[mirror n i]? ∧ now[i]? = some temp

/-- The stage of a thread. -/
abbrev TransferAt (n : ℕ) (c : SharedConfig T) (t : T) : TransferStage → Prop :=
  c.At t (TransferNext n) (TransferDone n) (· = .outside)

/-- The bytes: `now` is what they are by their history. -/
structure SharedBytes (n : ℕ) (now buf : List UInt8) (exchanging : T → Option ℕ)
    (stage : T → TransferStage) : Prop where
  length : buf.length = n
  length' : now.length = n
  window : ∀ t, exchanging t = (stage t).window
  apart : ∀ {t t' p}, exchanging t = some p → exchanging t' = some p → t = t'
  settled : ∀ k < n, (∀ t, exchanging t ≠ some (pair n k)) → buf[k]? = now[k]?
  held : ∀ t, Held n buf now (stage t)

/-- The pairs each thread has exchanged. -/
def Counted (n : ℕ) (past : List (SharedConfig T × SharedMove T)) (stage : T → TransferStage) :
    Prop :=
  ∀ t p, 2 * p + 1 < n →
    exchanges n t p past = transfers t past + if p < (stage t).passed then 1 else 0

/-- What holds between any two steps. -/
structure SharedInv (buf : List UInt8) (past : List (SharedConfig T × SharedMove T))
    (c : SharedConfig T) (stage : T → TransferStage) : Prop where
  stages : ∀ t, TransferAt buf.length c t (stage t)
  memory : SharedBytes buf.length (content buf past) c.state.buf c.state.exchanging stage
  counted : Counted buf.length past stage

section Bytes

variable {n p i : ℕ} {buf buf' now now' : List UInt8} {exchanging : T → Option ℕ}
  {stage : T → TransferStage} {g g' : TransferStage} {t : T} {e : Access} {r : e.Resp}

theorem Held.of_apart (held : Held n buf now g) (other : g.window ≠ some p)
    (apart : Apart n p buf buf') (apart' : Apart n p now now') : Held n buf' now' g := by
  have bytes : ∀ {i}, g.window = some i → 2 * i + 1 < n →
      buf'[i]? = buf[i]? ∧ buf'[mirror n i]? = buf[mirror n i]? ∧
        now'[i]? = now[i]? ∧ now'[mirror n i]? = now[mirror n i]? := by
    intro i here low
    have ne : i ≠ p := fun same => other (same ▸ here)
    have first : pair n i ≠ p := by rwa [pair_low low]
    have second : pair n (mirror n i) ≠ p := by rwa [pair_mirror low]
    have inside : mirror n i < n := by
      unfold mirror
      omega
    exact ⟨apart i (by omega) first, apart _ inside second, apart' i (by omega) first,
      apart' _ inside second⟩
  cases g with
  | outside | before i => trivial
  | first i temp | both i temp last | half i temp =>
      obtain ⟨one, two, three, four⟩ := bytes rfl held.1
      simp only [Held, one, two, three, four]
      exact held

/-- A step of a thread that changes no byte but those of a pair, which nobody else is exchanging and
which it leaves as its history says, unless it is exchanging it still. -/
theorem SharedBytes.change (bytes : SharedBytes n now buf exchanging stage)
    (free : ∀ t', t' ≠ t → exchanging t' ≠ some p)
    (apart : Apart n p buf buf') (apart' : Apart n p now now')
    (length : buf'.length = n) (length' : now'.length = n)
    (window : g.window = none ∨ g.window = some p) (held : Held n buf' now' g)
    (before : exchanging t = none ∨ exchanging t = some p)
    (settled : g.window = none → ∀ k < n, pair n k = p → buf'[k]? = now'[k]?) :
    SharedBytes n now' buf' (Function.update exchanging t g.window) (Function.update stage t g) where
  length := length
  length' := length'
  window t' := by
    rcases eq_or_ne t' t with rfl | other
    · rw [Function.update_self, Function.update_self]
    · rw [Function.update_of_ne other, Function.update_of_ne other]
      exact bytes.window t'
  apart {t₁ t₂ q} one two := by
    have only : ∀ {t'}, t' ≠ t → Function.update exchanging t g.window t' = some q →
        g.window ≠ some q := by
      intro t' other here same
      rw [Function.update_of_ne other] at here
      rcases window with none | pair
      · cases none.symm.trans same
      · cases pair.symm.trans same
        exact free t' other here
    rcases eq_or_ne t₁ t with rfl | other₁
    · rcases eq_or_ne t₂ t₁ with rfl | other₂
      · rfl
      · rw [Function.update_self] at one
        exact absurd one (only other₂ two)
    · rcases eq_or_ne t₂ t with rfl | other₂
      · rw [Function.update_self] at two
        exact absurd two (only other₁ one)
      · rw [Function.update_of_ne other₁] at one
        rw [Function.update_of_ne other₂] at two
        exact bytes.apart one two
  settled k inside none := by
    have mine : g.window ≠ some (pair n k) := by
      have here := none t
      rwa [Function.update_self] at here
    rcases eq_or_ne (pair n k) p with same | other
    · refine settled ?_ k inside same
      rcases window with closed | opened
      · exact closed
      · exact absurd (opened.trans (congrArg some same.symm)) mine
    · refine (apart k inside other).trans ((bytes.settled k inside fun t' => ?_).trans
        (apart' k inside other).symm)
      rcases eq_or_ne t' t with rfl | elsewhere
      · rcases before with closed | opened
        · rw [closed]
          nofun
        · rw [opened]
          exact fun same => other (Option.some.inj same).symm
      · have there := none t'
        rwa [Function.update_of_ne elsewhere] at there
  held t' := by
    rcases eq_or_ne t' t with rfl | other
    · rw [Function.update_self]
      exact held
    · rw [Function.update_of_ne other]
      refine (bytes.held t').of_apart ?_ apart apart'
      rw [← bytes.window]
      exact free t' other

theorem apart_set {b : UInt8} (same : pair n i = p) : Apart n p buf (buf.set i b) := by
  intro k inside other
  refine List.getElem?_set_ne fun eq => other ?_
  rw [← eq, same]

/-- A thread outside the loop changes a byte. -/
theorem SharedBytes.write {k : ℕ} {b : UInt8} (bytes : SharedBytes n now buf exchanging stage)
    (here : stage t = .outside)
    (free : ∀ t', t' ≠ t → exchanging t' ≠ some (pair n k)) :
    SharedBytes n (now.set k b) (buf.set k b) exchanging stage := by
  have closed : exchanging t = none := by rw [bytes.window, here]; rfl
  have same : Function.update exchanging t none = exchanging := by rw [← closed, Function.update_eq_self]
  have same' : Function.update stage t .outside = stage := by rw [← here, Function.update_eq_self]
  have settled : ∀ j < n, pair n j = pair n k → (buf.set k b)[j]? = (now.set k b)[j]? := by
    intro j inside pair
    rcases eq_or_ne k j with rfl | other
    · rw [List.getElem?_set_self (by rw [bytes.length]; exact inside),
        List.getElem?_set_self (by rw [bytes.length']; exact inside)]
    · rw [List.getElem?_set_ne other, List.getElem?_set_ne other]
      apply bytes.settled j inside
      rw [pair]
      intro t'
      rcases eq_or_ne t' t with rfl | elsewhere
      · rw [closed]
        nofun
      · exact free t' elsewhere
  have changed := bytes.change (g := .outside) free (apart_set rfl) (apart_set rfl)
    (by rw [List.length_set, bytes.length]) (by rw [List.length_set, bytes.length']) (.inl rfl) trivial
    (.inl closed) fun _ => settled
  rw [same'] at changed
  exact same ▸ changed

/-- What a call makes of the bytes. -/
theorem SharedBytes.call {s : Shared T} (bytes : SharedBytes n now s.buf s.exchanging stage)
    (here : stage t = g) (next : TransferNext n g e r g')
    (free : ∀ t', t' ≠ t → s.exchanging t' = none ∨ s.exchanging t' ≠ e.pair? n)
    (answer : found e s.buf r) :
    SharedBytes n (settle now (.call t e r : SharedMove T)) (left e s.buf) (s.note t e)
      (Function.update stage t g') := by
  have mine : s.exchanging t = g.window := (bytes.window t).trans (congrArg _ here)
  have value : Held n s.buf now g := here ▸ bytes.held t
  have others : ∀ {p}, e.pair? n = some p → ∀ t', t' ≠ t → s.exchanging t' ≠ some p := by
    intro p pair t' other opened
    rcases free t' other with closed | elsewhere
    · cases closed.symm.trans opened
    · exact elsewhere (opened.trans pair.symm)
  have length := bytes.length
  have length' := bytes.length'
  cases next with
  | read =>
      have same : Function.update stage t .outside = stage := by rw [← here, Function.update_eq_self]
      rw [same]
      exact bytes
  | write =>
      have same : Function.update stage t .outside = stage := by rw [← here, Function.update_eq_self]
      rw [same]
      exact bytes.write here (others rfl)
  | @first i temp low =>
      have only : ∀ t', t' ≠ t → s.exchanging t' ≠ some i := others (congrArg some (pair_low low))
      have equal : ∀ k < n, pair n k = i → s.buf[k]? = now[k]? := by
        intro k inside same
        refine bytes.settled k inside fun t' => ?_
        rw [same]
        rcases eq_or_ne t' t with rfl | other
        · rw [mine]
          nofun
        · exact only t' other
      have inside : mirror n i < n := by
        unfold mirror
        omega
      have one := equal i (by omega) (pair_low low)
      have two := equal _ inside (pair_mirror low)
      have loaded : s.buf[i]? = some temp := load_natCast ▸ answer
      have noted : s.note t (.load i) = Function.update s.exchanging t (some i) := by
        rw [Shared.note, length, Int.toNat_natCast, pair_low low]
      rw [noted]
      exact bytes.change (g := .first i temp) only (fun _ _ _ => rfl) (fun _ _ _ => rfl) length length'
        (.inr rfl) ⟨low, one, two, one.symm.trans loaded⟩ (.inl mine) nofun
  | @second i temp last low =>
      have only : ∀ t', t' ≠ t → s.exchanging t' ≠ some i := others (congrArg some (pair_mirror low))
      obtain ⟨-, one, two, first⟩ := value
      have loaded : s.buf[mirror n i]? = some last := load_natCast ▸ answer
      have noted : s.note t (.load (mirror n i : ℕ)) = Function.update s.exchanging t (some i) := by
        rw [Shared.note, length, Int.toNat_natCast, pair_mirror low]
      rw [noted]
      exact bytes.change (g := .both i temp last) only (fun _ _ _ => rfl) (fun _ _ _ => rfl) length
        length' (.inr rfl) ⟨low, one, two, first, two.symm.trans loaded⟩ (.inr mine) nofun
  | @low i temp last low =>
      have only : ∀ t', t' ≠ t → s.exchanging t' ≠ some i := others (congrArg some (pair_low low))
      obtain ⟨-, one, two, first, second⟩ := value
      change s.exchanging t = some i at mine
      have noted : s.note t (.store i last) = Function.update s.exchanging t (some i) := by
        rw [Shared.note, length, Int.toNat_natCast, if_neg (by omega), ← mine,
          Function.update_eq_self]
      have unsettled : settle now (.call t (.store i last) () : SharedMove T) = now := by
        rw [settle, length', Int.toNat_natCast, if_neg (by omega)]
      have ne : i ≠ mirror n i := by
        unfold mirror
        omega
      rw [noted, unsettled]
      refine bytes.change (g := .half i temp) only (apart_set (pair_low low)) (fun _ _ _ => rfl)
        (by rw [left, List.length_set, length]) length' (.inr rfl) ⟨low, ?_, ?_, first⟩ (.inr mine) nofun
      · rw [left, Int.toNat_natCast, List.getElem?_set_self (by omega), second]
      · rw [left, Int.toNat_natCast, List.getElem?_set_ne ne, two]
  | @high i temp low =>
      have only : ∀ t', t' ≠ t → s.exchanging t' ≠ some i := others (congrArg some (pair_mirror low))
      obtain ⟨-, one, two, first⟩ := value
      have upper : n ≤ 2 * mirror n i := by
        unfold mirror
        omega
      have noted : s.note t (.store (mirror n i : ℕ) temp) = Function.update s.exchanging t none := by
        rw [Shared.note, length, Int.toNat_natCast, if_pos upper]
      have inside : mirror n i < n := by
        unfold mirror
        omega
      obtain ⟨last, second⟩ : ∃ last, now[mirror n i]? = some last :=
        ⟨_, List.getElem?_eq_getElem (by omega)⟩
      have exchange : settle now (.call t (.store (mirror n i : ℕ) temp) () : SharedMove T) =
          swap now i (mirror n i) := by
        rw [settle, length', Int.toNat_natCast, if_pos upper, mirror_mirror (by omega)]
      have ne : i ≠ mirror n i := by
        unfold mirror
        omega
      rw [noted, exchange, swap_eq first second]
      refine bytes.change (g := .before (i + 1)) only (apart_set (pair_mirror low)) ?_
        (by rw [left, List.length_set, length]) (by rw [List.length_set, List.length_set, length']) (.inl rfl) trivial (.inr mine) ?_
      · intro k inside other
        rw [apart_set (pair_mirror low) k inside other, apart_set (pair_low low) k inside other]
      · intro _ k inside same
        rw [left, Int.toNat_natCast]
        rcases eq_or_eq_mirror inside same with rfl | rfl
        · rw [List.getElem?_set_ne ne.symm, List.getElem?_set_ne ne.symm,
            List.getElem?_set_self (by omega), one, second]
        · rw [List.getElem?_set_self (by omega),
            List.getElem?_set_self (by rw [List.length_set]; omega)]

instance (e : Access) : Nonempty e.Resp := by
  cases e <;> exact ⟨default⟩

/-- The driver stays inside the buffer. -/
theorem TransferNext.inside (next : TransferNext n g e r g') (driver : e.byDriver = true)
    (length : buf.length = n) : ∃ r, found e buf r := by
  have load : ∀ {k : ℕ}, k < n → ∃ b, found (.load k) buf b := by
    intro k inside
    exact ⟨_, load_natCast.trans (List.getElem?_eq_getElem (by rw [length]; exact inside))⟩
  have store : ∀ {k : ℕ} {b : UInt8}, k < n → ∃ r, found (.store k b) buf r := by
    intro k b inside
    exact ⟨(), Option.isSome_iff_exists.mpr ⟨_, store_natCast (by rw [length]; exact inside)⟩⟩
  cases next with
  | read | write => cases driver
  | first low => exact load (by omega)
  | second low => exact load (by unfold mirror; omega)
  | low low => exact store (by omega)
  | high low => exact store (by unfold mirror; omega)

omit [DecidableEq T] in
/-- While a pair is being exchanged its bytes are those from before or from after. -/
theorem SharedBytes.between {k : ℕ} (bytes : SharedBytes n now buf exchanging stage) (inside : k < n) :
    buf[k]? = now[k]? ∨ buf[k]? = now[mirror n k]? := by
  by_cases free : ∀ t, exchanging t ≠ some (pair n k)
  · exact .inl (bytes.settled k inside free)
  · obtain ⟨t, busy⟩ := not_forall.mp free
    have window := (bytes.window t).symm.trans (not_not.mp busy)
    have held := bytes.held t
    cases here : stage t with
    | outside | before i => cases here ▸ window
    | first i temp | both i temp last =>
        rw [here] at window held
        obtain ⟨-, one, two, -⟩ := held
        rcases eq_or_eq_mirror inside (Option.some.inj window).symm with rfl | rfl
        · exact .inl one
        · exact .inl two
    | half i temp =>
        rw [here] at window held
        obtain ⟨-, one, two, -⟩ := held
        rcases eq_or_eq_mirror inside (Option.some.inj window).symm with rfl | rfl
        · exact .inr one
        · exact .inl two

end Bytes

section Counts

variable {n p : ℕ} {c : SharedConfig T} {m : SharedMove T} {buf : List UInt8} {t : T}
  {past : List (SharedConfig T × SharedMove T)} {stage : T → TransferStage} {g g' : TransferStage}

omit [DecidableEq T] in
theorem content_snoc : content buf (past ++ [(c, m)]) = settle (content buf past) m := by
  rw [content, List.foldl_append]
  rfl

theorem exchanges_snoc_none (none : exchanged n t m = none) :
    exchanges n t p (past ++ [(c, m)]) = exchanges n t p past := by
  simp [exchanges, none]

theorem exchanges_snoc_some {q : ℕ} (made : exchanged n t m = some q) :
    exchanges n t p (past ++ [(c, m)]) = exchanges n t p past + if q = p then 1 else 0 := by
  simp [exchanges, made, List.count_singleton]

theorem transfers_snoc_none (none : transferReturned t m = none) :
    transfers t (past ++ [(c, m)]) = transfers t past := by
  simp [transfers, none]

theorem transfers_snoc_some (returned : transferReturned t m = some ()) :
    transfers t (past ++ [(c, m)]) = transfers t past + 1 := by
  simp [transfers, returned]

/-- A move in which no pair is completed and no transfer returns. -/
theorem Counted.quiet (counted : Counted n past stage) (here : stage t = g)
    (exchange : ∀ t', exchanged n t' m = none) (returned : ∀ t', transferReturned t' m = none)
    (same : g'.passed = g.passed) : Counted n (past ++ [(c, m)]) (Function.update stage t g') := by
  intro t' p low
  rw [exchanges_snoc_none (exchange t'), transfers_snoc_none (returned t'), counted t' p low]
  rcases eq_or_ne t' t with rfl | other
  · rw [Function.update_self, same, here]
  · rw [Function.update_of_ne other]

/-- What a call counts. -/
theorem Counted.call {e : Access} {r : e.Resp} (counted : Counted n past stage) (here : stage t = g)
    (next : TransferNext n g e r g') :
    Counted n (past ++ [(c, .call t e r)]) (Function.update stage t g') := by
  have low_none : ∀ {i : ℕ} {b : UInt8}, 2 * i + 1 < n → ∀ t',
      exchanged n t' (.call t (.store i b) () : SharedMove T) = none := by
    intro i b low t'
    refine if_neg fun both => ?_
    have upper := both.2
    omega
  cases next with
  | read | write | first low | second low => exact counted.quiet here (fun _ => rfl) (fun _ => rfl) rfl
  | low low => exact counted.quiet here (low_none low) (fun _ => rfl) rfl
  | @high i temp low =>
      have upper : n ≤ 2 * mirror n i := by
        unfold mirror
        omega
      intro t' p below
      rw [transfers_snoc_none rfl]
      rcases eq_or_ne t t' with rfl | other
      · have made : exchanged n t (.call t (.store (mirror n i : ℕ) temp) () : SharedMove T) =
            some i := by
          rw [exchanged, Int.toNat_natCast, if_pos ⟨rfl, upper⟩, pair_mirror low]
        have passed : (stage t).passed = i := congrArg TransferStage.passed here
        rw [exchanges_snoc_some made, counted t p below, passed, Function.update_self,
          TransferStage.passed]
        rcases Nat.lt_trichotomy p i with less | rfl | more
        · rw [if_pos less, if_neg (Nat.ne_of_gt less), if_pos (by omega)]
        · rw [if_neg (Nat.lt_irrefl _), if_pos rfl, if_pos (Nat.lt_succ_self _)]
        · rw [if_neg (by omega), if_neg (Nat.ne_of_lt more), if_neg (by omega)]
      · have none : exchanged n t' (.call t (.store (mirror n i : ℕ) temp) () : SharedMove T) = none :=
          if_neg fun both => other both.1
        rw [exchanges_snoc_none none, counted t' p below, Function.update_of_ne other.symm]

/-- A return, which a transfer makes when it has exchanged all pairs. -/
theorem Counted.finish {a : Option Int64} (counted : Counted n past stage)
    (done : TransferDone n a (stage t)) :
    Counted n (past ++ [(c, .finish t a)]) (Function.update stage t .outside) := by
  generalize here : stage t = g at done
  cases done with
  | other ret =>
      refine counted.quiet here (fun _ => rfl) (fun t' => ?_) rfl
      unfold transferReturned
      split
      next eq =>
        cases eq
        exact absurd rfl ret
      next => rfl
  | @transfer i all =>
      intro t' p low
      have returned : transferReturned t' (.finish t (some 0) : SharedMove T) =
          if t = t' then some () else none := rfl
      rw [exchanges_snoc_none rfl, counted t' p low]
      rcases eq_or_ne t t' with rfl | other
      · have passed : (stage t).passed = i := congrArg TransferStage.passed here
        rw [transfers_snoc_some (returned.trans (if_pos rfl)), passed, if_pos (by omega), Function.update_self,
          TransferStage.passed, if_neg (Nat.not_lt_zero p)]
      · rw [transfers_snoc_none (returned.trans (if_neg other)), Function.update_of_ne other.symm]

end Counts

section Steps

variable {size : UInt64} {g : Globals} {c₀ c c' : SharedConfig T} {m : SharedMove T}
  {buf : List UInt8} {past : List (SharedConfig T × SharedMove T)} {stage : T → TransferStage}

/-- One step. -/
theorem SharedInv.step (inv : SharedInv buf past c stage) (length : buf.length = size.toNat)
    (pos : 1 ≤ size.toNat) (int : size.toNat ≤ 2 ^ 31) (step : (sharing T size g).Step c m c')
    (undisturbed : Undisturbed c m) : ∃ stage', SharedInv buf (past ++ [(c, m)]) c' stage' := by
  have moved : ∀ {s : Shared T} {t : T} {p : Option (Steps (Option Int64))} {g' : TransferStage},
      TransferAt buf.length (c.set s t p) t g' →
      ∀ t', TransferAt buf.length (c.set s t p) t' (Function.update stage t g' t') := by
    intro s t p g' new t'
    rcases eq_or_ne t' t with rfl | other
    · rw [Function.update_self]
      exact new
    · rw [Function.update_of_ne other]
      exact (inv.stages t').of_threads (Config.set_threads_of_ne other)
  cases step with
  | @start q idle _ =>
      have resting : stage ((sharing T size g).slot q) = .outside := (inv.stages _).1 idle
      have follows := code_follows (g := g) pos int q
      rw [← length] at follows
      have quiet : (q.stage g).window = none ∧ (q.stage g).passed = 0 := by
        unfold SharedRequest.stage
        cases q with
        | read | write => exact ⟨rfl, rfl⟩
        | ioctl t cmd =>
            simp only
            split
            · exact ⟨rfl, rfl⟩
            · exact ⟨rfl, rfl⟩
      refine ⟨Function.update stage _ (q.stage g), moved (.running Config.set_threads_self follows), ?_,
        inv.counted.quiet resting (fun _ => rfl) (fun _ => rfl) quiet.2⟩
      rw [content_snoc]
      obtain ⟨len, len', window, apart, settled, held⟩ := inv.memory
      refine ⟨len, len', fun t => ?_, apart, settled, fun t => ?_⟩
      · rcases eq_or_ne t ((sharing T size g).slot q) with rfl | other
        · rw [Function.update_self, quiet.1]
          exact (window _).trans (congrArg TransferStage.window resting)
        · rw [Function.update_of_ne other]
          exact window t
      · rcases eq_or_ne t ((sharing T size g).slot q) with rfl | other
        · rw [Function.update_self]
          revert quiet
          cases q.stage g with
          | outside | before i => exact fun _ => trivial
          | _ => exact fun quiet => nomatch quiet.1
        · rw [Function.update_of_ne other]
          exact held t
  | @call t e k r head _ answer =>
      obtain ⟨g', next, follows⟩ := (inv.stages t).call head r
      have same := inv.memory.length
      refine ⟨Function.update stage t g', moved (.running Config.set_threads_self follows), ?_,
        inv.counted.call rfl next⟩
      rw [content_snoc]
      exact inv.memory.call rfl next (same ▸ undisturbed) answer
  | @finish t a head _ =>
      have done := (inv.stages t).returned head
      have closed : (stage t).window = none := by
        generalize stage t = g at done
        cases done with
        | transfer | other => rfl
      refine ⟨Function.update stage t .outside, moved (.idle Config.set_threads_self rfl), ?_,
        inv.counted.finish done⟩
      rw [content_snoc]
      obtain ⟨len, len', window, apart, settled, held⟩ := inv.memory
      refine ⟨len, len', fun t' => ?_, apart, settled, fun t' => ?_⟩
      · rcases eq_or_ne t' t with rfl | other
        · rw [Function.update_self]
          exact (window _).trans closed
        · rw [Function.update_of_ne other]
          exact window t'
      · rcases eq_or_ne t' t with rfl | other
        · rw [Function.update_self]
          trivial
        · rw [Function.update_of_ne other]
          exact held t'
  | @device h => exact h.elim

theorem sharedInv_start (idle : SharedIdle c₀) :
    SharedInv c₀.state.buf [] c₀ fun _ => .outside where
  stages t := .idle (idle.threads t) rfl
  memory := {
    length := rfl
    length' := rfl
    window := idle.exchanging
    apart := fun one _ => nomatch (idle.exchanging _).symm.trans one
    settled := fun _ _ _ => rfl
    held := fun _ => trivial }
  counted _ _ _ := rfl

theorem SharedInv.always (idle : SharedIdle c₀) (length : c₀.state.buf.length = size.toNat)
    (pos : 1 ≤ size.toNat) (int : size.toNat ≤ 2 ^ 31) (run : Run (sharing T size g).Step c₀ past c)
    (undisturbed : AllSteps Undisturbed past) : ∃ stage, SharedInv c₀.state.buf past c stage := by
  induction run with
  | nil => exact ⟨_, sharedInv_start idle⟩
  | snoc run hstep ih =>
      obtain ⟨before, here⟩ := allSteps_snoc.mp undisturbed
      obtain ⟨stage, inv⟩ := ih before
      exact inv.step length pos int hstep here

/-- **Concurrent transfers, reads and writes**, of a buffer of 1 to `2 ^ 31` bytes.  As long as no access
touches a pair of bytes while another thread is exchanging it, in every interleaving of any number of
threads: each byte that is not in an exchange under way is what the history makes of it with every
exchange taking effect at once; each byte that is, is one from before or after; no access of the driver
is outside the buffer; and a thread has exchanged every pair as often as transfers of it have returned,
unless one is under way. -/
theorem sharedBuffer (idle : SharedIdle c₀) (length : c₀.state.buf.length = size.toNat)
    (pos : 1 ≤ size.toNat) (int : size.toNat ≤ 2 ^ 31) (run : Run (sharing T size g).Step c₀ past c)
    (undisturbed : AllSteps Undisturbed past) : BufferShared c₀.state.buf past c := by
  obtain ⟨stage, inv⟩ := SharedInv.always idle length pos int run undisturbed
  refine ⟨inv.memory.settled, fun k inside => inv.memory.between inside, ?_, fun t none => ?_⟩
  · intro t e k head driver
    obtain ⟨r⟩ : Nonempty e.Resp := inferInstance
    obtain ⟨g', next, -⟩ := (inv.stages t).call head r
    exact next.inside driver inv.memory.length
  · have resting : stage t = .outside := (inv.stages t).1 none
    refine ⟨(inv.memory.window t).trans (congrArg TransferStage.window resting), fun p low => ?_⟩
    rw [inv.counted t p low, resting]
    rfl

end Steps

end

/-! ## Two transfers that overlap -/

section Demo

variable {T : Type} [DecidableEq T] {size : UInt64} {g : Globals}

instance (e : Access) : DecidableEq e.Resp := by
  cases e <;> exact inferInstanceAs (DecidableEq _)

instance (e : Access) (buf : List UInt8) (r : e.Resp) : Decidable (found e buf r) :=
  match e, r with
  | .load i, b => inferInstanceAs (Decidable (Buffer.load buf i = some b))
  | .store i b, _ => inferInstanceAs (Decidable ((Buffer.store buf i b).isSome = true))
  | .read k, b => inferInstanceAs (Decidable (buf[k]? = some b))
  | .write k _, _ => inferInstanceAs (Decidable (k < _))

instance (busy : T → Bool) (q : SharedRequest T) (s : Shared T) :
    Decidable ((sharing T size g).mayStart busy q s) := .isTrue trivial

instance (busy : T → Bool) (t : T) : Decidable ((sharing T size g).mayRun busy t) := .isTrue trivial

instance (e : Access) (s : Shared T) (r : e.Resp) : Decidable ((sharing T size g).returns e s r) :=
  inferInstanceAs (Decidable (found e s.buf r))

instance [Fintype T] (c : SharedConfig T) (m : SharedMove T) : Decidable (Undisturbed c m) :=
  match m with
  | .call t e _ => inferInstanceAs (Decidable (∀ t', t' ≠ t → c.state.exchanging t' = none ∨
      c.state.exchanging t' ≠ e.pair? c.state.buf.length))
  | .start _ | .finish _ _ | .device _ => .isTrue trivial

def demoShared : SharedConfig Bool := ⟨⟨[1, 2, 3, 4], fun _ => none⟩, fun _ => none⟩

/-- The second transfer has half exchanged the outer bytes, the first one the inner bytes. -/
def twoTransfers : List (SharedMove Bool) :=
  [.start (.ioctl true simpleDmaStartTransfer), .start (.ioctl false simpleDmaStartTransfer),
    .call true (.load 0) 1, .call true (.load 3) 4, .call true (.store 0 4) (),
    .call true (.store 3 1) (), .call true (.load 1) 2, .call false (.load 0) 4,
    .call true (.load 2) 3, .call false (.load 3) 1, .call true (.store 1 3) (),
    .call false (.store 0 1) ()]

theorem sharedBuffer_two : ∃ past, ∃ c : SharedConfig Bool,
    Run (sharing Bool 4 { dmaBufferVirt := 1 }).Step demoShared past c ∧
      c.state.buf = [1, 3, 3, 1] ∧ BufferShared [1, 2, 3, 4] past c := by
  obtain ⟨past, c, run, steps, reached⟩ :=
    Machine.run_of_play (M := sharing Bool 4 { dmaBufferVirt := 1 }) Undisturbed twoTransfers demoShared
      (fun c => decide (c.state.buf = [1, 3, 3, 1])) (by decide +kernel)
  exact ⟨past, c, run, of_decide_eq_true reached,
    sharedBuffer ⟨fun _ => rfl, fun _ => rfl⟩ rfl (by decide) (by decide) run steps⟩

end Demo

end ScullDrivers.SimpleDma
