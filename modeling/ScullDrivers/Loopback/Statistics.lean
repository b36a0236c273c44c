import Mathlib.Algebra.GroupWithZero.Nat
import ScullDrivers.Interaction.Protocol
import ScullDrivers.Loopback.Driver

/-!
# The statistics of the loopback driver

`myloop_xmit` counts a packet after it has given it to `netif_rx`, by reading `skb->len` once for each
direction.  A run in which it does so uses an `sk_buff` that is no longer its own
(`keepsOff_iff`), and its counters are right as long as each read finds the length the packet was
handed over with, those for the receive direction also only if no packet was dropped (`counted_iff`).
-/

namespace ScullDrivers.Loopback

open Interaction

/-! ## The properties -/

/-- Packets and bytes, modulo 2^64 as an `unsigned long` counts. -/
structure Tally where
  packets : UInt64
  bytes : UInt64

/-- The tally of a list of packets. -/
def tally (l : List Handed) : Tally :=
  ⟨UInt64.ofNat l.length, UInt64.ofNat (l.map fun h => h.len.toNat).sum⟩

/-- A direction the device counts in. -/
inductive Side
  | tx
  | rx

/-- The counters of a direction. -/
def Side.counters : Side → NetDeviceStats → Tally
  | .tx, stats => ⟨stats.txPackets, stats.txBytes⟩
  | .rx, stats => ⟨stats.rxPackets, stats.rxBytes⟩

/-- The packets to be counted: every packet sent, and those `netif_rx` accepted. -/
def Side.counts : Side → Handed → Bool
  | .tx, _ => true
  | .rx, h => decide (h.outcome = .success)

/-- The statements up to the last one that counts a packet that was handed over. -/
def Side.due : Side → Call → Bool
  | .tx, .incTxPackets | .tx, .addTxBytes _ => true
  | .rx, .incTxPackets | .rx, .addTxBytes _ | .rx, .incRxPackets | .rx, .addRxBytes _ => true
  | _, .skbOrphan _ | _, .ethTypeTrans _ | _, .setProtocol _ _ | _, .netifRx _ => false
  | .tx, .incRxPackets | .tx, .addRxBytes _ => false

/-- The statement `myloop_xmit` comes to next. -/
def statement (c : LoopConfig) : Option Call := (c.threads ()).bind Prog.head?

/-- The counters of a direction match the packets handed over, unless a call is about to count one. -/
def Counted (side : Side) (c : LoopConfig) : Prop :=
  (∀ e ∈ statement c, side.due e = false) →
    side.counters c.state.stats = tally (c.state.handed.filter side.counts)

/-- The `sk_buff` a statement uses. -/
def Call.skb? : Call → Option Skb
  | .skbOrphan skb | .ethTypeTrans skb | .setProtocol skb _ | .netifRx skb | .addTxBytes skb
  | .addRxBytes skb => some skb
  | .incTxPackets | .incRxPackets => none

/-- `myloop_xmit` uses no `sk_buff` but one that is its own, and not freed. -/
def KeepsOff (c : LoopConfig) : LoopMove → Prop
  | .call _ e _ => ∀ skb ∈ e.skb?, c.state.Owns skb
  | .start _ | .finish _ _ | .device _ => True

/-! ## The conditions -/

/-- The step is not a statement that adds `skb->len`. -/
def ReadsNoLen (_ : LoopConfig) : LoopMove → Prop
  | .call _ (.addTxBytes _) _ | .call _ (.addRxBytes _) _ => False
  | .call _ _ _ | .start _ | .finish _ _ | .device _ => True

/-- The step is not the return of a call. -/
def NoReturn (_ : LoopConfig) : LoopMove → Prop
  | .finish _ _ => False
  | .start _ | .call _ _ _ | .device _ => True

/-- The packet handed over last is to be counted, and has this length. -/
def LastHas (side : Side) (s : State) (len : UInt32) : Prop :=
  ∃ h ∈ s.handed.getLast?, side.counts h = true ∧ len = h.len

/-- A statement that adds `skb->len` in a direction reads the length the packet was handed over with,
and the packet is to be counted. -/
def Seen : Side → LoopConfig → LoopMove → Prop
  | .tx, c, .call _ (.addTxBytes _) len => LastHas .tx c.state len
  | .rx, c, .call _ (.addRxBytes _) len => LastHas .rx c.state len
  | _, _, _ => True

/-- No call is in progress, and nothing was counted or handed over yet. -/
structure Fresh (c : LoopConfig) : Prop where
  threads : c.threads () = none
  stats : c.state.stats = {}
  handed : c.state.handed = []

/-! ## The protocol of `myloop_xmit` -/

/-- How far a call is: before `netif_rx`, and after it with each statement that counts. -/
inductive Stage
  | mine (skb : Skb)
  | handed (skb : Skb)
  | txPackets (skb : Skb)
  | txBytes (skb : Skb)
  | rxPackets (skb : Skb)
  | counted

inductive Next : Stage → (e : Call) → Resp e → Stage → Prop
  | orphan {skb : Skb} : Next (.mine skb) (.skbOrphan skb) () (.mine skb)
  | trans {skb : Skb} {protocol : UInt16} :
    Next (.mine skb) (.ethTypeTrans skb) protocol (.mine skb)
  | protocol {skb : Skb} {protocol : UInt16} :
    Next (.mine skb) (.setProtocol skb protocol) () (.mine skb)
  | hand {skb : Skb} {outcome : NetRx} : Next (.mine skb) (.netifRx skb) outcome (.handed skb)
  | txPackets {skb : Skb} : Next (.handed skb) .incTxPackets () (.txPackets skb)
  | txBytes {skb : Skb} {len : UInt32} :
    Next (.txPackets skb) (.addTxBytes skb) len (.txBytes skb)
  | rxPackets {skb : Skb} : Next (.txBytes skb) .incRxPackets () (.rxPackets skb)
  | rxBytes {skb : Skb} {len : UInt32} : Next (.rxPackets skb) (.addRxBytes skb) len .counted

/-- The stage of the call in progress. -/
abbrev StageAt (c : LoopConfig) : Stage → Prop :=
  c.At () Next (fun _ g => g = .counted) (fun g => g = .counted)

theorem myloopXmit_follows (skb : Skb) :
    (myloopXmit skb).Follows Next (fun _ g => g = .counted) (.mine skb) := by
  intro _
  refine ⟨_, .orphan, fun protocol => ⟨_, .trans, fun _ => ⟨_, .protocol, fun outcome => ?_⟩⟩⟩
  refine ⟨_, .hand, fun _ => ⟨_, .txPackets, fun len => ⟨_, .txBytes, fun _ => ?_⟩⟩⟩
  exact ⟨_, .rxPackets, fun len' => ⟨_, .rxBytes, rfl⟩⟩

theorem nonempty_resp (e : Call) : Nonempty (Resp e) := by
  cases e with
  | ethTypeTrans => exact ⟨(0 : UInt16)⟩
  | netifRx => exact ⟨NetRx.drop⟩
  | addTxBytes | addRxBytes => exact ⟨(0 : UInt32)⟩
  | skbOrphan | setProtocol | incTxPackets | incRxPackets => exact ⟨()⟩

/-- One step, by the stages it leads from and to. -/
inductive Moved : State → Stage → LoopMove → State → Stage → Prop
  | start {s : State} {q : Request} :
    Moved s .counted (.start q) (loopback.begun q s) (.mine q.skb)
  | call {s : State} {g g' : Stage} {e : Call} {r : Resp e} : Next g e r g' → answers e s r →
    Moved s g (.call () e r) (performed e s r) g'
  | finish {s : State} {a : Int32} : Moved s .counted (.finish () a) s .counted
  | device {s : State} {g : Stage} {h : Receiver} : Moved s g (.device h) (receive h s) g

section

variable {c c' c₀ : LoopConfig} {m : LoopMove} {s s' : State} {g g' : Stage} {e : Call} {r : Resp e}
  {skb : Skb} {h : Receiver} {past : List (LoopConfig × LoopMove)}

theorem moved_of_step (step : loopback.Step c m c') (stage : StageAt c g) :
    ∃ g', StageAt c' g' ∧ Moved c.state g m c'.state g' := by
  cases step with
  | @start q idle may =>
      cases stage.1 idle
      exact ⟨_, .running Config.set_threads_self (myloopXmit_follows q.skb), .start⟩
  | @call i e k r head may answer =>
      obtain ⟨g', next, follows⟩ := stage.call head r
      exact ⟨g', .running Config.set_threads_self follows, .call next answer⟩
  | @finish i a head may =>
      cases stage.returned head
      exact ⟨_, .idle Config.set_threads_self rfl, .finish⟩
  | device => exact ⟨g, stage.of_threads rfl, .device⟩

theorem Fresh.stage (fresh : Fresh c) : StageAt c .counted := .idle fresh.threads rfl

/-- What the protocol allows next is what the call comes to next. -/
theorem next_of_statement (stage : StageAt c g) (here : e ∈ statement c) (r : Resp e) :
    ∃ g', Next g e r g' := by
  obtain ⟨p, running, head⟩ := Option.bind_eq_some_iff.mp here
  obtain ⟨k, rfl⟩ := Prog.exists_of_head? head
  obtain ⟨g', next, -⟩ := stage.2 _ running r
  exact ⟨g', next⟩

/-! ## Use of the `sk_buff` -/

/-- Who owns the `sk_buff` of the call in progress. -/
def Ownership (s : State) : Stage → Prop
  | .mine skb => s.Owns skb
  | .handed skb | .txPackets skb | .txBytes skb | .rxPackets skb => s.given skb = true
  | .counted => True

/-- The receiver does nothing, or changes or frees an `sk_buff` it was given. -/
theorem receive_cases (h : Receiver) (s : State) : receive h s = s ∨
    ∃ skb buf, s.given skb = true ∧
      receive h s = { s with skbs := Function.update s.skbs skb buf } := by
  cases h with
  | modify skb buf =>
      by_cases may : s.given skb = true ∧ (s.skbs skb).isSome = true
      · exact .inr ⟨skb, some buf, may.1, if_pos may⟩
      · exact .inl (if_neg may)
  | free skb =>
      by_cases may : s.given skb = true
      · exact .inr ⟨skb, none, may, if_pos may⟩
      · exact .inl (if_neg may)

theorem owns_edit {f : SkBuff → SkBuff} (mine : s.Owns skb) : (s.edit skb f).Owns skb := by
  refine ⟨mine.1, ?_⟩
  change (Function.update s.skbs skb ((s.skbs skb).map f) skb).isSome = true
  rw [Function.update_self, Option.isSome_map]
  exact mine.2

theorem Ownership.moved (own : Ownership s g) (moved : Moved s g m s' g') : Ownership s' g' := by
  cases moved with
  | @start q =>
      refine ⟨Function.update_self .., ?_⟩
      change Option.isSome (Function.update s.skbs q.skb (some q.buf) q.skb) = true
      rw [Function.update_self]
      rfl
  | call next answer =>
      cases next with
      | orphan | trans | protocol => exact owns_edit own
      | hand => exact Function.update_self ..
      | txPackets | txBytes | rxPackets => exact own
      | rxBytes => trivial
  | finish => trivial
  | @device _ h =>
      rcases receive_cases h s with same | ⟨skb', buf, given, changed⟩
      · rw [same]
        exact own
      · rw [changed]
        cases g with
        | mine skb =>
            refine ⟨own.1, ?_⟩
            have ne : skb ≠ skb' := by
              rintro rfl
              exact absurd (own.1.symm.trans given) Bool.false_ne_true
            change (Function.update s.skbs skb' buf skb).isSome = true
            rw [Function.update_of_ne ne]
            exact own.2
        | handed skb | txPackets skb | txBytes skb | rxPackets skb => exact own
        | counted => trivial

/-- Past `netif_rx` every use of the `sk_buff` is a use of what was given away. -/
theorem Ownership.keepsOff_iff (own : Ownership c.state g) (moved : Moved c.state g m s' g') :
    KeepsOff c m ↔ ReadsNoLen c m := by
  cases moved with
  | start | finish | device => exact Iff.rfl
  | call next answer =>
      cases next with
      | orphan | trans | protocol | hand =>
          refine iff_of_true (fun skb same => ?_) trivial
          cases same
          exact own
      | txPackets | rxPackets =>
          refine iff_of_true (fun skb none => ?_) trivial
          cases none
      | txBytes | rxBytes =>
          refine iff_of_false (fun keeps => ?_) id
          have mine := (keeps _ rfl).1
          exact Bool.false_ne_true (mine.symm.trans own)

/-- **Use after hand-over.**  In a run `myloop_xmit` uses only what is its own exactly as long as it
never comes to add `skb->len`. -/
theorem keepsOff_iff (run : Run loopback.Step c₀ past c) (fresh : Fresh c₀) :
    AllSteps KeepsOff past ↔ AllSteps ReadsNoLen past := by
  have base : ∃ g, StageAt c₀ g ∧ Ownership c₀.state g := ⟨_, fresh.stage, trivial⟩
  refine run.allSteps_iff (I := fun c => ∃ g, StageAt c g ∧ Ownership c.state g) base ?_ ?_
  · intro c m c' step inv
    obtain ⟨g, stage, own⟩ := inv
    obtain ⟨g', -, moved⟩ := moved_of_step step stage
    exact own.keepsOff_iff moved
  · intro c m c' step _ inv
    obtain ⟨g, stage, own⟩ := inv
    obtain ⟨g', stage', moved⟩ := moved_of_step step stage
    exact ⟨g', stage', own.moved moved⟩

/-- The call has still to add `skb->len` for the first time. -/
def Stage.Early : Stage → Prop
  | .mine _ | .handed _ | .txPackets _ => True
  | .txBytes _ | .rxPackets _ | .counted => False

/-- A call that never comes to add `skb->len` does not return. -/
theorem noReturn_of_readsNoLen (run : Run loopback.Step c₀ past c) (fresh : Fresh c₀)
    (quiet : AllSteps ReadsNoLen past) : AllSteps NoReturn past := by
  have base : ∃ g, StageAt c₀ g ∧ ∀ p, c₀.threads () = some p → g.Early :=
    ⟨_, fresh.stage, fun p running => nomatch fresh.threads.symm.trans running⟩
  have both : AllSteps (fun c m => ReadsNoLen c m ∧ NoReturn c m) past ↔ AllSteps ReadsNoLen past := by
    refine run.allSteps_iff
      (I := fun c => ∃ g, StageAt c g ∧ ∀ p, c.threads () = some p → g.Early) base ?_ ?_
    · intro c m c' step inv
      obtain ⟨g, stage, early⟩ := inv
      cases step with
      | start | call | device => exact and_iff_left trivial
      | @finish i a head may =>
          have late := early _ head
          rw [stage.returned head] at late
          exact late.elim
    · intro c m c' step here inv
      obtain ⟨g, stage, early⟩ := inv
      cases step with
      | @start q idle may =>
          exact ⟨_, .running Config.set_threads_self (myloopXmit_follows q.skb), fun _ _ => trivial⟩
      | @call i e k r head may answer =>
          obtain ⟨g', next, follows⟩ := stage.call head r
          refine ⟨g', .running Config.set_threads_self follows, fun _ _ => ?_⟩
          cases next with
          | orphan | trans | protocol | hand | txPackets => trivial
          | txBytes | rxBytes => exact here.elim
          | rxPackets => exact early _ head
      | @finish i a head may =>
          have idle : (c.set (loopback.finished i a c.state) i none).threads () = none :=
            Config.set_threads_self
          exact ⟨_, .idle idle rfl, fun p running => nomatch idle.symm.trans running⟩
      | device => exact ⟨g, stage.of_threads rfl, early⟩
  exact fun x mem => (both.mpr quiet x mem).2

end

/-! ## The counters -/

/-- How far the counters of a direction are with the packet handed over last. -/
inductive Phase
  | settled | due | half

/-- Where a call is with the counters of a direction. -/
def Side.phase : Side → Stage → Phase
  | _, .mine _ | _, .counted => .settled
  | _, .handed _ => .due
  | .tx, .txPackets _ => .half
  | .tx, .txBytes _ | .tx, .rxPackets _ => .settled
  | .rx, .txPackets _ | .rx, .txBytes _ => .due
  | .rx, .rxPackets _ => .half

/-- What the counters say in each phase. -/
def Books (side : Side) (s : State) : Phase → Prop
  | .settled => side.counters s.stats = tally (s.handed.filter side.counts)
  | .due => ∃ l h, s.handed = l ++ [h] ∧ side.counters s.stats = tally (l.filter side.counts)
  | .half => ∃ l h, s.handed = l ++ [h] ∧
      side.counters s.stats = { tally (l.filter side.counts) with
        packets := (tally (l.filter side.counts)).packets + 1 }

/-- What a step does to the books of a direction, where `seen` says that the packet is counted as it
should be. -/
inductive Tallied (side : Side) (s : State) (seen : Prop) : Phase → State → Phase → Prop
  | quiet {p : Phase} {s' : State} : s'.handed = s.handed →
    side.counters s'.stats = side.counters s.stats → seen → Tallied side s seen p s' p
  | hand {s' : State} {h : Handed} : s'.handed = s.handed ++ [h] →
    side.counters s'.stats = side.counters s.stats → seen → Tallied side s seen .settled s' .due
  | inc {s' : State} : s'.handed = s.handed →
    side.counters s'.stats =
      { side.counters s.stats with packets := (side.counters s.stats).packets + 1 } →
    seen → Tallied side s seen .due s' .half
  | add {s' : State} {len : UInt32} : s'.handed = s.handed →
    side.counters s'.stats =
      { side.counters s.stats with bytes := (side.counters s.stats).bytes + len.toUInt64 } →
    (seen ↔ LastHas side s len) → Tallied side s seen .half s' .settled

section

variable {l : List Handed} {h : Handed} {len : UInt32} {side : Side}

theorem tally_snoc : tally (l ++ [h]) =
    ⟨(tally l).packets + 1, (tally l).bytes + h.len.toUInt64⟩ := by
  unfold tally
  rw [List.length_append, List.length_singleton, List.map_append, List.sum_append, List.map_singleton,
    List.sum_singleton, UInt64.ofNat_add, UInt64.ofNat_add, UInt64.ofNat_uInt32ToNat]
  rfl

/-- Counting one more packet of some length matches the books exactly if it is to be counted, with
that length. -/
theorem tally_filter_snoc :
    (⟨(tally (l.filter side.counts)).packets + 1,
        (tally (l.filter side.counts)).bytes + len.toUInt64⟩ : Tally) =
      tally ((l ++ [h]).filter side.counts) ↔ side.counts h = true ∧ len = h.len := by
  rw [List.filter_append]
  by_cases counts : side.counts h = true
  · rw [List.filter_cons_of_pos counts, List.filter_nil, tally_snoc, Tally.mk.injEq,
      UInt64.add_right_inj, UInt64.add_right_inj, UInt32.toUInt64_inj]
    exact ⟨fun same => ⟨counts, same.2⟩, fun same => ⟨rfl, same.2⟩⟩
  · rw [List.filter_cons_of_neg counts, List.filter_nil, List.append_nil]
    refine iff_of_false (fun same => ?_) (fun same => counts same.1)
    -- a packet too many, also modulo 2^64
    have packets := (congrArg Tally.packets same).trans (UInt64.add_zero _).symm
    rw [UInt64.add_right_inj] at packets
    exact absurd packets (by decide)

variable {c c' c₀ : LoopConfig} {m : LoopMove} {s s' : State} {g g' : Stage} {e : Call} {r : Resp e}
  {past : List (LoopConfig × LoopMove)}

/-- A statement is due exactly in the phases that are not settled. -/
theorem due_eq_false_iff (next : Next g e r g') : side.due e = false ↔ side.phase g = .settled := by
  cases side with
  | tx =>
      cases next with
      | orphan | trans | protocol | hand | rxPackets | rxBytes => exact iff_of_true rfl rfl
      | txPackets | txBytes => exact iff_of_false Bool.noConfusion Phase.noConfusion
  | rx =>
      cases next with
      | orphan | trans | protocol | hand => exact iff_of_true rfl rfl
      | txPackets | txBytes | rxPackets | rxBytes =>
          exact iff_of_false Bool.noConfusion Phase.noConfusion

/-- Where the call does not come to count its packet next, the counters are settled. -/
theorem settled_of_not_due (stage : StageAt c g) (quiet : ∀ e ∈ statement c, side.due e = false) :
    side.phase g = .settled := by
  unfold statement at quiet
  cases running : c.threads () with
  | none =>
      cases stage.1 running
      cases side <;> rfl
  | some p =>
      cases p with
      | ret a =>
          cases stage.returned running
          cases side <;> rfl
      | call e k =>
          obtain ⟨r⟩ := nonempty_resp e
          obtain ⟨g', next, -⟩ := stage.call running r
          refine (due_eq_false_iff next).mp (quiet e ?_)
          rw [running]
          rfl

theorem quiet_of_settled (stage : StageAt c g) (settled : side.phase g = .settled) :
    ∀ e ∈ statement c, side.due e = false := by
  intro e here
  obtain ⟨r⟩ := nonempty_resp e
  obtain ⟨g', next⟩ := next_of_statement stage here r
  exact (due_eq_false_iff next).mpr settled

theorem Books.counted (stage : StageAt c g) (books : Books side c.state (side.phase g)) :
    Counted side c := by
  intro quiet
  rw [settled_of_not_due stage quiet] at books
  exact books

/-- Every step of the system, as the books of a direction see it. -/
theorem tallied (moved : Moved c.state g m s' g') :
    Tallied side c.state (Seen side c m) (side.phase g) s' (side.phase g') := by
  cases moved with
  | start | finish => cases side <;> exact .quiet rfl rfl trivial
  | @device _ h =>
      have seen : Seen side c (.device h) := by cases side <;> trivial
      rcases receive_cases h c.state with same | ⟨skb, buf, -, changed⟩
      · rw [same]
        exact .quiet rfl rfl seen
      · rw [changed]
        exact .quiet rfl rfl seen
  | call next answer =>
      cases side with
      | tx =>
          cases next with
          | orphan | trans | protocol | rxPackets | rxBytes => exact .quiet rfl rfl trivial
          | hand => exact .hand rfl rfl trivial
          | txPackets => exact .inc rfl rfl trivial
          | txBytes => exact .add rfl rfl Iff.rfl
      | rx =>
          cases next with
          | orphan | trans | protocol | txPackets | txBytes => exact .quiet rfl rfl trivial
          | hand => exact .hand rfl rfl trivial
          | rxPackets => exact .inc rfl rfl trivial
          | rxBytes => exact .add rfl rfl Iff.rfl

variable {seen : Prop} {p p' : Phase}

/-- The statement that adds a length settles the books exactly if the packet is counted as it
should be. -/
theorem Books.add_iff (books : Books side s .half) (handed : s'.handed = s.handed)
    (added : side.counters s'.stats =
      { side.counters s.stats with bytes := (side.counters s.stats).bytes + len.toUInt64 }) :
    Books side s' .settled ↔ LastHas side s len := by
  obtain ⟨l, h, last, counted⟩ := books
  unfold Books LastHas
  rw [handed, added, counted, last, List.getLast?_concat, tally_filter_snoc]
  simp

theorem Tallied.books (step : Tallied side s seen p s' p') (books : Books side s p) (here : seen) :
    Books side s' p' := by
  cases step with
  | quiet handed same =>
      cases p with
      | settled | due | half =>
          unfold Books at books ⊢
          rw [handed, same]
          exact books
  | hand handed same =>
      refine ⟨_, _, handed, ?_⟩
      rw [same]
      exact books
  | inc handed counted =>
      obtain ⟨l, h, last, due⟩ := books
      refine ⟨l, h, handed.trans last, ?_⟩
      rw [counted, due]
  | add handed added same => exact (books.add_iff handed added).mpr (same.mp here)

theorem Tallied.sharp (step : Tallied side s seen p s' p') (books : Books side s p)
    (after : p' = .settled → Books side s' .settled) : seen := by
  cases step with
  | quiet _ _ here | hand _ _ here | inc _ _ here => exact here
  | add handed added same => exact same.mpr ((books.add_iff handed added).mp (after rfl))

/-- **The counters of a direction** match the packets handed over throughout a run exactly if each
of its reads of `skb->len` finds the length the packet was handed over with, and the packet is one to
be counted. -/
theorem counted_iff (side : Side) (run : Run loopback.Step c₀ past c) (fresh : Fresh c₀) :
    Always (Counted side) past c ↔ AllSteps (Seen side) past := by
  have start : Books side c₀.state (side.phase .counted) := by
    cases side with
    | tx | rx =>
        change Side.counters _ c₀.state.stats = tally (c₀.state.handed.filter _)
        rw [fresh.stats, fresh.handed]
        rfl
  have base : ∃ g, StageAt c₀ g ∧ Books side c₀.state (side.phase g) := ⟨_, fresh.stage, start⟩
  refine run.always_iff_allSteps (I := fun c => ∃ g, StageAt c g ∧ Books side c.state (side.phase g))
    base ?_ ?_ ?_
  · intro c inv
    obtain ⟨g, stage, books⟩ := inv
    exact books.counted stage
  · intro c m c' step seen inv
    obtain ⟨g, stage, books⟩ := inv
    obtain ⟨g', stage', moved⟩ := moved_of_step step stage
    exact ⟨g', stage', (tallied moved).books books seen⟩
  · intro c m c' step inv after
    obtain ⟨g, stage, books⟩ := inv
    obtain ⟨g', stage', moved⟩ := moved_of_step step stage
    exact (tallied moved).sharp books fun settled => after (quiet_of_settled stage' settled)

/-- A step that reads no length counts no packet wrongly. -/
theorem seen_of_readsNoLen (quiet : ReadsNoLen c m) : Seen side c m := by
  cases m with
  | start | finish | device => cases side <;> trivial
  | call i e r =>
      cases e with
      | addTxBytes | addRxBytes => exact quiet.elim
      | skbOrphan | ethTypeTrans | setProtocol | netifRx | incTxPackets | incRxPackets =>
          cases side <;> trivial

/-- **The statistics of `myloop_xmit`.**  In a run `myloop_xmit` leaves every `sk_buff` alone once it
is given away, with all counters right, exactly if no call comes to add `skb->len`, and then no call returns.  The
counters alone are right in a direction exactly if the lengths it adds are those the packets were
handed over with, of packets that are to be counted. -/
theorem myloopXmit_statistics (run : Run loopback.Step c₀ past c) (fresh : Fresh c₀) :
    (AllSteps KeepsOff past ∧ Always (Counted .tx) past c ∧ Always (Counted .rx) past c ↔
      AllSteps ReadsNoLen past) ∧
    (AllSteps ReadsNoLen past → AllSteps NoReturn past) ∧
    (Always (Counted .tx) past c ↔ AllSteps (Seen .tx) past) ∧
    (Always (Counted .rx) past c ↔ AllSteps (Seen .rx) past) := by
  refine ⟨⟨fun all => (keepsOff_iff run fresh).mp all.1, fun quiet => ?_⟩,
    noReturn_of_readsNoLen run fresh, counted_iff .tx run fresh, counted_iff .rx run fresh⟩
  have seen : ∀ side, AllSteps (Seen side) past := fun side x mem =>
    seen_of_readsNoLen (quiet x mem)
  exact ⟨(keepsOff_iff run fresh).mpr quiet, (counted_iff .tx run fresh).mpr (seen .tx),
    (counted_iff .rx run fresh).mpr (seen .rx)⟩

end

/-! ## Two runs -/

instance (busy : Unit → Bool) (q : Request) (s : State) : Decidable (loopback.mayStart busy q s) :=
  inferInstanceAs (Decidable (ethHlen ≤ q.buf.len))

instance (busy : Unit → Bool) (i : Unit) : Decidable (loopback.mayRun busy i) :=
  inferInstanceAs (Decidable True)

instance (e : Call) (s : State) (r : Resp e) : Decidable (loopback.returns e s r) :=
  inferInstanceAs (Decidable (answers e s r))

instance (side : Side) (s : State) (len : UInt32) : Decidable (LastHas side s len) :=
  inferInstanceAs (Decidable (∃ h ∈ s.handed.getLast?, side.counts h = true ∧ len = h.len))

instance (side : Side) (c : LoopConfig) (m : LoopMove) : Decidable (Seen side c m) := by
  unfold Seen
  split <;> infer_instance

/-- The device before its first packet. -/
def demoStart : LoopConfig := ⟨⟨fun _ => none, fun _ => false, {}, []⟩, fun _ => none⟩

theorem demoStart_fresh : Fresh demoStart := ⟨rfl, rfl, rfl⟩

/-- A packet of 60 bytes, handed to `netif_rx`. -/
def demoHandOver (outcome : NetRx) : List LoopMove :=
  [.start ⟨1, { len := 60 }⟩, .call () (.skbOrphan 1) (), .call () (.ethTypeTrans 1) 0x0800,
    .call () (.setProtocol 1 0x0800) (), .call () (.netifRx 1) outcome]

/-- The statements that count it, when `skb->len` reads as `len`. -/
def demoCount (len : UInt32) : List LoopMove :=
  [.call () .incTxPackets (), .call () (.addTxBytes 1) len, .call () .incRxPackets (),
    .call () (.addRxBytes 1) len, .finish () 0]

/-- With a receiver that comes late the counters are right. -/
theorem counted_lateReceiver : ∃ past c, Run loopback.Step demoStart past c ∧
    c.state.stats.rxBytes = 46 ∧ Always (Counted .tx) past c ∧ Always (Counted .rx) past c := by
  obtain ⟨past, c, run, steps, reached⟩ := Machine.run_of_play (M := loopback)
    (fun c m => Seen .tx c m ∧ Seen .rx c m)
    (demoHandOver .success ++ demoCount 46 ++ [.device (.free 1)]) demoStart
    (fun c => c.state.stats.rxBytes = 46) (by decide)
  obtain ⟨-, -, tx, rx⟩ := myloopXmit_statistics run demoStart_fresh
  exact ⟨past, c, run, of_decide_eq_true reached, tx.mpr fun x mem => (steps x mem).1,
    rx.mpr fun x mem => (steps x mem).2⟩

/-- A receiver that takes its header off the packet at once. -/
theorem not_counted_earlyReceiver : ¬ ∀ (c₀ c : LoopConfig) (past : List (LoopConfig × LoopMove)),
    Run loopback.Step c₀ past c → Fresh c₀ →
      AllSteps KeepsOff past ∧ Always (Counted .tx) past c ∧ Always (Counted .rx) past c := by
  intro claim
  obtain ⟨past, c, run, -, reached⟩ := Machine.run_of_play (M := loopback) (fun _ _ => True)
    (demoHandOver .success ++ [.device (.modify 1 { len := 26 })] ++ demoCount 26) demoStart
    (fun c => (statement c).isNone = true ∧ c.state.stats.txBytes = 26 ∧
      (tally (c.state.handed.filter Side.tx.counts)).bytes = 46) (by decide)
  obtain ⟨idle, counted, sent⟩ := of_decide_eq_true reached
  have quiet : ∀ e ∈ statement c, Side.tx.due e = false := by
    rw [Option.isNone_iff_eq_none.mp idle]
    exact fun e none => nomatch none
  have same := congrArg Tally.bytes ((claim _ _ _ run demoStart_fresh).2.1.2 quiet)
  exact absurd (counted.symm.trans (same.trans sent)) (by decide)

end ScullDrivers.Loopback
