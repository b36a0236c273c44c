import ScullDrivers.Nic.Driver

/-!
# The poll function of `network/nic.c`

One call of `mynic_poll`, with packets arriving before any call it makes and every allocation succeeding
or failing as it may.  The device presents the oldest packet that was not delivered; delivering consumes
it.  `mynicPoll_contract` is the contract of NAPI: what is delivered is a prefix of what became available,
as long as the number returned, and the poll completes exactly when it stays below its budget.
-/

namespace ScullDrivers.Nic

open Interaction

/-! ## The receive side -/

/-- What a poll sees and does: the packets that have become available, oldest first, those delivered, the
arguments of `napi_complete_done` and the values written to the control register. -/
structure RxState where
  calls : ℕ := 0
  available : List Packet
  delivered : List RxSkb := []
  completed : List ℕ := []
  control : List (BitVec 32) := []

/-- What a poll meets: the packets that arrive before its `n`-th call, whether an allocation made by that
call succeeds, and the answers of the calls it does not make. -/
structure RxEnv where
  arrivals : ℕ → List Packet
  alloc : ℕ → Bool
  other : (e : Call) → Resp e

/-- The next call begins. -/
def RxState.arrive (v : RxEnv) (s : RxState) : RxState :=
  { s with calls := s.calls + 1, available := s.available ++ v.arrivals s.calls }

/-- The oldest packet that was not delivered. -/
def RxState.oldest (s : RxState) : Option Packet := s.available[s.delivered.length]?

/-- What a call does once it has begun. -/
def receives (v : RxEnv) : Handler Call Resp RxState
  | .packetsAvailable, s => (s.oldest.isSome, s)
  | .rxDescriptor, s => (s.oldest.getD [], s)
  | .netdevAllocSkbIpAlign _, s => (v.alloc s.calls, s)
  | .netifReceiveSkb skb, s => ((), { s with delivered := s.delivered ++ [skb] })
  | .napiCompleteDone rxDone, s => ((), { s with completed := s.completed ++ [rxDone] })
  | .writelControl value, s => ((), { s with control := s.control ++ [value] })
  | e, s => (v.other e, s)

/-- The kernel and the device during a poll. -/
def rxKernel (v : RxEnv) : Handler Call Resp RxState :=
  fun e s => receives v e (s.arrive v)

/-! ## What is delivered -/

section

variable {v : RxEnv} {b : Externs} {s s' : RxState} {k budget left : ℕ} {buf : Packet}

/-- The first `k` packets available were delivered, in order, and nothing else. -/
structure HandedUp (b : Externs) (k : ℕ) (s : RxState) : Prop where
  reached : k ≤ s.available.length
  delivered : s.delivered = (s.available.take k).map (mynicPollSkb b)

theorem HandedUp.length (inv : HandedUp b k s) : s.delivered.length = k := by
  rw [inv.delivered, List.length_map, List.length_take, Nat.min_eq_left inv.reached]

theorem HandedUp.arrive (inv : HandedUp b k s) : HandedUp b k (s.arrive v) where
  reached := by
    rw [RxState.arrive, List.length_append]
    exact Nat.le_add_right_of_le inv.reached
  delivered := by
    rw [RxState.arrive, List.take_append_of_le_length inv.reached]
    exact inv.delivered

/-- The oldest packet stays the oldest while others arrive. -/
theorem oldest_arrive (oldest : s.oldest = some buf) : (s.arrive v).oldest = some buf := by
  obtain ⟨lt, -⟩ := List.getElem?_eq_some_iff.mp oldest
  rw [← oldest]
  exact List.getElem?_append_left lt

/-- Delivering the oldest packet. -/
theorem HandedUp.receive (inv : HandedUp b k s) (oldest : s.oldest = some buf) :
    HandedUp b (k + 1) { s with delivered := s.delivered ++ [mynicPollSkb b buf] } := by
  rw [RxState.oldest, inv.length] at oldest
  obtain ⟨lt, entry⟩ := List.getElem?_eq_some_iff.mp oldest
  constructor
  · exact lt
  · show s.delivered ++ [mynicPollSkb b buf] = (s.available.take (k + 1)).map (mynicPollSkb b)
    rw [List.take_add_one, oldest, List.map_append, inv.delivered]
    rfl

/-! ## One pass of the loop -/

/-- After the descriptor was read and the allocation made. -/
def RxState.allocating (v : RxEnv) (s : RxState) : RxState := ((s.arrive v).arrive v).arrive v

theorem pollLoop_empty (none : (s.arrive v).oldest = none) :
    (mynicPollLoop b budget (left + 1) k).eval (rxKernel v) s =
      (mynicPollEnd b budget k).eval (rxKernel v) (s.arrive v) := by
  simp [mynicPollLoop, rxKernel, receives, none]

theorem pollLoop_noMemory (oldest : (s.arrive v).oldest = some buf)
    (failed : v.alloc (s.allocating v).calls = false) :
    (mynicPollLoop b budget (left + 1) k).eval (rxKernel v) s =
      (mynicPollEnd b budget k).eval (rxKernel v) (s.allocating v) := by
  have failed' : v.alloc (((s.arrive v).arrive v).arrive v).calls = false := failed
  simp [mynicPollLoop, rxKernel, receives, oldest, failed', RxState.allocating]

theorem pollLoop_receive (oldest : (s.arrive v).oldest = some buf)
    (allocated : v.alloc (s.allocating v).calls = true) :
    (mynicPollLoop b budget (left + 1) k).eval (rxKernel v) s =
      (mynicPollLoop b budget left (k + 1)).eval (rxKernel v)
        { (s.allocating v).arrive v with
          delivered := ((s.allocating v).arrive v).delivered ++ [mynicPollSkb b buf] } := by
  have next : ((s.arrive v).arrive v).oldest = some buf := oldest_arrive oldest
  have allocated' : v.alloc (((s.arrive v).arrive v).arrive v).calls = true := allocated
  simp [mynicPollLoop, rxKernel, receives, oldest, next, allocated', RxState.allocating]

/-! ## The contract -/

/-- Everything available is the queue at the start and what has arrived since. -/
def Accumulated (v : RxEnv) (queue : List Packet) (s : RxState) : Prop :=
  s.available = queue ++ (List.range s.calls).flatMap v.arrivals

variable {queue : List Packet}

theorem Accumulated.arrive (inv : Accumulated v queue s) : Accumulated v queue (s.arrive v) := by
  show s.available ++ v.arrivals s.calls = queue ++ (List.range (s.calls + 1)).flatMap v.arrivals
  rw [inv, List.range_succ, List.flatMap_append, List.append_assoc, List.flatMap_singleton]

/-- What makes a poll leave its loop after `n` packets, `last` calls into it: all that was available was
delivered, or the allocation for the next packet failed. -/
def StopsShort (v : RxEnv) (queue : List Packet) (n last : ℕ) : Prop :=
  (queue ++ (List.range last).flatMap v.arrivals).length = n ∨
    n < (queue ++ (List.range last).flatMap v.arrivals).length ∧ v.alloc last = false

/-- What a poll that has returned `n` has done: the first `n` packets available were delivered, byte for
byte, and it has completed, and enabled the receive interrupt, once if it stayed below the budget and not
at all otherwise.  It stayed below the budget for want of packets or memory, found at the last call
before those two. -/
structure NapiContract (v : RxEnv) (b : Externs) (budget n : ℕ) (queue : List Packet)
    (after : RxState) : Prop where
  bound : n ≤ budget
  available : after.available = queue ++ (List.range after.calls).flatMap v.arrivals
  reached : n ≤ after.available.length
  delivered : after.delivered = (after.available.take n).map (mynicPollSkb b)
  bytes : after.delivered.map RxSkb.frame = after.available.take n
  completed : after.completed = if n < budget then [n] else []
  control : after.control = if n < budget then [b.ENABLE_RX_IRQ] else []
  short : n < budget → StopsShort v queue n (after.calls - 2)

/-- What holds as long as the loop runs. -/
structure Polling (v : RxEnv) (b : Externs) (queue : List Packet) (k : ℕ) (s : RxState) : Prop where
  accumulated : Accumulated v queue s
  delivered : HandedUp b k s
  completed : s.completed = []
  control : s.control = []

theorem Polling.arrive (inv : Polling v b queue k s) : Polling v b queue k (s.arrive v) :=
  ⟨inv.accumulated.arrive, inv.delivered.arrive, inv.completed, inv.control⟩

theorem Polling.receive (inv : Polling v b queue k s) (oldest : s.oldest = some buf) :
    Polling v b queue (k + 1) { s with delivered := s.delivered ++ [mynicPollSkb b buf] } :=
  ⟨inv.accumulated, inv.delivered.receive oldest, inv.completed, inv.control⟩

theorem HandedUp.bytes (inv : HandedUp b k s) :
    s.delivered.map RxSkb.frame = s.available.take k := by
  rw [inv.delivered, mynicPollSkbs_frames]

/-- Nothing is available but what was delivered. -/
theorem Polling.stopsShort_empty (inv : Polling v b queue k s) (none : s.oldest = none) :
    StopsShort v queue k s.calls := by
  have reached := inv.delivered.reached
  rw [RxState.oldest, inv.delivered.length, List.getElem?_eq_none_iff] at none
  exact .inl (inv.accumulated ▸ le_antisymm none reached)

/-- The allocation for the oldest packet failed. -/
theorem Polling.stopsShort_noMemory (inv : Polling v b queue k s) (oldest : s.oldest = some buf)
    (failed : v.alloc s.calls = false) : StopsShort v queue k s.calls := by
  rw [RxState.oldest, inv.delivered.length] at oldest
  obtain ⟨lt, -⟩ := List.getElem?_eq_some_iff.mp oldest
  exact .inr ⟨inv.accumulated ▸ lt, failed⟩

/-- Leaving the loop, for whatever reason. -/
theorem Polling.finish (inv : Polling v b queue k s) (bound : k ≤ budget)
    (short : k < budget → StopsShort v queue k s.calls) :
    ∃ after, (mynicPollEnd b budget k).eval (rxKernel v) s = ((k : ℤ), after) ∧
      NapiContract v b budget k queue after := by
  unfold mynicPollEnd
  split
  next below =>
    have ended := inv.arrive.arrive (v := v)
    refine ⟨_, rfl, bound, ended.accumulated, ended.delivered.reached, ended.delivered.delivered,
      ended.delivered.bytes, ?_, ?_, short⟩
    · rw [if_pos below]
      show s.completed ++ [k] = [k]
      rw [inv.completed, List.nil_append]
    · rw [if_pos below]
      show s.control ++ [b.ENABLE_RX_IRQ] = [b.ENABLE_RX_IRQ]
      rw [inv.control, List.nil_append]
  next full =>
    refine ⟨_, rfl, bound, inv.accumulated, inv.delivered.reached, inv.delivered.delivered,
      inv.delivered.bytes, ?_, ?_, fun below => absurd below full⟩
    · rw [if_neg full, inv.completed]
    · rw [if_neg full, inv.control]

/-- The loop, with `left` iterations of the budget left. -/
theorem Polling.loop (inv : Polling v b queue k s) (budgeted : k + left = budget) :
    ∃ (n : ℕ) (after : RxState),
      (mynicPollLoop b budget left k).eval (rxKernel v) s = ((n : ℤ), after) ∧
        NapiContract v b budget n queue after := by
  induction left generalizing k s with
  | zero =>
      have used : ¬ k < budget := by omega
      obtain ⟨after, run, contract⟩ := inv.finish (Nat.le_of_eq budgeted) fun below =>
        absurd below used
      exact ⟨k, after, run, contract⟩
  | succ left ih =>
      have bound : k ≤ budget := by omega
      cases oldest : (s.arrive v).oldest with
      | none =>
          rw [pollLoop_empty oldest]
          exact ⟨k, inv.arrive.finish bound fun _ => inv.arrive.stopsShort_empty oldest⟩
      | some buf =>
          have allocating : Polling v b queue k (s.allocating v) := inv.arrive.arrive.arrive
          cases result : v.alloc (s.allocating v).calls with
          | false =>
              rw [pollLoop_noMemory oldest result]
              have next : (s.allocating v).oldest = some buf := oldest_arrive (oldest_arrive oldest)
              exact ⟨k, allocating.finish bound fun _ => allocating.stopsShort_noMemory next result⟩
          | true =>
              rw [pollLoop_receive oldest result]
              have still : ((s.allocating v).arrive v).oldest = some buf :=
                oldest_arrive (oldest_arrive (oldest_arrive oldest))
              exact ih (allocating.arrive.receive still) (by omega)

/-- **The contract of NAPI.**  For every budget, every queue at the start, whatever arrives while it runs
and whichever allocations fail, the poll returns, having delivered exactly the first packets available, as
many as it returns and no more than its budget; it has completed and enabled the receive interrupt once if
it returns less than the budget, and not at all if it returns the budget. -/
theorem mynicPoll_contract (v : RxEnv) (b : Externs) (budget : ℕ) (queue : List Packet) :
    ∃ (n : ℕ) (after : RxState),
      (mynicPoll b budget).eval (rxKernel v) { available := queue } = ((n : ℤ), after) ∧
        NapiContract v b budget n queue after := by
  have start : Polling v b queue 0 { available := queue } := by
    refine ⟨?_, ⟨Nat.zero_le _, rfl⟩, rfl, rfl⟩
    show queue = queue ++ (List.range 0).flatMap v.arrivals
    rw [List.range_zero, List.flatMap_nil, List.append_nil]
  exact start.loop (Nat.zero_add budget)

end

end ScullDrivers.Nic
