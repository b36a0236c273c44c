import ScullDrivers.Loopback.Driver
import ScullDrivers.Resources.Binding

/-!
# Loading and unloading the loopback driver

The other functions of `network/simple_loopback.c`, and the life of the module: loads that succeed or fail,
the interface going up and down, packets, and unloads.  `myloop_init` gives what `alloc_netdev` returned to
`register_netdev` unseen, and returns what that returns.  So nothing touches a `net_device` that is not
there exactly as long as `alloc_netdev` never returns `NULL`, and then what is held is what the loaded
module should have, and the `net_device` of every load whose `register_netdev` failed
(`touches_backed_iff`).
-/

namespace ScullDrivers.Loopback

open Interaction Resources

/-! ## The functions -/

/-- An address; `0` is `NULL`. -/
abbrev Ptr := Nat

/-- `IFF_LOOPBACK`. -/
def iffLoopback : UInt32 := 8

/-- What the functions of the device and the module call, their statements on the `net_device`, and the
steps of `unregister_netdev`. -/
inductive NetdevCall
  | allocate
  | etherSetup (dev : Ptr)
  | setNetdevOps (dev : Ptr)
  | orFlags (dev : Ptr) (flags : UInt32)
  | registerNetdev (dev : Ptr)
  | rtnlLock
  | netifRunning (dev : Ptr)
  | unlistNetdevice (dev : Ptr)
  | rtnlUnlock
  | freeNetdev (dev : Ptr)
  | netifStartQueue (dev : Ptr)
  | netifStopQueue (dev : Ptr)
  deriving DecidableEq

/-- The answer: an address, an error number, a flag. -/
abbrev NetdevResp : NetdevCall → Type
  | .allocate => Ptr
  | .registerNetdev _ => Int
  | .netifRunning _ => Bool
  | _ => Unit

abbrev ncall (e : NetdevCall) : Prog NetdevCall NetdevResp (NetdevResp e) := perform e

/-- `myloop_open`. -/
def myloopOpen (dev : Ptr) : Prog NetdevCall NetdevResp Int := do
  ncall (.netifStartQueue dev)
  return 0

/-- `myloop_stop`. -/
def myloopStop (dev : Ptr) : Prog NetdevCall NetdevResp Int := do
  ncall (.netifStopQueue dev)
  return 0

/-- `myloop_setup`. -/
def myloopSetup (dev : Ptr) : Prog NetdevCall NetdevResp Unit := do
  ncall (.etherSetup dev)
  ncall (.setNetdevOps dev)
  ncall (.orFlags dev iffLoopback)

/-- The kernel's `alloc_netdev`: it calls the setup function on what it allocated. -/
def allocNetdev (setup : Ptr → Prog NetdevCall NetdevResp Unit) : Prog NetdevCall NetdevResp Ptr := do
  let dev ← ncall .allocate
  if dev = 0 then return 0
  else do
    setup dev
    return dev

/-- `myloop_init`: what it returns, and `myloop_dev`. -/
def myloopInit : Prog NetdevCall NetdevResp (Int × Ptr) := do
  let myloopDev ← allocNetdev myloopSetup
  let ret ← ncall (.registerNetdev myloopDev)
  return (ret, myloopDev)

/-- `if (dev is up) ndo_stop(dev)`, as `unregister_netdev` does it. -/
def stopIfRunning (dev : Ptr) (running : Bool) : Prog NetdevCall NetdevResp Unit :=
  if running then do
    let _ ← myloopStop dev
    return ()
  else return ()

/-- The kernel's `unregister_netdev`: under the rtnl lock it stops the interface if it is up and takes it
off the list of devices. -/
def unregisterNetdev (dev : Ptr) : Prog NetdevCall NetdevResp Unit := do
  ncall .rtnlLock
  let running ← ncall (.netifRunning dev)
  stopIfRunning dev running
  ncall (.unlistNetdevice dev)
  ncall .rtnlUnlock

/-- `myloop_exit`. -/
def myloopExit (myloopDev : Ptr) : Prog NetdevCall NetdevResp Unit := do
  unregisterNetdev myloopDev
  ncall (.freeNetdev myloopDev)

/-! ## What is held -/

/-- The `net_device`, and that being registered.  `touch` is held by a call while it reads or writes the
`net_device`. -/
inductive Resource
  | netDevice (dev : Ptr)
  | registration (dev : Ptr)
  | touch (dev : Ptr)
  deriving DecidableEq

/-- The interface and the calls that touch the `net_device` use it. -/
def uses : Resource → Resource → Prop
  | .registration dev, r | .touch dev, r => r = .netDevice dev
  | .netDevice _, _ => False

/-- What a call does. -/
def netdevEvents : (e : NetdevCall) → NetdevResp e → List (Event Resource)
  | .allocate, dev => if dev = 0 then [] else [.acquire (.netDevice dev)]
  | .etherSetup dev, _ | .setNetdevOps dev, _ | .orFlags dev _, _ | .netifRunning dev, _
  | .netifStartQueue dev, _ | .netifStopQueue dev, _ => during (.touch dev)
  | .registerNetdev dev, err =>
      during (.touch dev) ++ if err = 0 then [.acquire (.registration dev)] else []
  | .unlistNetdevice dev, _ => during (.touch dev) ++ [.release (.registration dev)]
  | .freeNetdev dev, _ => [.release (.netDevice dev)]
  | .rtnlLock, _ | .rtnlUnlock, _ => []

/-- What `myloop_xmit` does to the `net_device` `dev`. -/
def xmitEvents (dev : Ptr) : (e : Call) → Resp e → List (Event Resource)
  | .ethTypeTrans _, _ | .incTxPackets, _ | .addTxBytes _, _ | .incRxPackets, _ | .addRxBytes _, _ =>
      during (.touch dev)
  | .skbOrphan _, _ | .setProtocol _ _, _ | .netifRx _, _ => []

/-! ## The life of the module -/

/-- What the kernel answers. -/
structure Answers where
  allocNetdev : Ptr := 0
  registerNetdev : Int := 0
  netifRunning : Bool := false

def Answers.answer (a : Answers) : (e : NetdevCall) → NetdevResp e
  | .allocate => a.allocNetdev
  | .registerNetdev _ => a.registerNetdev
  | .netifRunning _ => a.netifRunning
  | .etherSetup _ | .setNetdevOps _ | .orFlags _ _ | .rtnlLock | .unlistNetdevice _ | .rtnlUnlock
  | .freeNetdev _ | .netifStartQueue _ | .netifStopQueue _ => ()

/-- The module: whether it is loaded, its global, whether its interface is up, and all events so far. -/
structure Life where
  loaded : Bool := false
  myloopDev : Ptr := 0
  up : Bool := false
  log : List (Event Resource) := []

/-- What happens to it.  A packet comes with the answers to the calls of `myloop_xmit`. -/
inductive Happening
  | load (allocNetdev : Ptr) (registerNetdev : Int)
  | unload
  | opening
  | stopping
  | xmit (skb : Skb) (answer : (e : Call) → Resp e)

/-- The loader runs `myloop_init`, and discards the module if that returns a negative number. -/
def Life.load (life : Life) (a : Answers) : Life :=
  let ((ret, myloopDev), es) := myloopInit.eval (logging a.answer netdevEvents) []
  { loaded := decide (0 ≤ ret), myloopDev, log := life.log ++ es }

def Life.unload (life : Life) : Life :=
  let a : Answers := { netifRunning := life.up }
  let (_, es) := (myloopExit life.myloopDev).eval (logging a.answer netdevEvents) []
  { log := life.log ++ es }

/-- A call of a function of the interface, and whether it is up then. -/
def Life.interface (life : Life) (code : Prog NetdevCall NetdevResp Int) (up : Bool) : Life :=
  let (_, es) := code.eval (logging (Answers.answer {}) netdevEvents) []
  { life with up, log := life.log ++ es }

def Life.xmit (life : Life) (skb : Skb) (answer : (e : Call) → Resp e) : Life :=
  let (_, es) := (myloopXmit skb).eval (logging answer (xmitEvents life.myloopDev)) []
  { life with log := life.log ++ es }

/-- One step.  `register_netdev` returns zero or a negative number. -/
inductive LifeStep : Life → Happening → Life → Prop
  | load {life : Life} {allocNetdev : Ptr} {registerNetdev : Int} :
    life.loaded = false → registerNetdev ≤ 0 →
    LifeStep life (.load allocNetdev registerNetdev) (life.load { allocNetdev, registerNetdev })
  | unload {life : Life} : life.loaded = true → LifeStep life .unload life.unload
  | opening {life : Life} :
    life.loaded = true → life.up = false →
    LifeStep life .opening (life.interface (myloopOpen life.myloopDev) true)
  | stopping {life : Life} :
    life.loaded = true → life.up = true →
    LifeStep life .stopping (life.interface (myloopStop life.myloopDev) false)
  | xmit {life : Life} {skb : Skb} {answer : (e : Call) → Resp e} :
    life.loaded = true → life.up = true → LifeStep life (.xmit skb answer) (life.xmit skb answer)

/-- What the module should have. -/
def Life.having (life : Life) : Multiset Resource :=
  if life.loaded then {.registration life.myloopDev, .netDevice life.myloopDev} else 0

/-- `alloc_netdev` does not return `NULL`. -/
def Allocates (_ : Life) : Happening → Prop
  | .load allocNetdev _ => allocNetdev ≠ 0
  | .unload | .opening | .stopping | .xmit _ _ => True

/-- The `net_device` of a load whose `register_netdev` failed. -/
def Happening.lost : Happening → List Resource
  | .load allocNetdev registerNetdev => if registerNetdev = 0 then [] else [.netDevice allocNetdev]
  | .unload | .opening | .stopping | .xmit _ _ => []

/-- What failed loads lost. -/
def lost (past : List (Life × Happening)) : List Resource := past.flatMap fun x => x.2.lost

/-- The books, with `kept` held for nobody. -/
structure Life.Books (kept : List Resource) (life : Life) : Prop where
  held : replay life.log 0 = some (life.having + ↑kept)
  backed : StaysBacked uses life.log 0
  devices : ∀ r ∈ kept, ∃ dev, dev ≠ 0 ∧ r = .netDevice dev

/-- `n` touches in a row. -/
def touches (dev : Ptr) (n : Nat) : List (Event Resource) :=
  (List.replicate n (during (.touch dev))).flatten

section

variable {life life' : Life} {q : Happening} {a : Answers} {dev : Ptr} {n : Nat} {kept : List Resource}
  {es : List (Event Resource)} {held : Multiset Resource} {past : List (Life × Happening)}

theorem replay_touches : replay (touches dev n ++ es) held = replay es held := by
  unfold touches
  induction n with
  | zero => rfl
  | succ n ih =>
      rw [List.replicate_succ, List.flatten_cons, List.append_assoc, replay_during]
      exact ih

theorem staysBacked_touches (mem : .netDevice dev ∈ held) :
    StaysBacked uses (touches dev n ++ es) held ↔ StaysBacked uses es held := by
  unfold touches
  induction n with
  | zero => exact Iff.rfl
  | succ n ih =>
      rw [List.replicate_succ, List.flatten_cons, List.append_assoc, staysBacked_during]
      · exact ih
      · intro r used
        have base : r = .netDevice dev := used
        exact base ▸ mem

/-! ## The events of each function -/

attribute [local simp] Answers.answer netdevEvents xmitEvents

/-- A load that is given a `net_device`. -/
theorem load_eq (allocated : a.allocNetdev ≠ 0) : life.load a =
    { loaded := decide (0 ≤ a.registerNetdev), myloopDev := a.allocNetdev,
      log := life.log ++ .acquire (.netDevice a.allocNetdev) :: (touches a.allocNetdev 4 ++
        if a.registerNetdev = 0 then [.acquire (.registration a.allocNetdev)] else []) } := by
  rcases eq_or_ne a.registerNetdev 0 with registered | failed
  · simp [Life.load, myloopInit, allocNetdev, myloopSetup, touches, allocated, registered]
  · simp [Life.load, myloopInit, allocNetdev, myloopSetup, touches, allocated, failed]

/-- A load that is given `NULL`. -/
theorem load_null (null : a.allocNetdev = 0) : (life.load a).log = life.log ++ (during (.touch 0) ++
    if a.registerNetdev = 0 then [.acquire (.registration 0)] else []) := by
  rcases eq_or_ne a.registerNetdev 0 with registered | failed
  · simp [Life.load, myloopInit, allocNetdev, null, registered]
  · simp [Life.load, myloopInit, allocNetdev, null, failed]

theorem unload_eq : life.unload = { log := life.log ++ (touches life.myloopDev (if life.up then 3 else 2) ++
    [.release (.registration life.myloopDev), .release (.netDevice life.myloopDev)]) } := by
  cases up : life.up with
  | false => simp [Life.unload, myloopExit, unregisterNetdev, stopIfRunning, touches, up]
  | true => simp [Life.unload, myloopExit, unregisterNetdev, stopIfRunning, myloopStop, touches, up]

theorem opening_eq : life.interface (myloopOpen life.myloopDev) true =
    { life with up := true, log := life.log ++ touches life.myloopDev 1 } := by
  simp [Life.interface, myloopOpen, touches]

theorem stopping_eq : life.interface (myloopStop life.myloopDev) false =
    { life with up := false, log := life.log ++ touches life.myloopDev 1 } := by
  simp [Life.interface, myloopStop, touches]

theorem xmit_eq {skb : Skb} {answer : (e : Call) → Resp e} : life.xmit skb answer =
    { life with log := life.log ++ touches life.myloopDev 5 } := by
  simp [Life.xmit, myloopXmit, touches]

/-! ## One step -/

theorem backed_kept (devices : ∀ r ∈ kept, ∃ dev, dev ≠ 0 ∧ r = .netDevice dev) :
    Backed uses ↑kept := by
  intro r mem s used
  obtain ⟨dev, -, rfl⟩ := devices r (Multiset.mem_coe.mp mem)
  cases used

/-- Touches of the device of a loaded module leave the books as they are. -/
theorem Life.Books.touched {up : Bool} (books : life.Books kept) (loaded : life.loaded = true) :
    Life.Books kept { life with up, log := life.log ++ touches life.myloopDev n } := by
  obtain ⟨held, backed, devices⟩ := books
  have mem : Resource.netDevice life.myloopDev ∈ life.having := by simp [Life.having, loaded]
  have own : StaysBacked uses (touches life.myloopDev n ++ []) life.having := by
    rw [staysBacked_touches mem]
    simp [Life.having, loaded, Backed, uses]
  have done : replay (touches life.myloopDev n ++ []) life.having = some life.having := replay_touches
  rw [List.append_nil] at own done
  obtain ⟨held', backed'⟩ := exact_staysBacked_append held backed done own (backed_kept devices)
  exact ⟨held', backed', devices⟩

/-- A load that is given a `net_device` keeps the books; if it fails it loses it. -/
theorem Life.Books.loading (books : life.Books kept) (absent : life.loaded = false)
    (allocated : a.allocNetdev ≠ 0) (err : a.registerNetdev ≤ 0) :
    (life.load a).Books (kept ++ (Happening.load a.allocNetdev a.registerNetdev).lost) := by
  obtain ⟨held, backed, devices⟩ := books
  rw [Life.having, if_neg (absent ▸ Bool.false_ne_true)] at held
  have mem : Resource.netDevice a.allocNetdev ∈ ({.netDevice a.allocNetdev} : Multiset Resource) :=
    Multiset.mem_singleton_self _
  rw [load_eq allocated]
  rcases eq_or_ne a.registerNetdev 0 with registered | failed
  · rw [Happening.lost, if_pos registered, if_pos registered, List.append_nil]
    have done : replay (.acquire (.netDevice a.allocNetdev) :: (touches a.allocNetdev 4 ++
        [.acquire (.registration a.allocNetdev)])) 0 =
          some {.registration a.allocNetdev, .netDevice a.allocNetdev} := by
      rw [replay_acquire, replay_touches]
      rfl
    have own : StaysBacked uses (.acquire (.netDevice a.allocNetdev) :: (touches a.allocNetdev 4 ++
        [.acquire (.registration a.allocNetdev)])) 0 := by
      rw [staysBacked_acquire, Multiset.cons_zero, staysBacked_touches mem]
      simp [Backed, uses]
    obtain ⟨held', backed'⟩ := exact_staysBacked_append held backed done own (backed_kept devices)
    refine ⟨?_, backed', devices⟩
    rw [Life.having, if_pos (decide_eq_true registered.ge)]
    exact held'
  · rw [Happening.lost, if_neg failed, if_neg failed]
    have done : replay (.acquire (.netDevice a.allocNetdev) :: (touches a.allocNetdev 4 ++ [])) 0 =
        some {.netDevice a.allocNetdev} := by
      rw [replay_acquire, replay_touches]
      rfl
    have own : StaysBacked uses (.acquire (.netDevice a.allocNetdev) ::
        (touches a.allocNetdev 4 ++ [])) 0 := by
      rw [staysBacked_acquire, Multiset.cons_zero, staysBacked_touches mem]
      simp [Backed, uses]
    obtain ⟨held', backed'⟩ := exact_staysBacked_append held backed done own (backed_kept devices)
    refine ⟨?_, backed', fun r mem => ?_⟩
    · have negative : ¬ 0 ≤ a.registerNetdev := fun zero => failed (le_antisymm err zero)
      rw [Life.having, if_neg (by simp [negative]), zero_add, ← Multiset.coe_add, add_comm]
      exact held'
    · rcases List.mem_append.mp mem with old | new
      · exact devices r old
      · exact ⟨a.allocNetdev, allocated, List.mem_singleton.mp new⟩

/-- An unload gives back what the module has. -/
theorem Life.Books.unloading (books : life.Books kept) (loaded : life.loaded = true) :
    life.unload.Books kept := by
  obtain ⟨held, backed, devices⟩ := books
  have mem : Resource.netDevice life.myloopDev ∈
      ({.registration life.myloopDev, .netDevice life.myloopDev} : Multiset Resource) := by simp
  rw [Life.having, if_pos loaded] at held
  have done : replay (touches life.myloopDev (if life.up then 3 else 2) ++
      [.release (.registration life.myloopDev), .release (.netDevice life.myloopDev)])
        {.registration life.myloopDev, .netDevice life.myloopDev} = some 0 := by
    rw [replay_touches]
    simp
  have own : StaysBacked uses (touches life.myloopDev (if life.up then 3 else 2) ++
      [.release (.registration life.myloopDev), .release (.netDevice life.myloopDev)])
        {.registration life.myloopDev, .netDevice life.myloopDev} := by
    rw [staysBacked_touches mem]
    simp [Backed, uses]
  obtain ⟨held', backed'⟩ := exact_staysBacked_append held backed done own (backed_kept devices)
  rw [unload_eq]
  exact ⟨held', backed', devices⟩

/-- A load that is given `NULL` touches it. -/
theorem Life.Books.not_backed_null (books : life.Books kept) (absent : life.loaded = false)
    (null : a.allocNetdev = 0) : ¬ StaysBacked uses (life.load a).log 0 := by
  intro stays
  rw [load_null null, staysBacked_append books.held] at stays
  have touching : Backed uses (.touch 0 ::ₘ (life.having + ↑kept)) :=
    (staysBacked_acquire.mp stays.2).2.start
  have there := touching (.touch 0) (Multiset.mem_cons_self _ _) (.netDevice 0) rfl
  rw [Life.having, if_neg (absent ▸ Bool.false_ne_true), zero_add] at there
  rcases Multiset.mem_cons.mp there with same | old
  · cases same
  · obtain ⟨dev, some, same⟩ := books.devices _ (Multiset.mem_coe.mp old)
    cases same
    exact some rfl

/-- What one step keeps. -/
theorem Life.Books.step (books : life.Books kept) (step : LifeStep life q life')
    (allocates : Allocates life q) : life'.Books (kept ++ q.lost) := by
  cases step with
  | @load dev ret absent err => exact books.loading (a := ⟨dev, ret, false⟩) absent allocates err
  | unload loaded =>
      rw [Happening.lost, List.append_nil]
      exact books.unloading loaded
  | opening loaded down =>
      rw [Happening.lost, List.append_nil, opening_eq]
      exact books.touched loaded
  | stopping loaded up =>
      rw [Happening.lost, List.append_nil, stopping_eq]
      exact books.touched loaded
  | xmit loaded up =>
      rw [Happening.lost, List.append_nil, xmit_eq]
      exact books.touched loaded

theorem Life.Books.allocates (books : life.Books kept) (step : LifeStep life q life')
    (stays : StaysBacked uses life'.log 0) : Allocates life q := by
  cases step with
  | load absent err => exact fun null => books.not_backed_null absent null stays
  | unload | opening | stopping | xmit => trivial

/-! ## Runs -/

/-- **The life of the module.**  In every run of loads, packets, the interface going up and down, and
unloads, no `net_device` is touched that is not there exactly when `alloc_netdev` never returns `NULL`.
Then, at every moment, what is held is what the loaded module should have and the `net_device` of every
load that failed. -/
theorem touches_backed_iff (run : Run LifeStep {} past life) :
    (Always (fun life => StaysBacked uses life.log 0) past life ↔ AllSteps Allocates past) ∧
      (AllSteps Allocates past → replay life.log 0 = some (life.having + ↑(lost past))) := by
  have start : Life.Books [] {} := ⟨rfl, backed_zero, fun r mem => absurd mem List.not_mem_nil⟩
  constructor
  · refine run.always_iff_allSteps (I := fun life => ∃ kept, life.Books kept) ⟨[], start⟩ ?_ ?_ ?_
    · rintro life ⟨kept, books⟩
      exact books.backed
    · rintro life q life' step allocates ⟨kept, books⟩
      exact ⟨_, books.step step allocates⟩
    · rintro life q life' step ⟨kept, books⟩ stays
      exact books.allocates step stays
  · intro allocates
    have books : life.Books (lost past) := by
      induction run with
      | nil => exact start
      | snoc run step ih =>
          obtain ⟨before, here⟩ := allSteps_snoc.mp allocates
          rw [lost, List.flatMap_append, List.flatMap_singleton]
          exact (ih before).step step here
    exact books.held

end

/-- A packet of 60 bytes. -/
def sixtyBytes : (e : Call) → Resp e
  | .ethTypeTrans _ => 0x0800
  | .netifRx _ => .success
  | .addTxBytes _ | .addRxBytes _ => 60
  | .skbOrphan _ | .setProtocol _ _ | .incTxPackets | .incRxPackets => ()

/-- A packet, an unload while the interface is up, a load whose registration fails and leaves its
`net_device` behind, and a load that succeeds. -/
theorem touches_backed_reloaded : ∃ past life, Run LifeStep {} past life ∧
    past.map Prod.snd = [.load 16 0, .opening, .xmit 7 sixtyBytes, .unload, .load 32 (-12),
      .load 48 0] ∧
    Always (fun life => StaysBacked uses life.log 0) past life ∧
      replay life.log 0 = some {.registration 48, .netDevice 48, .netDevice 32} := by
  have loaded := Run.nil.snoc (show LifeStep {} (.load 16 0) _ from .load rfl (le_refl 0))
  have sent := (loaded.snoc (.opening rfl rfl)).snoc
    (show LifeStep _ (.xmit 7 sixtyBytes) _ from .xmit rfl rfl)
  have failed := (sent.snoc (.unload rfl)).snoc
    (show LifeStep _ (.load 32 (-12)) _ from .load rfl (by decide))
  have run := failed.snoc (show LifeStep _ (.load 48 0) _ from .load rfl (le_refl 0))
  obtain ⟨backed, held⟩ := touches_backed_iff run
  refine ⟨_, _, run, rfl, backed.mpr ?_, (held ?_).trans rfl⟩
  all_goals
    simp only [allSteps_snoc]
    exact ⟨⟨⟨⟨⟨⟨allSteps_nil, Nat.succ_ne_zero 15⟩, trivial⟩, trivial⟩, trivial⟩, Nat.succ_ne_zero 31⟩,
      Nat.succ_ne_zero 47⟩

end ScullDrivers.Loopback
