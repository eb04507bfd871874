import AvrVoiceControl.SchedulerInvariant

set_option autoImplicit false

namespace AvrVoiceControl

open Interrupts

/-- What a run is asked for: that its journal is kept, and that its times are. -/
structure Mode where
  conserves : Prop
  timed : Prop

variable {Timer : Type}

def InRange (events : List (SchedulerEvent Timer)) : Prop :=
  ∀ exact, .absolute exact ∈ events -> 0 ≤ exact ∧ exact < 2 ^ 32

def SchedulerEvent.exactTime : SchedulerEvent Timer -> Option Int
  | .absolute exact => some exact
  | _ => none

theorem mem_exactTimes {events : List (SchedulerEvent Timer)} {exact : Int} :
    exact ∈ events.filterMap SchedulerEvent.exactTime ↔ .absolute exact ∈ events := by
  refine List.mem_filterMap.trans ⟨fun ⟨event, inside, same⟩ => ?_, fun inside => ⟨_, inside, rfl⟩⟩
  cases event with
  | absolute other =>
    obtain rfl : other = exact := Option.some.inj same
    exact inside
  | _ => cases same

instance (events : List (SchedulerEvent Timer)) : Decidable (InRange events) :=
  decidable_of_iff
    (∀ exact ∈ events.filterMap SchedulerEvent.exactTime, 0 ≤ exact ∧ exact < 2 ^ 32)
    (forall_congr' fun _ => imp_congr_left mem_exactTimes)

def ReloadsClear {Lists : Type} (config : Journal Timer × Scheduler Lists Timer)
    (events : List (SchedulerEvent Timer)) : Prop :=
  .loaded ∈ events -> config.1.replaced = true -> config.2.overflow = false

def CountsOn {Lists : Type} (config : Journal Timer × Scheduler Lists Timer)
    (events : List (SchedulerEvent Timer)) : Prop :=
  .counted ∈ events ->
    config.2.overflow = true ∨ config.2.lastTimerLoad.toNat ≤ config.2.count.toNat

abbrev Config (Timer : Type) := Journal Timer × Scheduler (Queues Timer) Timer

abbrev Frame (Timer : Type) := (Node Timer -> Nat) -> Queues Timer -> Prop

structure Lasting (frame : Frame Timer) : Prop where
  expires : ∀ timeouts queues queues', frame timeouts queues -> queues.expireHead = some queues' ->
    frame timeouts queues'
  pushes : ∀ timeouts (queues : Queues Timer), frame timeouts queues ->
    frame timeouts { queues with pending := .dummy :: queues.pending }

/-- Frames that also say where a timer is not; the dummy may come back at any time. -/
def Kept (known : (Node Timer -> Nat) -> Prop) : Frame Timer := fun timeouts _ => known timeouts

def NotPending (known : (Node Timer -> Nat) -> Prop) (timer : Node Timer) : Frame Timer :=
  fun timeouts queues => known timeouts ∧ (timer ≠ .dummy -> timer ∉ queues.pending)

def Away (known : (Node Timer -> Nat) -> Prop) (timer : Node Timer) : Frame Timer :=
  fun timeouts queues => known timeouts ∧ (timer ≠ .dummy -> queues.Outside timer)

theorem lasting_always : Lasting fun (_ : Node Timer -> Nat) (_ : Queues Timer) => True where
  expires _ _ _ _ _ := trivial
  pushes _ _ _ := trivial

theorem lasting_kept (known : (Node Timer -> Nat) -> Prop) : Lasting (Kept known) where
  expires _ _ _ known _ := known
  pushes _ _ known := known

theorem lasting_notPending (known : (Node Timer -> Nat) -> Prop) (timer : Node Timer) :
    Lasting (NotPending known timer) where
  expires _ _ _ framed expires :=
    ⟨framed.1, fun real inside => framed.2 real ((Queues.expireHead_subset expires).1 inside)⟩
  pushes _ _ framed :=
    ⟨framed.1, fun real inside => framed.2 real ((List.mem_cons.mp inside).resolve_left real)⟩

theorem lasting_away (known : (Node Timer -> Nat) -> Prop) (timer : Node Timer) :
    Lasting (Away known timer) where
  expires _ _ _ framed expires := by
    obtain ⟨fewer, fewer'⟩ := Queues.expireHead_subset expires
    refine ⟨framed.1, fun real => ⟨fun inside => (framed.2 real).1 (fewer inside), fun inside => ?_⟩⟩
    rcases List.mem_append.mp (fewer' inside) with expired | pending
    · exact (framed.2 real).2 expired
    · exact (framed.2 real).1 pending
  pushes _ _ framed :=
    ⟨framed.1, fun real => ⟨fun inside =>
      (framed.2 real).1 ((List.mem_cons.mp inside).resolve_left real), (framed.2 real).2⟩⟩

def Later (now due time last : Nat) : Prop := due + last ≤ now + time

structure Timely (now : Nat) (called due : Node Timer -> Nat) (punctual : Bool)
    (queues : Queues Timer) (absoluteTime : Node Timer -> UInt32) (last : UInt32) : Prop where
  later : ∀ timer, .timer timer ∈ queues.pending ->
    Later now (due (.timer timer)) (absoluteTime (.timer timer)).toNat last.toNat
  called : ∀ timer, called timer ≤ now
  punctual : punctual = true

def Core (mode : Mode) (frame : Frame Timer) (config : Config Timer) : Prop :=
  Shape config.2.lists ∧ frame config.1.timeout config.2.lists ∧
    config.2.lastTimerLoad.toNat ≤ 65535 ∧
    (mode.conserves -> Tracked config.1.active config.1.queue config.1.orderly config.2.lists
      config.2.absoluteTime config.2.absoluteTimeOfLastTimeout) ∧
    (mode.timed -> Timely config.1.now config.1.called config.1.due config.1.punctual
      config.2.lists config.2.absoluteTime config.2.absoluteTimeOfLastTimeout)

def period (config : Config Timer) (head : Node Timer) : UInt32 :=
  config.2.absoluteTime head - config.2.absoluteTimeOfLastTimeout

def Near (config : Config Timer) : Prop :=
  ∀ head, config.2.lists.pending.head? = some head -> (period config head).toNat ≤ 65535

def NearDummy (config : Config Timer) : Prop :=
  config.2.lists.pending.head? = some .dummy -> (period config .dummy).toNat ≤ 65535

/-- When the head expires, at the overflow that comes or that has come, it is not too early for a
timer with this time. The handler ignores an overflow that has come. -/
def Counting (handling : Prop) (config : Config Timer) (due time : Nat) : Prop :=
  ∀ head, config.2.lists.pending.head? = some head ->
    due + config.2.count.toNat + (config.2.absoluteTime head).toNat ≤
        config.1.now + 65535 + time ∧
      (¬ handling -> config.2.overflow = true ->
        due + (config.2.absoluteTime head).toNat ≤ config.1.now + time)

def Counts (mode : Mode) (handling : Prop) (config : Config Timer) : Prop :=
  mode.timed -> ∀ timer, .timer timer ∈ config.2.lists.pending ->
    Counting handling config (config.1.due (.timer timer))
      (config.2.absoluteTime (.timer timer)).toNat

def Loads (mode : Mode) (config : Config Timer) : Prop :=
  mode.timed -> ∀ head, config.2.lists.pending.head? = some head ->
    config.2.lastTimerLoad.toNat + (config.2.absoluteTime head).toNat ≤
      65535 + config.2.absoluteTimeOfLastTimeout.toNat

def Masked (handling : Prop) (config : Config Timer) : Prop :=
  handling ∨ config.2.interruptEnabled = false

structure Calm (mode : Mode) (handling : Prop) (frame : Frame Timer) (config : Config Timer) :
    Prop where
  core : Core mode frame config
  near : Near config
  counts : Counts mode handling config
  loads : Loads mode config

structure Settled (mode : Mode) (handling : Prop) (frame : Frame Timer) (config : Config Timer) :
    Prop extends Calm mode handling frame config where
  running : config.2.isRunning = true ∨ config.2.lists.pending = []

/-- Before the counter is started for the timer at the head, which may be another than before. -/
structure Headless (mode : Mode) (handling : Prop) (frame : Frame Timer) (config : Config Timer) :
    Prop where
  masked : Masked handling config
  core : Core mode frame config
  nearDummy : NearDummy config
  unchanged : mode.timed -> config.1.replaced = false -> ¬ handling ->
    Near config ∧ Counts mode handling config

structure Prepared (mode : Mode) (handling : Prop) (frame : Frame Timer) (duration : UInt32)
    (config : Config Timer) : Prop where
  masked : Masked handling config
  core : Core mode frame config
  near : Near config
  duration : ∀ head, config.2.lists.pending.head? = some head -> period config head = duration
  present : config.2.lists.pending ≠ []
  unchanged : mode.timed -> config.1.replaced = false -> ¬ handling -> Counts mode handling config

structure Empty (mode : Mode) (handling : Prop) (frame : Frame Timer) (config : Config Timer) :
    Prop where
  masked : Masked handling config
  core : Core mode frame config
  empty : config.2.lists.pending = []

def Always (mode : Mode) (config : Config Timer) : Prop :=
  Core mode (fun _ _ => True) config

theorem always_of_core {mode : Mode} {frame : Frame Timer} {config : Config Timer}
    (core : Core mode frame config) : Always mode config :=
  ⟨core.1, trivial, core.2.2⟩

def Closed (mode : Mode) (handling : Prop) (config : Config Timer) : Prop :=
  Masked handling config ∧ Always mode config

theorem Headless.closed {mode : Mode} {handling : Prop} {frame : Frame Timer}
    {config : Config Timer} (headless : Headless mode handling frame config) :
    Closed mode handling config :=
  ⟨headless.masked, always_of_core headless.core⟩

theorem Prepared.closed {mode : Mode} {handling : Prop} {frame : Frame Timer} {duration : UInt32}
    {config : Config Timer} (prepared : Prepared mode handling frame duration config) :
    Closed mode handling config :=
  ⟨prepared.masked, always_of_core prepared.core⟩

theorem Empty.closed {mode : Mode} {handling : Prop} {frame : Frame Timer}
    {config : Config Timer} (empty : Empty mode handling frame config) :
    Closed mode handling config :=
  ⟨empty.masked, always_of_core empty.core⟩

variable [DecidableEq Timer]

def rules (mode : Mode) : Rules (Scheduler (Queues Timer) Timer) (SchedulerEvent Timer)
    (Scheduler.Entry Timer) Scheduler.Input (Journal Timer) where
  system := Scheduler.system
  observe := Journal.observe
  calls _ entry := mode.conserves -> ∀ bound, entry ≠ .flushAll bound
  inputs _ input := mode.timed -> input = .tick
  interrupts config :=
    config.2.interruptEnabled = true ∧ config.2.lists.pending ≠ [] ∧
      (mode.timed -> config.2.overflow = true)
  effects config events :=
    (mode.conserves ∨ mode.timed -> InRange events) ∧
      (mode.timed -> ReloadsClear config events ∧ CountsOn config events)

section Receives

variable {mode : Mode} {frame : Frame Timer} {handling : Prop} {before next : Config Timer}

theorem receives_cases (receives : (rules mode).Receives before next) :
    (∃ count overflow, ¬ mode.timed ∧
      next = (before.1, { before.2 with count := count, overflow := overflow })) ∨
    next = ({ before.1 with now := before.1.now + 1 },
      { before.2 with
        count := before.2.count + 1
        overflow := before.2.overflow || before.2.count = 65535 }) := by
  obtain ⟨input, ticks, rfl⟩ := receives
  cases input with
  | tick => exact .inr rfl
  | hardware count overflow =>
    exact .inl ⟨count, overflow, fun timed => by simpa using ticks timed, rfl⟩

theorem core_receives (receives : (rules mode).Receives before next)
    (core : Core mode frame before) : Core mode frame next := by
  obtain ⟨shape, framed, bound, tracked, timely⟩ := core
  rcases receives_cases receives with ⟨count, overflow, untimed, rfl⟩ | rfl
  · exact ⟨shape, framed, bound, tracked, fun timed => absurd timed untimed⟩
  · refine ⟨shape, framed, bound, tracked, fun timed => ⟨fun timer member => ?_, fun timer => ?_,
      (timely timed).punctual⟩⟩
    · exact Nat.le_trans ((timely timed).later timer member)
        (Nat.add_le_add_right (Nat.le_succ _) _)
    · exact Nat.le_succ_of_le ((timely timed).called timer)

theorem counting_receives (timed : mode.timed) (receives : (rules mode).Receives before next)
    {due time : Nat} (counting : Counting handling before due time) :
    Counting handling next due time := by
  rcases receives_cases receives with ⟨count, overflow, untimed, rfl⟩ | rfl
  · exact absurd timed untimed
  intro head first
  obtain ⟨comes, came⟩ := counting head first
  have count : (before.2.count + 1).toNat = (before.2.count.toNat + 1) % 2 ^ 16 :=
    UInt16.toNat_add _ _
  dsimp only at comes came ⊢
  refine ⟨by omega, fun main overflow => ?_⟩
  rcases Bool.or_eq_true_iff.mp overflow with flag | wraps
  · have due_le := came main flag
    omega
  · have full : before.2.count.toNat = 65535 := by rw [of_decide_eq_true wraps]; rfl
    omega

theorem near_receives (receives : (rules mode).Receives before next) (near : Near before) :
    Near next := by
  rcases receives_cases receives with ⟨_, _, _, rfl⟩ | rfl <;> exact near

theorem nearDummy_receives (receives : (rules mode).Receives before next)
    (near : NearDummy before) : NearDummy next := by
  rcases receives_cases receives with ⟨_, _, _, rfl⟩ | rfl <;> exact near

theorem counts_receives (receives : (rules mode).Receives before next)
    (counts : Counts mode handling before) : Counts mode handling next := by
  intro timed timer member
  have counting : ∀ due time, Counting handling before due time ->
      Counting handling next due time := fun _ _ => counting_receives timed receives
  rcases receives_cases receives with ⟨_, _, _, rfl⟩ | rfl <;>
    exact counting _ _ (counts timed timer member)

theorem loads_receives (receives : (rules mode).Receives before next)
    (loads : Loads mode before) : Loads mode next := by
  rcases receives_cases receives with ⟨_, _, _, rfl⟩ | rfl <;> exact loads

theorem masked_receives (receives : (rules mode).Receives before next)
    (masked : Masked handling before) : Masked handling next := by
  rcases receives_cases receives with ⟨_, _, _, rfl⟩ | rfl <;> exact masked

theorem calm_receives (receives : (rules mode).Receives before next)
    (calm : Calm mode handling frame before) : Calm mode handling frame next where
  core := core_receives receives calm.core
  near := near_receives receives calm.near
  counts := counts_receives receives calm.counts
  loads := loads_receives receives calm.loads

theorem settled_receives (receives : (rules mode).Receives before next)
    (settled : Settled mode handling frame before) : Settled mode handling frame next where
  toCalm := calm_receives receives settled.toCalm
  running := by
    rcases receives_cases receives with ⟨_, _, _, rfl⟩ | rfl <;> exact settled.running

theorem replaced_receives (receives : (rules mode).Receives before next) :
    next.1.replaced = before.1.replaced := by
  rcases receives_cases receives with ⟨_, _, _, rfl⟩ | rfl <;> rfl

theorem headless_receives (receives : (rules mode).Receives before next)
    (headless : Headless mode handling frame before) : Headless mode handling frame next where
  masked := masked_receives receives headless.masked
  core := core_receives receives headless.core
  nearDummy := nearDummy_receives receives headless.nearDummy
  unchanged timed same main := by
    rw [replaced_receives receives] at same
    obtain ⟨near, counts⟩ := headless.unchanged timed same main
    exact ⟨near_receives receives near, counts_receives receives counts⟩

theorem prepared_receives {duration : UInt32} (receives : (rules mode).Receives before next)
    (prepared : Prepared mode handling frame duration before) :
    Prepared mode handling frame duration next where
  masked := masked_receives receives prepared.masked
  core := core_receives receives prepared.core
  near := near_receives receives prepared.near
  duration := by
    rcases receives_cases receives with ⟨_, _, _, rfl⟩ | rfl <;> exact prepared.duration
  present := by
    rcases receives_cases receives with ⟨_, _, _, rfl⟩ | rfl <;> exact prepared.present
  unchanged timed same main := by
    rw [replaced_receives receives] at same
    exact counts_receives receives (prepared.unchanged timed same main)

theorem empty_receives (receives : (rules mode).Receives before next)
    (empty : Empty mode handling frame before) : Empty mode handling frame next where
  masked := masked_receives receives empty.masked
  core := core_receives receives empty.core
  empty := by
    rcases receives_cases receives with ⟨_, _, _, rfl⟩ | rfl <;> exact empty.empty

end Receives

end AvrVoiceControl
