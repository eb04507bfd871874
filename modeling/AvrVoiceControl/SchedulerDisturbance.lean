import AvrVoiceControl.SchedulerCalls

set_option autoImplicit false

namespace AvrVoiceControl

open Interrupts Interrupts.Program LinkedList Scheduler

variable {Timer : Type} [DecidableEq Timer]

/-- What a timer at `time` costs those behind it: a tick, unless the counter then needs one dummy
less on the way from `previous` to `next`. -/
def detour (previous time next : UInt32) : Int :=
  span (time - previous) + span (next - time) - span (next - previous)

def lastTime (absoluteTime : Node Timer -> UInt32) (previous : UInt32) (nodes : List (Node Timer)) :
    UInt32 :=
  nodes.foldl (fun _ node => absoluteTime node) previous

def elapsed (state : Scheduler (Queues Timer) Timer) : Int :=
  (state.count.toNat : Int) - state.lastTimerLoad.toNat

def detourIn (absoluteTime : Node Timer -> UInt32) (previous : UInt32) (node : Node Timer)
    (front back : List (Node Timer)) (other : Node Timer) : Int :=
  match back with
  | [] => 0
  | next :: _ =>
    if other ∈ front then 0
    else detour (lastTime absoluteTime previous front) (absoluteTime node) (absoluteTime next)

section Removal

variable {state : Scheduler (Queues Timer) Timer} {node other : Node Timer}

def removalShift (state : Scheduler (Queues Timer) Timer) (node other : Node Timer) : Int :=
  if node ∈ state.lists.pending then
    let front := state.lists.pending.takeWhile (· ≠ node)
    let back := (state.lists.pending.dropWhile (· ≠ node)).tail
    (if front = [] then elapsed state else 0) -
      detourIn state.absoluteTime state.absoluteTimeOfLastTimeout node front back other
  else if state.lists.expired.head? = some node then elapsed state
  else 0

end Removal

section Insertion

variable {state : Scheduler (Queues Timer) Timer} {node other : Node Timer}

theorem mem_inserted (real : other ≠ .dummy) (pending : other ∈ state.lists.pending) :
    other ∈ (inserted node state).lists.pending := by
  unfold inserted
  split_ifs with atHead
  · rw [mem_restart real, placed, if_pos atHead]
    exact List.mem_cons_of_mem _ (Shape.mem_dropDummy pending real)
  · rw [placed, if_neg atHead]
    rw [← before_append_behind node state] at pending
    rcases List.mem_append.mp pending with here | here
    · exact List.mem_append_left _ here
    · exact List.mem_append_right _ (List.mem_cons_of_mem _ here)

end Insertion

section Creation

def RemovalReloads (state : Scheduler (Queues Timer) Timer) (node : Node Timer) : Prop :=
  state.lists.pending.head? = some node ∨
    node ∉ state.lists.pending ∧ state.lists.expired.head? = some node

instance (state : Scheduler (Queues Timer) Timer) (node : Node Timer) :
    Decidable (RemovalReloads state node) := by
  unfold RemovalReloads
  infer_instance

/-- A dummy goes before a timer that is too far when the counter is loaded for it. -/
def othersLeft (state : Scheduler (Queues Timer) Timer) (node : Node Timer) : List (Node Timer) :=
  match state.lists.pending.erase node with
  | [] => []
  | first :: rest =>
    if RemovalReloads state node ∧ state.absoluteTime first - state.absoluteTimeOfLastTimeout > 65535 then
      .dummy :: first :: rest
    else first :: rest

def arrivalTime (state : Scheduler (Queues Timer) Timer) (node : Node Timer) (timeout : UInt32) : UInt32 :=
  timeout + state.absoluteTimeOfLastTimeout +
    if RemovalReloads state node then 0 else state.count.toUInt32 - state.lastTimerLoad

/-- The times are compared from here, which is not 0 where the time of the new timer wraps. -/
def timeOrigin (state : Scheduler (Queues Timer) Timer) (node : Node Timer) (timeout : UInt32) :
    UInt32 :=
  if arrivalTime state node timeout < state.absoluteTimeOfLastTimeout then arrivalTime state node 0 else 0

def timesWithDummy (state : Scheduler (Queues Timer) Timer) : Node Timer -> UInt32 :=
  if .dummy ∈ state.lists.pending then state.absoluteTime
  else Function.update state.absoluteTime .dummy (state.absoluteTimeOfLastTimeout + 65535)

/-- The times with that of the new timer, which comes 65536 too late where it wraps. -/
def timesWith (state : Scheduler (Queues Timer) Timer) (node : Node Timer) (timeout : UInt32) :
    Node Timer -> UInt32 :=
  Function.update (timesWithDummy state) node
    (if arrivalTime state node timeout < state.absoluteTimeOfLastTimeout then
      arrivalTime state node timeout + 65536
    else arrivalTime state node timeout)

def earlier (state : Scheduler (Queues Timer) Timer) (node : Node Timer) (timeout : UInt32)
    (point : Node Timer) : Bool :=
  timesWith state node timeout point - timeOrigin state node timeout ≤
    timesWith state node timeout node - timeOrigin state node timeout

def insertionShift (state : Scheduler (Queues Timer) Timer) (node : Node Timer) (timeout : UInt32)
    (other : Node Timer) : Int :=
  let rest := othersLeft state node
  let times := timesWith state node timeout
  let last := state.absoluteTimeOfLastTimeout
  let front := rest.takeWhile (earlier state node timeout)
  let back := rest.dropWhile (earlier state node timeout)
  if front = [] then
    (if RemovalReloads state node then 0 else elapsed state) +
      detourIn times last node [] (Queues.dropDummy rest) other -
      if rest.head? = some .dummy then detourIn times last .dummy [] rest.tail other else 0
  else detourIn times last node front back other

variable {state : Scheduler (Queues Timer) Timer} {node other : Node Timer}

end Creation

section Changes

inductive Change (Timer : Type)
  | create (timer : Timer) (timeout : UInt32)
  | delete (timer : Timer)

namespace Change

def timer : Change Timer -> Timer
  | .create timer _ => timer
  | .delete timer => timer

def entry : Change Timer -> Entry Timer
  | .create timer timeout => .create timer timeout
  | .delete timer => .delete timer

/-- By how much the change puts off the expiry of another timer. -/
def shift (change : Change Timer) (state : Scheduler (Queues Timer) Timer) (other : Node Timer) :
    Int :=
  match change with
  | .create timer timeout =>
    removalShift state (.timer timer) other + insertionShift state (.timer timer) timeout other
  | .delete timer => removalShift state (.timer timer) other

def result (change : Change Timer) (state : Scheduler (Queues Timer) Timer) :
    Scheduler (Queues Timer) Timer :=
  match change with
  | .create timer timeout => created (.timer timer) timeout state
  | .delete timer => removed (.timer timer) state

variable {state : Scheduler (Queues Timer) Timer} (change : Change Timer)

end Change

section Links

variable [Fintype Timer] {linked : Scheduler (Links Timer) Timer}
  {queued : Scheduler (Queues Timer) Timer}

def Links.queues (links : Links Timer) : Queues Timer where
  pending := (points links.next (Fintype.card (Node Timer)) links.schedulerListHead).getD []
  expired := (points links.next (Fintype.card (Node Timer)) links.schedulerExecuteQueueHead).getD []

omit [DecidableEq Timer] in
theorem queues_of_represents {links : Links Timer} {queues : Queues Timer}
    (represents : Represents links queues) : links.queues = queues := by
  have pending := represents.pending
  have expired := represents.expired
  simp [Links.queues, points_path pending (path_length pending),
    points_path expired (path_length expired)]

theorem call_returns (related : Related linked queued) {callee : Entry Timer}
    {queued' : Scheduler (Queues Timer) Timer}
    (returns : Returns (Scheduler.entry callee) queued () queued') (paced' : Paced queued')
    (present : queued'.lists.pending ≠ []) :
    ∃ next events, call callee linked = some (next, events) ∧ Related next queued' := by
  obtain ⟨events, runs⟩ := returns
  obtain ⟨called, runs', related'⟩ := simulates_exec (system_simulates.program callee) related runs
  have quiet := handled_clear (paced'.clear present)
  rcases handled_follows related' (fun _ => paced') (fun enabled present =>
    absurd (paced'.clear present) (by simp [enabled.2])) with
    ⟨-, none⟩ | ⟨next, queued', more, handles, handles', related'', -⟩
  · rw [quiet] at none
    cases none
  · rw [quiet] at handles'
    obtain ⟨rfl, rfl⟩ := Prod.mk.inj (Option.some.inj handles')
    exact ⟨next, _, Option.bind_eq_some_iff.mpr ⟨_, runs', handles⟩, related''⟩

def later : List (Option (Entry Timer)) -> Scheduler (Links Timer) Timer ->
    Option (Scheduler (Links Timer) Timer)
  | [], state => some state
  | some callee :: rest, state => (call callee state).bind fun called => later rest called.1
  | none :: rest, state => (tick state).bind fun ticked => later rest ticked.1

end Links

end Changes

end AvrVoiceControl
