import AvrVoiceControl.SchedulerRuns
import Mathlib.Data.UInt

set_option autoImplicit false

namespace AvrVoiceControl

open Interrupts LinkedList

namespace Scheduler

section Clock

variable {Lists Timer : Type} [TimerLists Lists Timer] [DecidableEq Timer]

/-- The handler, at once, when its interrupt is enabled and the flag set. -/
def handled (state : Scheduler Lists Timer) :
    Option (Scheduler Lists Timer × List (SchedulerEvent Timer)) :=
  if state.interruptEnabled = true ∧ state.overflow = true then
    (rtcCntVect.exec state).map Prod.snd
  else
    some (state, [])

def tick (state : Scheduler Lists Timer) :
    Option (Scheduler Lists Timer × List (SchedulerEvent Timer)) :=
  handled (device state .tick).1

def call (callee : Entry Timer) (state : Scheduler Lists Timer) :
    Option (Scheduler Lists Timer × List (SchedulerEvent Timer)) :=
  ((entry callee).exec state).bind fun (_, called, _) => handled called

/-- The timer is moved to the execute queue at this tick, counted from now. -/
def ExpiresAfter (timer : Timer) : Nat -> Scheduler Lists Timer -> Prop
  | 0, _ => False
  | ticks + 1, state =>
    match tick state with
    | none => False
    | some (next, events) =>
      if .expired (.timer timer) ∈ events then ticks = 0 else ExpiresAfter timer ticks next

instance decidableExpiresAfter (timer : Timer) :
    ∀ (ticks : Nat) (state : Scheduler Lists Timer), Decidable (ExpiresAfter timer ticks state)
  | 0, _ => inferInstanceAs (Decidable False)
  | ticks + 1, state =>
    match ticked : tick state with
    | none => isFalse (by simp [ExpiresAfter, ticked])
    | some (next, events) =>
      have := decidableExpiresAfter timer ticks next
      decidable_of_iff
        (if .expired (.timer timer) ∈ events then ticks = 0 else ExpiresAfter timer ticks next)
        (by simp [ExpiresAfter, ticked])

end Clock

inductive Reachable {Timer : Type} [DecidableEq Timer] [Fintype Timer] :
    Scheduler (Links Timer) Timer -> Prop
  | boot (next : Node Timer -> Option (Node Timer)) (absoluteTime : Node Timer -> UInt32) :
    Reachable (boot ⟨next, none, none⟩ absoluteTime)
  | call {state next : Scheduler (Links Timer) Timer} {events : List (SchedulerEvent Timer)}
    (callee : Entry Timer) (reached : Reachable state)
    (returns : call callee state = some (next, events)) : Reachable next
  | tick {state next : Scheduler (Links Timer) Timer} {events : List (SchedulerEvent Timer)}
    (reached : Reachable state) (ticks : tick state = some (next, events)) : Reachable next

end Scheduler

open Scheduler

/-- From the load of the counter to the expiry at this distance, with a dummy for each 65535 that lie
before it. -/
def span (distance : UInt32) : Nat :=
  distance.toNat + 1 + (distance.toNat - 1) / 65535

section Queues

variable {Timer : Type} [DecidableEq Timer]

def restart (state : Scheduler (Queues Timer) Timer) : Scheduler (Queues Timer) Timer :=
  match state.lists.pending with
  | [] =>
    { state with interruptEnabled := false, absoluteTimeOfLastTimeout := 0, isRunning := false }
  | first :: _ =>
    let period := state.absoluteTime first - state.absoluteTimeOfLastTimeout
    if period > 65535 then
      { state with
        lists := { state.lists with pending := .dummy :: state.lists.pending }
        absoluteTime :=
          Function.update state.absoluteTime .dummy (state.absoluteTimeOfLastTimeout + 65535)
        lastTimerLoad := 65535 - 65535
        count := (65535 - 65535 : UInt32).toUInt16
        interruptEnabled := true
        isRunning := true }
    else
      { state with
        lastTimerLoad := 65535 - period
        count := (65535 - period).toUInt16
        interruptEnabled := true
        isRunning := true }

def restartEvents (state : Scheduler (Queues Timer) Timer) : List (SchedulerEvent Timer) :=
  match state.lists.pending with
  | [] => [.stopped]
  | _ :: _ => [.loaded]

section

variable {state : Scheduler (Queues Timer) Timer} {first : Node Timer} {rest : List (Node Timer)}

theorem restart_empty (list : state.lists.pending = []) :
    restart state =
      { state with interruptEnabled := false, absoluteTimeOfLastTimeout := 0, isRunning := false } := by
  unfold restart
  rw [list]

theorem restart_far (list : state.lists.pending = first :: rest)
    (far : state.absoluteTime first - state.absoluteTimeOfLastTimeout > 65535) :
    restart state =
      { state with
        lists := { state.lists with pending := .dummy :: state.lists.pending }
        absoluteTime :=
          Function.update state.absoluteTime .dummy (state.absoluteTimeOfLastTimeout + 65535)
        lastTimerLoad := 65535 - 65535
        count := (65535 - 65535 : UInt32).toUInt16
        interruptEnabled := true
        isRunning := true } := by
  unfold restart
  rw [list]
  exact if_pos far

theorem restart_near (list : state.lists.pending = first :: rest)
    (near : ¬ state.absoluteTime first - state.absoluteTimeOfLastTimeout > 65535) :
    restart state =
      { state with
        lastTimerLoad := 65535 - (state.absoluteTime first - state.absoluteTimeOfLastTimeout)
        count := (65535 - (state.absoluteTime first - state.absoluteTimeOfLastTimeout)).toUInt16
        interruptEnabled := true
        isRunning := true } := by
  unfold restart
  rw [list]
  exact if_neg near

end

structure Restartable (state : Scheduler (Queues Timer) Timer) : Prop where
  shape : Shape state.lists
  nearDummy : state.lists.pending.head? = some .dummy ->
    ¬ state.absoluteTime .dummy - state.absoluteTimeOfLastTimeout > 65535

variable {state : Scheduler (Queues Timer) Timer}

omit [DecidableEq Timer] in
theorem Restartable.outside (restartable : Restartable state) {first : Node Timer}
    {rest : List (Node Timer)} (list : state.lists.pending = first :: rest)
    (far : state.absoluteTime first - state.absoluteTimeOfLastTimeout > 65535) :
    first ≠ .dummy ∧ state.lists.Outside .dummy := by
  have real : first ≠ .dummy := by
    rintro rfl
    exact restartable.nearDummy (by simp [list]) far
  refine ⟨real, fun inside => ?_, restartable.shape.noDummy⟩
  have later := restartable.shape.dummyFirst
  rw [list] at inside later
  exact (List.mem_cons.mp inside).elim (fun same => real same.symm) later

omit [DecidableEq Timer] in
theorem exec_load (state : Scheduler (Queues Timer) Timer) (load : UInt32) :
    (((Program.assign fun state => { state with lastTimerLoad := load }) >>= fun _ =>
        Program.emit fun state => ({ state with count := state.lastTimerLoad.toUInt16 }, [.loaded]))
      >>= fun _ => enableInterrupt >>= fun _ =>
        .assign fun state => { state with isRunning := true }).exec state =
      some ((),
        { state with
          lastTimerLoad := load
          count := load.toUInt16
          interruptEnabled := true
          isRunning := true },
        [.loaded]) := rfl

omit [DecidableEq Timer] in
theorem exec_setTimerDuration (state : Scheduler (Queues Timer) Timer) (period : UInt32) :
    (setTimerDuration period >>= fun _ => enableInterrupt >>= fun _ =>
        Program.assign fun state => { state with isRunning := true }).exec state =
      some ((),
        { state with
          lastTimerLoad := 65535 - period
          count := (65535 - period).toUInt16
          interruptEnabled := true
          isRunning := true },
        [.loaded]) :=
  -- By the lemma about any load, so that the kernel does not compute with the numeral.
  exec_load state (65535 - period)

theorem exec_startTimerAtHead (restartable : Restartable state) :
    startTimerAtHead.exec state = some ((), restart state, restartEvents state) := by
  let masked := { state with interruptEnabled := false }
  have masks : Program.exec disableInterrupt state = some ((), masked, []) := rfl
  unfold startTimerAtHead
  rw [Program.exec_bind masks]
  cases list : state.lists.pending with
  | nil =>
    have approach : (Program.attempt approachHead).exec masked = some (none, masked, []) :=
      Program.exec_attempt (approachHead_empty list)
    rw [Program.exec_bind approach, restart_empty list]
    simp only [restartEvents, list]
    rfl
  | cons first rest =>
    have events : restartEvents state = [.loaded] := by simp [restartEvents, list]
    rw [events]
    by_cases far : state.absoluteTime first - state.absoluteTimeOfLastTimeout > 65535
    · have approach : (Program.attempt approachHead).exec masked = some _ :=
        Program.exec_attempt (approachHead_far list far (restartable.outside list far).2)
      rw [Program.exec_bind approach, restart_far list far]
      dsimp only
      rw [exec_setTimerDuration]
      rfl
    · have approach : (Program.attempt approachHead).exec masked = some _ :=
        Program.exec_attempt (approachHead_near list far)
      rw [Program.exec_bind approach, restart_near list far]
      dsimp only
      rw [exec_setTimerDuration]
      rfl

structure Paced (state : Scheduler (Queues Timer) Timer) : Prop where
  shape : Shape state.lists
  bound : state.lastTimerLoad.toNat ≤ 65535
  near : ∀ first, state.lists.pending.head? = some first ->
    ¬ state.absoluteTime first - state.absoluteTimeOfLastTimeout > 65535
  loaded : ∀ first, state.lists.pending.head? = some first ->
    state.lastTimerLoad = 65535 - (state.absoluteTime first - state.absoluteTimeOfLastTimeout)
  enabled : state.lists.pending ≠ [] -> state.interruptEnabled = true
  clear : state.lists.pending ≠ [] -> state.overflow = false
  running : state.lists.pending ≠ [] -> state.isRunning = true

omit [DecidableEq Timer] in
theorem Paced.restartable (paced : Paced state) : Restartable state :=
  ⟨paced.shape, fun head => paced.near _ head⟩

theorem add_sub_self (last distance : UInt32) : last + distance - last = distance := by
  rw [UInt32.add_comm, UInt32.add_sub_cancel]

theorem dummy_distance (absoluteTime : Node Timer -> UInt32) (last : UInt32) :
    Function.update absoluteTime .dummy (last + 65535) .dummy - last = 65535 := by
  rw [Function.update_self, add_sub_self]

theorem notFar {period : UInt32} (near : ¬ period > 65535) : period.toNat ≤ 65535 :=
  Nat.le_of_not_lt fun less => near (UInt32.lt_iff_toNat_lt.mpr less)

theorem paced_restart (restartable : Restartable state) (bound : state.lastTimerLoad.toNat ≤ 65535)
    (clear : state.lists.pending ≠ [] -> state.overflow = false) : Paced (restart state) := by
  cases list : state.lists.pending with
  | nil =>
    rw [restart_empty list]
    refine ⟨restartable.shape, bound, ?_, ?_, ?_, ?_, ?_⟩ <;> simp [list]
  | cons first rest =>
    have overflow := clear (by simp [list])
    by_cases far : state.absoluteTime first - state.absoluteTimeOfLastTimeout > 65535
    · have outside := (restartable.outside list far).2
      have period := dummy_distance state.absoluteTime state.absoluteTimeOfLastTimeout
      have near : ¬ Function.update state.absoluteTime .dummy
          (state.absoluteTimeOfLastTimeout + 65535) .dummy -
            state.absoluteTimeOfLastTimeout > 65535 := by
        rw [period]
        decide
      rw [restart_far list far]
      refine ⟨restartable.shape.pushDummy outside, Nat.zero_le _, fun node head => ?_,
        fun node head => ?_, fun _ => rfl, fun _ => overflow, fun _ => rfl⟩
      · obtain rfl : Node.dummy = node := Option.some.inj head
        exact near
      · obtain rfl : Node.dummy = node := Option.some.inj head
        exact congrArg (65535 - ·) period.symm
    · rw [restart_near list far]
      have only : ∀ node, state.lists.pending.head? = some node -> node = first := fun node head =>
        Option.some.inj (head.symm.trans (by rw [list, List.head?_cons]))
      refine ⟨restartable.shape, ?_, fun node head => ?_, fun node head => ?_, fun _ => rfl,
        fun _ => overflow, fun _ => rfl⟩
      · exact Nat.le_trans (Nat.le_of_eq (load_toNat (notFar far))) (Nat.sub_le _ _)
      · rw [only node head]
        exact far
      · rw [only node head]

theorem restart_withOverflow (overflow : Bool) :
    restart { state with overflow := overflow } = { restart state with overflow := overflow } := by
  cases list : state.lists.pending with
  | nil =>
    rw [restart_empty list]
    exact restart_empty list
  | cons first rest =>
    by_cases far : state.absoluteTime first - state.absoluteTimeOfLastTimeout > 65535
    · rw [restart_far list far]
      exact restart_far list far
    · rw [restart_near list far]
      exact restart_near list far

theorem mem_restart {node : Node Timer} (real : node ≠ .dummy) :
    node ∈ (restart state).lists.pending ↔ node ∈ state.lists.pending := by
  cases list : state.lists.pending with
  | nil => rw [restart_empty list, list]
  | cons first rest =>
    by_cases far : state.absoluteTime first - state.absoluteTimeOfLastTimeout > 65535
    · rw [restart_far list far, list]
      simp [real]
    · rw [restart_near list far, list]

def passed (state : Scheduler (Queues Timer) Timer) (first : Node Timer) (lists : Queues Timer) :
    Scheduler (Queues Timer) Timer :=
  { state with
    lists := lists
    absoluteTimeOfLastTimeout := state.absoluteTime first
    lastTimerLoad := 0 }

omit [DecidableEq Timer] in
theorem expireHead_cons {queues : Queues Timer} {first : Node Timer} {rest : List (Node Timer)}
    (list : queues.pending = first :: rest) :
    ∃ lists, queues.expireHead = some lists ∧ lists.pending = rest := by
  cases first with
  | dummy => exact ⟨{ queues with pending := rest }, by simp [Queues.expireHead, list], rfl⟩
  | timer timer =>
    exact ⟨⟨rest, queues.expired ++ [.timer timer]⟩, by simp [Queues.expireHead, list], rfl⟩

section

variable {first : Node Timer} {rest : List (Node Timer)} {lists : Queues Timer}

omit [DecidableEq Timer] in
theorem restartable_passed (shape : Shape state.lists) (list : state.lists.pending = first :: rest)
    (expires : state.lists.expireHead = some lists) (behind : lists.pending = rest) :
    Restartable (passed state first lists) where
  shape := shape.expireHead expires
  nearDummy head := by
    have later := shape.dummyFirst
    rw [list] at later
    refine absurd (List.mem_of_head? ?_) later
    simpa [passed, behind] using head

theorem exec_rtcCntVect (shape : Shape state.lists) (list : state.lists.pending = first :: rest)
    (expires : state.lists.expireHead = some lists) (behind : lists.pending = rest) :
    rtcCntVect.exec state =
      some ((), { restart (passed state first lists) with overflow := false },
        (if first = .dummy then [] else [.expired first]) ++
          restartEvents (passed state first lists)) := by
  have head : TimerLists.head state.lists .listHead = some first := by
    simp [TimerLists.head, Queues.select, list]
  have expires' : TimerLists.expireHead state.lists = some lists := expires
  unfold rtcCntVect
  rw [Program.exec_bind (@Program.exec_attempt _ _ _ _ state (passed state first lists) ()
      (if first = .dummy then [] else [.expired first]) (by simp only [head, expires']; rfl)),
    Program.exec_bind (exec_startTimerAtHead (restartable_passed shape list expires behind))]
  simp [Program.assign, Program.emit, Program.exec]

end

theorem paced_passed (shape : Shape state.lists) {first : Node Timer} {rest : List (Node Timer)}
    {lists : Queues Timer} (list : state.lists.pending = first :: rest)
    (expires : state.lists.expireHead = some lists) (behind : lists.pending = rest) :
    Paced { restart (passed state first lists) with overflow := false } := by
  rw [← restart_withOverflow]
  have restartable := restartable_passed shape list expires behind
  exact paced_restart ⟨restartable.shape, restartable.nearDummy⟩ (Nat.zero_le _) fun _ => rfl

theorem handled_clear (clear : state.overflow = false) : handled state = some (state, []) := by
  simp [handled, clear]

theorem tick_counts (clear : state.overflow = false) (below : state.count ≠ 65535) :
    tick state = some ({ state with count := state.count + 1 }, []) := by
  have ticked : (device state .tick).1 = { state with count := state.count + 1 } := by
    simp [device, clear, below]
  rw [tick, ticked]
  exact handled_clear clear

theorem tick_overflows (paced : Paced state) {first : Node Timer} {rest : List (Node Timer)}
    {lists : Queues Timer} (list : state.lists.pending = first :: rest)
    (expires : state.lists.expireHead = some lists) (behind : lists.pending = rest)
    (last : state.count = 65535) :
    tick state = some ({ restart (passed { state with count := 0 } first lists) with
        overflow := false },
      (if first = .dummy then [] else [.expired first]) ++
        restartEvents (passed state first lists)) := by
  have present : state.lists.pending ≠ [] := by simp [list]
  have ticked : (device state .tick).1 = { state with count := 0, overflow := true } := by
    simp [device, last]
  have runs := @exec_rtcCntVect _ _ { state with count := 0, overflow := true } _ _ _ paced.shape
    list expires behind
  rw [tick, ticked, handled, if_pos ⟨paced.enabled present, rfl⟩, runs]
  refine congrArg some (Prod.ext ?_ rfl)
  exact congrArg (fun after : Scheduler (Queues Timer) Timer => { after with overflow := false })
    (@restart_withOverflow _ _ (passed { state with count := 0 } first lists) true)

end Queues

end AvrVoiceControl
