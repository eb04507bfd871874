import AvrVoiceControl.Library.Interrupts
import AvrVoiceControl.Library.LinkedList
import Mathlib.Data.Fintype.Sum
import Mathlib.Tactic.DeriveFintype
import Mathlib.Algebra.Group.Int.Defs

set_option autoImplicit false

namespace AvrVoiceControl

open Interrupts LinkedList

/-- What a `timer_struct_t *` other than NULL points to: a timer of the application or
`scheduler_dummy`. -/
inductive Node (Timer : Type)
  | timer (timer : Timer)
  | dummy
  deriving DecidableEq, Fintype

instance {Timer : Type} [DecidableEq Timer] : LawfulBEq (Node Timer) := inferInstance

inductive Selected
  | listHead
  | executeQueueHead
  deriving DecidableEq

inductive Removal
  | head
  | inside
  | absent
  deriving DecidableEq

/-- What the scheduler does with its two lists, a fault being `none`. -/
class TimerLists (Lists : Type) (Timer : outParam Type) where
  head : Lists -> Selected -> Option (Node Timer)
  clearNext : Node Timer -> Lists -> Lists
  deleteFrom : Selected -> Node Timer -> Lists -> Option (Removal × Lists)
  pushDummy : Lists -> Option Lists
  -- The points of the list, for the loop that rebases them.
  points : Lists -> Option (List (Node Timer))
  -- `true` when the timer belongs at the head, where it is not linked yet.
  search : (Node Timer -> Bool) -> Node Timer -> Lists -> Option (Bool × Lists)
  linkHead : Node Timer -> Lists -> Option Lists
  expireHead : Lists -> Option Lists
  takeExpired : Lists -> Option (Node Timer × Lists)

structure Links (Timer : Type) where
  next : Node Timer -> Option (Node Timer)
  schedulerListHead : Option (Node Timer)
  schedulerExecuteQueueHead : Option (Node Timer)

namespace Links

variable {Timer : Type}

def head (links : Links Timer) : Selected -> Option (Node Timer)
  | .listHead => links.schedulerListHead
  | .executeQueueHead => links.schedulerExecuteQueueHead

def setHead (links : Links Timer) (point : Option (Node Timer)) : Selected -> Links Timer
  | .listHead => { links with schedulerListHead := point }
  | .executeQueueHead => { links with schedulerExecuteQueueHead := point }

@[simp] theorem head_setHead_self (links : Links Timer) (point : Option (Node Timer))
    (which : Selected) : (links.setHead point which).head which = point := by
  cases which <;> rfl

theorem head_setHead_of_ne (links : Links Timer) (point : Option (Node Timer))
    {which other : Selected} (ne : other ≠ which) :
    (links.setHead point which).head other = links.head other := by
  cases which <;> cases other <;> first | rfl | exact absurd rfl ne

@[simp] theorem setHead_next (links : Links Timer) (point : Option (Node Timer))
    (which : Selected) : (links.setHead point which).next = links.next := by
  cases which <;> rfl

variable [DecidableEq Timer]

def setNext (point : Node Timer) (link : Option (Node Timer)) (links : Links Timer) : Links Timer :=
  { links with next := Function.update links.next point link }

def pushDummy (links : Links Timer) : Links Timer :=
  { links.setNext .dummy links.schedulerListHead with schedulerListHead := some .dummy }

def linkHead (timer : Node Timer) (links : Links Timer) : Links Timer :=
  let rest :=
    if links.schedulerListHead = some .dummy then links.next .dummy else links.schedulerListHead
  { links.setNext timer rest with schedulerListHead := some timer }

def takeExpired (links : Links Timer) : Option (Node Timer × Links Timer) := do
  let callbackTimer ← links.schedulerExecuteQueueHead
  let links := { links with schedulerExecuteQueueHead := links.next callbackTimer }
  return (callbackTimer, links.setNext callbackTimer none)

variable [Fintype Timer]

def deleteFrom (list : Selected) (timer : Node Timer) (links : Links Timer) :
    Option (Removal × Links Timer) :=
  if links.head list = some timer then
    some (.head, links.setHead (links.next timer) list)
  else
    match walk links.next (· == timer) (Fintype.card (Node Timer)) none (links.head list) with
    | some (some prevTimer, some findTimer) =>
      some (.inside, links.setNext prevTimer (links.next findTimer))
    | some (_, none) => some (.absent, links)
    | _ => none

def search (later : Node Timer -> Bool) (timer : Node Timer) (links : Links Timer) :
    Option (Bool × Links Timer) :=
  -- `at_head` stays 1 when the loop ends before `prev_point` is set.
  match walk links.next later (Fintype.card (Node Timer)) none links.schedulerListHead with
  | some (some prevPoint, _) =>
    some (false, (links.setNext timer (links.next prevPoint)).setNext prevPoint (some timer))
  | some (none, _) => some (true, links)
  | none => none

def enqueueCallback (timer : Node Timer) (links : Links Timer) : Option (Links Timer) :=
  let links := links.setNext timer none
  match links.schedulerExecuteQueueHead with
  | none => some { links with schedulerExecuteQueueHead := some timer }
  | some tmp =>
    match walk links.next (fun tmp => (links.next tmp).isNone) (Fintype.card (Node Timer)) none
      (some tmp) with
    | some (_, some tmp) => some (links.setNext tmp (some timer))
    | _ => none

def expireHead (links : Links Timer) : Option (Links Timer) := do
  let first ← links.schedulerListHead
  let next := links.next first
  let links ← if first ≠ .dummy then links.enqueueCallback first else some links
  return { links with schedulerListHead := next }

instance : TimerLists (Links Timer) Timer where
  head := head
  clearNext timer links := links.setNext timer none
  deleteFrom := deleteFrom
  pushDummy links := some links.pushDummy
  points links := points links.next (Fintype.card (Node Timer)) links.schedulerListHead
  search := search
  linkHead timer links := some (links.linkHead timer)
  expireHead := expireHead
  takeExpired := takeExpired

end Links

/-- The variables of rtc.c and the registers of the RTC. -/
structure Scheduler (Lists Timer : Type) where
  lists : Lists
  absoluteTime : Node Timer -> UInt32
  absoluteTimeOfLastTimeout : UInt32
  lastTimerLoad : UInt32
  isRunning : Bool
  -- RTC.CNT, and the overflow bits of RTC.INTFLAGS and RTC.INTCTRL.
  count : UInt16
  overflow : Bool
  interruptEnabled : Bool
  -- The timers whose callbacks have not returned.
  callbacks : List Timer

inductive SchedulerEvent (Timer : Type)
  | ticked
  | creating (timer : Node Timer) (timeout : UInt32)
  | created (timer : Node Timer)
  | deleted (timer : Node Timer)
  -- `scheduler_timeout_delete` is about to return.
  | released (timer : Node Timer)
  | expired (timer : Node Timer)
  | taken (timer : Node Timer)
  -- What an absolute time would be in unbounded arithmetic.
  | absolute (exact : Int)
  | counted
  | loaded
  | stopped
  -- Another timer is at the head than the counter was loaded for.
  | replaced
  -- The interrupt is off for the search of a list, or to take the first expired timer.
  | searching (list : Selected) (timer : Node Timer)
  | taking (tempIE : Bool)
  deriving DecidableEq

namespace Scheduler

variable {Lists Timer : Type} [TimerLists Lists Timer] [DecidableEq Timer]

abbrev Code (Lists Timer Result : Type) :=
  Program (Scheduler Lists Timer) (SchedulerEvent Timer) Result

/-
A statement of the model is a statement of rtc.c that touches a register of the RTC, or that runs
with the interrupt enabled, or a stretch between two such that only touches memory: with the
interrupt off, or inside the handler, nobody else reads or writes that memory.
-/

def maskInterrupt (events : List (SchedulerEvent Timer)) : Code Lists Timer Unit :=
  .emit fun state => ({ state with interruptEnabled := false }, events)

def disableInterrupt : Code Lists Timer Unit := maskInterrupt []

def enableInterrupt : Code Lists Timer Unit :=
  .assign fun state => { state with interruptEnabled := true }

def stopTimeouts : Code Lists Timer Unit := do
  disableInterrupt
  .emit fun state =>
    ({ state with absoluteTimeOfLastTimeout := 0, isRunning := false }, [.stopped])

def setTimerDuration (duration : UInt32) : Code Lists Timer Unit := do
  .assign fun state => { state with lastTimerLoad := 65535 - duration }
  -- The wait for the clock domain only lets ticks pass.
  .emit fun state => ({ state with count := state.lastTimerLoad.toUInt16 }, [.loaded])

def makeAbsolute (timeout : UInt32) : Code Lists Timer UInt32 := do
  let last ← .read (·.absoluteTimeOfLastTimeout)
  if ← .read (·.isRunning) then
    let count ← .report fun state => (state.count, [.counted])
    let timerVal : UInt32 ← .read fun state => if state.overflow then 65535 else count.toUInt32
    .report fun state =>
      (timeout + last + (timerVal - state.lastTimerLoad),
        [.absolute (timeout.toNat + last.toNat + timerVal.toNat - state.lastTimerLoad.toNat)])
  else
    .report fun _ => (timeout + last, [.absolute (timeout.toNat + last.toNat)])

def subtractBase (base : UInt32) (nodes : List (Node Timer)) (absoluteTime : Node Timer -> UInt32) :
    Node Timer -> UInt32 :=
  nodes.foldl
    (fun times node => Function.update times node (times node - base)) absoluteTime

def rebaseList : Code Lists Timer UInt32 := do
  let base ← makeAbsolute 0
  .attempt fun state => do
    let nodes ← TimerLists.points state.lists
    return ((),
      { state with
        absoluteTime := subtractBase base nodes state.absoluteTime
        absoluteTimeOfLastTimeout := state.absoluteTimeOfLastTimeout - base },
      .absolute (state.absoluteTimeOfLastTimeout.toNat - base.toNat) ::
        nodes.map fun node => .absolute ((state.absoluteTime node).toNat - base.toNat))
  return base

/-- The first branch of `scheduler_sorted_insert`. -/
def rebaseFor (timer : Node Timer) (timerAbsoluteTime : UInt32) : Code Lists Timer Unit := do
  if timerAbsoluteTime < (← .read (·.absoluteTimeOfLastTimeout)) then
    let base ← rebaseList
    .emit fun state =>
      ({ state with
        absoluteTime := Function.update state.absoluteTime timer
          (timerAbsoluteTime + (65535 - base + 1)) },
      [.absolute (timerAbsoluteTime.toNat + 65536 - base.toNat)])

def sortedInsert (timer : Node Timer) : Code Lists Timer Bool := do
  let timerAbsoluteTime ← .read (·.absoluteTime timer)
  .assign fun state => { state with lists := TimerLists.clearNext timer state.lists }
  rebaseFor timer timerAbsoluteTime
  let atHead ← .attempt fun state => do
    let later := fun point => decide (state.absoluteTime point > state.absoluteTime timer)
    let (atHead, lists) ← TimerLists.search later timer state.lists
    return (atHead, { state with lists := lists }, if atHead then [] else [.created timer])
  if atHead then
    setTimerDuration 65535
    .assign fun state => { state with overflow := false }
    .attempt fun state => do
      let lists ← TimerLists.linkHead timer state.lists
      return (true, { state with lists := lists }, [.created timer, .replaced])
  else
    return false

/-- The timer at the head, behind a dummy when it is too far; the result is its period. -/
def approachHead (state : Scheduler Lists Timer) :
    Option (Option UInt32 × Scheduler Lists Timer × List (SchedulerEvent Timer)) :=
  match TimerLists.head state.lists .listHead with
  | none => some (none, state, [])
  | some head => do
    let period := state.absoluteTime head - state.absoluteTimeOfLastTimeout
    if period > 65535 then
      let lists ← TimerLists.pushDummy state.lists
      return (some 65535,
        { state with
          lists := lists
          absoluteTime := Function.update state.absoluteTime .dummy
            (state.absoluteTimeOfLastTimeout + 65535) },
        [])
    else
      return (some period, state, [])

def startTimerAtHead : Code Lists Timer Unit := do
  disableInterrupt
  match ← .attempt approachHead with
  | none => stopTimeouts
  | some period =>
    setTimerDuration period
    enableInterrupt
    .assign fun state => { state with isRunning := true }

def afterRemoval (removal : Removal) : Code Lists Timer Unit :=
  if removal = .head then startTimerAtHead else enableInterrupt

def timeoutDeleteHelper (list : Selected) (timer : Node Timer) : Code Lists Timer Bool := do
  if ← .read fun state => (TimerLists.head state.lists list).isNone then
    return false
  else
    maskInterrupt [.searching list timer]
    let removal ← .attempt fun state => do
      let (removal, lists) ← TimerLists.deleteFrom list timer state.lists
      let replaced := if removal = .head ∧ list = .listHead then [.replaced] else []
      return (removal, { state with lists := lists },
        if removal = .absent then [] else .deleted timer :: replaced)
    afterRemoval removal
    return removal ≠ .absent

def deleteFromLists (timer : Node Timer) : Code Lists Timer Unit := do
  if ← timeoutDeleteHelper .listHead timer then
    pure ()
  else
    discard (timeoutDeleteHelper .executeQueueHead timer)

def timeoutDelete (timer : Node Timer) : Code Lists Timer Unit := do
  deleteFromLists timer
  .emit fun state =>
    ({ state with lists := TimerLists.clearNext timer state.lists }, [.released timer])

def timeoutCreate (timer : Node Timer) (timeout : UInt32) : Code Lists Timer Unit := do
  .emit fun state => (state, [.creating timer timeout])
  timeoutDelete timer
  disableInterrupt
  let absoluteTime ← makeAbsolute timeout
  .assign fun state =>
    { state with absoluteTime := Function.update state.absoluteTime timer absoluteTime }
  if ← sortedInsert timer then
    startTimerAtHead
  else if ← .read (·.isRunning) then
    enableInterrupt

def restoreInterrupt (tempIE : Bool) : Code Lists Timer Unit :=
  if tempIE then enableInterrupt else pure ()

def callCallback : Node Timer -> Code Lists Timer Unit
  | .timer timer => .assign fun state => { state with callbacks := timer :: state.callbacks }
  -- `scheduler_dummy_handler` returns 0.
  | .dummy => pure ()

/-- Up to the call of the callback, which main then runs. -/
def timeoutCallNextCallback : Code Lists Timer Unit := do
  if ← .read fun state => (TimerLists.head state.lists .executeQueueHead).isNone then
    return
  else
    let tempIE ← .read (·.interruptEnabled)
    maskInterrupt [.taking tempIE]
    let callbackTimer ← .attempt fun state => do
      let (callbackTimer, lists) ← TimerLists.takeExpired state.lists
      return (callbackTimer, { state with lists := lists }, [.taken callbackTimer])
    restoreInterrupt tempIE
    callCallback callbackTimer

def callbackReturns (reschedule : UInt32) : Code Lists Timer Unit := do
  match ← .read (·.callbacks.head?) with
  | none => pure ()
  | some timer =>
    .assign fun state => { state with callbacks := state.callbacks.tail }
    if reschedule ≠ 0 then
      timeoutCreate (.timer timer) reschedule
    else
      pure ()

def flushLoop (list : Selected) : Nat -> Code Lists Timer Unit
  -- A run is a finite one, so some bound on the turns of the loop is not reached in it.
  | 0 => .spin
  | bound + 1 => do
    match ← .read fun state => TimerLists.head state.lists list with
    | none => pure ()
    | some timer =>
      timeoutDelete timer
      flushLoop list bound

def timeoutFlushAll (bound : Nat) : Code Lists Timer Unit := do
  stopTimeouts
  flushLoop .listHead bound
  flushLoop .executeQueueHead bound

def rtcCntVect : Code Lists Timer Unit := do
  .attempt fun state => do
    let head ← TimerLists.head state.lists .listHead
    let lists ← TimerLists.expireHead state.lists
    return ((),
      { state with
        lists := lists
        absoluteTimeOfLastTimeout := state.absoluteTime head
        lastTimerLoad := 0 },
      if head = .dummy then [] else [.expired head])
  startTimerAtHead
  .assign fun state => { state with overflow := false }

inductive Entry (Timer : Type)
  | create (timer : Timer) (timeout : UInt32)
  | delete (timer : Timer)
  | callNextCallback
  | callbackReturns (reschedule : UInt32)
  | flushAll (bound : Nat)

inductive Input
  | tick
  -- The counter and its flag change without regard to one another.
  | hardware (count : UInt16) (overflow : Bool)

def device (state : Scheduler Lists Timer) :
    Input -> Scheduler Lists Timer × List (SchedulerEvent Timer)
  | .tick =>
    ({ state with count := state.count + 1, overflow := state.overflow || state.count = 65535 },
      [.ticked])
  | .hardware count overflow => ({ state with count := count, overflow := overflow }, [])

def entry : Entry Timer -> Code Lists Timer Unit
  | .create timer timeout => timeoutCreate (.timer timer) timeout
  | .delete timer => timeoutDelete (.timer timer)
  | .callNextCallback => timeoutCallNextCallback
  | .callbackReturns reschedule => callbackReturns reschedule
  | .flushAll bound => timeoutFlushAll bound

def system : System (Scheduler Lists Timer) (SchedulerEvent Timer) (Entry Timer) Input where
  program := entry
  handler := rtcCntVect
  device := device

def boot (lists : Lists) (absoluteTime : Node Timer -> UInt32) : Scheduler Lists Timer where
  lists := lists
  absoluteTime := absoluteTime
  absoluteTimeOfLastTimeout := 0
  lastTimerLoad := 0
  isRunning := false
  count := 0
  overflow := false
  interruptEnabled := true
  callbacks := []

end Scheduler

end AvrVoiceControl
