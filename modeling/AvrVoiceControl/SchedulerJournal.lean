import AvrVoiceControl.SchedulerQueues

set_option autoImplicit false

namespace AvrVoiceControl

open Interrupts

structure Journal (Timer : Type) where
  -- Created and neither expired nor deleted, in the order of their creation.
  active : List (Node Timer)
  -- Expired and neither taken nor deleted, in the order of their expiry.
  queue : List (Node Timer)
  now : Nat
  -- When `scheduler_timeout_create` was called, and with which timeout.
  called : Node Timer -> Nat
  timeout : Node Timer -> Nat
  due : Node Timer -> Nat
  -- The counter was not yet loaded for the timer at the head.
  replaced : Bool
  orderly : Bool
  punctual : Bool

namespace Journal

variable {Timer : Type}

def start : Journal Timer where
  active := []
  queue := []
  now := 0
  called := fun _ => 0
  timeout := fun _ => 0
  due := fun _ => 0
  replaced := false
  orderly := true
  punctual := true

variable [DecidableEq Timer]

def without (timer : Node Timer) (list : List (Node Timer)) : List (Node Timer) :=
  list.filter (· ≠ timer)

def Orderly (journal : Journal Timer) : SchedulerEvent Timer -> Prop
  | .created timer => timer ∉ journal.active ∧ timer ∉ journal.queue
  | .deleted timer => timer ∈ journal.active ∨ timer ∈ journal.queue
  | .released timer => timer ∉ journal.active ∧ timer ∉ journal.queue
  | .expired timer => timer ∈ journal.active
  | .taken timer => journal.queue.head? = some timer
  | _ => True

def Punctual (journal : Journal Timer) : SchedulerEvent Timer -> Prop
  | .expired timer => journal.due timer ≤ journal.now
  | _ => True

instance (journal : Journal Timer) : ∀ event, Decidable (journal.Orderly event)
  | .created _ => inferInstanceAs (Decidable (_ ∧ _))
  | .deleted _ => inferInstanceAs (Decidable (_ ∨ _))
  | .released _ => inferInstanceAs (Decidable (_ ∧ _))
  | .expired _ => inferInstanceAs (Decidable (_ ∈ _))
  | .taken _ => inferInstanceAs (Decidable (_ = _))
  | .ticked | .creating _ _ | .absolute _ | .counted | .loaded | .stopped | .replaced
  | .searching _ _ | .taking _ =>
    inferInstanceAs (Decidable True)

instance (journal : Journal Timer) : ∀ event, Decidable (journal.Punctual event)
  | .expired _ => inferInstanceAs (Decidable (_ ≤ _))
  | .created _ | .deleted _ | .released _ | .taken _ | .ticked | .creating _ _ | .absolute _
  | .counted | .loaded | .stopped | .replaced | .searching _ _ | .taking _ =>
    inferInstanceAs (Decidable True)

def record (journal : Journal Timer) : SchedulerEvent Timer -> Journal Timer
  | .ticked => { journal with now := journal.now + 1 }
  | .creating timer timeout =>
    { journal with
      called := Function.update journal.called timer journal.now
      timeout := Function.update journal.timeout timer timeout.toNat }
  | .created timer =>
    { journal with
      active := journal.active ++ [timer]
      due := Function.update journal.due timer (journal.called timer + journal.timeout timer) }
  | .deleted timer =>
    { journal with
      active := without timer journal.active
      queue := without timer journal.queue }
  | .expired timer =>
    { journal with
      active := without timer journal.active
      queue := journal.queue ++ [timer] }
  | .taken _ => { journal with queue := journal.queue.tail }
  | .loaded | .stopped => { journal with replaced := false }
  | .replaced => { journal with replaced := true }
  | .released _ | .absolute _ | .counted | .searching _ _ | .taking _ => journal

def observe (journal : Journal Timer) (event : SchedulerEvent Timer) : Journal Timer :=
  { journal.record event with
    orderly := decide (journal.Orderly event) && journal.orderly
    punctual := decide (journal.Punctual event) && journal.punctual }

def after (trace : List (SchedulerEvent Timer)) : Journal Timer :=
  trace.foldl observe start

theorem observe_searching (journal : Journal Timer) (list : Selected) (timer : Node Timer) :
    journal.observe (.searching list timer) = journal := rfl

theorem observe_taking (journal : Journal Timer) (tempIE : Bool) :
    journal.observe (.taking tempIE) = journal := rfl

theorem justified_orderly {trace : List (SchedulerEvent Timer)} :
    Machine.Justified (fun before event => (after before).Orderly event) trace ↔
      (after trace).orderly = true :=
  Machine.justified_iff_noted (fun journal event => by simp [observe]) rfl trace

theorem justified_punctual {trace : List (SchedulerEvent Timer)} :
    Machine.Justified (fun before event => (after before).Punctual event) trace ↔
      (after trace).punctual = true :=
  Machine.justified_iff_noted (fun journal event => by simp [observe]) rfl trace

end Journal

end AvrVoiceControl
