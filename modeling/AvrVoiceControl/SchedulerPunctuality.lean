import AvrVoiceControl.SchedulerRuns

set_option autoImplicit false

namespace AvrVoiceControl

open Interrupts LinkedList Scheduler

variable {Timer : Type} [DecidableEq Timer] [Fintype Timer]

/-- Calls of the application, and ticks of the clock wherever they fall, as long as no absolute time
wraps. -/
def tickingRules : Rules (Scheduler (Links Timer) Timer) (SchedulerEvent Timer) (Entry Timer)
    Input (Journal Timer) where
  system := Scheduler.system
  observe := Journal.observe
  calls _ _ := True
  inputs _ input := input = .tick
  interrupts config := config.2.interruptEnabled = true ∧ config.2.overflow = true
  effects _ events := InRange events

/-- The handler runs as soon as the flag is set and the interrupt enabled. -/
def Prompt (state : Processor (Scheduler (Links Timer) Timer) (SchedulerEvent Timer) ×
    Journal Timer) : Action (Entry Timer) Input -> Prop
  | .interrupt => True
  | _ => state.1.handler.isNone = true -> ¬ tickingRules.interrupts (state.2, state.1.state)

/-- Where the flag, the counter and the list belong together: the counter is not loaded for another
timer with the overflow of the last one pending, it is not read after an overflow that was
cleared, and the handler finds a timer. -/
def steadyRules : Rules (Scheduler (Links Timer) Timer) (SchedulerEvent Timer) (Entry Timer)
    Input (Journal Timer) where
  system := Scheduler.system
  observe := Journal.observe
  calls := tickingRules.calls
  inputs := tickingRules.inputs
  interrupts config :=
    tickingRules.interrupts config ∧ config.2.lists.schedulerListHead ≠ none
  effects config events :=
    tickingRules.effects config events ∧ ReloadsClear config events ∧ CountsOn config events

section Decidable

variable (config : Journal Timer × Scheduler (Links Timer) Timer)

instance (entry : Entry Timer) : Decidable (tickingRules.calls config entry) :=
  inferInstanceAs (Decidable True)

instance : ∀ input, Decidable (tickingRules.inputs config input)
  | .tick => isTrue rfl
  | .hardware _ _ => isFalse fun same => by cases same

instance : Decidable (tickingRules.interrupts config) :=
  inferInstanceAs (Decidable (_ ∧ _))

instance (events : List (SchedulerEvent Timer)) : Decidable (tickingRules.effects config events) :=
  inferInstanceAs (Decidable (InRange events))

instance (entry : Entry Timer) : Decidable (steadyRules.calls config entry) :=
  inferInstanceAs (Decidable True)

instance (input : Input) : Decidable (steadyRules.inputs config input) :=
  inferInstanceAs (Decidable (tickingRules.inputs config input))

instance : Decidable (steadyRules.interrupts config) :=
  inferInstanceAs (Decidable (_ ∧ _))

instance (events : List (SchedulerEvent Timer)) : Decidable (ReloadsClear config events) :=
  inferInstanceAs (Decidable (_ -> _ -> _))

instance (events : List (SchedulerEvent Timer)) : Decidable (CountsOn config events) :=
  inferInstanceAs (Decidable (_ -> _))

instance (events : List (SchedulerEvent Timer)) : Decidable (steadyRules.effects config events) :=
  inferInstanceAs (Decidable (_ ∧ _ ∧ _))

instance (state : Processor (Scheduler (Links Timer) Timer) (SchedulerEvent Timer) ×
    Journal Timer) : ∀ action, Decidable (Prompt state action)
  | .interrupt => inferInstanceAs (Decidable True)
  | .call _ | .execute | .input _ => inferInstanceAs (Decidable (_ -> ¬ _))

end Decidable

theorem transfers_steady :
    Transfers Related (steadyRules : Rules _ _ (Entry Timer) _ _) (rules ⟨False, True⟩) where
  system := system_simulates
  observe := rfl
  calls _ _ _ _ _ _ conserves := conserves.elim
  inputs _ _ _ _ _ ticks _ := ticks
  interrupts _ linked queued related allowed := by
    obtain ⟨⟨enabled, overflow⟩, present⟩ := allowed
    rw [head_of_related related, ne_eq, List.head?_eq_none_iff] at present
    obtain ⟨queues, -, rfl⟩ := related
    exact ⟨enabled, present, fun _ => overflow⟩
  effects _ linked queued _ related allowed := by
    obtain ⟨range, reloads, counts⟩ := allowed
    obtain ⟨queues, -, rfl⟩ := related
    exact ⟨fun _ => range, fun _ => ⟨reloads, counts⟩⟩
  silent config := ⟨fun _ _ inside => absurd inside List.not_mem_nil, fun _ =>
    ⟨fun inside => absurd inside List.not_mem_nil, fun inside => absurd inside List.not_mem_nil⟩⟩

theorem scheduler_punctual (next : Node Timer -> Option (Node Timer))
    (absoluteTime : Node Timer -> UInt32) {actions : List (Action (Entry Timer) Input)}
    (guarded : Machine.Guarded steadyRules.step steadyRules.Allows (powerUp next absoluteTime)
      actions) :
    Machine.Justified (fun before event => (Journal.after before).Punctual event)
      (Machine.run steadyRules.step (powerUp next absoluteTime) actions).2 := by
  obtain ⟨queued, -, always⟩ := run_always transfers_steady guarded
  obtain ⟨-, -, -, -, timely⟩ := always
  exact Journal.justified_punctual.mpr (timely trivial).punctual

theorem scheduler_punctual_expiry :
    let actions : List (Action (Entry Bool) Input) :=
      [.call (.create true 3)] ++ List.replicate 12 .execute ++ [.input .tick] ++
      List.replicate 18 .execute ++ [.call (.create false 1)] ++ List.replicate 30 .execute ++
      [.input .tick, .input .tick, .interrupt] ++ List.replicate 15 .execute
    Machine.Justified (fun before event => (Journal.after before).Punctual event)
      (Machine.run steadyRules.step (powerUp (fun _ => none) fun _ => 0) actions).2 :=
  scheduler_punctual _ _ (by decide +kernel)

def deletedAtExpiry : List (Action (Entry Bool) Input) :=
  [.call (.create true 1)] ++ List.replicate 30 .execute ++
  [.call (.create false 100)] ++ List.replicate 30 .execute ++
  [.call (.delete true), .execute, .execute, .input .tick, .input .tick] ++
  -- Up to the interrupt enable in `scheduler_start_timer_at_head`.
  List.replicate 6 .execute ++ [.interrupt, .execute]

theorem not_scheduler_punctual :
    ¬ ∀ (next : Node Bool -> Option (Node Bool)) (absoluteTime : Node Bool -> UInt32)
      (actions : List (Action (Entry Bool) Input)),
      Machine.Guarded tickingRules.step
        (fun state action => tickingRules.Allows state action ∧ Prompt state action)
        (powerUp next absoluteTime) actions ->
      Machine.Justified (fun before event => (Journal.after before).Punctual event)
        (Machine.run tickingRules.step (powerUp next absoluteTime) actions).2 := by
  intro punctual
  have early := punctual (fun _ => none) (fun _ => 0) deletedAtExpiry (by decide +kernel)
  rw [Journal.justified_punctual] at early
  exact absurd early (by decide +kernel)

end AvrVoiceControl
