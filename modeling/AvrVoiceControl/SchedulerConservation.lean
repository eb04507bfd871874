import AvrVoiceControl.SchedulerRuns

set_option autoImplicit false

namespace AvrVoiceControl

open Interrupts LinkedList Scheduler

variable {Timer : Type} [DecidableEq Timer] [Fintype Timer]

/-- The calls of the application, the interrupt while it is enabled and the list is not empty, and
any change of the counter and of its flag, as long as no absolute time wraps. -/
def conservingRules : Rules (Scheduler (Links Timer) Timer) (SchedulerEvent Timer) (Entry Timer)
    Input (Journal Timer) where
  system := Scheduler.system
  observe := Journal.observe
  calls _ entry := ∀ bound, entry ≠ .flushAll bound
  inputs _ _ := True
  interrupts config :=
    config.2.interruptEnabled = true ∧ config.2.lists.schedulerListHead ≠ none
  effects _ events := InRange events

/-- What the links of the two lists and the times of the timers are, after the events of a
journal. -/
structure Conserved (journal : Journal Timer) (state : Scheduler (Links Timer) Timer)
    (pending expired : List (Node Timer)) : Prop where
  path : Path state.lists.next state.lists.schedulerListHead pending
  queuePath : Path state.lists.next state.lists.schedulerExecuteQueueHead expired
  once : (pending ++ expired).Nodup
  dummyFirst : .dummy ∉ pending.tail
  noDummy : .dummy ∉ expired
  sorted : pending.Pairwise (Before journal.active state.absoluteTime)
  active : ∀ timer, .timer timer ∈ pending ↔ .timer timer ∈ journal.active
  queue : expired = journal.queue

instance (config : Journal Timer × Scheduler (Links Timer) Timer) (entry : Entry Timer) :
    Decidable (conservingRules.calls config entry) :=
  match entry with
  | .flushAll bound => isFalse fun other => other bound rfl
  | .create _ _ | .delete _ | .callNextCallback | .callbackReturns _ =>
    isTrue fun _ same => by cases same

instance (config : Journal Timer × Scheduler (Links Timer) Timer) (input : Input) :
    Decidable (conservingRules.inputs config input) :=
  inferInstanceAs (Decidable True)

instance (config : Journal Timer × Scheduler (Links Timer) Timer) :
    Decidable (conservingRules.interrupts config) :=
  inferInstanceAs (Decidable (_ ∧ _))

instance (config : Journal Timer × Scheduler (Links Timer) Timer)
    (events : List (SchedulerEvent Timer)) : Decidable (conservingRules.effects config events) :=
  inferInstanceAs (Decidable (InRange events))

theorem transfers_conserving :
    Transfers Related (conservingRules : Rules _ _ (Entry Timer) _ _) (rules ⟨True, False⟩) where
  system := system_simulates
  observe := rfl
  calls _ _ _ _ _ allowed _ := allowed
  inputs _ _ _ _ _ _ timed := timed.elim
  interrupts _ linked queued related allowed := by
    obtain ⟨enabled, present⟩ := allowed
    rw [head_of_related related, ne_eq, List.head?_eq_none_iff] at present
    obtain ⟨queues, -, rfl⟩ := related
    exact ⟨enabled, present, fun timed => timed.elim⟩
  effects _ _ _ _ _ range := ⟨fun _ => range, fun timed => timed.elim⟩
  silent _ := ⟨fun _ _ inside => absurd inside List.not_mem_nil, fun timed => timed.elim⟩

omit [DecidableEq Timer] [Fintype Timer] in
theorem conserved_of_always {journal : Journal Timer} {linked : Scheduler (Links Timer) Timer}
    {queued : Scheduler (Queues Timer) Timer} (related : Related linked queued)
    (always : Always ⟨True, False⟩ (journal, queued)) :
    Conserved journal linked queued.lists.pending queued.lists.expired := by
  obtain ⟨queues, represents, rfl⟩ := related
  obtain ⟨shape, -, -, tracked, -⟩ := always
  obtain ⟨same, -, -, fifo, sorted, -, -⟩ := tracked trivial
  refine ⟨represents.path .listHead, represents.path .executeQueueHead, ?_, shape.dummyFirst,
    shape.noDummy, sorted, fun timer => same _ (by simp), fifo⟩
  exact List.nodup_append'.mpr ⟨shape.pending, shape.expired, shape.apart⟩

theorem scheduler_conserves (next : Node Timer -> Option (Node Timer))
    (absoluteTime : Node Timer -> UInt32) {actions : List (Action (Entry Timer) Input)}
    (guarded : Machine.Guarded conservingRules.step conservingRules.Allows
      (powerUp next absoluteTime) actions) :
    let ran := Machine.run conservingRules.step (powerUp next absoluteTime) actions
    Machine.Justified (fun before event => (Journal.after before).Orderly event) ran.2 ∧
      ∃ pending expired, Conserved (Journal.after ran.2) ran.1.1.state pending expired := by
  intro ran
  obtain ⟨queued, related, always⟩ := run_always transfers_conserving guarded
  have conserved := conserved_of_always related always
  obtain ⟨-, -, -, tracked, -⟩ := always
  exact ⟨Journal.justified_orderly.mpr (tracked trivial).orderly, _, _, conserved⟩

theorem scheduler_conserves_rescheduled :
    let actions : List (Action (Entry Bool) Input) :=
      [.call (.create true 70000)] ++ List.replicate 30 .execute ++
      [.input .tick, .call (.create false 5)] ++ List.replicate 30 .execute ++
      [.input (.hardware 0 true), .interrupt] ++ List.replicate 15 .execute ++
      [.call .callNextCallback] ++ List.replicate 8 .execute ++
      [.call (.callbackReturns 9)] ++ List.replicate 30 .execute ++
      [.call (.delete true)] ++ List.replicate 15 .execute
    let ran := Machine.run conservingRules.step (powerUp (fun _ => none) fun _ => 0) actions
    Machine.Justified (fun before event => (Journal.after before).Orderly event) ran.2 ∧
      ∃ pending expired, Conserved (Journal.after ran.2) ran.1.1.state pending expired :=
  scheduler_conserves _ _ (by decide +kernel)

end AvrVoiceControl
