import AvrVoiceControl.SchedulerCalls

set_option autoImplicit false

namespace AvrVoiceControl

open Interrupts Interrupts.Program LinkedList Scheduler

variable {Timer : Type} [DecidableEq Timer]

section Deletion

variable {state : Scheduler (Queues Timer) Timer} {node : Node Timer} {which : Selected}

theorem restart_pending :
    (restart state).lists.pending = state.lists.pending ∨
      state.lists.pending ≠ [] ∧ (restart state).lists.pending = .dummy :: state.lists.pending := by
  cases list : state.lists.pending with
  | nil =>
    rw [restart_empty list]
    exact .inl list
  | cons first rest =>
    by_cases far : state.absoluteTime first - state.absoluteTimeOfLastTimeout > 65535
    next =>
      rw [restart_far list far, ← list]
      exact .inr ⟨by simp [list], rfl⟩
    next =>
      rw [restart_near list far]
      exact .inl list

theorem restart_stops (empty : (restart state).lists.pending = []) :
    (restart state).isRunning = false ∧ (restart state).interruptEnabled = false := by
  cases list : state.lists.pending with
  | nil =>
    rw [restart_empty list]
    exact ⟨rfl, rfl⟩
  | cons first rest =>
    by_cases far : state.absoluteTime first - state.absoluteTimeOfLastTimeout > 65535
    next =>
      rw [restart_far list far] at empty
      cases empty
    next =>
      rw [restart_near list far] at empty
      exact absurd (list.symm.trans empty) (List.cons_ne_nil _ _)

theorem returns_deleteFirst (shape : Shape state.lists)
    (first : (state.lists.select which).head? = some node)
    (alone : which = .executeQueueHead -> state.lists.pending = []) :
    Returns (timeoutDelete node) state () (removed node state) ∧
      removedFromLists node state =
        restart { state with lists := (state.lists.deleteFrom which node).2 } ∧
      Restartable { state with lists := (state.lists.deleteFrom which node).2 } := by
  have restartable : Restartable { state with lists := (state.lists.deleteFrom which node).2 } := by
    apply restartable_deleteFrom shape first
    intro expired head
    simp [alone expired] at head
  have inside : node ∈ state.lists.select which := List.mem_of_head? first
  have helper := @returns_timeoutDeleteHelper _ _ state which node fun _ => restartable
  rw [decide_eq_true inside] at helper
  have restarts : removedFrom which node state =
      restart { state with lists := (state.lists.deleteFrom which node).2 } := by
    rw [removedFrom, if_pos first]
  cases which with
  | listHead =>
    have found : removedFromLists node state = removedFrom .listHead node state := if_pos inside
    refine ⟨?_, found.trans restarts, restartable⟩
    rw [removed, found]
    exact returns_bind (returns_bind helper (returns_done _ _)) (returns_emit _ _)
  | executeQueueHead =>
    have empty : state.lists.select .listHead = [] := alone rfl
    have skipped : removedFrom .listHead node state = state := by simp [removedFrom, empty]
    have missing := @returns_timeoutDeleteHelper _ _ state .listHead node (by simp [empty])
    have absent : node ∉ state.lists.pending := by simp [alone rfl]
    have found : removedFromLists node state = removedFrom .executeQueueHead node state := by
      rw [removedFromLists, if_neg absent, skipped]
    rw [skipped, decide_eq_false (by simp [empty])] at missing
    refine ⟨?_, found.trans restarts, restartable⟩
    rw [removed, found]
    exact returns_bind (returns_bind missing (returns_bind helper (returns_done _ _)))
      (returns_emit _ _)

end Deletion

section Loops

variable {state : Scheduler (Queues Timer) Timer} {first : Node Timer}

/-- How often the head of the list can be deleted: a timer may leave a dummy in its place. -/
def turns (list : List (Node Timer)) : Nat :=
  (list.map fun node => if node = .dummy then 1 else 2).sum

theorem turns_cons (node : Node Timer) (rest : List (Node Timer)) :
    turns (node :: rest) = (if node = .dummy then 1 else 2) + turns rest := by
  simp [turns]

@[simp] theorem turns_nil : turns ([] : List (Node Timer)) = 0 := rfl

theorem turns_pos {list : List (Node Timer)} (present : list ≠ []) : 0 < turns list := by
  obtain ⟨node, rest, rfl⟩ := List.exists_cons_of_ne_nil present
  rw [turns_cons]
  split <;> omega

theorem turns_le (list : List (Node Timer)) : turns list ≤ 2 * list.length := by
  induction list with
  | nil => simp
  | cons node rest ih =>
    rw [turns_cons, List.length_cons]
    split <;> omega

theorem turns_prefix {front list : List (Node Timer)} (first : front <+: list) :
    turns front ≤ turns list := by
  obtain ⟨back, rfl⟩ := first
  simp [turns]

structure Flushing (state : Scheduler (Queues Timer) Timer) : Prop where
  shape : Shape state.lists
  stopped : state.lists.pending = [] -> state.isRunning = false ∧ state.interruptEnabled = false

theorem flushing_removed {which : Selected} (shape : Shape state.lists)
    (head : (state.lists.select which).head? = some first)
    (alone : which = .executeQueueHead -> state.lists.pending = []) :
    Flushing (removed first state) := by
  obtain ⟨-, restarts, restartable⟩ := returns_deleteFirst shape head alone
  have cleared : (removed first state).lists = (removedFromLists first state).lists.clearNext first :=
    rfl
  constructor
  next =>
    rw [cleared, restarts]
    exact (restartable_restart restartable).shape.clearNext first
  next =>
    intro empty
    have same := cutAfter_head first (removedFromLists first state).lists.pending
    have empty' : cutAfter first (removedFromLists first state).lists.pending = [] := empty
    rw [empty', List.head?_nil, eq_comm, List.head?_eq_none_iff, restarts] at same
    have stops := restart_stops same
    rw [← restarts] at stops
    exact stops

theorem turns_removed (shape : Shape state.lists)
    (head : state.lists.pending.head? = some first) :
    turns (removed first state).lists.pending < turns state.lists.pending := by
  obtain ⟨rest, list⟩ := List.head?_eq_some_iff.mp head
  obtain ⟨-, restarts, -⟩ := @returns_deleteFirst _ _ state first .listHead shape head (by simp)
  have remains : (state.lists.deleteFrom .listHead first).2.pending = rest := by
    rw [Queues.deleteFrom_eq]
    change state.lists.pending.erase first = rest
    rw [list, List.erase_cons_head]
  have cleared : (removed first state).lists.pending =
      cutAfter first (removedFromLists first state).lists.pending := rfl
  have restarted := @restart_pending _ _
    { state with lists := (state.lists.deleteFrom .listHead first).2 }
  rw [cleared, restarts, list, turns_cons]
  rw [remains] at restarted
  rcases restarted with same | ⟨present, pushed⟩
  next =>
    have shorter := turns_prefix (cutAfter_isPrefix first rest)
    rw [same]
    split <;> omega
  next =>
    rw [pushed]
    by_cases dummy : first = .dummy
    next =>
      have some := turns_pos present
      rw [dummy, cutAfter, if_pos rfl, turns_cons, if_pos rfl, turns_nil]
      omega
    next =>
      have shorter := turns_prefix (cutAfter_isPrefix first (.dummy :: rest))
      rw [turns_cons, if_pos rfl] at shorter
      rw [if_neg dummy]
      omega

theorem flushing_deleteHead (shape : Shape state.lists)
    (head : state.lists.pending.head? = some first) :
    ∃ next, Returns (timeoutDelete first) state () next ∧ Flushing next ∧
      turns next.lists.pending < turns state.lists.pending := by
  have deletes := @returns_deleteFirst _ _ state first .listHead shape head (by simp)
  refine ⟨_, deletes.1, ?_, turns_removed shape head⟩
  exact @flushing_removed _ _ state first .listHead shape head (by simp)

theorem flushing_deleteExpired (flushing : Flushing state) (empty : state.lists.pending = [])
    (head : state.lists.expired.head? = some first) :
    ∃ next, Returns (timeoutDelete first) state () next ∧
      (Flushing next ∧ next.lists.pending = []) ∧
      next.lists.expired.length < state.lists.expired.length := by
  have deletes := @returns_deleteFirst _ _ state first .executeQueueHead flushing.shape head
    fun _ => empty
  have kept : (state.lists.deleteFrom .executeQueueHead first).2 =
      ⟨[], state.lists.expired.tail⟩ := by
    obtain ⟨rest, list⟩ := List.head?_eq_some_iff.mp head
    rw [Queues.deleteFrom_eq]
    change Queues.mk state.lists.pending (state.lists.expired.erase first) = _
    rw [empty, list, List.erase_cons_head, List.tail_cons]
  have restarts := deletes.2.1
  rw [kept, restart_empty rfl] at restarts
  have lists : (removed first state).lists =
      Queues.clearNext first ⟨[], state.lists.expired.tail⟩ :=
    congrArg (fun state : Scheduler (Queues Timer) Timer => state.lists.clearNext first) restarts
  have flushing' := @flushing_removed _ _ state first .executeQueueHead flushing.shape head
    fun _ => empty
  refine ⟨_, deletes.1, ⟨flushing', ?_⟩, ?_⟩
  next =>
    rw [lists]
    rfl
  next =>
    have shorter := (cutAfter_isPrefix first state.lists.expired.tail).length_le
    have length := List.length_pos_of_mem (List.mem_of_head? head)
    rw [List.length_tail] at shorter
    rw [lists]
    exact Nat.lt_of_le_of_lt shorter (Nat.sub_lt length Nat.one_pos)

theorem flushLoop_returns {inv : Scheduler (Queues Timer) Timer -> Prop} {list : Selected}
    {measure : Scheduler (Queues Timer) Timer -> Nat}
    (deletes : ∀ state first, inv state -> (state.lists.select list).head? = some first ->
      ∃ next, Returns (timeoutDelete first) state () next ∧ inv next ∧ measure next < measure state)
    {bound : Nat} (holds : inv state) (enough : measure state < bound) :
    ∃ next, Returns (flushLoop list bound) state () next ∧ inv next ∧
      next.lists.select list = [] := by
  induction bound generalizing state with
  | zero => omega
  | succ bound ih =>
    cases head : (state.lists.select list).head? with
    | none =>
      refine ⟨state, returns_read ?_, holds, List.head?_eq_none_iff.mp head⟩
      have none : TimerLists.head state.lists list = none := head
      rw [none]
      exact returns_done _ _
    | some first =>
      obtain ⟨later, deleted, holds', nearer⟩ := deletes state first holds head
      obtain ⟨next, loops, ends⟩ := ih holds' (by omega)
      refine ⟨next, returns_read ?_, ends⟩
      have some : TimerLists.head state.lists list = some first := head
      rw [some]
      exact returns_bind deleted loops

theorem returns_timeoutFlushAll (shape : Shape state.lists) {bound : Nat}
    (enough : turns state.lists.pending < bound)
    (enough' : ∀ {list : List (Node Timer)}, list.Nodup -> list.length < bound) :
    ∃ next, Returns (timeoutFlushAll bound) state () next ∧
      (Flushing next ∧ next.lists.pending = []) ∧ next.lists.expired = [] := by
  have stops : Returns stopTimeouts state ()
      { state with
        interruptEnabled := false, absoluteTimeOfLastTimeout := 0, isRunning := false } :=
    returns_bind (returns_emit _ _) (returns_emit _ _)
  have stopped : Flushing { state with
      interruptEnabled := false, absoluteTimeOfLastTimeout := 0, isRunning := false } :=
    ⟨shape, fun _ => ⟨rfl, rfl⟩⟩
  obtain ⟨middle, first, flushing, empty⟩ := @flushLoop_returns _ _ _ Flushing .listHead
    (fun state => turns state.lists.pending)
    (fun state first flushing head => flushing_deleteHead flushing.shape head) bound stopped enough
  obtain ⟨last, second, ends⟩ := @flushLoop_returns _ _ _
    (fun state => Flushing state ∧ state.lists.pending = []) .executeQueueHead
    (fun state => state.lists.expired.length)
    (fun state first here head => flushing_deleteExpired here.1 here.2 head) bound ⟨flushing, empty⟩
    (enough' flushing.shape.expired)
  exact ⟨last, returns_bind stops (returns_bind first second), ends⟩

end Loops

section Links

variable [Fintype Timer]

/-- Every call, the interrupt while it is enabled and the list is not empty, and any change of the
counter and of its flag. -/
def anyRules : Rules (Scheduler (Links Timer) Timer) (SchedulerEvent Timer) (Entry Timer)
    Input (Journal Timer) where
  system := Scheduler.system
  observe := Journal.observe
  calls _ _ := True
  inputs _ _ := True
  interrupts config :=
    config.2.interruptEnabled = true ∧ config.2.lists.schedulerListHead ≠ none
  effects _ _ := True

instance (config : Journal Timer × Scheduler (Links Timer) Timer) (entry : Entry Timer) :
    Decidable (anyRules.calls config entry) :=
  inferInstanceAs (Decidable True)

instance (config : Journal Timer × Scheduler (Links Timer) Timer) (input : Input) :
    Decidable (anyRules.inputs config input) :=
  inferInstanceAs (Decidable True)

instance (config : Journal Timer × Scheduler (Links Timer) Timer) :
    Decidable (anyRules.interrupts config) :=
  inferInstanceAs (Decidable (_ ∧ _))

instance (config : Journal Timer × Scheduler (Links Timer) Timer)
    (events : List (SchedulerEvent Timer)) : Decidable (anyRules.effects config events) :=
  inferInstanceAs (Decidable True)

theorem transfers_any :
    Transfers Related (anyRules : Rules _ _ (Entry Timer) _ _) (rules ⟨False, False⟩) where
  system := system_simulates
  observe := rfl
  calls _ _ _ _ _ _ conserves := conserves.elim
  inputs _ _ _ _ _ _ timed := timed.elim
  interrupts _ linked queued related allowed := by
    obtain ⟨enabled, present⟩ := allowed
    rw [head_of_related related, ne_eq, List.head?_eq_none_iff] at present
    obtain ⟨queues, -, rfl⟩ := related
    exact ⟨enabled, present, fun timed => timed.elim⟩
  effects _ _ _ _ _ _ := ⟨fun either => (or_self_iff.mp either).elim, fun timed => timed.elim⟩
  silent _ := ⟨fun either => (or_self_iff.mp either).elim, fun timed => timed.elim⟩

theorem timeoutFlushAll_ends (next : Node Timer -> Option (Node Timer))
    (absoluteTime : Node Timer -> UInt32) {actions : List (Action (Entry Timer) Input)}
    (guarded : Machine.Guarded anyRules.step anyRules.Allows (powerUp next absoluteTime) actions)
    {bound : Nat} (enough : 2 * Fintype.card (Node Timer) < bound) :
    let reached := (Machine.run anyRules.step (powerUp next absoluteTime) actions).1.1.state
    ∃ last events, (timeoutFlushAll bound).exec reached = some ((), last, events) ∧
      last.lists.schedulerListHead = none ∧ last.lists.schedulerExecuteQueueHead = none ∧
      last.isRunning = false ∧ last.interruptEnabled = false := by
  intro reached
  obtain ⟨queued, related, always⟩ := run_always transfers_any guarded
  have shape : Shape queued.lists := always.1
  have short {list : List (Node Timer)} (nodup : list.Nodup) : 2 * list.length < bound := by
    have fewer := nodup.length_le_card
    omega
  obtain ⟨queued', ⟨events, runs⟩, ⟨flushing, empty⟩, empty'⟩ := returns_timeoutFlushAll shape
    (Nat.lt_of_le_of_lt (turns_le _) (short shape.pending))
    fun nodup => by have bounded := short nodup; omega
  obtain ⟨last, runs', related'⟩ :=
    simulates_exec (system_simulates.program (.flushAll bound)) related runs
  have stopped := flushing.stopped empty
  have noHead := (head_related related' .listHead).trans (List.head?_eq_none_iff.mpr empty)
  have noHead' := (head_related related' .executeQueueHead).trans (List.head?_eq_none_iff.mpr empty')
  obtain ⟨queues, -, rfl⟩ := related'
  exact ⟨last, events, runs', noHead, noHead', stopped⟩

theorem timeoutFlushAll_ends_far :
    let actions : List (Action (Entry (Fin 3)) Input) :=
      [[.call (.create 0 70000)], List.replicate 30 .execute,
        [.call (.create 1 200000)], List.replicate 30 .execute,
        [.call (.create 2 5)], List.replicate 30 .execute,
        [.input (.hardware 0 true), .interrupt], List.replicate 15 .execute].flatten
    let reached := (Machine.run anyRules.step (powerUp (fun _ => none) fun _ => 0) actions).1.1.state
    ∃ last events, (timeoutFlushAll 9).exec reached = some ((), last, events) ∧
      last.lists.schedulerListHead = none ∧ last.lists.schedulerExecuteQueueHead = none ∧
      last.isRunning = false ∧ last.interruptEnabled = false :=
  timeoutFlushAll_ends _ _ (by decide +kernel) (by decide)

end Links

end AvrVoiceControl
