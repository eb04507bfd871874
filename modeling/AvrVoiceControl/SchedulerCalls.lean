import AvrVoiceControl.SchedulerTicks

set_option autoImplicit false

namespace AvrVoiceControl

open Interrupts Interrupts.Program LinkedList Scheduler

variable {Timer : Type} [DecidableEq Timer] {state : Scheduler (Queues Timer) Timer}

theorem restart_masked (enabled : Bool) :
    restart { state with interruptEnabled := enabled } = restart state := by
  cases list : state.lists.pending with
  | nil =>
    rw [restart_empty list]
    exact restart_empty list
  | cons first rest =>
    by_cases far : state.absoluteTime first - state.absoluteTimeOfLastTimeout > 65535
    · rw [restart_far list far]
      exact restart_far list far
    · rw [restart_near list far]
      exact restart_near list far

section Deletion

def removedFrom (which : Selected) (node : Node Timer) (state : Scheduler (Queues Timer) Timer) :
    Scheduler (Queues Timer) Timer :=
  if (state.lists.select which).head? = some node then
    restart { state with lists := (state.lists.deleteFrom which node).2 }
  else if state.lists.select which = [] then
    state
  else
    { state with lists := (state.lists.deleteFrom which node).2, interruptEnabled := true }

def removedFromLists (node : Node Timer) (state : Scheduler (Queues Timer) Timer) :
    Scheduler (Queues Timer) Timer :=
  if node ∈ state.lists.pending then
    removedFrom .listHead node state
  else
    removedFrom .executeQueueHead node (removedFrom .listHead node state)

def removed (node : Node Timer) (state : Scheduler (Queues Timer) Timer) :
    Scheduler (Queues Timer) Timer :=
  { removedFromLists node state with
    lists := (removedFromLists node state).lists.clearNext node }

variable {which : Selected} {node : Node Timer}

theorem returns_timeoutDeleteHelper
    (ready : (state.lists.select which).head? = some node ->
      Restartable { state with lists := (state.lists.deleteFrom which node).2 }) :
    Returns (timeoutDeleteHelper which node) state (decide (node ∈ state.lists.select which))
      (removedFrom which node state) := by
  apply returns_read
  by_cases empty : state.lists.select which = []
  · have absent : (TimerLists.head state.lists which).isNone = true := by
      simp [TimerLists.head, empty]
    have leaves : removedFrom which node state = state := by simp [removedFrom, empty]
    rw [absent, leaves, empty]
    exact returns_done _ _
  have present : (TimerLists.head state.lists which).isNone = false := by
    simpa [TimerLists.head, List.head?_eq_none_iff] using empty
  rw [present]
  have isFirst := state.lists.deleteFrom_first which node
  have isFound := state.lists.deleteFrom_found which node
  unfold removedFrom
  rcases deleted : state.lists.deleteFrom which node with ⟨removal, lists⟩
  rw [deleted] at isFirst isFound ready
  have deletes : TimerLists.deleteFrom which node state.lists = some (removal, lists) :=
    congrArg some deleted
  refine returns_bind (returns_emit _ _)
    (returns_attempted (Option.bind_eq_some_iff.mpr ⟨_, deletes, rfl⟩) ?_)
  have result : decide (removal ≠ .absent) = decide (node ∈ state.lists.select which) :=
    decide_eq_decide.mpr isFound
  rw [← result]
  by_cases head : removal = .head
  · have first := isFirst.mp head
    obtain ⟨shape, nearDummy⟩ := ready first
    rw [if_pos first, head]
    refine returns_bind ⟨_, exec_startTimerAtHead ⟨shape, nearDummy⟩⟩ ?_
    rw [← restart_masked false]
    exact returns_done _ _
  · have notFirst : ¬ (state.lists.select which).head? = some node := fun first =>
      head (isFirst.mpr first)
    rw [if_neg notFirst, if_neg empty, afterRemoval, if_neg head]
    exact returns_assigned (returns_done _ _)

theorem restartable_deleteFrom (shape : Shape state.lists)
    (first : (state.lists.select which).head? = some node)
    (near : which = .executeQueueHead -> state.lists.pending.head? = some .dummy ->
      ¬ state.absoluteTime .dummy - state.absoluteTimeOfLastTimeout > 65535) :
    Restartable { state with lists := (state.lists.deleteFrom which node).2 } where
  shape := shape.deleteFrom which node
  nearDummy head := by
    rw [state.lists.deleteFrom_eq] at head
    cases which with
    | executeQueueHead => exact near rfl head
    | listHead =>
      obtain ⟨rest, list⟩ := List.head?_eq_some_iff.mp first
      have later := shape.dummyFirst
      have list' : state.lists.pending = node :: rest := list
      rw [list'] at later
      refine absurd (List.mem_of_head? ?_) later
      simpa [Queues.put, Queues.select, list'] using head

omit [DecidableEq Timer] in
theorem Paced.congr {other : Scheduler (Queues Timer) Timer} (paced : Paced state)
    (shape : Shape other.lists) (head : other.lists.pending.head? = state.lists.pending.head?)
    (distance : ∀ first, state.lists.pending.head? = some first ->
      other.absoluteTime first - other.absoluteTimeOfLastTimeout =
        state.absoluteTime first - state.absoluteTimeOfLastTimeout)
    (load : other.lastTimerLoad = state.lastTimerLoad) (overflow : other.overflow = state.overflow)
    (running : other.isRunning = state.isRunning)
    (enabled : state.lists.pending ≠ [] -> other.interruptEnabled = true) : Paced other := by
  have present (some : other.lists.pending ≠ []) : state.lists.pending ≠ [] :=
    fun empty => some (by simpa [empty] using head)
  refine ⟨shape, ?_, fun first here => ?_, fun first here => ?_, fun some => enabled (present some),
    fun some => ?_, fun some => ?_⟩
  · rw [load]
    exact paced.bound
  · rw [distance first (head.symm.trans here)]
    exact paced.near first (head.symm.trans here)
  · rw [load, distance first (head.symm.trans here)]
    exact paced.loaded first (head.symm.trans here)
  · rw [overflow]
    exact paced.clear (present some)
  · rw [running]
    exact paced.running (present some)

omit [DecidableEq Timer] in
theorem Paced.withLists {lists : Queues Timer} {enabled : Bool} (paced : Paced state)
    (shape : Shape lists) (head : lists.pending.head? = state.lists.pending.head?)
    (enables : state.interruptEnabled = true -> enabled = true) :
    Paced { state with lists := lists, interruptEnabled := enabled } :=
  paced.congr shape head (fun _ _ => rfl) rfl rfl rfl fun present => enables (paced.enabled present)

theorem Restartable.deleteFrom (restartable : Restartable state)
    (first : (state.lists.select which).head? = some node) :
    Restartable { state with lists := (state.lists.deleteFrom which node).2 } :=
  restartable_deleteFrom restartable.shape first fun _ => restartable.nearDummy

omit [DecidableEq Timer] in
theorem Restartable.congr {other : Scheduler (Queues Timer) Timer} (restartable : Restartable state)
    (shape : Shape other.lists) (head : other.lists.pending.head? = state.lists.pending.head?)
    (distance : ∀ first, state.lists.pending.head? = some first ->
      other.absoluteTime first - other.absoluteTimeOfLastTimeout =
        state.absoluteTime first - state.absoluteTimeOfLastTimeout) : Restartable other where
  shape := shape
  nearDummy dummy := by
    rw [head] at dummy
    rw [distance .dummy dummy]
    exact restartable.nearDummy dummy

theorem restartable_restart (restartable : Restartable state) : Restartable (restart state) := by
  cases list : state.lists.pending with
  | nil =>
    rw [restart_empty list]
    exact ⟨restartable.shape, fun head => by simp [list] at head⟩
  | cons first rest =>
    by_cases far : state.absoluteTime first - state.absoluteTimeOfLastTimeout > 65535
    · rw [restart_far list far]
      have near : ¬ Function.update state.absoluteTime .dummy
          (state.absoluteTimeOfLastTimeout + 65535) .dummy -
            state.absoluteTimeOfLastTimeout > 65535 := by
        rw [dummy_distance]
        decide
      exact ⟨restartable.shape.pushDummy (restartable.outside list far).2, fun _ => near⟩
    · rw [restart_near list far]
      exact restartable.congr restartable.shape rfl fun _ _ => rfl

theorem paced_restarted (bound : state.lastTimerLoad.toNat ≤ 65535)
    (clear : state.lists.pending ≠ [] -> state.overflow = false)
    (restartable : Restartable { state with lists := (state.lists.deleteFrom which node).2 }) :
    Paced (restart { state with lists := (state.lists.deleteFrom which node).2 }) := by
  refine paced_restart restartable bound fun present => clear fun empty => present ?_
  have fewer := state.lists.deleteFrom_sublist which node
  rw [empty] at fewer
  exact List.sublist_nil.mp fewer

theorem Paced.removedFrom (paced : Paced state) (which : Selected) (node : Node Timer) :
    Paced (AvrVoiceControl.removedFrom which node state) := by
  unfold AvrVoiceControl.removedFrom
  split_ifs with first empty
  · exact paced_restarted paced.bound paced.clear (paced.restartable.deleteFrom first)
  · exact paced
  · refine paced.withLists (paced.shape.deleteFrom which node) ?_ fun _ => rfl
    exact state.lists.deleteFrom_head which node fun removal =>
      absurd ((state.lists.deleteFrom_first which node).mp removal) first

theorem Paced.removedFromLists (paced : Paced state) (node : Node Timer) :
    Paced (AvrVoiceControl.removedFromLists node state) := by
  unfold AvrVoiceControl.removedFromLists
  split_ifs
  · exact paced.removedFrom _ node
  · exact (paced.removedFrom _ node).removedFrom _ node

theorem Paced.clearNext (paced : Paced state) (node : Node Timer) :
    Paced { state with lists := state.lists.clearNext node } :=
  paced.withLists (paced.shape.clearNext node) (cutAfter_head _ _) id

theorem Paced.removed (paced : Paced state) (node : Node Timer) :
    Paced (AvrVoiceControl.removed node state) :=
  (paced.removedFromLists node).clearNext node

theorem Restartable.removedFrom (restartable : Restartable state) (which : Selected)
    (node : Node Timer) : Restartable (AvrVoiceControl.removedFrom which node state) := by
  unfold AvrVoiceControl.removedFrom
  split_ifs with first empty
  · exact restartable_restart (restartable.deleteFrom first)
  · exact restartable
  · refine restartable.congr (restartable.shape.deleteFrom which node) ?_ fun _ _ => rfl
    exact state.lists.deleteFrom_head which node fun removal =>
      absurd ((state.lists.deleteFrom_first which node).mp removal) first

theorem Restartable.removedFromLists (restartable : Restartable state) (node : Node Timer) :
    Restartable (AvrVoiceControl.removedFromLists node state) := by
  unfold AvrVoiceControl.removedFromLists
  split_ifs
  · exact restartable.removedFrom _ node
  · exact (restartable.removedFrom _ node).removedFrom _ node

theorem Restartable.removed (restartable : Restartable state) (node : Node Timer) :
    Restartable (AvrVoiceControl.removed node state) :=
  (restartable.removedFromLists node).congr
    ((restartable.removedFromLists node).shape.clearNext node) (cutAfter_head _ _) fun _ _ => rfl

theorem returns_deleteFromLists (restartable : Restartable state) (node : Node Timer) :
    Returns (deleteFromLists node) state () (removedFromLists node state) := by
  unfold removedFromLists
  apply returns_bind (returns_timeoutDeleteHelper fun first => restartable.deleteFrom first)
  have later := restartable.removedFrom .listHead node
  by_cases inside : node ∈ state.lists.pending
  · have found : decide (node ∈ state.lists.select .listHead) = true := decide_eq_true inside
    rw [found, if_pos inside]
    exact returns_done _ _
  · have missed : decide (node ∈ state.lists.select .listHead) = false := decide_eq_false inside
    rw [missed, if_neg inside]
    refine returns_bind (returns_timeoutDeleteHelper fun first => ?_) (returns_done _ _)
    exact later.deleteFrom first

theorem returns_timeoutDelete (restartable : Restartable state) (node : Node Timer) :
    Returns (timeoutDelete node) state () (removed node state) :=
  returns_bind (returns_deleteFromLists restartable node) (returns_emit _ _)

theorem restart_expired : (restart state).lists.expired = state.lists.expired := by
  cases list : state.lists.pending with
  | nil => rw [restart_empty list]
  | cons first rest =>
    by_cases far : state.absoluteTime first - state.absoluteTimeOfLastTimeout > 65535
    · rw [restart_far list far]
    · rw [restart_near list far]

theorem deleteFrom_empty {queues : Queues Timer} (empty : queues.select which = []) :
    (queues.deleteFrom which node).2 = queues := by
  simp [Queues.deleteFrom, empty]

theorem removedFrom_absent {which : Selected} (absent : node ∉ state.lists.select which) :
    ∃ enabled, removedFrom which node state = { state with interruptEnabled := enabled } := by
  have notFirst : ¬ (state.lists.select which).head? = some node := fun first =>
    absent (List.mem_of_head? first)
  have same : (state.lists.deleteFrom which node).2 = state.lists := by
    simp [Queues.deleteFrom, notFirst, absent]
  unfold removedFrom
  rw [if_neg notFirst, same]
  split
  · exact ⟨state.interruptEnabled, rfl⟩
  · exact ⟨true, rfl⟩

theorem mem_removedFrom {other : Node Timer} (real : other ≠ .dummy) :
    other ∈ (removedFrom which node state).lists.pending ↔
      other ∈ (state.lists.deleteFrom which node).2.pending := by
  unfold removedFrom
  split_ifs with first empty
  · exact mem_restart real
  · rw [deleteFrom_empty empty]
  · exact Iff.rfl

theorem removedFrom_expired :
    (removedFrom which node state).lists.expired =
      (state.lists.deleteFrom which node).2.expired := by
  unfold removedFrom
  split_ifs with first empty
  · exact restart_expired
  · rw [deleteFrom_empty empty]
  · rfl

theorem mem_removedFromLists (shape : Shape state.lists) {other : Node Timer}
    (real : other ≠ .dummy) :
    other ∈ (removedFromLists node state).lists.pending ↔
      other ∈ state.lists.pending ∧ other ≠ node := by
  unfold removedFromLists
  have first : other ∈ (removedFrom .listHead node state).lists.pending ↔
      other ≠ node ∧ other ∈ state.lists.pending := by
    rw [mem_removedFrom real, state.lists.deleteFrom_eq]
    exact shape.pending.mem_erase_iff
  split_ifs with inside
  · rw [first, and_comm]
  · rw [mem_removedFrom real, Queues.deleteFrom_eq]
    exact first.trans and_comm

theorem outside_removedFromLists (shape : Shape state.lists) (real : node ≠ .dummy) :
    (removedFromLists node state).lists.Outside node := by
  refine ⟨fun inside => ((mem_removedFromLists shape real).mp inside).2 rfl, ?_⟩
  unfold removedFromLists
  split_ifs with inside
  · rw [removedFrom_expired, state.lists.deleteFrom_eq]
    exact shape.apart inside
  · rw [removedFrom_expired, Queues.deleteFrom_eq]
    change node ∉ (removedFrom .listHead node state).lists.expired.erase node
    rw [removedFrom_expired, state.lists.deleteFrom_eq]
    exact shape.expired.not_mem_erase

theorem removed_eq (shape : Shape state.lists) (real : node ≠ .dummy) :
    removed node state = removedFromLists node state :=
  congrArg (fun lists : Queues Timer => { removedFromLists node state with lists := lists })
    (Shape.unchanged_clearNext (outside_removedFromLists shape real))

theorem outside_removed (shape : Shape state.lists) (real : node ≠ .dummy) :
    (removed node state).lists.Outside node := by
  rw [removed_eq shape real]
  exact outside_removedFromLists shape real

end Deletion

section Creation

def madeAbsolute (timeout : UInt32) (state : Scheduler (Queues Timer) Timer) : UInt32 :=
  if state.isRunning then
    timeout + state.absoluteTimeOfLastTimeout +
      ((if state.overflow then 65535 else state.count.toUInt32) - state.lastTimerLoad)
  else
    timeout + state.absoluteTimeOfLastTimeout

def rebased (state : Scheduler (Queues Timer) Timer) : Scheduler (Queues Timer) Timer :=
  { state with
    absoluteTime := subtractBase (madeAbsolute 0 state) state.lists.pending state.absoluteTime
    absoluteTimeOfLastTimeout := state.absoluteTimeOfLastTimeout - madeAbsolute 0 state }

def rebasedFor (node : Node Timer) (time : UInt32) (state : Scheduler (Queues Timer) Timer) :
    Scheduler (Queues Timer) Timer :=
  if time < state.absoluteTimeOfLastTimeout then
    { rebased state with
      absoluteTime := Function.update (rebased state).absoluteTime node
        (time + (65535 - madeAbsolute 0 state + 1)) }
  else
    state

/-- The timer with its absolute time, before the search for its place. -/
def arrived (node : Node Timer) (timeout : UInt32) (state : Scheduler (Queues Timer) Timer) :
    Scheduler (Queues Timer) Timer :=
  rebasedFor node (madeAbsolute timeout state)
    { state with
      interruptEnabled := false
      absoluteTime := Function.update state.absoluteTime node (madeAbsolute timeout state) }

def before (node : Node Timer) (state : Scheduler (Queues Timer) Timer) : List (Node Timer) :=
  state.lists.pending.takeWhile fun point =>
    !decide (state.absoluteTime point > state.absoluteTime node)

def behind (node : Node Timer) (state : Scheduler (Queues Timer) Timer) : List (Node Timer) :=
  state.lists.pending.dropWhile fun point =>
    !decide (state.absoluteTime point > state.absoluteTime node)

def placed (node : Node Timer) (state : Scheduler (Queues Timer) Timer) :
    Scheduler (Queues Timer) Timer :=
  if before node state = [] then
    { state with
      lists := { state.lists with pending := node :: Queues.dropDummy state.lists.pending }
      lastTimerLoad := 65535 - 65535
      count := (65535 - 65535 : UInt32).toUInt16
      overflow := false }
  else
    { state with
      lists := { state.lists with pending := before node state ++ node :: behind node state } }

def inserted (node : Node Timer) (state : Scheduler (Queues Timer) Timer) :
    Scheduler (Queues Timer) Timer :=
  if before node state = [] then restart (placed node state)
  else
    { placed node state with
      interruptEnabled := (placed node state).isRunning || (placed node state).interruptEnabled }

def created (node : Node Timer) (timeout : UInt32) (state : Scheduler (Queues Timer) Timer) :
    Scheduler (Queues Timer) Timer :=
  inserted node (arrived node timeout (removed node state))

variable {node : Node Timer}

omit [DecidableEq Timer] in
theorem returns_makeAbsolute (timeout : UInt32) :
    Returns (makeAbsolute timeout) state (madeAbsolute timeout state) state := by
  refine returns_read (returns_read ?_)
  unfold madeAbsolute
  cases state.isRunning with
  | true => exact returns_reported (returns_read (returns_report _ _))
  | false => exact returns_report _ _

theorem returns_rebaseList :
    Returns rebaseList state (madeAbsolute 0 state) (rebased state) := by
  apply returns_bind (returns_makeAbsolute 0)
  exact returns_attempted rfl (returns_done _ _)

theorem returns_rebaseFor (time : UInt32) :
    Returns (rebaseFor node time) state () (rebasedFor node time state) := by
  apply returns_read
  unfold rebasedFor
  split
  · exact returns_bind returns_rebaseList (returns_emit _ _)
  · exact returns_done _ _

theorem rebasedFor_lists (time : UInt32) : (rebasedFor node time state).lists = state.lists := by
  unfold rebasedFor
  split <;> rfl

omit [DecidableEq Timer] in
theorem returns_load (load : UInt32) :
    Returns (Program.assign (fun state => { state with lastTimerLoad := load }) >>= fun _ =>
        Program.emit fun state =>
          ({ state with count := state.lastTimerLoad.toUInt16 },
            ([.loaded] : List (SchedulerEvent Timer)))) state ()
      { state with lastTimerLoad := load, count := load.toUInt16 } :=
  returns_bind (returns_emit _ _) (returns_emit _ _)

omit [DecidableEq Timer] in
theorem returns_setTimerDuration (duration : UInt32) :
    Returns (setTimerDuration duration) state ()
      { state with
        lastTimerLoad := 65535 - duration
        count := (65535 - duration).toUInt16 } :=
  returns_load (65535 - duration)

theorem returns_sortedInsert (outside : state.lists.Outside node) :
    Returns (sortedInsert node) state
      (decide (before node (rebasedFor node (state.absoluteTime node) state) = []))
      (placed node (rebasedFor node (state.absoluteTime node) state)) := by
  have same : ({ state with lists := TimerLists.clearNext node state.lists } :
      Scheduler (Queues Timer) Timer) = state :=
    congrArg (fun lists : Queues Timer => { state with lists := lists })
      (Shape.unchanged_clearNext outside)
  refine returns_read (returns_assigned ?_)
  rw [same]
  apply returns_bind (returns_rebaseFor _)
  have outside' : (rebasedFor node (state.absoluteTime node) state).lists.Outside node := by
    rw [rebasedFor_lists]
    exact outside
  generalize rebasedFor node (state.absoluteTime node) state = arrival at outside'
  by_cases atHead : before node arrival = []
  · have found : TimerLists.search
        (fun point => decide (arrival.absoluteTime point > arrival.absoluteTime node)) node
        arrival.lists = some (true, arrival.lists) := by
      simp only [TimerLists.search, Queues.search, not_true_eq_false, outside', if_false]
      exact if_pos atHead
    have links : TimerLists.linkHead node arrival.lists =
        some { arrival.lists with pending := node :: Queues.dropDummy arrival.lists.pending } :=
      if_pos outside'
    rw [placed, if_pos atHead, decide_eq_true atHead]
    refine returns_attempted (Option.bind_eq_some_iff.mpr ⟨_, found, rfl⟩) ?_
    apply returns_bind (returns_setTimerDuration 65535)
    exact returns_assigned (returns_attempt (Option.bind_eq_some_iff.mpr ⟨_, links, rfl⟩))
  · have found : TimerLists.search
        (fun point => decide (arrival.absoluteTime point > arrival.absoluteTime node)) node
        arrival.lists = some (false, { arrival.lists with
          pending := before node arrival ++ node :: behind node arrival }) := by
      simp only [TimerLists.search, Queues.search, not_true_eq_false, outside', if_false]
      exact if_neg atHead
    rw [placed, if_neg atHead, decide_eq_false atHead]
    exact returns_attempted (Option.bind_eq_some_iff.mpr ⟨_, found, rfl⟩) (returns_done _ _)

omit [DecidableEq Timer] in
theorem before_append_behind (node : Node Timer) (state : Scheduler (Queues Timer) Timer) :
    before node state ++ behind node state = state.lists.pending :=
  List.takeWhile_append_dropWhile

section

variable (shape : Shape state.lists) (outside : state.lists.Outside node) (real : node ≠ .dummy)

include shape outside real

theorem shape_placed : Shape (placed node state).lists := by
  unfold placed
  split_ifs with atHead
  · exact shape.linkHead outside
  · exact shape.insert (before_append_behind node state).symm atHead outside real

theorem restartable_placed (atHead : before node state = []) : Restartable (placed node state) where
  shape := shape_placed shape outside real
  nearDummy head := by
    rw [placed, if_pos atHead] at head
    exact absurd (Option.some.inj head) real

theorem returns_inserted :
    Returns (if decide (before node state = []) = true then startTimerAtHead
      else do
        if ← Program.read (·.isRunning) then enableInterrupt)
      (placed node state) () (inserted node state) := by
  unfold inserted
  by_cases atHead : before node state = []
  · rw [if_pos atHead, if_pos (decide_eq_true atHead)]
    exact ⟨_, exec_startTimerAtHead (restartable_placed shape outside real atHead)⟩
  · rw [if_neg atHead, decide_eq_false atHead, if_neg Bool.false_ne_true]
    apply returns_read
    cases running : (placed node state).isRunning with
    | true => exact returns_emit _ _
    | false => exact returns_done _ _

end

theorem arrived_lists (timeout : UInt32) :
    (arrived node timeout state).lists = state.lists :=
  rebasedFor_lists _

theorem returns_timeoutCreate (restartable : Restartable state) (real : node ≠ .dummy)
    (timeout : UInt32) :
    Returns (timeoutCreate node timeout) state () (created node timeout state) := by
  refine returns_emitted (returns_bind (returns_timeoutDelete restartable node) ?_)
  have shape : Shape (removed node state).lists := (restartable.removed node).shape
  have outside := outside_removed restartable.shape real
  unfold created
  generalize removed node state = cleared at shape outside
  refine returns_assigned (returns_bind (returns_makeAbsolute timeout) (returns_assigned ?_))
  have lists := @arrived_lists _ _ cleared node timeout
  refine returns_bind (returns_sortedInsert outside) ?_
  have arrives : rebasedFor node
      (Function.update cleared.absoluteTime node (madeAbsolute timeout cleared) node)
      { cleared with
        interruptEnabled := false
        absoluteTime :=
          Function.update cleared.absoluteTime node (madeAbsolute timeout cleared) } =
      arrived node timeout cleared := by
    rw [Function.update_self]
    rfl
  have inserts := @returns_inserted _ _ (arrived node timeout cleared) node
    (by rw [lists]; exact shape) (by rw [lists]; exact outside) real
  rw [← arrives] at inserts ⊢
  exact inserts

theorem rebasedFor_same (time : UInt32) :
    (rebasedFor node time state).count = state.count ∧
      (rebasedFor node time state).lastTimerLoad = state.lastTimerLoad ∧
      (rebasedFor node time state).isRunning = state.isRunning ∧
      (rebasedFor node time state).overflow = state.overflow := by
  unfold rebasedFor
  split <;> exact ⟨rfl, rfl, rfl, rfl⟩

theorem arrived_same (timeout : UInt32) :
    (arrived node timeout state).count = state.count ∧
      (arrived node timeout state).lastTimerLoad = state.lastTimerLoad ∧
      (arrived node timeout state).isRunning = state.isRunning ∧
      (arrived node timeout state).overflow = state.overflow :=
  rebasedFor_same _

theorem arrived_times (nodup : state.lists.pending.Nodup) (outside : node ∉ state.lists.pending)
    (timeout : UInt32) :
    ∃ base,
      (arrived node timeout state).absoluteTimeOfLastTimeout =
          state.absoluteTimeOfLastTimeout - base ∧
        ∀ point ∈ state.lists.pending,
          (arrived node timeout state).absoluteTime point = state.absoluteTime point - base := by
  have kept : ∀ point ∈ state.lists.pending, ∀ time : UInt32,
      Function.update state.absoluteTime node time point = state.absoluteTime point :=
    fun point inside time => Function.update_of_ne (ne_of_mem_of_not_mem inside outside) _ _
  unfold arrived rebasedFor
  split_ifs with rebases
  · refine ⟨_, rfl, fun point inside => ?_⟩
    dsimp only [rebased]
    rw [Function.update_of_ne (ne_of_mem_of_not_mem inside outside),
      subtractBase_of_mem _ nodup inside, kept point inside]
  · refine ⟨0, (UInt32.sub_zero _).symm, fun point inside => ?_⟩
    rw [UInt32.sub_zero]
    exact kept point inside _

theorem arrived_distance (nodup : state.lists.pending.Nodup)
    (outside : node ∉ state.lists.pending) (timeout : UInt32) {point : Node Timer}
    (inside : point ∈ state.lists.pending) :
    (arrived node timeout state).absoluteTime point -
        (arrived node timeout state).absoluteTimeOfLastTimeout =
      state.absoluteTime point - state.absoluteTimeOfLastTimeout := by
  obtain ⟨base, last, times⟩ := arrived_times nodup outside timeout
  rw [last, times point inside, sub_sub_sub]

theorem placed_head (first : before node state ≠ []) :
    (placed node state).lists.pending.head? = state.lists.pending.head? := by
  obtain ⟨point, front, split⟩ := List.exists_cons_of_ne_nil first
  have list := before_append_behind node state
  rw [split] at list
  simp [placed, split, ← list]

theorem Paced.inserted_arrived (paced : Paced state) (outside : state.lists.Outside node)
    (real : node ≠ .dummy) (timeout : UInt32) :
    Paced (inserted node (arrived node timeout state)) := by
  have lists := @arrived_lists _ _ state node timeout
  obtain ⟨count, load, running, overflow⟩ := @arrived_same _ _ state node timeout
  have distance {point : Node Timer} := @arrived_distance _ _ state node paced.shape.pending
    outside.1 timeout point
  have shape : Shape (arrived node timeout state).lists := by rw [lists]; exact paced.shape
  have outside' : (arrived node timeout state).lists.Outside node := by rw [lists]; exact outside
  have head := @placed_head _ _ (arrived node timeout state) node
  rw [lists] at head
  unfold inserted
  generalize arrived node timeout state = arrival at *
  split_ifs with atHead
  · refine paced_restart (restartable_placed shape outside' real atHead) ?_ fun _ => ?_
    · rw [placed, if_pos atHead]
      exact Nat.zero_le _
    · rw [placed, if_pos atHead]
  · refine paced.congr (shape_placed shape outside' real) (head atHead) ?_ ?_ ?_ ?_ ?_
    · intro first here
      rw [placed, if_neg atHead]
      exact distance (List.mem_of_head? here)
    · rw [placed, if_neg atHead]
      exact load
    · rw [placed, if_neg atHead]
      exact overflow
    · rw [placed, if_neg atHead]
      exact running
    · intro present
      rw [placed, if_neg atHead]
      simp only [running, paced.running present, Bool.true_or]

theorem Paced.created (paced : Paced state) (real : node ≠ .dummy) (timeout : UInt32) :
    Paced (created node timeout state) :=
  (paced.removed node).inserted_arrived (outside_removed paced.shape real) real timeout

end Creation

section Callbacks

omit [DecidableEq Timer] in
theorem returns_restoreInterrupt (enabled : Bool) :
    Returns (restoreInterrupt enabled) { state with interruptEnabled := false } ()
      { state with interruptEnabled := enabled } := by
  cases enabled with
  | true => exact returns_emit _ _
  | false => exact returns_done _ _

/-- The state in which the callback of the first expired timer runs. -/
def called (state : Scheduler (Queues Timer) Timer) : Scheduler (Queues Timer) Timer :=
  match state.lists.expired with
  | [] => state
  | .timer timer :: rest =>
    { state with
      lists := { state.lists with expired := rest }
      callbacks := timer :: state.callbacks }
  | .dummy :: rest => { state with lists := { state.lists with expired := rest } }

theorem returns_timeoutCallNextCallback :
    Returns timeoutCallNextCallback state () (called state) := by
  cases list : state.lists.expired with
  | nil =>
    have leaves : called state = state := by simp [called, list]
    have empty : (TimerLists.head state.lists .executeQueueHead).isNone = true := by
      simp [TimerLists.head, Queues.select, list]
    apply returns_read
    rw [empty, leaves]
    exact returns_done _ _
  | cons first rest =>
    have present : (TimerLists.head state.lists .executeQueueHead).isNone = false := by
      simp [TimerLists.head, Queues.select, list]
    have takes : TimerLists.takeExpired state.lists =
        some (first, { state.lists with expired := rest }) := by
      simp [TimerLists.takeExpired, Queues.takeExpired, list]
    have calls : Returns (callCallback first)
        { state with lists := { state.lists with expired := rest } } () (called state) := by
      unfold called
      rw [list]
      cases first with
      | timer timer => exact returns_emit _ _
      | dummy => exact returns_done _ _
    apply returns_read
    rw [present]
    refine returns_read (returns_bind (returns_emit _ _)
      (returns_attempted (Option.bind_eq_some_iff.mpr ⟨_, takes, rfl⟩) ?_))
    have restores := @returns_restoreInterrupt _
      { state with lists := { state.lists with expired := rest } } state.interruptEnabled
    exact returns_bind restores calls

omit [DecidableEq Timer] in
theorem called_same :
    (called state).lists.pending = state.lists.pending ∧
      (called state).lists.expired.Sublist state.lists.expired ∧
      ∃ lists callbacks, called state = { state with lists := lists, callbacks := callbacks } := by
  unfold called
  rcases list : state.lists.expired with _ | ⟨timer | _, rest⟩
  · exact ⟨rfl, by simp [list], _, _, rfl⟩
  · exact ⟨rfl, by simp, _, _, rfl⟩
  · exact ⟨rfl, by simp, _, _, rfl⟩

omit [DecidableEq Timer] in
theorem shape_called (shape : Shape state.lists) : Shape (called state).lists := by
  obtain ⟨pending, expired, -⟩ := @called_same _ state
  exact shape.sublist (by rw [pending]) expired

omit [DecidableEq Timer] in
theorem Paced.called (paced : Paced state) : Paced (called state) := by
  have shape := shape_called paced.shape
  obtain ⟨pending, -, lists, callbacks, same⟩ := @called_same _ state
  rw [same] at shape pending ⊢
  exact paced.congr shape (congrArg List.head? pending) (fun _ _ => rfl) rfl rfl rfl paced.enabled

def rescheduled (reschedule : UInt32) (state : Scheduler (Queues Timer) Timer) :
    Scheduler (Queues Timer) Timer :=
  match state.callbacks with
  | [] => state
  | timer :: rest =>
    if reschedule ≠ 0 then created (.timer timer) reschedule { state with callbacks := rest }
    else { state with callbacks := rest }

theorem returns_callbackReturns (restartable : Restartable state) (reschedule : UInt32) :
    Returns (callbackReturns reschedule) state () (rescheduled reschedule state) := by
  apply returns_read
  unfold rescheduled
  cases list : state.callbacks with
  | nil => exact returns_done _ _
  | cons timer rest =>
    have returned : Restartable { state with callbacks := rest } :=
      restartable.congr restartable.shape rfl fun _ _ => rfl
    apply returns_assigned
    rw [list]
    split_ifs
    · exact returns_timeoutCreate returned (by simp) reschedule
    · exact returns_done _ _

theorem Paced.rescheduled (paced : Paced state) (reschedule : UInt32) :
    Paced (rescheduled reschedule state) := by
  unfold AvrVoiceControl.rescheduled
  split
  · exact paced
  · rename_i timer rest _
    have returned : Paced { state with callbacks := rest } :=
      paced.congr paced.shape rfl (fun _ _ => rfl) rfl rfl rfl paced.enabled
    split_ifs
    · exact returned.created (by simp) reschedule
    · exact returned

end Callbacks

section Flush

/-- What the loop of the flush needs, also while the counter is stopped. -/
structure Flushable (state : Scheduler (Queues Timer) Timer) : Prop where
  shape : Shape state.lists
  bound : state.lastTimerLoad.toNat ≤ 65535
  clear : state.lists.pending ≠ [] -> state.overflow = false

omit [DecidableEq Timer] in
theorem Paced.flushable (paced : Paced state) : Flushable state :=
  ⟨paced.shape, paced.bound, paced.clear⟩

end Flush

section Links

variable {linked next : Scheduler (Links Timer) Timer} {queued : Scheduler (Queues Timer) Timer}

omit [DecidableEq Timer] in
theorem related_of_returns {left : Code (Links Timer) Timer Unit}
    {right : Code (Queues Timer) Timer Unit} (follows : Follows left right)
    (related : Related linked queued) {queued' : Scheduler (Queues Timer) Timer}
    (returns : Returns right queued () queued') (returns' : Returns left linked () next) :
    Related next queued' := by
  obtain ⟨events, runs⟩ := returns
  obtain ⟨other, same, related'⟩ := simulates_exec follows related runs
  obtain ⟨-, rfl⟩ := returns_unique returns' ⟨events, same⟩
  exact related'

variable [Fintype Timer]

theorem flushLoop_keeps {inv : Scheduler (Queues Timer) Timer -> Prop} {list : Selected}
    (deletes : ∀ queued first, inv queued -> (queued.lists.select list).head? = some first ->
      ∃ queued', Returns (timeoutDelete first) queued () queued' ∧ inv queued')
    (bound : Nat) (related : Related linked queued) (holds : inv queued)
    (returns : Returns (flushLoop list bound) linked () next) :
    ∃ queued', Related next queued' ∧ inv queued' ∧ queued'.lists.select list = [] := by
  induction bound generalizing linked queued with
  | zero =>
    obtain ⟨events, runs⟩ := returns
    cases runs
  | succ bound ih =>
    have looked := returns_of_bind (returns_report _ _) returns
    have head : TimerLists.head linked.lists list = (queued.lists.select list).head? := by
      obtain ⟨queues, represents, rfl⟩ := related
      exact represents.head_eq list
    dsimp only at looked
    rw [head] at looked
    cases first : (queued.lists.select list).head? with
    | none =>
      rw [first] at looked
      obtain ⟨-, rfl⟩ := returns_unique looked (returns_done _ _)
      exact ⟨queued, related, holds, List.head?_eq_none_iff.mp first⟩
    | some timer =>
      rw [first] at looked
      obtain ⟨queued', ⟨events, runs⟩, holds'⟩ := deletes queued timer holds first
      obtain ⟨linked', same, related'⟩ := simulates_exec (follows_timeoutDelete timer) related runs
      have later : Returns (flushLoop list bound) linked' () next :=
        @returns_of_bind _ _ _ _ _ (fun _ => flushLoop list bound) _ _ _ _ _ ⟨events, same⟩ looked
      exact ih related' holds' later

theorem flushAll_leaves {first second : Scheduler (Queues Timer) Timer -> Prop} (bound : Nat)
    (related : Related linked queued)
    (stopped : first { queued with
      interruptEnabled := false, absoluteTimeOfLastTimeout := 0, isRunning := false })
    (deletes : ∀ queued node, first queued -> queued.lists.pending.head? = some node ->
      ∃ queued', Returns (timeoutDelete node) queued () queued' ∧ first queued')
    (turns : ∀ queued, first queued -> queued.lists.pending = [] -> second queued)
    (deletes' : ∀ queued node, second queued -> queued.lists.expired.head? = some node ->
      ∃ queued', Returns (timeoutDelete node) queued () queued' ∧ second queued')
    (returns : Returns (timeoutFlushAll bound) linked () next) :
    ∃ queued', Related next queued' ∧ second queued' := by
  have stops : Returns stopTimeouts queued ()
      { queued with
        interruptEnabled := false, absoluteTimeOfLastTimeout := 0, isRunning := false } :=
    returns_bind (returns_emit _ _) (returns_emit _ _)
  obtain ⟨events, runs⟩ := stops
  obtain ⟨halted, same, related'⟩ := simulates_exec follows_stopTimeouts related runs
  have loops := returns_of_bind ⟨events, same⟩ returns
  obtain ⟨_, middle, loop, loop'⟩ := returns_split loops
  obtain ⟨queued', related', here, empty⟩ := flushLoop_keeps deletes bound related' stopped loop
  obtain ⟨queued'', related'', there, -⟩ := flushLoop_keeps deletes' bound related'
    (turns queued' here empty) loop'
  exact ⟨queued'', related'', there⟩

omit [DecidableEq Timer] [Fintype Timer] in
theorem head_related (related : Related linked queued) (which : Selected) :
    linked.lists.head which = (queued.lists.select which).head? := by
  obtain ⟨queues, represents, rfl⟩ := related
  exact represents.head_eq which

omit [Fintype Timer] in
theorem exec_rtcCntVect_empty {Lists : Type} [TimerLists Lists Timer]
    {state : Scheduler Lists Timer} (empty : TimerLists.head state.lists .listHead = none) :
    rtcCntVect.exec state = none := by
  simp [rtcCntVect, Bind.bind, Program.bind, Program.attempt, Program.exec, empty]

theorem handled_follows (related : Related linked queued)
    (quiet : ¬ (queued.interruptEnabled = true ∧ queued.overflow = true) -> Paced queued)
    (fires : queued.interruptEnabled = true ∧ queued.overflow = true ->
      queued.lists.pending ≠ [] ->
        ∃ next events, rtcCntVect.exec queued = some ((), next, events) ∧ Paced next) :
    handled linked = none ∧ handled queued = none ∨
      ∃ linked' queued' events, handled linked = some (linked', events) ∧
        handled queued = some (queued', events) ∧ Related linked' queued' ∧ Paced queued' := by
  have same : linked.interruptEnabled = queued.interruptEnabled ∧
      linked.overflow = queued.overflow := by
    obtain ⟨queues, represents, rfl⟩ := related
    exact ⟨rfl, rfl⟩
  unfold handled
  rw [same.1, same.2]
  by_cases enabled : queued.interruptEnabled = true ∧ queued.overflow = true
  · rw [if_pos enabled, if_pos enabled]
    by_cases empty : queued.lists.pending = []
    · left
      have noHead : TimerLists.head queued.lists .listHead = none := by
        simp [TimerLists.head, Queues.select, empty]
      have noHead' : TimerLists.head linked.lists .listHead = none :=
        (head_related related .listHead).trans noHead
      rw [exec_rtcCntVect_empty noHead, exec_rtcCntVect_empty noHead']
      exact ⟨rfl, rfl⟩
    · right
      obtain ⟨queued', events, runs, paced⟩ := fires enabled empty
      obtain ⟨linked', runs', related'⟩ := simulates_exec follows_rtcCntVect related runs
      exact ⟨linked', queued', events, by rw [runs']; rfl, by rw [runs]; rfl, related', paced⟩
  · rw [if_neg enabled, if_neg enabled]
    exact .inr ⟨linked, queued, [], rfl, rfl, related, quiet enabled⟩

theorem tick_follows (related : Related linked queued) (paced : Paced queued) :
    tick linked = none ∧ tick queued = none ∨
      ∃ linked' queued' events, tick linked = some (linked', events) ∧
        tick queued = some (queued', events) ∧ Related linked' queued' ∧ Paced queued' := by
  have related' : Related (device linked .tick).1 (device queued .tick).1 := by
    obtain ⟨queues, represents, rfl⟩ := related
    exact ⟨queues, represents, rfl⟩
  refine handled_follows related' (fun quiet => ?_) fun enabled present => ?_
  · refine ⟨paced.shape, paced.bound, paced.near, paced.loaded, paced.enabled, fun present => ?_,
      paced.running⟩
    simpa [device, paced.enabled present] using quiet
  · obtain ⟨first, rest, list⟩ := List.exists_cons_of_ne_nil present
    obtain ⟨lists, expires, behind⟩ := expireHead_cons list
    have shape : Shape (device queued .tick).1.lists := paced.shape
    exact ⟨_, _, exec_rtcCntVect shape list expires behind, paced_passed shape list expires behind⟩

end Links

end AvrVoiceControl
