import AvrVoiceControl.SchedulerTimeBase

set_option autoImplicit false

namespace AvrVoiceControl

open Interrupts Interrupts.Program LinkedList Scheduler

variable {Timer : Type} [DecidableEq Timer]

section Queues

variable {state : Scheduler (Queues Timer) Timer} {timer : Timer} {timeout : UInt32}

omit [DecidableEq Timer] in
theorem clocked_boot (absoluteTime : Node Timer -> UInt32) :
    Clocked (Scheduler.boot ⟨[], []⟩ absoluteTime) where
  shape := ⟨List.nodup_nil, List.nodup_nil, List.disjoint_nil_left _, List.not_mem_nil,
    List.not_mem_nil⟩
  bound := Nat.zero_le _
  near first head := by cases head
  loaded first head := by cases head
  enabled present := absurd rfl present
  clear present := absurd rfl present
  running present := absurd rfl present
  counts present := absurd rfl present
  ascending := ⟨List.Pairwise.nil, fun node inside => absurd inside List.not_mem_nil⟩
  stopped _ := ⟨rfl, rfl⟩

theorem clocked_created (clocked : Clocked state)
    (inTimeBase : state.isRunning = true -> InTimeBase state state.lists timer timeout) :
    Clocked (created (.timer timer) timeout state) := by
  have clocked' := clocked.removed (.timer timer)
  have outside := @outside_removed _ _ state (.timer timer) clocked.shape (by simp)
  apply clocked_inserted clocked' outside (by simp)
  by_cases present : state.lists.pending = []
  next =>
    have empty := @removed_none _ _ state (.timer timer) clocked.shape (by simp) present
    rw [virtualTime_stopped clocked' empty]
    exact timeout.toNat_lt
  next =>
    by_contra wraps
    have exact := (exact_created_iff clocked present).mpr (inTimeBase (clocked.running present))
    exact remaining_wrapped clocked' outside.1 (by simp) wraps exact.created.2

theorem tick_clocked (clocked : Clocked state) {next : Scheduler (Queues Timer) Timer}
    {events : List (SchedulerEvent Timer)} (ticks : tick state = some (next, events)) :
    Clocked next := by
  by_cases present : state.lists.pending = []
  next =>
    have same : next = (device state .tick).1 := by
      unfold tick handled at ticks
      split_ifs at ticks
      next =>
        have none : TimerLists.head (device state .tick).1.lists .listHead = none := by
          simp [device, TimerLists.head, Queues.select, present]
        rw [exec_rtcCntVect_empty none] at ticks
        cases ticks
      next => exact (Prod.mk.inj (Option.some.inj ticks)).1.symm
    rw [same]
    refine ⟨⟨clocked.shape, clocked.bound, ?_, ?_, ?_, ?_, ?_⟩, ?_, clocked.ascending,
      clocked.stopped⟩ <;> simp [device, present]
  next =>
    by_cases last : state.count = 65535
    next =>
      obtain ⟨first, rest, list⟩ := List.exists_cons_of_ne_nil present
      obtain ⟨lists, expires, behind⟩ := expireHead_cons list
      rw [tick_overflows clocked.toPaced list expires behind last] at ticks
      obtain ⟨rfl, -⟩ := Prod.mk.inj (Option.some.inj ticks)
      have ascending := clocked.ascending
      rw [list] at ascending
      have restartable := @restartable_passed _ { state with count := 0 } _ _ _ clocked.shape list
        expires behind
      rw [← restart_withOverflow]
      refine clocked_restart ⟨restartable.shape, restartable.nearDummy⟩ (Nat.zero_le _)
        (fun _ => rfl) ?_
      dsimp only [passed]
      rw [behind]
      exact ascending.behind
    next =>
      rw [tick_counts (clocked.clear present) last] at ticks
      obtain ⟨rfl, -⟩ := Prod.mk.inj (Option.some.inj ticks)
      refine ⟨⟨clocked.shape, clocked.bound, clocked.near, clocked.loaded, clocked.enabled,
        clocked.clear, clocked.running⟩, fun present => ?_, clocked.ascending, clocked.stopped⟩
      have counts := clocked.counts present
      have bound := state.count.toNat_lt
      have below : state.count.toNat ≠ 65535 := fun same => last (UInt16.toNat_inj.mp same)
      have next : (state.count + 1).toNat = state.count.toNat + 1 := by
        rw [UInt16.toNat_add, UInt16.toNat_one, Nat.mod_eq_of_lt (by omega)]
      dsimp only
      omega

structure Flushed (state : Scheduler (Queues Timer) Timer) : Prop extends Flushable state where
  ascending : Ascending state.absoluteTime state.absoluteTimeOfLastTimeout state.lists.pending
  stopped : state.lists.pending = [] ->
    state.isRunning = false ∧ state.absoluteTimeOfLastTimeout = 0

theorem flushed_deleteHead (flushed : Flushed state) {first : Node Timer}
    (head : state.lists.pending.head? = some first) :
    ∃ next, Returns (timeoutDelete first) state () next ∧ Clocked next := by
  obtain ⟨deletes, restarts, restartable⟩ :=
    @returns_deleteFirst _ _ state first .listHead flushed.shape head (by simp)
  have fewer := state.lists.deleteFrom_sublist .listHead first
  have clocked : Clocked (removedFromLists first state) := by
    rw [restarts]
    refine clocked_restart restartable flushed.bound (fun present => flushed.clear ?_)
      (flushed.ascending.sublist fewer)
    exact fun empty => present (List.sublist_nil.mp (empty ▸ fewer))
  exact ⟨_, deletes, clocked.fewer (clocked.shape.clearNext first) (cutAfter_head _ _)
    (cutAfter_isPrefix _ _).sublist id⟩

end Queues

section Links

variable [Fintype Timer] {linked next : Scheduler (Links Timer) Timer}
  {queued : Scheduler (Queues Timer) Timer} {timer : Timer} {timeout : UInt32}

theorem flushAll_clocked (bound : Nat) (related : Related linked queued) (clocked : Clocked queued)
    (returns : Returns (timeoutFlushAll bound) linked () next) :
    ∃ queued', Related next queued' ∧ Clocked queued' := by
  have ascending : Ascending queued.absoluteTime 0 queued.lists.pending :=
    ⟨clocked.ascending.sorted, fun node inside => Nat.zero_le _⟩
  refine @flushAll_leaves _ _ _ _ _ _ Flushed Clocked bound related
    ⟨⟨clocked.shape, clocked.bound, clocked.clear⟩, ascending, fun _ => ⟨rfl, rfl⟩⟩
    (fun queued node flushed head => ?_) (fun queued flushed empty => ?_)
    (fun queued node clocked _ =>
      ⟨_, returns_timeoutDelete clocked.restartable node, clocked.removed node⟩) returns
  next =>
    obtain ⟨queued', deletes, clocked'⟩ := flushed_deleteHead flushed head
    exact ⟨queued', deletes, ⟨clocked'.toPaced.flushable, clocked'.ascending, clocked'.stopped⟩⟩
  next =>
    refine ⟨⟨flushed.shape, flushed.bound, ?_, ?_, ?_, ?_, ?_⟩, ?_, flushed.ascending,
      flushed.stopped⟩ <;> simp [empty]

/-- The timer that a call creates, if it does: `scheduler_timeout_create` is also called for a timer
whose callback returns a time. -/
def creation (callbacks : List Timer) : Entry Timer -> Option (Timer × UInt32)
  | .create timer timeout => some (timer, timeout)
  | .callbackReturns reschedule =>
    if reschedule ≠ 0 then callbacks.head?.map fun timer => (timer, reschedule) else none
  | _ => none

def moment (state : Scheduler (Links Timer) Timer) :
    Option (Entry Timer) -> Option (Scheduler (Links Timer) Timer)
  | some callee => (call callee state).map Prod.fst
  | none => (tick state).map Prod.fst

def moments : Machine.Step (Option (Scheduler (Links Timer) Timer)) (Option (Entry Timer)) Unit :=
  fun state callee => (state.bind fun state => moment state callee, [])

def CreatesExactly : Option (Scheduler (Links Timer) Timer) -> Option (Entry Timer) -> Prop
  | some state, some callee => state.isRunning = true ->
      ∀ created ∈ creation state.callbacks callee, ∃ next ∈ moment state (some callee),
        Exact state next state.lists.queues.pending next.lists.queues.pending created.1 created.2
  | _, _ => True

def CreatesInTimeBase : Option (Scheduler (Links Timer) Timer) -> Option (Entry Timer) -> Prop
  | some state, some callee => state.isRunning = true ->
      ∀ created ∈ creation state.callbacks callee,
        InTimeBase state state.lists.queues created.1 created.2
  | _, _ => True

omit [DecidableEq Timer] in
theorem exact_iff (related : Related linked queued) {queued' : Scheduler (Queues Timer) Timer}
    (related' : Related next queued') :
    Exact linked next linked.lists.queues.pending next.lists.queues.pending timer timeout ↔
      Exact queued queued' queued.lists.pending queued'.lists.pending timer timeout := by
  obtain ⟨queues, represents, rfl⟩ := related
  obtain ⟨queues', represents', rfl⟩ := related'
  rw [queues_of_represents represents, queues_of_represents represents']
  exact exact_congr (by rfl) (by rfl)

theorem inTimeBase_iff (related : Related linked queued) :
    InTimeBase linked linked.lists.queues timer timeout ↔
      InTimeBase queued queued.lists timer timeout := by
  obtain ⟨queues, represents, rfl⟩ := related
  rw [queues_of_represents represents]
  exact Iff.rfl

theorem creates_iff (related : Related linked queued) (clocked : Clocked queued)
    (running : queued.isRunning = true) {callee : Entry Timer} {callbacks : List Timer}
    (returns : Returns (entry callee) queued ()
      (created (.timer timer) timeout { queued with callbacks := callbacks })) :
    (∃ next ∈ moment linked (some callee), Exact linked next linked.lists.queues.pending
        next.lists.queues.pending timer timeout) ↔
      InTimeBase linked linked.lists.queues timer timeout := by
  have clocked' := clocked.returned callbacks
  have present : queued.lists.pending ≠ [] := by
    intro empty
    rw [(clocked.stopped empty).1] at running
    cases running
  have present' : (created (.timer timer) timeout
      { queued with callbacks := callbacks }).lists.pending ≠ [] :=
    List.ne_nil_of_mem (mem_inserted_self (by simp))
  obtain ⟨next, events, calls, related'⟩ := call_returns related returns
    (clocked'.toPaced.created (by simp) timeout) present'
  have iff := @exact_created_iff _ _ { queued with callbacks := callbacks } timer timeout clocked' present
  rw [moment, calls, Option.map_some]
  simp only [Option.mem_some_iff, exists_eq_left']
  rw [exact_iff related related', inTimeBase_iff related]
  exact (exact_congr (by rfl) (by rfl)).trans iff

theorem createsExactly_iff (related : Related linked queued) (clocked : Clocked queued)
    (callee : Option (Entry Timer)) :
    CreatesExactly (some linked) callee ↔ CreatesInTimeBase (some linked) callee := by
  have running : linked.isRunning = queued.isRunning := by
    obtain ⟨queues, -, rfl⟩ := related
    rfl
  have callbacks : linked.callbacks = queued.callbacks := by
    obtain ⟨queues, -, rfl⟩ := related
    rfl
  cases callee with
  | none => exact Iff.rfl
  | some callee =>
    refine imp_congr_right fun runs => forall₂_congr fun created creates => ?_
    rw [running] at runs
    rw [callbacks] at creates
    cases callee with
    | create timer timeout =>
      obtain rfl := Option.some.inj creates
      exact creates_iff related clocked runs
        (returns_timeoutCreate clocked.restartable (by simp) timeout)
    | callbackReturns reschedule =>
      simp only [creation, Option.mem_def, Option.ite_none_right_eq_some, Option.map_eq_some_iff] at creates
      obtain ⟨again, timer, head, rfl⟩ := creates
      obtain ⟨rest, list⟩ := List.head?_eq_some_iff.mp head
      have returns := returns_callbackReturns clocked.restartable reschedule
      have creates : rescheduled reschedule queued =
          AvrVoiceControl.created (.timer timer) reschedule { queued with callbacks := rest } := by
        simp [rescheduled, list, again]
      rw [creates] at returns
      exact creates_iff related clocked runs returns
    | delete timer => cases creates
    | callNextCallback => cases creates
    | flushAll bound => cases creates

theorem entry_clocked (related : Related linked queued) (clocked : Clocked queued)
    (callee : Entry Timer)
    (inTimeBase : queued.isRunning = true -> ∀ created ∈ creation queued.callbacks callee,
      InTimeBase queued queued.lists created.1 created.2)
    (returns : Returns (entry callee) linked () next) :
    ∃ queued', Related next queued' ∧ Clocked queued' := by
  have along {queued' : Scheduler (Queues Timer) Timer}
      (runs : Returns (entry callee) queued () queued') (clocked' : Clocked queued') :
      ∃ queued', Related next queued' ∧ Clocked queued' :=
    ⟨queued', related_of_returns (system_simulates.program callee) related runs returns, clocked'⟩
  cases callee with
  | create timer timeout =>
    exact along (returns_timeoutCreate clocked.restartable (by simp) timeout)
      (clocked_created clocked fun running => inTimeBase running _ rfl)
  | delete timer => exact along (returns_timeoutDelete clocked.restartable _) (clocked.removed _)
  | callNextCallback => exact along returns_timeoutCallNextCallback clocked.called
  | callbackReturns reschedule =>
    apply along (returns_callbackReturns clocked.restartable reschedule)
    unfold rescheduled
    split
    next => exact clocked
    next timer rest list =>
      split_ifs with again
      next =>
        apply clocked_created (clocked.returned rest)
        intro running
        exact inTimeBase running (timer, reschedule) (by simp [creation, list, again])
      next => exact clocked.returned rest
  | flushAll bound => exact flushAll_clocked bound related clocked returns

theorem handled_of_clocked (related : Related linked queued) (clocked : Clocked queued)
    {events : List (SchedulerEvent Timer)} (handles : handled linked = some (next, events)) :
    next = linked := by
  have same : linked.overflow = queued.overflow := by
    obtain ⟨queues, -, rfl⟩ := related
    rfl
  unfold handled at handles
  split_ifs at handles with taken
  next =>
    have empty : queued.lists.pending = [] := by
      by_contra present
      rw [same, clocked.clear present] at taken
      cases taken.2
    have none : TimerLists.head linked.lists .listHead = none :=
      (head_related related .listHead).trans (List.head?_eq_none_iff.mpr empty)
    rw [exec_rtcCntVect_empty none] at handles
    cases handles
  next => exact (Prod.mk.inj (Option.some.inj handles)).1.symm

theorem moment_clocked (related : Related linked queued) (clocked : Clocked queued)
    (callee : Option (Entry Timer)) (inTimeBase : CreatesInTimeBase (some linked) callee)
    (passes : moment linked callee = some next) :
    ∃ queued', Related next queued' ∧ Clocked queued' := by
  cases callee with
  | none =>
    obtain ⟨⟨last, events⟩, ticks, rfl⟩ := Option.map_eq_some_iff.mp passes
    rcases tick_follows related clocked.toPaced with
      ⟨none, -⟩ | ⟨linked', queued', events', ticks', ticks'', related', -⟩
    next =>
      rw [none] at ticks
      cases ticks
    next =>
      rw [ticks'] at ticks
      obtain ⟨rfl, -⟩ := Prod.mk.inj (Option.some.inj ticks)
      exact ⟨queued', related', tick_clocked clocked ticks''⟩
  | some callee =>
    obtain ⟨⟨last, events⟩, calls, rfl⟩ := Option.map_eq_some_iff.mp passes
    obtain ⟨⟨⟨⟩, called, events'⟩, runs, handles⟩ := Option.bind_eq_some_iff.mp calls
    have inTimeBase' : queued.isRunning = true -> ∀ created ∈ creation queued.callbacks callee,
        InTimeBase queued queued.lists created.1 created.2 := by
      intro running created creates
      rw [← inTimeBase_iff related]
      obtain ⟨queues, -, rfl⟩ := related
      exact inTimeBase running created creates
    obtain ⟨queued', related', clocked'⟩ :=
      entry_clocked related clocked callee inTimeBase' ⟨events', runs⟩
    rw [handled_of_clocked related' clocked' handles]
    exact ⟨queued', related', clocked'⟩

theorem timeBase_iff (next : Node Timer -> Option (Node Timer)) (absoluteTime : Node Timer -> UInt32)
    (run : List (Option (Entry Timer))) :
    let start := some (boot ⟨next, none, none⟩ absoluteTime)
    Machine.Guarded moments CreatesExactly start run ↔
      Machine.Guarded moments CreatesInTimeBase start run := by
  intro start
  refine Machine.guarded_iff
    (fun state => ∀ linked ∈ state, ∃ queued, Related linked queued ∧ Clocked queued)
    (fun state callee tracks inTimeBase next passes => ?_) (fun state callee tracks => ?_) ?_ run
  next =>
    obtain ⟨linked, here, passes⟩ := Option.bind_eq_some_iff.mp passes
    obtain ⟨queued, related, clocked⟩ := tracks linked here
    rw [here] at inTimeBase
    exact moment_clocked related clocked callee inTimeBase passes
  next =>
    cases state with
    | none => exact Iff.rfl
    | some linked =>
      obtain ⟨queued, related, clocked⟩ := tracks linked rfl
      exact createsExactly_iff related clocked callee
  next =>
    intro linked here
    obtain rfl := Option.some.inj here
    exact ⟨Scheduler.boot ⟨[], []⟩ absoluteTime,
      ⟨⟨[], []⟩, .of_lists rfl rfl (List.disjoint_nil_left _), rfl⟩, clocked_boot absoluteTime⟩

instance (state next : Scheduler (Links Timer) Timer) (pending pending' : List (Node Timer))
    (timer : Timer) (timeout : UInt32) :
    Decidable (Exact state next pending pending' timer timeout) :=
  decidable_of_iff
    ((.timer timer ∈ pending' ∧ remaining next (.timer timer) = timeout) ∧
      (∀ other, other ≠ timer -> .timer other ∈ pending ->
        .timer other ∈ pending' ∧
          remaining next (.timer other) = remaining state (.timer other)) ∧
      pending'.Pairwise fun one other => remaining next one ≤ remaining next other)
    ⟨fun ⟨created, others, ordered⟩ => ⟨created, others, ordered⟩,
      fun exact => ⟨exact.created, exact.others, exact.ordered⟩⟩

instance : ∀ (state : Option (Scheduler (Links Timer) Timer)) (callee : Option (Entry Timer)),
    Decidable (CreatesExactly state callee)
  | some state, some _ =>
    -- without a look at every time of 32 bits
    @instDecidableForall (state.isRunning = true) _ inferInstance (Option.decidableForallMem _)
  | some _, none | none, _ => isTrue trivial

theorem timeBase_wraps :
    ¬ Machine.Guarded moments CreatesExactly
      (some (boot (⟨fun _ => none, none, none⟩ : Links (Fin 3)) fun _ => 0))
      ([some (.create 0 5), some (.create 1 100)] ++ List.replicate 6 none ++
        [some (.create 2 4294967293)]) := by
  decide +kernel

end Links

end AvrVoiceControl
