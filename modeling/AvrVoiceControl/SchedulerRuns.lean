import AvrVoiceControl.SchedulerCreation

set_option autoImplicit false

namespace AvrVoiceControl

open Interrupts Interrupts.Rules LinkedList Scheduler

variable {Timer : Type}

def Boundary (mode : Mode) : Config Timer -> Prop :=
  Settled mode False fun _ _ => True

def Waiting : Frame Timer := fun _ queues => queues.expired ≠ []

theorem lasting_waiting : Lasting (Waiting : Frame Timer) where
  expires _ queues queues' waiting expires := by
    cases list : queues.pending with
    | nil => simp [Queues.expireHead, list] at expires
    | cons first rest =>
      cases first with
      | dummy =>
        obtain rfl : _ = queues' := by simpa [Queues.expireHead, list] using expires
        exact waiting
      | timer timer =>
        obtain rfl : _ = queues' := by simpa [Queues.expireHead, list] using expires
        exact fun empty => waiting (List.append_eq_nil_iff.mp empty).1
  pushes _ _ waiting := waiting

def Never : Frame Timer := fun _ _ => False

theorem lasting_never : Lasting (Never : Frame Timer) where
  expires _ _ _ impossible _ := impossible
  pushes _ _ impossible := impossible

structure Stopped (mode : Mode) (config : Config Timer) : Prop where
  masked : Masked False config
  core : Core mode (fun _ _ => True) config
  last : config.2.absoluteTimeOfLastTimeout = 0

theorem boundary_of_settled {mode : Mode} {frame : Frame Timer} {config : Config Timer}
    (settled : Settled mode False frame config) : Boundary mode config :=
  settled_weaken (fun _ => trivial) settled

theorem Stopped.closed {mode : Mode} {config : Config Timer} (stopped : Stopped mode config) :
    Closed mode False config :=
  ⟨stopped.masked, always_of_core stopped.core⟩

theorem boundary_of_stopped {mode : Mode} {config : Config Timer} (stopped : Stopped mode config)
    (empty : config.2.lists.pending = []) : Boundary mode config where
  core := stopped.core
  near head first := by simp [empty] at first
  counts _ timer inside := by simp [empty] at inside
  loads _ head first := by simp [empty] at first
  running := .inr empty

variable [DecidableEq Timer] {mode : Mode}

abbrev Keeps (mode : Mode) (program : Code (Queues Timer) Timer Unit) : Prop :=
  Outline mode (Boundary mode) program fun _ => Boundary mode

theorem sound_boundary :
    Sound (rules mode).Rely (Interruptible mode) (Boundary mode : Config Timer -> Prop) :=
  (mainSetting mode).settled lasting_always

section Callbacks

theorem take_step {config : Config Timer} (settled : Settled mode False Waiting config) :
    ∃ first lists, TimerLists.takeExpired config.2.lists = some (first, lists) ∧
      Boundary mode
        ((rules mode).after config ({ config.2 with lists := lists }, [.taken first])) := by
  obtain ⟨shape, waiting, bound, tracked, timely⟩ := settled.core
  obtain ⟨first, rest, list⟩ := List.exists_cons_of_ne_nil waiting
  have takes : TimerLists.takeExpired config.2.lists =
      some (first, { config.2.lists with expired := rest }) := by
    simp [TimerLists.takeExpired, Queues.takeExpired, list]
  have fewer : rest.Sublist config.2.lists.expired := by simp [list]
  refine ⟨first, _, takes, ⟨⟨⟨shape.sublist (List.Sublist.refl _) fewer, trivial, bound,
    fun conserves => (tracked conserves).take list, fun timed => ?_⟩, settled.near, settled.counts,
    settled.loads⟩, settled.running⟩⟩
  exact ⟨(timely timed).later, (timely timed).called, (timely timed).punctual⟩

theorem outline_restoreInterrupt (enabled : Bool) :
    Keeps mode (restoreInterrupt enabled : Code (Queues Timer) Timer Unit) := by
  cases enabled with
  | true => exact outline_enableInterrupt lasting_always
  | false => exact spec_done sound_boundary fun _ here => here

theorem outline_callCallback (timer : Node Timer) :
    Keeps mode (callCallback timer) := by
  cases timer with
  | timer timer =>
    apply spec_emit sound_boundary sound_boundary
    intro config here _
    exact ⟨⟨here.core, here.near, here.counts, here.loads⟩, here.running⟩
  | dummy => exact spec_done sound_boundary fun _ here => here

theorem outline_timeoutCallNextCallback :
    Keeps mode (timeoutCallNextCallback : Code (Queues Timer) Timer Unit) := by
  have setting : Setting mode False (Rely (rules mode) : Config Timer -> _) _ := mainSetting mode
  have waiting : Sound (rules mode).Rely (Interruptible mode)
      (Settled mode False (Waiting : Frame Timer)) := setting.settled lasting_waiting
  let looked : Bool -> Config Timer -> Prop := fun isEmpty =>
    if isEmpty = true then Boundary mode else Settled mode False Waiting
  have looks : Outline mode (Boundary mode)
      (.read fun state => (TimerLists.head state.lists .executeQueueHead).isNone) looked := by
    refine spec_report sound_boundary (fun isEmpty => ?_) fun config here _ => ?_
    · cases isEmpty
      · exact waiting
      · exact sound_boundary
    · dsimp only [looked]
      split
      · exact here
      · rename_i present
        refine settled_weaken (fun _ empty => present ?_) here
        exact congrArg Option.isNone (List.head?_eq_none_iff.mpr empty)
  apply spec_bind setting.refl looks
  intro isEmpty
  cases isEmpty with
  | true => exact spec_done sound_boundary fun _ here => here
  | false =>
    refine spec_bind setting.refl (spec_report waiting (fun _ => waiting) fun _ here _ => here) ?_
    intro tempIE
    have silent : ∀ journal : Journal Timer,
        [SchedulerEvent.taking tempIE].foldl Journal.observe journal = journal :=
      fun journal => journal.observe_taking tempIE
    apply spec_bind setting.refl (outline_maskInterrupt waiting (fun _ => settled_masks) silent)
    intro _
    refine spec_bind setting.refl (spec_attempt (sound_masked_and waiting) (fun _ => sound_boundary)
      fun config here => ?_) fun timer => ?_
    · obtain ⟨first, lists, takes, reached⟩ := take_step here.1
      exact ⟨first, _, _, Option.bind_eq_some_iff.mpr ⟨_, takes, rfl⟩, fun _ => reached⟩
    · exact spec_bind setting.refl (outline_restoreInterrupt tempIE) fun _ =>
        outline_callCallback timer

theorem outline_callbackReturns (reschedule : UInt32) :
    Keeps mode (callbackReturns reschedule : Code (Queues Timer) Timer Unit) := by
  have setting : Setting mode False (Rely (rules mode) : Config Timer -> _) _ := mainSetting mode
  refine spec_bind setting.refl (spec_report sound_boundary (fun _ => sound_boundary)
    fun _ here _ => here) fun callback => ?_
  cases callback with
  | none => exact spec_done sound_boundary fun _ here => here
  | some timer =>
    refine spec_bind setting.refl (spec_emit sound_boundary sound_boundary fun config here _ =>
      ⟨⟨here.core, here.near, here.counts, here.loads⟩, here.running⟩) fun _ => ?_
    split
    · exact outline_timeoutCreate (by simp) reschedule
    · exact spec_done sound_boundary fun _ here => here

end Callbacks

section Flush

theorem outline_flushLoop (loses : ¬ mode.conserves) (list : Selected) (bound : Nat) :
    Keeps mode (flushLoop list bound : Code (Queues Timer) Timer Unit) := by
  have setting : Setting mode False (Rely (rules mode) : Config Timer -> _) _ := mainSetting mode
  induction bound with
  | zero => exact spec_spin sound_boundary
  | succ bound ih =>
    refine spec_bind setting.refl (spec_report sound_boundary (fun _ => sound_boundary)
      fun _ here _ => here) fun head => ?_
    cases head with
    | none => exact spec_done sound_boundary fun _ here => here
    | some timer =>
      have deletes : Outline mode (Settled mode False (Kept fun _ => True)) (timeoutDelete timer)
          _ := outline_timeoutDelete timer fun conserves => absurd conserves loses
      refine spec_bind setting.refl (spec_weaken deletes fun config here => ?_) fun _ => ?_
      · exact settled_weaken (fun _ => trivial) here
      · exact spec_weaken ih fun config here => boundary_of_settled here

theorem stopped_receives {before next : Config Timer} (receives : (rules mode).Receives before next)
    (stopped : Stopped mode before) : Stopped mode next where
  masked := masked_receives receives stopped.masked
  core := core_receives receives stopped.core
  last := by rcases receives_cases receives with ⟨_, _, _, rfl⟩ | rfl <;> exact stopped.last

theorem sound_stopped :
    Sound (rules mode).Rely (Interruptible mode) (Stopped mode : Config Timer -> Prop) :=
  (mainSetting mode).masked stopped_receives fun _ here => here.closed

theorem outline_stopTimeouts (loses : ¬ mode.conserves) :
    Outline mode (Boundary mode) stopTimeouts fun _ => (Stopped mode : Config Timer -> Prop) := by
  have setting : Setting mode False (Rely (rules mode) : Config Timer -> _) _ := mainSetting mode
  apply spec_bind setting.refl (outline_disableInterrupt sound_boundary fun _ => settled_masks)
  refine fun _ => spec_emit (sound_masked_and sound_boundary) sound_stopped fun config here _ => ?_
  obtain ⟨shape, -, bound, -, timely⟩ := here.1.core
  refine ⟨here.2, ⟨shape, trivial, bound, fun conserves => absurd conserves loses, fun timed => ?_⟩,
    rfl⟩
  refine ⟨fun timer member => ?_, (timely timed).called, (timely timed).punctual⟩
  exact Nat.le_trans (Nat.le_add_right _ _) ((timely timed).later timer member)

theorem outline_deleteFirst (loses : ¬ mode.conserves) (timer : Node Timer) :
    Outline mode
      (fun config => Stopped mode config ∧ config.2.lists.pending.head? = some timer)
      (timeoutDelete timer) fun _ => Boundary mode := by
  have setting : Setting mode False (Rely (rules mode) : Config Timer -> _) _ := mainSetting mode
  let known : (Node Timer -> Nat) -> Prop := fun _ => True
  have away := lasting_away known timer
  have first : Sound (rules mode).Rely (Interruptible mode) fun config : Config Timer =>
      Stopped mode config ∧ config.2.lists.pending.head? = some timer := by
    refine setting.masked (fun receives here => ⟨stopped_receives receives here.1, ?_⟩)
      fun _ here => here.1.closed
    rcases receives_cases receives with ⟨_, _, _, rfl⟩ | rfl <;> exact here.2
  -- The timer is found at the head, so the search cannot fail.
  have helper : Outline mode
      (fun config => Stopped mode config ∧ config.2.lists.pending.head? = some timer)
      (timeoutDeleteHelper .listHead timer) fun result =>
        Settled mode False (if result = true then Away known timer else Never) := by
    refine outline_timeoutDeleteHelper first (fun config here => ?_) away lasting_never
      (fun config here empty => ?_) fun config here masked removal lists events deletes emits => ?_
    · exact ⟨⟨.inr rfl, here.1.core, here.1.last⟩, here.2⟩
    · have empty' : config.2.lists.pending = [] := empty
      simp [empty'] at here
    · have isFirst := (config.2.lists.deleteFrom_first .listHead timer).mpr here.2
      rw [deletes] at isFirst
      obtain rfl : removal = .head := isFirst
      obtain rfl : events = [.deleted timer, .replaced] := by simpa using emits
      obtain ⟨shape, -⟩ := here.1.core
      have inside : timer ∈ config.2.lists.select .listHead := List.mem_of_head? here.2
      have gone : Away known timer config.1.timeout (config.2.lists.deleteFrom .listHead timer).2 :=
        ⟨trivial, fun _ => shape.outside_deleteFrom inside⟩
      have step := delete_head_step here.1.core masked (fun conserves => absurd conserves loses)
        here.2 gone
      rw [deletes] at step
      exact step
  have settled := setting.settled away
  have lists : Outline mode
      (fun config => Stopped mode config ∧ config.2.lists.pending.head? = some timer)
      (deleteFromLists timer) fun _ => Settled mode False (Away known timer) := by
    apply spec_bind setting.refl helper
    intro result
    cases result with
    | true => exact spec_done settled fun _ here => here
    | false => exact fun config here => here.core.2.1.elim
  apply spec_bind setting.refl lists
  intro _
  exact spec_emit settled sound_boundary fun config here _ =>
    boundary_of_settled (clear_step here fun conserves => absurd conserves loses)

theorem outline_flushLoop_stopped (loses : ¬ mode.conserves) (bound : Nat) :
    Outline mode (Stopped mode) (flushLoop .listHead bound)
      fun _ => (Boundary mode : Config Timer -> Prop) := by
  have setting : Setting mode False (Rely (rules mode) : Config Timer -> _) _ := mainSetting mode
  cases bound with
  | zero => exact spec_spin sound_stopped
  | succ bound =>
    let looked : Option (Node Timer) -> Config Timer -> Prop := fun head config =>
      Stopped mode config ∧ config.2.lists.pending.head? = head
    have sound : ∀ head, Sound (rules mode).Rely (Interruptible mode) (looked head) := by
      refine fun head => setting.masked (fun receives here => ⟨stopped_receives receives here.1, ?_⟩)
        fun _ here => here.1.closed
      rcases receives_cases receives with ⟨_, _, _, rfl⟩ | rfl <;> exact here.2
    refine spec_bind setting.refl (spec_report sound_stopped sound fun _ here _ => ⟨here, rfl⟩) ?_
    intro head
    cases head with
    | none =>
      exact spec_done (sound none) fun config here =>
        boundary_of_stopped here.1 (List.head?_eq_none_iff.mp here.2)
    | some timer =>
      exact spec_bind setting.refl (outline_deleteFirst loses timer) fun _ =>
        outline_flushLoop loses .listHead bound

theorem outline_timeoutFlushAll (loses : ¬ mode.conserves) (bound : Nat) :
    Keeps mode (timeoutFlushAll bound : Code (Queues Timer) Timer Unit) := by
  have setting : Setting mode False (Rely (rules mode) : Config Timer -> _) _ := mainSetting mode
  apply spec_bind setting.refl (outline_stopTimeouts loses)
  intro _
  apply spec_bind setting.refl (outline_flushLoop_stopped loses bound)
  intro _
  exact outline_flushLoop loses .executeQueueHead bound

end Flush

theorem outline_entry {entry : Entry Timer}
    (allowed : mode.conserves -> ∀ bound, entry ≠ .flushAll bound) :
    Keeps mode (Scheduler.entry entry) := by
  cases entry with
  | create timer timeout => exact outline_timeoutCreate (by simp) timeout
  | delete timer =>
    have deletes : Outline mode (Settled mode False (Kept fun _ => True))
        (timeoutDelete (.timer timer)) _ := outline_timeoutDelete (.timer timer) fun _ => by simp
    exact spec_mono deletes fun _ _ here => boundary_of_settled here
  | callNextCallback => exact outline_timeoutCallNextCallback
  | callbackReturns reschedule => exact outline_callbackReturns reschedule
  | flushAll bound =>
    exact outline_timeoutFlushAll (fun conserves => allowed conserves bound rfl) bound

abbrev InOutline (mode : Mode) (state : Processor (Scheduler (Queues Timer) Timer)
    (SchedulerEvent Timer) × Journal Timer) : Prop :=
  (rules mode).Good False (Always mode) (Interruptible mode) (Boundary mode) state

theorem inOutline_step {state : Processor (Scheduler (Queues Timer) Timer) (SchedulerEvent Timer) ×
      Journal Timer} (good : InOutline mode state) {action : Action (Entry Timer) Input}
    (allows : (rules mode).Allows state action) : InOutline mode ((rules mode).step state action).1 := by
  refine good_step (fun config holds interrupts => ?_) (fun config entry here allowed => ?_)
    (fun faulty => faulty.elim) good allows
  · have calm := holds.2 interrupts.1
    exact wp_mono (spec_rtcCntVect lasting_always config ⟨calm, interrupts⟩) fun _ _ _ => trivial
  · exact outline_entry allowed config here

theorem inOutline_boot (absoluteTime : Node Timer -> UInt32) :
    InOutline mode (⟨boot ⟨[], []⟩ absoluteTime, .done (), none⟩, Journal.start) := by
  have start : Boundary mode (Journal.start, boot ⟨[], []⟩ absoluteTime) := by
    refine ⟨⟨⟨⟨List.nodup_nil, List.nodup_nil, List.disjoint_nil_left _, List.not_mem_nil,
      List.not_mem_nil⟩, trivial, Nat.zero_le _, fun _ => ?_, fun _ => ?_⟩, ?_, ?_, ?_⟩, .inr rfl⟩
    · exact ⟨fun _ _ => Iff.rfl, List.nodup_nil, List.not_mem_nil, rfl, List.Pairwise.nil,
        fun _ inside => absurd inside List.not_mem_nil, rfl⟩
    · exact ⟨fun _ inside => absurd inside List.not_mem_nil, fun _ => Nat.le_refl 0, rfl⟩
    · exact fun _ first => by cases first
    · exact fun _ _ inside => absurd inside List.not_mem_nil
    · exact fun _ _ first => by cases first
  intro next happens
  have later := sound_boundary.stable happens start
  exact ⟨sound_boundary.holds next later, later⟩

section Links

def powerUp (next : Node Timer -> Option (Node Timer)) (absoluteTime : Node Timer -> UInt32) :
    Processor (Scheduler (Links Timer) Timer) (SchedulerEvent Timer) × Journal Timer where
  fst :=
    { state := boot ⟨next, none, none⟩ absoluteTime
      main := .done ()
      handler := none }
  snd := Journal.start

omit [DecidableEq Timer] in
theorem inStep_powerUp (next : Node Timer -> Option (Node Timer))
    (absoluteTime : Node Timer -> UInt32) :
    InStep Related (powerUp next absoluteTime).1
      ⟨boot ⟨[], []⟩ absoluteTime, .done (), none⟩ where
  state := ⟨⟨[], []⟩, .of_lists rfl rfl (List.disjoint_nil_left _), rfl⟩
  main := rfl
  handler := trivial

omit [DecidableEq Timer] in
theorem head_of_related {linked : Scheduler (Links Timer) Timer}
    {queued : Scheduler (Queues Timer) Timer} (related : Related linked queued) :
    linked.lists.schedulerListHead = queued.lists.pending.head? := by
  obtain ⟨queues, represents, rfl⟩ := related
  exact path_head (represents.path .listHead)

theorem run_always [Fintype Timer]
    {guarding : Rules (Scheduler (Links Timer) Timer) (SchedulerEvent Timer) (Entry Timer) Input
      (Journal Timer)}
    (transfers : Transfers Related guarding (rules mode))
    {next : Node Timer -> Option (Node Timer)} {absoluteTime : Node Timer -> UInt32}
    {actions : List (Action (Entry Timer) Input)}
    (guarded : Machine.Guarded guarding.step guarding.Allows (powerUp next absoluteTime) actions) :
    ∃ queued,
      Related (Machine.run guarding.step (powerUp next absoluteTime) actions).1.1.state queued ∧
      Always mode
        (Journal.after (Machine.run guarding.step (powerUp next absoluteTime) actions).2, queued) := by
  obtain ⟨last, inStep, good, -⟩ := run_follows transfers
    (fun good allows => inOutline_step good allows) (inStep_powerUp next absoluteTime)
    (inOutline_boot absoluteTime) guarded
  exact ⟨last.state, inStep.state, good_inside (fun _ holds => holds.1) good⟩

end Links

end AvrVoiceControl
