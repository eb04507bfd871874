import AvrVoiceControl.SchedulerRuns

set_option autoImplicit false

namespace AvrVoiceControl

open Interrupts Interrupts.Rules LinkedList Scheduler

structure Watch where
  -- Neither a timer was created nor the lists flushed.
  fresh : Bool
  -- `scheduler_timeout_create` has not linked its timer.
  creating : Bool

variable {Timer : Type}

def Watch.observe (watch : Watch) : SchedulerEvent Timer -> Watch
  | .creating _ _ => { watch with creating := true }
  | .created _ => ⟨false, false⟩
  | .stopped => { watch with fresh := false }
  | _ => watch

abbrev Seen (Timer : Type) := Watch × Scheduler (Links Timer) Timer

def Covered (state : Scheduler (Links Timer) Timer) : Prop :=
  state.interruptEnabled = true -> state.lists.schedulerListHead ≠ none

/-- Before the statement that emits the event: where the interrupt may be enabled again in vain. -/
def Arms (config : Seen Timer) : SchedulerEvent Timer -> Prop
  | .searching list timer =>
    config.1.creating = true ∨ config.2.lists.schedulerListHead ≠ none ∨
      config.2.lists.head list = some timer
  | .taking tempIE => tempIE = true -> config.2.lists.schedulerListHead ≠ none
  | _ => True

def Scheduler.Entry.arms : Entry Timer -> Bool
  | .create _ _ | .flushAll _ => true
  | _ => false

variable [DecidableEq Timer] [Fintype Timer]

/-- Any call at any time, any change of the counter and its flag, and the handler between any two
statements when its interrupt is enabled and flagged. -/
def hardwareRules : Rules (Scheduler (Links Timer) Timer) (SchedulerEvent Timer) (Entry Timer)
    Input Watch where
  system := Scheduler.system
  observe := Watch.observe
  calls _ _ := True
  inputs _ _ := True
  interrupts config := config.2.interruptEnabled = true ∧ config.2.overflow = true
  effects _ _ := True

def armingRules : Rules (Scheduler (Links Timer) Timer) (SchedulerEvent Timer) (Entry Timer)
    Input Watch where
  system := Scheduler.system
  observe := Watch.observe
  calls config entry := config.1.fresh = true -> entry.arms = true
  inputs _ _ := True
  interrupts config :=
    config.2.interruptEnabled = true ∧ config.2.overflow = true ∧
      (config.1.fresh = true ∨ config.1.creating = true ->
        config.2.lists.schedulerListHead ≠ none)
  effects config events := ∀ event ∈ events, Arms config event

def turnOn (next : Node Timer -> Option (Node Timer)) (absoluteTime : Node Timer -> UInt32) :
    Processor (Scheduler (Links Timer) Timer) (SchedulerEvent Timer) × Watch :=
  (⟨boot ⟨next, none, none⟩ absoluteTime, .done (), none⟩, ⟨true, false⟩)

def hasReturned (before after : Processor (Scheduler (Links Timer) Timer) (SchedulerEvent Timer)) :
    Bool :=
  before.handler.isSome && after.handler.isNone || !before.main.isDone && after.main.isDone

def hasFaulted (processor : Processor (Scheduler (Links Timer) Timer) (SchedulerEvent Timer)) :
    Bool :=
  (processor.handler.getD processor.main).isFault

/-- With the return of a call or of the handler the interrupt is not enabled without a timer, and
nothing reads through NULL. -/
def StaysCovered (state : Processor (Scheduler (Links Timer) Timer) (SchedulerEvent Timer) × Watch)
    (action : Action (Entry Timer) Input) : Prop :=
  let next := (Scheduler.system.step state.1 action).1
  (hasReturned state.1 next = true -> Covered next.state) ∧ hasFaulted next = false

section Decidable

omit [DecidableEq Timer] [Fintype Timer] in
instance (state : Scheduler (Links Timer) Timer) : Decidable (Covered state) :=
  inferInstanceAs (Decidable (_ -> _))

omit [Fintype Timer] in
instance (config : Seen Timer) : ∀ event, Decidable (Arms config event)
  | .searching _ _ => inferInstanceAs (Decidable (_ ∨ _))
  | .taking _ => inferInstanceAs (Decidable (_ -> _))
  | .creating _ _ | .created _ | .deleted _ | .released _ | .expired _ | .taken _ | .ticked
  | .absolute _ | .counted | .loaded | .stopped | .replaced =>
    inferInstanceAs (Decidable True)

instance (config : Seen Timer) (entry : Entry Timer) :
    Decidable (hardwareRules.calls config entry) :=
  inferInstanceAs (Decidable True)

instance (config : Seen Timer) (input : Input) : Decidable (hardwareRules.inputs config input) :=
  inferInstanceAs (Decidable True)

instance (config : Seen Timer) : Decidable (hardwareRules.interrupts config) :=
  inferInstanceAs (Decidable (_ ∧ _))

instance (config : Seen Timer) (events : List (SchedulerEvent Timer)) :
    Decidable (hardwareRules.effects config events) :=
  inferInstanceAs (Decidable True)

instance (config : Seen Timer) (entry : Entry Timer) :
    Decidable (armingRules.calls config entry) :=
  inferInstanceAs (Decidable (_ -> _))

instance (config : Seen Timer) (input : Input) : Decidable (armingRules.inputs config input) :=
  inferInstanceAs (Decidable True)

instance (config : Seen Timer) : Decidable (armingRules.interrupts config) :=
  inferInstanceAs (Decidable (_ ∧ _ ∧ (_ -> _)))

instance (config : Seen Timer) (events : List (SchedulerEvent Timer)) :
    Decidable (armingRules.effects config events) :=
  inferInstanceAs (Decidable (∀ event ∈ events, Arms config event))

instance (state : Processor (Scheduler (Links Timer) Timer) (SchedulerEvent Timer) × Watch)
    (action : Action (Entry Timer) Input) : Decidable (StaysCovered state action) :=
  inferInstanceAs (Decidable (_ ∧ _))

end Decidable

section Assertions

structure Watched (creating fresh : Bool) (watch : Watch) : Prop where
  creating : watch.creating = creating
  fresh : watch.fresh = true -> fresh = true

variable {creating fresh : Bool} {watch : Watch} {config : Seen Timer}

omit [DecidableEq Timer] [Fintype Timer]

structure Off (creating fresh : Bool) (config : Seen Timer) : Prop where
  watched : Watched creating fresh config.1
  masked : config.2.interruptEnabled = false

structure Handled (creating fresh : Bool) (config : Seen Timer) : Prop where
  watched : Watched creating fresh config.1
  covered : Covered config.2

def Armed (config : Seen Timer) : Prop :=
  config.2.interruptEnabled = true ->
    config.2.lists.schedulerListHead ≠ none ∨ config.1.fresh = true ∨ config.1.creating = true

structure Sheltering (creating fresh : Bool) (config : Seen Timer) : Prop where
  watched : Watched creating fresh config.1
  armed : Armed config

/-- With a timer, unless the interrupt may be enabled in vain. -/
structure Supplied (vain : Prop) (creating fresh : Bool) (config : Seen Timer) : Prop
    extends Off creating fresh config where
  present : vain ∨ config.2.lists.schedulerListHead ≠ none

theorem Watched.weaken (watched : Watched creating fresh watch) : Watched creating true watch :=
  ⟨watched.creating, fun _ => rfl⟩

theorem watched_created : Watched false false ⟨false, false⟩ :=
  ⟨rfl, fun impossible => impossible⟩

theorem Watched.observes (watched : Watched creating fresh watch)
    {events : List (SchedulerEvent Timer)}
    (silent : ∀ event ∈ events, ∀ watch : Watch, watch.observe event = watch) :
    Watched creating fresh (events.foldl Watch.observe watch) := by
  induction events generalizing watch with
  | nil => exact watched
  | cons event events ih =>
    rw [List.foldl_cons, silent event List.mem_cons_self]
    exact ih watched fun later member => silent later (List.mem_cons_of_mem _ member)

theorem Off.handled (off : Off creating fresh config) : Handled creating fresh config :=
  ⟨off.watched, fun enabled => absurd enabled (by simp [off.masked])⟩

theorem Handled.sheltering (handled : Handled creating fresh config) :
    Sheltering creating fresh config :=
  ⟨handled.watched, fun enabled => .inl (handled.covered enabled)⟩

theorem Off.sheltering (off : Off creating fresh config) : Sheltering creating fresh config :=
  off.handled.sheltering

theorem Supplied.load {vain : Prop} (supplied : Supplied vain creating fresh config)
    (load : UInt32) :
    Supplied vain creating fresh (config.1, { config.2 with lastTimerLoad := load }) :=
  ⟨⟨supplied.watched, supplied.masked⟩, supplied.present⟩

theorem Sheltering.handled (sheltering : Sheltering false false config) :
    Handled false false config := by
  refine ⟨sheltering.watched, fun enabled => ?_⟩
  rcases sheltering.armed enabled with present | fresh | creating
  next => exact present
  next => exact Bool.noConfusion (sheltering.watched.fresh fresh)
  next => exact Bool.noConfusion (sheltering.watched.creating.symm.trans creating)

def Timeless (assertion : Seen Timer -> Prop) : Prop :=
  ∀ watch state count overflow, assertion (watch, state) ->
    assertion (watch, { state with count := count, overflow := overflow })

theorem timeless_off : Timeless (Off creating fresh : Seen Timer -> Prop) :=
  fun _ _ _ _ here => ⟨here.watched, here.masked⟩

theorem timeless_handled : Timeless (Handled creating fresh : Seen Timer -> Prop) :=
  fun _ _ _ _ here => ⟨here.watched, here.covered⟩

theorem timeless_sheltering : Timeless (Sheltering creating fresh : Seen Timer -> Prop) :=
  fun _ _ _ _ here => ⟨here.watched, here.armed⟩

theorem timeless_supplied {vain : Prop} :
    Timeless (Supplied vain creating fresh : Seen Timer -> Prop) :=
  fun _ _ _ _ here => ⟨⟨here.watched, here.masked⟩, here.present⟩

end Assertions

variable {creating fresh : Bool} {rely : Seen Timer -> Seen Timer -> Prop}
  {holds : Seen Timer -> Prop}

theorem timeless_receives {assertion : Seen Timer -> Prop} (timeless : Timeless assertion)
    {before next : Seen Timer} (receives : armingRules.Receives before next)
    (here : assertion before) : assertion next := by
  obtain ⟨input, -, rfl⟩ := receives
  cases input with
  | tick => exact timeless _ _ _ _ here
  | hardware count overflow => exact timeless _ _ count overflow here

structure Place (rely : Seen Timer -> Seen Timer -> Prop) (holds : Seen Timer -> Prop) : Prop where
  refl : ∀ config, rely config config
  masked : ∀ {assertion : Seen Timer -> Prop}, Timeless assertion ->
    (∀ config, assertion config -> config.2.interruptEnabled = false) -> Sound rely holds assertion
  handled : ∀ {creating fresh : Bool}, Sound rely holds (Handled creating fresh)

omit [DecidableEq Timer] [Fintype Timer] in
theorem Place.off (place : Place rely holds) : Sound rely holds (Off creating fresh) :=
  place.masked timeless_off fun _ here => here.masked

omit [DecidableEq Timer] [Fintype Timer] in
theorem Place.supplied (place : Place rely holds) {vain : Prop} :
    Sound rely holds (Supplied vain creating fresh) :=
  place.masked timeless_supplied fun _ here => here.masked

section Start

theorem watched_approachHead {config : Seen Timer} (off : Off creating fresh config)
    {period : Option UInt32} {next : Scheduler (Links Timer) Timer}
    {events : List (SchedulerEvent Timer)}
    (approaches : approachHead config.2 = some (period, next, events)) :
    Supplied (period = none) creating fresh (armingRules.after config (next, events)) := by
  unfold approachHead at approaches
  split at approaches
  next =>
    cases approaches
    exact ⟨⟨off.watched, off.masked⟩, .inl rfl⟩
  next first head =>
    -- A dummy in front of the timers is a timer as well.
    by_cases far : config.2.absoluteTime first - config.2.absoluteTimeOfLastTimeout > 65535
    next =>
      simp only [if_pos far] at approaches
      cases approaches
      exact ⟨⟨off.watched, off.masked⟩, .inr (Option.some_ne_none _)⟩
    next =>
      simp only [if_neg far] at approaches
      cases approaches
      have present : config.2.lists.schedulerListHead = some first := head
      exact ⟨⟨off.watched, off.masked⟩, .inr (by simp [after, present])⟩

theorem arming_setTimerDuration (place : Place rely holds) {vain : Prop} (duration : UInt32) :
    armingRules.Spec True rely holds (Supplied vain creating fresh) (setTimerDuration duration)
      fun _ => Supplied vain creating fresh := by
  have supplied : Sound rely holds (Supplied vain creating fresh) := place.supplied
  refine spec_bind place.refl (spec_emit supplied supplied fun config here _ => ?_) fun _ => ?_
  · exact here.load _
  · apply spec_emit supplied supplied
    intro config here _
    exact ⟨⟨here.watched, here.masked⟩, here.present⟩

theorem arming_startTimerAtHead (place : Place rely holds) {pre : Seen Timer -> Prop}
    (sound : Sound rely holds pre) (watched : ∀ config, pre config -> Watched creating fresh config.1) :
    armingRules.Spec True rely holds pre startTimerAtHead fun _ => Handled creating fresh := by
  have off : Sound rely holds (Off creating fresh) := place.off
  refine spec_bind place.refl (spec_emit sound off fun config here _ => ?_) fun _ => ?_
  · exact ⟨watched config here, rfl⟩
  refine spec_bind place.refl (spec_attempt_faulty off (fun _ => place.supplied)
    fun config here period next events approaches _ => watched_approachHead here approaches) ?_
  intro period
  cases period with
  | none =>
    have supplied : Sound rely holds (Supplied (none = (none : Option UInt32)) creating fresh) :=
      place.supplied
    refine spec_bind place.refl (spec_emit supplied off fun config here _ => ?_) fun _ => ?_
    · exact ⟨here.watched, rfl⟩
    apply spec_emit off place.handled
    intro config here _
    exact Off.handled ⟨⟨here.watched.creating, fun stopped => by cases stopped⟩, here.masked⟩
  | some duration =>
    have supplied : Sound rely holds (Supplied (some duration = none) creating fresh) :=
      place.supplied
    refine spec_bind place.refl (arming_setTimerDuration place duration) fun _ => ?_
    refine spec_bind place.refl (spec_emit supplied place.handled fun config here _ => ?_) fun _ =>
      spec_emit place.handled place.handled fun config here _ => ⟨here.watched, here.covered⟩
    have present := here.present.resolve_left (Option.some_ne_none duration)
    exact ⟨here.watched, fun _ => present⟩

end Start

section Handler

theorem place_handler :
    Place (armingRules : Rules _ _ (Entry Timer) _ _).Waits fun _ : Seen Timer => True where
  refl _ := .refl
  masked timeless _ := sound_waits (timeless_receives timeless) fun _ _ => trivial
  handled := sound_waits (timeless_receives timeless_handled) fun _ _ => trivial

/-- The handler does not read the interrupt's enable bit: it leaves it as it fits the list. -/
theorem arming_rtcCntVect :
    (armingRules : Rules _ _ (Entry Timer) _ _).Spec True armingRules.Waits (fun _ => True)
      (fun config => Watched creating fresh config.1) rtcCntVect
      fun _ => Handled creating fresh := by
  have place := @place_handler Timer _ _
  have timeless : Timeless fun config : Seen Timer => Watched creating fresh config.1 :=
    fun _ _ _ _ here => here
  have watched : Sound (armingRules : Rules _ _ (Entry Timer) _ _).Waits (fun _ => True)
      fun config : Seen Timer => Watched creating fresh config.1 :=
    sound_waits (timeless_receives timeless) fun _ _ => trivial
  refine spec_bind place.refl (spec_attempt_faulty watched (fun _ => watched) ?_) fun _ => ?_
  · intro config here result next events expires _
    simp only [Option.bind_eq_bind, Option.bind_eq_some_iff, Option.pure_def] at expires
    obtain ⟨head, -, lists, -, returns⟩ := expires
    cases returns
    have same : (armingRules.after config
        ({ config.2 with
            lists := lists
            absoluteTimeOfLastTimeout := config.2.absoluteTime head
            lastTimerLoad := 0 },
          if head = .dummy then [] else [.expired head])).1 = config.1 := by
      by_cases dummy : head = .dummy <;> simp [dummy, after, armingRules, Watch.observe]
    exact same ▸ here
  · exact spec_bind place.refl (arming_startTimerAtHead place watched fun _ here => here) fun _ =>
      spec_emit place.handled place.handled fun config here _ => ⟨here.watched, here.covered⟩

end Handler

theorem sound_arming {assertion : Seen Timer -> Prop} (timeless : Timeless assertion)
    (weak : ∀ config, assertion config -> Watched creating fresh config.1 ∧ Armed config)
    (strong : ∀ config, Handled creating fresh config -> assertion config) :
    Sound (armingRules : Rules _ _ (Entry Timer) _ _).Rely Armed assertion := by
  refine @sound_rely _ _ _ _ _ armingRules True (fun _ => True) _ _
    (timeless_receives timeless) ?_ fun config here => (weak config here).2
  exact fun config here => wp_mono (arming_rtcCntVect config (weak config here.1).1)
    fun _ last handled => strong last handled

theorem sound_sheltering :
    Sound (armingRules : Rules _ _ (Entry Timer) _ _).Rely Armed (Sheltering creating fresh) :=
  sound_arming timeless_sheltering (fun _ here => ⟨here.watched, here.armed⟩)
    fun _ handled => handled.sheltering

theorem place_main : Place (armingRules : Rules _ _ (Entry Timer) _ _).Rely Armed where
  refl _ := .refl
  masked timeless masked :=
    sound_masked (timeless_receives timeless)
      (fun config here interrupts => absurd interrupts.1 (by simp [masked config here]))
      fun config here enabled => absurd enabled (by simp [masked config here])
  handled := sound_arming timeless_handled (fun _ here => ⟨here.watched, here.sheltering.armed⟩)
    fun _ handled => handled

abbrev Arming {Result : Type} (pre : Seen Timer -> Prop) (program : Code (Links Timer) Timer Result)
    (post : Result -> Seen Timer -> Prop) : Prop :=
  armingRules.Spec True armingRules.Rely Armed pre program post

section Delete

variable {list : Selected} {timer : Node Timer}

structure Searchable (list : Selected) (timer : Node Timer) (creating fresh : Bool)
    (config : Seen Timer) : Prop extends Off creating fresh config where
  found : creating = true ∨ config.2.lists.schedulerListHead ≠ none ∨
    config.2.lists.head list = some timer

omit [DecidableEq Timer] [Fintype Timer] in
theorem timeless_searchable :
    Timeless (Searchable list timer creating fresh : Seen Timer -> Prop) :=
  fun _ _ _ _ here => ⟨⟨here.watched, here.masked⟩, here.found⟩

theorem deleteFrom_listHead {links lists : Links Timer} {removal : Removal}
    (deletes : links.deleteFrom list timer = some (removal, lists)) (other : removal ≠ .head) :
    lists.schedulerListHead = links.schedulerListHead ∧ links.head list ≠ some timer := by
  unfold Links.deleteFrom at deletes
  by_cases first : links.head list = some timer
  next =>
    rw [if_pos first] at deletes
    cases deletes
    exact absurd rfl other
  next =>
    rw [if_neg first] at deletes
    refine ⟨?_, first⟩
    split at deletes <;> cases deletes <;> rfl

theorem arming_deleteFrom :
    Arming (Searchable list timer creating fresh)
      (.attempt fun state => do
        let (removal, lists) ← TimerLists.deleteFrom list timer state.lists
        let replaced := if removal = .head ∧ list = .listHead then [.replaced] else []
        return (removal, { state with lists := lists },
          if removal = .absent then [] else .deleted timer :: replaced))
      fun removal => Supplied (removal = .head ∨ creating = true) creating fresh := by
  have searchable : Sound (armingRules : Rules _ _ (Entry Timer) _ _).Rely Armed
      (Searchable list timer creating fresh) :=
    place_main.masked timeless_searchable fun _ here => here.masked
  refine spec_attempt_faulty searchable (fun _ => place_main.supplied) ?_
  intro config here removal next events returns _
  simp only [Option.bind_eq_bind, Option.bind_eq_some_iff, Option.pure_def, Prod.exists] at returns
  obtain ⟨removal', lists, deletes, returns⟩ := returns
  cases returns
  have silent : ∀ event ∈ (if removal = .absent then [] else
      .deleted timer :: if removal = .head ∧ list = .listHead then [.replaced] else []),
      ∀ watch : Watch, watch.observe event = watch := by
    intro event emitted watch
    have either : event = .deleted timer ∨ event = .replaced := by
      split_ifs at emitted <;> simp_all
    rcases either with rfl | rfl <;> rfl
  refine ⟨⟨here.watched.observes silent, here.masked⟩, ?_⟩
  by_cases first : removal = .head
  next => exact .inl (.inl first)
  next =>
    obtain ⟨same, another⟩ := deleteFrom_listHead deletes first
    rcases here.found with creating | present | found
    next => exact .inl (.inr creating)
    next => exact .inr (same ▸ present)
    next => exact absurd found another

theorem arming_afterRemoval (removal : Removal) :
    Arming (Supplied (removal = .head ∨ creating = true) creating fresh : Seen Timer -> Prop)
      (afterRemoval removal) fun _ => Sheltering creating fresh := by
  unfold afterRemoval
  split
  next =>
    exact spec_mono (arming_startTimerAtHead place_main place_main.supplied
      fun _ here => here.watched) fun _ _ handled => handled.sheltering
  next other =>
    refine spec_emit place_main.supplied sound_sheltering fun config here _ => ?_
    refine ⟨here.watched, fun _ => ?_⟩
    rcases here.present with vain | present
    next => exact .inr (.inr (here.watched.creating.trans (vain.resolve_left other)))
    next => exact .inl present

theorem arming_timeoutDeleteHelper :
    Arming (Sheltering creating fresh) (timeoutDeleteHelper list timer)
      fun _ => Sheltering creating fresh := by
  have sheltering := @sound_sheltering Timer _ _ creating fresh
  have searchable : Sound (armingRules : Rules _ _ (Entry Timer) _ _).Rely Armed
      (Searchable list timer creating fresh) :=
    place_main.masked timeless_searchable fun _ here => here.masked
  refine spec_bind place_main.refl (spec_report sheltering (fun _ => sheltering)
    fun _ here _ => here) fun isEmpty => ?_
  cases isEmpty with
  | true => exact spec_done sheltering fun _ here => here
  | false =>
    refine spec_bind place_main.refl (spec_emit sheltering searchable fun config here arms => ?_)
      fun _ => ?_
    · have search : Arms config (.searching list timer) := arms _ (List.mem_singleton_self _)
      exact ⟨⟨here.watched, rfl⟩, search.imp_left here.watched.creating.symm.trans⟩
    refine spec_bind place_main.refl arming_deleteFrom fun removal => ?_
    exact spec_bind place_main.refl (arming_afterRemoval removal) fun _ =>
      spec_done sheltering fun _ here => here

theorem arming_timeoutDelete :
    Arming (Sheltering creating fresh) (timeoutDelete timer)
      fun _ => Sheltering creating fresh := by
  have sheltering := @sound_sheltering Timer _ _ creating fresh
  have lists : Arming (Sheltering creating fresh) (deleteFromLists timer)
      fun _ => Sheltering creating fresh := by
    refine spec_bind place_main.refl arming_timeoutDeleteHelper fun found => ?_
    cases found with
    | true => exact spec_done sheltering fun _ here => here
    | false =>
      exact spec_bind place_main.refl arming_timeoutDeleteHelper fun _ =>
        spec_done sheltering fun _ here => here
  refine spec_bind place_main.refl lists fun _ => ?_
  exact spec_emit sheltering sheltering fun config here _ => ⟨here.watched, here.armed⟩

end Delete

section Create

variable {timer : Node Timer}

theorem sound_off :
    Sound (armingRules : Rules _ _ (Entry Timer) _ _).Rely Armed (Off creating fresh) :=
  place_main.off

theorem arming_makeAbsolute (timeout : UInt32) :
    Arming (Off creating fresh) (makeAbsolute timeout : Code (Links Timer) Timer _)
      fun _ => Off creating fresh := by
  have off := @sound_off Timer _ _ creating fresh
  refine spec_bind place_main.refl (spec_report off (fun _ => off) fun _ here _ => here) ?_
  refine fun last => spec_bind place_main.refl
    (spec_report off (fun _ => off) fun _ here _ => here) fun running => ?_
  cases running with
  | true =>
    refine spec_bind place_main.refl (spec_report off (fun _ => off) fun _ here _ => ?_) ?_
    · exact ⟨here.watched, here.masked⟩
    refine fun count => spec_bind place_main.refl
      (spec_report off (fun _ => off) fun _ here _ => here) fun timerVal => ?_
    exact spec_report off (fun _ => off) fun _ here _ => ⟨here.watched, here.masked⟩
  | false => exact spec_report off (fun _ => off) fun _ here _ => ⟨here.watched, here.masked⟩

theorem arming_rebaseFor (time : UInt32) :
    Arming (Off creating fresh) (rebaseFor timer time) fun _ => Off creating fresh := by
  have off := @sound_off Timer _ _ creating fresh
  refine spec_bind place_main.refl (spec_report off (fun _ => off) fun _ here _ => here) ?_
  intro last
  split
  next =>
    have rebased : Arming (Off creating fresh) (rebaseList : Code (Links Timer) Timer _)
        fun _ => Off creating fresh := by
      refine spec_bind place_main.refl (arming_makeAbsolute 0) fun base => ?_
      refine spec_bind place_main.refl (spec_attempt_faulty off (fun _ => off) ?_) fun _ =>
        spec_done off fun _ here => here
      intro config here result next events returns _
      simp only [Option.bind_eq_bind, Option.bind_eq_some_iff, Option.pure_def] at returns
      obtain ⟨nodes, -, returns⟩ := returns
      cases returns
      refine ⟨here.watched.observes fun event emitted watch => ?_, here.masked⟩
      rcases List.mem_cons.mp emitted with rfl | emitted
      · rfl
      · obtain ⟨node, -, rfl⟩ := List.mem_map.mp emitted
        rfl
    refine spec_bind place_main.refl rebased fun base => ?_
    exact spec_emit off off fun _ here _ => ⟨here.watched, here.masked⟩
  next => exact spec_done off fun _ here => here

theorem search_inside {later : Node Timer -> Bool} {links lists : Links Timer} {atHead : Bool}
    (searches : links.search later timer = some (atHead, lists)) (inside : atHead = false) :
    lists.schedulerListHead ≠ none := by
  unfold Links.search at searches
  split at searches
  next prevPoint point walks =>
    cases searches
    intro empty
    have empty' : links.schedulerListHead = none := empty
    rw [empty', walk] at walks
    cases walks
  next =>
    cases searches
    cases inside
  next => cases searches

theorem arming_sortedInsert :
    Arming (Off creating fresh) (sortedInsert timer : Code (Links Timer) Timer _)
      fun _ => Supplied False false false := by
  have off := @sound_off Timer _ _ creating fresh
  have supplied : Sound (armingRules : Rules _ _ (Entry Timer) _ _).Rely Armed
      (Supplied False false false) := place_main.supplied
  -- Without a head to put the timer behind it is not linked yet.
  let searched : Bool -> Seen Timer -> Prop := fun atHead =>
    if atHead = true then Off creating fresh else Supplied False false false
  have sound : ∀ atHead, Sound (armingRules : Rules _ _ (Entry Timer) _ _).Rely Armed
      (searched atHead) := by
    intro atHead
    cases atHead
    · exact supplied
    · exact off
  refine spec_bind place_main.refl (spec_report off (fun _ => off) fun _ here _ => here) ?_
  refine fun time => spec_bind place_main.refl (spec_emit off off fun _ here _ => ?_) fun _ => ?_
  · exact ⟨here.watched, here.masked⟩
  refine spec_bind place_main.refl (arming_rebaseFor time) fun _ => ?_
  refine spec_bind place_main.refl (spec_attempt_faulty off sound ?_) fun atHead => ?_
  · intro config here atHead next events returns _
    simp only [Option.bind_eq_bind, Option.bind_eq_some_iff, Option.pure_def, Prod.exists] at returns
    obtain ⟨atHead', lists, searches, returns⟩ := returns
    cases returns
    cases atHead with
    | true => exact ⟨here.watched, here.masked⟩
    | false =>
      exact ⟨⟨watched_created, here.masked⟩, .inr (search_inside searches rfl)⟩
  cases atHead with
  | false => exact spec_done supplied fun _ here => here
  | true =>
    have vain : Sound (armingRules : Rules _ _ (Entry Timer) _ _).Rely Armed
        (Supplied True creating fresh) := place_main.supplied
    refine spec_bind place_main.refl (spec_weaken (arming_setTimerDuration place_main 65535)
      fun config here => ⟨here, .inl trivial⟩) fun _ => ?_
    refine spec_bind place_main.refl (spec_emit vain vain fun config here _ => ?_) fun _ => ?_
    · exact ⟨⟨here.watched, here.masked⟩, here.present⟩
    refine spec_attempt_faulty vain (fun _ => supplied) ?_
    intro config here result next events returns _
    simp only [Option.bind_eq_bind, Option.bind_eq_some_iff, Option.pure_def] at returns
    obtain ⟨lists, links, returns⟩ := returns
    cases returns
    cases links
    exact ⟨⟨watched_created, here.masked⟩, .inr (Option.some_ne_none _)⟩

theorem arming_timeoutCreate (timeout : UInt32) :
    Arming (Sheltering false true) (timeoutCreate timer timeout : Code (Links Timer) Timer _)
      fun _ => Sheltering false false := by
  have calling := @sound_sheltering Timer _ _ false true
  have searching := @sound_sheltering Timer _ _ true true
  have returned := @sound_sheltering Timer _ _ false false
  have off := @sound_off Timer _ _ true true
  have supplied : Sound (armingRules : Rules _ _ (Entry Timer) _ _).Rely Armed
      (Supplied False false false) := place_main.supplied
  refine spec_bind place_main.refl (spec_emit calling searching fun config here _ => ?_) fun _ => ?_
  · exact ⟨⟨rfl, here.watched.fresh⟩, fun _ => .inr (.inr rfl)⟩
  refine spec_bind place_main.refl arming_timeoutDelete fun _ => ?_
  refine spec_bind place_main.refl (spec_emit searching off fun config here _ => ?_) fun _ => ?_
  · exact ⟨here.watched, rfl⟩
  refine spec_bind place_main.refl (arming_makeAbsolute timeout) fun time => ?_
  refine spec_bind place_main.refl (spec_emit off off fun config here _ => ?_) fun _ => ?_
  · exact ⟨here.watched, here.masked⟩
  refine spec_bind place_main.refl arming_sortedInsert fun atHead => ?_
  cases atHead with
  | true =>
    exact spec_mono (arming_startTimerAtHead place_main supplied fun _ here => here.watched)
      fun _ _ handled => handled.sheltering
  | false =>
    refine spec_bind place_main.refl (spec_report supplied (fun _ => supplied)
      fun _ here _ => here) fun running => ?_
    cases running with
    | true =>
      exact spec_emit supplied returned fun config here _ =>
        ⟨here.watched, fun _ => .inl (here.present.resolve_left not_false)⟩
    | false => exact spec_done supplied fun config here => here.toOff.sheltering

end Create

section Callbacks

theorem arming_timeoutCallNextCallback :
    Arming (Sheltering false false)
      (timeoutCallNextCallback : Code (Links Timer) Timer Unit) fun _ => Sheltering false false := by
  have sheltering := @sound_sheltering Timer _ _ false false
  refine spec_bind place_main.refl (spec_report sheltering (fun _ => sheltering)
    fun _ here _ => here) fun isEmpty => ?_
  cases isEmpty with
  | true => exact spec_done sheltering fun _ here => here
  | false =>
    refine spec_bind place_main.refl (spec_report sheltering (fun _ => sheltering)
      fun _ here _ => here) fun tempIE => ?_
    -- What was read of the interrupt is no longer true when it is masked.
    have supplied : Sound (armingRules : Rules _ _ (Entry Timer) _ _).Rely Armed
        (Supplied (tempIE = false) false false) := place_main.supplied
    refine spec_bind place_main.refl (spec_emit sheltering supplied fun config here arms => ?_)
      fun _ => ?_
    · have taking : Arms config (.taking tempIE) := arms _ (List.mem_singleton_self _)
      refine ⟨⟨here.watched, rfl⟩, ?_⟩
      cases tempIE
      · exact .inl rfl
      · exact .inr (taking rfl)
    refine spec_bind place_main.refl (spec_attempt_faulty supplied (fun _ => supplied) ?_) ?_
    · intro config here timer next events returns _
      simp only [Option.bind_eq_bind, Option.bind_eq_some_iff, Option.pure_def, Prod.exists]
        at returns
      obtain ⟨timer', lists, takes, returns⟩ := returns
      cases returns
      have same : lists.schedulerListHead = config.2.lists.schedulerListHead := by
        change Links.takeExpired config.2.lists = _ at takes
        simp only [Links.takeExpired, Option.bind_eq_bind, Option.bind_eq_some_iff,
          Option.pure_def] at takes
        obtain ⟨first, -, takes⟩ := takes
        cases takes
        rfl
      exact ⟨⟨here.watched, here.masked⟩, here.present.imp_right (same ▸ ·)⟩
    intro timer
    have restored : Arming (Supplied (tempIE = false) false false : Seen Timer -> Prop)
        (restoreInterrupt tempIE) fun _ => Sheltering false false := by
      cases tempIE with
      | true =>
        exact spec_emit supplied sheltering fun config here _ =>
          ⟨here.watched, fun _ => .inl (here.present.resolve_left Bool.noConfusion)⟩
      | false => exact spec_done supplied fun config here => here.toOff.sheltering
    refine spec_bind place_main.refl restored fun _ => ?_
    cases timer with
    | timer timer =>
      exact spec_emit sheltering sheltering fun config here _ => ⟨here.watched, here.armed⟩
    | dummy => exact spec_done sheltering fun _ here => here

theorem arming_callbackReturns (reschedule : UInt32) :
    Arming (Sheltering false false)
      (callbackReturns reschedule : Code (Links Timer) Timer Unit) fun _ => Sheltering false false := by
  have sheltering := @sound_sheltering Timer _ _ false false
  refine spec_bind place_main.refl (spec_report sheltering (fun _ => sheltering)
    fun _ here _ => here) fun callback => ?_
  cases callback with
  | none => exact spec_done sheltering fun _ here => here
  | some timer =>
    refine spec_bind place_main.refl (spec_emit sheltering sheltering fun config here _ => ?_)
      fun _ => ?_
    · exact ⟨here.watched, here.armed⟩
    split
    next =>
      exact spec_weaken (arming_timeoutCreate reschedule) fun config here =>
        ⟨here.watched.weaken, here.armed⟩
    next => exact spec_done sheltering fun _ here => here

theorem arming_flushLoop (list : Selected) (bound : Nat) :
    Arming (Sheltering false false) (flushLoop list bound : Code (Links Timer) Timer Unit)
      fun _ => Sheltering false false := by
  have sheltering := @sound_sheltering Timer _ _ false false
  induction bound with
  | zero => exact spec_spin sheltering
  | succ bound ih =>
    refine spec_bind place_main.refl (spec_report sheltering (fun _ => sheltering)
      fun _ here _ => here) fun head => ?_
    cases head with
    | none => exact spec_done sheltering fun _ here => here
    | some timer => exact spec_bind place_main.refl arming_timeoutDelete fun _ => ih

theorem arming_timeoutFlushAll (bound : Nat) :
    Arming (Sheltering false true) (timeoutFlushAll bound : Code (Links Timer) Timer Unit)
      fun _ => Sheltering false false := by
  have calling := @sound_sheltering Timer _ _ false true
  have stopped := @sound_sheltering Timer _ _ false false
  have off := @sound_off Timer _ _ false true
  have stops : Arming (Sheltering false true) (stopTimeouts : Code (Links Timer) Timer Unit)
      fun _ => Sheltering false false := by
    refine spec_bind place_main.refl (spec_emit calling off fun config here _ => ?_) fun _ => ?_
    · exact ⟨here.watched, rfl⟩
    refine spec_emit off stopped fun config here _ => Off.sheltering ?_
    exact ⟨⟨here.watched.creating, fun impossible => impossible⟩, here.masked⟩
  refine spec_bind place_main.refl stops fun _ => ?_
  exact spec_bind place_main.refl (arming_flushLoop .listHead bound) fun _ =>
    arming_flushLoop .executeQueueHead bound

theorem arming_entry (entry : Entry Timer) {fresh : Bool} (arms : fresh = true -> entry.arms = true) :
    Arming (Sheltering false fresh) (Scheduler.entry entry) fun _ => Sheltering false false := by
  have weaken : ∀ config : Seen Timer, Sheltering false fresh config -> Sheltering false true config :=
    fun config here => ⟨here.watched.weaken, here.armed⟩
  have returned : entry.arms = false -> fresh = false := fun other =>
    Bool.eq_false_iff.mpr fun first => Bool.false_ne_true (other.symm.trans (arms first))
  cases entry with
  | create timer timeout => exact spec_weaken (arming_timeoutCreate timeout) weaken
  | flushAll bound => exact spec_weaken (arming_timeoutFlushAll bound) weaken
  | delete timer =>
    obtain rfl := returned rfl
    exact arming_timeoutDelete
  | callNextCallback =>
    obtain rfl := returned rfl
    exact arming_timeoutCallNextCallback
  | callbackReturns reschedule =>
    obtain rfl := returned rfl
    exact arming_callbackReturns reschedule

end Callbacks

section Runs

abbrev Watching (Timer : Type) :=
  Processor (Scheduler (Links Timer) Timer) (SchedulerEvent Timer) × Watch

structure Idle (state : Watching Timer) : Prop where
  main : state.1.main = .done ()
  handler : state.1.handler = none
  fresh : state.2.fresh = true
  creating : state.2.creating = false
  empty : state.1.state.lists.schedulerListHead = none

abbrev InArming (state : Watching Timer) : Prop :=
  armingRules.Good True (fun _ => True) Armed (Sheltering false false) state

structure Protected (state : Watching Timer) : Prop where
  -- The queues never fault, and neither do the links as long as they are in step.
  follows : ∃ right journal, InStep Related state.1 right ∧ InOutline ⟨False, False⟩ (right, journal)
  arming : Idle state ∨ InArming state
  handling : armingRules.Handling True (fun config => Covered config.2) state

variable {state : Watching Timer} {action : Action (Entry Timer) Input}

theorem idle_step (idle : Idle state) (allows : armingRules.Allows state action) :
    Idle (armingRules.step state action).1 ∨ InArming (armingRules.step state action).1 := by
  obtain ⟨⟨current, main, handler⟩, watch⟩ := state
  obtain ⟨rfl, rfl, first, creating, empty⟩ := idle
  cases action with
  | call entry =>
    exact .inr (arming_entry entry (fun _ => allows first) (watch, current)
      ⟨⟨creating, fun _ => rfl⟩, fun _ => .inr (.inl first)⟩)
  | execute => exact .inl ⟨rfl, rfl, first, creating, empty⟩
  | interrupt => exact absurd empty (allows.2.2 (.inl first))
  | input input => cases input <;> exact .inl ⟨rfl, rfl, first, creating, empty⟩

theorem inArming_step (runs : state.1.handler = none -> state.1.main ≠ .fault)
    (arming : InArming state) (allows : armingRules.Allows state action) :
    InArming (armingRules.step state action).1 := by
  refine good_step (fun config _ _ => ?_) (fun config entry here _ => ?_) (fun _ => runs) arming
    allows
  · exact wp_mono (arming_rtcCntVect config ⟨rfl, id⟩) fun _ _ _ => trivial
  · exact arming_entry entry (fun impossible => Bool.noConfusion impossible) config here

theorem present_of_allows (arming : Idle state ∨ InArming state) (idle : state.1.handler = none)
    (runs : state.1.main ≠ .fault) (allows : armingRules.Allows state .interrupt) :
    state.1.state.lists.schedulerListHead ≠ none := by
  obtain ⟨enabled, -, present⟩ := allows
  rcases arming with first | arming
  · exact present (.inl first.fresh)
  obtain ⟨⟨current, main, handler⟩, watch⟩ := state
  obtain rfl : handler = none := idle
  have armed : Armed (watch, current) := wp_holds (fun _ => .refl) (fun _ => runs) arming
  rcases armed enabled with here | early
  · exact here
  · exact present early

theorem follows_step {processor : Processor (Scheduler (Links Timer) Timer) (SchedulerEvent Timer)}
    {right : Processor (Scheduler (Queues Timer) Timer) (SchedulerEvent Timer)}
    {journal : Journal Timer} (inStep : InStep Related processor right)
    (good : InOutline ⟨False, False⟩ (right, journal))
    (allows : action = .interrupt -> processor.handler = none ->
      processor.state.interruptEnabled = true ∧
        processor.state.lists.schedulerListHead ≠ none) :
    ∃ right' journal', InStep Related (Scheduler.system.step processor action).1 right' ∧
      InOutline ⟨False, False⟩ (right', journal') := by
  have follow : (rules ⟨False, False⟩).Allows (right, journal) action ->
      ∃ right' journal', InStep Related (Scheduler.system.step processor action).1 right' ∧
        InOutline ⟨False, False⟩ (right', journal') := by
    intro allowed
    have next := inOutline_step good allowed
    have runs : Runs ((rules ⟨False, False⟩).step (right, journal) action).1.1 := runs_of_good next
    exact ⟨_, _, (inStep_step system_simulates inStep action runs).1, next⟩
  have silent : ∀ config events, (rules ⟨False, False⟩ : Rules _ _ (Entry Timer) _ _).effects
      config events := fun _ _ => ⟨fun asked => (or_self_iff.mp asked).elim, fun timed => timed.elim⟩
  have permits : ∀ config program, (rules ⟨False, False⟩ : Rules _ _ (Entry Timer) _ _).EffectAllowed
      config program := by
    intro config program
    cases program with
    | statement run rest => exact silent _ _
    | done result => trivial
    | spin => trivial
    | fault => trivial
  cases action with
  | call entry => exact follow fun conserves => conserves.elim
  | execute =>
    refine follow ?_
    obtain ⟨current, main, handler⟩ := right
    cases handler <;> exact permits _ _
  | input input => exact follow fun timed => timed.elim
  | interrupt =>
    obtain ⟨current, main, handler⟩ := processor
    obtain ⟨current', main', handler'⟩ := right
    cases handler with
    | some handler => exact ⟨_, _, inStep, good⟩
    | none =>
      obtain ⟨enabled, present⟩ := allows rfl rfl
      have related : Related current current' := inStep.state
      refine follow ⟨?_, ?_, fun timed => timed.elim⟩
      · obtain ⟨queues, -, rfl⟩ := related
        exact enabled
      · rwa [head_of_related related, ne_eq, List.head?_eq_none_iff] at present

omit [DecidableEq Timer] [Fintype Timer] in
theorem not_faulted {left : Processor (Scheduler (Links Timer) Timer) (SchedulerEvent Timer)}
    {right : Processor (Scheduler (Queues Timer) Timer) (SchedulerEvent Timer)}
    (inStep : InStep Related left right) (runs : Runs right) : hasFaulted left = false := by
  have stands : ∀ {l : Code (Links Timer) Timer Unit} {r : Code (Queues Timer) Timer Unit},
      Simulates Related l r -> r ≠ .fault -> l.isFault = false := by
    intro l r simulates stands
    cases r with
    | done result => rw [show l = .done result from simulates]; rfl
    | statement run rest =>
      obtain ⟨leftRun, leftRest, rfl, -⟩ := simulates
      rfl
    | spin => rw [show l = .spin from simulates]; rfl
    | fault => exact absurd rfl stands
  obtain ⟨current, main, handler⟩ := left
  obtain ⟨current', main', handler'⟩ := right
  obtain ⟨-, mains, handlers⟩ := inStep
  cases handler with
  | none =>
    cases handler' with
    | none => exact stands mains runs
    | some handler' => exact handlers.elim
  | some handler =>
    cases handler' with
    | none => exact handlers.elim
    | some handler' => exact stands handlers runs

theorem covered_of_returned (arming : Idle state ∨ InArming state)
    (arming' : InArming state -> InArming (armingRules.step state action).1)
    (handling : armingRules.Handling True (fun config => Covered config.2) state)
    (returned : hasReturned state.1 (Scheduler.system.step state.1 action).1 = true) :
    Covered (Scheduler.system.step state.1 action).1.state := by
  obtain ⟨⟨current, main, handler⟩, watch⟩ := state
  cases handler with
  | some handler =>
    -- The main program stands still, so it is the handler that returns.
    have ends : (Scheduler.system.step ⟨current, main, some handler⟩ action).1.handler = none := by
      cases action with
      | execute => cases handler <;> simp_all [hasReturned, System.step, System.executeHandler]
      | _ => simp_all [hasReturned, System.step]
    cases action with
    | execute =>
      cases handler with
      | done result => exact (handling _ .refl).2
      | _ => cases ends
    | _ => cases ends
  | none =>
    cases action with
    | execute =>
      cases main with
      | statement run rest =>
        have later : InArming (armingRules.step (⟨current, .statement run rest, none⟩, watch)
            .execute).1 := by
          rcases arming with idle | arming
          · exact absurd idle.main (by simp)
          · exact arming' arming
        have done : (rest current).isDone = true := by
          simpa [hasReturned, System.step, System.executeMain, Program.isDone] using returned
        cases ends : rest current with
        | done result =>
          have wp : armingRules.Good True (fun _ => True) Armed (Sheltering false false)
              (⟨(run current).1, rest current, none⟩, _) := later
          rw [ends] at wp
          exact (wp _ .refl).2.handled.covered
        | _ => simp [ends, Program.isDone] at done
      | _ => simp [hasReturned, System.step, System.executeMain, Program.isDone] at returned
    | call entry => cases main <;> simp [hasReturned, System.step, Program.isDone] at returned
    | interrupt => simp [hasReturned, System.step] at returned
    | input input => simp [hasReturned, System.step] at returned

theorem protected_step (guarded : Protected state) (allows : armingRules.Allows state action) :
    Protected (armingRules.step state action).1 ∧ StaysCovered state action := by
  obtain ⟨⟨right, journal, inStep, good⟩, arming, handling⟩ := guarded
  have stands := not_faulted inStep (runs_of_good good)
  have runs : state.1.handler = none -> state.1.main ≠ .fault := by
    intro idle faults
    simp [hasFaulted, idle, faults, Program.isFault] at stands
  have handled : action = .interrupt -> state.1.handler = none ->
      state.1.state.interruptEnabled = true ∧
        state.1.state.lists.schedulerListHead ≠ none := by
    rintro rfl idle
    exact ⟨allows.1, present_of_allows arming idle (runs idle) allows⟩
  obtain ⟨right', journal', inStep', good'⟩ := follows_step inStep good handled
  have arming' : InArming state -> InArming (armingRules.step state action).1 := fun here =>
    inArming_step runs here allows
  refine ⟨⟨⟨right', journal', inStep', good'⟩, ?_, ?_⟩, ?_, ?_⟩
  · exact arming.elim (idle_step · allows) fun here => .inr (arming' here)
  · refine handling_step (fun config _ => ?_) handling allows
    exact wp_mono (arming_rtcCntVect config ⟨rfl, id⟩) fun _ _ handled => handled.covered
  · exact covered_of_returned arming arming' handling
  · exact not_faulted inStep' (runs_of_good good')

theorem protected_turnOn (next : Node Timer -> Option (Node Timer))
    (absoluteTime : Node Timer -> UInt32) : Protected (turnOn next absoluteTime) where
  follows := ⟨_, _, inStep_powerUp next absoluteTime, inOutline_boot absoluteTime⟩
  arming := .inl ⟨rfl, rfl, rfl, rfl, rfl⟩
  handling := trivial

end Runs

theorem scheduler_staysCovered (next : Node Timer -> Option (Node Timer))
    (absoluteTime : Node Timer -> UInt32) {actions : List (Action (Entry Timer) Input)}
    (guarded : Machine.Guarded armingRules.step armingRules.Allows (turnOn next absoluteTime)
      actions) :
    Machine.Guarded armingRules.step StaysCovered (turnOn next absoluteTime) actions :=
  Machine.guarded_of_invariant Protected (fun _ _ here allows => protected_step here allows)
    (protected_turnOn next absoluteTime) guarded

theorem scheduler_staysCovered_interrupted :
    let actions : List (Action (Entry Bool) Input) :=
      [.call (.create true 300000)] ++ List.replicate 30 .execute ++
      [.input .tick, .call (.create false 5)] ++ List.replicate 2 .execute ++
      [.input (.hardware 0 true), .interrupt] ++ List.replicate 45 .execute ++
      [.input (.hardware 0 true), .interrupt] ++ List.replicate 15 .execute ++
      [.call .callNextCallback] ++ List.replicate 2 .execute ++
      [.input (.hardware 0 true), .interrupt] ++ List.replicate 25 .execute ++
      [.call (.callbackReturns 9)] ++ List.replicate 30 .execute ++
      [.call (.delete true)] ++ List.replicate 15 .execute
    Machine.Guarded armingRules.step StaysCovered (turnOn (fun _ => none) fun _ => 0) actions :=
  scheduler_staysCovered _ _ (by decide +kernel)

theorem scheduler_armed_empty :
    let actions : List (Action (Entry Bool) Input) :=
      [.call (.create true 1)] ++ List.replicate 30 .execute ++
      [.input .tick, .input .tick, .interrupt] ++ List.replicate 15 .execute ++
      [.call (.delete false)] ++ List.replicate 10 .execute
    let start := turnOn (fun _ => none) fun _ => 0
    Machine.Guarded hardwareRules.step hardwareRules.Allows start actions ∧
      ¬ Machine.Guarded hardwareRules.step StaysCovered start actions := by
  decide +kernel

end AvrVoiceControl
