import AvrVoiceControl.SchedulerAssertions

set_option autoImplicit false

namespace AvrVoiceControl

open Interrupts Interrupts.Rules LinkedList Scheduler

section Distance

variable {Timer : Type} {mode : Mode} {handling : Prop} {frame : Frame Timer}

theorem duration_le {duration : UInt32} {config : Config Timer}
    (prepared : Prepared mode handling frame duration config) : duration.toNat ≤ 65535 := by
  obtain ⟨first, rest, list⟩ := List.exists_cons_of_ne_nil prepared.present
  have head : config.2.lists.pending.head? = some first := by rw [list, List.head?_cons]
  exact prepared.duration first head ▸ prepared.near first head

theorem load_toNat {duration : UInt32} (bound : duration.toNat ≤ 65535) :
    (65535 - duration).toNat = 65535 - duration.toNat :=
  UInt32.toNat_sub_of_le _ _ (UInt32.le_iff_toNat_le.mpr bound)

theorem le_period (config : Config Timer) (node : Node Timer) :
    (config.2.absoluteTime node).toNat ≤
      (period config node).toNat + config.2.absoluteTimeOfLastTimeout.toNat := by
  have time := (config.2.absoluteTime node).toNat_lt
  have last := config.2.absoluteTimeOfLastTimeout.toNat_lt
  have distance : (period config node).toNat =
      (2 ^ 32 - config.2.absoluteTimeOfLastTimeout.toNat +
        (config.2.absoluteTime node).toNat) % 2 ^ 32 := UInt32.toNat_sub _ _
  omega

theorem prepared_load {duration load : UInt32} {config : Config Timer}
    (prepared : Prepared mode handling frame duration config) (bound : load.toNat ≤ 65535) :
    Prepared mode handling frame duration
      (config.1, { config.2 with lastTimerLoad := load }) := by
  obtain ⟨shape, framed, -, tracked, timely⟩ := prepared.core
  exact ⟨prepared.masked, ⟨shape, framed, bound, tracked, timely⟩, prepared.near,
    prepared.duration, prepared.present, prepared.unchanged⟩

theorem calm_weaken {weaker : Frame Timer} {config : Config Timer}
    (implies : frame config.1.timeout config.2.lists -> weaker config.1.timeout config.2.lists)
    (calm : Calm mode handling frame config) : Calm mode handling weaker config := by
  obtain ⟨shape, framed, bound, tracked, timely⟩ := calm.core
  exact ⟨⟨shape, implies framed, bound, tracked, timely⟩, calm.near, calm.counts, calm.loads⟩

theorem settled_weaken {weaker : Frame Timer} {config : Config Timer}
    (implies : frame config.1.timeout config.2.lists -> weaker config.1.timeout config.2.lists)
    (settled : Settled mode handling frame config) : Settled mode handling weaker config :=
  ⟨calm_weaken implies settled.toCalm, settled.running⟩

theorem masked_off {config : Config Timer} (masked : Masked False config) :
    config.2.interruptEnabled = false :=
  masked.resolve_left not_false

theorem counts_sublist {config : Config Timer} {journal : Journal Timer} {queues : Queues Timer}
    (counts : Counts mode handling config) (fewer : queues.pending.Sublist config.2.lists.pending)
    (head : queues.pending.head? = config.2.lists.pending.head?)
    (due : journal.due = config.1.due) (now : journal.now = config.1.now) :
    Counts mode handling (journal, { config.2 with lists := queues }) := by
  intro timed timer member first here
  have counting := counts timed timer (fewer.subset member) first (head ▸ here)
  rw [← due, ← now] at counting
  exact counting

theorem settled_masks {config : Config Timer} (settled : Settled mode False frame config) :
    Settled mode False frame (config.1, { config.2 with interruptEnabled := false }) :=
  ⟨⟨settled.core, settled.near, settled.counts, settled.loads⟩, settled.running⟩

end Distance

variable {Timer : Type} [DecidableEq Timer] {mode : Mode} {handling : Prop} {frame : Frame Timer}
  {rely : Config Timer -> Config Timer -> Prop} {holds : Config Timer -> Prop}

/-- Where a program runs: in the handler, or outside of it. -/
structure Setting (mode : Mode) (handling : Prop) (rely : Config Timer -> Config Timer -> Prop)
    (holds : Config Timer -> Prop) : Prop where
  refl : ∀ config, rely config config
  masked : ∀ {assertion : Config Timer -> Prop},
    (∀ {before next}, (rules mode).Receives before next -> assertion before -> assertion next) ->
    (∀ config, assertion config -> Closed mode handling config) -> Sound rely holds assertion
  calm : ∀ {frame : Frame Timer}, Lasting frame -> Sound rely holds (Calm mode handling frame)
  settled : ∀ {frame : Frame Timer}, Lasting frame ->
    Sound rely holds (Settled mode handling frame)

section Start

def Approached (mode : Mode) (handling : Prop) (frame : Frame Timer) :
    Option UInt32 -> Config Timer -> Prop
  | none => Empty mode handling frame
  | some duration => Prepared mode handling frame duration

section

variable {state : Scheduler (Queues Timer) Timer} {first : Node Timer} {rest : List (Node Timer)}

theorem approachHead_empty (list : state.lists.pending = []) :
    approachHead state = some (none, state, []) := by
  have head : TimerLists.head state.lists .listHead = none := by
    simp [TimerLists.head, Queues.select, list]
  simp only [approachHead, head]

theorem approachHead_near (list : state.lists.pending = first :: rest)
    (near : ¬ state.absoluteTime first - state.absoluteTimeOfLastTimeout > 65535) :
    approachHead state =
      some (some (state.absoluteTime first - state.absoluteTimeOfLastTimeout), state, []) := by
  have head : TimerLists.head state.lists .listHead = some first := by
    simp [TimerLists.head, Queues.select, list]
  simp only [approachHead, head, if_neg near]
  rfl

theorem approachHead_far (list : state.lists.pending = first :: rest)
    (far : state.absoluteTime first - state.absoluteTimeOfLastTimeout > 65535)
    (outside : state.lists.Outside .dummy) :
    approachHead state =
      some (some 65535,
        { state with
          lists := { state.lists with pending := .dummy :: state.lists.pending }
          absoluteTime := Function.update state.absoluteTime .dummy
            (state.absoluteTimeOfLastTimeout + 65535) },
        []) := by
  have head : TimerLists.head state.lists .listHead = some first := by
    simp [TimerLists.head, Queues.select, list]
  have pushed : TimerLists.pushDummy state.lists =
      some { state.lists with pending := .dummy :: state.lists.pending } := if_pos outside
  simp only [approachHead, head, if_pos far, pushed]
  rfl

end

section Approach

variable {config : Config Timer} {first : Node Timer} {rest : List (Node Timer)}

theorem core_pushDummy (lasting : Lasting frame) (core : Core mode frame config)
    (outside : config.2.lists.Outside .dummy) (list : config.2.lists.pending = first :: rest)
    (far : period config first > 65535) :
    Core mode frame
      (config.1,
        { config.2 with
          lists := { config.2.lists with pending := .dummy :: config.2.lists.pending }
          absoluteTime := Function.update config.2.absoluteTime .dummy
            (config.2.absoluteTimeOfLastTimeout + 65535) }) := by
  obtain ⟨shape, framed, bound, tracked, timely⟩ := core
  refine ⟨shape.pushDummy outside, lasting.pushes _ _ framed, bound, fun conserves =>
    (tracked conserves).pushDummy outside list far, fun timed => ⟨fun timer member => ?_,
      (timely timed).called, (timely timed).punctual⟩⟩
  have inside : Node.timer timer ∈ config.2.lists.pending :=
    (List.mem_cons.mp member).resolve_left (by simp)
  have later := (timely timed).later timer inside
  have same : Function.update config.2.absoluteTime .dummy
      (config.2.absoluteTimeOfLastTimeout + 65535) (.timer timer) =
        config.2.absoluteTime (.timer timer) := Function.update_of_ne (by simp) _ _
  exact same ▸ later

theorem prepared_dummy (lasting : Lasting frame) (headless : Headless mode handling frame config)
    (list : config.2.lists.pending = first :: rest) (far : period config first > 65535) :
    config.2.lists.Outside .dummy ∧
      Prepared mode handling frame 65535
        (config.1,
          { config.2 with
            lists := { config.2.lists with pending := .dummy :: config.2.lists.pending }
            absoluteTime := Function.update config.2.absoluteTime .dummy
              (config.2.absoluteTimeOfLastTimeout + 65535) }) := by
  obtain ⟨masked, core, nearDummy, unchanged⟩ := headless
  have shape : Shape config.2.lists := core.1
  have head : config.2.lists.pending.head? = some first := by rw [list, List.head?_cons]
  have far' : 65535 < (period config first).toNat := UInt32.lt_iff_toNat_lt.mp far
  have outside : config.2.lists.Outside .dummy := by
    refine ⟨fun inside => ?_, shape.noDummy⟩
    rw [list] at inside
    rcases List.mem_cons.mp inside with rfl | inside
    · exact absurd (nearDummy head) (Nat.not_le_of_lt far')
    · exact shape.dummyFirst (by rwa [list])
  have only : ∀ other : Node Timer,
      (Node.dummy :: config.2.lists.pending).head? = some other -> other = .dummy :=
    fun other found => (Option.some.inj found).symm
  have apart : Function.update config.2.absoluteTime .dummy
      (config.2.absoluteTimeOfLastTimeout + 65535) .dummy -
        config.2.absoluteTimeOfLastTimeout = 65535 := by
    rw [Function.update_self, UInt32.add_comm, UInt32.add_sub_cancel]
  refine ⟨outside, masked, core_pushDummy lasting core outside list far, ?_, ?_,
    List.cons_ne_nil _ _, ?_⟩
  · intro other found
    rw [only other found]
    exact Nat.le_of_eq (congrArg UInt32.toNat apart)
  · intro other found
    rw [only other found]
    exact apart
  · intro timed same main
    exact absurd ((unchanged timed same main).1 first head) (Nat.not_le_of_lt far')

theorem approachHead_step (lasting : Lasting frame)
    (headless : Headless mode handling frame config) :
    ∃ result next events, approachHead config.2 = some (result, next, events) ∧
      Approached mode handling frame result ((rules mode).after config (next, events)) := by
  cases list : config.2.lists.pending with
  | nil =>
    exact ⟨none, config.2, [], approachHead_empty list, headless.masked, headless.core, list⟩
  | cons first rest =>
    by_cases far : period config first > 65535
    · obtain ⟨outside, prepared⟩ := prepared_dummy lasting headless list far
      exact ⟨_, _, _, approachHead_far list far outside, prepared⟩
    · have only : ∀ other, config.2.lists.pending.head? = some other -> other = first := by
        intro other found
        rw [list, List.head?_cons] at found
        exact (Option.some.inj found).symm
      have present : config.2.lists.pending ≠ [] := by simp [list]
      have near : Near config := fun other found => by
        rw [only other found]
        exact Nat.le_of_not_lt fun less => far (UInt32.lt_iff_toNat_lt.mpr less)
      refine ⟨_, _, _, approachHead_near list far, headless.masked, headless.core, near,
        fun other found => ?_, present,
        fun timed same main => (headless.unchanged timed same main).2⟩
      exact congrArg (period config) (only other found)

end Approach

def Ready (mode : Mode) (handling : Prop) (frame : Frame Timer) (duration : UInt32)
    (config : Config Timer) : Prop :=
  Prepared mode handling frame duration config ∧ config.2.lastTimerLoad = 65535 - duration

theorem stored_step {duration : UInt32} {config : Config Timer}
    (ready : Ready mode handling frame duration config)
    (allowed : (rules mode).effects config [.loaded]) :
    Calm mode handling frame ((rules mode).after config
      ({ config.2 with count := config.2.lastTimerLoad.toUInt16 }, [.loaded])) := by
  obtain ⟨prepared, load⟩ := ready
  have bound := duration_le prepared
  have load_eq : config.2.lastTimerLoad.toNat = 65535 - duration.toNat := by
    rw [load, load_toNat bound]
  have count : config.2.lastTimerLoad.toUInt16.toNat = 65535 - duration.toNat := by
    have wraps : config.2.lastTimerLoad.toUInt16.toNat = config.2.lastTimerLoad.toNat % 2 ^ 16 :=
      rfl
    omega
  obtain ⟨shape, framed, loadBound, tracked, timely⟩ := prepared.core
  refine ⟨⟨shape, framed, loadBound, tracked, fun timed => ⟨(timely timed).later,
    (timely timed).called, (timely timed).punctual⟩⟩, prepared.near, ?_, ?_⟩
  · intro timed timer member head first
    have distance := le_period config head
    rw [prepared.duration head first] at distance
    have later := (timely timed).later timer member
    refine ⟨?_, fun main flag => ?_⟩
    · change config.1.due (.timer timer) + config.2.lastTimerLoad.toUInt16.toNat +
          (config.2.absoluteTime head).toNat ≤
        config.1.now + 65535 + (config.2.absoluteTime (.timer timer)).toNat
      unfold Later at later
      omega
    · have overflow : config.2.overflow = true := flag
      have replaced : config.1.replaced = false := by
        cases replaced : config.1.replaced with
        | false => rfl
        | true =>
          have clear := (allowed.2 timed).1 (by simp) replaced
          exact absurd overflow (by simp [clear])
      exact (prepared.unchanged timed replaced main timed timer member head first).2 main flag
  · intro timed head first
    have distance := le_period config head
    rw [prepared.duration head first] at distance
    change config.2.lastTimerLoad.toNat + (config.2.absoluteTime head).toNat ≤
      65535 + config.2.absoluteTimeOfLastTimeout.toNat
    omega

theorem spec_stopTimeouts (setting : Setting mode handling rely holds) (lasting : Lasting frame) :
    (rules mode).Spec False rely holds (Empty mode handling frame) stopTimeouts
      fun _ => Settled mode handling frame := by
  have empty : Sound rely holds (Empty mode handling frame) :=
    setting.masked empty_receives fun _ here => here.closed
  refine spec_bind setting.refl (spec_emit empty empty fun c here _ => ?_) fun _ => ?_
  · exact ⟨.inr rfl, here.core, here.empty⟩
  apply spec_emit empty (setting.settled lasting)
  intro c here _
  obtain ⟨shape, framed, bound, tracked, timely⟩ := here.core
  have none : ∀ node, node ∉ c.2.lists.pending := by simp [here.empty]
  have noHead : ∀ node, c.2.lists.pending.head? ≠ some node := by simp [here.empty]
  refine ⟨⟨⟨shape, framed, bound, fun conserves => ?_, fun timed => ?_⟩, ?_, ?_, ?_⟩,
    .inr here.empty⟩
  · obtain ⟨same, once, real, fifo, sorted, above, orderly⟩ := tracked conserves
    exact ⟨same, once, real, fifo, sorted, fun node inside => absurd inside (none node), orderly⟩
  · obtain ⟨later, called, punctual⟩ := timely timed
    exact ⟨fun node inside => absurd inside (none _), called, punctual⟩
  · exact fun head first => absurd first (noHead head)
  · exact fun _ timer inside => absurd inside (none _)
  · exact fun _ head first => absurd first (noHead head)

theorem spec_setTimerDuration (setting : Setting mode handling rely holds)
    (lasting : Lasting frame) (duration : UInt32) :
    (rules mode).Spec False rely holds (Prepared mode handling frame duration)
      (setTimerDuration duration) fun _ => Calm mode handling frame := by
  have prepared : Sound rely holds (Prepared mode handling frame duration) :=
    setting.masked prepared_receives fun _ here => here.closed
  have ready : Sound rely holds (Ready mode handling frame duration) := by
    refine setting.masked (fun receives here => ⟨prepared_receives receives here.1, ?_⟩) fun _ here =>
      here.1.closed
    rcases receives_cases receives with ⟨_, _, _, rfl⟩ | rfl <;> exact here.2
  refine spec_bind setting.refl (spec_emit prepared ready fun c here _ => ?_) fun _ => ?_
  · have bound := Nat.sub_le 65535 duration.toNat
    rw [← load_toNat (duration_le here)] at bound
    exact ⟨prepared_load here bound, rfl⟩
  · apply spec_emit ready (setting.calm lasting)
    intro c here allowed
    have allowed' : (rules mode).effects c [.loaded] := allowed
    have stored := stored_step here allowed'
    exact stored

theorem spec_startTimerAtHead (setting : Setting mode handling rely holds)
    (lasting : Lasting frame) :
    (rules mode).Spec False rely holds (Headless mode handling frame) startTimerAtHead
      fun _ => Settled mode handling frame := by
  have headless : Sound rely holds (Headless mode handling frame) :=
    setting.masked headless_receives fun _ here => here.closed
  have calm := setting.calm lasting
  have approached : ∀ result, Sound rely holds (Approached mode handling frame result) := by
    intro result
    cases result with
    | none => exact setting.masked empty_receives fun _ here => here.closed
    | some duration => exact setting.masked prepared_receives fun _ here => here.closed
  refine spec_bind setting.refl (spec_emit headless headless fun c here _ => ?_) fun _ => ?_
  · exact ⟨.inr rfl, here.core, here.nearDummy, here.unchanged⟩
  refine spec_bind setting.refl (spec_attempt headless approached fun c here => ?_) fun result => ?_
  · obtain ⟨result, next, events, returns, reached⟩ := approachHead_step lasting here
    exact ⟨result, next, events, returns, fun _ => reached⟩
  cases result with
  | none => exact spec_stopTimeouts setting lasting
  | some duration =>
    apply spec_bind setting.refl (spec_setTimerDuration setting lasting duration)
    intro _
    refine spec_bind setting.refl (spec_emit calm calm fun c here _ => ?_) fun _ => ?_
    · exact ⟨here.core, here.near, here.counts, here.loads⟩
    · apply spec_emit calm (setting.settled lasting)
      intro c here _
      exact ⟨⟨here.core, here.near, here.counts, here.loads⟩, .inl rfl⟩

end Start

section Handler

theorem expire_step (lasting : Lasting frame) {config : Config Timer}
    (calm : Calm mode False frame config) (interrupts : (rules mode).interrupts config) :
    ∃ first lists events, TimerLists.head config.2.lists .listHead = some first ∧
      TimerLists.expireHead config.2.lists = some lists ∧
      events = (if first = .dummy then [] else [.expired first]) ∧
      Headless mode True frame ((rules mode).after config
        ({ config.2 with
          lists := lists
          absoluteTimeOfLastTimeout := config.2.absoluteTime first
          lastTimerLoad := 0 }, events)) := by
  obtain ⟨-, present, flag⟩ := interrupts
  obtain ⟨shape, framed, bound, tracked, timely⟩ := calm.core
  obtain ⟨first, rest, list⟩ := List.exists_cons_of_ne_nil present
  have head : config.2.lists.pending.head? = some first := by rw [list, List.head?_cons]
  -- The overflow makes every timer due whose time is not behind that of the head.
  have due : mode.timed -> ∀ timer, .timer timer ∈ config.2.lists.pending ->
      Later config.1.now (config.1.due (.timer timer)) (config.2.absoluteTime (.timer timer)).toNat
        (config.2.absoluteTime first).toNat := fun timed timer inside =>
    (calm.counts timed timer inside first head).2 not_false (flag timed)
  have inside : ∀ node ∈ rest, node ∈ config.2.lists.pending := fun node member => by
    rw [list]
    exact List.mem_cons_of_mem _ member
  have noDummy : .dummy ∉ rest := by simpa [list] using shape.dummyFirst
  have nearDummy : rest.head? ≠ some .dummy := fun head => noDummy (List.mem_of_head? head)
  cases first with
  | dummy =>
    have expires : config.2.lists.expireHead = some { config.2.lists with pending := rest } := by
      simp [Queues.expireHead, list]
    refine ⟨.dummy, _, [], head, expires, rfl, .inl trivial, ⟨shape.expireHead expires,
      lasting.expires _ _ _ framed expires, Nat.zero_le _, fun conserves =>
        (tracked conserves).expireDummy list, fun timed => ?_⟩,
      fun first => absurd first nearDummy, fun _ _ main => absurd trivial main⟩
    exact ⟨fun timer member => due timed timer (inside _ member), (timely timed).called,
      (timely timed).punctual⟩
  | timer timer =>
    have expires : config.2.lists.expireHead =
        some ⟨rest, config.2.lists.expired ++ [.timer timer]⟩ := by
      simp [Queues.expireHead, list]
    refine ⟨.timer timer, _, [.expired (.timer timer)], head, expires, rfl, .inl trivial,
      ⟨shape.expireHead expires, lasting.expires _ _ _ framed expires, Nat.zero_le _,
        fun conserves => (tracked conserves).expireTimer shape.pending list (by simp),
        fun timed => ?_⟩,
      fun first => absurd first nearDummy, fun _ _ main => absurd trivial main⟩
    have now := due timed timer (by simp [list])
    have punctual : config.1.due (.timer timer) ≤ config.1.now := Nat.le_of_add_le_add_right now
    refine ⟨fun other member => due timed other (inside _ member), (timely timed).called, ?_⟩
    change (decide (config.1.due (.timer timer) ≤ config.1.now) && config.1.punctual) = true
    simp [punctual, (timely timed).punctual]

theorem handlerSetting (mode : Mode) :
    Setting mode True (Waits (rules mode) : Config Timer -> Config Timer -> Prop)
      (Always mode) where
  refl _ := .refl
  masked receives closed := sound_waits receives fun config here => (closed config here).2
  calm _ := sound_waits calm_receives fun _ here => always_of_core here.core
  settled _ := sound_waits settled_receives fun _ here => always_of_core here.core

theorem interrupts_receives {before next : Config Timer}
    (receives : (rules mode).Receives before next) (interrupts : (rules mode).interrupts before) :
    (rules mode).interrupts next := by
  obtain ⟨enabled, present, flag⟩ := interrupts
  rcases receives_cases receives with ⟨_, _, untimed, rfl⟩ | rfl
  · exact ⟨enabled, present, fun timed => absurd timed untimed⟩
  · exact ⟨enabled, present, fun timed => by simp [flag timed]⟩

theorem spec_rtcCntVect (lasting : Lasting frame) :
    (rules mode).Spec False (rules mode).Waits (Always mode)
      (fun config => Calm mode False frame config ∧ (rules mode).interrupts config) rtcCntVect
      fun _ => Settled mode False frame := by
  have setting : Setting mode True (Waits (rules mode) : Config Timer -> _) _ :=
    handlerSetting mode
  have before : Sound (rules mode).Waits (Always mode)
      (fun config => Calm mode False frame config ∧ (rules mode).interrupts config) :=
    sound_waits (fun receives here =>
      ⟨calm_receives receives here.1, interrupts_receives receives here.2⟩)
      fun _ here => always_of_core here.1.core
  have headless : Sound (rules mode).Waits (Always mode) (Headless mode True frame) :=
    setting.masked headless_receives fun _ here => here.closed
  refine spec_bind setting.refl (spec_attempt before (fun _ => headless) fun c here => ?_) fun _ => ?_
  · obtain ⟨first, lists, _, head, expires, rfl, reached⟩ := expire_step lasting here.1 here.2
    refine ⟨(), _, _, Option.bind_eq_some_iff.mpr ⟨first, head, ?_⟩, fun _ => reached⟩
    exact Option.bind_eq_some_iff.mpr ⟨lists, expires, rfl⟩
  apply spec_bind setting.refl (spec_startTimerAtHead setting lasting)
  intro _
  refine spec_emit (setting.settled lasting) (setting.masked settled_receives fun _ here =>
    ⟨.inl trivial, always_of_core here.core⟩) fun c here _ => ?_
  refine ⟨⟨here.core, here.near, fun timed timer inside head first => ?_, here.loads⟩, here.running⟩
  exact ⟨(here.counts timed timer inside head first).1, fun _ overflow => by cases overflow⟩

/-- Wherever an interrupt may come, it finds the counter running for the timer at the head. -/
def Interruptible (mode : Mode) (config : Config Timer) : Prop :=
  Always mode config ∧
    (config.2.interruptEnabled = true -> Calm mode False (fun _ _ => True) config)

theorem mainSetting (mode : Mode) :
    Setting mode False (Rely (rules mode) : Config Timer -> Config Timer -> Prop)
      (Interruptible mode) where
  refl _ := .refl
  masked receives closed := by
    refine sound_masked receives (fun c here interrupts => ?_) fun c here =>
      ⟨(closed c here).2, fun enabled => ?_⟩
    · exact Bool.false_ne_true ((masked_off (closed c here).1).symm.trans interrupts.1)
    · exact absurd enabled (by simp [masked_off (closed c here).1])
  calm lasting := by
    refine sound_rely calm_receives (spec_mono (spec_rtcCntVect lasting) ?_) fun c here =>
      ⟨always_of_core here.core, fun _ => calm_weaken (fun _ => trivial) here⟩
    exact fun _ c here => here.toCalm
  settled lasting := by
    refine sound_rely settled_receives (spec_weaken (spec_rtcCntVect lasting) ?_) fun c here =>
      ⟨always_of_core here.core, fun _ => calm_weaken (fun _ => trivial) here.toCalm⟩
    exact fun c here => ⟨here.1.toCalm, here.2⟩

end Handler

section Delete

variable {before found absent : Frame Timer} {which : Selected} {timer : Node Timer}

theorem core_delete {config : Config Timer} (core : Core mode before config)
    (inside : timer ∈ config.2.lists.select which) (real : mode.conserves -> timer ≠ .dummy)
    (framed : found config.1.timeout (config.2.lists.deleteFrom which timer).2)
    {replaced : List (SchedulerEvent Timer)} (either : replaced = [] ∨ replaced = [.replaced]) :
    Core mode found ((rules mode).after config
      ({ config.2 with lists := (config.2.lists.deleteFrom which timer).2 },
        .deleted timer :: replaced)) := by
  obtain ⟨shape, -, bound, tracked, timely⟩ := core
  have same := shape.deleteFrom_of_mem inside
  have fewer := config.2.lists.deleteFrom_sublist which timer
  have either' : timer ∈ config.2.lists.pending ∨ timer ∈ config.2.lists.expired := by
    cases which
    · exact .inl inside
    · exact .inr inside
  have deleted : mode.conserves -> Tracked (Journal.without timer config.1.active)
      (Journal.without timer config.1.queue)
      (decide (timer ∈ config.1.active ∨ timer ∈ config.1.queue) && config.1.orderly)
      (config.2.lists.deleteFrom which timer).2 config.2.absoluteTime
      config.2.absoluteTimeOfLastTimeout := fun conserves =>
    same ▸ (tracked conserves).delete (real conserves) either'
  have later : mode.timed -> Timely config.1.now config.1.called config.1.due config.1.punctual
      (config.2.lists.deleteFrom which timer).2 config.2.absoluteTime
      config.2.absoluteTimeOfLastTimeout := fun timed =>
    ⟨fun other member => (timely timed).later other (fewer.subset member), (timely timed).called,
      (timely timed).punctual⟩
  rcases either with rfl | rfl <;> exact ⟨shape.deleteFrom which timer, framed, bound, deleted, later⟩

theorem delete_head_step {config : Config Timer} (core : Core mode before config)
    (masked : Masked False config) (real : mode.conserves -> timer ≠ .dummy)
    (first : config.2.lists.pending.head? = some timer)
    (framed : found config.1.timeout (config.2.lists.deleteFrom .listHead timer).2) :
    Headless mode False found ((rules mode).after config
      ({ config.2 with lists := (config.2.lists.deleteFrom .listHead timer).2 },
        [.deleted timer, .replaced])) := by
  have inside : timer ∈ config.2.lists.select .listHead := List.mem_of_head? first
  have deleted := core_delete core inside real framed (.inr rfl)
  obtain ⟨shape, -⟩ := core
  refine ⟨masked, deleted, fun here => absurd here ?_, fun _ same => by cases same⟩
  have rest : (config.2.lists.deleteFrom .listHead timer).2.pending =
      config.2.lists.pending.tail := by
    simp [Queues.deleteFrom, Queues.select, first, Queues.put]
  change (config.2.lists.deleteFrom .listHead timer).2.pending.head? ≠ some .dummy
  rw [rest]
  exact fun dummy => shape.dummyFirst (List.mem_of_head? dummy)

def Removed (mode : Mode) (found absent : Frame Timer) : Removal -> Config Timer -> Prop
  | .head => Headless mode False found
  | .inside => Settled mode False found
  | .absent => Settled mode False absent

theorem delete_step {config : Config Timer} (settled : Settled mode False before config)
    (masked : Masked False config) (real : mode.conserves -> timer ≠ .dummy)
    (foundFrame : timer ∈ config.2.lists.select which ->
      found config.1.timeout (config.2.lists.deleteFrom which timer).2)
    (absentFrame : timer ∉ config.2.lists.select which -> absent config.1.timeout config.2.lists)
    {removal : Removal} {lists : Queues Timer} {events : List (SchedulerEvent Timer)}
    (deletes : config.2.lists.deleteFrom which timer = (removal, lists))
    (emits : events = if removal = .absent then [] else
      .deleted timer :: if removal = .head ∧ which = .listHead then [.replaced] else []) :
    Removed mode found absent removal
      ((rules mode).after config ({ config.2 with lists := lists }, events)) := by
  have fewer := config.2.lists.deleteFrom_sublist which timer
  have head := config.2.lists.deleteFrom_head which timer
  have found_iff := config.2.lists.deleteFrom_found which timer
  obtain ⟨shape, _, bound, tracked, timely⟩ := settled.core
  -- By what the search finds: only a new head of the list changes what the counter runs for.
  cases removal with
  | absent =>
    obtain rfl : events = [] := by simpa using emits
    have outside : timer ∉ config.2.lists.select which := fun inside =>
      found_iff.mpr inside (by rw [deletes])
    obtain rfl : lists = config.2.lists := by
      have kept := config.2.lists.deleteFrom_eq which timer
      rw [deletes, List.erase_of_not_mem outside] at kept
      cases which <;> exact kept
    exact ⟨⟨⟨shape, absentFrame outside, bound, tracked, timely⟩, settled.near, settled.counts,
      settled.loads⟩, settled.running⟩
  | inside =>
    have inside : timer ∈ config.2.lists.select which := found_iff.mp (by rw [deletes]; simp)
    obtain rfl : events = [.deleted timer] := by simpa using emits
    have core := core_delete settled.core inside real (foundFrame inside) (.inl rfl)
    have same := head (by rw [deletes]; simp)
    rw [deletes] at core same fewer
    refine ⟨⟨core, fun first here => settled.near first (same ▸ here),
      counts_sublist settled.counts fewer same rfl rfl,
      fun timed first here => settled.loads timed first (same ▸ here)⟩, ?_⟩
    rcases settled.running with running | empty
    · exact .inl running
    · exact .inr (List.sublist_nil.mp (empty ▸ fewer))
  | head =>
    have inside : timer ∈ config.2.lists.select which := found_iff.mp (by rw [deletes]; simp)
    cases which with
    | executeQueueHead =>
      obtain rfl : events = [.deleted timer] := by simpa using emits
      have core := core_delete settled.core inside real (foundFrame inside) (.inl rfl)
      have same := head (fun _ => rfl)
      rw [deletes] at core same fewer
      refine ⟨masked, core, fun here => settled.near _ (same ▸ here), fun timed _ _ => ?_⟩
      exact ⟨fun first here => settled.near first (same ▸ here),
        counts_sublist settled.counts fewer same rfl rfl⟩
    | listHead =>
      obtain rfl : events = [.deleted timer, .replaced] := by simpa using emits
      have first := (config.2.lists.deleteFrom_first .listHead timer).mp (congrArg Prod.fst deletes)
      have step := delete_head_step settled.core masked real first (foundFrame inside)
      rw [deletes] at step
      exact step

abbrev Outline {Result : Type} (mode : Mode) (pre : Config Timer -> Prop)
    (program : Code (Queues Timer) Timer Result) (post : Result -> Config Timer -> Prop) : Prop :=
  (rules mode).Spec False (rules mode).Rely (Interruptible mode) pre program post

theorem sound_masked_and {pre : Config Timer -> Prop}
    (sound : Sound (rules mode).Rely (Interruptible mode) pre) :
    Sound (rules mode).Rely (Interruptible mode) fun config => pre config ∧ Masked False config :=
  (mainSetting mode).masked
    (fun receives here =>
      ⟨sound.stable (.single (.inl receives)) here.1, masked_receives receives here.2⟩)
    fun config here => ⟨here.2, (sound.holds config here.1).1⟩

theorem outline_maskInterrupt {pre : Config Timer -> Prop}
    (sound : Sound (rules mode).Rely (Interruptible mode) pre)
    (masks : ∀ config, pre config -> pre (config.1, { config.2 with interruptEnabled := false }))
    {events : List (SchedulerEvent Timer)}
    (silent : ∀ journal : Journal Timer, events.foldl Journal.observe journal = journal) :
    Outline mode pre (maskInterrupt events) fun _ config => pre config ∧ Masked False config := by
  refine spec_emit sound (sound_masked_and sound) fun config here _ => ?_
  have same : events.foldl (rules mode).observe config.1 = config.1 := silent config.1
  rw [Rules.after, same]
  exact ⟨masks config here, .inr rfl⟩

theorem outline_disableInterrupt {pre : Config Timer -> Prop}
    (sound : Sound (rules mode).Rely (Interruptible mode) pre)
    (masks : ∀ config, pre config -> pre (config.1, { config.2 with interruptEnabled := false })) :
    Outline mode pre disableInterrupt fun _ config => pre config ∧ Masked False config :=
  outline_maskInterrupt sound masks fun _ => rfl

theorem outline_enableInterrupt (lasting : Lasting frame) :
    Outline mode (Settled mode False frame) enableInterrupt fun _ => Settled mode False frame :=
  have sound := (mainSetting mode).settled lasting
  spec_emit sound sound fun _ here _ =>
    ⟨⟨here.core, here.near, here.counts, here.loads⟩, here.running⟩

theorem outline_afterRemoval (lasting : Lasting found) (lasting' : Lasting absent)
    (removal : Removal) :
    Outline mode (Removed mode found absent removal) (afterRemoval removal) fun _ =>
      Settled mode False (if removal = .absent then absent else found) := by
  cases removal with
  | head => exact spec_startTimerAtHead (mainSetting mode) lasting
  | inside => exact outline_enableInterrupt lasting
  | absent => exact outline_enableInterrupt lasting'

theorem outline_timeoutDeleteHelper {pre : Config Timer -> Prop}
    (sound : Sound (rules mode).Rely (Interruptible mode) pre)
    (masks : ∀ config, pre config -> pre (config.1, { config.2 with interruptEnabled := false }))
    (lasting : Lasting found) (lasting' : Lasting absent)
    (empty : ∀ config, pre config -> config.2.lists.select which = [] ->
      Settled mode False absent config)
    (removes : ∀ config, pre config -> Masked False config -> ∀ removal lists events,
      config.2.lists.deleteFrom which timer = (removal, lists) ->
      (events = if removal = .absent then [] else
        .deleted timer :: if removal = .head ∧ which = .listHead then [.replaced] else []) ->
      Removed mode found absent removal
        ((rules mode).after config ({ config.2 with lists := lists }, events))) :
    Outline mode pre (timeoutDeleteHelper which timer) fun result =>
      Settled mode False (if result = true then found else absent) := by
  have setting : Setting mode False (Rely (rules mode) : Config Timer -> _) _ := mainSetting mode
  -- An empty list is seen before the interrupt is disabled.
  have either : ∀ isEmpty : Bool, Sound (rules mode).Rely (Interruptible mode) fun config =>
      if isEmpty = true then Settled mode False absent config else pre config := by
    intro isEmpty
    cases isEmpty
    · exact sound
    · exact setting.settled lasting'
  have removed : ∀ removal, Sound (rules mode).Rely (Interruptible mode)
      (Removed mode found absent removal) := by
    intro removal
    cases removal with
    | head => exact setting.masked headless_receives fun _ here => here.closed
    | inside => exact setting.settled lasting
    | absent => exact setting.settled lasting'
  have read : Outline mode pre
      (.read fun state => (TimerLists.head state.lists which).isNone) fun isEmpty config =>
        if isEmpty = true then Settled mode False absent config else pre config := by
    apply spec_report sound either
    intro config here _
    cases head : (config.2.lists.select which).head? with
    | none =>
      have isNone : (TimerLists.head config.2.lists which).isNone = true :=
        congrArg Option.isNone head
      rw [if_pos isNone]
      exact empty config here (List.head?_eq_none_iff.mp head)
    | some first =>
      have isSome : (TimerLists.head config.2.lists which).isNone = false :=
        congrArg Option.isNone head
      rw [if_neg (by simp [isSome])]
      exact here
  apply spec_bind setting.refl read
  intro isEmpty
  cases isEmpty with
  | true => exact spec_done (setting.settled lasting') fun _ here => here
  | false =>
    have silent : ∀ journal : Journal Timer,
        [SchedulerEvent.searching which timer].foldl Journal.observe journal = journal :=
      fun journal => journal.observe_searching which timer
    apply spec_bind setting.refl (outline_maskInterrupt sound masks silent)
    intro _
    refine spec_bind setting.refl (spec_attempt (sound_masked_and sound) removed fun config here =>
      ⟨_, _, _, rfl, fun _ => removes config here.1 here.2 _ _ _ rfl rfl⟩) fun removal => ?_
    apply spec_bind setting.refl (outline_afterRemoval lasting lasting' removal)
    intro _
    cases removal with
    | head => exact spec_done (setting.settled lasting) fun _ here => here
    | inside => exact spec_done (setting.settled lasting) fun _ here => here
    | absent => exact spec_done (setting.settled lasting') fun _ here => here

variable {known : (Node Timer -> Nat) -> Prop}

theorem clear_step {config : Config Timer}
    (settled : Settled mode False (Away known timer) config)
    (real : mode.conserves -> timer ≠ .dummy) :
    Settled mode False (Away known timer) ((rules mode).after config
      ({ config.2 with lists := TimerLists.clearNext timer config.2.lists },
        [.released timer])) := by
  obtain ⟨shape, framed, bound, tracked, timely⟩ := settled.core
  have fewer := (cutAfter_isPrefix timer config.2.lists.pending).sublist
  have head := cutAfter_head timer config.2.lists.pending
  have later : mode.timed -> Timely config.1.now config.1.called config.1.due config.1.punctual
      (config.2.lists.clearNext timer) config.2.absoluteTime
      config.2.absoluteTimeOfLastTimeout := fun timed =>
    ⟨fun other member => (timely timed).later other (fewer.subset member), (timely timed).called,
      (timely timed).punctual⟩
  refine ⟨⟨⟨shape.clearNext timer, ⟨framed.1, fun real => ?_⟩, bound, fun conserves => ?_, later⟩,
    fun first here => settled.near first (head ▸ here),
    counts_sublist settled.counts fewer head rfl rfl,
    fun timed first here => settled.loads timed first (head ▸ here)⟩, ?_⟩
  · have same := Shape.unchanged_clearNext (framed.2 real)
    change (config.2.lists.clearNext timer).Outside timer
    rw [same]
    exact framed.2 real
  · have outside := framed.2 (real conserves)
    obtain ⟨same, once, real, fifo, sorted, above, orderly⟩ := tracked conserves
    have absent := (tracked conserves).absent outside
    have orderly' : (decide (timer ∉ config.1.active ∧ timer ∉ config.1.queue) &&
        config.1.orderly) = true := by simp [absent, orderly]
    have kept : TimerLists.clearNext timer config.2.lists = config.2.lists :=
      Shape.unchanged_clearNext outside
    rw [kept]
    exact ⟨same, once, real, fifo, sorted, above, orderly'⟩
  · rcases settled.running with running | empty
    · exact .inl running
    · exact .inr (List.sublist_nil.mp (empty ▸ fewer))

theorem outline_deleteFromLists (timer : Node Timer) (real : mode.conserves -> timer ≠ .dummy) :
    Outline mode (Settled mode False (Kept known)) (deleteFromLists timer)
      fun _ => Settled mode False (Away known timer) := by
  have setting : Setting mode False (Rely (rules mode) : Config Timer -> _) _ := mainSetting mode
  have kept := lasting_kept known
  have notPending := lasting_notPending known timer
  have away := lasting_away known timer
  have first : Outline mode (Settled mode False (Kept known)) (timeoutDeleteHelper .listHead timer)
      fun result => Settled mode False
        (if result = true then Away known timer else NotPending known timer) := by
    refine outline_timeoutDeleteHelper (setting.settled kept) (fun _ => settled_masks) away notPending
      (fun config here empty => ?_) fun config here masked removal lists events deletes emits => ?_
    · exact settled_weaken (fun framed => ⟨framed, fun _ inside => by
        simp [show config.2.lists.pending = [] from empty] at inside⟩) here
    · obtain ⟨shape, framed, -⟩ := here.core
      refine delete_step here masked real (fun inside => ⟨framed, fun _ => ?_⟩)
        (fun outside => ⟨framed, fun _ => outside⟩) deletes emits
      exact shape.outside_deleteFrom inside
  apply spec_bind setting.refl first
  intro result
  cases result with
  | true => exact spec_done (setting.settled away) fun _ here => here
  | false =>
    have second : Outline mode (Settled mode False (NotPending known timer))
        (timeoutDeleteHelper .executeQueueHead timer)
        fun result => Settled mode False
          (if result = true then Away known timer else Away known timer) := by
      refine outline_timeoutDeleteHelper (setting.settled notPending) (fun _ => settled_masks) away
        away (fun config here empty => ?_)
        fun config here masked removal lists events deletes emits => ?_
      · exact settled_weaken (fun framed => ⟨framed.1, fun real => ⟨framed.2 real, fun inside => by
          simp [show config.2.lists.expired = [] from empty] at inside⟩⟩) here
      · obtain ⟨shape, framed, -⟩ := here.core
        refine delete_step here masked real (fun inside => ⟨framed.1, fun _ => ?_⟩)
          (fun outside => ⟨framed.1, fun real => ⟨framed.2 real, outside⟩⟩) deletes emits
        exact shape.outside_deleteFrom inside
    apply spec_bind setting.refl second
    intro result
    cases result <;> exact spec_done (setting.settled away) fun _ here => here

theorem outline_timeoutDelete (timer : Node Timer) (real : mode.conserves -> timer ≠ .dummy) :
    Outline mode (Settled mode False (Kept known)) (timeoutDelete timer)
      fun _ => Settled mode False (Away known timer) := by
  have sound := (mainSetting mode).settled (lasting_away known timer)
  apply spec_bind (mainSetting mode).refl (outline_deleteFromLists timer real)
  intro _
  exact spec_emit sound sound fun config here _ => clear_step here real

end Delete

end AvrVoiceControl
