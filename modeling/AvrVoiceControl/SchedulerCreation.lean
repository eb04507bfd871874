import AvrVoiceControl.SchedulerOutline

set_option autoImplicit false

namespace AvrVoiceControl

open Interrupts Interrupts.Rules LinkedList Scheduler

section Measure

variable {Timer : Type} {mode : Mode} {frame : Frame Timer}

/-- A timer with this time would not expire before it is due. -/
structure Timeable (timer : Node Timer) (time : Nat) (config : Config Timer) : Prop where
  later : Later config.1.now (config.1.called timer + config.1.timeout timer) time
    config.2.absoluteTimeOfLastTimeout.toNat
  counting : Counting False config (config.1.called timer + config.1.timeout timer) time
  above : config.2.absoluteTimeOfLastTimeout.toNat ≤ time

structure Detached (mode : Mode) (timer : Node Timer) (timeout : Nat) (config : Config Timer) :
    Prop where
  settled : Settled mode False (Away (fun timeouts => timeouts timer = timeout) timer) config
  masked : Masked False config

theorem Detached.closed {timer : Node Timer} {timeout : Nat} {config : Config Timer}
    (detached : Detached mode timer timeout config) : Closed mode False config :=
  ⟨detached.masked, always_of_core detached.settled.core⟩

def exactTime (timeout value : Nat) (config : Config Timer) : Int :=
  timeout + config.2.absoluteTimeOfLastTimeout.toNat + value - config.2.lastTimerLoad.toNat

def Valued (mode : Mode) (timer : Node Timer) (timeout value : Nat) (config : Config Timer) : Prop :=
  mode.timed -> config.2.lastTimerLoad.toNat ≤ value ∧
    Timeable timer (exactTime timeout value config).toNat config

theorem valued_of_clear {timer : Node Timer} {timeout : Nat} {config : Config Timer}
    (detached : Detached mode timer timeout config) (clear : config.2.overflow = false)
    (counts : config.2.lastTimerLoad.toNat ≤ config.2.count.toNat) :
    Valued mode timer timeout config.2.count.toNat config := by
  intro timed
  obtain ⟨-, framed, bound, -, timely⟩ := detached.settled.core
  have known : config.1.timeout timer = timeout := framed.1
  have called := (timely timed).called timer
  refine ⟨counts, ?_, fun head first => ⟨?_, fun _ overflow => ?_⟩, ?_⟩
  · unfold Later exactTime
    omega
  · have loads := detached.settled.loads timed head first
    unfold exactTime
    omega
  · exact absurd overflow (by simp [clear])
  · unfold exactTime
    omega

theorem valued_of_overflow {timer : Node Timer} {timeout : Nat} {config : Config Timer}
    (detached : Detached mode timer timeout config) :
    Valued mode timer timeout 65535 config := by
  intro timed
  obtain ⟨-, framed, bound, -, timely⟩ := detached.settled.core
  have known : config.1.timeout timer = timeout := framed.1
  have called := (timely timed).called timer
  have count := config.2.count.toNat_lt
  refine ⟨bound, ?_, fun head first => ?_, ?_⟩
  · unfold Later exactTime
    omega
  · have loads := detached.settled.loads timed head first
    unfold exactTime
    exact ⟨by omega, fun _ _ => by omega⟩
  · unfold exactTime
    omega

theorem time_exact {timeout last value load : UInt32}
    (range : (0 : Int) ≤ timeout.toNat + last.toNat + value.toNat - load.toNat ∧
      (timeout.toNat + last.toNat + value.toNat - load.toNat : Int) < 2 ^ 32) :
    ((timeout + last + (value - load)).toNat : Int) =
      timeout.toNat + last.toNat + value.toNat - load.toNat := by
  have sum : (timeout + last + (value - load)).toNat =
      ((timeout.toNat + last.toNat) % 2 ^ 32 +
        (2 ^ 32 - load.toNat + value.toNat) % 2 ^ 32) % 2 ^ 32 := by
    rw [UInt32.toNat_add, UInt32.toNat_add, UInt32.toNat_sub]
  have bound := load.toNat_lt
  omega

theorem time_exact_stopped {timeout last : UInt32}
    (range : (timeout.toNat + last.toNat : Int) < 2 ^ 32) :
    (timeout + last).toNat = timeout.toNat + last.toNat := by
  have sum : (timeout + last).toNat = (timeout.toNat + last.toNat) % 2 ^ 32 := UInt32.toNat_add _ _
  omega

theorem inRange_single {exact : Int} (range : InRange [(.absolute exact : SchedulerEvent Timer)]) :
    0 ≤ exact ∧ exact < 2 ^ 32 :=
  range exact (List.mem_singleton.mpr rfl)

structure Measured (mode : Mode) (timer : Node Timer) (timeout : Nat) (time : UInt32)
    (config : Config Timer) : Prop extends Detached mode timer timeout config where
  timeable : mode.timed -> Timeable timer time.toNat config
  recent : mode.conserves -> config.2.absoluteTimeOfLastTimeout.toNat ≤ time.toNat + 65535

structure AtHead (mode : Mode) (timer : Node Timer) (timeout : Nat) (config : Config Timer) :
    Prop where
  masked : Masked False config
  core : Core mode (Away (fun timeouts => timeouts timer = timeout) timer) config
  later : mode.timed -> Later config.1.now (config.1.called timer + config.1.timeout timer)
    (config.2.absoluteTime timer).toNat config.2.absoluteTimeOfLastTimeout.toNat
  above : mode.conserves ->
    config.2.absoluteTimeOfLastTimeout.toNat ≤ (config.2.absoluteTime timer).toNat
  first : ∀ head, config.2.lists.pending.head? = some head ->
    (config.2.absoluteTime timer).toNat < (config.2.absoluteTime head).toNat

theorem AtHead.closed {timer : Node Timer} {timeout : Nat} {config : Config Timer}
    (atHead : AtHead mode timer timeout config) : Closed mode False config :=
  ⟨atHead.masked, always_of_core atHead.core⟩

theorem atHead_load {timer : Node Timer} {timeout : Nat} {config : Config Timer}
    (atHead : AtHead mode timer timeout config)
    {load : UInt32} (bound : load.toNat ≤ 65535) :
    AtHead mode timer timeout (config.1, { config.2 with lastTimerLoad := load }) := by
  obtain ⟨masked, ⟨shape, framed, -, tracked, timely⟩, later, above, first⟩ := atHead
  exact ⟨masked, ⟨shape, framed, bound, tracked, timely⟩, later, above, first⟩

end Measure

section Outlines

variable {Timer : Type} [DecidableEq Timer] {mode : Mode} {timer : Node Timer} {timeout : Nat}
  {before next : Config Timer}

theorem timeable_receives (timed : mode.timed) (receives : (rules mode).Receives before next)
    {time : Nat} (timeable : Timeable timer time before) : Timeable timer time next := by
  have counting : ∀ due time, Counting False before due time -> Counting False next due time :=
    fun _ _ => counting_receives timed receives
  rcases receives_cases receives with ⟨_, _, untimed, rfl⟩ | rfl
  · exact absurd timed untimed
  · exact ⟨Nat.le_trans timeable.later (Nat.add_le_add_right (Nat.le_succ _) _),
      counting _ _ timeable.counting, timeable.above⟩

theorem detached_receives (receives : (rules mode).Receives before next)
    (detached : Detached mode timer timeout before) : Detached mode timer timeout next :=
  ⟨settled_receives receives detached.settled, masked_receives receives detached.masked⟩

theorem valued_receives (receives : (rules mode).Receives before next) {value : Nat}
    (valued : Valued mode timer timeout value before) : Valued mode timer timeout value next := by
  intro timed
  obtain ⟨bound, timeable⟩ := valued timed
  have kept := timeable_receives timed receives timeable
  rcases receives_cases receives with ⟨_, _, _, rfl⟩ | rfl <;> exact ⟨bound, kept⟩

theorem measured_receives (receives : (rules mode).Receives before next) {time : UInt32}
    (measured : Measured mode timer timeout time before) :
    Measured mode timer timeout time next where
  toDetached := detached_receives receives measured.toDetached
  timeable timed := timeable_receives timed receives (measured.timeable timed)
  recent := by
    rcases receives_cases receives with ⟨_, _, _, rfl⟩ | rfl <;> exact measured.recent

theorem sound_detached {assertion : Config Timer -> Prop}
    (receives : ∀ {before next : Config Timer}, (rules mode).Receives before next ->
      assertion before -> assertion next) :
    Sound (rules mode).Rely (Interruptible mode) fun config =>
      Detached mode timer timeout config ∧ assertion config :=
  (mainSetting mode).masked
    (fun happens here => ⟨detached_receives happens here.1, receives happens here.2⟩)
    fun _ here => here.1.closed

theorem measured_stopped {timeout : UInt32} {config : Config Timer}
    (detached : Detached mode timer timeout.toNat config) (stopped : config.2.isRunning = false)
    (allowed : (rules mode).effects config [.absolute
      (timeout.toNat + config.2.absoluteTimeOfLastTimeout.toNat)]) :
    Measured mode timer timeout.toNat (timeout + config.2.absoluteTimeOfLastTimeout) config := by
  have empty : config.2.lists.pending = [] :=
    detached.settled.running.resolve_left (by simp [stopped])
  obtain ⟨-, framed, -, -, timely⟩ := detached.settled.core
  have known : config.1.timeout timer = timeout.toNat := framed.1
  have exact_time : mode.conserves ∨ mode.timed ->
      (timeout + config.2.absoluteTimeOfLastTimeout).toNat =
        timeout.toNat + config.2.absoluteTimeOfLastTimeout.toNat :=
    fun either => time_exact_stopped (inRange_single (allowed.1 either)).2
  refine ⟨detached, fun timed => ?_, fun conserves => ?_⟩
  · rw [exact_time (.inr timed)]
    have called := (timely timed).called timer
    refine ⟨?_, fun head first => by simp [empty] at first, Nat.le_add_left _ _⟩
    unfold Later
    omega
  · rw [exact_time (.inl conserves)]
    omega

theorem measured_running {timeout value : UInt32} {config : Config Timer}
    (detached : Detached mode timer timeout.toNat config)
    (valued : Valued mode timer timeout.toNat value.toNat config)
    (allowed : (rules mode).effects config [.absolute
      (timeout.toNat + config.2.absoluteTimeOfLastTimeout.toNat + value.toNat -
        config.2.lastTimerLoad.toNat)]) :
    Measured mode timer timeout.toNat
      (timeout + config.2.absoluteTimeOfLastTimeout + (value - config.2.lastTimerLoad)) config := by
  obtain ⟨-, -, bound, -, -⟩ := detached.settled.core
  have exact_time : mode.conserves ∨ mode.timed ->
      ((timeout + config.2.absoluteTimeOfLastTimeout +
        (value - config.2.lastTimerLoad)).toNat : Int) =
      timeout.toNat + config.2.absoluteTimeOfLastTimeout.toNat + value.toNat -
        config.2.lastTimerLoad.toNat :=
    fun either => time_exact (inRange_single (allowed.1 either))
  refine ⟨detached, fun timed => ?_, fun conserves => ?_⟩
  · have timeable := (valued timed).2
    have same := exact_time (.inr timed)
    unfold exactTime at timeable
    rw [← same, Int.toNat_natCast] at timeable
    exact timeable
  · have same := exact_time (.inl conserves)
    omega

theorem outline_makeAbsolute (timer : Node Timer) (timeout : UInt32) :
    Outline mode (Detached mode timer timeout.toNat) (makeAbsolute timeout) fun time =>
      Measured mode timer timeout.toNat time := by
  have setting : Setting mode False (Rely (rules mode) : Config Timer -> _) _ := mainSetting mode
  have detached : Sound (rules mode).Rely (Interruptible mode) (Detached mode timer timeout.toNat) :=
    setting.masked detached_receives fun _ here => here.closed
  have measured : ∀ time, Sound (rules mode).Rely (Interruptible mode)
      (Measured mode timer timeout.toNat time) :=
    fun _ => setting.masked (fun receives here => measured_receives receives here) fun _ here =>
      here.closed
  have lastRead : ∀ last : UInt32, Sound (rules mode).Rely (Interruptible mode)
      fun config : Config Timer => Detached mode timer timeout.toNat config ∧
        config.2.absoluteTimeOfLastTimeout = last := fun last => sound_detached fun receives here => by
    rcases receives_cases receives with ⟨_, _, _, rfl⟩ | rfl <;> exact here
  have runningRead : ∀ (last : UInt32) (running : Bool),
      Sound (rules mode).Rely (Interruptible mode)
      fun config : Config Timer => Detached mode timer timeout.toNat config ∧
        config.2.absoluteTimeOfLastTimeout = last ∧ config.2.isRunning = running :=
    fun last running => sound_detached fun receives here => by
      rcases receives_cases receives with ⟨_, _, _, rfl⟩ | rfl <;> exact here
  refine spec_bind setting.refl (spec_report detached lastRead fun config here _ => ⟨here, rfl⟩)
    fun last => ?_
  refine spec_bind setting.refl (spec_report (lastRead last) (runningRead last)
    fun config here _ => ⟨here.1, here.2, rfl⟩) fun running => ?_
  cases running with
  | false =>
    apply spec_report (runningRead last false) measured
    intro config here allowed
    obtain ⟨detached, rfl, stopped⟩ := here
    exact measured_stopped detached stopped allowed
  | true =>
    -- Between the two reads of the counter and its flag an overflow may come.
    have countRead : ∀ count : UInt16, Sound (rules mode).Rely (Interruptible mode)
        fun config : Config Timer => Detached mode timer timeout.toNat config ∧
          config.2.absoluteTimeOfLastTimeout = last ∧
            (config.2.overflow = true ∨ Valued mode timer timeout.toNat count.toNat config) :=
      fun count => sound_detached fun receives here => by
        refine ⟨?_, here.2.elim (fun overflow => ?_)
          fun valued => .inr (valued_receives receives valued)⟩
        · rcases receives_cases receives with ⟨_, _, _, rfl⟩ | rfl <;> exact here.1
        · rcases receives_cases receives with ⟨_, _, untimed, rfl⟩ | rfl
          · exact .inr fun timed => absurd timed untimed
          · exact .inl (by simp [overflow])
    have valueRead : ∀ value : UInt32, Sound (rules mode).Rely (Interruptible mode)
        fun config : Config Timer => Detached mode timer timeout.toNat config ∧
          config.2.absoluteTimeOfLastTimeout = last ∧
            Valued mode timer timeout.toNat value.toNat config :=
      fun value => sound_detached fun receives here => by
        refine ⟨?_, valued_receives receives here.2⟩
        rcases receives_cases receives with ⟨_, _, _, rfl⟩ | rfl <;> exact here.1
    refine spec_bind setting.refl (spec_report (runningRead last true) countRead
      fun config here allowed => ⟨here.1, here.2.1, ?_⟩) fun count => ?_
    · cases overflow : config.2.overflow with
      | true => exact .inl overflow
      | false =>
        refine .inr fun timed => valued_of_clear here.1 overflow ?_ timed
        have counts := (allowed.2 timed).2 (List.mem_singleton.mpr rfl)
        exact counts.resolve_left (by simp [overflow])
    refine spec_bind setting.refl (spec_report (countRead count) valueRead
      fun config here _ => ⟨here.1, here.2.1, ?_⟩) fun value => ?_
    · change Valued mode timer timeout.toNat
        (if config.2.overflow = true then (65535 : UInt32) else count.toUInt32).toNat config
      split
      · exact valued_of_overflow here.1
      · rename_i clear
        rw [UInt16.toNat_toUInt32]
        exact here.2.2.resolve_left clear
    apply spec_report (valueRead value) measured
    intro config here allowed
    obtain ⟨detached, rfl, valued⟩ := here
    exact measured_running detached valued allowed

structure Stamped (mode : Mode) (timer : Node Timer) (timeout : Nat) (time : UInt32)
    (config : Config Timer) : Prop extends Measured mode timer timeout time config where
  stamp : config.2.absoluteTime timer = time

theorem settled_setTime {frame : Frame Timer} {config : Config Timer}
    (settled : Settled mode False frame config) (outside : timer ∉ config.2.lists.pending)
    (time : UInt32) :
    Settled mode False frame
      (config.1, { config.2 with
        absoluteTime := Function.update config.2.absoluteTime timer time }) := by
  obtain ⟨shape, framed, bound, tracked, timely⟩ := settled.core
  have kept : ∀ node ∈ config.2.lists.pending,
      Function.update config.2.absoluteTime timer time node = config.2.absoluteTime node :=
    fun node member => Function.update_of_ne (ne_of_mem_of_not_mem member outside) _ _
  have kept' : ∀ node, config.2.lists.pending.head? = some node ->
      Function.update config.2.absoluteTime timer time node = config.2.absoluteTime node :=
    fun node first => kept node (List.mem_of_head? first)
  refine ⟨⟨⟨shape, framed, bound, fun conserves => (tracked conserves).setTime outside time,
    fun timed => ⟨fun other member => ?_, (timely timed).called, (timely timed).punctual⟩⟩,
    fun head first => ?_, fun timed other member head first => ?_, fun timed head first => ?_⟩,
    settled.running⟩
  · dsimp only
    rw [kept _ member]
    exact (timely timed).later other member
  · change (Function.update config.2.absoluteTime timer time head - _).toNat ≤ 65535
    rw [kept' head first]
    exact settled.near head first
  · change _ + _ + (Function.update config.2.absoluteTime timer time head).toNat ≤ _ +
      (Function.update config.2.absoluteTime timer time (.timer other)).toNat ∧ (_ -> _ ->
        _ + (Function.update config.2.absoluteTime timer time head).toNat ≤ _ +
          (Function.update config.2.absoluteTime timer time (.timer other)).toNat)
    rw [kept' head first, kept _ member]
    exact settled.counts timed other member head first
  · change _ + (Function.update config.2.absoluteTime timer time head).toNat ≤ _
    rw [kept' head first]
    exact settled.loads timed head first

theorem stamped_receives {time : UInt32} (receives : (rules mode).Receives before next)
    (stamped : Stamped mode timer timeout time before) :
    Stamped mode timer timeout time next where
  toMeasured := measured_receives receives stamped.toMeasured
  stamp := by
    rcases receives_cases receives with ⟨_, _, _, rfl⟩ | rfl <;> exact stamped.stamp

theorem stamp_step {time : UInt32} {config : Config Timer} (real : timer ≠ .dummy)
    (measured : Measured mode timer timeout time config) :
    Stamped mode timer timeout time
      (config.1, { config.2 with
        absoluteTime := Function.update config.2.absoluteTime timer time }) := by
  have outside : timer ∉ config.2.lists.pending := by
    obtain ⟨-, framed, -⟩ := measured.settled.core
    exact (framed.2 real).1
  refine ⟨⟨⟨settled_setTime measured.settled outside time, measured.masked⟩, fun timed => ?_,
    measured.recent⟩, Function.update_self _ _ _⟩
  obtain ⟨later, counting, above⟩ := measured.timeable timed
  refine ⟨later, fun head first => ?_, above⟩
  have kept : Function.update config.2.absoluteTime timer time head = config.2.absoluteTime head :=
    Function.update_of_ne (ne_of_mem_of_not_mem (List.mem_of_head? first) outside) _ _
  change _ + _ + (Function.update config.2.absoluteTime timer time head).toNat ≤ _ ∧ (_ -> _ ->
    _ + (Function.update config.2.absoluteTime timer time head).toNat ≤ _)
  rw [kept]
  exact counting head first

theorem subtractBase_of_notMem (base : UInt32) {nodes : List (Node Timer)} {node : Node Timer}
    (outside : node ∉ nodes) (times : Node Timer -> UInt32) :
    subtractBase base nodes times node = times node := by
  induction nodes generalizing times with
  | nil => rfl
  | cons first rest ih =>
    simp only [List.mem_cons, not_or] at outside
    exact (ih outside.2 _).trans (Function.update_of_ne outside.1 _ _)

theorem subtractBase_of_mem (base : UInt32) {nodes : List (Node Timer)} (nodup : nodes.Nodup)
    {node : Node Timer} (inside : node ∈ nodes) (times : Node Timer -> UInt32) :
    subtractBase base nodes times node = times node - base := by
  induction nodes generalizing times with
  | nil => cases inside
  | cons first rest ih =>
    obtain ⟨outside, nodup⟩ := List.nodup_cons.mp nodup
    rcases List.mem_cons.mp inside with rfl | inside
    · exact (subtractBase_of_notMem base outside _).trans (Function.update_self _ _ _)
    · refine (ih nodup inside _).trans (congrArg (· - base) ?_)
      exact Function.update_of_ne (ne_of_mem_of_not_mem inside outside) _ _

/-- While the list is rebased; no timed run comes here. -/
structure Rebasing (mode : Mode) (timer : Node Timer) (timeout : Nat) (time : UInt32)
    (slack : Nat) (config : Config Timer) : Prop extends Detached mode timer timeout config where
  untimed : ¬ mode.timed
  stamp : config.2.absoluteTime timer = time
  recent : mode.conserves -> config.2.absoluteTimeOfLastTimeout.toNat + slack ≤ time.toNat + 65535

theorem rebasing_receives {time : UInt32} {slack : Nat} (receives : (rules mode).Receives before next)
    (rebasing : Rebasing mode timer timeout time slack before) :
    Rebasing mode timer timeout time slack next where
  toDetached := detached_receives receives rebasing.toDetached
  untimed := rebasing.untimed
  stamp := by
    rcases receives_cases receives with ⟨_, _, _, rfl⟩ | rfl <;> exact rebasing.stamp
  recent := by
    rcases receives_cases receives with ⟨_, _, _, rfl⟩ | rfl <;> exact rebasing.recent

theorem sub_exact {time base : UInt32} (range : (0 : Int) ≤ time.toNat - base.toNat) :
    (time - base).toNat + base.toNat = time.toNat := by
  have bound : base.toNat ≤ time.toNat := by omega
  rw [UInt32.toNat_sub_of_le _ _ (UInt32.le_iff_toNat_le.mpr bound)]
  omega

theorem sub_sub_sub (time last base : UInt32) : time - base - (last - base) = time - last := by
  rw [← UInt32.toBitVec_inj]
  simp only [UInt32.toBitVec_sub]
  bv_omega

theorem rebase_step {time base : UInt32} {config : Config Timer} (real : timer ≠ .dummy)
    (rebasing : Rebasing mode timer timeout time 0 config)
    (allowed : (rules mode).effects config
      (.absolute (config.2.absoluteTimeOfLastTimeout.toNat - base.toNat) ::
        config.2.lists.pending.map fun node =>
          .absolute ((config.2.absoluteTime node).toNat - base.toNat))) :
    Rebasing mode timer timeout time base.toNat
      (config.1, { config.2 with
        absoluteTime := subtractBase base config.2.lists.pending config.2.absoluteTime
        absoluteTimeOfLastTimeout := config.2.absoluteTimeOfLastTimeout - base }) := by
  obtain ⟨⟨⟨shape, framed, bound, tracked, timely⟩, near, counts, loads⟩, running⟩ := rebasing.settled
  have outside : timer ∉ config.2.lists.pending := (framed.2 real).1
  have untimed := rebasing.untimed
  have last_eq : mode.conserves -> (config.2.absoluteTimeOfLastTimeout - base).toNat + base.toNat =
      config.2.absoluteTimeOfLastTimeout.toNat := fun conserves =>
    sub_exact (allowed.1 (.inl conserves) _ List.mem_cons_self).1
  have moved : mode.conserves -> ∀ node ∈ config.2.lists.pending,
      (subtractBase base config.2.lists.pending config.2.absoluteTime node).toNat + base.toNat =
        (config.2.absoluteTime node).toNat := fun conserves node inside => by
    rw [subtractBase_of_mem base shape.pending inside]
    exact sub_exact (allowed.1 (.inl conserves) _
      (List.mem_cons_of_mem _ (List.mem_map_of_mem inside))).1
  refine ⟨⟨⟨⟨⟨shape, framed, bound, fun conserves => ?_, fun timed => absurd timed untimed⟩,
    fun head first => ?_, fun timed => absurd timed untimed, fun timed => absurd timed untimed⟩,
    running⟩, rebasing.masked⟩, untimed, ?_, fun conserves => ?_⟩
  · exact (tracked conserves).rebase (moved conserves) (last_eq conserves)
  · unfold period
    dsimp only
    rw [subtractBase_of_mem base shape.pending (List.mem_of_head? first), sub_sub_sub]
    exact near head first
  · exact (subtractBase_of_notMem base outside _).trans rebasing.stamp
  · have recent := rebasing.recent conserves
    have last := last_eq conserves
    dsimp only
    omega

theorem outline_makeAbsolute_keeps {pre : Config Timer -> Prop}
    (sound : Sound (rules mode).Rely (Interruptible mode) pre) (timeout : UInt32) :
    Outline mode pre (makeAbsolute timeout) fun _ => pre := by
  have setting : Setting mode False (Rely (rules mode) : Config Timer -> _) _ := mainSetting mode
  refine spec_bind setting.refl (spec_report sound (fun _ => sound) fun _ here _ => here) ?_
  intro last
  refine spec_bind setting.refl (spec_report sound (fun _ => sound) fun _ here _ => here) ?_
  intro running
  cases running with
  | false => exact spec_report sound (fun _ => sound) fun _ here _ => here
  | true =>
    refine spec_bind setting.refl (spec_report sound (fun _ => sound) fun _ here _ => here) ?_
    intro count
    refine spec_bind setting.refl (spec_report sound (fun _ => sound) fun _ here _ => here) ?_
    exact fun value => spec_report sound (fun _ => sound) fun _ here _ => here

theorem absolutes_silent (journal : Journal Timer) (nodes : List (Node Timer))
    (exact : Node Timer -> Int) :
    (nodes.map fun node => SchedulerEvent.absolute (exact node)).foldl Journal.observe journal =
      journal := by
  induction nodes with
  | nil => rfl
  | cons node rest ih => exact ih

theorem outline_rebaseList (real : timer ≠ .dummy) (time : UInt32) :
    Outline mode (Rebasing mode timer timeout time 0) rebaseList fun base =>
      Rebasing mode timer timeout time base.toNat := by
  have setting : Setting mode False (Rely (rules mode) : Config Timer -> _) _ := mainSetting mode
  have rebasing : ∀ slack, Sound (rules mode).Rely (Interruptible mode)
      (Rebasing mode timer timeout time slack) := fun _ =>
    setting.masked rebasing_receives fun _ here => here.closed
  apply spec_bind setting.refl (outline_makeAbsolute_keeps (rebasing 0) 0)
  intro base
  have subtracts : Outline mode (Rebasing mode timer timeout time 0)
      (.attempt fun state => do
        let nodes ← TimerLists.points state.lists
        return ((),
          { state with
            absoluteTime := subtractBase base nodes state.absoluteTime
            absoluteTimeOfLastTimeout := state.absoluteTimeOfLastTimeout - base },
          .absolute (state.absoluteTimeOfLastTimeout.toNat - base.toNat) ::
            nodes.map fun node => .absolute ((state.absoluteTime node).toNat - base.toNat)))
      fun _ => Rebasing mode timer timeout time base.toNat := by
    apply spec_attempt (rebasing 0) (fun _ => rebasing _)
    intro config here
    refine ⟨(), _, _, rfl, fun allowed => ?_⟩
    have step := rebase_step real here allowed
    have silent := absolutes_silent config.1 config.2.lists.pending fun node =>
      (config.2.absoluteTime node).toNat - base.toNat
    unfold Rules.after
    exact silent.symm ▸ step
  exact spec_bind setting.refl subtracts fun _ => spec_done (rebasing _) fun _ here => here

structure Placeable (mode : Mode) (timer : Node Timer) (timeout : Nat) (config : Config Timer) :
    Prop extends Detached mode timer timeout config where
  timeable : mode.timed -> Timeable timer (config.2.absoluteTime timer).toNat config
  above : mode.conserves ->
    config.2.absoluteTimeOfLastTimeout.toNat ≤ (config.2.absoluteTime timer).toNat

theorem placeable_receives (receives : (rules mode).Receives before next)
    (placeable : Placeable mode timer timeout before) : Placeable mode timer timeout next := by
  have timeable : mode.timed -> ∀ time, Timeable timer time before -> Timeable timer time next :=
    fun timed _ => timeable_receives timed receives
  have detached := detached_receives receives placeable.toDetached
  rcases receives_cases receives with ⟨_, _, _, rfl⟩ | rfl
  · exact ⟨detached, fun timed => timeable timed _ (placeable.timeable timed), placeable.above⟩
  · exact ⟨detached, fun timed => timeable timed _ (placeable.timeable timed), placeable.above⟩

theorem wrap_exact {time base : UInt32}
    (range : (0 : Int) ≤ time.toNat + 65536 - base.toNat ∧
      (time.toNat + 65536 - base.toNat : Int) < 2 ^ 32) :
    ((time + (65535 - base + 1)).toNat : Int) = time.toNat + 65536 - base.toNat := by
  have bound := base.toNat_lt
  have sum : (time + (65535 - base + 1)).toNat =
      (time.toNat + ((2 ^ 32 - base.toNat + 65535) % 2 ^ 32 + 1) % 2 ^ 32) % 2 ^ 32 := by
    rw [UInt32.toNat_add, UInt32.toNat_add, UInt32.toNat_sub]
    rfl
  omega

theorem place_step {time base : UInt32} {config : Config Timer} (real : timer ≠ .dummy)
    (rebasing : Rebasing mode timer timeout time base.toNat config)
    (allowed : (rules mode).effects config [.absolute (time.toNat + 65536 - base.toNat)]) :
    Placeable mode timer timeout
      (config.1, { config.2 with
        absoluteTime := Function.update config.2.absoluteTime timer
          (time + (65535 - base + 1)) }) := by
  obtain ⟨-, framed, -⟩ := rebasing.settled.core
  refine ⟨⟨settled_setTime rebasing.settled (framed.2 real).1 _, rebasing.masked⟩,
    fun timed => absurd timed rebasing.untimed, fun conserves => ?_⟩
  have exact := wrap_exact (inRange_single (allowed.1 (.inl conserves)))
  have recent := rebasing.recent conserves
  dsimp only
  rw [Function.update_self]
  omega

theorem outline_rebaseFor (real : timer ≠ .dummy) (time : UInt32) :
    Outline mode (Stamped mode timer timeout time) (rebaseFor timer time) fun _ =>
      Placeable mode timer timeout := by
  have setting : Setting mode False (Rely (rules mode) : Config Timer -> _) _ := mainSetting mode
  have stamped : Sound (rules mode).Rely (Interruptible mode)
      (Stamped mode timer timeout time) :=
    setting.masked stamped_receives fun _ here => here.closed
  have placeable : Sound (rules mode).Rely (Interruptible mode)
      (Placeable mode timer timeout) :=
    setting.masked placeable_receives fun _ here => here.closed
  have lastRead : ∀ last : UInt32, Sound (rules mode).Rely (Interruptible mode)
      fun config : Config Timer => Stamped mode timer timeout time config ∧
        config.2.absoluteTimeOfLastTimeout = last := by
    refine fun last => setting.masked (fun receives here => ⟨stamped_receives receives here.1, ?_⟩)
      fun _ here => here.1.closed
    rcases receives_cases receives with ⟨_, _, _, rfl⟩ | rfl <;> exact here.2
  refine spec_bind setting.refl (spec_report stamped lastRead fun _ here _ => ⟨here, rfl⟩) ?_
  intro last
  have compares := UInt32.lt_iff_toNat_lt (a := time) (b := last)
  by_cases older : time < last
  · rw [if_pos older]
    have rebasing : ∀ slack, Sound (rules mode).Rely (Interruptible mode)
        (Rebasing mode timer timeout time slack) := fun _ =>
      setting.masked rebasing_receives fun _ here => here.closed
    have start : ∀ config : Config Timer, Stamped mode timer timeout time config ∧
        config.2.absoluteTimeOfLastTimeout = last -> Rebasing mode timer timeout time 0 config := by
      rintro config ⟨here, rfl⟩
      refine ⟨here.toDetached, fun timed => ?_, here.stamp, here.recent⟩
      exact absurd (here.timeable timed).above (Nat.not_le_of_lt (compares.mp older))
    apply spec_bind setting.refl (spec_weaken (outline_rebaseList real time) start)
    intro base
    apply spec_emit (rebasing _) placeable
    intro config here allowed
    exact place_step real here allowed
  · rw [if_neg older]
    apply spec_done (lastRead last)
    rintro config ⟨here, rfl⟩
    refine ⟨here.toDetached, fun timed => ?_, fun _ => ?_⟩
    · rw [here.stamp]
      exact here.timeable timed
    · rw [here.stamp]
      exact Nat.le_of_not_lt fun less => older (compares.mpr less)

theorem timely_insert {config : Config Timer} {queues : Queues Timer}
    (timely : Timely config.1.now config.1.called config.1.due config.1.punctual config.2.lists
      config.2.absoluteTime config.2.absoluteTimeOfLastTimeout)
    (later : Later config.1.now (config.1.called timer + config.1.timeout timer)
      (config.2.absoluteTime timer).toNat config.2.absoluteTimeOfLastTimeout.toNat)
    (members : queues.pending ⊆ timer :: config.2.lists.pending) :
    Timely config.1.now config.1.called
      (Function.update config.1.due timer (config.1.called timer + config.1.timeout timer))
      config.1.punctual queues config.2.absoluteTime config.2.absoluteTimeOfLastTimeout where
  later other member := by
    by_cases same : Node.timer other = timer
    · rw [same, Function.update_self]
      exact later
    · rw [Function.update_of_ne same]
      exact timely.later other ((List.mem_cons.mp (members member)).resolve_left same)
  called := timely.called
  punctual := timely.punctual

theorem insert_step {config : Config Timer} (real : timer ≠ .dummy)
    (placeable : Placeable mode timer timeout config) {front back : List (Node Timer)}
    (list : config.2.lists.pending = front ++ back) (behind : front ≠ [])
    (sooner : ∀ node ∈ front,
      (config.2.absoluteTime node).toNat ≤ (config.2.absoluteTime timer).toNat)
    (later : mode.conserves -> ∀ node ∈ back,
      (config.2.absoluteTime timer).toNat < (config.2.absoluteTime node).toNat) :
    Settled mode False (fun _ _ => True) ((rules mode).after config
      ({ config.2 with lists := { config.2.lists with pending := front ++ timer :: back } },
        [.created timer])) := by
  obtain ⟨⟨⟨shape, framed, bound, tracked, timely⟩, near, counts, loads⟩, running⟩ :=
    placeable.settled
  have outside := framed.2 real
  have head : (front ++ timer :: back).head? = config.2.lists.pending.head? := by
    obtain ⟨first, rest, rfl⟩ := List.exists_cons_of_ne_nil behind
    rw [list]
    rfl
  have members : front ++ timer :: back ⊆ timer :: config.2.lists.pending := by
    rw [list]
    intro node
    simp only [List.mem_append, List.mem_cons]
    tauto
  refine ⟨⟨⟨shape.insert list behind outside real, trivial, bound, fun conserves => ?_,
    fun timed => timely_insert (timely timed) (placeable.timeable timed).later members⟩,
    fun first here => near first (head ▸ here), fun timed other member first here => ?_,
    fun timed first here => loads timed first (head ▸ here)⟩, .inl ?_⟩
  · refine (tracked conserves).insert (by rw [list]) (fun node inside _ => list ▸ inside) real outside
      sooner (later conserves) (placeable.above conserves)
  · have counting : Counting False config
        (Function.update config.1.due timer (config.1.called timer + config.1.timeout timer)
          (.timer other)) (config.2.absoluteTime (.timer other)).toNat := by
      by_cases same : Node.timer other = timer
      · rw [same, Function.update_self]
        exact (placeable.timeable timed).counting
      · rw [Function.update_of_ne same]
        exact counts timed other ((List.mem_cons.mp (members member)).resolve_left same)
    exact counting first (head ▸ here)
  · refine running.resolve_right fun empty => behind ?_
    rw [list] at empty
    exact (List.append_eq_nil_iff.mp empty).1

theorem atHead_receives (receives : (rules mode).Receives before next)
    (atHead : AtHead mode timer timeout before) : AtHead mode timer timeout next where
  masked := masked_receives receives atHead.masked
  core := core_receives receives atHead.core
  later timed := by
    have later := atHead.later timed
    rcases receives_cases receives with ⟨_, _, _, rfl⟩ | rfl
    · exact later
    · exact Nat.le_trans later (Nat.add_le_add_right (Nat.le_succ _) _)
  above := by
    rcases receives_cases receives with ⟨_, _, _, rfl⟩ | rfl <;> exact atHead.above
  first := by
    rcases receives_cases receives with ⟨_, _, _, rfl⟩ | rfl <;> exact atHead.first

theorem link_step {config : Config Timer} (real : timer ≠ .dummy)
    (atHead : AtHead mode timer timeout config) :
    Headless mode False (fun _ _ => True) ((rules mode).after config
      ({ config.2 with
        lists := { config.2.lists with
          pending := timer :: Queues.dropDummy config.2.lists.pending } },
        [.created timer, .replaced])) := by
  obtain ⟨masked, ⟨shape, framed, bound, tracked, timely⟩, later, above, first⟩ := atHead
  have outside := framed.2 real
  have fewer := Shape.dropDummy_sublist config.2.lists.pending
  refine ⟨masked, ⟨shape.linkHead outside, trivial, bound, fun conserves => ?_,
    fun timed => timely_insert (timely timed) (later timed)
      (List.cons_subset_cons timer fewer.subset)⟩, fun head => ?_, fun _ same => by cases same⟩
  · have fewer' : ([] ++ Queues.dropDummy config.2.lists.pending).Sublist
        config.2.lists.pending := fewer
    refine (tracked conserves).insert fewer' (fun node inside ne => ?_) real outside (by simp)
      (fun node inside => ?_) (above conserves)
    · exact Shape.mem_dropDummy inside ne
    · have member := fewer.subset inside
      obtain ⟨head, rest, list⟩ := List.exists_cons_of_ne_nil (List.ne_nil_of_mem member)
      exact Nat.lt_of_lt_of_le (first head (by rw [list, List.head?_cons]))
        ((tracked conserves).head_le list node member)
  · exact absurd (Option.some.inj head) real

def Searched (mode : Mode) (timer : Node Timer) (timeout : Nat) (atHead : Bool) :
    Config Timer -> Prop :=
  if atHead = true then AtHead mode timer timeout else Settled mode False fun _ _ => True

theorem search_step {config : Config Timer} (real : timer ≠ .dummy)
    (placeable : Placeable mode timer timeout config) :
    ∃ atHead lists, TimerLists.search
        (fun point => decide (config.2.absoluteTime point > config.2.absoluteTime timer)) timer
        config.2.lists = some (atHead, lists) ∧
      Searched mode timer timeout atHead ((rules mode).after config
        ({ config.2 with lists := lists }, if atHead then [] else [.created timer])) := by
  obtain ⟨shape, framed, bound, tracked, timely⟩ := placeable.settled.core
  have outside : config.2.lists.Outside timer := framed.2 real
  have later : ∀ node, decide (config.2.absoluteTime node > config.2.absoluteTime timer) = true ↔
      (config.2.absoluteTime timer).toNat < (config.2.absoluteTime node).toNat := fun node => by
    rw [decide_eq_true_iff, gt_iff_lt, UInt32.lt_iff_toNat_lt]
  -- The search only sees whether a timer is later, not the times.
  generalize decides : (fun point => decide (config.2.absoluteTime point >
    config.2.absoluteTime timer)) = stop
  have later' : ∀ node, stop node = true ↔
      (config.2.absoluteTime timer).toNat < (config.2.absoluteTime node).toNat := fun node => by
    rw [← decides]
    exact later node
  by_cases first : config.2.lists.pending.takeWhile (!stop ·) = []
  · refine ⟨true, config.2.lists, ?_, placeable.masked, placeable.settled.core,
      fun timed => (placeable.timeable timed).later, placeable.above, fun head here => ?_⟩
    · simp only [TimerLists.search, Queues.search, outside, first, not_true_eq_false, if_false,
        if_true]
    · have here' : config.2.lists.pending.head? = some head := here
      obtain ⟨rest, list⟩ := List.head?_eq_some_iff.mp here'
      refine (later' head).mp ?_
      by_contra sooner
      rw [list, List.takeWhile_cons_of_pos (by simpa using sooner)] at first
      cases first
  · have list := (List.takeWhile_append_dropWhile (p := (!stop ·))
      (l := config.2.lists.pending)).symm
    refine ⟨false, _, ?_, insert_step real placeable list first (fun node inside => ?_)
      fun conserves node inside => ?_⟩
    · simp [TimerLists.search, Queues.search, outside, first]
    · have sooner : stop node ≠ true := by
        simpa using List.all_eq_true.mp List.all_takeWhile node inside
      exact Nat.le_of_not_lt fun less => sooner ((later' node).mpr less)
    · obtain ⟨head, rest, back⟩ := List.exists_cons_of_ne_nil (List.ne_nil_of_mem inside)
      -- The list is sorted, so the first later timer stands before all the others.
      have sorted := (tracked conserves).sorted.sublist (List.dropWhile_sublist (!stop ·))
      rw [back] at inside sorted
      have stops : stop head = true := by
        have drops := List.head?_dropWhile_not (!stop ·) config.2.lists.pending
        simpa [back] using drops
      have head_later := (later' head).mp stops
      rcases List.mem_cons.mp inside with rfl | inside
      · exact head_later
      · exact Nat.lt_of_lt_of_le head_later ((List.pairwise_cons.mp sorted).1 node inside).le

theorem setting_searched (atHead : Bool) :
    Sound (rules mode).Rely (Interruptible mode) (Searched mode timer timeout atHead) := by
  cases atHead with
  | true => exact (mainSetting mode).masked atHead_receives fun _ here => here.closed
  | false => exact (mainSetting mode).settled lasting_always

def Inserted (mode : Mode) : Bool -> Config Timer -> Prop
  | true => Headless mode False fun _ _ => True
  | false => Settled mode False fun _ _ => True

theorem setting_inserted (atHead : Bool) :
    Sound (rules mode).Rely (Interruptible mode) (Inserted mode atHead : Config Timer -> Prop) := by
  cases atHead with
  | true => exact (mainSetting mode).masked headless_receives fun _ here => here.closed
  | false => exact (mainSetting mode).settled lasting_always

theorem atHead_stored {config : Config Timer} (atHead : AtHead mode timer timeout config)
    (count : UInt16) :
    AtHead mode timer timeout
      ((rules mode).after config ({ config.2 with count := count }, [.loaded])) := by
  obtain ⟨shape, framed, bound, tracked, timely⟩ := atHead.core
  refine ⟨atHead.masked, ⟨shape, framed, bound, tracked, fun timed => ?_⟩, atHead.later, atHead.above,
    atHead.first⟩
  exact ⟨(timely timed).later, (timely timed).called, (timely timed).punctual⟩

theorem outline_insertAtHead (real : timer ≠ .dummy) (duration : UInt32)
    (bound : duration.toNat ≤ 65535) :
    Outline mode (AtHead mode timer timeout)
      (do
        setTimerDuration duration
        .assign fun state => { state with overflow := false }
        .attempt fun state => do
          let lists ← TimerLists.linkHead timer state.lists
          return (true, { state with lists := lists }, [.created timer, .replaced]))
      (Inserted mode) := by
  have setting : Setting mode False (Rely (rules mode) : Config Timer -> _) _ := mainSetting mode
  have atHead : Sound (rules mode).Rely (Interruptible mode) (AtHead mode timer timeout) :=
    setting.masked atHead_receives fun _ here => here.closed
  have loads : Outline mode (AtHead mode timer timeout) (setTimerDuration duration)
      fun _ => AtHead mode timer timeout := by
    refine spec_bind setting.refl (spec_emit atHead atHead fun config here _ => ?_) fun _ => ?_
    · have loaded := Nat.sub_le 65535 duration.toNat
      rw [← load_toNat bound] at loaded
      exact atHead_load here loaded
    · exact spec_emit atHead atHead fun config here _ => atHead_stored here _
  apply spec_bind setting.refl loads
  intro _
  refine spec_bind setting.refl (spec_emit atHead atHead fun config here _ => ?_) fun _ => ?_
  · exact ⟨here.masked, here.core, here.later, here.above, here.first⟩
  apply spec_attempt atHead setting_inserted
  intro config here
  obtain ⟨-, framed, -⟩ := here.core
  have links : TimerLists.linkHead timer config.2.lists = some
      { config.2.lists with pending := timer :: Queues.dropDummy config.2.lists.pending } :=
    if_pos (framed.2 real)
  exact ⟨true, _, _, Option.bind_eq_some_iff.mpr ⟨_, links, rfl⟩, fun _ => link_step real here⟩

theorem outline_sortedInsert (real : timer ≠ .dummy) (time : UInt32) :
    Outline mode (Stamped mode timer timeout time) (sortedInsert timer) (Inserted mode) := by
  have setting : Setting mode False (Rely (rules mode) : Config Timer -> _) _ := mainSetting mode
  have stamped : ∀ time, Sound (rules mode).Rely (Interruptible mode)
      (Stamped mode timer timeout time) := fun _ =>
    setting.masked stamped_receives fun _ here => here.closed
  have placeable : Sound (rules mode).Rely (Interruptible mode) (Placeable mode timer timeout) :=
    setting.masked placeable_receives fun _ here => here.closed
  have timeRead : Outline mode (Stamped mode timer timeout time) (.read (·.absoluteTime timer))
      (Stamped mode timer timeout) := by
    apply spec_report (stamped time) stamped
    intro config here _
    have stamp := here.stamp
    subst stamp
    exact here
  apply spec_bind setting.refl timeRead
  intro time
  refine spec_bind setting.refl
    (spec_emit (stamped time) (stamped time) fun config here _ => ?_) fun _ => ?_
  · obtain ⟨-, framed, -⟩ := here.settled.core
    have outside : config.2.lists.Outside timer := framed.2 real
    have kept : TimerLists.clearNext timer config.2.lists = config.2.lists :=
      Shape.unchanged_clearNext outside
    dsimp only
    rw [kept]
    exact here
  apply spec_bind setting.refl (outline_rebaseFor real time)
  intro _
  have searches : Outline mode (Placeable mode timer timeout)
      (.attempt fun state => do
        let later := fun point => decide (state.absoluteTime point > state.absoluteTime timer)
        let (atHead, lists) ← TimerLists.search later timer state.lists
        return (atHead, { state with lists := lists }, if atHead then [] else [.created timer]))
      (Searched mode timer timeout) := by
    apply spec_attempt placeable setting_searched
    intro config here
    obtain ⟨atHead, lists, found, reached⟩ := search_step real here
    exact ⟨atHead, _, _, Option.bind_eq_some_iff.mpr ⟨_, found, rfl⟩, fun _ => reached⟩
  apply spec_bind setting.refl searches
  intro atHead
  cases atHead with
  | true => exact outline_insertAtHead real 65535 (by decide)
  | false => exact spec_done (setting_searched false) fun _ here => here

theorem creating_step {config : Config Timer} (settled : Settled mode False (fun _ _ => True) config)
    (timer : Node Timer) (timeout : UInt32) :
    Settled mode False (Kept fun timeouts => timeouts timer = timeout.toNat)
      ((rules mode).after config (config.2, [.creating timer timeout])) := by
  obtain ⟨shape, -, bound, tracked, timely⟩ := settled.core
  refine ⟨⟨⟨shape, Function.update_self _ _ _, bound, tracked, fun timed => ⟨(timely timed).later,
    fun other => ?_, (timely timed).punctual⟩⟩, settled.near, settled.counts, settled.loads⟩,
    settled.running⟩
  change Function.update config.1.called timer config.1.now other ≤ config.1.now
  by_cases same : other = timer
  · rw [same, Function.update_self]
  · rw [Function.update_of_ne same]
    exact (timely timed).called other

theorem outline_timeoutCreate (real : timer ≠ .dummy) (timeout : UInt32) :
    Outline mode (Settled mode False fun _ _ => True) (timeoutCreate timer timeout)
      fun _ => Settled mode False fun _ _ => True := by
  have setting : Setting mode False (Rely (rules mode) : Config Timer -> _) _ := mainSetting mode
  have settled : Sound (rules mode).Rely (Interruptible mode)
      (Settled mode False fun _ _ => True) := setting.settled lasting_always
  let known : (Node Timer -> Nat) -> Prop := fun timeouts => timeouts timer = timeout.toNat
  have away : Sound (rules mode).Rely (Interruptible mode)
      (Settled mode False (Away known timer)) := setting.settled (lasting_away known timer)
  refine spec_bind setting.refl (spec_emit settled (setting.settled (lasting_kept known))
    fun config here _ => creating_step here timer timeout) fun _ => ?_
  apply spec_bind setting.refl (outline_timeoutDelete timer fun _ => real)
  intro _
  apply spec_bind setting.refl (outline_disableInterrupt away fun _ => settled_masks)
  intro _
  have start : ∀ config : Config Timer,
      Settled mode False (Away known timer) config ∧ Masked False config ->
        Detached mode timer timeout.toNat config := fun _ here => ⟨here.1, here.2⟩
  refine spec_weaken ?_ start
  apply spec_bind setting.refl (outline_makeAbsolute timer timeout)
  intro time
  have measured : Sound (rules mode).Rely (Interruptible mode)
      (Measured mode timer timeout.toNat time) :=
    setting.masked (fun receives here => measured_receives receives here) fun _ here => here.closed
  have stamped : Sound (rules mode).Rely (Interruptible mode)
      (Stamped mode timer timeout.toNat time) :=
    setting.masked stamped_receives fun _ here => here.closed
  refine spec_bind setting.refl
    (spec_emit measured stamped fun config here _ => stamp_step real here) fun _ => ?_
  apply spec_bind setting.refl (outline_sortedInsert real time)
  intro atHead
  cases atHead with
  | true => exact spec_startTimerAtHead setting lasting_always
  | false =>
    refine spec_bind setting.refl (spec_report (setting_inserted false) (fun _ => settled)
      fun config here _ => here) fun running => ?_
    cases running with
    | true => exact outline_enableInterrupt lasting_always
    | false => exact spec_done settled fun _ here => here

end Outlines

end AvrVoiceControl
