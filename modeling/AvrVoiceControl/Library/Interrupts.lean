import AvrVoiceControl.Library.Machine
import Mathlib.Logic.Relation

set_option autoImplicit false

namespace Interrupts

open Relation

/-- A program as its next statement, which changes the state and emits events, and the rest, which
may use what the statement read. A program that faults or spins never goes on. -/
inductive Program (State Event Result : Type) : Type
  | done (result : Result)
  | statement (run : State -> State × List Event) (rest : State -> Program State Event Result)
  | spin
  | fault

namespace Program

variable {State Event Result Other : Type}

def isDone : Program State Event Result -> Bool
  | .done _ => true
  | _ => false

def isFault : Program State Event Result -> Bool
  | .fault => true
  | _ => false

def bind : Program State Event Result -> (Result -> Program State Event Other) ->
    Program State Event Other
  | .done result, next => next result
  | .statement run rest, next => .statement run fun state => (rest state).bind next
  | .spin, _ => .spin
  | .fault, _ => .fault

instance : Monad (Program State Event) where
  pure := .done
  bind := bind

def report (value : State -> Result × List Event) : Program State Event Result :=
  .statement (fun state => (state, (value state).2)) fun state => .done (value state).1

def read (value : State -> Result) : Program State Event Result :=
  report fun state => (value state, [])

def emit (effect : State -> State × List Event) : Program State Event Unit :=
  .statement effect fun _ => .done ()

def assign (effect : State -> State) : Program State Event Unit :=
  emit fun state => (effect state, [])

def attempt (effect : State -> Option (Result × State × List Event)) :
    Program State Event Result :=
  .statement
    (fun state =>
      match effect state with
      | some (_, next, events) => (next, events)
      | none => (state, []))
    fun state =>
      match effect state with
      | some (result, _) => .done result
      | none => .fault

def exec : Program State Event Result -> State -> Option (Result × State × List Event)
  | .done result, state => some (result, state, [])
  | .statement run rest, state =>
    ((rest state).exec (run state).1).map fun (result, next, events) =>
      (result, next, (run state).2 ++ events)
  | .spin, _ => none
  | .fault, _ => none

theorem exec_bind {program : Program State Event Result} {later : Result -> Program State Event Other}
    {state next : State} {result : Result} {events : List Event}
    (first : program.exec state = some (result, next, events)) :
    (program >>= later).exec state =
      ((later result).exec next).map fun (value, last, more) => (value, last, events ++ more) := by
  change (program.bind later).exec state = _
  induction program generalizing state events with
  | done value =>
    obtain ⟨rfl, rfl, rfl⟩ : value = result ∧ state = next ∧ [] = events := by
      simpa [exec] using first
    simp [bind]
  | statement run rest ih =>
    simp only [exec, Option.map_eq_some_iff, Prod.mk.injEq, Prod.exists] at first
    obtain ⟨_, _, front, returns, rfl, rfl, rfl⟩ := first
    have tail := ih state returns
    simp only [bind, exec, tail, Option.map_map]
    refine congrArg (Option.map · _) (funext fun value => ?_)
    simp
  | spin => cases first
  | fault => cases first

theorem exec_attempt {effect : State -> Option (Result × State × List Event)} {state next : State}
    {result : Result} {events : List Event} (succeeds : effect state = some (result, next, events)) :
    (attempt effect).exec state = some (result, next, events) := by
  simp [attempt, exec, succeeds]

def Returns (program : Program State Event Result) (state : State) (result : Result)
    (next : State) : Prop :=
  ∃ events, program.exec state = some (result, next, events)

theorem returns_done (result : Result) (state : State) :
    Returns (pure result : Program State Event Result) state result state :=
  ⟨[], rfl⟩

theorem returns_emit (effect : State -> State × List Event) (state : State) :
    Returns (.emit effect) state () (effect state).1 :=
  ⟨_, rfl⟩

theorem returns_report (value : State -> Result × List Event) (state : State) :
    Returns (.report value) state (value state).1 state :=
  ⟨_, rfl⟩

theorem returns_attempt {effect : State -> Option (Result × State × List Event)} {state next : State}
    {result : Result} {events : List Event} (succeeds : effect state = some (result, next, events)) :
    Returns (.attempt effect) state result next :=
  ⟨events, exec_attempt succeeds⟩

theorem returns_bind {program : Program State Event Result}
    {later : Result -> Program State Event Other} {state next last : State} {result : Result}
    {value : Other} (first : Returns program state result next)
    (second : Returns (later result) next value last) :
    Returns (program >>= later) state value last := by
  obtain ⟨events, returns⟩ := first
  obtain ⟨more, returns'⟩ := second
  exact ⟨events ++ more, by rw [exec_bind returns, returns']; rfl⟩

section

variable {later : Unit -> Program State Event Other} {state last : State} {value : Other}

theorem returns_read {read : State -> Result} {later : Result -> Program State Event Other}
    (rest : Returns (later (read state)) state value last) :
    Returns (.read read >>= later) state value last :=
  returns_bind (returns_report _ _) rest

theorem returns_reported {report : State -> Result × List Event}
    {later : Result -> Program State Event Other}
    (rest : Returns (later (report state).1) state value last) :
    Returns (.report report >>= later) state value last :=
  returns_bind (returns_report _ _) rest

theorem returns_emitted {effect : State -> State × List Event}
    (rest : Returns (later ()) (effect state).1 value last) :
    Returns (.emit effect >>= later) state value last :=
  returns_bind (returns_emit _ _) rest

theorem returns_assigned {effect : State -> State}
    (rest : Returns (later ()) (effect state) value last) :
    Returns (.assign effect >>= later) state value last :=
  returns_emitted rest

theorem returns_attempted {effect : State -> Option (Result × State × List Event)}
    {later : Result -> Program State Event Other} {next : State} {result : Result}
    {events : List Event} (succeeds : effect state = some (result, next, events))
    (rest : Returns (later result) next value last) :
    Returns (.attempt effect >>= later) state value last :=
  returns_bind (returns_attempt succeeds) rest

end

theorem returns_unique {program : Program State Event Result} {state next last : State}
    {result value : Result} (one : Returns program state result next)
    (other : Returns program state value last) : result = value ∧ next = last := by
  obtain ⟨events, returns⟩ := one
  obtain ⟨more, returns'⟩ := other
  have same := returns.symm.trans returns'
  simp only [Option.some.injEq, Prod.mk.injEq] at same
  exact ⟨same.1, same.2.1⟩

theorem returns_split {program : Program State Event Result}
    {later : Result -> Program State Event Other} {state last : State} {value : Other}
    (both : Returns (program >>= later) state value last) :
    ∃ result next, Returns program state result next ∧ Returns (later result) next value last := by
  change Returns (program.bind later) state value last at both
  induction program generalizing state with
  | done result => exact ⟨result, state, returns_done _ _, both⟩
  | statement run rest ih =>
    obtain ⟨events, runs⟩ := both
    simp only [bind, exec, Option.map_eq_some_iff, Prod.mk.injEq, Prod.exists] at runs
    obtain ⟨_, _, more, runs, rfl, rfl, -⟩ := runs
    obtain ⟨result, next, ⟨front, first⟩, second⟩ := ih state ⟨more, runs⟩
    exact ⟨result, next, ⟨_, by simp only [exec, first]; rfl⟩, second⟩
  | spin =>
    obtain ⟨events, runs⟩ := both
    cases runs
  | fault =>
    obtain ⟨events, runs⟩ := both
    cases runs

theorem returns_of_bind {program : Program State Event Result}
    {later : Result -> Program State Event Other} {state next last : State} {result : Result}
    {value : Other} (first : Returns program state result next)
    (both : Returns (program >>= later) state value last) :
    Returns (later result) next value last := by
  obtain ⟨_, _, first', second⟩ := returns_split both
  obtain ⟨rfl, rfl⟩ := returns_unique first first'
  exact second

end Program

/-- A processor between two statements, with the handler that it is in. -/
structure Processor (State Event : Type) where
  state : State
  main : Program State Event Unit
  handler : Option (Program State Event Unit)

inductive Action (Entry Input : Type)
  | call (entry : Entry)
  | execute
  | interrupt
  | input (input : Input)

structure System (State Event Entry Input : Type) where
  program : Entry -> Program State Event Unit
  handler : Program State Event Unit
  device : State -> Input -> State × List Event

namespace System

variable {State Event Entry Input : Type}

def executeHandler (processor : Processor State Event) :
    Program State Event Unit -> Processor State Event × List Event
  | .done _ => ({ processor with handler := none }, [])
  | .statement run rest =>
    ({ processor with
        state := (run processor.state).1
        handler := some (rest processor.state) },
      (run processor.state).2)
  | _ => (processor, [])

def executeMain (processor : Processor State Event) :
    Program State Event Unit -> Processor State Event × List Event
  | .statement run rest =>
    ({ processor with
        state := (run processor.state).1
        main := rest processor.state },
      (run processor.state).2)
  | _ => (processor, [])

/-- Calls wait for the main program to return, and interrupts for the handler. -/
def step (system : System State Event Entry Input) (processor : Processor State Event) :
    Action Entry Input -> Processor State Event × List Event
  | .call entry =>
    match processor.handler, processor.main with
    | none, .done _ => ({ processor with main := system.program entry }, [])
    | _, _ => (processor, [])
  | .execute =>
    match processor.handler with
    | some handler => executeHandler processor handler
    | none => executeMain processor processor.main
  | .interrupt =>
    match processor.handler with
    | none => ({ processor with handler := some system.handler }, [])
    | some _ => (processor, [])
  | .input input =>
    ({ processor with state := (system.device processor.state input).1 },
      (system.device processor.state input).2)

end System

/-- Which actions a run may take; the guards may use a ghost state that the events are folded
into. -/
structure Rules (State Event Entry Input Ghost : Type) where
  system : System State Event Entry Input
  observe : Ghost -> Event -> Ghost
  calls : Ghost × State -> Entry -> Prop
  inputs : Ghost × State -> Input -> Prop
  interrupts : Ghost × State -> Prop
  -- What the next statement would emit.
  effects : Ghost × State -> List Event -> Prop

namespace Rules

variable {State Event Entry Input Ghost Result Other : Type}
  (rules : Rules State Event Entry Input Ghost)

def after (config : Ghost × State) (result : State × List Event) : Ghost × State :=
  (result.2.foldl rules.observe config.1, result.1)

def step : Machine.Step (Processor State Event × Ghost) (Action Entry Input) Event :=
  Machine.noting rules.system.step fun processor action ghost =>
    (rules.system.step processor action).2.foldl rules.observe ghost

def EffectAllowed (config : Ghost × State) : Program State Event Unit -> Prop
  | .statement run _ => rules.effects config (run config.2).2
  | _ => True

def Allows (state : Processor State Event × Ghost) : Action Entry Input -> Prop
  | .call entry => rules.calls (state.2, state.1.state) entry
  | .execute =>
    match state.1.handler with
    | some handler => rules.EffectAllowed (state.2, state.1.state) handler
    | none => rules.EffectAllowed (state.2, state.1.state) state.1.main
  | .interrupt => rules.interrupts (state.2, state.1.state)
  | .input input => rules.inputs (state.2, state.1.state) input

instance decidableEffectAllowed [∀ config events, Decidable (rules.effects config events)]
    (config : Ghost × State) : ∀ program, Decidable (rules.EffectAllowed config program)
  | .statement run _ => inferInstanceAs (Decidable (rules.effects config (run config.2).2))
  | .done _ | .spin | .fault => inferInstanceAs (Decidable True)

instance decidableAllows [∀ config entry, Decidable (rules.calls config entry)]
    [∀ config input, Decidable (rules.inputs config input)]
    [∀ config, Decidable (rules.interrupts config)]
    [∀ config events, Decidable (rules.effects config events)] :
    ∀ state action, Decidable (rules.Allows state action)
  | state, .call entry => inferInstanceAs (Decidable (rules.calls (state.2, state.1.state) entry))
  | (⟨state, _, some handler⟩, ghost), .execute =>
    inferInstanceAs (Decidable (rules.EffectAllowed (ghost, state) handler))
  | (⟨state, main, none⟩, ghost), .execute =>
    inferInstanceAs (Decidable (rules.EffectAllowed (ghost, state) main))
  | state, .interrupt => inferInstanceAs (Decidable (rules.interrupts (state.2, state.1.state)))
  | state, .input input =>
    inferInstanceAs (Decidable (rules.inputs (state.2, state.1.state) input))

def Receives (before next : Ghost × State) : Prop :=
  ∃ input, rules.inputs before input ∧
    next = rules.after before (rules.system.device before.2 input)

/-- Inputs only, as happens between two statements of the handler. -/
def Waits : Ghost × State -> Ghost × State -> Prop := ReflTransGen rules.Receives

inductive Handles : Program State Event Unit -> Ghost × State -> Ghost × State -> Prop
  | done {before last : Ghost × State} (waits : rules.Waits before last) :
      Handles (.done ()) before last
  | statement {run : State -> State × List Event} {rest : State -> Program State Event Unit}
      {before config last : Ghost × State} (waits : rules.Waits before config)
      (allowed : rules.effects config (run config.2).2)
      (later : Handles (rest config.2) (rules.after config (run config.2)) last) :
      Handles (.statement run rest) before last

/-- What may happen between two statements of the main program. -/
def Rely : Ghost × State -> Ghost × State -> Prop :=
  ReflTransGen fun before next =>
    rules.Receives before next ∨
      rules.interrupts before ∧ rules.Handles rules.system.handler before next

/-- Whatever happens between its statements, the program does not fault unless `faulty`, `holds` is
true before each of them, and `post` when it is done. -/
def Wp (faulty : Prop) (rely : Ghost × State -> Ghost × State -> Prop) (holds : Ghost × State -> Prop) :
    Program State Event Result -> (Result -> Ghost × State -> Prop) -> Ghost × State -> Prop
  | .done result, post, config =>
    ∀ next, rely config next -> holds next ∧ post result next
  | .statement run rest, post, config =>
    ∀ next, rely config next -> holds next ∧
      (rules.effects next (run next.2).2 ->
        Wp faulty rely holds (rest next.2) post (rules.after next (run next.2)))
  | .spin, _, config => ∀ next, rely config next -> holds next
  | .fault, _, _ => faulty

section Wp

variable {rules} {faulty : Prop} {rely : Ghost × State -> Ghost × State -> Prop}
  {holds : Ghost × State -> Prop}
  {program : Program State Event Result} {config next : Ghost × State}

theorem wp_mono {post weaker : Result -> Ghost × State -> Prop}
    (wp : rules.Wp faulty rely holds program post config)
    (implies : ∀ result next, post result next -> weaker result next) :
    rules.Wp faulty rely holds program weaker config := by
  induction program generalizing config with
  | done result => exact fun next happens => (wp next happens).imp_right (implies result next)
  | statement run rest ih =>
    exact fun next happens =>
      (wp next happens).imp_right fun later allowed => ih _ (later allowed)
  | spin => exact wp
  | fault => exact wp

theorem wp_rely (trans : ∀ {a b c}, rely a b -> rely b c -> rely a c)
    {post : Result -> Ghost × State -> Prop} (wp : rules.Wp faulty rely holds program post config)
    (happens : rely config next) : rules.Wp faulty rely holds program post next := by
  cases program with
  | done result => exact fun last later => wp last (trans happens later)
  | statement run rest => exact fun last later => wp last (trans happens later)
  | spin => exact fun last later => wp last (trans happens later)
  | fault => exact wp

theorem wp_holds (refl : ∀ c, rely c c) {post : Result -> Ghost × State -> Prop}
    (runs : faulty -> program ≠ .fault) (wp : rules.Wp faulty rely holds program post config) :
    holds config := by
  cases program with
  | done result => exact (wp config (refl config)).1
  | statement run rest => exact (wp config (refl config)).1
  | spin => exact wp config (refl config)
  | fault => exact absurd rfl (runs wp)

theorem wp_bind (refl : ∀ c, rely c c) {after : Result -> Program State Event Other}
    {post : Other -> Ghost × State -> Prop}
    (wp : rules.Wp faulty rely holds program
      (fun result => rules.Wp faulty rely holds (after result) post) config) :
    rules.Wp faulty rely holds (program.bind after) post config := by
  induction program generalizing config with
  | done result => exact (wp config (refl config)).2
  | statement run rest ih =>
    exact fun next happens =>
      (wp next happens).imp_right fun later allowed => ih _ (later allowed)
  | spin => exact wp
  | fault => exact wp

/-- An assertion that what happens between two statements does not falsify, and under which the
main program may be interrupted. -/
structure Sound (rely : Ghost × State -> Ghost × State -> Prop) (holds : Ghost × State -> Prop)
    (assertion : Ghost × State -> Prop) : Prop where
  stable : ∀ {before next}, rely before next -> assertion before -> assertion next
  holds : ∀ config, assertion config -> holds config

def Spec (rules : Rules State Event Entry Input Ghost) (faulty : Prop)
    (rely : Ghost × State -> Ghost × State -> Prop) (holds : Ghost × State -> Prop)
    (pre : Ghost × State -> Prop) (program : Program State Event Result)
    (post : Result -> Ghost × State -> Prop) : Prop :=
  ∀ config, pre config -> rules.Wp faulty rely holds program post config

section Spec

variable {pre : Ghost × State -> Prop} {post : Result -> Ghost × State -> Prop}

theorem spec_done {result : Result} (sound : Sound rely holds pre)
    (reached : ∀ c, pre c -> post result c) :
    rules.Spec faulty rely holds pre (pure result) post :=
  fun _ here next happens =>
    have later := sound.stable happens here
    ⟨sound.holds next later, reached next later⟩

theorem spec_spin (sound : Sound rely holds pre) :
    rules.Spec faulty rely holds pre (.spin : Program State Event Result) post :=
  fun _ here next happens => sound.holds next (sound.stable happens here)

theorem spec_bind {program : Program State Event Other} {middle : Other -> Ghost × State -> Prop}
    {later : Other -> Program State Event Result} (refl : ∀ c, rely c c)
    (first : rules.Spec faulty rely holds pre program middle)
    (second : ∀ result, rules.Spec faulty rely holds (middle result) (later result) post) :
    rules.Spec faulty rely holds pre (program >>= later) post :=
  fun config here => wp_bind refl (wp_mono (first config here) second)

theorem spec_weaken {stronger : Ghost × State -> Prop} {program : Program State Event Result}
    (spec : rules.Spec faulty rely holds pre program post) (implies : ∀ c, stronger c -> pre c) :
    rules.Spec faulty rely holds stronger program post :=
  fun config here => spec config (implies config here)

theorem spec_mono {program : Program State Event Result}
    {weaker : Result -> Ghost × State -> Prop} (spec : rules.Spec faulty rely holds pre program post)
    (implies : ∀ result c, post result c -> weaker result c) :
    rules.Spec faulty rely holds pre program weaker :=
  fun config here => wp_mono (spec config here) implies

theorem spec_emit {effect : State -> State × List Event} {post : Ghost × State -> Prop}
    (before : Sound rely holds pre) (sound : Sound rely holds post)
    (step : ∀ c, pre c -> rules.effects c (effect c.2).2 -> post (rules.after c (effect c.2))) :
    rules.Spec faulty rely holds pre (.emit effect) fun _ => post := by
  intro config here next happens
  have now := before.stable happens here
  refine ⟨before.holds next now, fun allowed last later => ?_⟩
  have done := sound.stable later (step next now allowed)
  exact ⟨sound.holds last done, done⟩

theorem spec_report {value : State -> Result × List Event} (before : Sound rely holds pre)
    (sound : ∀ result, Sound rely holds (post result))
    (step : ∀ c, pre c -> rules.effects c (value c.2).2 ->
      post (value c.2).1 (rules.after c (c.2, (value c.2).2))) :
    rules.Spec faulty rely holds pre (.report value) post := by
  intro config here next happens
  have now := before.stable happens here
  refine ⟨before.holds next now, fun allowed last later => ?_⟩
  have done := (sound _).stable later (step next now allowed)
  exact ⟨(sound _).holds last done, done⟩

theorem spec_attempt {effect : State -> Option (Result × State × List Event)}
    (before : Sound rely holds pre) (sound : ∀ result, Sound rely holds (post result))
    (step : ∀ c, pre c -> ∃ result next events, effect c.2 = some (result, next, events) ∧
      (rules.effects c events -> post result (rules.after c (next, events)))) :
    rules.Spec faulty rely holds pre (.attempt effect) post := by
  intro config here next happens
  have now := before.stable happens here
  obtain ⟨result, state, events, succeeds, reached⟩ := step next now
  refine ⟨before.holds next now, fun allowed => ?_⟩
  simp only [succeeds] at allowed ⊢
  intro last later
  have done := (sound result).stable later (reached allowed)
  exact ⟨(sound result).holds last done, done⟩

theorem spec_attempt_faulty {effect : State -> Option (Result × State × List Event)}
    (before : Sound rely holds pre) (sound : ∀ result, Sound rely holds (post result))
    (step : ∀ c, pre c -> ∀ result next events, effect c.2 = some (result, next, events) ->
      rules.effects c events -> post result (rules.after c (next, events))) :
    rules.Spec True rely holds pre (.attempt effect) post := by
  intro config here next happens
  have now := before.stable happens here
  refine ⟨before.holds next now, fun allowed => ?_⟩
  cases succeeds : effect next.2 with
  | none =>
    simp only [succeeds]
    trivial
  | some value =>
    obtain ⟨result, state, events⟩ := value
    simp only [succeeds] at allowed ⊢
    intro last later
    have done := (sound result).stable later (step next now result state events succeeds allowed)
    exact ⟨(sound result).holds last done, done⟩

end Spec

end Wp

section Handles

variable {rules} {faulty : Prop} {inside : Ghost × State -> Prop}

theorem wp_of_handles {handler : Program State Event Unit} {post : Ghost × State -> Prop}
    {config : Ghost × State}
    (safe : rules.Wp faulty rules.Waits inside handler (fun _ _ => True) config)
    (handled : ∀ next, rules.Handles handler config next -> post next) :
    rules.Wp faulty rules.Waits inside handler (fun _ => post) config := by
  induction handler generalizing config with
  | done result => exact fun next waits => ⟨(safe next waits).1, handled next (.done waits)⟩
  | statement run rest ih =>
    refine fun next waits =>
      ⟨(safe next waits).1, fun allowed => ih _ ((safe next waits).2 allowed) ?_⟩
    exact fun last later => handled last (.statement waits allowed later)
  | spin => exact safe
  | fault => exact safe

theorem handles_of_wp {handler : Program State Event Unit} {post : Ghost × State -> Prop}
    {config next : Ghost × State}
    (wp : rules.Wp faulty rules.Waits inside handler (fun _ => post) config)
    (handles : rules.Handles handler config next) : post next := by
  induction handles with
  | done waits => exact (wp _ waits).2
  | statement waits allowed _ ih => exact ih ((wp _ waits).2 allowed)

end Handles

section Sound

variable {rules} {faulty : Prop} {inside holds assertion : Ghost × State -> Prop}

theorem sound_waits
    (receives : ∀ {before next}, rules.Receives before next -> assertion before -> assertion next)
    (safe : ∀ c, assertion c -> inside c) : Sound rules.Waits inside assertion where
  stable waits here := by
    induction waits with
    | refl => exact here
    | tail _ last ih => exact receives last ih
  holds := safe

theorem sound_rely
    (receives : ∀ {before next}, rules.Receives before next -> assertion before -> assertion next)
    (handled : rules.Spec faulty rules.Waits inside
      (fun c => assertion c ∧ rules.interrupts c) rules.system.handler fun _ => assertion)
    (safe : ∀ c, assertion c -> holds c) : Sound rules.Rely holds assertion where
  stable happens here := by
    induction happens with
    | refl => exact here
    | tail _ last ih =>
      rcases last with received | ⟨interrupts, handles⟩
      · exact receives received ih
      · exact handles_of_wp (handled _ ⟨ih, interrupts⟩) handles
  holds := safe

theorem sound_masked
    (receives : ∀ {before next}, rules.Receives before next -> assertion before -> assertion next)
    (masked : ∀ c, assertion c -> ¬ rules.interrupts c)
    (safe : ∀ c, assertion c -> holds c) : Sound rules.Rely holds assertion where
  stable happens here := by
    induction happens with
    | refl => exact here
    | tail _ last ih =>
      rcases last with received | ⟨interrupts, -⟩
      · exact receives received ih
      · exact absurd interrupts (masked _ ih)
  holds := safe

end Sound

def Good (faulty : Prop) (inside holds boundary : Ghost × State -> Prop)
    (state : Processor State Event × Ghost) : Prop :=
  match state.1.handler with
  | none =>
    rules.Wp faulty rules.Rely holds state.1.main (fun _ => boundary) (state.2, state.1.state)
  | some handler =>
    rules.Wp faulty rules.Waits inside handler
      (fun _ => rules.Wp faulty rules.Rely holds state.1.main fun _ => boundary) (state.2, state.1.state)

section Good

variable {rules} {faulty : Prop} {inside holds boundary : Ghost × State -> Prop}

theorem good_step
    (safe : ∀ config, holds config -> rules.interrupts config ->
      rules.Wp faulty rules.Waits inside rules.system.handler (fun _ _ => True) config)
    (calls : ∀ config entry, boundary config -> rules.calls config entry ->
      rules.Wp faulty rules.Rely holds (rules.system.program entry) (fun _ => boundary) config)
    {state : Processor State Event × Ghost}
    (runs : faulty -> state.1.handler = none -> state.1.main ≠ .fault)
    (good : rules.Good faulty inside holds boundary state) {action : Action Entry Input}
    (allows : rules.Allows state action) :
    rules.Good faulty inside holds boundary (rules.step state action).1 := by
  obtain ⟨⟨current, main, handler⟩, ghost⟩ := state
  cases action with
  | call entry =>
    cases handler with
    | some handler => exact good
    | none =>
      cases main with
      | done result => exact calls _ entry (good _ .refl).2 allows
      | statement run rest => exact good
      | spin => exact good
      | fault => exact good
  | execute =>
    cases handler with
    | some handler =>
      cases handler with
      | done result => exact (good _ .refl).2
      | statement run rest => exact (good _ .refl).2 allows
      | spin => exact good
      | fault => exact good
    | none =>
      cases main with
      | done result => exact good
      | statement run rest => exact (good _ .refl).2 allows
      | spin => exact good
      | fault => exact good
  | interrupt =>
    cases handler with
    | some handler => exact good
    | none =>
      have here : holds (ghost, current) :=
        wp_holds (fun _ => .refl) (fun faults => runs faults rfl) good
      -- The main program was proved against the handler as a whole, which now runs in steps.
      apply wp_of_handles (safe _ here allows)
      intro next handles
      exact wp_rely ReflTransGen.trans good (.single (.inr ⟨allows, handles⟩))
  | input input =>
    have receives : rules.Receives (ghost, current)
        (rules.after (ghost, current) (rules.system.device current input)) := ⟨input, allows, rfl⟩
    cases handler with
    | some handler => exact wp_rely ReflTransGen.trans good (.single receives)
    | none => exact wp_rely ReflTransGen.trans good (.single (.inl receives))

theorem good_inside (implies : ∀ config, holds config -> inside config)
    {state : Processor State Event × Ghost} (good : rules.Good False inside holds boundary state) :
    inside (state.2, state.1.state) := by
  obtain ⟨⟨current, main, handler⟩, ghost⟩ := state
  cases handler with
  | some handler => exact wp_holds (fun _ => .refl) False.elim good
  | none => exact implies _ (wp_holds (fun _ => .refl) False.elim good)

/-- The handler that runs does what it promises, whatever the main program does. -/
def Handling (faulty : Prop) (post : Ghost × State -> Prop) (state : Processor State Event × Ghost) :
    Prop :=
  match state.1.handler with
  | none => True
  | some handler =>
    rules.Wp faulty rules.Waits (fun _ => True) handler (fun _ => post) (state.2, state.1.state)

theorem handling_step {post : Ghost × State -> Prop}
    (handles : ∀ config, rules.interrupts config ->
      rules.Wp faulty rules.Waits (fun _ => True) rules.system.handler (fun _ => post) config)
    {state : Processor State Event × Ghost} (handling : rules.Handling faulty post state)
    {action : Action Entry Input} (allows : rules.Allows state action) :
    rules.Handling faulty post (rules.step state action).1 := by
  obtain ⟨⟨current, main, handler⟩, ghost⟩ := state
  cases handler with
  | none =>
    cases action with
    | call entry => cases main <;> trivial
    | execute => cases main <;> trivial
    | interrupt => exact handles _ allows
    | input input => trivial
  | some handler =>
    cases action with
    | call entry => exact handling
    | execute =>
      cases handler with
      | done result => trivial
      | statement run rest => exact (handling _ .refl).2 allows
      | spin => exact handling
      | fault => exact handling
    | interrupt => exact handling
    | input input => exact wp_rely ReflTransGen.trans handling (.single ⟨input, allows, rfl⟩)

end Good

end Rules

section Simulation

variable {Left Right Event Entry Input Ghost Result Other : Type}

/-- Statement by statement the left program does what the right one does, as far as that one does not
fault. -/
def Simulates (related : Left -> Right -> Prop) :
    Program Left Event Result -> Program Right Event Result -> Prop
  | left, .done result => left = .done result
  | left, .statement run rest =>
    ∃ leftRun leftRest, left = .statement leftRun leftRest ∧
      ∀ l r, related l r ->
        Simulates related (leftRest l) (rest r) ∧
          (rest r = .fault ∧ (run r).2 = [] ∨
            related (leftRun l).1 (run r).1 ∧ (leftRun l).2 = (run r).2)
  | left, .spin => left = .spin
  | _, .fault => True

variable {related : Left -> Right -> Prop}

theorem simulates_fault {left : Program Left Event Result} : Simulates related left .fault := by
  cases left <;> trivial

theorem simulates_bind {left : Program Left Event Result} {right : Program Right Event Result}
    {leftNext : Result -> Program Left Event Other}
    {rightNext : Result -> Program Right Event Other} (first : Simulates related left right)
    (later : ∀ result, Simulates related (leftNext result) (rightNext result)) :
    Simulates related (left.bind leftNext) (right.bind rightNext) := by
  induction right generalizing left with
  | done result =>
    obtain rfl := first
    exact later result
  | statement run rest ih =>
    obtain ⟨leftRun, leftRest, rfl, steps⟩ := first
    refine ⟨leftRun, fun state => (leftRest state).bind leftNext, rfl, fun l r same => ?_⟩
    obtain ⟨next, ⟨faults, silent⟩ | effect⟩ := steps l r same
    · refine ⟨ih r next, .inl ⟨?_, silent⟩⟩
      simp only [faults, Program.bind]
    · exact ⟨ih r next, .inr effect⟩
  | spin =>
    obtain rfl := first
    rfl
  | fault => exact simulates_fault

theorem simulates_emit {leftEffect : Left -> Left × List Event}
    {rightEffect : Right -> Right × List Event}
    (same : ∀ l r, related l r ->
      related (leftEffect l).1 (rightEffect r).1 ∧ (leftEffect l).2 = (rightEffect r).2) :
    Simulates related (.emit leftEffect) (.emit rightEffect) :=
  ⟨_, _, rfl, fun l r held => ⟨rfl, .inr (same l r held)⟩⟩

theorem simulates_report {leftValue : Left -> Result × List Event}
    {rightValue : Right -> Result × List Event}
    (same : ∀ l r, related l r -> leftValue l = rightValue r) :
    Simulates related (.report leftValue) (.report rightValue) :=
  ⟨_, _, rfl, fun l r held =>
    ⟨congrArg Program.done (congrArg Prod.fst (same l r held)),
      .inr ⟨held, congrArg Prod.snd (same l r held)⟩⟩⟩

theorem simulates_attempt {leftEffect : Left -> Option (Result × Left × List Event)}
    {rightEffect : Right -> Option (Result × Right × List Event)}
    (same : ∀ l r, related l r -> ∀ result next events, rightEffect r = some (result, next, events) ->
      ∃ leftNext, leftEffect l = some (result, leftNext, events) ∧ related leftNext next) :
    Simulates related (.attempt leftEffect) (.attempt rightEffect) := by
  refine ⟨_, _, rfl, fun l r held => ?_⟩
  cases effect : rightEffect r with
  | none =>
    simp only [effect]
    exact ⟨simulates_fault, .inl ⟨trivial, trivial⟩⟩
  | some result =>
    obtain ⟨value, next, events⟩ := result
    obtain ⟨leftNext, leftEffect, kept⟩ := same l r held value next events effect
    simp only [effect, leftEffect]
    exact ⟨rfl, .inr ⟨kept, trivial⟩⟩

theorem simulates_exec {left : Program Left Event Result} {right : Program Right Event Result}
    (simulates : Simulates related left right) {l : Left} {r : Right} (same : related l r)
    {result : Result} {next : Right} {events : List Event}
    (returns : right.exec r = some (result, next, events)) :
    ∃ leftNext, left.exec l = some (result, leftNext, events) ∧ related leftNext next := by
  induction right generalizing left l r events with
  | done value =>
    obtain rfl := simulates
    simp only [Program.exec, Option.some.injEq, Prod.mk.injEq] at returns
    obtain ⟨rfl, rfl, rfl⟩ := returns
    exact ⟨l, rfl, same⟩
  | statement run rest ih =>
    obtain ⟨leftRun, leftRest, rfl, steps⟩ := simulates
    simp only [Program.exec, Option.map_eq_some_iff, Prod.mk.injEq, Prod.exists] at returns
    obtain ⟨value, last, later, returns, rfl, rfl, rfl⟩ := returns
    obtain ⟨rests, ⟨faults, -⟩ | ⟨kept, emitted⟩⟩ := steps l r same
    · simp [Program.exec, faults] at returns
    · obtain ⟨leftNext, leftReturns, leftKept⟩ := ih r rests kept returns
      exact ⟨leftNext, by simp [Program.exec, leftReturns, emitted], leftKept⟩
  | spin => cases returns
  | fault => cases returns

structure InStep (related : Left -> Right -> Prop) (left : Processor Left Event)
    (right : Processor Right Event) : Prop where
  state : related left.state right.state
  main : Simulates related left.main right.main
  handler : match left.handler, right.handler with
    | none, none => True
    | some leftHandler, some rightHandler => Simulates related leftHandler rightHandler
    | _, _ => False

def Runs (processor : Processor Right Event) : Prop :=
  match processor.handler with
  | none => processor.main ≠ .fault
  | some handler => handler ≠ .fault

structure SystemSimulates (related : Left -> Right -> Prop) (left : System Left Event Entry Input)
    (right : System Right Event Entry Input) : Prop where
  program : ∀ entry, Simulates related (left.program entry) (right.program entry)
  handler : Simulates related left.handler right.handler
  device : ∀ l r input, related l r ->
    related (left.device l input).1 (right.device r input).1 ∧
      (left.device l input).2 = (right.device r input).2

variable {leftSystem : System Left Event Entry Input} {rightSystem : System Right Event Entry Input}

section Execute

variable {l : Left} {r : Right} {leftMain leftHandler : Program Left Event Unit}
  {rightMain rightHandler : Program Right Event Unit}

theorem inStep_executeHandler (state : related l r) (main : Simulates related leftMain rightMain)
    (handler : Simulates related leftHandler rightHandler)
    (runs : Runs (System.executeHandler ⟨r, rightMain, some rightHandler⟩ rightHandler).1) :
    InStep related (System.executeHandler ⟨l, leftMain, some leftHandler⟩ leftHandler).1
        (System.executeHandler ⟨r, rightMain, some rightHandler⟩ rightHandler).1 ∧
      (System.executeHandler ⟨l, leftMain, some leftHandler⟩ leftHandler).2 =
        (System.executeHandler ⟨r, rightMain, some rightHandler⟩ rightHandler).2 := by
  cases rightHandler with
  | done result =>
    obtain rfl : leftHandler = .done result := handler
    exact ⟨⟨state, main, trivial⟩, rfl⟩
  | statement run rest =>
    obtain ⟨leftRun, leftRest, rfl, steps⟩ := handler
    obtain ⟨rests, ⟨faults, -⟩ | ⟨kept, emitted⟩⟩ := steps l r state
    · exact absurd faults runs
    · exact ⟨⟨kept, main, rests⟩, emitted⟩
  | spin =>
    obtain rfl : leftHandler = .spin := handler
    exact ⟨⟨state, main, rfl⟩, rfl⟩
  | fault => exact absurd rfl runs

theorem inStep_executeMain (state : related l r) (main : Simulates related leftMain rightMain)
    (runs : Runs (System.executeMain ⟨r, rightMain, none⟩ rightMain).1) :
    InStep related (System.executeMain ⟨l, leftMain, none⟩ leftMain).1
        (System.executeMain ⟨r, rightMain, none⟩ rightMain).1 ∧
      (System.executeMain ⟨l, leftMain, none⟩ leftMain).2 =
        (System.executeMain ⟨r, rightMain, none⟩ rightMain).2 := by
  cases rightMain with
  | done result =>
    obtain rfl : leftMain = .done result := main
    exact ⟨⟨state, rfl, trivial⟩, rfl⟩
  | statement run rest =>
    obtain ⟨leftRun, leftRest, rfl, steps⟩ := main
    obtain ⟨rests, ⟨faults, -⟩ | ⟨kept, emitted⟩⟩ := steps l r state
    · exact absurd faults runs
    · exact ⟨⟨kept, rests, trivial⟩, emitted⟩
  | spin =>
    obtain rfl : leftMain = .spin := main
    exact ⟨⟨state, rfl, trivial⟩, rfl⟩
  | fault => exact absurd rfl runs

end Execute

theorem inStep_step (simulates : SystemSimulates related leftSystem rightSystem)
    {left : Processor Left Event} {right : Processor Right Event}
    (inStep : InStep related left right) (action : Action Entry Input)
    (runs : Runs (rightSystem.step right action).1) :
    InStep related (leftSystem.step left action).1 (rightSystem.step right action).1 ∧
      (leftSystem.step left action).2 = (rightSystem.step right action).2 := by
  obtain ⟨leftState, leftMain, leftHandler⟩ := left
  obtain ⟨rightState, rightMain, rightHandler⟩ := right
  obtain ⟨state, main, handler⟩ := inStep
  simp only at state main handler
  cases rightHandler with
  | some rightHandler =>
    cases leftHandler with
    | none => exact handler.elim
    | some leftHandler =>
      -- Inside of the handler neither a call nor another interrupt comes through.
      cases action with
      | call entry => exact ⟨⟨state, main, handler⟩, rfl⟩
      | execute => exact inStep_executeHandler state main handler runs
      | interrupt => exact ⟨⟨state, main, handler⟩, rfl⟩
      | input input =>
        obtain ⟨kept, emitted⟩ := simulates.device leftState rightState input state
        exact ⟨⟨kept, main, handler⟩, emitted⟩
  | none =>
    cases leftHandler with
    | some leftHandler => exact handler.elim
    | none =>
      cases action with
      | call entry =>
        -- Only a program that has returned is followed by another one.
        cases rightMain with
        | done result =>
          obtain rfl := main
          exact ⟨⟨state, simulates.program entry, trivial⟩, rfl⟩
        | statement run rest =>
          obtain ⟨leftRun, leftRest, rfl, steps⟩ := main
          exact ⟨⟨state, ⟨leftRun, leftRest, rfl, steps⟩, trivial⟩, rfl⟩
        | spin =>
          obtain rfl : leftMain = .spin := main
          exact ⟨⟨state, rfl, trivial⟩, rfl⟩
        | fault => exact absurd rfl runs
      | execute => exact inStep_executeMain state main runs
      | interrupt => exact ⟨⟨state, main, simulates.handler⟩, rfl⟩
      | input input =>
        obtain ⟨kept, emitted⟩ := simulates.device leftState rightState input state
        exact ⟨⟨kept, main, trivial⟩, emitted⟩

structure Transfers (related : Left -> Right -> Prop) (left : Rules Left Event Entry Input Ghost)
    (right : Rules Right Event Entry Input Ghost) : Prop where
  system : SystemSimulates related left.system right.system
  observe : left.observe = right.observe
  calls : ∀ ghost l r entry, related l r -> left.calls (ghost, l) entry ->
    right.calls (ghost, r) entry
  inputs : ∀ ghost l r input, related l r -> left.inputs (ghost, l) input ->
    right.inputs (ghost, r) input
  interrupts : ∀ ghost l r, related l r -> left.interrupts (ghost, l) -> right.interrupts (ghost, r)
  effects : ∀ ghost l r events, related l r -> left.effects (ghost, l) events ->
    right.effects (ghost, r) events
  silent : ∀ config, right.effects config []

theorem runs_of_good {rules : Rules Right Event Entry Input Ghost}
    {inside holds boundary : Ghost × Right -> Prop} {state : Processor Right Event × Ghost}
    (good : rules.Good False inside holds boundary state) : Runs state.1 := by
  obtain ⟨⟨current, main, handler⟩, ghost⟩ := state
  cases handler with
  | none => cases main <;> simp_all [Runs, Rules.Good, Rules.Wp]
  | some handler => cases handler <;> simp_all [Runs, Rules.Good, Rules.Wp]

variable {leftRules : Rules Left Event Entry Input Ghost}
  {rightRules : Rules Right Event Entry Input Ghost}

theorem effectAllowed_of_simulates (transfers : Transfers related leftRules rightRules)
    {left : Program Left Event Unit} {right : Program Right Event Unit}
    (simulates : Simulates related left right) {ghost : Ghost} {l : Left} {r : Right}
    (same : related l r) (allowed : leftRules.EffectAllowed (ghost, l) left) :
    rightRules.EffectAllowed (ghost, r) right := by
  cases right with
  | statement run rest =>
    obtain ⟨leftRun, leftRest, rfl, steps⟩ := simulates
    obtain ⟨-, ⟨-, silent⟩ | ⟨-, emitted⟩⟩ := steps l r same
    · simpa only [Rules.EffectAllowed, silent] using transfers.silent (ghost, r)
    · rw [Rules.EffectAllowed, emitted] at allowed
      exact transfers.effects ghost l r _ same allowed
  | done result => trivial
  | spin => trivial
  | fault => trivial

theorem allows_of_inStep (transfers : Transfers related leftRules rightRules)
    {left : Processor Left Event} {right : Processor Right Event}
    (inStep : InStep related left right) {ghost : Ghost} {action : Action Entry Input}
    (allows : leftRules.Allows (left, ghost) action) : rightRules.Allows (right, ghost) action := by
  obtain ⟨l, leftMain, leftHandler⟩ := left
  obtain ⟨r, rightMain, rightHandler⟩ := right
  obtain ⟨state, main, handler⟩ := inStep
  simp only at state main handler
  cases action with
  | call entry => exact transfers.calls _ _ _ _ state allows
  | execute =>
    cases rightHandler with
    | none =>
      cases leftHandler with
      | none => exact effectAllowed_of_simulates transfers main state allows
      | some leftHandler => exact handler.elim
    | some rightHandler =>
      cases leftHandler with
      | none => exact handler.elim
      | some leftHandler => exact effectAllowed_of_simulates transfers handler state allows
  | interrupt => exact transfers.interrupts _ _ _ state allows
  | input input => exact transfers.inputs _ _ _ _ state allows

theorem run_follows (transfers : Transfers related leftRules rightRules)
    {inside holds boundary : Ghost × Right -> Prop}
    (keeps : ∀ {state action}, rightRules.Good False inside holds boundary state ->
      rightRules.Allows state action ->
        rightRules.Good False inside holds boundary (rightRules.step state action).1)
    {left : Processor Left Event} {right : Processor Right Event} {ghost : Ghost}
    (inStep : InStep related left right) (good : rightRules.Good False inside holds boundary (right, ghost))
    {actions : List (Action Entry Input)}
    (guarded : Machine.Guarded leftRules.step leftRules.Allows (left, ghost) actions) :
    ∃ last, InStep related (Machine.run leftRules.step (left, ghost) actions).1.1 last ∧
      rightRules.Good False inside holds boundary
        (last, (Machine.run leftRules.step (left, ghost) actions).2.foldl rightRules.observe ghost) ∧
      (Machine.run leftRules.step (left, ghost) actions).1.2 =
        (Machine.run leftRules.step (left, ghost) actions).2.foldl rightRules.observe ghost := by
  refine Machine.run_invariant (fun trace state => ∃ last, InStep related state.1 last ∧
    rightRules.Good False inside holds boundary (last, trace.foldl rightRules.observe ghost) ∧
      state.2 = trace.foldl rightRules.observe ghost) ?_ ⟨right, inStep, good, rfl⟩ guarded
  rintro trace ⟨processor, note⟩ action ⟨last, inStep, good, rfl⟩ allows
  have next := keeps good (allows_of_inStep transfers inStep allows)
  have runs := runs_of_good next
  obtain ⟨inStep', events⟩ := inStep_step transfers.system inStep action runs
  refine ⟨(rightRules.system.step last action).1, inStep', ?_, ?_⟩
  · simpa [Rules.step, Machine.noting, events] using next
  · simp [Rules.step, Machine.noting, transfers.observe]

end Simulation

end Interrupts
