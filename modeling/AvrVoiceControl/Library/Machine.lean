import Mathlib.Data.List.Basic
import Mathlib.Data.List.Induction

set_option autoImplicit false

namespace Machine

variable {State Action Event : Type}

abbrev Step (State Action Event : Type) := State -> Action -> State × List Event

def run (step : Step State Action Event) : State -> List Action -> State × List Event
  | state, [] => (state, [])
  | state, action :: rest =>
    let next := step state action
    let later := run step next.1 rest
    (later.1, next.2 ++ later.2)

def Guarded (step : Step State Action Event) (guard : State -> Action -> Prop) :
    State -> List Action -> Prop
  | _, [] => True
  | state, action :: rest => guard state action ∧ Guarded step guard (step state action).1 rest

instance decidableGuarded (step : Step State Action Event) (guard : State -> Action -> Prop)
    [∀ state action, Decidable (guard state action)] (state : State) :
    ∀ actions, Decidable (Guarded step guard state actions)
  | [] => isTrue trivial
  | action :: rest =>
    have := decidableGuarded step guard (step state action).1 rest
    inferInstanceAs (Decidable (guard state action ∧ Guarded step guard (step state action).1 rest))

theorem guarded_of_forall (step : Step State Action Event) (guard : State -> Action -> Prop)
    (always : ∀ state action, guard state action) (state : State) (actions : List Action) :
    Guarded step guard state actions := by
  induction actions generalizing state with
  | nil => trivial
  | cons action rest ih => exact ⟨always state action, ih _⟩

theorem Guarded.and {step : Step State Action Event} {first second : State -> Action -> Prop}
    {state : State} {actions : List Action} (one : Guarded step first state actions)
    (other : Guarded step second state actions) :
    Guarded step (fun state action => first state action ∧ second state action) state actions := by
  induction actions generalizing state with
  | nil => trivial
  | cons action rest ih => exact ⟨⟨one.1, other.1⟩, ih one.2 other.2⟩

@[simp] theorem run_nil (step : Step State Action Event) (state : State) :
    run step state [] = (state, []) := rfl

theorem run_cons (step : Step State Action Event) (state : State) (action : Action)
    (rest : List Action) :
    run step state (action :: rest) =
      ((run step (step state action).1 rest).1,
        (step state action).2 ++ (run step (step state action).1 rest).2) := rfl

theorem run_append (step : Step State Action Event) (state : State) (front back : List Action) :
    run step state (front ++ back) =
      ((run step (run step state front).1 back).1,
        (run step state front).2 ++ (run step (run step state front).1 back).2) := by
  induction front generalizing state with
  | nil => simp [run]
  | cons action front ih => simp [run_cons, ih, List.append_assoc]

theorem mem_run_iff {step : Step State Action Event} {state : State} {actions : List Action}
    {event : Event} :
    event ∈ (run step state actions).2 ↔
      ∃ front action back, actions = front ++ action :: back ∧
        event ∈ (step (run step state front).1 action).2 := by
  constructor
  next =>
    intro member
    induction actions generalizing state with
    | nil => cases member
    | cons action rest ih =>
      rw [run_cons, List.mem_append] at member
      rcases member with here | later
      next => exact ⟨[], action, rest, rfl, here⟩
      next =>
        obtain ⟨front, other, back, rfl, emitted⟩ := ih later
        exact ⟨action :: front, other, back, rfl, emitted⟩
  next =>
    rintro ⟨front, action, back, rfl, emitted⟩
    rw [run_append, run_cons]
    exact List.mem_append_right _ (List.mem_append_left _ emitted)

theorem guarded_append (step : Step State Action Event) (guard : State -> Action -> Prop)
    (state : State) (front back : List Action) :
    Guarded step guard state (front ++ back) ↔
      Guarded step guard state front ∧ Guarded step guard (run step state front).1 back := by
  induction front generalizing state with
  | nil => simp [Guarded]
  | cons action front ih => simp only [List.cons_append, Guarded, ih, run_cons, and_assoc]

theorem run_keeps {step : Step State Action Event} {guard : State -> Action -> Prop}
    {inv : List Event -> State -> Prop}
    (keeps : ∀ trace state action, inv trace state -> guard state action ->
      inv (trace ++ (step state action).2) (step state action).1)
    {trace : List Event} {state : State} (holds : inv trace state) {actions : List Action}
    (guarded : Guarded step guard state actions) :
    inv (trace ++ (run step state actions).2) (run step state actions).1 := by
  induction actions generalizing trace state with
  | nil => simpa using holds
  | cons action rest ih =>
    have next := ih (keeps trace state action holds guarded.1) guarded.2
    simpa [run_cons, List.append_assoc] using next

/-- Where the guard keeps the invariant, and a step under the invariant is good exactly when it
meets the guard, the runs whose steps are all good are those whose steps all meet the guard. -/
theorem guarded_iff {step : Step State Action Event} {good guard : State -> Action -> Prop}
    (inv : State -> Prop)
    (keeps : ∀ state action, inv state -> guard state action -> inv (step state action).1)
    (same : ∀ state action, inv state -> (good state action ↔ guard state action))
    {state : State} (holds : inv state) (actions : List Action) :
    Guarded step good state actions ↔ Guarded step guard state actions := by
  induction actions generalizing state with
  | nil => exact Iff.rfl
  | cons action rest ih =>
    simp only [Guarded, same state action holds]
    exact and_congr_right fun guarded => ih (keeps state action holds guarded)

theorem guarded_of_invariant {step : Step State Action Event} {good guard : State -> Action -> Prop}
    (inv : State -> Prop)
    (keeps : ∀ state action, inv state -> guard state action ->
      inv (step state action).1 ∧ good state action)
    {state : State} (holds : inv state) {actions : List Action}
    (guarded : Guarded step guard state actions) : Guarded step good state actions := by
  induction actions generalizing state with
  | nil => trivial
  | cons action rest ih =>
    obtain ⟨next, here⟩ := keeps state action holds guarded.1
    exact ⟨here, ih next guarded.2⟩

theorem run_invariant {step : Step State Action Event} {guard : State -> Action -> Prop}
    (inv : List Event -> State -> Prop)
    (keeps : ∀ trace state action, inv trace state -> guard state action ->
      inv (trace ++ (step state action).2) (step state action).1)
    {state : State} (holds : inv [] state) {actions : List Action}
    (guarded : Guarded step guard state actions) :
    inv (run step state actions).2 (run step state actions).1 := by
  simpa using run_keeps keeps holds guarded

theorem run_always {step : Step State Action Event} (inv : State -> Prop)
    (keeps : ∀ state action, inv state -> inv (step state action).1) {state : State}
    (holds : inv state) (actions : List Action) : inv (run step state actions).1 :=
  run_invariant (fun _ state => inv state) (fun _ state action held _ => keeps state action held)
    holds (guarded_of_forall step (fun _ _ => True) (fun _ _ => trivial) state actions)

/-- A machine that keeps a note about its run, which its steps do not read. -/
def noting {Note : Type} (step : Step State Action Event) (note : State -> Action -> Note -> Note) :
    Step (State × Note) Action Event :=
  fun state action =>
    (((step state.1 action).1, note state.1 action state.2), (step state.1 action).2)

theorem run_noting {Note : Type} (step : Step State Action Event)
    (note : State -> Action -> Note -> Note) (state : State × Note) (actions : List Action) :
    (run (noting step note) state actions).1.1 = (run step state.1 actions).1 ∧
      (run (noting step note) state actions).2 = (run step state.1 actions).2 := by
  induction actions generalizing state with
  | nil => exact ⟨rfl, rfl⟩
  | cons action rest ih =>
    obtain ⟨same, events⟩ := ih (noting step note state action).1
    exact ⟨same, by rw [run_cons, run_cons, events]; rfl⟩

theorem guarded_noting {Note : Type} {step : Step State Action Event}
    {note : State -> Action -> Note -> Note} {guard : State -> Action -> Prop}
    {state : State × Note} {actions : List Action} :
    Guarded (noting step note) (fun state => guard state.1) state actions ↔
      Guarded step guard state.1 actions := by
  induction actions generalizing state with
  | nil => exact Iff.rfl
  | cons action rest ih => exact and_congr_right fun _ => ih

def pair {Left Right : Type} (left : Step Left Action Event) (right : Step Right Action Event) :
    Step (Left × Right) Action Unit :=
  fun states action => (((left states.1 action).1, (right states.2 action).1), [])

theorem guarded_pair_right {Left Right : Type} {left : Step Left Action Event}
    {right : Step Right Action Event} {guard : Right -> Action -> Prop} {states : Left × Right}
    {actions : List Action} (guarded : Guarded right guard states.2 actions) :
    Guarded (pair left right) (fun states => guard states.2) states actions := by
  induction actions generalizing states with
  | nil => trivial
  | cons action rest ih => exact ⟨guarded.1, ih guarded.2⟩

theorem guarded_pair_right_iff {Left Right : Type} {left : Step Left Action Event}
    {right : Step Right Action Event} {guard : Right -> Action -> Prop} {states : Left × Right}
    {actions : List Action} :
    Guarded (pair left right) (fun states => guard states.2) states actions ↔
      Guarded right guard states.2 actions := by
  induction actions generalizing states with
  | nil => exact Iff.rfl
  | cons action rest ih => exact and_congr_right fun _ => ih

theorem run_agrees_iff {Left Right : Type} (left : Step Left Action Event)
    (right : Step Right Action Event) (l : Left) (r : Right) (actions : List Action) :
    (∀ front, front <+: actions -> (run left l front).2 = (run right r front).2) ↔
      Guarded (pair left right) (fun states action =>
        (left states.1 action).2 = (right states.2 action).2) (l, r) actions := by
  induction actions generalizing l r with
  | nil =>
    refine ⟨fun _ => trivial, fun _ front first => ?_⟩
    rw [List.prefix_nil.mp first]
    rfl
  | cons action rest ih =>
    constructor
    · intro same
      have here : (left l action).2 = (right r action).2 := by
        simpa [run_cons] using same [action] (by simp)
      refine ⟨here, (ih _ _).mp fun front first => ?_⟩
      have later := same (action :: front) (by simpa using first)
      rw [run_cons, run_cons, here] at later
      exact List.append_cancel_left later
    · rintro ⟨here, later⟩ front first
      cases front with
      | nil => rfl
      | cons other front =>
        obtain ⟨rfl, shorter⟩ := List.cons_prefix_cons.mp first
        rw [run_cons, run_cons, here, (ih _ _).mpr later front shorter]

theorem pair_agrees {Left Right : Type} {left : Step Left Action Event}
    {right : Step Right Action Event} {related : Left -> Right -> Prop}
    {guard : Left × Right -> Action -> Prop}
    (agrees : ∀ l r action, related l r -> guard (l, r) action ->
      related (left l action).1 (right r action).1 ∧ (left l action).2 = (right r action).2)
    {l : Left} {r : Right} (start : related l r) {actions : List Action}
    (guarded : Guarded (pair left right) guard (l, r) actions) :
    related (run left l actions).1 (run right r actions).1 ∧
      (run left l actions).2 = (run right r actions).2 := by
  induction actions generalizing l r with
  | nil => exact ⟨start, rfl⟩
  | cons action rest ih =>
    obtain ⟨next, same⟩ := agrees l r action start guarded.1
    obtain ⟨last, later⟩ := ih next guarded.2
    exact ⟨last, by rw [run_cons, run_cons, same, later]⟩

theorem run_agrees {step : Step State Action Event} {related : State -> State -> Prop}
    (agrees : ∀ left right action, related left right ->
      related (step left action).1 (step right action).1 ∧
        (step left action).2 = (step right action).2)
    {left right : State} (start : related left right) (actions : List Action) :
    related (run step left actions).1 (run step right actions).1 ∧
      (run step left actions).2 = (run step right actions).2 :=
  pair_agrees (fun l r action held _ => agrees l r action held) start
    (guarded_of_forall (pair step step) (fun _ _ => True) (fun _ _ => trivial) _ actions)

theorem run_simulates {Left Right Action' Event' : Type} {left : Step Left Action Event}
    {right : Step Right Action' Event'} {related : Left -> Right -> Prop}
    {plan : Action -> List Action'} {shown : Event' -> List Event}
    (simulates : ∀ l r action, related l r ->
      related (left l action).1 (run right r (plan action)).1 ∧
        (left l action).2 = (run right r (plan action)).2.flatMap shown)
    {l : Left} {r : Right} (start : related l r) (actions : List Action) :
    related (run left l actions).1 (run right r (actions.flatMap plan)).1 ∧
      (run left l actions).2 = (run right r (actions.flatMap plan)).2.flatMap shown := by
  induction actions generalizing l r with
  | nil => exact ⟨start, rfl⟩
  | cons action rest ih =>
    obtain ⟨next, same⟩ := simulates l r action start
    obtain ⟨last, later⟩ := ih next
    rw [List.flatMap_cons, run_cons, run_append]
    exact ⟨last, by rw [same, later, List.flatMap_append]⟩

def Justified (because : List Event -> Event -> Prop) (trace : List Event) : Prop :=
  ∀ before event after, trace = before ++ event :: after -> because before event

@[simp] theorem justified_nil (because : List Event -> Event -> Prop) :
    Justified because [] := by
  intro before event after split
  simp at split

theorem justified_append_singleton (because : List Event -> Event -> Prop) (trace : List Event)
    (event : Event) :
    Justified because (trace ++ [event]) ↔ Justified because trace ∧ because trace event := by
  constructor
  · intro justified
    refine ⟨fun before e after split => ?_, justified trace event [] rfl⟩
    exact justified before e (after ++ [event]) (by simp [split])
  · rintro ⟨justified, last⟩ before e after split
    rcases List.eq_nil_or_concat after with rfl | ⟨initial, final, rfl⟩
    · obtain ⟨rfl, same⟩ := List.append_inj' split rfl
      obtain rfl : event = e := by simpa using same
      exact last
    · have lengths : trace ++ [event] = (before ++ e :: initial) ++ [final] := by simp [split]
      exact justified before e initial (List.append_inj' lengths rfl).1

theorem justified_iff_noted {Note : Type} {observe : Note -> Event -> Note}
    {because : Note -> Event -> Prop} {good : Note -> Bool}
    (noted : ∀ note event, good (observe note event) = true ↔ because note event ∧ good note = true)
    {start : Note} (begins : good start = true) (trace : List Event) :
    Justified (fun before event => because (before.foldl observe start) event) trace ↔
      good (trace.foldl observe start) = true := by
  induction trace using List.reverseRecOn with
  | nil => simp [begins]
  | append_singleton trace event ih =>
    rw [justified_append_singleton, ih, List.foldl_append, List.foldl_cons, List.foldl_nil, noted,
      and_comm]

theorem justified_append (because : List Event -> Event -> Prop) (trace later : List Event) :
    Justified because (trace ++ later) ↔
      Justified because trace ∧ Justified (fun before => because (trace ++ before)) later := by
  induction later using List.reverseRecOn with
  | nil => simp
  | append_singleton later event ih =>
    rw [← List.append_assoc, justified_append_singleton, ih, justified_append_singleton]
    simp only [and_assoc]

def countSince (resets counts : Event -> Bool) (trace : List Event) : Nat :=
  trace.foldl
    (fun count event => if resets event then 0 else if counts event then count + 1 else count) 0

@[simp] theorem countSince_append_singleton (resets counts : Event -> Bool) (trace : List Event)
    (event : Event) :
    countSince resets counts (trace ++ [event]) =
      if resets event then 0
      else if counts event then countSince resets counts trace + 1
      else countSince resets counts trace := by
  simp [countSince]

theorem countSince_append {resets counts : Event -> Bool} (trace : List Event)
    {later : List Event} (none : ∀ event ∈ later, resets event = false) :
    countSince resets counts (trace ++ later) =
      countSince resets counts trace + later.countP counts := by
  induction later using List.reverseRecOn with
  | nil => simp
  | append_singleton later event ih =>
    have last := none event (by simp)
    have before := ih fun other member => none other (List.mem_append_left _ member)
    rw [← List.append_assoc, countSince_append_singleton, before, List.countP_append,
      List.countP_singleton]
    simp only [last, Bool.false_eq_true, if_false]
    split <;> omega

/-- If every counted event is the first of its kind since the last reset, a stretch without a reset
has at most one. -/
theorem once_of_justified {resets counts : Event -> Bool} {trace : List Event}
    (first : Justified (fun before event => counts event = true ->
      countSince resets counts before = 0) trace)
    {before middle after : List Event} (stretch : trace = before ++ middle ++ after)
    (none : ∀ event ∈ middle, resets event = false) : middle.countP counts ≤ 1 := by
  induction middle using List.reverseRecOn generalizing after with
  | nil => simp
  | append_singleton middle event ih =>
    have earlier := fun other member => none other (List.mem_append_left _ member)
    rw [List.countP_append, List.countP_singleton]
    by_cases counted : counts event = true
    · have zero := first (before ++ middle) event after (by simp [stretch]) counted
      rw [countSince_append before earlier] at zero
      simp only [counted, if_true]
      omega
    · have fewer := @ih (event :: after) (by simp [stretch]) earlier
      simp only [counted, Bool.false_eq_true, if_false]
      omega

end Machine
