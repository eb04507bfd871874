import AvrVoiceControl.SchedulerDisturbance
import AvrVoiceControl.SchedulerFlush
import Mathlib.Data.List.TakeWhile

set_option autoImplicit false

namespace AvrVoiceControl

open Interrupts Interrupts.Program LinkedList Scheduler

variable {Timer : Type}

section Definitions

variable {Lists : Type}

def virtualTime (state : Scheduler Lists Timer) : UInt32 :=
  if state.isRunning then
    state.absoluteTimeOfLastTimeout +
      ((if state.overflow then 65535 else state.count.toUInt32) - state.lastTimerLoad)
  else
    state.absoluteTimeOfLastTimeout

def remaining (state : Scheduler Lists Timer) (node : Node Timer) : UInt32 :=
  state.absoluteTime node - virtualTime state

/-- What a creation should do to the remaining times, where the lists are as listed. -/
structure Exact (state next : Scheduler Lists Timer) (pending pending' : List (Node Timer))
    (timer : Timer) (timeout : UInt32) : Prop where
  created : .timer timer ∈ pending' ∧ remaining next (.timer timer) = timeout
  others : ∀ other, other ≠ timer -> .timer other ∈ pending ->
    .timer other ∈ pending' ∧ remaining next (.timer other) = remaining state (.timer other)
  ordered : pending'.Pairwise fun one other => remaining next one ≤ remaining next other

theorem exact_congr {Lists' : Type} {state next : Scheduler Lists Timer}
    {other later : Scheduler Lists' Timer} (before : remaining state = remaining other)
    (after : remaining next = remaining later) {pending pending' : List (Node Timer)}
    {timer : Timer} {timeout : UInt32} :
    Exact state next pending pending' timer timeout ↔
      Exact other later pending pending' timer timeout := by
  constructor
  next =>
    rintro ⟨created, others, ordered⟩
    rw [after] at created ordered
    rw [before, after] at others
    exact ⟨created, others, ordered⟩
  next =>
    rintro ⟨created, others, ordered⟩
    rw [← after] at created ordered
    rw [← before, ← after] at others
    exact ⟨created, others, ordered⟩

variable [DecidableEq Timer]

def Reloads (pending expired : List (Node Timer)) (timer : Timer) : Prop :=
  pending.head? = some (.timer timer) ∨
    .timer timer ∉ pending ∧ expired.head? = some (.timer timer)

instance (pending expired : List (Node Timer)) (timer : Timer) :
    Decidable (Reloads pending expired timer) :=
  inferInstanceAs (Decidable (_ ∨ _ ∧ _))

/-- The new absolute time does not wrap, and no tick is forgotten that a remaining time counts. -/
def InTimeBase (state : Scheduler Lists Timer) (queues : Queues Timer) (timer : Timer)
    (timeout : UInt32) : Prop :=
  queues.pending = [.timer timer] ∨
    if Reloads queues.pending queues.expired timer then
      timeout.toNat + state.absoluteTimeOfLastTimeout.toNat < 2 ^ 32 ∧
        (virtualTime state = state.absoluteTimeOfLastTimeout ∨ queues.pending = [.dummy])
    else
      timeout.toNat + (virtualTime state).toNat < 2 ^ 32 ∧
        (virtualTime state = state.absoluteTimeOfLastTimeout ∨
          ∀ first ∈ queues.pending.head?, remaining state first ≤ timeout)

end Definitions

structure Ascending (absoluteTime : Node Timer -> UInt32) (last : UInt32)
    (list : List (Node Timer)) : Prop where
  sorted : list.Pairwise fun one other => (absoluteTime one).toNat ≤ (absoluteTime other).toNat
  above : ∀ node ∈ list, last.toNat ≤ (absoluteTime node).toNat

namespace Ascending

variable {absoluteTime : Node Timer -> UInt32} {last : UInt32} {list : List (Node Timer)}

theorem sublist (ascending : Ascending absoluteTime last list) {fewer : List (Node Timer)}
    (sublist : fewer.Sublist list) : Ascending absoluteTime last fewer where
  sorted := ascending.sorted.sublist sublist
  above node member := ascending.above node (sublist.subset member)

theorem behind {first : Node Timer} {rest : List (Node Timer)}
    (ascending : Ascending absoluteTime last (first :: rest)) :
    Ascending absoluteTime (absoluteTime first) rest where
  sorted := (List.pairwise_cons.mp ascending.sorted).2
  above := (List.pairwise_cons.mp ascending.sorted).1

theorem head_le {first : Node Timer} (ascending : Ascending absoluteTime last list)
    (head : list.head? = some first) :
    ∀ node ∈ list, (absoluteTime first).toNat ≤ (absoluteTime node).toNat := by
  obtain ⟨rest, rfl⟩ := List.head?_eq_some_iff.mp head
  intro node member
  rcases List.mem_cons.mp member with rfl | later
  next => exact Nat.le_refl _
  next => exact ascending.behind.above node later

theorem congr {times : Node Timer -> UInt32} (ascending : Ascending absoluteTime last list)
    (same : ∀ node ∈ list, times node = absoluteTime node) : Ascending times last list where
  sorted := ascending.sorted.imp_of_mem fun member member' sooner => by
    rw [same _ member, same _ member']
    exact sooner
  above node member := by
    rw [same node member]
    exact ascending.above node member

theorem insert {front back : List (Node Timer)} {node : Node Timer}
    (ascending : Ascending absoluteTime last (front ++ back))
    (sooner : ∀ other ∈ front, (absoluteTime other).toNat ≤ (absoluteTime node).toNat)
    (later : ∀ other ∈ back, (absoluteTime node).toNat ≤ (absoluteTime other).toNat)
    (above : last.toNat ≤ (absoluteTime node).toNat) :
    Ascending absoluteTime last (front ++ node :: back) where
  sorted := by
    obtain ⟨first, second, across⟩ := List.pairwise_append.mp ascending.sorted
    refine List.pairwise_append.mpr ⟨first, List.pairwise_cons.mpr ⟨later, second⟩, ?_⟩
    intro one member other member'
    rcases List.mem_cons.mp member' with rfl | member'
    next => exact sooner one member
    next => exact across one member other member'
  above other member := by
    rcases List.mem_append.mp member with inside | inside
    next => exact ascending.above other (List.mem_append_left _ inside)
    rcases List.mem_cons.mp inside with rfl | inside
    next => exact above
    next => exact ascending.above other (List.mem_append_right _ inside)

variable [DecidableEq Timer]

theorem setTime (ascending : Ascending absoluteTime last list) {node : Node Timer}
    (outside : node ∉ list) (time : UInt32) :
    Ascending (Function.update absoluteTime node time) last list :=
  ascending.congr fun _ member => Function.update_of_ne (ne_of_mem_of_not_mem member outside) _ _

theorem pushDummy (ascending : Ascending absoluteTime last list) (outside : .dummy ∉ list)
    {first : Node Timer} (head : list.head? = some first) (far : absoluteTime first - last > 65535) :
    Ascending (Function.update absoluteTime .dummy (last + 65535)) last (.dummy :: list) := by
  have time := dummy_time (ascending.above first (List.mem_of_head? head)) far
  apply @insert _ _ last [] list .dummy (ascending.setTime outside _) (by simp)
  next =>
    intro other member
    have later := ascending.head_le head other member
    rw [Function.update_self, Function.update_of_ne (ne_of_mem_of_not_mem member outside)]
    omega
  next =>
    rw [Function.update_self]
    omega

end Ascending

section Clock

variable {state : Scheduler (Queues Timer) Timer}

/-- No absolute time has wrapped, and the counter runs from its load to the overflow for the timer
at the head. -/
structure Clocked (state : Scheduler (Queues Timer) Timer) : Prop extends Paced state where
  counts : state.lists.pending ≠ [] -> state.lastTimerLoad.toNat ≤ state.count.toNat
  ascending : Ascending state.absoluteTime state.absoluteTimeOfLastTimeout state.lists.pending
  stopped : state.lists.pending = [] ->
    state.isRunning = false ∧ state.absoluteTimeOfLastTimeout = 0

theorem virtualTime_running (clocked : Clocked state) (present : state.lists.pending ≠ []) :
    virtualTime state =
      state.absoluteTimeOfLastTimeout + (state.count.toUInt32 - state.lastTimerLoad) := by
  rw [virtualTime, if_pos (clocked.running present), if_neg (by simp [clocked.clear present])]

theorem virtualTime_toNat (clocked : Clocked state) {first : Node Timer}
    (head : state.lists.pending.head? = some first) :
    (virtualTime state).toNat + state.lastTimerLoad.toNat =
        state.absoluteTimeOfLastTimeout.toNat + state.count.toNat ∧
      (virtualTime state).toNat ≤ (state.absoluteTime first).toNat := by
  have present : state.lists.pending ≠ [] := List.ne_nil_of_mem (List.mem_of_head? head)
  have counts := clocked.counts present
  have above := clocked.ascending.above first (List.mem_of_head? head)
  have period := UInt32.toNat_sub_of_le _ _ (UInt32.le_iff_toNat_le.mpr above)
  have near := notFar (clocked.near first head)
  have load := load_toNat near
  rw [← clocked.loaded first head] at load
  have bound := state.count.toNat_lt
  have bound' := (state.absoluteTime first).toNat_lt
  have count := UInt16.toNat_toUInt32 state.count
  have elapsed := UInt32.toNat_sub_of_le state.count.toUInt32 state.lastTimerLoad
    (UInt32.le_iff_toNat_le.mpr (by omega))
  have sum := UInt32.toNat_add state.absoluteTimeOfLastTimeout
    (state.count.toUInt32 - state.lastTimerLoad)
  rw [virtualTime_running clocked present, sum]
  omega

theorem virtualTime_stopped (clocked : Clocked state) (empty : state.lists.pending = []) :
    virtualTime state = 0 := by
  obtain ⟨stopped, zero⟩ := clocked.stopped empty
  rw [virtualTime, stopped, zero]
  rfl

theorem remaining_toNat (clocked : Clocked state) {node : Node Timer}
    (member : node ∈ state.lists.pending) :
    (remaining state node).toNat + (virtualTime state).toNat = (state.absoluteTime node).toNat := by
  obtain ⟨first, head⟩ : ∃ first, state.lists.pending.head? = some first :=
    ⟨_, List.head?_eq_some_head (List.ne_nil_of_mem member)⟩
  have here := (virtualTime_toNat clocked head).2
  have later := clocked.ascending.head_le head node member
  have difference := UInt32.toNat_sub_of_le (state.absoluteTime node) (virtualTime state)
    (UInt32.le_iff_toNat_le.mpr (by omega))
  rw [remaining, difference]
  omega

theorem Clocked.ordered (clocked : Clocked state) :
    state.lists.pending.Pairwise fun one other => remaining state one ≤ remaining state other := by
  apply clocked.ascending.sorted.imp_of_mem
  intro one other member member' sooner
  have first := remaining_toNat clocked member
  have second := remaining_toNat clocked member'
  rw [UInt32.le_iff_toNat_le]
  omega

theorem Clocked.fewer (clocked : Clocked state) {lists : Queues Timer} {enabled : Bool}
    (shape : Shape lists) (head : lists.pending.head? = state.lists.pending.head?)
    (fewer : lists.pending.Sublist state.lists.pending)
    (enables : state.interruptEnabled = true -> enabled = true) :
    Clocked { state with lists := lists, interruptEnabled := enabled } where
  toPaced := clocked.toPaced.withLists shape head enables
  counts present := clocked.counts fun empty => present (List.sublist_nil.mp (empty ▸ fewer))
  ascending := clocked.ascending.sublist fewer
  stopped empty := by
    have empty' : lists.pending = [] := empty
    rw [empty', List.head?_nil, eq_comm, List.head?_eq_none_iff] at head
    exact clocked.stopped head

theorem Clocked.called (clocked : Clocked state) : Clocked (called state) := by
  have paced := clocked.toPaced.called
  obtain ⟨pending, -, lists, callbacks, same⟩ := @called_same _ state
  rw [same] at paced pending ⊢
  have pending' : lists.pending = state.lists.pending := pending
  refine ⟨paced, ?_, ?_, ?_⟩ <;> dsimp only <;> rw [pending']
  next => exact clocked.counts
  next => exact clocked.ascending
  next => exact clocked.stopped

theorem Clocked.returned (clocked : Clocked state) (callbacks : List Timer) :
    Clocked { state with callbacks := callbacks } where
  toPaced := clocked.toPaced.congr clocked.shape rfl (fun _ _ => rfl) rfl rfl rfl clocked.enabled
  counts := clocked.counts
  ascending := clocked.ascending
  stopped := clocked.stopped

variable [DecidableEq Timer]

theorem clocked_restart (restartable : Restartable state)
    (bound : state.lastTimerLoad.toNat ≤ 65535)
    (clear : state.lists.pending ≠ [] -> state.overflow = false)
    (ascending : Ascending state.absoluteTime state.absoluteTimeOfLastTimeout
      state.lists.pending) : Clocked (restart state) := by
  have paced := paced_restart restartable bound clear
  cases list : state.lists.pending with
  | nil =>
    rw [restart_empty list] at paced ⊢
    refine ⟨paced, fun present => absurd list present, ?_, fun _ => ⟨rfl, rfl⟩⟩
    dsimp only
    rw [list]
    exact ⟨List.Pairwise.nil, fun node inside => absurd inside List.not_mem_nil⟩
  | cons first rest =>
    by_cases far : state.absoluteTime first - state.absoluteTimeOfLastTimeout > 65535
    next =>
      have outside := (restartable.outside list far).2.1
      have head : state.lists.pending.head? = some first := by simp [list]
      rw [restart_far list far] at paced ⊢
      exact ⟨paced, fun _ => Nat.zero_le _, ascending.pushDummy outside head far,
        fun empty => by cases empty⟩
    next =>
      have load := load_toNat (notFar far)
      have count := UInt32.toNat_toUInt16
        (65535 - (state.absoluteTime first - state.absoluteTimeOfLastTimeout))
      rw [restart_near list far] at paced ⊢
      refine ⟨paced, fun _ => ?_, ascending, fun empty => ?_⟩
      next =>
        dsimp only
        omega
      next => exact absurd (list.symm.trans empty) (List.cons_ne_nil _ _)

theorem Clocked.removedFrom (clocked : Clocked state) (which : Selected) (node : Node Timer) :
    Clocked (removedFrom which node state) := by
  have fewer := state.lists.deleteFrom_sublist which node
  unfold AvrVoiceControl.removedFrom
  split_ifs with first empty
  next =>
    refine clocked_restart (clocked.restartable.deleteFrom first) clocked.bound (fun present => ?_)
      (clocked.ascending.sublist fewer)
    exact clocked.clear fun empty => present (List.sublist_nil.mp (empty ▸ fewer))
  next => exact clocked
  next =>
    refine clocked.fewer (clocked.shape.deleteFrom which node) ?_ fewer fun _ => rfl
    exact state.lists.deleteFrom_head which node fun removal =>
      absurd ((state.lists.deleteFrom_first which node).mp removal) first

theorem Clocked.removed (clocked : Clocked state) (node : Node Timer) :
    Clocked (removed node state) := by
  have clocked' : Clocked (removedFromLists node state) := by
    unfold removedFromLists
    split_ifs
    next => exact clocked.removedFrom _ node
    next => exact (clocked.removedFrom _ node).removedFrom _ node
  exact clocked'.fewer (clocked'.shape.clearNext node) (cutAfter_head _ _)
    (cutAfter_isPrefix _ _).sublist id

end Clock

section Insertion

variable [DecidableEq Timer] {state : Scheduler (Queues Timer) Timer} {node other : Node Timer}

omit [DecidableEq Timer] in
theorem before_sooner (inside : other ∈ before node state) :
    (state.absoluteTime other).toNat ≤ (state.absoluteTime node).toNat := by
  have sooner := List.mem_takeWhile_imp inside
  simp only [Bool.not_eq_true', decide_eq_false_iff_not] at sooner
  exact Nat.le_of_not_lt fun less => sooner (UInt32.lt_iff_toNat_lt.mpr less)

omit [DecidableEq Timer] in
theorem behind_later
    (ascending : Ascending state.absoluteTime state.absoluteTimeOfLastTimeout state.lists.pending)
    (inside : other ∈ behind node state) :
    (state.absoluteTime node).toNat < (state.absoluteTime other).toNat := by
  obtain ⟨first, rest, back⟩ := List.exists_cons_of_ne_nil (List.ne_nil_of_mem inside)
  have drops := List.head?_dropWhile_not
    (fun point => !decide (state.absoluteTime point > state.absoluteTime node)) state.lists.pending
  have later := ascending.sublist (List.dropWhile_sublist
    fun point => !decide (state.absoluteTime point > state.absoluteTime node))
  have back' : state.lists.pending.dropWhile (fun point =>
      !decide (state.absoluteTime point > state.absoluteTime node)) = first :: rest := back
  rw [back'] at drops later
  have sooner : state.absoluteTime node < state.absoluteTime first := by simpa using drops
  rw [back] at inside
  exact Nat.lt_of_lt_of_le (UInt32.lt_iff_toNat_lt.mp sooner) (later.head_le rfl other inside)

omit [DecidableEq Timer] in
theorem behind_of_atHead (atHead : before node state = []) :
    behind node state = state.lists.pending := by
  have split := before_append_behind node state
  rwa [atHead, List.nil_append] at split

theorem ascending_placed
    (ascending : Ascending state.absoluteTime state.absoluteTimeOfLastTimeout state.lists.pending)
    (above : state.absoluteTimeOfLastTimeout.toNat ≤ (state.absoluteTime node).toNat) :
    Ascending state.absoluteTime state.absoluteTimeOfLastTimeout
      (placed node state).lists.pending := by
  have later : ∀ other ∈ behind node state,
      (state.absoluteTime node).toNat ≤ (state.absoluteTime other).toNat :=
    fun other inside => Nat.le_of_lt (behind_later ascending inside)
  unfold placed
  split_ifs with atHead
  next =>
    rw [behind_of_atHead atHead] at later
    have fewer := Shape.dropDummy_sublist state.lists.pending
    exact @Ascending.insert _ _ _ [] _ node (ascending.sublist fewer) (by simp)
      (fun other inside => later other (fewer.subset inside)) above
  next =>
    have ascending' := ascending
    rw [← before_append_behind node state] at ascending'
    exact ascending'.insert (fun other inside => before_sooner inside) later above

theorem placed_times :
    (placed node state).absoluteTime = state.absoluteTime ∧
      (placed node state).absoluteTimeOfLastTimeout = state.absoluteTimeOfLastTimeout := by
  unfold placed
  split <;> exact ⟨rfl, rfl⟩

omit [DecidableEq Timer] in
theorem madeAbsolute_eq (timeout : UInt32) :
    madeAbsolute timeout state = timeout + virtualTime state := by
  unfold madeAbsolute virtualTime
  split
  next => rw [UInt32.add_assoc]
  next => rfl

omit [DecidableEq Timer] in
theorem last_le_virtualTime (clocked : Clocked state) :
    state.absoluteTimeOfLastTimeout.toNat ≤ (virtualTime state).toNat := by
  cases list : state.lists.pending with
  | nil =>
    rw [(clocked.stopped list).2]
    exact Nat.zero_le _
  | cons first rest =>
    have time := (@virtualTime_toNat _ state clocked first (by simp [list])).1
    have counts := clocked.counts (by simp [list])
    omega

theorem arrived_inRange (clocked : Clocked state) {timeout : UInt32}
    (inRange : timeout.toNat + (virtualTime state).toNat < 2 ^ 32) :
    (timeout + virtualTime state).toNat = timeout.toNat + (virtualTime state).toNat ∧
      arrived node timeout state =
        { state with
          interruptEnabled := false
          absoluteTime := Function.update state.absoluteTime node (timeout + virtualTime state) } := by
  have sum := UInt32.toNat_add timeout (virtualTime state)
  rw [Nat.mod_eq_of_lt inRange] at sum
  have last := last_le_virtualTime clocked
  refine ⟨sum, ?_⟩
  rw [arrived, madeAbsolute_eq, rebasedFor, if_neg]
  rw [UInt32.lt_iff_toNat_lt]
  dsimp only
  omega

theorem clocked_inserted (clocked : Clocked state) (outside : state.lists.Outside node)
    (real : node ≠ .dummy) {timeout : UInt32}
    (inRange : timeout.toNat + (virtualTime state).toNat < 2 ^ 32) :
    Clocked (inserted node (arrived node timeout state)) := by
  have paced := clocked.toPaced.inserted_arrived outside real timeout
  obtain ⟨sum, arrives⟩ := @arrived_inRange _ _ state node clocked timeout inRange
  have last := last_le_virtualTime clocked
  have ascending := clocked.ascending.setTime outside.1 (timeout + virtualTime state)
  rw [arrives] at paced ⊢
  have shape : Shape state.lists := clocked.shape
  have counts := clocked.counts
  let arrival : Scheduler (Queues Timer) Timer :=
    { state with
      interruptEnabled := false
      absoluteTime := Function.update state.absoluteTime node (timeout + virtualTime state) }
  have same := @placed_times _ _ arrival node
  have ascending' : Ascending (placed node arrival).absoluteTime
      (placed node arrival).absoluteTimeOfLastTimeout (placed node arrival).lists.pending := by
    rw [same.1, same.2]
    apply ascending_placed ascending
    dsimp only [arrival]
    rw [Function.update_self]
    omega
  change Paced (inserted node arrival) at paced
  change Clocked (inserted node arrival)
  unfold inserted at paced ⊢
  split_ifs at paced ⊢ with atHead
  next =>
    refine clocked_restart (restartable_placed shape outside real atHead) ?_ (fun _ => ?_) ascending'
    next =>
      rw [placed, if_pos atHead]
      exact Nat.zero_le _
    next => rw [placed, if_pos atHead]
  next =>
    refine ⟨paced, fun _ => ?_, ascending', fun empty => ?_⟩
    next =>
      have present : state.lists.pending ≠ [] := by
        rintro empty
        have split := before_append_behind node arrival
        exact atHead (List.append_eq_nil_iff.mp (split.trans empty)).1
      rw [placed, if_neg atHead]
      exact counts present
    next =>
      rw [placed, if_neg atHead] at empty
      simp at empty

theorem restart_times (real : other ≠ .dummy) :
    (restart state).absoluteTime other = state.absoluteTime other := by
  cases list : state.lists.pending with
  | nil => rw [restart_empty list]
  | cons first rest =>
    by_cases far : state.absoluteTime first - state.absoluteTimeOfLastTimeout > 65535
    next =>
      rw [restart_far list far]
      exact Function.update_of_ne real _ _
    next => rw [restart_near list far]

omit [DecidableEq Timer] in
theorem virtualTime_loaded (running : state.isRunning = true) (clear : state.overflow = false)
    (loaded : state.count.toUInt32 = state.lastTimerLoad) :
    virtualTime state = state.absoluteTimeOfLastTimeout := by
  rw [virtualTime, if_pos running, if_neg (by simp [clear]), loaded, UInt32.sub_self, UInt32.add_zero]

theorem virtualTime_restart (present : state.lists.pending ≠ []) (clear : state.overflow = false) :
    virtualTime (restart state) = state.absoluteTimeOfLastTimeout := by
  obtain ⟨first, rest, list⟩ := List.exists_cons_of_ne_nil present
  by_cases far : state.absoluteTime first - state.absoluteTimeOfLastTimeout > 65535
  next =>
    rw [restart_far list far]
    exact virtualTime_loaded rfl clear rfl
  next =>
    have load := load_toNat (notFar far)
    rw [restart_near list far]
    refine virtualTime_loaded rfl clear (UInt32.toNat_inj.mp ?_)
    rw [UInt16.toNat_toUInt32, UInt32.toNat_toUInt16, Nat.mod_eq_of_lt (by omega)]

theorem virtualTime_inserted :
    virtualTime (inserted node state) =
      if before node state = [] then state.absoluteTimeOfLastTimeout else virtualTime state := by
  unfold inserted
  split_ifs with atHead
  next =>
    rw [virtualTime_restart]
    next => exact placed_times.2
    next => simp [placed, atHead]
    next => simp [placed, atHead]
  next =>
    rw [placed, if_neg atHead]
    rfl

theorem inserted_times (real : other ≠ .dummy) :
    (inserted node state).absoluteTime other = state.absoluteTime other := by
  unfold inserted
  split_ifs
  next => rw [restart_times real, placed_times.1]
  next => exact congrFun placed_times.1 other

theorem mem_inserted_self (real : node ≠ .dummy) : node ∈ (inserted node state).lists.pending := by
  unfold inserted
  split_ifs with atHead
  next =>
    rw [mem_restart real, placed, if_pos atHead]
    exact List.mem_cons_self
  next =>
    rw [placed, if_neg atHead]
    simp

/-- The rebased timer is 65536 ticks late, as with a counter of 16 bits. -/
theorem remaining_rebased (clocked : Clocked state) (present : state.lists.pending ≠ [])
    (real : node ≠ .dummy) {timeout : UInt32}
    (wrapped : timeout + virtualTime state < state.absoluteTimeOfLastTimeout) :
    remaining (inserted node (arrived node timeout state)) node ≠ timeout := by
  have elapsed : (state.count.toUInt32 - state.lastTimerLoad).toNat ≤ 65535 := by
    have counts := clocked.counts present
    have bound := state.count.toNat_lt
    have count := UInt16.toNat_toUInt32 state.count
    rw [UInt32.toNat_sub_of_le _ _ (UInt32.le_iff_toNat_le.mpr (by omega))]
    omega
  have base : madeAbsolute 0 { state with
      interruptEnabled := false
      absoluteTime := Function.update state.absoluteTime node (timeout + virtualTime state) } =
      virtualTime state := by
    rw [madeAbsolute_eq, UInt32.zero_add]
    rfl
  have last : (arrived node timeout state).absoluteTimeOfLastTimeout =
      state.absoluteTimeOfLastTimeout - virtualTime state := by
    rw [arrived, madeAbsolute_eq, rebasedFor, if_pos wrapped]
    dsimp only [rebased]
    rw [base]
  have time : (arrived node timeout state).absoluteTime node =
      timeout + virtualTime state + (65535 - virtualTime state + 1) := by
    rw [arrived, madeAbsolute_eq, rebasedFor, if_pos wrapped, base]
    exact Function.update_self _ _ _
  have now : virtualTime (arrived node timeout state) =
      state.absoluteTimeOfLastTimeout - virtualTime state +
        (state.count.toUInt32 - state.lastTimerLoad) := by
    obtain ⟨count, load, running, overflow⟩ := @arrived_same _ _ state node timeout
    rw [virtualTime, running, overflow, count, load, last, if_pos (clocked.running present),
      if_neg (by simp [clocked.clear present])]
  have start := virtualTime_running clocked present
  rw [remaining, inserted_times real, time, virtualTime_inserted, last, now, start]
  generalize state.count.toUInt32 - state.lastTimerLoad = ticks at elapsed ⊢
  intro exact
  split_ifs at exact
  next =>
    have late : 65536 + ticks = 0 := by grind
    have sum := UInt32.toNat_add 65536 ticks
    rw [late] at sum
    have literal : (65536 : UInt32).toNat = 65536 := rfl
    have zero : (0 : UInt32).toNat = 0 := rfl
    omega
  next =>
    have late : (65536 : UInt32) = 0 := by grind
    cases late

/-- A time that wraps beyond the last timeout is taken for one that has passed. -/
theorem remaining_passed (clocked : Clocked state) (present : state.lists.pending ≠ [])
    (outside : node ∉ state.lists.pending) (real : node ≠ .dummy) {timeout : UInt32}
    (wraps : (timeout + virtualTime state).toNat < (virtualTime state).toNat)
    (kept : ¬ timeout + virtualTime state < state.absoluteTimeOfLastTimeout) :
    remaining (inserted node (arrived node timeout state)) node ≠ timeout := by
  have arrives : arrived node timeout state =
      { state with
        interruptEnabled := false
        absoluteTime := Function.update state.absoluteTime node (timeout + virtualTime state) } := by
    rw [arrived, madeAbsolute_eq, rebasedFor, if_neg kept]
  have atHead : before node (arrived node timeout state) = [] := by
    obtain ⟨first, rest, list⟩ := List.exists_cons_of_ne_nil present
    have now := (@virtualTime_toNat _ state clocked first (by simp [list])).2
    have other : first ≠ node := fun same => outside (by simp [list, same])
    have sooner : timeout + virtualTime state < state.absoluteTime first :=
      UInt32.lt_iff_toNat_lt.mpr (by omega)
    rw [arrives]
    simp [before, list, Function.update_of_ne other, sooner]
  rw [remaining, inserted_times real, virtualTime_inserted, if_pos atHead, arrives]
  dsimp only
  rw [Function.update_self]
  intro exact
  have same : virtualTime state = state.absoluteTimeOfLastTimeout := by grind
  rw [← same, UInt32.lt_iff_toNat_lt] at kept
  exact kept wraps

theorem remaining_wrapped (clocked : Clocked state) (outside : node ∉ state.lists.pending)
    (real : node ≠ .dummy) {timeout : UInt32}
    (wraps : ¬ timeout.toNat + (virtualTime state).toNat < 2 ^ 32) :
    remaining (inserted node (arrived node timeout state)) node ≠ timeout := by
  have bound := timeout.toNat_lt
  have present : state.lists.pending ≠ [] := by
    intro empty
    rw [virtualTime_stopped clocked empty] at wraps
    exact wraps bound
  by_cases wrapped : timeout + virtualTime state < state.absoluteTimeOfLastTimeout
  next => exact remaining_rebased clocked present real wrapped
  next =>
    refine remaining_passed clocked present outside real ?_ wrapped
    have sum := UInt32.toNat_add timeout (virtualTime state)
    have bound' := (virtualTime state).toNat_lt
    omega

end Insertion

section Removal

variable [DecidableEq Timer] {state : Scheduler (Queues Timer) Timer} {node other : Node Timer}

theorem removedFrom_times {which : Selected} (real : other ≠ .dummy) :
    (removedFrom which node state).absoluteTime other = state.absoluteTime other := by
  unfold removedFrom
  split_ifs
  next => exact restart_times real
  next => rfl
  next => rfl

theorem removed_times (real : other ≠ .dummy) :
    (removed node state).absoluteTime other = state.absoluteTime other := by
  have same : (removedFromLists node state).absoluteTime other = state.absoluteTime other := by
    unfold removedFromLists
    split_ifs
    next => exact removedFrom_times real
    next => rw [removedFrom_times real, removedFrom_times real]
  exact same

theorem restart_last (present : state.lists.pending ≠ []) :
    (restart state).absoluteTimeOfLastTimeout = state.absoluteTimeOfLastTimeout := by
  obtain ⟨first, rest, list⟩ := List.exists_cons_of_ne_nil present
  by_cases far : state.absoluteTime first - state.absoluteTimeOfLastTimeout > 65535
  next => rw [restart_far list far]
  next => rw [restart_near list far]

theorem removed_alone (shape : Shape state.lists) (real : node ≠ .dummy)
    (alone : state.lists.pending = [node]) : (removed node state).lists.pending = [] := by
  have inside : node ∈ state.lists.pending := by simp [alone]
  have first : (state.lists.select .listHead).head? = some node := by simp [Queues.select, alone]
  have empty : (state.lists.deleteFrom .listHead node).2.pending = [] := by
    rw [Queues.deleteFrom_eq]
    change state.lists.pending.erase node = []
    rw [alone, List.erase_cons_head]
  rw [removed_eq shape real, removedFromLists, if_pos inside, removedFrom, if_pos first,
    restart_empty empty]
  exact empty

theorem removed_none (shape : Shape state.lists) (real : node ≠ .dummy)
    (empty : state.lists.pending = []) : (removed node state).lists.pending = [] := by
  have skipped : removedFrom .listHead node state = state := by
    simp [removedFrom, Queues.select, empty]
  have kept : (state.lists.deleteFrom .executeQueueHead node).2.pending = [] := by
    rw [Queues.deleteFrom_eq]
    exact empty
  rw [removed_eq shape real, removedFromLists, if_neg (by simp [empty]), skipped, removedFrom]
  split_ifs
  next => rw [restart_empty kept]; exact kept
  next => exact empty
  next => exact kept

theorem removed_reloads (clocked : Clocked state) {timer : Timer}
    (present : state.lists.pending ≠ []) (more : state.lists.pending ≠ [.timer timer])
    (reloads : Reloads state.lists.pending state.lists.expired timer) :
    virtualTime (removed (.timer timer) state) = state.absoluteTimeOfLastTimeout ∧
      (removed (.timer timer) state).absoluteTimeOfLastTimeout =
        state.absoluteTimeOfLastTimeout := by
  have clear := clocked.clear present
  rw [removed_eq clocked.shape (by simp), removedFromLists]
  rcases reloads with head | ⟨absent, head⟩
  next =>
    have inside := List.mem_of_head? head
    have first : (state.lists.select .listHead).head? = some (.timer timer) := head
    have present' : (state.lists.deleteFrom .listHead (.timer timer)).2.pending ≠ [] := by
      obtain ⟨rest, list⟩ := List.head?_eq_some_iff.mp head
      rw [Queues.deleteFrom_eq]
      change state.lists.pending.erase (.timer timer) ≠ []
      rw [list, List.erase_cons_head]
      rintro rfl
      exact more list
    rw [if_pos inside, removedFrom, if_pos first]
    exact ⟨virtualTime_restart present' clear, restart_last present'⟩
  next =>
    have first : (state.lists.select .executeQueueHead).head? = some (.timer timer) := head
    have present' : (state.lists.deleteFrom .executeQueueHead (.timer timer)).2.pending ≠ [] := by
      rw [Queues.deleteFrom_eq]
      exact present
    obtain ⟨enabled, passes⟩ := @removedFrom_absent _ _ state (.timer timer) .listHead absent
    rw [if_neg absent, passes, removedFrom, if_pos first]
    exact ⟨virtualTime_restart present' clear, restart_last present'⟩

theorem removed_keeps (shape : Shape state.lists) {timer : Timer}
    (present : state.lists.pending ≠ [])
    (keeps : ¬ Reloads state.lists.pending state.lists.expired timer) :
    virtualTime (removed (.timer timer) state) = virtualTime state ∧
      (removed (.timer timer) state).absoluteTimeOfLastTimeout = state.absoluteTimeOfLastTimeout ∧
      (removed (.timer timer) state).absoluteTime = state.absoluteTime ∧
      (removed (.timer timer) state).lists.pending.head? = state.lists.pending.head? := by
  obtain ⟨notHead, notExpired⟩ := not_or.mp keeps
  rw [removed_eq shape (by simp), removedFromLists]
  have notFirst : ¬ (state.lists.select .listHead).head? = some (.timer timer) := notHead
  have notEmpty : ¬ state.lists.select .listHead = [] := present
  have kept (which : Selected) (other : ¬ (state.lists.select which).head? = some (.timer timer)) :
      (state.lists.deleteFrom which (.timer timer)).2.pending.head? = state.lists.pending.head? :=
    state.lists.deleteFrom_head which _ fun removal =>
      absurd ((state.lists.deleteFrom_first which _).mp removal) other
  split_ifs with inside
  next =>
    rw [removedFrom, if_neg notFirst, if_neg notEmpty]
    exact ⟨rfl, rfl, rfl, kept .listHead notFirst⟩
  next =>
    have notFirst' : ¬ (state.lists.select .executeQueueHead).head? = some (.timer timer) :=
      fun head => notExpired ⟨inside, head⟩
    obtain ⟨enabled, passes⟩ := @removedFrom_absent _ _ state (.timer timer) .listHead inside
    rw [passes, removedFrom, if_neg notFirst']
    split_ifs
    next => exact ⟨rfl, rfl, rfl, rfl⟩
    next => exact ⟨rfl, rfl, rfl, kept .executeQueueHead notFirst'⟩

end Removal

section Creation

variable [DecidableEq Timer] {state : Scheduler (Queues Timer) Timer} {timer : Timer}
  {timeout : UInt32}

theorem exact_of_inRange (clocked : Clocked state)
    (inRange : timeout.toNat + (virtualTime (removed (.timer timer) state)).toNat < 2 ^ 32) :
    Exact state (created (.timer timer) timeout state) state.lists.pending
        (created (.timer timer) timeout state).lists.pending timer timeout ↔
      virtualTime (created (.timer timer) timeout state) =
          virtualTime (removed (.timer timer) state) ∧
        ∀ other, other ≠ timer -> .timer other ∈ state.lists.pending ->
          virtualTime (created (.timer timer) timeout state) = virtualTime state := by
  have clocked' := clocked.removed (.timer timer)
  have outside := @outside_removed _ _ state (.timer timer) clocked.shape (by simp)
  have arrives := (@arrived_inRange _ _ _ (.timer timer) clocked' timeout inRange).2
  have time : (created (.timer timer) timeout state).absoluteTime (.timer timer) =
      timeout + virtualTime (removed (.timer timer) state) := by
    rw [created, inserted_times (by simp), arrives]
    exact Function.update_self _ _ _
  have times (other : Timer) (ne : other ≠ timer) :
      (created (.timer timer) timeout state).absoluteTime (.timer other) =
        state.absoluteTime (.timer other) := by
    rw [created, inserted_times (by simp), arrives]
    exact (Function.update_of_ne (by simpa using ne) _ _).trans (removed_times (by simp))
  have stays (other : Timer) (ne : other ≠ timer) (pending : .timer other ∈ state.lists.pending) :
      .timer other ∈ (created (.timer timer) timeout state).lists.pending := by
    apply mem_inserted (by simp)
    rw [arrived_lists, removed_eq clocked.shape (by simp)]
    exact (mem_removedFromLists clocked.shape (by simp)).mpr ⟨pending, by simpa using ne⟩
  have clocked'' := clocked_inserted clocked' outside (by simp) inRange
  have moved (one other time : UInt32) : time - one = time - other ↔ one = other := by
    constructor <;> intro same <;> grind
  have now (one other : UInt32) : timeout + one - other = timeout ↔ other = one := by
    constructor <;> intro same <;> grind
  constructor
  next =>
    intro exact
    have self := exact.created.2
    rw [remaining, time, now] at self
    refine ⟨self, fun other ne pending => ?_⟩
    have same := (exact.others other ne pending).2
    rwa [remaining, remaining, times other ne, moved] at same
  next =>
    intro same
    refine ⟨⟨mem_inserted_self (by simp), ?_⟩, fun other ne pending => ⟨stays other ne pending, ?_⟩,
      clocked''.ordered⟩
    next => rw [remaining, time, now, same.1]
    next => rw [remaining, remaining, times other ne, moved, same.2 other ne pending]

theorem virtualTime_created (clocked : Clocked state)
    (inRange : timeout.toNat + (virtualTime (removed (.timer timer) state)).toNat < 2 ^ 32) :
    virtualTime (created (.timer timer) timeout state) =
      if ∀ first ∈ (removed (.timer timer) state).lists.pending.head?,
          timeout < remaining (removed (.timer timer) state) first then
        (removed (.timer timer) state).absoluteTimeOfLastTimeout
      else virtualTime (removed (.timer timer) state) := by
  have clocked' := clocked.removed (.timer timer)
  have outside := @outside_removed _ _ state (.timer timer) clocked.shape (by simp)
  obtain ⟨sum, arrives⟩ := @arrived_inRange _ _ _ (.timer timer) clocked' timeout inRange
  rw [created, virtualTime_inserted, arrives]
  generalize removed (.timer timer) state = cleared at *
  have atHead : before (.timer timer) { cleared with
      interruptEnabled := false
      absoluteTime := Function.update cleared.absoluteTime (.timer timer)
        (timeout + virtualTime cleared) } = [] ↔
      ∀ first ∈ cleared.lists.pending.head?, timeout < remaining cleared first := by
    cases list : cleared.lists.pending with
    | nil => simp [before, list]
    | cons first rest =>
      have inside : first ∈ cleared.lists.pending := by simp [list]
      have other : first ≠ .timer timer := ne_of_mem_of_not_mem inside outside.1
      have left := remaining_toNat clocked' inside
      simp only [before, list, List.takeWhile_cons, Function.update_self, Function.update_of_ne other,
        List.head?_cons, Option.mem_def, Option.some.injEq, forall_eq', gt_iff_lt,
        UInt32.lt_iff_toNat_lt, sum]
      split_ifs with later
      next => simp at later ⊢; omega
      next => simp at later ⊢; omega
  simp only [atHead]
  rfl

omit [DecidableEq Timer] in
theorem exists_other (shape : Shape state.lists) (present : state.lists.pending ≠ [])
    (more : state.lists.pending ≠ [.timer timer]) (more' : state.lists.pending ≠ [.dummy])
    (reloads : Reloads state.lists.pending state.lists.expired timer) :
    ∃ other, other ≠ timer ∧ .timer other ∈ state.lists.pending := by
  obtain ⟨first, rest, list⟩ := List.exists_cons_of_ne_nil present
  have nodup := shape.pending
  have later := shape.dummyFirst
  rw [list] at nodup later more more' reloads ⊢
  have behind (some : rest ≠ []) (outside : .timer timer ∉ rest) :
      ∃ other, other ≠ timer ∧ .timer other ∈ first :: rest := by
    obtain ⟨second, last, split⟩ := List.exists_cons_of_ne_nil some
    have inside : second ∈ rest := by simp [split]
    cases second with
    | dummy => exact absurd inside later
    | timer other =>
      refine ⟨other, ?_, List.mem_cons_of_mem _ inside⟩
      rintro rfl
      exact outside inside
  rcases reloads with head | ⟨absent, -⟩
  next =>
    obtain rfl : first = .timer timer := Option.some.inj head
    exact behind (fun empty => more (by rw [empty])) (List.nodup_cons.mp nodup).1
  next =>
    cases first with
    | dummy =>
      exact behind (fun empty => more' (by rw [empty]))
        fun inside => absent (List.mem_cons_of_mem _ inside)
    | timer other =>
      refine ⟨other, ?_, List.mem_cons_self⟩
      rintro rfl
      exact absent List.mem_cons_self

theorem not_exact_wrapped (clocked : Clocked state)
    (wraps : ¬ timeout.toNat + (virtualTime (removed (.timer timer) state)).toNat < 2 ^ 32) :
    ¬ Exact state (created (.timer timer) timeout state) state.lists.pending
      (created (.timer timer) timeout state).lists.pending timer timeout := by
  have outside := @outside_removed _ _ state (.timer timer) clocked.shape (by simp)
  intro exact
  exact remaining_wrapped (clocked.removed (.timer timer)) outside.1 (by simp) wraps exact.created.2

theorem exact_alone (clocked : Clocked state) (alone : state.lists.pending = [.timer timer]) :
    Exact state (created (.timer timer) timeout state) state.lists.pending
      (created (.timer timer) timeout state).lists.pending timer timeout := by
  have clocked' := clocked.removed (.timer timer)
  have empty := removed_alone clocked.shape (by simp) alone
  have zero := virtualTime_stopped clocked' empty
  have within : timeout.toNat + (virtualTime (removed (.timer timer) state)).toNat < 2 ^ 32 := by
    rw [zero]
    exact timeout.toNat_lt
  rw [exact_of_inRange clocked within, virtualTime_created clocked within, empty, zero,
    (clocked'.stopped empty).2]
  refine ⟨ite_self _, fun other ne inside => ?_⟩
  rw [alone] at inside
  exact absurd (Node.timer.inj (List.mem_singleton.mp inside)) ne

theorem exact_reloading_iff (clocked : Clocked state) (present : state.lists.pending ≠ [])
    (more : state.lists.pending ≠ [.timer timer])
    (reloads : Reloads state.lists.pending state.lists.expired timer) :
    Exact state (created (.timer timer) timeout state) state.lists.pending
        (created (.timer timer) timeout state).lists.pending timer timeout ↔
      timeout.toNat + state.absoluteTimeOfLastTimeout.toNat < 2 ^ 32 ∧
        (virtualTime state = state.absoluteTimeOfLastTimeout ∨
          state.lists.pending = [.dummy]) := by
  obtain ⟨now, last⟩ := removed_reloads clocked present more reloads
  by_cases within : timeout.toNat + state.absoluteTimeOfLastTimeout.toNat < 2 ^ 32
  next =>
    have within' : timeout.toNat + (virtualTime (removed (.timer timer) state)).toNat < 2 ^ 32 := by
      rwa [now]
    rw [exact_of_inRange clocked within', virtualTime_created clocked within', last, now, ite_self]
    simp only [true_and, within]
    constructor
    next =>
      intro same
      by_cases dummy : state.lists.pending = [.dummy]
      next => exact .inr dummy
      next =>
        obtain ⟨other, ne, inside⟩ := exists_other clocked.shape present more dummy reloads
        exact .inl (same other ne inside).symm
    next =>
      rintro (same | dummy) other ne inside
      next => exact same.symm
      next => simp [dummy] at inside
  next =>
    apply iff_of_false
    next => exact not_exact_wrapped clocked (by rwa [now])
    next => exact fun both => within both.1

theorem exact_keeping_iff (clocked : Clocked state) (present : state.lists.pending ≠ [])
    (keeps : ¬ Reloads state.lists.pending state.lists.expired timer) :
    Exact state (created (.timer timer) timeout state) state.lists.pending
        (created (.timer timer) timeout state).lists.pending timer timeout ↔
      timeout.toNat + (virtualTime state).toNat < 2 ^ 32 ∧
        (virtualTime state = state.absoluteTimeOfLastTimeout ∨
          ∀ first ∈ state.lists.pending.head?, remaining state first ≤ timeout) := by
  obtain ⟨now, last, times, head⟩ := removed_keeps clocked.shape present keeps
  have left (first : Node Timer) :
      remaining (removed (.timer timer) state) first = remaining state first := by
    rw [remaining, remaining, times, now]
  by_cases within : timeout.toNat + (virtualTime state).toNat < 2 ^ 32
  next =>
    have within' : timeout.toNat + (virtualTime (removed (.timer timer) state)).toNat < 2 ^ 32 := by
      rwa [now]
    rw [exact_of_inRange clocked within', virtualTime_created clocked within', last, now, head]
    obtain ⟨first, rest, list⟩ := List.exists_cons_of_ne_nil present
    simp only [list, List.head?_cons, Option.mem_def, Option.some.injEq, forall_eq', left, within,
      true_and]
    by_cases sooner : timeout < remaining state first
    next =>
      simp only [if_pos sooner, UInt32.not_le.mpr sooner, or_false]
      exact ⟨fun same => same.1.symm, fun same => ⟨same.symm, fun _ _ _ => same.symm⟩⟩
    next =>
      simp only [if_neg sooner, UInt32.not_lt.mp sooner, or_true, implies_true, and_self]
  next =>
    apply iff_of_false
    next => exact not_exact_wrapped clocked (by rwa [now])
    next => exact fun both => within both.1

theorem exact_created_iff (clocked : Clocked state) (present : state.lists.pending ≠ []) :
    Exact state (created (.timer timer) timeout state) state.lists.pending
        (created (.timer timer) timeout state).lists.pending timer timeout ↔
      InTimeBase state state.lists timer timeout := by
  unfold InTimeBase
  by_cases alone : state.lists.pending = [.timer timer]
  next => exact iff_of_true (exact_alone clocked alone) (.inl alone)
  rw [or_iff_right alone]
  split_ifs with reloads
  next => exact exact_reloading_iff clocked present alone reloads
  next => exact exact_keeping_iff clocked present reloads

end Creation

end AvrVoiceControl
