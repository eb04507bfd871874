import AvrVoiceControl.Scheduler

set_option autoImplicit false

namespace AvrVoiceControl

open Interrupts LinkedList

structure Queues (Timer : Type) where
  pending : List (Node Timer)
  expired : List (Node Timer)

namespace Queues

variable {Timer : Type}

def select (queues : Queues Timer) : Selected -> List (Node Timer)
  | .listHead => queues.pending
  | .executeQueueHead => queues.expired

def put (queues : Queues Timer) (list : List (Node Timer)) : Selected -> Queues Timer
  | .listHead => { queues with pending := list }
  | .executeQueueHead => { queues with expired := list }

@[simp] theorem select_put_self (queues : Queues Timer) (list : List (Node Timer))
    (which : Selected) : (queues.put list which).select which = list := by
  cases which <;> rfl

theorem select_put_of_ne (queues : Queues Timer) (list : List (Node Timer))
    {which other : Selected} (ne : other ≠ which) :
    (queues.put list which).select other = queues.select other := by
  cases which <;> cases other <;> first | rfl | exact absurd rfl ne

def Outside (queues : Queues Timer) (timer : Node Timer) : Prop :=
  timer ∉ queues.pending ∧ timer ∉ queues.expired

variable [DecidableEq Timer]

instance (queues : Queues Timer) (timer : Node Timer) : Decidable (queues.Outside timer) :=
  inferInstanceAs (Decidable (_ ∧ _))

def clearNext (timer : Node Timer) (queues : Queues Timer) : Queues Timer where
  pending := cutAfter timer queues.pending
  expired := cutAfter timer queues.expired

def deleteFrom (which : Selected) (timer : Node Timer) (queues : Queues Timer) :
    Removal × Queues Timer :=
  if (queues.select which).head? = some timer then
    (.head, queues.put (queues.select which).tail which)
  else if timer ∈ queues.select which then
    (.inside, queues.put ((queues.select which).erase timer) which)
  else
    (.absent, queues)

def pushDummy (queues : Queues Timer) : Option (Queues Timer) :=
  if queues.Outside .dummy then some { queues with pending := .dummy :: queues.pending } else none

def search (later : Node Timer -> Bool) (timer : Node Timer) (queues : Queues Timer) :
    Option (Bool × Queues Timer) :=
  let front := queues.pending.takeWhile (!later ·)
  if ¬ queues.Outside timer then none
  else if front = [] then some (true, queues)
  else
    let back := queues.pending.dropWhile (!later ·)
    some (false, { queues with pending := front ++ timer :: back })

def dropDummy (list : List (Node Timer)) : List (Node Timer) :=
  if list.head? = some .dummy then list.tail else list

def linkHead (timer : Node Timer) (queues : Queues Timer) : Option (Queues Timer) :=
  if queues.Outside timer then
    some { queues with pending := timer :: dropDummy queues.pending }
  else
    none

def expireHead (queues : Queues Timer) : Option (Queues Timer) :=
  match queues.pending with
  | [] => none
  | .dummy :: rest => some { queues with pending := rest }
  | .timer first :: rest => some { pending := rest, expired := queues.expired ++ [.timer first] }

def takeExpired (queues : Queues Timer) : Option (Node Timer × Queues Timer) :=
  match queues.expired with
  | [] => none
  | first :: rest => some (first, { queues with expired := rest })

instance : TimerLists (Queues Timer) Timer where
  head queues which := (queues.select which).head?
  clearNext := clearNext
  deleteFrom which timer queues := some (queues.deleteFrom which timer)
  pushDummy := pushDummy
  points queues := some queues.pending
  search := search
  linkHead := linkHead
  expireHead := expireHead
  takeExpired := takeExpired

end Queues

/-- The links are those of two lists without a common point. -/
structure Represents {Timer : Type} (links : Links Timer) (queues : Queues Timer) : Prop where
  path : ∀ which, Path links.next (links.head which) (queues.select which)
  disjoint : ∀ which other, which ≠ other ->
    (queues.select which).Disjoint (queues.select other)

namespace Represents

variable {Timer : Type} {links : Links Timer} {queues : Queues Timer}

theorem of_lists {pending expired : List (Node Timer)}
    (path : Path links.next links.schedulerListHead pending)
    (path' : Path links.next links.schedulerExecuteQueueHead expired)
    (disjoint : pending.Disjoint expired) : Represents links ⟨pending, expired⟩ where
  path which := by
    cases which
    · exact path
    · exact path'
  disjoint which other ne := by
    cases which <;> cases other
    · exact absurd rfl ne
    · exact disjoint
    · exact disjoint.symm
    · exact absurd rfl ne

theorem pending (represents : Represents links queues) :
    Path links.next links.schedulerListHead queues.pending :=
  represents.path .listHead

theorem expired (represents : Represents links queues) :
    Path links.next links.schedulerExecuteQueueHead queues.expired :=
  represents.path .executeQueueHead

theorem apart (represents : Represents links queues) : queues.pending.Disjoint queues.expired :=
  represents.disjoint .listHead .executeQueueHead (by decide)

theorem head_eq (represents : Represents links queues) (which : Selected) :
    links.head which = (queues.select which).head? :=
  path_head (represents.path which)

theorem put (represents : Represents links queues) {which : Selected} {links' : Links Timer}
    {list : List (Node Timer)} (path : Path links'.next (links'.head which) list)
    (fewer : list ⊆ queues.select which)
    (heads : ∀ other, other ≠ which -> links'.head other = links.head other)
    (same : ∀ other, other ≠ which -> ∀ node ∈ queues.select other,
      links'.next node = links.next node) :
    Represents links' (queues.put list which) where
  path other := by
    by_cases ne : other = which
    · simpa [ne] using path
    · rw [heads other ne, Queues.select_put_of_ne _ _ ne]
      exact path_congr (represents.path other) (same other ne)
  disjoint := by
    have kept : ∀ other, (queues.put list which).select other ⊆ queues.select other := by
      intro other
      by_cases ne : other = which
      · simpa [ne] using fewer
      · rw [Queues.select_put_of_ne _ _ ne]
        exact List.Subset.refl _
    exact fun one other ne _ inside inside' =>
      represents.disjoint one other ne (kept one inside) (kept other inside')

variable [DecidableEq Timer]

theorem clearNext (represents : Represents links queues) (timer : Node Timer) :
    Represents (links.setNext timer none) (queues.clearNext timer) :=
  of_lists (path_cut represents.pending) (path_cut represents.expired) fun _ one other =>
    represents.apart ((cutAfter_isPrefix _ _).subset one) ((cutAfter_isPrefix _ _).subset other)

theorem pushDummy (represents : Represents links queues) (outside : queues.Outside .dummy) :
    Represents links.pushDummy { queues with pending := .dummy :: queues.pending } :=
  of_lists (path_push represents.pending outside.1) (path_update represents.expired outside.2 _)
    (List.disjoint_cons_left.mpr ⟨outside.2, represents.apart⟩)

theorem linkHead (represents : Represents links queues) {timer : Node Timer}
    (outside : queues.Outside timer) :
    Represents (links.linkHead timer)
      { queues with pending := timer :: Queues.dropDummy queues.pending } := by
  have shorter : (Queues.dropDummy queues.pending).Sublist queues.pending := by
    unfold Queues.dropDummy
    split
    · exact List.tail_sublist _
    · exact List.Sublist.refl _
  have rest : Path links.next
      (if links.schedulerListHead = some .dummy then links.next .dummy
        else links.schedulerListHead) (Queues.dropDummy queues.pending) := by
    have path := represents.pending
    rw [Queues.dropDummy, ← path_head path]
    split
    · rename_i dummy
      cases list : queues.pending with
      | nil => cases dummy.symm.trans (path_head (list ▸ path))
      | cons first rest =>
        rw [list] at path
        obtain rfl : first = .dummy := Option.some.inj (path.1.symm.trans dummy)
        exact path.2
    · exact path
  apply of_lists (path_push rest fun inside => outside.1 (shorter.subset inside))
  · exact path_update represents.expired outside.2 _
  · refine List.disjoint_cons_left.mpr ⟨outside.2, fun _ one other => ?_⟩
    exact represents.apart (shorter.subset one) other

theorem takeExpired (represents : Represents links queues) {first : Node Timer}
    {rest : List (Node Timer)} (expired : queues.expired = first :: rest) :
    ∃ links', links.takeExpired = some (first, links') ∧
      Represents links' { queues with expired := rest } := by
  have path := represents.expired
  have apart := represents.apart
  rw [expired] at path apart
  refine ⟨Links.setNext first none
    { links with schedulerExecuteQueueHead := links.next first },
    by simp [Links.takeExpired, path.1], ?_⟩
  have outside : first ∉ rest := (List.nodup_cons.mp (path_nodup path)).1
  rw [List.disjoint_cons_right] at apart
  exact of_lists (path_update represents.pending apart.1 _) (path_update path.2 outside _) apart.2

variable [Fintype Timer]

theorem search (represents : Represents links queues) {later : Node Timer -> Bool}
    {timer : Node Timer} {atHead : Bool} {queues' : Queues Timer}
    (found : queues.search later timer = some (atHead, queues')) :
    ∃ links', links.search later timer = some (atHead, links') ∧ Represents links' queues' := by
  have walked := walk_path later represents.pending (path_length represents.pending) none
  simp only [Queues.search] at found
  split at found
  · cases found
  rename_i outside
  rw [not_not] at outside
  split at found
  · rename_i front
    obtain ⟨rfl, rfl⟩ := Prod.mk.inj (Option.some.inj found)
    rw [front] at walked
    exact ⟨links, by simp [Links.search, walked], represents⟩
  · rename_i front
    obtain ⟨rfl, rfl⟩ := Prod.mk.inj (Option.some.inj found)
    -- `prev` is the last timer that is not later.
    obtain ⟨first, prev, split⟩ := (List.eq_nil_or_concat' _).resolve_left front
    have list : queues.pending = first ++ prev :: queues.pending.dropWhile (!later ·) := by
      conv_lhs => rw [← List.takeWhile_append_dropWhile (p := (!later ·)) (l := queues.pending)]
      rw [split]
      simp
    have path := represents.pending
    rw [split] at walked
    refine ⟨(links.setNext timer (links.next prev)).setNext prev (some timer),
      by simp [Links.search, walked], of_lists ?_ ?_ ?_⟩
    · rw [split, List.append_assoc, List.singleton_append]
      rw [list] at path
      exact path_insert path (list ▸ outside.1)
    · have absent : prev ∉ queues.expired := represents.apart (by rw [list]; simp)
      exact path_update (path_update represents.expired outside.2 _) absent _
    · intro point one other
      rcases List.mem_append.mp one with inside | inside
      · exact represents.apart (List.takeWhile_subset _ inside) other
      · rcases List.mem_cons.mp inside with rfl | inside
        · exact outside.2 other
        · exact represents.apart ((List.dropWhile_sublist _).subset inside) other

theorem enqueueCallback (path : Path links.next links.schedulerExecuteQueueHead queues.expired)
    {timer : Node Timer} (outside : timer ∉ queues.expired) :
    ∃ links', links.enqueueCallback timer = some links' ∧
      Path links'.next links'.schedulerExecuteQueueHead (queues.expired ++ [timer]) ∧
      links'.schedulerListHead = links.schedulerListHead ∧
      ∀ point, point ≠ timer -> point ∉ queues.expired -> links'.next point = links.next point := by
  have cleared := path_update path outside none
  rcases List.eq_nil_or_concat' queues.expired with empty | ⟨front, last, split⟩
  · rw [empty] at path
    have head : links.schedulerExecuteQueueHead = none := path
    refine ⟨{ links.setNext timer none with schedulerExecuteQueueHead := some timer },
      by simp [Links.enqueueCallback, Links.setNext, head], ?_, rfl, fun point ne _ => ?_⟩
    · rw [empty]
      exact ⟨rfl, by simp [LinkedList.Path, Links.setNext]⟩
    · exact Function.update_of_ne ne _ _
  · rw [split] at path cleared outside
    obtain ⟨prev, walked⟩ := walk_end cleared (path_length cleared)
    have inserted := path_insert path outside
    rw [path_end path] at inserted
    cases head : links.schedulerExecuteQueueHead with
    | none =>
      rw [head] at path
      have empty := path_head path
      simp at empty
    | some tmp =>
      rw [head] at walked inserted
      refine ⟨(links.setNext timer none).setNext last (some timer),
        by simp [Links.enqueueCallback, Links.setNext, head, walked], ?_, rfl, ?_⟩
      · simpa [split, Links.setNext, head] using inserted
      · intro point ne absent
        have other : point ≠ last := fun same => absent (by rw [split, same]; simp)
        simp [Links.setNext, Function.update_of_ne other, Function.update_of_ne ne]

theorem expireHead (represents : Represents links queues) {queues' : Queues Timer}
    (expires : queues.expireHead = some queues') :
    ∃ links', links.expireHead = some links' ∧ Represents links' queues' := by
  have path := represents.pending
  have apart := represents.apart
  cases list : queues.pending with
  | nil => simp [Queues.expireHead, list] at expires
  | cons first rest =>
    rw [list] at path apart
    rw [List.disjoint_cons_left] at apart
    cases first with
    | dummy =>
      obtain rfl : _ = queues' := by simpa [Queues.expireHead, list] using expires
      exact ⟨{ links with schedulerListHead := links.next .dummy },
        by simp [Links.expireHead, path.1], of_lists path.2 represents.expired apart.2⟩
    | timer timer =>
      obtain rfl : _ = queues' := by simpa [Queues.expireHead, list] using expires
      obtain ⟨links', enqueued, queue, -, same⟩ := enqueueCallback represents.expired apart.1
      have outside := (List.nodup_cons.mp (path_nodup path)).1
      refine ⟨{ links' with schedulerListHead := links.next (.timer timer) },
        by simp [Links.expireHead, path.1, enqueued], of_lists ?_ queue ?_⟩
      · apply path_congr path.2
        intro point member
        exact same point (ne_of_mem_of_not_mem member outside) (apart.2 member)
      · intro point one other
        rcases List.mem_append.mp other with inside | inside
        · exact apart.2 one inside
        · exact outside (List.mem_singleton.mp inside ▸ one)

theorem deleteFrom (represents : Represents links queues) (which : Selected) (timer : Node Timer) :
    ∃ links', links.deleteFrom which timer = some ((queues.deleteFrom which timer).1, links') ∧
      Represents links' (queues.deleteFrom which timer).2 := by
  have path := represents.path which
  have head := represents.head_eq which
  by_cases first : (queues.select which).head? = some timer
  · obtain ⟨rest, list⟩ := List.head?_eq_some_iff.mp first
    refine ⟨links.setHead (links.next timer) which, ?_, ?_⟩
    · simp [Links.deleteFrom, Queues.deleteFrom, head, first]
    · rw [list] at path
      rw [Queues.deleteFrom, if_pos first, list]
      refine represents.put (by simpa using path.2) (by simp [list]) (fun other ne => ?_) ?_
      · exact Links.head_setHead_of_ne links _ ne
      · exact fun _ _ _ _ => by rw [Links.setHead_next]
  have notFirst : ¬ links.head which = some timer := by rwa [head]
  by_cases inside : timer ∈ queues.select which
  · obtain ⟨before, back, list⟩ := List.append_of_mem inside
    obtain ⟨front, prev, rfl⟩ := (List.eq_nil_or_concat' before).resolve_left fun empty => by
      simp [list, empty] at first
    rw [List.append_assoc, List.singleton_append] at list
    rw [list] at path
    have nodup := path_nodup path
    have erased : (queues.select which).erase timer = front ++ prev :: back := by
      have outside : timer ∉ front ++ [prev] := fun member => by
        rw [← List.singleton_append, ← List.append_assoc] at nodup
        exact (List.nodup_append.mp nodup).2.2 _ member _ (by simp) rfl
      have split : front ++ prev :: timer :: back = (front ++ [prev]) ++ timer :: back := by simp
      rw [list, split, List.erase_append_right _ outside]
      simp
    -- The loop stops with `prev` before the timer, and one link goes round it.
    refine ⟨links.setNext prev (links.next timer), ?_, ?_⟩
    · have walked := walk_inside path (path_length path)
      simp [Links.deleteFrom, Queues.deleteFrom, notFirst, first, inside, walked]
    · rw [Queues.deleteFrom, if_neg first, if_pos inside, erased]
      refine represents.put (path_unlink path) ?_ (fun _ _ => rfl) ?_
      · rw [← erased]
        exact List.erase_subset
      intro other ne node member
      refine Function.update_of_ne (fun same => ?_) _ _
      exact represents.disjoint other which ne member (by simp [same, list])
  · obtain ⟨last, walked⟩ := walk_absent path inside (path_length path)
    refine ⟨links, ?_, ?_⟩
    · simp [Links.deleteFrom, Queues.deleteFrom, notFirst, first, inside, walked]
    · simpa [Queues.deleteFrom, first, inside] using represents

end Represents

namespace Scheduler

variable {Lists Other Timer : Type}

def withLists (state : Scheduler Lists Timer) (lists : Other) : Scheduler Other Timer where
  lists := lists
  absoluteTime := state.absoluteTime
  absoluteTimeOfLastTimeout := state.absoluteTimeOfLastTimeout
  lastTimerLoad := state.lastTimerLoad
  isRunning := state.isRunning
  count := state.count
  overflow := state.overflow
  interruptEnabled := state.interruptEnabled
  callbacks := state.callbacks

/-- The states of the code and of the abstract model that only differ in how the lists are kept. -/
def Related (linked : Scheduler (Links Timer) Timer) (queued : Scheduler (Queues Timer) Timer) :
    Prop :=
  ∃ queues, Represents linked.lists queues ∧ queued = linked.withLists queues

abbrev Follows {Result : Type} (left : Code (Links Timer) Timer Result)
    (right : Code (Queues Timer) Timer Result) : Prop :=
  Simulates Related left right

section

variable {Result : Type}

theorem follows_ite {condition : Prop} [Decidable condition]
    {left left' : Code (Links Timer) Timer Result} {right right' : Code (Queues Timer) Timer Result}
    (yes : Follows left right) (no : Follows left' right') :
    Follows (if condition then left else left') (if condition then right else right') := by
  split
  · exact yes
  · exact no

theorem follows_emit {left : Scheduler (Links Timer) Timer -> Scheduler (Links Timer) Timer}
    {right : Scheduler (Queues Timer) Timer -> Scheduler (Queues Timer) Timer}
    {events : List (SchedulerEvent Timer)}
    (same : ∀ linked queues, Represents linked.lists queues ->
      Related (left linked) (right (linked.withLists queues))) :
    Follows (.emit fun state => (left state, events)) (.emit fun state => (right state, events)) := by
  apply simulates_emit
  rintro linked _ ⟨queues, represents, rfl⟩
  exact ⟨same linked queues represents, rfl⟩

theorem follows_report
    {left : Scheduler (Links Timer) Timer -> Result × List (SchedulerEvent Timer)}
    {right : Scheduler (Queues Timer) Timer -> Result × List (SchedulerEvent Timer)}
    (same : ∀ linked queues, Represents linked.lists queues ->
      left linked = right (linked.withLists queues)) :
    Follows (.report left) (.report right) := by
  apply simulates_report
  rintro linked _ ⟨queues, represents, rfl⟩
  exact same linked queues represents

theorem follows_attempt
    {left : Scheduler (Links Timer) Timer ->
      Option (Result × Scheduler (Links Timer) Timer × List (SchedulerEvent Timer))}
    {right : Scheduler (Queues Timer) Timer ->
      Option (Result × Scheduler (Queues Timer) Timer × List (SchedulerEvent Timer))}
    (same : ∀ linked queues, Represents linked.lists queues -> ∀ result next events,
      right (linked.withLists queues) = some (result, next, events) ->
        ∃ linked', left linked = some (result, linked', events) ∧ Related linked' next) :
    Follows (.attempt left) (.attempt right) := by
  apply simulates_attempt
  rintro linked _ ⟨queues, represents, rfl⟩
  exact same linked queues represents

end

theorem follows_maskInterrupt (events : List (SchedulerEvent Timer)) :
    Follows (maskInterrupt events : Code (Links Timer) Timer Unit) (maskInterrupt events) :=
  follows_emit fun _ queues represents => ⟨queues, represents, rfl⟩

theorem follows_disableInterrupt :
    Follows (disableInterrupt : Code (Links Timer) Timer Unit) disableInterrupt :=
  follows_maskInterrupt []

theorem follows_enableInterrupt :
    Follows (enableInterrupt : Code (Links Timer) Timer Unit) enableInterrupt :=
  follows_emit fun _ queues represents => ⟨queues, represents, rfl⟩

theorem follows_stopTimeouts :
    Follows (stopTimeouts : Code (Links Timer) Timer Unit) stopTimeouts :=
  simulates_bind follows_disableInterrupt fun _ =>
    follows_emit fun _ queues represents => ⟨queues, represents, rfl⟩

theorem follows_setTimerDuration (duration : UInt32) :
    Follows (setTimerDuration duration : Code (Links Timer) Timer Unit)
      (setTimerDuration duration) := by
  refine simulates_bind (follows_emit fun _ queues represents => ⟨queues, represents, rfl⟩) ?_
  intro _
  apply simulates_emit
  rintro linked _ ⟨queues, represents, rfl⟩
  exact ⟨⟨queues, represents, rfl⟩, rfl⟩

theorem follows_makeAbsolute (timeout : UInt32) :
    Follows (makeAbsolute timeout : Code (Links Timer) Timer UInt32) (makeAbsolute timeout) := by
  apply simulates_bind (follows_report fun _ _ _ => rfl)
  intro last
  refine simulates_bind (follows_report fun _ _ _ => rfl) fun running => follows_ite ?_ ?_
  · apply simulates_bind (follows_report fun _ _ _ => rfl)
    intro count
    apply simulates_bind (follows_report fun _ _ _ => rfl)
    intro timerVal
    exact follows_report fun _ _ _ => rfl
  · exact follows_report fun _ _ _ => rfl

variable [DecidableEq Timer] [Fintype Timer]

theorem follows_rebaseList :
    Follows (rebaseList : Code (Links Timer) Timer UInt32) rebaseList := by
  refine simulates_bind (follows_makeAbsolute 0) fun base => simulates_bind ?_ fun _ => rfl
  apply follows_attempt
  intro linked queues represents _ next events returns
  obtain ⟨rfl, rfl⟩ := Prod.mk.inj (Prod.mk.inj (Option.some.inj returns)).2
  have points := points_path represents.pending (path_length represents.pending)
  simp only [TimerLists.points, points]
  exact ⟨_, rfl, queues, represents, rfl⟩

theorem follows_rebaseFor (timer : Node Timer) (timerAbsoluteTime : UInt32) :
    Follows (rebaseFor timer timerAbsoluteTime : Code (Links Timer) Timer Unit)
      (rebaseFor timer timerAbsoluteTime) := by
  refine simulates_bind (follows_report fun _ _ _ => rfl) fun last => follows_ite ?_ rfl
  apply simulates_bind follows_rebaseList
  intro base
  exact follows_emit fun _ queues represents => ⟨queues, represents, rfl⟩

theorem follows_clearNext (timer : Node Timer) (events : List (SchedulerEvent Timer)) :
    Follows
      (.emit fun state : Scheduler (Links Timer) Timer =>
        ({ state with lists := TimerLists.clearNext timer state.lists }, events))
      (.emit fun state => ({ state with lists := TimerLists.clearNext timer state.lists }, events)) :=
  follows_emit fun _ queues represents =>
    ⟨queues.clearNext timer, represents.clearNext timer, rfl⟩

theorem follows_sortedInsert (timer : Node Timer) :
    Follows (sortedInsert timer : Code (Links Timer) Timer Bool) (sortedInsert timer) := by
  apply simulates_bind (follows_report fun _ _ _ => rfl)
  intro timerAbsoluteTime
  apply simulates_bind (follows_clearNext timer [])
  intro _
  apply simulates_bind (follows_rebaseFor timer timerAbsoluteTime)
  intro _
  refine simulates_bind ?_ fun atHead => follows_ite ?_ rfl
  · apply follows_attempt
    intro linked queues represents _ next events returns
    simp only [Option.bind_eq_bind, Option.bind_eq_some_iff, Prod.exists] at returns
    obtain ⟨atHead, queues', found, returns⟩ := returns
    obtain ⟨rfl, same⟩ := Prod.mk.inj (Option.some.inj returns)
    obtain ⟨rfl, rfl⟩ := Prod.mk.inj same
    obtain ⟨links', searched, represents'⟩ := represents.search found
    refine ⟨{ linked with lists := links' }, ?_, queues', represents', rfl⟩
    exact Option.bind_eq_some_iff.mpr ⟨_, searched, rfl⟩
  · apply simulates_bind (follows_setTimerDuration 65535)
    intro _
    refine simulates_bind (follows_emit fun _ queues represents => ⟨queues, represents, rfl⟩) ?_
    intro _
    apply follows_attempt
    intro linked queues represents _ next events returns
    simp only [Option.bind_eq_bind, Option.bind_eq_some_iff] at returns
    obtain ⟨queues', linking, returns⟩ := returns
    obtain ⟨rfl, same⟩ := Prod.mk.inj (Option.some.inj returns)
    obtain ⟨rfl, rfl⟩ := Prod.mk.inj same
    simp only [TimerLists.linkHead, Queues.linkHead, Option.ite_none_right_eq_some,
      Option.some.injEq] at linking
    obtain ⟨outside, rfl⟩ := linking
    exact ⟨_, rfl, _, represents.linkHead outside, rfl⟩

theorem follows_approachHead :
    Follows (.attempt approachHead : Code (Links Timer) Timer (Option UInt32))
      (.attempt approachHead) := by
  apply follows_attempt
  intro linked queues represents _ next events returns
  have same : TimerLists.head linked.lists .listHead = queues.pending.head? :=
    represents.head_eq .listHead
  have same' : TimerLists.head (linked.withLists queues).lists .listHead = queues.pending.head? :=
    rfl
  cases first : queues.pending.head? with
  | none =>
    simp only [approachHead, same, same', first] at returns ⊢
    obtain ⟨rfl, same⟩ := Prod.mk.inj (Option.some.inj returns)
    obtain ⟨rfl, rfl⟩ := Prod.mk.inj same
    exact ⟨_, rfl, queues, represents, rfl⟩
  | some head =>
    simp only [approachHead, same, same', first] at returns ⊢
    by_cases far : linked.absoluteTime head - linked.absoluteTimeOfLastTimeout > 65535
    · have far' : (linked.withLists queues).absoluteTime head -
          (linked.withLists queues).absoluteTimeOfLastTimeout > 65535 := far
      rw [if_pos far'] at returns
      rw [if_pos far]
      simp only [Option.bind_eq_bind, Option.bind_eq_some_iff] at returns
      obtain ⟨queues', pushed, returns⟩ := returns
      obtain ⟨rfl, same⟩ := Prod.mk.inj (Option.some.inj returns)
      obtain ⟨rfl, rfl⟩ := Prod.mk.inj same
      simp only [TimerLists.pushDummy, Queues.pushDummy, Option.ite_none_right_eq_some,
        Option.some.injEq] at pushed
      obtain ⟨outside, rfl⟩ := pushed
      exact ⟨_, rfl, _, represents.pushDummy outside, rfl⟩
    · have near : ¬ (linked.withLists queues).absoluteTime head -
          (linked.withLists queues).absoluteTimeOfLastTimeout > 65535 := far
      rw [if_neg near] at returns
      rw [if_neg far]
      obtain ⟨rfl, same⟩ := Prod.mk.inj (Option.some.inj returns)
      obtain ⟨rfl, rfl⟩ := Prod.mk.inj same
      exact ⟨_, rfl, queues, represents, rfl⟩

theorem follows_startTimerAtHead :
    Follows (startTimerAtHead : Code (Links Timer) Timer Unit) startTimerAtHead := by
  refine simulates_bind follows_disableInterrupt fun _ => simulates_bind follows_approachHead ?_
  intro period
  cases period with
  | none => exact follows_stopTimeouts
  | some period =>
    apply simulates_bind (follows_setTimerDuration period)
    intro _
    apply simulates_bind follows_enableInterrupt
    intro _
    exact follows_emit fun _ queues represents => ⟨queues, represents, rfl⟩

theorem follows_afterRemoval (removal : Removal) :
    Follows (afterRemoval removal : Code (Links Timer) Timer Unit) (afterRemoval removal) :=
  follows_ite follows_startTimerAtHead follows_enableInterrupt

theorem follows_timeoutDeleteHelper (list : Selected) (timer : Node Timer) :
    Follows (timeoutDeleteHelper list timer : Code (Links Timer) Timer Bool)
      (timeoutDeleteHelper list timer) := by
  refine simulates_bind (follows_report fun linked queues represents => ?_) fun empty =>
    follows_ite rfl ?_
  · exact congrArg (fun head : Option (Node Timer) => (head.isNone, []))
      (represents.head_eq list)
  · refine simulates_bind (follows_maskInterrupt _) fun _ => simulates_bind ?_ fun removal => ?_
    · apply follows_attempt
      intro linked queues represents _ next events returns
      obtain ⟨rfl, same⟩ := Prod.mk.inj (Option.some.inj returns)
      obtain ⟨rfl, rfl⟩ := Prod.mk.inj same
      obtain ⟨links', deleted, represents'⟩ := represents.deleteFrom list timer
      exact ⟨_, Option.bind_eq_some_iff.mpr ⟨_, deleted, rfl⟩, _, represents', rfl⟩
    · exact simulates_bind (follows_afterRemoval removal) fun _ => rfl

theorem follows_deleteFromLists (timer : Node Timer) :
    Follows (deleteFromLists timer : Code (Links Timer) Timer Unit) (deleteFromLists timer) := by
  refine simulates_bind (follows_timeoutDeleteHelper .listHead timer) fun found => follows_ite rfl ?_
  exact simulates_bind (follows_timeoutDeleteHelper .executeQueueHead timer) fun _ => rfl

theorem follows_timeoutDelete (timer : Node Timer) :
    Follows (timeoutDelete timer : Code (Links Timer) Timer Unit) (timeoutDelete timer) :=
  simulates_bind (follows_deleteFromLists timer) fun _ => follows_clearNext timer _

theorem follows_timeoutCreate (timer : Node Timer) (timeout : UInt32) :
    Follows (timeoutCreate timer timeout : Code (Links Timer) Timer Unit)
      (timeoutCreate timer timeout) := by
  refine simulates_bind (follows_emit fun _ queues represents => ⟨queues, represents, rfl⟩) ?_
  intro _
  apply simulates_bind (follows_timeoutDelete timer)
  intro _
  apply simulates_bind follows_disableInterrupt
  intro _
  apply simulates_bind (follows_makeAbsolute timeout)
  intro absoluteTime
  refine simulates_bind (follows_emit fun _ queues represents => ⟨queues, represents, rfl⟩) ?_
  intro _
  apply simulates_bind (follows_sortedInsert timer)
  intro atHead
  apply follows_ite follows_startTimerAtHead
  apply simulates_bind (follows_report fun _ _ _ => rfl)
  intro running
  exact follows_ite follows_enableInterrupt rfl

theorem follows_timeoutCallNextCallback :
    Follows (timeoutCallNextCallback : Code (Links Timer) Timer Unit) timeoutCallNextCallback := by
  refine simulates_bind (follows_report fun linked queues represents => ?_) fun empty =>
    follows_ite rfl ?_
  · exact congrArg (fun head : Option (Node Timer) => (head.isNone, []))
      (represents.head_eq .executeQueueHead)
  apply simulates_bind (follows_report fun _ _ _ => rfl)
  intro tempIE
  refine simulates_bind (follows_maskInterrupt _) fun _ => simulates_bind ?_ fun taken => ?_
  · apply follows_attempt
    intro linked queues represents _ next events returns
    simp only [Option.bind_eq_bind, Option.bind_eq_some_iff, Prod.exists] at returns
    obtain ⟨first, queues', takes, returns⟩ := returns
    obtain ⟨rfl, same⟩ := Prod.mk.inj (Option.some.inj returns)
    obtain ⟨rfl, rfl⟩ := Prod.mk.inj same
    cases expired : queues.expired with
    | nil => simp [TimerLists.takeExpired, Queues.takeExpired, withLists, expired] at takes
    | cons first' rest =>
      obtain ⟨rfl, rfl⟩ : first' = first ∧ { queues with expired := rest } = queues' := by
        simpa [TimerLists.takeExpired, Queues.takeExpired, withLists, expired] using takes
      obtain ⟨links', taken, represents'⟩ := represents.takeExpired expired
      exact ⟨_, Option.bind_eq_some_iff.mpr ⟨_, taken, rfl⟩, _, represents', rfl⟩
  refine simulates_bind (follows_ite follows_enableInterrupt rfl) fun _ => ?_
  cases taken with
  | timer timer => exact follows_emit fun _ queues represents => ⟨queues, represents, rfl⟩
  | dummy => rfl

theorem follows_callbackReturns (reschedule : UInt32) :
    Follows (callbackReturns reschedule : Code (Links Timer) Timer Unit)
      (callbackReturns reschedule) := by
  apply simulates_bind (follows_report fun _ _ _ => rfl)
  intro callback
  cases callback with
  | none => rfl
  | some timer =>
    refine simulates_bind (follows_emit fun _ queues represents => ⟨queues, represents, rfl⟩) ?_
    intro _
    exact follows_ite (follows_timeoutCreate (.timer timer) reschedule) rfl

theorem follows_flushLoop (list : Selected) (bound : Nat) :
    Follows (flushLoop list bound : Code (Links Timer) Timer Unit) (flushLoop list bound) := by
  induction bound with
  | zero => rfl
  | succ bound ih =>
    refine simulates_bind (follows_report fun linked queues represents => ?_) fun head => ?_
    · exact congrArg (·, []) (represents.head_eq list)
    · cases head with
      | none => rfl
      | some timer => exact simulates_bind (follows_timeoutDelete timer) fun _ => ih

theorem follows_rtcCntVect :
    Follows (rtcCntVect : Code (Links Timer) Timer Unit) rtcCntVect := by
  refine simulates_bind ?_ fun _ => simulates_bind follows_startTimerAtHead fun _ =>
    follows_emit fun _ queues represents => ⟨queues, represents, rfl⟩
  apply follows_attempt
  intro linked queues represents _ next events returns
  simp only [Option.bind_eq_bind, Option.bind_eq_some_iff] at returns
  obtain ⟨head, first, queues', expires, returns⟩ := returns
  obtain ⟨rfl, same⟩ := Prod.mk.inj (Option.some.inj returns)
  obtain ⟨rfl, rfl⟩ := Prod.mk.inj same
  obtain ⟨links', expired, represents'⟩ := represents.expireHead expires
  have first' : TimerLists.head linked.lists .listHead = some head :=
    (represents.head_eq .listHead).trans first
  have reset : Related
      { linked with
        lists := links'
        absoluteTimeOfLastTimeout := linked.absoluteTime head
        lastTimerLoad := 0 } _ := ⟨queues', represents', rfl⟩
  refine ⟨_, Option.bind_eq_some_iff.mpr ⟨_, first', ?_⟩, reset⟩
  exact Option.bind_eq_some_iff.mpr ⟨_, expired, rfl⟩

theorem system_simulates :
    SystemSimulates Related (system : System (Scheduler (Links Timer) Timer) _ _ _) system where
  program entry := by
    cases entry with
    | create timer timeout => exact follows_timeoutCreate (.timer timer) timeout
    | delete timer => exact follows_timeoutDelete (.timer timer)
    | callNextCallback => exact follows_timeoutCallNextCallback
    | callbackReturns reschedule => exact follows_callbackReturns reschedule
    | flushAll bound =>
      apply simulates_bind follows_stopTimeouts
      intro _
      exact simulates_bind (follows_flushLoop .listHead bound) fun _ =>
        follows_flushLoop .executeQueueHead bound
  handler := follows_rtcCntVect
  device linked queued input related := by
    obtain ⟨queues, represents, rfl⟩ := related
    cases input <;> exact ⟨⟨queues, represents, rfl⟩, rfl⟩

end Scheduler

end AvrVoiceControl
