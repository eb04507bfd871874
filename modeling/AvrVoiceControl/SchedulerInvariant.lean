import AvrVoiceControl.SchedulerJournal
import Mathlib.Data.List.Nodup

set_option autoImplicit false

namespace AvrVoiceControl

open Interrupts LinkedList

variable {Timer : Type}

theorem Queues.deleteFrom_eq [DecidableEq Timer] (queues : Queues Timer) (which : Selected)
    (timer : Node Timer) :
    (queues.deleteFrom which timer).2 = queues.put ((queues.select which).erase timer) which := by
  unfold Queues.deleteFrom
  split
  · rename_i first
    obtain ⟨rest, list⟩ := List.head?_eq_some_iff.mp first
    simp [list]
  split
  · rfl
  · rename_i absent
    rw [List.erase_of_not_mem absent]
    cases which <;> rfl

theorem Queues.expireHead_subset {queues queues' : Queues Timer}
    (expires : queues.expireHead = some queues') :
    queues'.pending ⊆ queues.pending ∧ queues'.expired ⊆ queues.expired ++ queues.pending := by
  cases list : queues.pending with
  | nil => simp [Queues.expireHead, list] at expires
  | cons first rest =>
    cases first with
    | dummy =>
      obtain rfl : _ = queues' := by simpa [Queues.expireHead, list] using expires
      exact ⟨List.subset_cons_self _ _, List.subset_append_left _ _⟩
    | timer timer =>
      obtain rfl : _ = queues' := by simpa [Queues.expireHead, list] using expires
      exact ⟨List.subset_cons_self _ _, by simp⟩

section Delete

variable [DecidableEq Timer] (queues : Queues Timer) (which : Selected) (timer : Node Timer)

theorem Queues.deleteFrom_sublist :
    (queues.deleteFrom which timer).2.pending.Sublist queues.pending := by
  rw [queues.deleteFrom_eq]
  cases which
  · exact List.erase_sublist
  · exact List.Sublist.refl _

theorem Queues.deleteFrom_head (kept : (queues.deleteFrom which timer).1 = .head ->
      which = .executeQueueHead) :
    (queues.deleteFrom which timer).2.pending.head? = queues.pending.head? := by
  rw [queues.deleteFrom_eq]
  cases which with
  | executeQueueHead => rfl
  | listHead =>
    have other : queues.pending.head? ≠ some timer := fun first => by
      simp [Queues.deleteFrom, Queues.select, first] at kept
    change (queues.pending.erase timer).head? = _
    cases list : queues.pending with
    | nil => rfl
    | cons first rest =>
      have ne : first ≠ timer := fun same => other (by simp [list, same])
      rw [List.erase_cons_tail (by simpa using ne)]
      rfl

theorem Queues.deleteFrom_first :
    (queues.deleteFrom which timer).1 = .head ↔ (queues.select which).head? = some timer := by
  unfold Queues.deleteFrom
  split
  · simp_all
  · split <;> simp_all

theorem Queues.deleteFrom_found :
    (queues.deleteFrom which timer).1 ≠ .absent ↔ timer ∈ queues.select which := by
  unfold Queues.deleteFrom
  split
  · rename_i first
    simpa using List.mem_of_head? first
  · split <;> simp_all

end Delete

/-- The dummy is in the list once at most, at its head, and never in the queue; a timer is in at
most one of the two. -/
structure Shape (queues : Queues Timer) : Prop where
  pending : queues.pending.Nodup
  expired : queues.expired.Nodup
  apart : queues.pending.Disjoint queues.expired
  dummyFirst : .dummy ∉ queues.pending.tail
  noDummy : .dummy ∉ queues.expired

namespace Shape

variable {queues : Queues Timer} {timer : Node Timer}

theorem sublist (shape : Shape queues) {pending expired : List (Node Timer)}
    (fewer : pending.Sublist queues.pending) (fewer' : expired.Sublist queues.expired) :
    Shape ⟨pending, expired⟩ where
  pending := shape.pending.sublist fewer
  expired := shape.expired.sublist fewer'
  apart := fun _ one other => shape.apart (fewer.subset one) (fewer'.subset other)
  dummyFirst := fun inside => shape.dummyFirst (fewer.tail.subset inside)
  noDummy := fun inside => shape.noDummy (fewer'.subset inside)

theorem pushDummy (shape : Shape queues) (outside : queues.Outside .dummy) :
    Shape { queues with pending := .dummy :: queues.pending } where
  pending := List.nodup_cons.mpr ⟨outside.1, shape.pending⟩
  expired := shape.expired
  apart := List.disjoint_cons_left.mpr ⟨outside.2, shape.apart⟩
  dummyFirst := outside.1
  noDummy := outside.2

theorem unchanged_clearNext [DecidableEq Timer] (outside : queues.Outside timer) :
    queues.clearNext timer = queues :=
  congrArg₂ Queues.mk (cutAfter_of_notMem outside.1) (cutAfter_of_notMem outside.2)

theorem insert (shape : Shape queues) {front back : List (Node Timer)}
    (list : queues.pending = front ++ back) (behind : front ≠ []) (outside : queues.Outside timer)
    (real : timer ≠ .dummy) : Shape { queues with pending := front ++ timer :: back } where
  pending := by
    have nodup := shape.pending
    have absent := outside.1
    rw [list] at nodup absent
    rw [List.nodup_middle]
    exact List.nodup_cons.mpr ⟨absent, nodup⟩
  expired := shape.expired
  apart := by
    intro node one other
    rcases List.mem_append.mp one with inside | inside
    · exact shape.apart (by simp [list, inside]) other
    · rcases List.mem_cons.mp inside with rfl | inside
      · exact outside.2 other
      · exact shape.apart (by simp [list, inside]) other
  dummyFirst := by
    obtain ⟨first, rest, rfl⟩ := List.exists_cons_of_ne_nil behind
    have later := shape.dummyFirst
    rw [list] at later
    simp only [List.cons_append, List.tail_cons, List.mem_append, List.mem_cons, not_or] at later ⊢
    exact ⟨later.1, real.symm, later.2⟩
  noDummy := shape.noDummy

theorem expireHead (shape : Shape queues) {queues' : Queues Timer}
    (expires : queues.expireHead = some queues') : Shape queues' := by
  cases list : queues.pending with
  | nil => simp [Queues.expireHead, list] at expires
  | cons first rest =>
    have fewer : rest.Sublist queues.pending := by simp [list]
    have smaller := shape.sublist fewer (List.Sublist.refl queues.expired)
    cases first with
    | dummy =>
      obtain rfl : _ = queues' := by simpa [Queues.expireHead, list] using expires
      exact smaller
    | timer timer =>
      obtain rfl : _ = queues' := by simpa [Queues.expireHead, list] using expires
      have pending := shape.pending
      have apart := shape.apart
      rw [list] at pending apart
      rw [List.disjoint_cons_left] at apart
      refine ⟨smaller.pending, ?_, ?_, smaller.dummyFirst, ?_⟩
      · simpa [List.nodup_append] using ⟨shape.expired, fun _ inside same => apart.1 (same ▸ inside)⟩
      · intro node one other
        rcases List.mem_append.mp other with inside | inside
        · exact apart.2 one inside
        · exact (List.nodup_cons.mp pending).1 (List.mem_singleton.mp inside ▸ one)
      · simpa using shape.noDummy

variable [DecidableEq Timer]

theorem clearNext (shape : Shape queues) (timer : Node Timer) : Shape (queues.clearNext timer) :=
  shape.sublist (cutAfter_isPrefix _ _).sublist (cutAfter_isPrefix _ _).sublist

theorem dropDummy_sublist (list : List (Node Timer)) : (Queues.dropDummy list).Sublist list := by
  unfold Queues.dropDummy
  split
  · exact List.tail_sublist _
  · exact List.Sublist.refl _

theorem mem_dropDummy {list : List (Node Timer)} {node : Node Timer} (inside : node ∈ list)
    (real : node ≠ .dummy) : node ∈ Queues.dropDummy list := by
  unfold Queues.dropDummy
  split
  · rename_i dummy
    obtain ⟨rest, rfl⟩ := List.head?_eq_some_iff.mp dummy
    exact (List.mem_cons.mp inside).resolve_left real
  · exact inside

theorem notMem_dropDummy (shape : Shape queues) : .dummy ∉ Queues.dropDummy queues.pending := by
  unfold Queues.dropDummy
  split
  · exact shape.dummyFirst
  · rename_i other
    intro inside
    cases list : queues.pending with
    | nil => simp [list] at inside
    | cons first rest =>
      have later := shape.dummyFirst
      rw [list] at inside other later
      rcases List.mem_cons.mp inside with rfl | inside
      · exact other rfl
      · exact later inside

theorem linkHead (shape : Shape queues) (outside : queues.Outside timer) :
    Shape { queues with pending := timer :: Queues.dropDummy queues.pending } where
  pending := List.nodup_cons.mpr ⟨fun inside =>
    outside.1 ((dropDummy_sublist _).subset inside), shape.pending.sublist (dropDummy_sublist _)⟩
  expired := shape.expired
  apart := List.disjoint_cons_left.mpr ⟨outside.2, fun _ one other =>
    shape.apart ((dropDummy_sublist _).subset one) other⟩
  dummyFirst := shape.notMem_dropDummy
  noDummy := shape.noDummy

theorem deleteFrom (shape : Shape queues) (which : Selected) (timer : Node Timer) :
    Shape (queues.deleteFrom which timer).2 := by
  rw [queues.deleteFrom_eq]
  cases which
  · exact shape.sublist List.erase_sublist (List.Sublist.refl _)
  · exact shape.sublist (List.Sublist.refl _) List.erase_sublist

theorem deleteFrom_of_mem (shape : Shape queues) {which : Selected}
    (inside : timer ∈ queues.select which) :
    (queues.deleteFrom which timer).2 =
      ⟨Journal.without timer queues.pending, Journal.without timer queues.expired⟩ := by
  have kept : ∀ {list : List (Node Timer)}, timer ∉ list -> Journal.without timer list = list := by
    intro list absent
    apply List.filter_eq_self.mpr
    intro node member
    simpa using ne_of_mem_of_not_mem member absent
  have filtered : ∀ {list : List (Node Timer)}, list.Nodup ->
      list.erase timer = Journal.without timer list := by
    intro list nodup
    rw [nodup.erase_eq_filter]
    exact List.filter_congr fun node _ => by by_cases same : node = timer <;> simp [same]
  rw [queues.deleteFrom_eq]
  cases which
  · exact congrArg₂ Queues.mk (filtered shape.pending) (kept (shape.apart inside)).symm
  · exact congrArg₂ Queues.mk (kept fun one => shape.apart one inside).symm (filtered shape.expired)

theorem outside_deleteFrom (shape : Shape queues) {which : Selected}
    (inside : timer ∈ queues.select which) : (queues.deleteFrom which timer).2.Outside timer := by
  rw [shape.deleteFrom_of_mem inside]
  simp [Queues.Outside, Journal.without]

end Shape

theorem dummy_time {time last : UInt32} (above : last.toNat ≤ time.toNat)
    (far : time - last > 65535) :
    (last + 65535).toNat = last.toNat + 65535 ∧ (last + 65535).toNat < time.toNat := by
  have bound := time.toNat_lt
  have distance : 65535 < (time - last).toNat := UInt32.lt_iff_toNat_lt.mp far
  rw [UInt32.toNat_sub_of_le _ _ (UInt32.le_iff_toNat_le.mpr above)] at distance
  have sum : (last + 65535).toNat = (last.toNat + 65535) % 2 ^ 32 := UInt32.toNat_add _ _
  omega

def Before (active : List (Node Timer)) (absoluteTime : Node Timer -> UInt32)
    (one other : Node Timer) : Prop :=
  (absoluteTime one).toNat < (absoluteTime other).toNat ∨
    (absoluteTime one).toNat = (absoluteTime other).toNat ∧
      (one = .dummy ∨ [one, other].Sublist active)

theorem Before.le {active : List (Node Timer)} {absoluteTime : Node Timer -> UInt32}
    {one other : Node Timer} (before : Before active absoluteTime one other) :
    (absoluteTime one).toNat ≤ (absoluteTime other).toNat :=
  before.elim Nat.le_of_lt fun same => Nat.le_of_eq same.1

/-- The lists are those of the journal, the pending timers by time and then by age. -/
structure Tracked (active queue : List (Node Timer)) (orderly : Bool) (queues : Queues Timer)
    (absoluteTime : Node Timer -> UInt32) (last : UInt32) : Prop where
  same : ∀ timer, timer ≠ .dummy -> (timer ∈ queues.pending ↔ timer ∈ active)
  once : active.Nodup
  real : .dummy ∉ active
  fifo : queues.expired = queue
  sorted : queues.pending.Pairwise (Before active absoluteTime)
  above : ∀ timer ∈ queues.pending, last.toNat ≤ (absoluteTime timer).toNat
  orderly : orderly = true

namespace Tracked

variable {active queue : List (Node Timer)} {orderly : Bool} {queues : Queues Timer}
  {absoluteTime : Node Timer -> UInt32} {last : UInt32} {timer : Node Timer}

theorem head_le (tracked : Tracked active queue orderly queues absoluteTime last)
    {first : Node Timer} {rest : List (Node Timer)} (list : queues.pending = first :: rest) :
    ∀ other ∈ queues.pending, (absoluteTime first).toNat ≤ (absoluteTime other).toNat := by
  have sorted := tracked.sorted
  rw [list] at sorted ⊢
  intro other member
  rcases List.mem_cons.mp member with rfl | member
  · exact Nat.le_refl _
  · exact ((List.pairwise_cons.mp sorted).1 other member).le

theorem absent (tracked : Tracked active queue orderly queues absoluteTime last)
    (outside : queues.Outside timer) : timer ∉ active ∧ timer ∉ queue := by
  refine ⟨fun inside => ?_, tracked.fifo ▸ outside.2⟩
  by_cases dummy : timer = .dummy
  · exact tracked.real (dummy ▸ inside)
  · exact outside.1 ((tracked.same timer dummy).mpr inside)

theorem before_mono {newer : List (Node Timer)} (longer : active.Sublist newer)
    {one other : Node Timer} (before : Before active absoluteTime one other) :
    Before newer absoluteTime one other :=
  before.imp_right fun same => ⟨same.1, same.2.imp_right fun older => older.trans longer⟩

theorem before_congr {older newer : List (Node Timer)} {times times' : Node Timer -> UInt32}
    {one other : Node Timer} {base : Nat} (before : Before older times one other)
    (longer : one ≠ .dummy -> [one, other].Sublist older -> [one, other].Sublist newer)
    (here : (times' one).toNat + base = (times one).toNat)
    (there : (times' other).toNat + base = (times other).toNat) :
    Before newer times' one other := by
  rcases before with sooner | ⟨equal, age⟩
  · exact .inl (by omega)
  · refine .inr ⟨by omega, ?_⟩
    by_cases dummy : one = .dummy
    · exact .inl dummy
    · exact age.imp_right (longer dummy)

theorem rebase (tracked : Tracked active queue orderly queues absoluteTime last)
    {times : Node Timer -> UInt32} {last' : UInt32} {base : Nat}
    (moved : ∀ node ∈ queues.pending, (times node).toNat + base = (absoluteTime node).toNat)
    (moved' : last'.toNat + base = last.toNat) :
    Tracked active queue orderly queues times last' where
  same := tracked.same
  once := tracked.once
  real := tracked.real
  fifo := tracked.fifo
  sorted := tracked.sorted.imp_of_mem fun one other before =>
    before_congr before (fun _ age => age) (moved _ one) (moved _ other)
  above node member := by
    have above := tracked.above node member
    have time := moved node member
    omega
  orderly := tracked.orderly

theorem expireDummy (tracked : Tracked active queue orderly queues absoluteTime last)
    {rest : List (Node Timer)} (list : queues.pending = .dummy :: rest) :
    Tracked active queue orderly { queues with pending := rest } absoluteTime
      (absoluteTime .dummy) where
  same node ne := by simpa [list, ne] using tracked.same node ne
  once := tracked.once
  real := tracked.real
  fifo := tracked.fifo
  sorted := (List.pairwise_cons.mp (list ▸ tracked.sorted)).2
  above node member := tracked.head_le list node (list ▸ List.mem_cons_of_mem _ member)
  orderly := tracked.orderly

variable [DecidableEq Timer]

theorem setTime (tracked : Tracked active queue orderly queues absoluteTime last)
    (outside : timer ∉ queues.pending) (time : UInt32) :
    Tracked active queue orderly queues (Function.update absoluteTime timer time) last := by
  have same : ∀ node ∈ queues.pending, (Function.update absoluteTime timer time node).toNat + 0 =
      (absoluteTime node).toNat := fun node member => by
    rw [Function.update_of_ne (ne_of_mem_of_not_mem member outside), Nat.add_zero]
  exact tracked.rebase same rfl

theorem insert (tracked : Tracked active queue orderly queues absoluteTime last)
    {front back : List (Node Timer)} (fewer : (front ++ back).Sublist queues.pending)
    (kept : ∀ node ∈ queues.pending, node ≠ .dummy -> node ∈ front ++ back)
    (real : timer ≠ .dummy) (outside : queues.Outside timer)
    (sooner : ∀ node ∈ front, (absoluteTime node).toNat ≤ (absoluteTime timer).toNat)
    (later : ∀ node ∈ back, (absoluteTime timer).toNat < (absoluteTime node).toNat)
    (above : last.toNat ≤ (absoluteTime timer).toNat) :
    Tracked (active ++ [timer]) queue (decide (timer ∉ active ∧ timer ∉ queue) && orderly)
      { queues with pending := front ++ timer :: back } absoluteTime last where
  same node ne := by
    have members : node ∈ front ++ back ↔ node ∈ active :=
      ⟨fun inside => (tracked.same node ne).mp (fewer.subset inside),
        fun inside => kept node ((tracked.same node ne).mpr inside) ne⟩
    simp only [List.mem_append, List.mem_cons, ← members]
    tauto
  once := by
    simpa [List.nodup_append] using
      ⟨tracked.once, fun node inside same => (tracked.absent outside).1 (same ▸ inside)⟩
  real := by simpa [real.symm] using tracked.real
  fifo := tracked.fifo
  sorted := by
    have sorted := (tracked.sorted.sublist fewer).imp
      (before_mono (List.sublist_append_left active [timer]))
    rw [List.pairwise_append] at sorted ⊢
    refine ⟨sorted.1, List.pairwise_cons.mpr ⟨fun node inside => .inl (later node inside),
      sorted.2.1⟩, fun one member other member' => ?_⟩
    rcases List.mem_cons.mp member' with rfl | member'
    · rcases Nat.lt_or_eq_of_le (sooner one member) with less | equal
      · exact .inl less
      · refine .inr ⟨equal, ?_⟩
        by_cases dummy : one = .dummy
        · exact .inl dummy
        · have older : one ∈ active :=
            (tracked.same one dummy).mp (fewer.subset (List.mem_append_left _ member))
          exact .inr ((List.singleton_sublist.mpr older).append (List.Sublist.refl _))
    · exact sorted.2.2 one member other member'
  above node member := by
    rcases List.mem_append.mp member with inside | inside
    · exact tracked.above node (fewer.subset (List.mem_append_left _ inside))
    · rcases List.mem_cons.mp inside with rfl | inside
      · exact above
      · exact tracked.above node (fewer.subset (List.mem_append_right _ inside))
  orderly := by simp [tracked.absent outside, tracked.orderly]

theorem delete (tracked : Tracked active queue orderly queues absoluteTime last)
    (real : timer ≠ .dummy) (inside : timer ∈ queues.pending ∨ timer ∈ queues.expired) :
    Tracked (Journal.without timer active) (Journal.without timer queue)
      (decide (timer ∈ active ∨ timer ∈ queue) && orderly)
      ⟨Journal.without timer queues.pending, Journal.without timer queues.expired⟩ absoluteTime
      last where
  same node ne := by
    simp only [Journal.without, List.mem_filter, tracked.same node ne]
  once := tracked.once.filter _
  real := fun member => tracked.real (List.mem_of_mem_filter member)
  fifo := congrArg (Journal.without timer) tracked.fifo
  sorted := by
    refine (tracked.sorted.filter _).imp_of_mem fun {one other} member member' before => ?_
    refine before_congr before (fun _ age => ?_) (Nat.add_zero _) (Nat.add_zero _)
    have kept : [one, other].filter (· ≠ timer) = [one, other] := by
      have ne : one ≠ timer := by simpa using (List.mem_filter.mp member).2
      have ne' : other ≠ timer := by simpa using (List.mem_filter.mp member').2
      simp [ne, ne']
    exact kept ▸ age.filter _
  above node member := tracked.above node (List.mem_of_mem_filter member)
  orderly := by
    rw [tracked.same timer real, tracked.fifo] at inside
    simp [inside, tracked.orderly]

theorem take (tracked : Tracked active queue orderly queues absoluteTime last)
    {rest : List (Node Timer)} (list : queues.expired = timer :: rest) :
    Tracked active queue.tail (decide (queue.head? = some timer) && orderly)
      { queues with expired := rest } absoluteTime last := by
  have fifo := tracked.fifo
  rw [list] at fifo
  exact ⟨tracked.same, tracked.once, tracked.real, by simp [← fifo], tracked.sorted, tracked.above,
    by simp [← fifo, tracked.orderly]⟩

theorem expireTimer (tracked : Tracked active queue orderly queues absoluteTime last)
    (nodup : queues.pending.Nodup) {rest : List (Node Timer)}
    (list : queues.pending = timer :: rest) (real : timer ≠ .dummy) :
    Tracked (Journal.without timer active) (queue ++ [timer])
      (decide (timer ∈ active) && orderly) ⟨rest, queues.expired ++ [timer]⟩ absoluteTime
      (absoluteTime timer) := by
  have here : timer ∈ queues.pending := list ▸ List.mem_cons_self
  rw [list] at nodup
  have kept : Journal.without timer queues.pending = rest := by
    rw [list, Journal.without, List.filter_cons_of_neg (by simp)]
    apply List.filter_eq_self.mpr
    intro node member
    simpa using ne_of_mem_of_not_mem member (List.nodup_cons.mp nodup).1
  have deleted := tracked.delete real (.inl here)
  rw [kept] at deleted
  refine ⟨deleted.same, deleted.once, deleted.real, by rw [tracked.fifo], deleted.sorted, ?_, ?_⟩
  · exact fun node member => tracked.head_le list node (list ▸ List.mem_cons_of_mem _ member)
  · simp [(tracked.same timer real).mp here, tracked.orderly]

theorem pushDummy (tracked : Tracked active queue orderly queues absoluteTime last)
    (outside : queues.Outside .dummy) {first : Node Timer} {rest : List (Node Timer)}
    (list : queues.pending = first :: rest)
    (far : absoluteTime first - last > 65535) :
    Tracked active queue orderly { queues with pending := .dummy :: queues.pending }
      (Function.update absoluteTime .dummy (last + 65535)) last := by
  have moved := tracked.setTime outside.1 (last + 65535)
  have inside : first ∈ queues.pending := list ▸ List.mem_cons_self
  have time := dummy_time (tracked.above first inside) far
  have other : ∀ node ∈ queues.pending,
      Function.update absoluteTime .dummy (last + 65535) node = absoluteTime node :=
    fun node member => Function.update_of_ne (ne_of_mem_of_not_mem member outside.1) _ _
  refine ⟨fun node ne => ?_, moved.once, moved.real, moved.fifo, ?_, ?_, moved.orderly⟩
  · simpa [ne] using moved.same node ne
  · refine List.pairwise_cons.mpr ⟨fun node member => .inl ?_, moved.sorted⟩
    rw [Function.update_self, other node member]
    exact Nat.lt_of_lt_of_le time.2 (tracked.head_le list node member)
  · intro node member
    rcases List.mem_cons.mp member with rfl | member
    · rw [Function.update_self]
      omega
    · exact moved.above node member

end Tracked

end AvrVoiceControl
