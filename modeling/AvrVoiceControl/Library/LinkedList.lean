import Mathlib.Data.List.Basic
import Mathlib.Data.List.Nodup
import Mathlib.Data.Fintype.Card
import Mathlib.Logic.Function.Basic

set_option autoImplicit false

namespace LinkedList

variable {Point : Type} {next : Point -> Option Point} {head : Option Point}
  {list front back : List Point} {point prev : Point}

/-- Following `next` from `head` one meets the points of the list in order, then NULL. -/
def Path (next : Point -> Option Point) : Option Point -> List Point -> Prop
  | head, [] => head = none
  | head, point :: rest => head = some point ∧ Path next (next point) rest

theorem path_head (path : Path next head list) : head = list.head? := by
  cases list with
  | nil => exact path
  | cons point rest => exact path.1

theorem path_congr {other : Point -> Option Point} (path : Path next head list)
    (same : ∀ point ∈ list, other point = next point) : Path other head list := by
  induction list generalizing head with
  | nil => exact path
  | cons point rest ih =>
    refine ⟨path.1, ?_⟩
    rw [same point List.mem_cons_self]
    exact ih path.2 fun later member => same later (List.mem_cons_of_mem _ member)

theorem path_unique {other : List Point} (path : Path next head list)
    (path' : Path next head other) : list = other := by
  induction list generalizing head other with
  | nil =>
    cases other with
    | nil => rfl
    | cons point rest => cases path.symm.trans path'.1
  | cons point rest ih =>
    cases other with
    | nil => cases path.1.symm.trans path'
    | cons point' rest' =>
      obtain rfl : point = point' := Option.some.inj (path.1.symm.trans path'.1)
      rw [ih path.2 path'.2]

theorem path_suffix (path : Path next head (front ++ point :: back)) :
    Path next (some point) (point :: back) := by
  induction front generalizing head with
  | nil => exact ⟨rfl, path.2⟩
  | cons first front ih => exact ih path.2

theorem path_link (path : Path next head (front ++ prev :: point :: back)) :
    next prev = some point :=
  (path_suffix path).2.1

theorem path_end (path : Path next head (front ++ [point])) : next point = none :=
  (path_suffix path).2

theorem path_nodup (path : Path next head list) : list.Nodup := by
  induction list generalizing head with
  | nil => exact List.nodup_nil
  | cons point rest ih =>
    refine List.nodup_cons.mpr ⟨fun again => ?_, ih path.2⟩
    obtain ⟨front, back, rfl⟩ := List.append_of_mem again
    have longer : Path next (some point) (point :: (front ++ point :: back)) := ⟨rfl, path.2⟩
    have lengths := congrArg List.length (path_unique longer (path_suffix path.2))
    simp at lengths
    omega

section Update

variable [DecidableEq Point]

theorem path_update (path : Path next head list) (outside : point ∉ list) (link : Option Point) :
    Path (Function.update next point link) head list :=
  path_congr path fun _ member => Function.update_of_ne (ne_of_mem_of_not_mem member outside) _ _

theorem path_push (path : Path next head list) (outside : point ∉ list) :
    Path (Function.update next point head) (some point) (point :: list) :=
  ⟨rfl, by simpa using path_update path outside head⟩

theorem path_relink {tail : List Point} (path : Path next head (front ++ prev :: back))
    (link : Option Point) (rest : Path (Function.update next prev link) link tail) :
    Path (Function.update next prev link) head (front ++ prev :: tail) := by
  induction front generalizing head with
  | nil => exact ⟨path.1, by simpa using rest⟩
  | cons first front ih =>
    have nodup := path_nodup path
    have other : first ≠ prev := fun same => by simp [same] at nodup
    exact ⟨path.1, by simpa [Function.update_of_ne other] using ih path.2⟩

theorem path_insert (path : Path next head (front ++ prev :: back))
    (outside : point ∉ front ++ prev :: back) :
    Path (Function.update (Function.update next point (next prev)) prev (some point)) head
      (front ++ prev :: point :: back) := by
  have inside : Path next (next prev) back := (path_suffix path).2
  have nodup := path_nodup path
  simp only [List.mem_append, List.mem_cons, not_or] at outside
  have absent : prev ∉ point :: back := by
    simp only [List.nodup_append, List.nodup_cons] at nodup
    simp only [List.mem_cons, not_or]
    exact ⟨fun same => outside.2.1 same.symm, nodup.2.1.1⟩
  apply path_relink (path_update path (by simp [outside]) _) _
  exact path_update (path_push inside outside.2.2) absent _

theorem path_unlink (path : Path next head (front ++ prev :: point :: back)) :
    Path (Function.update next prev (next point)) head (front ++ prev :: back) := by
  have nodup := path_nodup path
  have absent : prev ∉ back := by
    simp only [List.nodup_append, List.nodup_cons, List.mem_cons, not_or] at nodup
    exact nodup.2.1.1.2
  exact path_relink path _ (path_update (path_suffix path).2.2 absent _)

def cutAfter (point : Point) : List Point -> List Point
  | [] => []
  | first :: rest => if first = point then [first] else first :: cutAfter point rest

theorem cutAfter_of_notMem (outside : point ∉ list) : cutAfter point list = list := by
  induction list with
  | nil => rfl
  | cons first rest ih =>
    simp only [List.mem_cons, not_or] at outside
    rw [cutAfter, if_neg fun same => outside.1 same.symm, ih outside.2]

theorem cutAfter_isPrefix (point : Point) (list : List Point) : cutAfter point list <+: list := by
  induction list with
  | nil => exact List.prefix_rfl
  | cons first rest ih =>
    rw [cutAfter]
    split
    · exact ⟨rest, rfl⟩
    · simpa using ih

theorem cutAfter_head (point : Point) (list : List Point) :
    (cutAfter point list).head? = list.head? := by
  cases list with
  | nil => rfl
  | cons first rest =>
    rw [cutAfter]
    split <;> rfl

theorem path_cut (path : Path next head list) :
    Path (Function.update next point none) head (cutAfter point list) := by
  induction list generalizing head with
  | nil => exact path
  | cons first rest ih =>
    rw [cutAfter]
    split
    · rename_i here
      exact ⟨path.1, by simp [here, Path]⟩
    · rename_i other
      exact ⟨path.1, by simpa [Function.update_of_ne other] using ih path.2⟩

end Update

/-- `while (point != NULL) { if (stop) break; prev = point; point = point->next; }`, which ends with
`prev` and `point`; there is no result when the fuel does not suffice. -/
def walk (next : Point -> Option Point) (stop : Point -> Bool) :
    Nat -> Option Point -> Option Point -> Option (Option Point × Option Point)
  | _, prev, none => some (prev, none)
  | 0, _, some _ => none
  | fuel + 1, prev, some point =>
    if stop point then some (prev, some point)
    else walk next stop fuel (some point) (next point)

theorem walk_path (stop : Point -> Bool) (path : Path next head list) {fuel : Nat}
    (enough : list.length ≤ fuel) (prev : Option Point) :
    walk next stop fuel prev head =
      some (((list.takeWhile (!stop ·)).getLast?).or prev, (list.dropWhile (!stop ·)).head?) := by
  induction list generalizing head fuel prev with
  | nil =>
    obtain rfl : head = none := path
    cases fuel <;> rfl
  | cons point rest ih =>
    obtain ⟨rfl, path⟩ := path
    obtain ⟨fuel, rfl⟩ : ∃ less, fuel = less + 1 := ⟨fuel - 1, by simp at enough; omega⟩
    by_cases stops : stop point = true
    · simp [walk, stops]
    · rw [walk, if_neg stops, ih path (by simpa using enough)]
      simp only [stops, Bool.not_false, List.takeWhile_cons_of_pos, List.dropWhile_cons_of_pos]
      cases (rest.takeWhile (!stop ·)) with
      | nil => rfl
      | cons first front => simp [List.getLast?_cons]

theorem walk_end (path : Path next head (front ++ [point])) {fuel : Nat}
    (enough : (front ++ [point]).length ≤ fuel) :
    ∃ prev, walk next (fun point => (next point).isNone) fuel none head = some (prev, some point) := by
  have goes : ∀ other ∈ front, !(next other).isNone := by
    intro other member
    obtain ⟨before, after, rfl⟩ := List.append_of_mem member
    rw [List.append_assoc, List.cons_append] at path
    cases after with
    | nil => simp [path_link path]
    | cons second after =>
      rw [List.cons_append] at path
      simp [path_link path]
  rw [walk_path _ path enough, List.dropWhile_append_of_pos (by simpa using goes)]
  exact ⟨_, by simp [path_end path]; rfl⟩

theorem walk_inside [DecidableEq Point] (path : Path next head (front ++ prev :: point :: back))
    {fuel : Nat} (enough : (front ++ prev :: point :: back).length ≤ fuel) :
    walk next (· == point) fuel none head = some (some prev, some point) := by
  have nodup := path_nodup path
  have goes : ∀ other ∈ front ++ [prev], (!(other == point)) = true := by
    intro other member
    rw [Bool.not_eq_true', beq_eq_false_iff_ne]
    rintro rfl
    rcases List.mem_append.mp member with inside | inside
    · exact (List.nodup_append.mp nodup).2.2 _ inside _ (by simp) rfl
    · have repeated := (List.nodup_append.mp nodup).2.1
      simp [List.mem_singleton.mp inside] at repeated
  have split : front ++ prev :: point :: back = (front ++ [prev]) ++ point :: back := by simp
  rw [walk_path _ path enough, split, List.takeWhile_append_of_pos goes,
    List.dropWhile_append_of_pos goes]
  simp

theorem walk_absent [DecidableEq Point] (path : Path next head list) (absent : point ∉ list)
    {fuel : Nat} (enough : list.length ≤ fuel) :
    ∃ last, walk next (· == point) fuel none head = some (last, none) := by
  have goes : ∀ other ∈ list, (!(other == point)) = true := fun other member =>
    by simpa using ne_of_mem_of_not_mem member absent
  have all : list.dropWhile (fun other => !(other == point)) = [] := by
    rw [← List.append_nil list, List.dropWhile_append_of_pos goes, List.dropWhile_nil]
  rw [walk_path _ path enough, all]
  exact ⟨_, rfl⟩

theorem path_length [Fintype Point] (path : Path next head list) :
    list.length ≤ Fintype.card Point :=
  (path_nodup path).length_le_card

def points (next : Point -> Option Point) : Nat -> Option Point -> Option (List Point)
  | _, none => some []
  | 0, some _ => none
  | fuel + 1, some point => (points next fuel (next point)).map (point :: ·)

theorem points_path (path : Path next head list) {fuel : Nat} (enough : list.length ≤ fuel) :
    points next fuel head = some list := by
  induction list generalizing head fuel with
  | nil =>
    obtain rfl : head = none := path
    cases fuel <;> rfl
  | cons point rest ih =>
    obtain ⟨rfl, path⟩ := path
    obtain ⟨fuel, rfl⟩ : ∃ less, fuel = less + 1 := ⟨fuel - 1, by simp at enough; omega⟩
    rw [points, ih path (by simpa using enough), Option.map_some]

end LinkedList
