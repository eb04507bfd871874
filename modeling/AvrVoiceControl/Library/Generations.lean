import Mathlib.Data.Int.ModEq
import Mathlib.Tactic.Common

set_option autoImplicit false

namespace Generations

inductive Note (Slot : Type)
  | opened (slot : Slot)
  | closed (slot : Slot)
  deriving DecidableEq

variable {Slot : Type} {front back : List (Note Slot)}

def Note.slot : Note Slot -> Slot
  | .opened slot => slot
  | .closed slot => slot

def opens (notes : List (Note Slot)) : Nat :=
  notes.countP fun
    | .opened _ => true
    | .closed _ => false

@[simp] theorem opens_nil : opens ([] : List (Note Slot)) = 0 := rfl

@[simp] theorem opens_append : opens (front ++ back) = opens front + opens back := by
  simp [opens]

@[simp] theorem opens_opened (other : Slot) : opens [Note.opened other] = 1 := rfl

@[simp] theorem opens_closed (other : Slot) : opens [Note.closed other] = 0 := rfl

variable [DecidableEq Slot]

/-- Which opening holds a slot, after `count` earlier openings: they are counted from 1, and 0 stands
for a slot that nobody holds. -/
def holderFrom (slot : Slot) : Nat -> Nat -> List (Note Slot) -> Nat
  | _, holder, [] => holder
  | count, holder, .opened other :: notes =>
    holderFrom slot (count + 1) (if other = slot then count + 1 else holder) notes
  | count, holder, .closed other :: notes =>
    holderFrom slot count (if other = slot then 0 else holder) notes

def holder (slot : Slot) (notes : List (Note Slot)) : Nat := holderFrom slot 0 0 notes

variable {slot : Slot}

@[simp] theorem holder_nil (slot : Slot) : holder slot [] = 0 := rfl

theorem holderFrom_append (count first : Nat) :
    holderFrom slot count first (front ++ back) =
      holderFrom slot (count + opens front) (holderFrom slot count first front) back := by
  induction front generalizing count first with
  | nil => rfl
  | cons note notes ih =>
    cases note with
    | opened other =>
      rw [List.cons_append, holderFrom, holderFrom, ih, ← List.singleton_append, opens_append,
        opens_opened, Nat.add_assoc]
    | closed other =>
      rw [List.cons_append, holderFrom, holderFrom, ih, ← List.singleton_append, opens_append,
        opens_closed, Nat.zero_add]

theorem holder_append : holder slot (front ++ back) =
    holderFrom slot (opens front) (holder slot front) back := by
  rw [holder, holderFrom_append, Nat.zero_add]
  rfl

@[simp] theorem holder_opened (other : Slot) :
    holder slot (front ++ [.opened other]) =
      if other = slot then opens front + 1 else holder slot front := by
  rw [holder_append]
  rfl

@[simp] theorem holder_closed (other : Slot) :
    holder slot (front ++ [.closed other]) = if other = slot then 0 else holder slot front := by
  rw [holder_append]
  rfl

theorem holderFrom_cases (count first : Nat) (notes : List (Note Slot)) :
    (holderFrom slot count first notes = first ∧ ∀ note ∈ notes, note.slot ≠ slot) ∨
      holderFrom slot count first notes = 0 ∨
      count < holderFrom slot count first notes ∧
        holderFrom slot count first notes ≤ count + opens notes := by
  induction notes generalizing count first with
  | nil => exact .inl ⟨rfl, by simp⟩
  | cons note notes ih =>
    cases note with
    | opened other =>
      have later := ih (count + 1) (if other = slot then count + 1 else first)
      rw [holderFrom, ← List.singleton_append, opens_append, opens_opened]
      by_cases same : other = slot
      next =>
        rw [if_pos same] at later ⊢
        omega
      next =>
        rw [if_neg same] at later ⊢
        rcases later with ⟨kept, away⟩ | none | later
        · exact .inl ⟨kept, by simpa [Note.slot, same] using away⟩
        · exact .inr (.inl none)
        · exact .inr (.inr (by omega))
    | closed other =>
      have later := ih count (if other = slot then 0 else first)
      rw [holderFrom, ← List.singleton_append, opens_append, opens_closed]
      by_cases same : other = slot
      next =>
        rw [if_pos same] at later ⊢
        omega
      next =>
        rw [if_neg same] at later ⊢
        rcases later with ⟨kept, away⟩ | none | later
        · exact .inl ⟨kept, by simpa [Note.slot, same] using away⟩
        · exact .inr (.inl none)
        · exact .inr (.inr (by omega))

theorem holder_unopened (none : opens back = 0) (slot : Slot) :
    holder slot (front ++ back) = holder slot front ∨ holder slot (front ++ back) = 0 := by
  have cases := @holderFrom_cases _ _ slot (opens front) (holder slot front) back
  rw [← holder_append] at cases
  omega

theorem holder_le (slot : Slot) (notes : List (Note Slot)) : holder slot notes ≤ opens notes := by
  have cases := @holderFrom_cases _ _ slot 0 0 notes
  rw [← holder] at cases
  omega

/-- The number that tells a holder, counted up from 1 to `size - 1` and then again from 1. -/
def number (size : Nat) : Nat -> Nat
  | 0 => 0
  | holder + 1 => holder % (size - 1) + 1

theorem number_eq_zero {size holder : Nat} : number size holder = 0 ↔ holder = 0 := by
  cases holder <;> simp [number]

theorem number_lt {size : Nat} (large : 2 ≤ size) (holder : Nat) : number size holder < size := by
  cases holder with
  | zero => exact Nat.zero_lt_of_lt large
  | succ holder =>
    have bounded : holder % (size - 1) < size - 1 := Nat.mod_lt _ (by omega)
    rw [number]
    omega

theorem number_next {size : Nat} (large : 2 ≤ size) (holder : Nat) :
    number size (holder + 1) =
      if (number size holder + 1) % size = 0 then 1 else (number size holder + 1) % size := by
  cases holder with
  | zero => simp [number, Nat.mod_eq_of_lt large]
  | succ holder =>
    have bounded : holder % (size - 1) < size - 1 := Nat.mod_lt _ (by omega)
    rw [number, number, ← Nat.mod_add_mod]
    by_cases last : holder % (size - 1) + 1 = size - 1
    next =>
      have wraps : holder % (size - 1) + 1 + 1 = size := by omega
      rw [wraps, Nat.mod_self, if_pos rfl, last, Nat.mod_self]
    next =>
      rw [Nat.mod_eq_of_lt (b := size), Nat.mod_eq_of_lt, if_neg] <;> omega

theorem number_apart {size early late : Nat} (alike : number size early = number size late)
    (held : early ≠ 0) (few : late < early + (size - 1)) (order : early ≤ late) : late = early := by
  obtain ⟨early, rfl⟩ := Nat.exists_eq_succ_of_ne_zero held
  obtain ⟨late, rfl⟩ := Nat.exists_eq_succ_of_ne_zero (fun none => held (by omega) : late ≠ 0)
  simp only [number, Nat.succ.injEq] at alike ⊢
  have divides := (Nat.modEq_iff_dvd' (by omega)).mp alike
  have none := Nat.eq_zero_of_dvd_of_lt divides (by omega)
  omega

theorem same_holder {size : Nat} (alike : number size (holder slot front) =
      number size (holder slot (front ++ back)))
    (held : holder slot front ≠ 0)
    (few : opens (front ++ back) < holder slot front + (size - 1)) :
    holder slot (front ++ back) = holder slot front ∧ ∀ note ∈ back, note.slot ≠ slot := by
  have bounded := holder_le slot front
  have cases := @holderFrom_cases _ _ slot (opens front) (holder slot front) back
  rw [← holder_append, ← opens_append] at cases
  rcases cases with kept | none | later
  · exact kept
  · rw [none] at alike
    exact absurd (number_eq_zero.mp alike) held
  · have same := number_apart alike held (by omega) (by omega)
    omega

end Generations
