import Mathlib.Data.List.Basic

set_option autoImplicit false

namespace Crc

variable {w : Nat} (poly : BitVec w)

/-- One bit into a register that moves to the left. -/
def step (register : BitVec w) (bit : Bool) : BitVec w :=
  if bit = register.msb then register <<< 1 else (register <<< 1) ^^^ poly

def remainder (register : BitVec w) (bits : List Bool) : BitVec w :=
  bits.foldl (step poly) register

theorem remainder_append (register : BitVec w) (front back : List Bool) :
    remainder poly register (front ++ back) =
      remainder poly (remainder poly register front) back :=
  List.foldl_append

def ClearBelow (place : Nat) (register : BitVec w) : Prop :=
  ∀ i < place, register.getLsbD i = false

theorem clearBelow_all {register : BitVec w} (clear : ClearBelow w register) : register = 0#w := by
  apply BitVec.eq_of_getLsbD_eq
  intro i inside
  rw [clear i inside, BitVec.getLsbD_zero]

theorem step_xor (a b : BitVec w) (x y : Bool) :
    step poly (a ^^^ b) (x ^^ y) = step poly a x ^^^ step poly b y := by
  have moved : (a ^^^ b) <<< 1 = a <<< 1 ^^^ b <<< 1 := BitVec.shiftLeft_xor_distrib a b 1
  have cancel : a <<< 1 ^^^ poly ^^^ (b <<< 1 ^^^ poly) = a <<< 1 ^^^ b <<< 1 := by
    rw [BitVec.xor_assoc, ← BitVec.xor_assoc poly, BitVec.xor_comm poly, BitVec.xor_assoc (b <<< 1),
      BitVec.xor_self, BitVec.xor_zero]
  have left : a <<< 1 ^^^ poly ^^^ b <<< 1 = a <<< 1 ^^^ b <<< 1 ^^^ poly := by
    rw [BitVec.xor_assoc, BitVec.xor_comm poly, ← BitVec.xor_assoc]
  simp only [step, BitVec.msb_xor, moved]
  cases x <;> cases y <;> cases a.msb <;> cases b.msb <;>
    simp [cancel, left, BitVec.xor_assoc]

theorem remainder_xor (a b : BitVec w) {xs ys : List Bool} (same : xs.length = ys.length) :
    remainder poly (a ^^^ b) (List.zipWith Bool.xor xs ys) =
      remainder poly a xs ^^^ remainder poly b ys := by
  induction xs generalizing a b ys with
  | nil =>
    obtain rfl : ys = [] := List.eq_nil_of_length_eq_zero same.symm
    rfl
  | cons x xs ih =>
    obtain ⟨y, ys, rfl⟩ := List.exists_cons_of_length_eq_add_one same.symm
    rw [List.zipWith_cons_cons, remainder, List.foldl_cons, step_xor]
    exact ih _ _ (by simpa using same)

theorem eq_of_alike {xs ys : List Bool} (same : xs.length = ys.length)
    (alike : ∀ bit ∈ List.zipWith Bool.xor xs ys, bit = false) : xs = ys := by
  induction xs generalizing ys with
  | nil => exact (List.eq_nil_of_length_eq_zero same.symm).symm
  | cons x xs ih =>
    obtain ⟨y, ys, rfl⟩ := List.exists_cons_of_length_eq_add_one same.symm
    rw [List.zipWith_cons_cons] at alike
    have first : x = y := by simpa using alike _ List.mem_cons_self
    have rest := ih (by simpa using same) fun bit member => alike bit (List.mem_cons_of_mem _ member)
    rw [first, rest]

section Odd

variable {poly} (odd : poly.getLsbD 0 = true)

include odd

/-- The low bit of a register tells whether the polynomial went in, so what is clear was clear one
place lower before. -/
theorem clearBelow_step {register : BitVec w} {bit : Bool} {place : Nat} (within : place ≤ w)
    (clear : ClearBelow place (step poly register bit)) : ClearBelow (place - 1) register := by
  intro i below
  have low := clear 0 (by omega)
  have plain : bit = register.msb := by
    by_contra taken
    rw [step, if_neg taken, BitVec.getLsbD_xor, odd] at low
    simp at low
  have next := clear (i + 1) (by omega)
  rw [step, if_pos plain, BitVec.getLsbD_shiftLeft] at next
  simpa [show i + 1 < w by omega] using next

theorem clearBelow_remainder {register : BitVec w} {bits : List Bool} {place : Nat}
    (within : place ≤ w) (clear : ClearBelow place (remainder poly register bits)) :
    ClearBelow (place - bits.length) register := by
  induction bits generalizing register with
  | nil => exact clear
  | cons bit rest ih =>
    have later := clearBelow_step odd (by omega) (ih clear)
    rw [List.length_cons, Nat.sub_add_eq]
    exact later

theorem remainder_zero {bits : List Bool} (short : bits.length ≤ w)
    (none : remainder poly 0#w bits = 0#w) : ∀ bit ∈ bits, bit = false := by
  induction bits with
  | nil => simp
  | cons bit rest ih =>
    rw [List.length_cons] at short
    cases bit with
    | false =>
      have same : step poly 0#w false = 0#w := by simp [step]
      rw [remainder, List.foldl_cons, same] at none
      simpa using ih (by omega) none
    | true =>
      have first : step poly 0#w true = poly := by simp [step]
      rw [remainder, List.foldl_cons, first] at none
      have clear : ClearBelow w (remainder poly poly rest) := by
        intro i _
        rw [remainder, none, BitVec.getLsbD_zero]
      have bottom := clearBelow_remainder odd (Nat.le_refl w) clear 0 (by omega)
      rw [odd] at bottom
      cases bottom

theorem remainder_injective {register : BitVec w} {xs ys : List Bool}
    (same : xs.length = ys.length) (short : xs.length ≤ w)
    (equal : remainder poly register xs = remainder poly register ys) : xs = ys := by
  have difference := remainder_xor poly register register same
  rw [equal, BitVec.xor_self, BitVec.xor_self] at difference
  exact eq_of_alike same (remainder_zero odd (by simpa [same] using short) difference)

theorem step_zero {register : BitVec w} (none : step poly register false = 0#w) :
    register = 0#w := by
  have clear : ClearBelow w (step poly register false) := by
    intro i _
    rw [none, BitVec.getLsbD_zero]
  have low := clearBelow_step odd (Nat.le_refl w) clear
  have plain : register.msb = false := by
    by_contra taken
    have bottom := clear 0
    rw [step, if_neg (fun same => taken same.symm), BitVec.getLsbD_xor, odd] at bottom
    by_cases some : 0 < w
    next => simp [some] at bottom
    next =>
      obtain rfl : w = 0 := by omega
      simp at odd
  apply clearBelow_all
  intro i inside
  by_cases last : i < w - 1
  next => exact low i last
  next =>
    obtain rfl : i = w - 1 := by omega
    rw [← BitVec.msb_eq_getLsbD_last]
    exact plain

theorem remainder_register {a b : BitVec w} (bits : List Bool)
    (equal : remainder poly a bits = remainder poly b bits) : a = b := by
  induction bits generalizing a b with
  | nil => exact equal
  | cons bit rest ih =>
    have first : step poly a bit = step poly b bit := ih equal
    have difference := step_xor poly a b bit bit
    rw [first, BitVec.xor_self, Bool.xor_self] at difference
    exact BitVec.xor_eq_zero_iff.mp (step_zero odd difference)

theorem remainder_window {register : BitVec w} (front back : List Bool) {xs ys : List Bool}
    (same : xs.length = ys.length) (short : xs.length ≤ w)
    (equal : remainder poly register (front ++ xs ++ back) =
      remainder poly register (front ++ ys ++ back)) : xs = ys := by
  rw [remainder_append, remainder_append _ _ (front ++ ys)] at equal
  have windows := remainder_register odd back equal
  rw [remainder_append, remainder_append _ _ front ys] at windows
  exact remainder_injective odd same short windows

end Odd

end Crc
