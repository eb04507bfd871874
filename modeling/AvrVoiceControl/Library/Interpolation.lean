import Mathlib.Algebra.Order.Floor.Ring
import Mathlib.Data.Rat.Floor
import Mathlib.Tactic.Linarith
import Mathlib.Tactic.Positivity

set_option autoImplicit false

namespace Interpolation

def level (start target : Int) (part : Rat) : Int :=
  ⌊(start : Rat) + ((target : Rat) - start) * part⌋

def Toward (start target before after : Int) : Prop :=
  (start ≤ target -> before ≤ after) ∧ (target ≤ start -> after ≤ before)

def Between (start target value : Int) : Prop :=
  min start target ≤ value ∧ value ≤ max start target

def fraction (start target value : Int) : Rat :=
  ((value : Rat) - start) / ((target : Rat) - start)

variable {start target : Int}

@[simp] theorem level_zero : level start target 0 = start := by simp [level]

@[simp] theorem level_one : level start target 1 = target := by simp [level]

theorem level_toward {part later : Rat} (ordered : part ≤ later) :
    Toward start target (level start target part) (level start target later) := by
  constructor
  next =>
    intro rising
    apply Int.floor_mono
    have width : (0 : Rat) ≤ (target : Rat) - start := sub_nonneg.mpr (by exact_mod_cast rising)
    have longer := mul_le_mul_of_nonneg_left ordered width
    linarith
  next =>
    intro falling
    apply Int.floor_mono
    have width : (target : Rat) - start ≤ 0 := sub_nonpos.mpr (by exact_mod_cast falling)
    have longer := mul_le_mul_of_nonpos_left ordered width
    linarith

theorem between_level {part : Rat} (atLeast : 0 ≤ part) (atMost : part ≤ 1) :
    Between start target (level start target part) := by
  have left := @level_toward start target 0 part atLeast
  have right := @level_toward start target part 1 atMost
  rw [level_zero] at left
  rw [level_one] at right
  rcases le_total start target with rising | falling
  next =>
    rw [Between, min_eq_left rising, max_eq_right rising]
    exact ⟨left.1 rising, right.1 rising⟩
  next =>
    rw [Between, min_eq_right falling, max_eq_left falling]
    exact ⟨right.2 falling, left.2 falling⟩

theorem fraction_le {before after : Int} (nearer : Toward start target before after) :
    fraction start target before ≤ fraction start target after := by
  rcases le_total start target with rising | falling
  next =>
    have width : (0 : Rat) ≤ (target : Rat) - start := sub_nonneg.mpr (by exact_mod_cast rising)
    have moved : (before : Rat) ≤ after := by exact_mod_cast nearer.1 rising
    exact div_le_div_of_nonneg_right (by linarith) width
  next =>
    have width : (target : Rat) - start ≤ 0 := sub_nonpos.mpr (by exact_mod_cast falling)
    have moved : (after : Rat) ≤ before := by exact_mod_cast nearer.2 falling
    exact div_le_div_of_nonpos_of_le width (by linarith)

end Interpolation
