import Mathlib.Data.List.Basic
import Mathlib.Logic.Function.Basic

set_option autoImplicit false

namespace FlatMemory

variable {Value : Type}

def block (memory : Nat -> Value) : Nat -> Nat -> List Value
  | _, 0 => []
  | place, length + 1 => memory place :: block memory (place + 1) length

def fill (memory : Nat -> Value) : Nat -> List Value -> Nat -> Value
  | _, [] => memory
  | place, value :: rest => fill (Function.update memory place value) (place + 1) rest

@[simp] theorem block_length (memory : Nat -> Value) (place length : Nat) :
    (block memory place length).length = length := by
  induction length generalizing place with
  | zero => rfl
  | succ length ih => simp [block, ih]

theorem block_add (memory : Nat -> Value) (place front back : Nat) :
    block memory place (front + back) =
      block memory place front ++ block memory (place + front) back := by
  induction front generalizing place with
  | zero => simp [block]
  | succ front ih =>
    rw [Nat.add_right_comm, block, ih, block, List.cons_append, Nat.add_right_comm place,
      Nat.add_assoc]

theorem block_succ (memory : Nat -> Value) (place length : Nat) :
    block memory place (length + 1) = block memory place length ++ [memory (place + length)] :=
  block_add memory place length 1

theorem block_congr {memory other : Nat -> Value} {place length : Nat}
    (same : ∀ at', place ≤ at' -> at' < place + length -> memory at' = other at') :
    block memory place length = block other place length := by
  induction length generalizing place with
  | zero => rfl
  | succ length ih =>
    rw [block, block, same place (Nat.le_refl place) (by omega),
      ih fun at' low high => same at' (by omega) (by omega)]

theorem block_take (memory : Nat -> Value) (place : Nat) {length count : Nat}
    (fits : count ≤ length) : (block memory place length).take count = block memory place count := by
  have split := block_add memory place count (length - count)
  rw [Nat.add_sub_of_le fits] at split
  rw [split, List.take_left' (block_length memory place count)]

theorem fill_append (memory : Nat -> Value) (place : Nat) (front back : List Value) :
    fill memory place (front ++ back) =
      fill (fill memory place front) (place + front.length) back := by
  induction front generalizing memory place with
  | nil => rfl
  | cons value front ih =>
    rw [List.cons_append, fill, fill, ih, List.length_cons, Nat.add_assoc, Nat.add_comm 1]

theorem fill_concat (memory : Nat -> Value) (place : Nat) (values : List Value) (last : Value) :
    fill memory place (values ++ [last]) =
      Function.update (fill memory place values) (place + values.length) last := by
  rw [fill_append, fill, fill]

theorem fill_outside (memory : Nat -> Value) (place : Nat) (values : List Value) {at' : Nat}
    (outside : at' < place ∨ place + values.length ≤ at') :
    fill memory place values at' = memory at' := by
  induction values generalizing memory place with
  | nil => rfl
  | cons first rest ih =>
    rw [List.length_cons] at outside
    rw [fill, ih _ _ (by omega), Function.update_of_ne (by omega)]

theorem block_fill (memory : Nat -> Value) (place : Nat) (values : List Value) :
    block (fill memory place values) place values.length = values := by
  induction values generalizing memory place with
  | nil => rfl
  | cons first rest ih =>
    rw [List.length_cons, block, fill, ih,
      fill_outside _ _ _ (.inl (Nat.lt_succ_self place)), Function.update_self]

theorem block_fill_outside (memory : Nat -> Value) (place : Nat) (values : List Value)
    {at' length : Nat} (outside : at' + length ≤ place ∨ place + values.length ≤ at') :
    block (fill memory place values) at' length = block memory at' length :=
  block_congr fun there low high => fill_outside _ _ _ (by omega)

theorem block_fill_front (memory : Nat -> Value) (place : Nat) (values : List Value) {length : Nat}
    (fits : values.length ≤ length) :
    block (fill memory place values) place length =
      values ++ (block memory place length).drop values.length := by
  have split := fun source : Nat -> Value => block_add source place values.length
    (length - values.length)
  rw [Nat.add_sub_of_le fits] at split
  rw [split, split, block_fill, block_fill_outside _ _ _ (.inr (Nat.le_refl _)),
    List.drop_left' (block_length _ _ _)]

theorem fill_head (memory : Nat -> Value) (place : Nat) (values : List Value) :
    fill memory place values place = values.headD (memory place) := by
  cases values with
  | nil => rfl
  | cons first rest =>
    rw [fill, fill_outside _ _ _ (.inl (Nat.lt_succ_self place)), Function.update_self]
    rfl

end FlatMemory
