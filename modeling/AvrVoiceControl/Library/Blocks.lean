import Mathlib.Data.List.Basic

set_option autoImplicit false

namespace Blocks

variable {Value : Type} (size : Nat)

def cut : Nat -> List Value -> List (List Value)
  | 0, _ => []
  | count + 1, values => values.take size :: cut count (values.drop size)

def wholes (values : List Value) : List (List Value) := cut size (values.length / size) values

/-- What is left behind the blocks. -/
def rest (values : List Value) : List Value := values.drop (size * (values.length / size))

theorem rest_length (values : List Value) : (rest size values).length = values.length % size := by
  have split := Nat.div_add_mod values.length size
  rw [rest, List.length_drop]
  omega

@[simp] theorem cut_length (count : Nat) (values : List Value) :
    (cut size count values).length = count := by
  induction count generalizing values with
  | zero => rfl
  | succ count ih => rw [cut, List.length_cons, ih]

theorem wholes_length (values : List Value) : (wholes size values).length = values.length / size :=
  cut_length size _ values

theorem cut_append (front back : Nat) (values : List Value) :
    cut size (front + back) values =
      cut size front values ++ cut size back (values.drop (size * front)) := by
  induction front generalizing values with
  | zero => simp [cut]
  | succ front ih =>
    rw [Nat.succ_add, cut, cut, ih, List.drop_drop, List.cons_append, Nat.mul_succ,
      Nat.add_comm size]

theorem cut_full {count : Nat} {values : List Value} (fits : size * count ≤ values.length)
    (more : List Value) : cut size count (values ++ more) = cut size count values := by
  induction count generalizing values with
  | zero => rfl
  | succ count ih =>
    rw [Nat.mul_succ] at fits
    rw [cut, cut, List.take_append_of_le_length (by omega), List.drop_append_of_le_length (by omega),
      ih (by rw [List.length_drop]; omega)]

theorem count_append (values more : List Value) (positive : 0 < size) :
    (values ++ more).length / size =
      values.length / size + (rest size values ++ more).length / size := by
  have split := Nat.div_add_mod values.length size
  rw [List.length_append, List.length_append, rest_length]
  conv_lhs => rw [← split]
  rw [Nat.add_assoc, Nat.mul_add_div positive]

theorem rest_eq (values more : List Value) :
    (values ++ more).drop (size * (values.length / size)) = rest size values ++ more :=
  List.drop_append_of_le_length (Nat.mul_div_le _ _)

theorem wholes_append (values more : List Value) (positive : 0 < size) :
    wholes size (values ++ more) = wholes size values ++ wholes size (rest size values ++ more) := by
  rw [wholes, count_append size values more positive, cut_append, rest_eq,
    cut_full size (Nat.mul_div_le _ _), wholes, wholes]

theorem rest_append (values more : List Value) (positive : 0 < size) :
    rest size (values ++ more) = rest size (rest size values ++ more) := by
  rw [rest, count_append size values more positive, Nat.mul_add, ← List.drop_drop, rest_eq]
  rfl

theorem wholes_short {values : List Value} (short : values.length < size) :
    wholes size values = [] := by
  rw [wholes, Nat.div_eq_of_lt short, cut]

theorem rest_short {values : List Value} (short : values.length < size) :
    rest size values = values := by
  rw [rest, Nat.div_eq_of_lt short, Nat.mul_zero, List.drop_zero]

theorem wholes_block {values : List Value} (positive : 0 < size) (one : values.length = size)
    (more : List Value) :
    wholes size (values ++ more) = values :: wholes size more ∧
      rest size (values ++ more) = rest size more := by
  have count : values.length / size = 1 := by rw [one, Nat.div_self positive]
  have first : wholes size values = [values] := by
    rw [wholes, count, cut, cut, List.take_of_length_le (Nat.le_of_eq one)]
  have none : rest size values = [] := by
    rw [rest, count, Nat.mul_one, List.drop_of_length_le (Nat.le_of_eq one)]
  rw [wholes_append size values more positive, rest_append size values more positive, first, none]
  exact ⟨rfl, rfl⟩

end Blocks
