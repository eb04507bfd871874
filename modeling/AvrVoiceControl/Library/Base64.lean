import Mathlib.Data.List.Basic

set_option autoImplicit false

namespace Base64

/-- The bits of the bytes, the first byte the most significant, six at a time; the last digit is
filled up with zeros. -/
def digits : List Nat -> List Nat
  | a :: b :: c :: rest =>
    a / 4 :: (a % 4 * 16 + b / 16) :: (b % 16 * 4 + c / 64) :: c % 64 :: digits rest
  | [a, b] => [a / 4, a % 4 * 16 + b / 16, b % 16 * 4]
  | [a] => [a / 4, a % 4 * 16]
  | [] => []

/-- The bits of the digits, eight at a time; bits left over are dropped. -/
def bytes : List Nat -> List Nat
  | p :: q :: r :: s :: rest =>
    (p * 4 + q / 16) :: (q % 16 * 16 + r / 4) :: (r % 4 * 64 + s) :: bytes rest
  | [p, q, r] => [p * 4 + q / 16, q % 16 * 16 + r / 4]
  | [p, q] => [p * 4 + q / 16]
  | _ => []

theorem digits_lt (data : List Nat) (small : ∀ byte ∈ data, byte < 256) :
    ∀ digit ∈ digits data, digit < 64 := by
  induction data using digits.induct with
  | case1 a b c rest ih =>
    have a_lt := small a (by simp)
    have b_lt := small b (by simp)
    have c_lt := small c (by simp)
    have later := ih fun byte member => small byte (by simp [member])
    intro digit member
    simp only [digits, List.mem_cons] at member
    rcases member with rfl | rfl | rfl | rfl | member
    · omega
    · omega
    · omega
    · omega
    · exact later digit member
  | case2 a b =>
    have a_lt := small a (by simp)
    have b_lt := small b (by simp)
    intro digit member
    simp only [digits, List.mem_cons, List.not_mem_nil, or_false] at member
    omega
  | case3 a =>
    have a_lt := small a (by simp)
    intro digit member
    simp only [digits, List.mem_cons, List.not_mem_nil, or_false] at member
    omega
  | case4 => simp [digits]

theorem bytes_digits (data : List Nat) (small : ∀ byte ∈ data, byte < 256) :
    bytes (digits data) = data := by
  induction data using digits.induct with
  | case1 a b c rest ih =>
    have a_lt := small a (by simp)
    have b_lt := small b (by simp)
    have c_lt := small c (by simp)
    rw [digits, bytes, ih fun byte member => small byte (by simp [member])]
    congr 1
    · omega
    · congr 1
      · omega
      · congr 1
        omega
  | case2 a b =>
    have b_lt := small b (by simp)
    simp only [digits, bytes, List.cons.injEq, and_true]
    omega
  | case3 a =>
    simp only [digits, bytes, List.cons.injEq, and_true]
    omega
  | case4 => rfl

theorem digits_length (data : List Nat) : (digits data).length = (4 * data.length + 2) / 3 := by
  induction data using digits.induct with
  | case1 a b c rest ih =>
    simp only [digits, List.length_cons, ih]
    omega
  | _ => simp [digits]

theorem digits_append (front back : List Nat) (whole : front.length % 3 = 0) :
    digits (front ++ back) = digits front ++ digits back := by
  induction front using digits.induct with
  | case1 a b c rest ih =>
    simp only [List.length_cons] at whole
    simp only [List.cons_append, digits, ih (by omega)]
  | case2 a b => simp at whole
  | case3 a => simp at whole
  | case4 => simp [digits]

end Base64
