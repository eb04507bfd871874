import Mathlib.Data.List.Basic

set_option autoImplicit false

namespace CString

/-- A C pointer into a byte array: the bytes of the array from it to the end. -/
abbrev Pointer := List UInt8

abbrev quote : UInt8 := 34
abbrev backslash : UInt8 := 92
abbrev colon : UInt8 := 58
abbrev comma : UInt8 := 44
abbrev openBrace : UInt8 := 123
abbrev closeBrace : UInt8 := 125

def ascii (text : List Char) : List UInt8 :=
  text.map fun c => UInt8.ofNat c.toNat

def load : Pointer -> Option UInt8
  | [] => none
  | byte :: _ => some byte

def advance : Pointer -> Option Pointer
  | [] => none
  | _ :: rest => some rest

/-- `strncmp(pointer, key, strlen(key)) == 0`; the comparison reads no byte after the first
difference, and running off the array is `none`. -/
def startsWith : List UInt8 -> Pointer -> Option Bool
  | [], _ => some true
  | _ :: _, [] => none
  | k :: key, byte :: rest => if byte = k then startsWith key rest else some false

/-- The string that a pointer points to; without a NUL in the array it is `none`. -/
def text (pointer : Pointer) : Option (List UInt8) :=
  if 0 ∈ pointer then some (pointer.takeWhile (· ≠ 0)) else none

def strncpy (dest source : List UInt8) (count : Nat) : List UInt8 :=
  (source ++ List.replicate count 0).take count ++ dest.drop count

/-- One call of `strtok`: the token and where the next call goes on. -/
def strtok (delimiters : List UInt8) (from' : List UInt8) : Option (List UInt8 × List UInt8) :=
  match from'.dropWhile (· ∈ delimiters) with
  | [] => none
  | byte :: rest =>
    some ((byte :: rest).takeWhile (· ∉ delimiters),
      ((byte :: rest).dropWhile (· ∉ delimiters)).drop 1)

theorem drop_takeWhile_length (p : UInt8 -> Bool) (bytes : List UInt8) :
    bytes.drop (bytes.takeWhile p).length = bytes.dropWhile p := by
  induction bytes with
  | nil => rfl
  | cons byte rest ih =>
    by_cases passes : p byte = true
    next => simpa [List.takeWhile_cons_of_pos passes, List.dropWhile_cons_of_pos passes] using ih
    next => simp [List.takeWhile_cons_of_neg passes, List.dropWhile_cons_of_neg passes]

theorem take_takeWhile_length (p : UInt8 -> Bool) (bytes : List UInt8) :
    bytes.take (bytes.takeWhile p).length = bytes.takeWhile p :=
  (List.prefix_iff_eq_take.mp (List.takeWhile_prefix p)).symm

@[simp] theorem load_cons (byte : UInt8) (rest : Pointer) :
    load (byte :: rest) = some byte := rfl

@[simp] theorem advance_cons (byte : UInt8) (rest : Pointer) :
    advance (byte :: rest) = some rest := rfl

theorem startsWith_stopped (key text rest : List UInt8) (stop : UInt8)
    (keyFree : stop ∉ key) :
    startsWith key (text ++ stop :: rest) = some (decide (key <+: text)) := by
  induction key generalizing text with
  | nil => simp [startsWith]
  | cons k key ih =>
    have stopNe : stop ≠ k := fun same => keyFree (by simp [same])
    have restFree : stop ∉ key := fun member => keyFree (List.mem_cons_of_mem _ member)
    cases text with
    | nil => simp [startsWith, stopNe]
    | cons b text =>
      by_cases same : b = k
      · subst same
        simp [startsWith, ih text restFree]
      · have differ : ¬ k = b := fun h => same h.symm
        simp [startsWith, same, differ, List.cons_prefix_cons]

@[simp] theorem text_zero (rest : Pointer) : text (0 :: rest) = some [] := by simp [text]

theorem text_cons {byte : UInt8} (nonzero : byte ≠ 0) (rest : Pointer) :
    text (byte :: rest) = (text rest).map (byte :: ·) := by
  by_cases ends : 0 ∈ rest <;> simp [text, ends, nonzero, nonzero.symm]

theorem text_eq_some {pointer content : List UInt8} :
    text pointer = some content ↔ 0 ∉ content ∧ content ++ [0] <+: pointer := by
  induction pointer generalizing content with
  | nil => simp [text]
  | cons byte rest ih =>
    by_cases zero : byte = 0
    · subst zero
      cases content with
      | nil => simp
      | cons first content => simp +contextual [eq_comm]
    · rw [text_cons zero]
      cases content with
      | nil => simp [eq_comm, zero]
      | cons first content =>
        by_cases same : first = byte
        · simp [same, ih, List.cons_prefix_cons, eq_comm, zero]
        · have other : ¬ byte = first := fun equal => same equal.symm
          simp [List.cons_prefix_cons, same, other]

theorem text_length {pointer content : List UInt8} (string : text pointer = some content) :
    content.length < pointer.length := by
  have inside := (text_eq_some.mp string).2.length_le
  simpa [Nat.succ_le_iff] using inside

end CString
