import AvrVoiceControl.Json
import AvrVoiceControl.Library.FlatJson
import Mathlib.Data.List.Infix

set_option autoImplicit false

namespace AvrVoiceControl.Json

open CString FlatJson

theorem jsonFindQuote_plain (byte : UInt8) (rest : Pointer) (plain : Plain byte) :
    jsonFindQuote (byte :: rest) = jsonFindQuote rest := by
  obtain ⟨notNul, notQuote, notBackslash⟩ := plain
  rw [jsonFindQuote.eq_def]
  simp only [notNul, notQuote, notBackslash, if_false]

theorem jsonFindQuote_skip (text rest : List UInt8) (plain : ∀ byte ∈ text, Plain byte) :
    jsonFindQuote (text ++ rest) = jsonFindQuote rest := by
  induction text with
  | nil => rfl
  | cons byte text ih =>
    rw [List.cons_append, jsonFindQuote_plain _ _ (plain byte (by simp))]
    exact ih fun b member => plain b (List.mem_cons_of_mem _ member)

@[simp] theorem jsonFindQuote_quote (rest : Pointer) :
    jsonFindQuote (quote :: rest) = some (quote :: rest) := by
  rw [jsonFindQuote.eq_def]
  simp

@[simp] theorem jsonFindQuote_nul (rest : Pointer) :
    jsonFindQuote (0 :: rest) = some (0 :: rest) := by
  rw [jsonFindQuote.eq_def]
  simp

theorem jsonFindQuote_escape (byte : UInt8) (rest : Pointer) (nonzero : byte ≠ 0) :
    jsonFindQuote (backslash :: byte :: rest) = jsonFindQuote rest := by
  have escaped : ¬ backslash = 0 ∧ ¬ backslash = quote := by decide
  simp only [jsonFindQuote, escaped, nonzero, if_true, if_false]

@[simp] theorem jsonFindQuote_backslash_nul (rest : Pointer) :
    jsonFindQuote (backslash :: 0 :: rest) = some (0 :: rest) := by
  have escaped : ¬ backslash = 0 ∧ ¬ backslash = quote := by decide
  simp only [jsonFindQuote, escaped, if_true, if_false]

theorem jsonFindQuote_piece (piece : Piece) (rest : Pointer) :
    jsonFindQuote (piece.text ++ rest) = jsonFindQuote rest := by
  cases piece with
  | plain byte => exact jsonFindQuote_plain _ _ byte.property
  | escape byte => exact jsonFindQuote_escape _ _ byte.property

theorem jsonFindQuote_pieces (pieces : List Piece) (rest : Pointer) :
    jsonFindQuote (pieces.flatMap Piece.text ++ rest) = jsonFindQuote rest := by
  induction pieces with
  | nil => rfl
  | cons piece pieces ih =>
    rw [List.flatMap_cons, List.append_assoc, jsonFindQuote_piece, ih]

theorem next_whites (ws : List White) (rest : Pointer) :
    next (whites ws ++ rest) = next rest := by
  induction ws with
  | nil => rfl
  | cons w ws ih =>
    have white : w.byte ≠ 0 ∧ isWhiteSpace w.byte = true := by cases w <;> decide
    change next (w.byte :: (whites ws ++ rest)) = next rest
    rw [next, if_pos white, ih]

theorem next_of_not_white (byte : UInt8) (rest : Pointer) (black : isWhiteSpace byte = false) :
    next (byte :: rest) = some (byte :: rest) := by
  simp [next, black]

theorem skipAlphaDigit_append (word rest : List UInt8) (stop : UInt8)
    (alnum : ∀ byte ∈ word, (isAlpha byte || isDigit byte) = true)
    (stops : (isAlpha stop || isDigit stop) = false) :
    skipAlphaDigit (word ++ stop :: rest) = some (stop :: rest) := by
  induction word with
  | nil => simp only [List.nil_append, skipAlphaDigit, stops, Bool.false_eq_true, if_false]
  | cons byte word ih =>
    simp only [List.cons_append, skipAlphaDigit, alnum byte (by simp), if_true]
    exact ih fun b member => alnum b (List.mem_cons_of_mem _ member)

theorem scalar_head (v : Scalar) :
    ∃ byte rest, v.text = byte :: rest ∧ isWhiteSpace byte = false ∧
      ¬ (byte = 0 ∨ byte = closeBrace) := by
  cases v with
  | string pieces => exact ⟨quote, _, rfl, by decide, by decide⟩
  | number first rest =>
    refine ⟨digit first, rest.map digit, rfl, ?_⟩
    revert first
    decide
  | bool value => cases value <;> exact ⟨_, _, rfl, by decide, by decide⟩
  | null => exact ⟨_, _, rfl, by decide, by decide⟩

theorem valueOfKey_before (byte : UInt8) (rest : Pointer) (afterKey beforeValue : List White)
    (black : isWhiteSpace byte = false) (proper : ¬ (byte = 0 ∨ byte = closeBrace)) :
    valueOfKey (quote :: (whites afterKey ++ colon :: (whites beforeValue ++ byte :: rest))) =
      some (some (byte :: rest)) := by
  have colonBlack : isWhiteSpace colon = false := by decide
  simp only [valueOfKey, advance_cons, next_whites, next_of_not_white _ _ colonBlack,
    next_of_not_white _ _ black, load_cons, Option.bind_eq_bind, Option.bind_some, proper,
    if_false, ne_eq, not_true_eq_false, Option.pure_def]

theorem valueOfKey_correct (v : Scalar) (afterKey beforeValue : List White) (tail : Pointer) :
    valueOfKey (quote :: (whites afterKey ++ colon :: (whites beforeValue ++ (v.text ++ tail)))) =
      some (some (v.text ++ tail)) := by
  obtain ⟨byte, rest, text, black, proper⟩ := scalar_head v
  rw [text, List.cons_append]
  exact valueOfKey_before byte _ afterKey beforeValue black proper

theorem digit_alnum (d : Fin 10) : (isAlpha (digit d) || isDigit (digit d)) = true := by
  revert d
  decide

theorem word_alnum (v : Scalar) (word : v.text.head? ≠ some quote) :
    ∀ byte ∈ v.text, (isAlpha byte || isDigit byte) = true := by
  cases v with
  | string pieces => exact absurd rfl word
  | number first rest =>
    intro byte member
    obtain ⟨d, -, rfl⟩ := List.mem_map.mp member
    exact digit_alnum d
  | bool value => cases value <;> exact List.all_eq_true.mp (by decide)
  | null => exact List.all_eq_true.mp (by decide)

theorem stop_of_whites (ws : List White) (separator : UInt8) (tail : Pointer)
    (stops : (isAlpha separator || isDigit separator) = false) :
    ∃ stop rest, whites ws ++ separator :: tail = stop :: rest ∧
      (isAlpha stop || isDigit stop) = false := by
  cases ws with
  | nil => exact ⟨separator, tail, rfl, stops⟩
  | cons w ws => exact ⟨w.byte, whites ws ++ separator :: tail, rfl, by cases w <;> decide⟩

theorem ends_at_separator (separator : UInt8) (tail : Pointer) :
    (if separator ≠ comma then (pure none : Option (Option Pointer))
      else pure (some (separator :: tail))) =
        some (if separator = comma then some (separator :: tail) else none) := by
  by_cases more : separator = comma <;> simp [more]

theorem skipValue_string (pieces : List Piece) (ws : List White) (separator : UInt8)
    (tail : Pointer) (black : isWhiteSpace separator = false) :
    skipValue (quote :: (pieces.flatMap Piece.text ++ quote :: (whites ws ++ separator :: tail))) =
      some (if separator = comma then some (separator :: tail) else none) := by
  have notNul : ¬ quote = 0 := by decide
  simp only [skipValue, load_cons, advance_cons, Option.bind_eq_bind, Option.bind_some,
    jsonFindQuote_pieces, jsonFindQuote_quote, notNul, if_true, if_false, next_whites,
    next_of_not_white _ _ black]
  exact ends_at_separator separator tail

theorem skipValue_word (word : List UInt8) (ws : List White) (separator : UInt8) (tail : Pointer)
    (alnum : ∀ byte ∈ word, (isAlpha byte || isDigit byte) = true) (letters : word ≠ [])
    (black : isWhiteSpace separator = false)
    (stops : (isAlpha separator || isDigit separator) = false) :
    skipValue (word ++ (whites ws ++ separator :: tail)) =
      some (if separator = comma then some (separator :: tail) else none) := by
  obtain ⟨stop, rest, spaces, stopEnds⟩ := stop_of_whites ws separator tail stops
  have skipped := skipAlphaDigit_append word rest stop alnum stopEnds
  rw [← spaces] at skipped
  obtain ⟨byte, more, rfl⟩ := List.exists_cons_of_ne_nil letters
  have notQuote : ¬ byte = quote := by
    intro same
    have letter := alnum byte (by simp)
    rw [same] at letter
    exact absurd letter (by decide)
  rw [List.cons_append] at skipped ⊢
  simp only [skipValue, load_cons, Option.bind_eq_bind, Option.bind_some, notQuote, if_false,
    skipped, next_whites, next_of_not_white _ _ black]
  exact ends_at_separator separator tail

theorem skipValue_text (v : Scalar) (ws : List White) (separator : UInt8) (tail : Pointer)
    (black : isWhiteSpace separator = false)
    (stops : (isAlpha separator || isDigit separator) = false) :
    skipValue (v.text ++ (whites ws ++ separator :: tail)) =
      some (if separator = comma then some (separator :: tail) else none) := by
  by_cases string : v.text.head? = some quote
  · cases v with
    | string pieces => simpa [Scalar.text] using skipValue_string pieces ws separator tail black
    | number first rest => exact absurd string (by revert first; simp [Scalar.text]; decide)
    | bool value => cases value <;> exact absurd string (by decide)
    | null => exact absurd string (by decide)
  · obtain ⟨byte, more, text, -, -⟩ := scalar_head v
    exact skipValue_word v.text ws separator tail (word_alnum v string) (by simp [text]) black stops

theorem nextPair_correct (byte : UInt8) (keyRest : List UInt8) (plain : ∀ b ∈ keyRest, Plain b)
    (v : Scalar) (afterKey beforeValue afterValue : List White) (separator : UInt8) (tail : Pointer)
    (black : isWhiteSpace separator = false)
    (stops : (isAlpha separator || isDigit separator) = false) :
    nextPair (byte :: (keyRest ++ quote :: (whites afterKey ++ colon :: (whites beforeValue ++
        (v.text ++ (whites afterValue ++ separator :: tail)))))) =
      some (if separator = comma then some (separator :: tail) else none) := by
  -- The scan may start at any byte of the key, as long as the rest of it is plain.
  have notNul : ¬ quote = 0 := by decide
  simp only [nextPair, advance_cons, Option.bind_eq_bind, Option.bind_some,
    jsonFindQuote_skip _ _ plain, jsonFindQuote_quote, load_cons, notNul, if_false,
    valueOfKey_correct, skipValue_text v afterValue separator tail black stops]

def valueThen (m : Member) (tail : Pointer) : Pointer :=
  m.value.text ++ (whites m.afterValue ++ tail)

theorem searchPair_member (key : List UInt8) (keyPlain : ∀ b ∈ key, Plain b) (m : Member)
    (before : List UInt8) (beforePlain : ∀ b ∈ before, Plain b) (separator : UInt8)
    (tail : Pointer) (black : isWhiteSpace separator = false)
    (stops : (isAlpha separator || isDigit separator) = false) :
    searchPair key (before ++ (m.text ++ separator :: tail)) =
      some (if m.keyText = key then .done (some (valueThen m (separator :: tail)))
        else if separator = comma then .again (separator :: tail) else .done none) := by
  let fromColon := whites m.afterKey ++ colon :: (whites m.beforeValue ++
    (m.value.text ++ (whites m.afterValue ++ separator :: tail)))
  have shape : before ++ (m.text ++ separator :: tail) =
      before ++ (whites m.beforeKey ++ quote :: (m.keyText ++ quote :: fromColon)) := by
    simp [Member.text, fromColon]
  have quoteFree : quote ∉ key := fun member => (keyPlain _ member).2.1 rfl
  have turn (byte : UInt8) (keyRest : List UInt8) (plain : ∀ b ∈ keyRest, Plain b) :=
    nextPair_correct byte keyRest plain m.value m.afterKey m.beforeValue m.afterValue separator
      tail black stops
  rw [shape]
  simp only [searchPair, jsonFindQuote_skip _ _ beforePlain,
    jsonFindQuote_skip _ _ (fun _ => plain_of_mem_whites), jsonFindQuote_quote, advance_cons,
    Option.bind_eq_bind, Option.bind_some, startsWith_stopped key m.keyText fromColon quote quoteFree]
  by_cases begins : key <+: m.keyText
  · obtain ⟨more, split⟩ := begins
    have morePlain : ∀ b ∈ more, Plain b := fun b member =>
      Member.plain_of_mem_keyText (by rw [← split]; exact List.mem_append_right key member)
    simp only [← split, List.prefix_append, decide_true, if_true, List.append_assoc,
      List.drop_left]
    cases more with
    | nil =>
      simp only [List.nil_append, load_cons, Option.bind_some, if_true, List.append_nil, fromColon,
        valueOfKey_correct, valueThen, Option.pure_def]
    | cons byte more =>
      have notQuote : ¬ byte = quote := (morePlain byte (by simp)).2.1
      have longer : ¬ key ++ byte :: more = key := by simp
      simp only [List.cons_append, load_cons, Option.bind_some, notQuote, longer, if_false,
        fromColon, turn byte more fun b member => morePlain b (List.mem_cons_of_mem _ member)]
      by_cases again : separator = comma <;> simp [again]
  · have differ : ¬ m.keyText = key := fun same => begins (same ▸ List.prefix_refl _)
    simp only [begins, decide_false, Bool.false_eq_true, if_false, differ, fromColon,
      turn quote m.keyText fun _ => Member.plain_of_mem_keyText]
    by_cases again : separator = comma <;> simp [again]

def valuePointer (key : List UInt8) : Member -> List Member -> Pointer -> Option Pointer
  | m, [], tail => if m.keyText = key then some (valueThen m (closeBrace :: tail)) else none
  | m, m' :: rest, tail =>
    if m.keyText = key then
      some (valueThen m (comma :: (m'.text ++ (membersText rest ++ closeBrace :: tail))))
    else valuePointer key m' rest tail

theorem searchPairs_members (key : List UInt8) (keyPlain : ∀ b ∈ key, Plain b) (m : Member)
    (rest : List Member) (before : List UInt8) (beforePlain : ∀ b ∈ before, Plain b)
    (started : before ≠ []) (tail : Pointer) (fuel : Nat) (enough : rest.length < fuel) :
    searchPairs key fuel (before ++ (m.text ++ (membersText rest ++ closeBrace :: tail))) =
      some (valuePointer key m rest tail) := by
  induction rest generalizing m before fuel with
  | nil =>
    obtain ⟨fuel, rfl⟩ : ∃ n, fuel = n + 1 := ⟨fuel - 1, by omega⟩
    obtain ⟨byte, before', rfl⟩ := List.exists_cons_of_ne_nil started
    have notNul : ¬ byte = 0 := (beforePlain byte (by simp)).1
    have turn := searchPair_member key keyPlain m (byte :: before') beforePlain closeBrace tail
      (by decide) (by decide)
    have notComma : ¬ closeBrace = comma := by decide
    simp only [membersText, List.nil_append, List.cons_append] at turn ⊢
    simp only [searchPairs, load_cons, Option.bind_eq_bind, Option.bind_some, notNul, if_false,
      turn, notComma, valuePointer]
    split_ifs <;> rfl
  | cons m' rest ih =>
    obtain ⟨fuel, rfl⟩ : ∃ n, fuel = n + 1 := ⟨fuel - 1, by omega⟩
    obtain ⟨byte, before', rfl⟩ := List.exists_cons_of_ne_nil started
    have notNul : ¬ byte = 0 := (beforePlain byte (by simp)).1
    have turn := searchPair_member key keyPlain m (byte :: before') beforePlain comma
      (m'.text ++ (membersText rest ++ closeBrace :: tail)) (by decide) (by decide)
    have onward := ih m' [comma] (plain_of_all _ (by decide)) (by decide) fuel (by simpa using enough)
    simp only [membersText, List.cons_append, List.append_assoc, List.nil_append] at turn onward ⊢
    simp only [searchPairs, load_cons, Option.bind_eq_bind, Option.bind_some, notNul, if_false,
      turn, if_true, valuePointer]
    split_ifs
    · rfl
    · exact onward

theorem jsonGetValue_object (key : List UInt8) (keyPlain : ∀ b ∈ key, Plain b) (o : Object)
    (stale : List UInt8) :
    jsonGetValue (o.text ++ 0 :: stale) key =
      some (valuePointer key o.first o.rest (whites o.afterObject ++ 0 :: stale)) := by
  have shape : o.text ++ 0 :: stale = (whites o.beforeObject ++ [openBrace]) ++ (o.first.text ++
      (membersText o.rest ++ closeBrace :: (whites o.afterObject ++ 0 :: stale))) := by
    simp [Object.text]
  have beforePlain : ∀ b ∈ whites o.beforeObject ++ [openBrace], Plain b := by
    intro b member
    rcases List.mem_append.mp member with white | brace
    · exact plain_of_mem_whites white
    · rw [List.mem_singleton.mp brace]
      decide
  have counted := length_members_le o.rest
  rw [shape]
  apply searchPairs_members key keyPlain o.first o.rest _ beforePlain (by simp) _ _
  simp only [List.length_append, List.length_cons]
  omega

theorem valuePointer_skip (key : List UInt8) (m m' : Member) (front rest : List Member)
    (tail : Pointer) (other : ∀ x ∈ m :: front, x.keyText ≠ key) :
    valuePointer key m (front ++ m' :: rest) tail = valuePointer key m' rest tail := by
  induction front generalizing m with
  | nil => simp [valuePointer, other m (by simp)]
  | cons x front ih =>
    have onward := ih x fun y member => other y (List.mem_cons_of_mem _ member)
    simpa [valuePointer, other m (by simp)] using onward

theorem valuePointer_found (key : List UInt8) (m : Member) (rest : List Member) (tail : Pointer)
    (same : m.keyText = key) :
    valuePointer key m rest tail =
      some (valueThen m (membersText rest ++ closeBrace :: tail)) := by
  cases rest <;> simp [valuePointer, same, membersText]

theorem valuePointer_absent (key : List UInt8) (m : Member) (rest : List Member) (tail : Pointer)
    (other : ∀ x ∈ m :: rest, x.keyText ≠ key) :
    valuePointer key m rest tail = none := by
  induction rest generalizing m with
  | nil => simp [valuePointer, other m (by simp)]
  | cons x rest ih =>
    have onward := ih x fun y member => other y (List.mem_cons_of_mem _ member)
    simpa [valuePointer, other m (by simp)] using onward

theorem jsonGetValue_first_member (key : List UInt8) (keyPlain : ∀ b ∈ key, Plain b) (o : Object)
    (stale : List UInt8) :
    (∀ front m back, o.members = front ++ m :: back → m.keyText = key →
      (∀ other ∈ front, other.keyText ≠ key) →
      jsonGetValue (o.text ++ 0 :: stale) key = some (some (valueThen m
        (membersText back ++ closeBrace :: (whites o.afterObject ++ 0 :: stale))))) ∧
    ((∀ m ∈ o.members, m.keyText ≠ key) →
      jsonGetValue (o.text ++ 0 :: stale) key = some none) := by
  rw [jsonGetValue_object key keyPlain]
  constructor
  · intro front m back members same other
    rcases front with _ | ⟨first, front⟩
    · obtain ⟨rfl, rfl⟩ : o.first = m ∧ o.rest = back := by simpa [Object.members] using members
      rw [valuePointer_found key o.first o.rest _ same]
    · obtain ⟨rfl, rest⟩ : o.first = first ∧ o.rest = front ++ m :: back := by
        simpa [Object.members] using members
      rw [rest, valuePointer_skip key o.first m front back _ other,
        valuePointer_found key m back _ same]
  · intro other
    rw [valuePointer_absent key o.first o.rest _ other]

theorem jsonGetValue_first_member_ab :
    jsonGetValue (ascii ['{', '"', 'a', 'b', '"', ':', '1', ',', '"', 'a', '"', ':', '2', '}'] ++ [0])
      (ascii ['a']) = some (some (ascii ['2', '}'] ++ [0])) := by
  let ab : Member := { key := plainBytes (ascii ['a', 'b']) (by decide +kernel), value := .number 1 [] }
  let a : Member := { key := plainBytes (ascii ['a']) (by decide +kernel), value := .number 2 [] }
  exact (jsonGetValue_first_member (ascii ['a']) (by decide +kernel) { first := ab, rest := [a] } []).1
    [ab] a [] rfl (by decide +kernel) (by decide +kernel)

theorem startsWith_value (v : Scalar) (tail : Pointer) :
    (do if ← startsWith trueText (v.text ++ tail) then return some true
        else if ← startsWith falseText (v.text ++ tail) then return some false
        else return none) = some v.bool? := by
  cases v with
  | string pieces => rfl
  | number first rest =>
    have notLetter : ¬ digit first = 116 ∧ ¬ digit first = 102 := by revert first; decide
    have notTrue : startsWith trueText ((Scalar.number first rest).text ++ tail) = some false :=
      if_neg notLetter.1
    have notFalse : startsWith falseText ((Scalar.number first rest).text ++ tail) = some false :=
      if_neg notLetter.2
    simp [notTrue, notFalse, Scalar.bool?]
  | bool value => cases value <;> rfl
  | null => rfl

theorem valuePointer_correct (key : List UInt8) (m : Member) (rest : List Member) (tail : Pointer) :
    match valuePointer key m rest tail with
    | none => valueAt key (m :: rest) = none
    | some p => ∃ v after, valueAt key (m :: rest) = some v ∧ p = v.text ++ after := by
  induction rest generalizing m with
  | nil =>
    by_cases same : m.keyText = key
    · simp only [valuePointer, same, if_true]
      exact ⟨m.value, _, by simp [valueAt, same], rfl⟩
    · simp [valuePointer, valueAt, same]
  | cons m' rest ih =>
    by_cases same : m.keyText = key
    · simp only [valuePointer, same, if_true]
      exact ⟨m.value, _, by simp [valueAt, same], rfl⟩
    · have later : valueAt key (m :: m' :: rest) = valueAt key (m' :: rest) := by
        simp [valueAt, List.find?_cons, same]
      simpa only [valuePointer, same, if_false, later] using ih m'

theorem jsonGetBool_object (key : List UInt8) (keyPlain : ∀ b ∈ key, Plain b) (o : Object)
    (stale : List UInt8) :
    jsonGetBool (o.text ++ 0 :: stale) key = some (o.boolAt key) := by
  have found := valuePointer_correct key o.first o.rest (whites o.afterObject ++ 0 :: stale)
  simp only [jsonGetBool, jsonGetValue_object key keyPlain, Option.bind_eq_bind, Option.bind_some,
    Object.boolAt, Object.members]
  cases value : valuePointer key o.first o.rest (whites o.afterObject ++ 0 :: stale) with
  | none =>
    rw [value] at found
    simp only [found]
    rfl
  | some p =>
    rw [value] at found
    obtain ⟨v, after, lookup, rfl⟩ := found
    simp only [lookup, Option.bind_some]
    exact startsWith_value v after

end AvrVoiceControl.Json
