import AvrVoiceControl.JsonLookup
import AvrVoiceControl.Library.JsonRecord

set_option autoImplicit false

namespace AvrVoiceControl.Json

open CString FlatJson

inductive Meeting where
  | same
  | apart
  /-- A quote that is not the end of the key is taken for it, and no colon follows, or there is none:
  NULL. -/
  | broken
  /-- The scan goes on, but not from the end of the key. -/
  | mistaken
  deriving DecidableEq

def takenForEnd (inner : List UInt8) : Meeting :=
  if (next inner).bind load = some colon then .mistaken else .broken

/-- The next quote is taken for the end of the key, wherever it is. -/
def strayed (text : List UInt8) : Meeting :=
  match jsonFindQuote text with
  | some (byte :: inner) => if byte = quote then takenForEnd inner else .broken
  | _ => .broken

/-- How a search key meets the key of a member, `after` being the text behind the key. -/
def meeting (key keyText after : List UInt8) : Meeting :=
  if keyText = key then .same
  else if key <+: keyText then
    match keyText.drop key.length with
    | [] => .same
    | byte :: more =>
      if byte = quote then takenForEnd (more ++ [quote])
      else
        match jsonFindQuote (more ++ [quote]) with
        | some [_] => .apart
        | some (_ :: inner) => takenForEnd inner
        -- A backslash that is escaped itself is taken to escape the quote behind it.
        | _ => strayed after
  else if key <+: keyText ++ quote :: after then
    match (keyText ++ quote :: after).drop key.length with
    -- The search key is the whole rest of the text, and the scan goes on behind its NUL.
    | [] => .mistaken
    | byte :: more => if byte = quote then takenForEnd more else strayed more
  else .apart

inductive Walk where
  | found (e : Entry) (later : List Entry)
  | stopped
  | mistaken
  | through

def walk (key : List UInt8) : List Entry -> List UInt8 -> Walk
  | [], _ => .through
  | e :: rest, tail =>
    match meeting key e.keyText (e.fromColon ++ (entriesText rest ++ tail)) with
    | .same => .found e rest
    | .apart => if e.value.unpunctuated then walk key rest tail else .stopped
    | .broken => .stopped
    | .mistaken => .mistaken

def entryThen (e : Entry) (tail : Pointer) : Pointer :=
  e.value.text ++ (whites e.afterValue ++ tail)

/-- What JSON_getValue returns, `onward` being what it returns from behind the members. -/
def Walk.result (tail : Pointer) (onward : Option (Option Pointer)) :
    Walk -> Option (Option Pointer)
  | .found e later => some (some (entryThen e (entriesText later ++ tail)))
  | .stopped => some none
  | .mistaken => none
  | .through => onward

theorem value_head (v : Value) :
    ∃ byte rest, v.text = byte :: rest ∧ isWhiteSpace byte = false ∧
      ¬ (byte = 0 ∨ byte = closeBrace) := by
  have digitHead (d : Fin 10) :
      isWhiteSpace (digit d) = false ∧ ¬ (digit d = 0 ∨ digit d = closeBrace) := by
    revert d
    decide
  cases v with
  | string pieces => exact ⟨quote, _, rfl, by decide, by decide⟩
  | number n =>
    obtain ⟨negative, first, rest, fraction, exponent⟩ := n
    cases negative
    · exact ⟨digit first, _, rfl, digitHead first⟩
    · exact ⟨minus, _, rfl, by decide, by decide⟩
  | bool value => cases value <;> exact ⟨_, _, rfl, by decide, by decide⟩
  | null => exact ⟨_, _, rfl, by decide, by decide⟩

theorem digits_alnum (digits : List (Fin 10)) :
    ∀ byte ∈ digits.map digit, (isAlpha byte || isDigit byte) = true := by
  intro byte member
  obtain ⟨d, -, rfl⟩ := List.mem_map.mp member
  exact digit_alnum d

theorem numberText_alnum (n : Number) (word : n.unpunctuated = true) :
    ∀ byte ∈ n.text, (isAlpha byte || isDigit byte) = true := by
  obtain ⟨negative, first, rest, fraction, exponent⟩ := n
  simp only [Number.unpunctuated, Bool.and_eq_true, Bool.not_eq_true', Option.isNone_iff_eq_none]
    at word
  obtain ⟨⟨rfl, rfl⟩, unsigned⟩ := word
  have whole := digits_alnum (first :: rest)
  cases exponent with
  | none => simpa [Number.text, Number.whole, fractionText, exponentText] using whole
  | some e =>
    obtain ⟨capital, sign, eFirst, eRest⟩ := e
    have noSign : sign = none := by simpa using unsigned
    subst noSign
    have power := digits_alnum (eFirst :: eRest)
    have letter : (isAlpha (if capital then 69 else 101) || isDigit (if capital then 69 else 101))
        = true := by cases capital <;> decide
    intro byte member
    simp only [Number.text, Number.whole, fractionText, exponentText, Exponent.text,
      Exponent.signText, Exponent.letter, List.mem_append, Bool.false_eq_true, if_false,
      List.not_mem_nil, or_false, List.cons_append, List.nil_append,
      List.mem_cons] at member
    rcases member with digits | rfl | digits
    · exact whole byte digits
    · exact letter
    · exact power byte digits

theorem numberText_punctuation (n : Number) (marked : n.unpunctuated = false) :
    ∃ word stop rest, n.text = word ++ stop :: rest ∧
      (∀ byte ∈ word, (isAlpha byte || isDigit byte) = true) ∧
      (stop = minus ∨ stop = plus ∨ stop = dot) := by
  obtain ⟨negative, first, rest, fraction, exponent⟩ := n
  have whole := digits_alnum (first :: rest)
  cases negative with
  | true => exact ⟨[], minus, _, rfl, by simp, .inl rfl⟩
  | false =>
    cases fraction with
    | some digits =>
      refine ⟨_, dot, (digits.1 :: digits.2).map digit ++ exponentText exponent, ?_, whole,
        .inr (.inr rfl)⟩
      simp [Number.text, fractionText, Number.whole]
    | none =>
      cases exponent with
      | none => simp [Number.unpunctuated] at marked
      | some e =>
        obtain ⟨capital, sign, eFirst, eRest⟩ := e
        have letter : (isAlpha (if capital then 69 else 101) ||
            isDigit (if capital then 69 else 101)) = true := by cases capital <;> decide
        have upToSign : ∀ byte ∈ (first :: rest).map digit ++ [if capital then 69 else 101],
            (isAlpha byte || isDigit byte) = true := by
          intro byte member
          rcases List.mem_append.mp member with digits | last
          · exact whole byte digits
          · exact List.mem_singleton.mp last ▸ letter
        cases sign with
        | none => simp [Number.unpunctuated] at marked
        | some negative =>
          refine ⟨_, if negative then minus else plus, (eFirst :: eRest).map digit, ?_, upToSign,
            by cases negative <;> decide⟩
          cases negative <;> simp [Number.text, Number.whole, fractionText, exponentText,
            Exponent.text, Exponent.letter, Exponent.signText]

theorem skipValue_stuck (word : List UInt8) (stop : UInt8) (rest : Pointer)
    (alnum : ∀ byte ∈ word, (isAlpha byte || isDigit byte) = true)
    (stuck : stop = minus ∨ stop = plus ∨ stop = dot) :
    skipValue (word ++ stop :: rest) = some none := by
  have stops : (isAlpha stop || isDigit stop) = false := by
    rcases stuck with rfl | rfl | rfl <;> decide
  have black : isWhiteSpace stop = false := by
    rcases stuck with rfl | rfl | rfl <;> decide
  have notComma : ¬ stop = comma := by
    rcases stuck with rfl | rfl | rfl <;> decide
  have skipped := skipAlphaDigit_append word rest stop alnum stops
  obtain ⟨byte, more, text⟩ : ∃ byte more, word ++ stop :: rest = byte :: more := by
    cases word <;> exact ⟨_, _, rfl⟩
  have notQuote : ¬ byte = quote := by
    rintro rfl
    cases word with
    | nil =>
      have same : stop = quote := (List.cons.inj text).1
      rcases stuck with rfl | rfl | rfl <;> exact absurd same (by decide)
    | cons letter word =>
      have same : letter = quote := (List.cons.inj text).1
      exact absurd (alnum letter (by simp)) (by rw [same]; decide)
  rw [text] at skipped ⊢
  simp only [skipValue, load_cons, Option.bind_eq_bind, Option.bind_some, notQuote, if_false,
    skipped, next_of_not_white _ _ black, ne_eq, notComma, not_false_eq_true, if_true,
    Option.pure_def]

theorem skipValue_value (v : Value) (ws : List White) (separator : UInt8) (tail : Pointer)
    (black : isWhiteSpace separator = false)
    (stops : (isAlpha separator || isDigit separator) = false) :
    skipValue (v.text ++ (whites ws ++ separator :: tail)) =
      some (if v.unpunctuated ∧ separator = comma then some (separator :: tail) else none) := by
  obtain ⟨byte, more, head, -, -⟩ := value_head v
  have word (alnum : ∀ b ∈ v.text, (isAlpha b || isDigit b) = true) :=
    skipValue_word v.text ws separator tail alnum (by simp [head]) black stops
  cases v with
  | string pieces =>
    simpa [Value.text, Value.unpunctuated] using skipValue_string pieces ws separator tail black
  | number n =>
    by_cases plain : n.unpunctuated = true
    · simpa [Value.unpunctuated, plain] using word (numberText_alnum n plain)
    · obtain ⟨letters, stop, rest, text, alnum, stuck⟩ :=
        numberText_punctuation n (Bool.eq_false_iff.mpr plain)
      have blocked := skipValue_stuck letters stop (rest ++ (whites ws ++ separator :: tail)) alnum
        stuck
      simpa [Value.text, Value.unpunctuated, text, plain] using blocked
  | bool value =>
    have letters : ∀ b ∈ boolText value, (isAlpha b || isDigit b) = true := by
      cases value <;> exact List.all_eq_true.mp (by decide)
    simpa [Value.unpunctuated] using word letters
  | null => simpa [Value.unpunctuated] using word (List.all_eq_true.mp (by decide))

theorem valueOfKey_entry (e : Entry) (tail : Pointer) :
    valueOfKey (quote :: (e.fromColon ++ tail)) = some (some (entryThen e tail)) := by
  obtain ⟨byte, rest, head, black, proper⟩ := value_head e.value
  have found := valueOfKey_before byte (rest ++ (whites e.afterValue ++ tail)) e.afterKey
    e.beforeValue black proper
  simpa [Entry.fromColon, entryThen, head] using found

theorem nextPair_eq (a : Pointer) :
    nextPair a = (advance a).bind fun p => (jsonFindQuote p).bind fun p => (load p).bind fun byte =>
      if byte = 0 then some none
      else (valueOfKey p).bind fun value =>
        match value with
        | none => some none
        | some p => skipValue p := by
  rfl

theorem nextPair_behindKey {p after : Pointer}
    (behindKey : (advance p).bind jsonFindQuote = some (quote :: after)) :
    nextPair p = (valueOfKey (quote :: after)).bind fun value =>
      match value with
      | none => some none
      | some p => skipValue p := by
  obtain ⟨rest, moved, closing⟩ := Option.bind_eq_some_iff.mp behindKey
  have notNul : ¬ quote = 0 := by decide
  rw [nextPair_eq, moved, Option.bind_some, closing, Option.bind_some, load_cons, Option.bind_some,
    if_neg notNul]

theorem nextPair_entry (p : Pointer) (e : Entry) (separator : UInt8) (tail : Pointer)
    (behindKey : (advance p).bind jsonFindQuote =
      some (quote :: (e.fromColon ++ separator :: tail)))
    (black : isWhiteSpace separator = false)
    (stops : (isAlpha separator || isDigit separator) = false) :
    nextPair p = some (if e.value.unpunctuated ∧ separator = comma then
      some (separator :: tail) else none) := by
  rw [nextPair_behindKey behindKey, valueOfKey_entry, Option.bind_some]
  exact skipValue_value e.value e.afterValue separator tail black stops

theorem jsonFindQuote_append (a b q : Pointer) (found : jsonFindQuote a = some q) :
    jsonFindQuote (a ++ b) = some (q ++ b) := by
  induction a using jsonFindQuote.induct generalizing q with
  | case1 => simp [jsonFindQuote] at found
  | case2 rest =>
    obtain rfl : 0 :: rest = q := by simpa using found
    simp
  | case3 rest _ =>
    obtain rfl : quote :: rest = q := by simpa using found
    simp
  | case4 =>
    have unfinished : jsonFindQuote [backslash] = none := by decide
    simp [unfinished] at found
  | case5 rest =>
    obtain rfl : 0 :: rest = q := by simpa using found
    simp
  | case6 escaped rest nonzero _ _ ih =>
    rw [jsonFindQuote_escape _ _ nonzero] at found
    rw [List.cons_append, List.cons_append, jsonFindQuote_escape _ _ nonzero, ih q found]
  | case7 byte rest notNul notQuote notBackslash ih =>
    rw [jsonFindQuote_plain _ _ ⟨notNul, notQuote, notBackslash⟩] at found
    rw [List.cons_append, jsonFindQuote_plain _ _ ⟨notNul, notQuote, notBackslash⟩, ih q found]

theorem jsonFindQuote_suffix (a q : Pointer) (found : jsonFindQuote a = some q) :
    ∃ byte inner, q = byte :: inner ∧ (byte = 0 ∨ byte = quote) ∧ q <:+ a := by
  induction a using jsonFindQuote.induct generalizing q with
  | case1 => simp [jsonFindQuote] at found
  | case2 rest =>
    obtain rfl : 0 :: rest = q := by simpa using found
    exact ⟨0, rest, rfl, .inl rfl, List.suffix_rfl⟩
  | case3 rest _ =>
    obtain rfl : quote :: rest = q := by simpa using found
    exact ⟨quote, rest, rfl, .inr rfl, List.suffix_rfl⟩
  | case4 =>
    have unfinished : jsonFindQuote [backslash] = none := by decide
    simp [unfinished] at found
  | case5 rest =>
    obtain rfl : 0 :: rest = q := by simpa using found
    exact ⟨0, rest, rfl, .inl rfl, List.suffix_cons _ _⟩
  | case6 escaped rest nonzero _ _ ih =>
    rw [jsonFindQuote_escape _ _ nonzero] at found
    obtain ⟨byte, inner, shape, ends, inside⟩ := ih q found
    exact ⟨byte, inner, shape, ends, inside.trans ⟨[backslash, escaped], rfl⟩⟩
  | case7 byte rest notNul notQuote notBackslash ih =>
    rw [jsonFindQuote_plain _ _ ⟨notNul, notQuote, notBackslash⟩] at found
    obtain ⟨last, inner, shape, ends, inside⟩ := ih q found
    exact ⟨last, inner, shape, ends, inside.trans (List.suffix_cons _ _)⟩

theorem next_append (a b : Pointer) (byte : UInt8) (rest : Pointer)
    (found : next a = some (byte :: rest)) : next (a ++ b) = some (byte :: rest ++ b) := by
  induction a with
  | nil => simp [next] at found
  | cons first a ih =>
    by_cases white : first ≠ 0 ∧ isWhiteSpace first
    · simp_all [next]
    · simp_all [next]

theorem next_stops (a : Pointer) (closes : quote ∈ a) : ∃ byte rest, next a = some (byte :: rest) := by
  induction a with
  | nil => simp at closes
  | cons first a ih =>
    by_cases white : first ≠ 0 ∧ isWhiteSpace first
    · have later : quote ∈ a := by
        rcases List.mem_cons.mp closes with rfl | later
        · exact absurd white.2 (by decide)
        · exact later
      simpa [next, white] using ih later
    · exact ⟨first, a, by simp only [next, white, if_false]⟩

theorem valueOfKey_broken (inner behind : Pointer) (closes : quote ∈ inner)
    (broken : takenForEnd inner = .broken) :
    valueOfKey (quote :: (inner ++ behind)) = some none := by
  obtain ⟨byte, rest, stopped⟩ := next_stops inner closes
  have notColon : byte ≠ colon := by
    rintro rfl
    simp [takenForEnd, stopped] at broken
  simp only [valueOfKey, advance_cons, Option.bind_eq_bind, Option.bind_some,
    next_append inner behind byte rest stopped, List.cons_append, load_cons, ne_eq, notColon,
    not_false_eq_true, if_true, Option.pure_def]

theorem next_cases (a stale : Pointer) :
    (∃ byte rest, next a = some (byte :: rest)) ∨
      next a = none ∧ next (a ++ 0 :: stale) = some (0 :: stale) := by
  induction a with
  | nil => exact .inr ⟨rfl, by simp [next]⟩
  | cons first a ih =>
    by_cases white : first ≠ 0 ∧ isWhiteSpace first
    · simpa [next, white] using ih
    · exact .inl ⟨first, a, by simp only [next, white, if_false]⟩

theorem valueOfKey_ended (inner stale : Pointer) (broken : takenForEnd inner = .broken) :
    valueOfKey (quote :: (inner ++ 0 :: stale)) = some none := by
  have ends : ∃ byte rest, next (inner ++ 0 :: stale) = some (byte :: rest) ∧ byte ≠ colon := by
    rcases next_cases inner stale with ⟨byte, rest, stopped⟩ | ⟨-, ended⟩
    · refine ⟨byte, _, next_append inner _ byte rest stopped, ?_⟩
      rintro rfl
      simp [takenForEnd, stopped] at broken
    · exact ⟨0, stale, ended, by decide⟩
  obtain ⟨byte, rest, stopped, notColon⟩ := ends
  simp only [valueOfKey, advance_cons, Option.bind_eq_bind, Option.bind_some, stopped, load_cons,
    ne_eq, notColon, not_false_eq_true, if_true, Option.pure_def]

theorem jsonFindQuote_ends (a stale : Pointer) (unfound : jsonFindQuote a = none) :
    jsonFindQuote (a ++ 0 :: stale) = some (0 :: stale) := by
  induction a using jsonFindQuote.induct with
  | case1 => exact jsonFindQuote_nul stale
  | case2 rest => simp at unfound
  | case3 rest _ => simp at unfound
  | case4 => exact jsonFindQuote_backslash_nul stale
  | case5 rest => simp at unfound
  | case6 escaped rest nonzero _ _ ih =>
    rw [jsonFindQuote_escape _ _ nonzero] at unfound
    rw [List.cons_append, List.cons_append, jsonFindQuote_escape _ _ nonzero, ih unfound]
  | case7 byte rest notNul notQuote notBackslash ih =>
    rw [jsonFindQuote_plain _ _ ⟨notNul, notQuote, notBackslash⟩] at unfound
    rw [List.cons_append, jsonFindQuote_plain _ _ ⟨notNul, notQuote, notBackslash⟩, ih unfound]

theorem jsonFindQuote_overrun (a behind : Pointer) (unfound : jsonFindQuote (a ++ [quote]) = none) :
    jsonFindQuote (a ++ quote :: behind) = jsonFindQuote behind := by
  have noNul : ¬ quote = 0 := by decide
  induction a using jsonFindQuote.induct with
  | case1 => simp at unfound
  | case2 rest => simp at unfound
  | case3 rest _ => simp at unfound
  | case4 => exact jsonFindQuote_escape quote behind noNul
  | case5 rest => simp at unfound
  | case6 escaped rest nonzero _ _ ih =>
    rw [List.cons_append, List.cons_append, jsonFindQuote_escape _ _ nonzero] at unfound ⊢
    exact ih unfound
  | case7 byte rest notNul notQuote notBackslash ih =>
    rw [List.cons_append, jsonFindQuote_plain _ _ ⟨notNul, notQuote, notBackslash⟩] at unfound ⊢
    exact ih unfound

def Meeting.turn (e : Entry) (separator : UInt8) (tail : Pointer) : Meeting -> Turn
  | .same => .done (some (entryThen e (separator :: tail)))
  | .apart =>
    if e.value.unpunctuated ∧ separator = comma then .again (separator :: tail) else .done none
  | .broken => .done none
  | .mistaken => .done none

theorem keyText_nul (e : Entry) : 0 ∉ e.keyText := by
  intro member
  obtain ⟨piece, -, inside⟩ := List.mem_flatMap.mp member
  cases piece with
  | plain byte => exact byte.property.1 (List.mem_singleton.mp inside).symm
  | escape byte =>
    rcases List.mem_cons.mp inside with slash | last
    · exact absurd slash (by decide)
    · exact byte.property (List.mem_singleton.mp last).symm

theorem jsonFindQuote_inner (more q : Pointer) (found : jsonFindQuote (more ++ [quote]) = some q)
    (nul : 0 ∉ more) : ∃ inner, q = quote :: inner ∧ (inner ≠ [] → quote ∈ inner) := by
  obtain ⟨byte, inner, rfl, ends, inside⟩ := jsonFindQuote_suffix _ _ found
  have isQuote : byte = quote := by
    rcases ends with rfl | isQuote
    · have member : (0 : UInt8) ∈ more ++ [quote] := inside.subset (by simp)
      simp only [List.mem_append, nul, List.mem_singleton, false_or] at member
      exact absurd member (by decide)
    · exact isQuote
  refine ⟨inner, by rw [isQuote], fun nonempty => ?_⟩
  have last := ((List.suffix_cons byte inner).trans inside).getLast nonempty
  rw [List.getLast_append_singleton] at last
  exact last ▸ List.getLast_mem nonempty

theorem meeting_begun (key more after : List UInt8) (byte : UInt8) :
    meeting key (key ++ byte :: more) after =
      if byte = quote then takenForEnd (more ++ [quote])
      else
        match jsonFindQuote (more ++ [quote]) with
        | some [_] => .apart
        | some (_ :: inner) => takenForEnd inner
        | _ => strayed after := by
  have longer : ¬ key ++ byte :: more = key := by simp
  simp only [meeting, longer, if_false, List.prefix_append, if_true, List.drop_left]

theorem nextPair_broken (p inner behind : Pointer)
    (behindKey : (advance p).bind jsonFindQuote = some (quote :: (inner ++ behind)))
    (closes : quote ∈ inner) (broken : takenForEnd inner = .broken) :
    nextPair p = some none := by
  rw [nextPair_behindKey behindKey, valueOfKey_broken inner behind closes broken]
  rfl

theorem takenForEnd_broken {inner : List UInt8} (clear : takenForEnd inner ≠ .mistaken) :
    takenForEnd inner = .broken := by
  unfold takenForEnd at clear ⊢
  split_ifs at clear ⊢ <;> first | rfl | exact absurd rfl clear

theorem strayed_broken {text : List UInt8} (clear : strayed text ≠ .mistaken) :
    strayed text = .broken := by
  unfold strayed at clear ⊢
  split at clear
  next byte inner found =>
    by_cases closes : byte = quote
    next =>
      rw [if_pos closes] at clear ⊢
      exact takenForEnd_broken clear
    next => rw [if_neg closes]
  next => rfl

/-- What the loop does with the rest of a pair, from a pointer before the end of its key. -/
def goOn (p : Pointer) : Option Turn :=
  (nextPair p).bind fun pair =>
    match pair with
    | none => some (.done none)
    | some p => some (.again p)

theorem searchPair_eq (key : List UInt8) (a : Pointer) :
    searchPair key a = (jsonFindQuote a).bind fun p => (advance p).bind fun behind =>
      (startsWith key behind).bind fun begins =>
        if begins = true then
          (load (behind.drop key.length)).bind fun byte =>
            if byte = quote then
              (valueOfKey (behind.drop key.length)).bind fun value => some (.done value)
            else goOn (behind.drop key.length)
        else goOn p := by
  cases found : jsonFindQuote a with
  | none => simp [searchPair, found]
  | some p =>
    cases p with
    | nil => simp [searchPair, found, advance]
    | cons byte rest =>
      rw [searchPair, found]
      rfl

theorem goOn_strayed {p text stale : Pointer}
    (reached : (advance p).bind jsonFindQuote = jsonFindQuote (text ++ 0 :: stale))
    (broken : strayed text = .broken) : goOn p = some (.done none) := by
  have pair : nextPair p = some none := by
    rw [nextPair_eq, ← Option.bind_assoc, reached]
    cases found : jsonFindQuote text with
    | none =>
      rw [jsonFindQuote_ends text stale found]
      rfl
    | some q =>
      obtain ⟨byte, inner, rfl, ends, -⟩ := jsonFindQuote_suffix text q found
      rw [jsonFindQuote_append text (0 :: stale) _ found, Option.bind_some]
      rcases ends with rfl | rfl
      next => rfl
      next =>
        have taken : takenForEnd inner = .broken := by simpa [strayed, found] using broken
        have notNul : ¬ quote = 0 := by decide
        simp only [List.cons_append, load_cons, Option.bind_some, notNul, if_false,
          valueOfKey_ended inner stale taken]
  rw [goOn, pair]
  rfl

theorem goOn_apart (p : Pointer) (e : Entry) (separator : UInt8) (tail : Pointer)
    (behindKey : (advance p).bind jsonFindQuote =
      some (quote :: (e.fromColon ++ separator :: tail)))
    (black : isWhiteSpace separator = false)
    (stops : (isAlpha separator || isDigit separator) = false) :
    goOn p = some (Meeting.apart.turn e separator tail) := by
  rw [goOn, nextPair_entry p e separator tail behindKey black stops]
  simp only [Meeting.turn, Option.bind_some]
  split_ifs <;> rfl

theorem searchPair_compared (key keyText behind before : List UInt8) (ws : List White)
    (beforePlain : ∀ b ∈ before, Plain b) (begins : Bool)
    (compared : startsWith key (keyText ++ quote :: behind) = some begins) :
    searchPair key (before ++ (whites ws ++ quote :: (keyText ++ quote :: behind))) =
      if begins then
        (load ((keyText ++ quote :: behind).drop key.length)).bind fun byte =>
          if byte = quote then
            (valueOfKey ((keyText ++ quote :: behind).drop key.length)).bind fun value =>
              some (.done value)
          else goOn ((keyText ++ quote :: behind).drop key.length)
      else goOn (quote :: (keyText ++ quote :: behind)) := by
  have found : jsonFindQuote (before ++ (whites ws ++ quote :: (keyText ++ quote :: behind))) =
      some (quote :: (keyText ++ quote :: behind)) := by
    rw [jsonFindQuote_skip _ _ beforePlain, jsonFindQuote_skip _ _ fun _ => plain_of_mem_whites,
      jsonFindQuote_quote]
  rw [searchPair_eq, found, Option.bind_some, advance_cons, Option.bind_some, compared,
    Option.bind_some]

theorem turn_begun (key more : List UInt8) (byte : UInt8) (e : Entry) (separator : UInt8)
    (tail stale : Pointer) (nul : 0 ∉ more) (black : isWhiteSpace separator = false)
    (stops : (isAlpha separator || isDigit separator) = false)
    (clear : meeting key (key ++ byte :: more) (e.fromColon ++ separator :: tail) ≠ .mistaken) :
    (if byte = quote then
        (valueOfKey (byte :: (more ++ quote ::
          (e.fromColon ++ separator :: (tail ++ 0 :: stale))))).bind fun value => some (.done value)
      else goOn (byte :: (more ++ quote ::
        (e.fromColon ++ separator :: (tail ++ 0 :: stale))))) =
      some ((meeting key (key ++ byte :: more) (e.fromColon ++ separator :: tail)).turn e separator
        (tail ++ 0 :: stale)) := by
  rw [meeting_begun] at clear ⊢
  by_cases inside : byte = quote
  · -- The quote behind the search key is taken for the end of the key.
    simp only [inside, if_true] at clear ⊢
    have broken := takenForEnd_broken clear
    have ended := valueOfKey_broken (more ++ [quote])
      (e.fromColon ++ separator :: (tail ++ 0 :: stale)) (by simp) broken
    simp only [List.append_assoc, List.singleton_append] at ended
    simp only [ended, Option.bind_some, broken, Meeting.turn]
  · simp only [inside, if_false] at clear ⊢
    cases found : jsonFindQuote (more ++ [quote]) with
    | none =>
      simp only [found] at clear ⊢
      have broken := strayed_broken clear
      have overrun := jsonFindQuote_overrun more
        (e.fromColon ++ separator :: (tail ++ 0 :: stale)) found
      have reached : (advance (byte :: (more ++ quote ::
          (e.fromColon ++ separator :: (tail ++ 0 :: stale))))).bind jsonFindQuote =
          jsonFindQuote ((e.fromColon ++ separator :: tail) ++ 0 :: stale) := by
        rw [advance_cons, Option.bind_some, overrun, List.append_assoc, List.cons_append]
      rw [goOn_strayed reached broken, broken]
      rfl
    | some q =>
      obtain ⟨inner, rfl, closes⟩ := jsonFindQuote_inner more q found nul
      have reached : (advance (byte :: (more ++ quote ::
          (e.fromColon ++ separator :: (tail ++ 0 :: stale))))).bind jsonFindQuote =
          some (quote :: (inner ++ (e.fromColon ++ separator :: (tail ++ 0 :: stale)))) := by
        simpa using jsonFindQuote_append _ (e.fromColon ++ separator :: (tail ++ 0 :: stale)) _ found
      cases inner with
      | nil => exact goOn_apart _ e separator _ reached black stops
      | cons first inner =>
        simp only [found] at clear ⊢
        have broken := takenForEnd_broken clear
        simp only [goOn, nextPair_broken _ _ _ reached (closes (by simp)) broken,
          Option.bind_some, broken, Meeting.turn]

theorem turn_beyond {here : List UInt8} (stale : Pointer)
    (clear : (match here with
      | [] => Meeting.mistaken
      | byte :: more => if byte = quote then takenForEnd more else strayed more) ≠ .mistaken) :
    ((load (here ++ 0 :: stale)).bind fun byte =>
      if byte = quote then
        (valueOfKey (here ++ 0 :: stale)).bind fun value => some (.done value)
      else goOn (here ++ 0 :: stale)) = some (.done none) := by
  cases here with
  | nil => exact absurd rfl clear
  | cons byte more =>
    dsimp only at clear
    rw [List.cons_append, load_cons, Option.bind_some]
    by_cases inside : byte = quote
    next =>
      rw [if_pos inside] at clear ⊢
      rw [inside, valueOfKey_ended more stale (takenForEnd_broken clear)]
      rfl
    next =>
      rw [if_neg inside] at clear ⊢
      exact goOn_strayed rfl (strayed_broken clear)

theorem searchPair_entry (key : List UInt8) (nul : 0 ∉ key) (e : Entry) (before : List UInt8)
    (beforePlain : ∀ b ∈ before, Plain b) (separator : UInt8) (tail stale : List UInt8)
    (black : isWhiteSpace separator = false)
    (stops : (isAlpha separator || isDigit separator) = false)
    (clear : meeting key e.keyText (e.fromColon ++ separator :: tail) ≠ .mistaken) :
    searchPair key (before ++ (e.text ++ separator :: (tail ++ 0 :: stale))) =
      some ((meeting key e.keyText (e.fromColon ++ separator :: tail)).turn e separator
        (tail ++ 0 :: stale)) := by
  let behind := e.fromColon ++ separator :: (tail ++ 0 :: stale)
  have shape : before ++ (e.text ++ separator :: (tail ++ 0 :: stale)) =
      before ++ (whites e.beforeKey ++ quote :: (e.keyText ++ quote :: behind)) := by
    simp [Entry.text, behind]
  have compared : startsWith key (e.keyText ++ quote :: behind) =
      some (decide (key <+: e.keyText ++ quote :: (e.fromColon ++ separator :: tail))) := by
    have cut := startsWith_stopped key
      (e.keyText ++ quote :: (e.fromColon ++ separator :: tail)) stale 0 nul
    simpa [behind] using cut
  rw [shape, searchPair_compared key e.keyText behind before e.beforeKey beforePlain _ compared]
  by_cases begins : key <+: e.keyText
  · obtain ⟨more, split⟩ := begins
    have starts : key <+: e.keyText ++ quote :: (e.fromColon ++ separator :: tail) := by
      rw [← split, List.append_assoc]
      exact List.prefix_append _ _
    have dropped : (e.keyText ++ quote :: behind).drop key.length = more ++ quote :: behind := by
      rw [← split, List.append_assoc, List.drop_left]
    simp only [starts, decide_true, if_true, dropped]
    cases more with
    | nil =>
      have same : e.keyText = key := by simpa using split.symm
      have met : meeting key e.keyText (e.fromColon ++ separator :: tail) = .same := if_pos same
      simp only [met, Meeting.turn, List.nil_append, load_cons, Option.bind_some, if_true, behind,
        valueOfKey_entry]
    | cons byte more =>
      have moreNul : 0 ∉ more := by
        have whole := keyText_nul e
        rw [← split] at whole
        simp only [List.mem_append, List.mem_cons, not_or] at whole
        exact whole.2.2
      rw [← split] at clear ⊢
      simp only [List.cons_append, load_cons, Option.bind_some]
      exact turn_begun key more byte e separator tail stale moreNul black stops clear
  · have differ : ¬ e.keyText = key := fun same => begins (same ▸ List.prefix_refl _)
    by_cases beyond : key <+: e.keyText ++ quote :: (e.fromColon ++ separator :: tail)
    · have dropped : (e.keyText ++ quote :: behind).drop key.length =
          (e.keyText ++ quote :: (e.fromColon ++ separator :: tail)).drop key.length ++
            0 :: stale := by
        rw [← List.drop_append_of_le_length beyond.length_le]
        simp [behind]
      simp only [meeting, differ, begins, beyond, if_true, if_false] at clear ⊢
      simp only [decide_true, if_true, dropped, turn_beyond stale clear]
      split at clear
      next => exact absurd rfl clear
      next byte more _ =>
        split_ifs at clear ⊢
        next => rw [takenForEnd_broken clear]; rfl
        next => rw [strayed_broken clear]; rfl
    · have met : meeting key e.keyText (e.fromColon ++ separator :: tail) = .apart := by
        simp only [meeting, differ, begins, beyond, if_false]
      simp only [beyond, decide_false, Bool.false_eq_true, if_false, met]
      refine goOn_apart _ e separator _ ?_ black stops
      rw [advance_cons, Option.bind_some, Entry.keyText, jsonFindQuote_pieces, jsonFindQuote_quote]

theorem searchPairs_entry (key : List UInt8) (nul : 0 ∉ key) (e : Entry) (before : List UInt8)
    (beforePlain : ∀ b ∈ before, Plain b) (started : before ≠ []) (separator : UInt8)
    (tail stale : List UInt8) (fuel : Nat) (black : isWhiteSpace separator = false)
    (stops : (isAlpha separator || isDigit separator) = false)
    (clear : meeting key e.keyText (e.fromColon ++ separator :: tail) ≠ .mistaken) :
    searchPairs key (fuel + 1) (before ++ (e.text ++ separator :: (tail ++ 0 :: stale))) =
      match meeting key e.keyText (e.fromColon ++ separator :: tail) with
      | .same => some (some (entryThen e (separator :: (tail ++ 0 :: stale))))
      | .apart =>
        if e.value.unpunctuated ∧ separator = comma then
          searchPairs key fuel (separator :: (tail ++ 0 :: stale))
        else some none
      | .broken => some none
      | .mistaken => some none := by
  have turn := searchPair_entry key nul e before beforePlain separator tail stale black stops clear
  obtain ⟨byte, before', rfl⟩ := List.exists_cons_of_ne_nil started
  have notNul : ¬ byte = 0 := (beforePlain byte (by simp)).1
  rw [List.cons_append] at turn ⊢
  simp only [searchPairs, load_cons, Option.bind_eq_bind, Option.bind_some, notNul, if_false, turn]
  cases meeting key e.keyText (e.fromColon ++ separator :: tail) with
  | apart =>
    simp only [Meeting.turn]
    split_ifs <;> rfl
  | same => rfl
  | broken => rfl
  | mistaken => rfl

theorem searchPairs_walk (key : List UInt8) (nul : 0 ∉ key) (e : Entry) (rest : List Entry)
    (before : List UInt8) (beforePlain : ∀ b ∈ before, Plain b) (started : before ≠ [])
    (separator : UInt8) (tail stale : List UInt8) (fuel : Nat)
    (black : isWhiteSpace separator = false)
    (stops : (isAlpha separator || isDigit separator) = false)
    (clear : walk key (e :: rest) (separator :: tail) ≠ .mistaken) :
    searchPairs key (fuel + rest.length + 1)
        (before ++ (e.text ++ (entriesText rest ++ separator :: (tail ++ 0 :: stale)))) =
      (walk key (e :: rest) (separator :: tail)).result (separator :: (tail ++ 0 :: stale))
        (if separator = comma then searchPairs key fuel (separator :: (tail ++ 0 :: stale))
          else some none) := by
  induction rest generalizing e before with
  | nil =>
    have step := searchPairs_entry key nul e before beforePlain started separator tail stale fuel
      black stops
    simp only [walk, entriesText, List.nil_append, List.length_nil, Nat.add_zero] at step clear ⊢
    cases met : meeting key e.keyText (e.fromColon ++ separator :: tail) with
    | same =>
      rw [step (by simp [met]), met]
      rfl
    | apart =>
      rw [step (by simp [met]), met]
      by_cases word : e.value.unpunctuated = true <;> simp [word, Walk.result]
    | broken =>
      rw [step (by simp [met]), met]
      rfl
    | mistaken => simp [met] at clear
  | cons e' rest ih =>
    -- The comma before a member is the plain text before its key.
    let later := e'.text ++ (entriesText rest ++ separator :: tail)
    have step := searchPairs_entry key nul e before beforePlain started comma later stale
      (fuel + rest.length + 1) (by decide) (by decide)
    have onward := ih e' [comma] (plain_of_all _ (by decide)) (by decide)
    have after : e.fromColon ++ (entriesText (e' :: rest) ++ separator :: tail) =
        e.fromColon ++ comma :: later := by
      simp [entriesText, later]
    have text : before ++ (e.text ++ (entriesText (e' :: rest) ++
        separator :: (tail ++ 0 :: stale))) =
        before ++ (e.text ++ comma :: (later ++ 0 :: stale)) := by
      simp [entriesText, later]
    rw [walk, after] at clear ⊢
    rw [text]
    have fuels : fuel + (e' :: rest).length + 1 = fuel + rest.length + 1 + 1 := by
      simp only [List.length_cons]
      omega
    rw [fuels]
    cases met : meeting key e.keyText (e.fromColon ++ comma :: later) with
    | same =>
      rw [step (by simp [met]), met]
      simp [Walk.result, entriesText, later]
    | apart =>
      simp only [met] at clear ⊢
      rw [step (by simp [met]), met]
      by_cases word : e.value.unpunctuated = true
      · simp only [word, if_true, true_and] at clear ⊢
        simpa [later] using onward clear
      · simp [word, Walk.result]
    | broken =>
      rw [step (by simp [met]), met]
      rfl
    | mistaken => simp [met] at clear

theorem jsonGetValue_record (key : List UInt8) (nul : 0 ∉ key) (o : Record)
    (members : o.entries ≠ []) (stale : List UInt8)
    (clear : walk key o.entries (closeBrace :: whites o.afterObject) ≠ .mistaken) :
    jsonGetValue (o.text ++ 0 :: stale) key =
      (walk key o.entries (closeBrace :: whites o.afterObject)).result
        (closeBrace :: (whites o.afterObject ++ 0 :: stale)) (some none) := by
  obtain ⟨entries, beforeObject, inside, afterObject⟩ := o
  obtain ⟨e, rest, rfl⟩ := List.exists_cons_of_ne_nil members
  let before := whites beforeObject ++ openBrace :: whites inside
  have text : (Record.mk (e :: rest) beforeObject inside afterObject).text ++ 0 :: stale =
      before ++ (e.text ++ (entriesText rest ++ closeBrace :: (whites afterObject ++ 0 :: stale))) := by
    simp [Record.text, joined, before]
  have beforePlain : ∀ b ∈ before, Plain b := by
    intro b member
    rcases List.mem_append.mp member with white | inner
    · exact plain_of_mem_whites white
    · rcases List.mem_cons.mp inner with rfl | white
      · decide
      · exact plain_of_mem_whites white
  have counted := length_entries_le rest
  let fuel := before.length + e.text.length + (entriesText rest).length - rest.length +
    (whites afterObject).length + stale.length + 2
  have enough : (before ++ (e.text ++ (entriesText rest ++
      closeBrace :: (whites afterObject ++ 0 :: stale)))).length + 1 = fuel + rest.length + 1 := by
    simp only [List.length_append, List.length_cons, fuel]
    omega
  have notComma : ¬ closeBrace = comma := by decide
  have walked := searchPairs_walk key nul e rest before beforePlain (by simp [before]) closeBrace
    (whites afterObject) stale fuel (by decide) (by decide) clear
  rw [text, jsonGetValue, enough, walked]
  simp only [notComma, if_false]

theorem takenForEnd_ne_same (inner : List UInt8) : takenForEnd inner ≠ .same := by
  unfold takenForEnd
  split_ifs <;> simp

theorem strayed_ne_same (text : List UInt8) : strayed text ≠ .same := by
  unfold strayed
  split
  · split_ifs
    · exact takenForEnd_ne_same _
    · simp
  · simp

theorem meeting_other (key keyText after : List UInt8) (other : keyText ≠ key) :
    meeting key keyText after ≠ .same := by
  by_cases begins : key <+: keyText
  · obtain ⟨more, rfl⟩ := begins
    cases more with
    | nil => simp at other
    | cons byte more =>
      rw [meeting_begun]
      by_cases inside : byte = quote
      · simpa [inside] using takenForEnd_ne_same _
      · rw [if_neg inside]
        split
        · simp
        · exact takenForEnd_ne_same _
        · exact strayed_ne_same _
  · simp only [meeting, other, begins, if_false]
    split_ifs
    · split
      · simp
      · split_ifs
        · exact takenForEnd_ne_same _
        · exact strayed_ne_same _
    · simp

theorem walk_other (key : List UInt8) (e : Entry) (rest : List Entry) (tail : List UInt8)
    (other : e.keyText ≠ key) :
    walk key (e :: rest) tail = walk key rest tail ∨ walk key (e :: rest) tail = .stopped ∨
      walk key (e :: rest) tail = .mistaken := by
  rw [walk]
  cases met : meeting key e.keyText (e.fromColon ++ (entriesText rest ++ tail)) with
  | same => exact absurd met (meeting_other _ _ _ other)
  | apart => by_cases word : e.value.unpunctuated = true <;> simp [word]
  | broken => simp
  | mistaken => simp

theorem begins_of_longer (key keyText after : List UInt8) (quoteFree : quote ∉ key)
    (beyond : key <+: keyText ++ quote :: after) : key <+: keyText := by
  obtain ⟨rest, split⟩ := beyond
  rcases List.append_eq_append_iff.mp split with ⟨more, text, -⟩ | ⟨more, text, tail⟩
  · exact ⟨more, text.symm⟩
  · cases more with
    | nil => exact ⟨[], by simpa using text⟩
    | cons byte more =>
      have quoted : byte = quote := (List.cons.inj tail).1.symm
      exact absurd (by simp [text, quoted]) quoteFree

theorem walk_found (key : List UInt8) (entries : List Entry) (tail : List UInt8) (e : Entry)
    (later : List Entry) (found : walk key entries tail = .found e later) :
    firstEntry key entries = some (e, later) := by
  induction entries with
  | nil => simp [walk] at found
  | cons e' rest ih =>
    by_cases same : e'.keyText = key
    · simpa [walk, meeting, firstEntry, same] using found
    · rcases walk_other key e' rest tail same with onward | stopped | mistaken
      · simpa [firstEntry, same] using ih (onward ▸ found)
      · simp [stopped] at found
      · simp [mistaken] at found

theorem walk_through (key : List UInt8) (entries : List Entry) (tail : List UInt8)
    (through : walk key entries tail = .through) : firstEntry key entries = none := by
  induction entries with
  | nil => rfl
  | cons e rest ih =>
    by_cases same : e.keyText = key
    · simp [walk, meeting, same] at through
    · rcases walk_other key e rest tail same with onward | stopped | mistaken
      · simpa [firstEntry, same] using ih (onward ▸ through)
      · simp [stopped] at through
      · simp [mistaken] at through

end AvrVoiceControl.Json
