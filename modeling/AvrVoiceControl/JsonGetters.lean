import AvrVoiceControl.JsonWalk
import Mathlib.Algebra.Group.Nat.Defs

set_option autoImplicit false

namespace AvrVoiceControl.Json

open CString FlatJson

theorem insideString_of_not_quote (byte : UInt8) (rest : Pointer) (bare : byte ≠ quote) :
    insideString (byte :: rest) = some (byte :: rest) := by
  simp [insideString, bare]

theorem insideString_quote (byte : UInt8) (rest : Pointer) (more : byte ≠ 0) :
    insideString (quote :: byte :: rest) = some (byte :: rest) := by
  simp [insideString, more]

theorem insideString_total (p : Pointer) (nul : 0 ∈ p) : ∃ q, insideString p = some q ∧ 0 ∈ q := by
  cases p with
  | nil => simp at nul
  | cons byte rest =>
    by_cases bare : byte = quote
    · have later : 0 ∈ rest := by
        rcases List.mem_cons.mp nul with zero | later
        · exact absurd (zero.trans bare) (by decide)
        · exact later
      cases rest with
      | nil => simp at later
      | cons second rest =>
        by_cases ends : second = 0
        · exact ⟨byte :: second :: rest, by simp [insideString, ends], nul⟩
        · exact ⟨second :: rest, by simp [insideString, bare, ends], later⟩
    · exact ⟨byte :: rest, insideString_of_not_quote byte rest bare, nul⟩

theorem addDigits_total (value : UInt32) (p : Pointer) (nul : 0 ∈ p) :
    ∃ sum q, addDigits value p = some (sum, q) ∧ 0 ∈ q := by
  induction p generalizing value with
  | nil => simp at nul
  | cons byte rest ih =>
    by_cases digits : byte ≠ 0 ∧ isDigit byte = true
    · have later : 0 ∈ rest := (List.mem_cons.mp nul).resolve_left fun zero => digits.1 zero.symm
      obtain ⟨sum, q, added, ends⟩ := ih (value * 10 + (byte - 48).toUInt32) later
      exact ⟨sum, q, by rw [addDigits, if_pos digits, added], ends⟩
    · exact ⟨value, byte :: rest, by rw [addDigits, if_neg digits], nul⟩

theorem getNumber_total (p : Pointer) (nul : 0 ∈ p) : ∃ value, getNumber p = some value := by
  obtain ⟨inner, entered, innerNul⟩ := insideString_total p nul
  obtain ⟨sum, q, added, ends⟩ := addDigits_total 0 inner innerNul
  obtain ⟨after, left, -⟩ := insideString_total q ends
  exact ⟨sum, by simp [getNumber, entered, added, left]⟩

theorem addDigits_numeral (digits : List UInt8) (stop : UInt8) (rest : Pointer) (value : Nat)
    (numeral : (digits.all fun byte => 48 ≤ byte && byte ≤ 57) = true)
    (stops : isDigit stop = false) :
    addDigits (UInt32.ofNat value) (digits ++ stop :: rest) =
      some (UInt32.ofNat (digits.foldl (fun n byte => n * 10 + (byte.toNat - 48)) value),
        stop :: rest) := by
  induction digits generalizing value with
  | nil => simp [addDigits, stops]
  | cons byte digits ih =>
    simp only [List.all_cons, Bool.and_eq_true, decide_eq_true_eq] at numeral
    obtain ⟨⟨low, high⟩, others⟩ := numeral
    have digit : byte ≠ 0 ∧ isDigit byte = true := by
      refine ⟨?_, by simp [isDigit, low, high]⟩
      rintro rfl
      exact absurd low (by decide)
    have shifted : UInt32.ofNat value * 10 + (byte - 48).toUInt32 =
        UInt32.ofNat (value * 10 + (byte.toNat - 48)) := by
      have converted : (byte - 48).toUInt32 = UInt32.ofNat (byte.toNat - 48) := by
        apply UInt32.toNat.inj
        rw [UInt8.toNat_toUInt32, UInt8.toNat_sub_of_le _ _ low, UInt32.toNat_ofNat']
        have small := byte.toNat_lt
        have constant : (48 : UInt8).toNat = 48 := rfl
        omega
      rw [converted, UInt32.ofNat_add, UInt32.ofNat_mul]
      rfl
    rw [List.cons_append, addDigits, if_pos digit, shifted, List.foldl_cons]
    exact ih _ (by simpa using others)

theorem whole_numeral (n : Number) :
    (n.whole.all fun byte => 48 ≤ byte && byte ≤ 57) = true := by
  have digits (d : Fin 10) : (48 ≤ digit d && digit d ≤ 57) = true := by
    revert d
    decide
  simp only [Number.whole, List.all_map, List.all_eq_true]
  intro d _
  exact digits d

theorem getNumber_numeral (text : List UInt8) (stop : UInt8) (rest : Pointer)
    (numeral : isNumeral text = true) (stops : isDigit stop = false) (nul : 0 ∈ stop :: rest) :
    getNumber (text ++ stop :: rest) = some (UInt32.ofNat (decimal text)) ∧
      getNumber (quote :: (text ++ stop :: rest)) = some (UInt32.ofNat (decimal text)) := by
  simp only [isNumeral, Bool.and_eq_true, decide_eq_true_eq] at numeral
  obtain ⟨nonempty, digits⟩ := numeral
  have added := addDigits_numeral text stop rest 0 digits stops
  obtain ⟨after, left, -⟩ := insideString_total (stop :: rest) nul
  obtain ⟨byte, more, rfl⟩ := List.exists_cons_of_ne_nil nonempty
  have low : 48 ≤ byte ∧ byte ≤ 57 := by simpa using List.all_eq_true.mp digits byte (by simp)
  have notNul : byte ≠ 0 := by
    rintro rfl
    exact absurd low.1 (by decide)
  have bare : byte ≠ quote := by
    rintro rfl
    exact absurd low.1 (by decide)
  have zero : UInt32.ofNat 0 = 0 := rfl
  rw [List.cons_append] at added ⊢
  rw [zero] at added
  constructor
  · simp only [getNumber, insideString_of_not_quote _ _ bare, Option.bind_eq_bind,
      Option.bind_some, added, left, decimal, Option.pure_def]
  · simp only [getNumber, insideString_quote _ _ notNul, Option.bind_eq_bind,
      Option.bind_some, added, left, decimal, Option.pure_def]

theorem getNumber_entry (e : Entry) (separator : UInt8) (tail : Pointer) (n : Nat)
    (literal : e.value.numeral? = some n)
    (stops : (isAlpha separator || isDigit separator) = false) (nul : 0 ∈ separator :: tail) :
    getNumber (entryThen e (separator :: tail)) = some (UInt32.ofNat n) := by
  obtain ⟨stop, rest, spaces, stopEnds⟩ := stop_of_whites e.afterValue separator tail stops
  have restNul : 0 ∈ stop :: rest := by
    rw [← spaces]
    exact List.mem_append_right _ nul
  have stopDigit : isDigit stop = false := (Bool.or_eq_false_iff.mp stopEnds).2
  rw [entryThen, spaces]
  cases value : e.value with
  | number number =>
    rw [value] at literal
    simp only [Value.numeral?] at literal
    split_ifs at literal with unsigned
    obtain ⟨negative, first, more, fraction, exponent⟩ := number
    simp only [Number.unsigned, Bool.and_eq_true, Bool.not_eq_true', Option.isNone_iff_eq_none]
      at unsigned
    obtain ⟨⟨rfl, rfl⟩, rfl⟩ := unsigned
    have digits := whole_numeral { first := first, rest := more }
    have numeral : isNumeral (Number.whole { first := first, rest := more }) = true := by
      simp only [isNumeral, digits, Bool.and_true, decide_eq_true_eq]
      exact List.cons_ne_nil _ _
    have read := (getNumber_numeral _ stop rest numeral stopDigit restNul).1
    obtain rfl := Option.some.inj literal
    simpa [Value.text, Number.text, fractionText, exponentText] using read
  | string pieces =>
    rw [value] at literal
    simp only [Value.numeral?] at literal
    split_ifs at literal with numeral
    obtain rfl := Option.some.inj literal
    have read := (getNumber_numeral _ quote (stop :: rest) numeral (by decide)
      (List.mem_cons_of_mem _ restNul)).2
    simpa [Value.text, rawBytes] using read
  | bool value' => simp [value, Value.numeral?] at literal
  | null => simp [value, Value.numeral?] at literal

theorem jsonGetValue_empty (key : List UInt8) (nul : 0 ∉ key) (o : Record) (empty : o.entries = []) :
    jsonGetValue (o.text ++ 0 :: (key ++ [quote, colon, 48, 0])) key = some (some [48, 0]) := by
  let before := whites o.beforeObject ++ openBrace :: whites o.inside ++
    closeBrace :: whites o.afterObject
  have text : o.text = before := by simp [Record.text, joined, empty, before]
  have beforePlain : ∀ b ∈ before, Plain b := by
    intro b member
    simp only [before, List.mem_append, List.mem_cons] at member
    rcases member with (white | rfl | white) | rfl | white
    · exact plain_of_mem_whites white
    · decide
    · exact plain_of_mem_whites white
    · decide
    · exact plain_of_mem_whites white
  have started : before ≠ [] := by simp [before]
  have compared : startsWith key (key ++ [quote, colon, 48, 0]) = some true := by
    have cut := startsWith_stopped key (key ++ [quote, colon, 48]) [] 0 nul
    simpa using cut
  have value : valueOfKey [quote, colon, 48, 0] = some (some [48, 0]) := by decide
  obtain ⟨byte, before', split⟩ := List.exists_cons_of_ne_nil started
  have notNul : ¬ byte = 0 := (beforePlain byte (by simp [split])).1
  have turn : searchPair key (before ++ 0 :: (key ++ [quote, colon, 48, 0])) =
      some (.done (some [48, 0])) := by
    simp only [searchPair, jsonFindQuote_skip _ _ beforePlain, jsonFindQuote_nul, advance_cons,
      Option.bind_eq_bind, Option.bind_some, compared, if_true, List.drop_left, load_cons, value,
      Option.pure_def]
  rw [text, jsonGetValue]
  rw [split, List.cons_append] at turn ⊢
  simp only [searchPairs, load_cons, Option.bind_eq_bind, Option.bind_some, notNul, if_false, turn,
    Option.pure_def]

def objectEnd (o : Record) (stale : List UInt8) : Pointer :=
  closeBrace :: (whites o.afterObject ++ 0 :: stale)

def wantedInt (key : List UInt8) (o : Record) (value : UInt32) : Bool × UInt32 :=
  match firstEntry key o.entries with
  | none => (false, value)
  | some (e, _) =>
    match e.value.numeral? with
    | none => (false, value)
    | some n => if n < 2 ^ 32 then (true, UInt32.ofNat n) else (false, value)

def wantedString (key : List UInt8) (o : Record) (stale : List UInt8) (value : Pointer)
    (len : UInt8) : Bool × Pointer × UInt8 :=
  match firstEntry key o.entries with
  | none => (false, value, len)
  | some (e, later) =>
    match e.value with
    | .string pieces =>
      if (rawBytes pieces).length ≤ 255 then
        (true,
          rawBytes pieces ++ quote :: (whites e.afterValue ++ (entriesText later ++ objectEnd o stale)),
          UInt8.ofNat (rawBytes pieces).length)
      else (false, value, len)
    | _ => (false, value, len)

def IntRight (key : List UInt8) (o : Record) : Prop :=
  ∀ stale value, jsonGetInt (o.text ++ 0 :: stale) key value = some (wantedInt key o value)

def StringRight (key : List UInt8) (o : Record) : Prop :=
  ∀ stale value len,
    jsonGetString (o.text ++ 0 :: stale) key value len = some (wantedString key o stale value len)

def Walk.intRight (key : List UInt8) (o : Record) : Walk -> Bool
  | .found e _ => e.value.numeral?.any (· < 2 ^ 32)
  | .stopped => (wantedInt key o 0).1 = false
  | .mistaken => false
  | .through => true

def Walk.stringRight (key : List UInt8) (o : Record) : Walk -> Bool
  | .found e _ =>
    match e.value with
    | .string pieces => (rawBytes pieces).length ≤ 255
    | _ => false
  | .stopped => (wantedString key o [] [] 0).1 = false
  | .mistaken => false
  | .through => true

theorem nul_objectEnd (later : List Entry) (o : Record) (stale : List UInt8) :
    0 ∈ entriesText later ++ objectEnd o stale := by
  simp [objectEnd]

theorem separator_objectEnd (later : List Entry) (o : Record) (stale : List UInt8) :
    ∃ separator tail, entriesText later ++ objectEnd o stale = separator :: tail ∧
      (isAlpha separator || isDigit separator) = false := by
  cases later with
  | nil => exact ⟨closeBrace, _, rfl, by decide⟩
  | cons e later => exact ⟨comma, _, rfl, by decide⟩

theorem jsonFindQuote_total (p : Pointer) (nul : 0 ∈ p) : ∃ q, jsonFindQuote p = some q := by
  induction p using jsonFindQuote.induct with
  | case1 => simp at nul
  | case2 rest => exact ⟨_, jsonFindQuote_nul rest⟩
  | case3 rest _ => exact ⟨_, jsonFindQuote_quote rest⟩
  | case4 => exact absurd nul (by decide)
  | case5 rest => exact ⟨_, jsonFindQuote_backslash_nul rest⟩
  | case6 escaped rest nonzero _ _ ih =>
    have later : 0 ∈ rest := by
      have notSlash : ¬ (0 : UInt8) = backslash := by decide
      simpa [notSlash, Ne.symm nonzero] using nul
    obtain ⟨q, found⟩ := ih later
    exact ⟨q, by rw [jsonFindQuote_escape _ _ nonzero, found]⟩
  | case7 byte rest notNul notQuote notBackslash ih =>
    have later : 0 ∈ rest := (List.mem_cons.mp nul).resolve_left fun zero => notNul zero.symm
    obtain ⟨q, found⟩ := ih later
    exact ⟨q, by rw [jsonFindQuote_plain _ _ ⟨notNul, notQuote, notBackslash⟩, found]⟩

theorem jsonGetInt_found (json : Pointer) (key : List UInt8) (value : UInt32) (e : Entry)
    (later : List Entry) (o : Record) (stale : List UInt8)
    (found : jsonGetValue json key =
      some (some (entryThen e (entriesText later ++ objectEnd o stale)))) :
    ∃ number, jsonGetInt json key value = some (true, number) ∧
      ∀ n, e.value.numeral? = some n → number = UInt32.ofNat n := by
  obtain ⟨separator, tail, split, stops⟩ := separator_objectEnd later o stale
  have nul := nul_objectEnd later o stale
  rw [split] at found nul
  obtain ⟨number, read⟩ := getNumber_total (entryThen e (separator :: tail))
    (List.mem_append_right _ (List.mem_append_right _ nul))
  refine ⟨number, by simp only [jsonGetInt, found, Option.bind_eq_bind, Option.bind_some, read,
    Option.pure_def], ?_⟩
  intro n literal
  have wanted := getNumber_entry e separator tail n literal stops nul
  exact Option.some.inj (read.symm.trans wanted)

theorem jsonGetString_found (json : Pointer) (key : List UInt8) (value : Pointer) (len : UInt8)
    (e : Entry) (later : List Entry) (o : Record) (stale : List UInt8)
    (found : jsonGetValue json key =
      some (some (entryThen e (entriesText later ++ objectEnd o stale)))) :
    ∃ p count, jsonGetString json key value len = some (true, p, count) ∧
      ∀ pieces, e.value = .string pieces →
        p = rawBytes pieces ++
          quote :: (whites e.afterValue ++ (entriesText later ++ objectEnd o stale)) ∧
        count = UInt8.ofNat (rawBytes pieces).length := by
  let behind := whites e.afterValue ++ (entriesText later ++ objectEnd o stale)
  have nul : 0 ∈ behind := List.mem_append_right _ (nul_objectEnd later o stale)
  obtain ⟨byte, rest, head, -, -⟩ := value_head e.value
  have text : entryThen e (entriesText later ++ objectEnd o stale) = byte :: (rest ++ behind) := by
    simp [entryThen, head, behind]
  obtain ⟨q, closing⟩ := jsonFindQuote_total (rest ++ behind) (List.mem_append_right _ nul)
  rw [text] at found
  refine ⟨rest ++ behind, UInt8.ofNat ((rest ++ behind).length - q.length), by
    simp only [jsonGetString, found, Option.bind_eq_bind, Option.bind_some, advance_cons, closing,
      Option.pure_def], ?_⟩
  intro pieces string
  have content : rest = rawBytes pieces ++ [quote] := by
    rw [string] at head
    exact (List.cons.inj head).2.symm
  have ends : q = quote :: behind := by
    rw [content, List.append_assoc, rawBytes, jsonFindQuote_pieces, List.singleton_append,
      jsonFindQuote_quote] at closing
    exact (Option.some.inj closing).symm
  refine ⟨by simp [content, behind], ?_⟩
  rw [ends, content]
  congr 1
  simp only [List.length_append, List.length_cons, List.length_nil]
  omega

variable (key : List UInt8) (o : Record)

theorem wantedInt_value (value value' : UInt32) (refused : (wantedInt key o value).1 = false) :
    wantedInt key o value' = (false, value') := by
  unfold wantedInt at refused ⊢
  split at refused
  · rfl
  · split at refused
    · simp_all
    · split_ifs at refused with small
      simp_all

theorem wantedString_value (stale stale' : List UInt8) (value value' : Pointer) (len len' : UInt8)
    (refused : (wantedString key o stale value len).1 = false) :
    wantedString key o stale' value' len' = (false, value', len') := by
  cases first : firstEntry key o.entries with
  | none => simp [wantedString, first]
  | some found =>
    obtain ⟨e, later⟩ := found
    cases kind : e.value with
    | string pieces =>
      by_cases short : (rawBytes pieces).length ≤ 255
      · simp [wantedString, first, kind, short] at refused
      · simp [wantedString, first, kind, short]
    | number n => simp [wantedString, first, kind]
    | bool b => simp [wantedString, first, kind]
    | null => simp [wantedString, first, kind]

theorem jsonGetValue_walk (nul : 0 ∉ key) (members : o.entries ≠ [])
    (clear : walk key o.entries (closeBrace :: whites o.afterObject) ≠ .mistaken)
    (stale : List UInt8) :
    jsonGetValue (o.text ++ 0 :: stale) key =
      (walk key o.entries (closeBrace :: whites o.afterObject)).result (objectEnd o stale)
        (some none) :=
  jsonGetValue_record key nul o members stale clear

theorem jsonGetInt_none (json : Pointer) (value : UInt32)
    (absent : jsonGetValue json key = some none) :
    jsonGetInt json key value = some (false, value) := by
  simp [jsonGetInt, absent]

theorem jsonGetString_none (json value : Pointer) (len : UInt8)
    (absent : jsonGetValue json key = some none) :
    jsonGetString json key value len = some (false, value, len) := by
  simp [jsonGetString, absent]

theorem intRight_iff (nul : 0 ∉ key) (members : o.entries ≠ [])
    (clear : walk key o.entries (closeBrace :: whites o.afterObject) ≠ .mistaken) :
    IntRight key o ↔
      (walk key o.entries (closeBrace :: whites o.afterObject)).intRight key o = true := by
  have looked := jsonGetValue_walk key o nul members clear
  -- By what ends the walk over the members.
  cases walked : walk key o.entries (closeBrace :: whites o.afterObject) with
  | mistaken => exact absurd walked clear
  | through =>
    have absent := walk_through key o.entries _ walked
    simp only [Walk.intRight, iff_true]
    intro stale value
    rw [jsonGetInt_none key _ value (by rw [looked, walked]; rfl)]
    simp [wantedInt, absent]
  | stopped =>
    have refused (stale : List UInt8) (value : UInt32) :=
      jsonGetInt_none key (o.text ++ 0 :: stale) value (by rw [looked, walked]; rfl)
    simp only [Walk.intRight, decide_eq_true_eq]
    constructor
    · intro right
      have same := right [] 0
      rw [refused] at same
      rw [← Option.some.inj same]
    · intro wanted stale value
      rw [refused, wantedInt_value key o 0 value wanted]
  | found e later =>
    have first := walk_found key o.entries _ e later walked
    have result (stale : List UInt8) (value : UInt32) :=
      jsonGetInt_found (o.text ++ 0 :: stale) key value e later o stale
        (by rw [looked, walked]; rfl)
    simp only [Walk.intRight]
    constructor
    · intro right
      obtain ⟨number, read, -⟩ := result [] 0
      have same := right [] 0
      rw [read] at same
      cases literal : e.value.numeral? with
      | none =>
        have wanted : wantedInt key o 0 = (false, 0) := by simp only [wantedInt, first, literal]
        simp [wanted] at same
      | some n =>
        by_cases small : n < 2 ^ 32
        · simpa using small
        · have wanted : wantedInt key o 0 = (false, 0) := by
            simp only [wantedInt, first, literal, if_neg small]
          simp [wanted] at same
    · intro small stale value
      obtain ⟨number, read, exact⟩ := result stale value
      cases literal : e.value.numeral? with
      | none => simp [literal] at small
      | some n =>
        have below : n < 2 ^ 32 := by simpa [literal] using small
        rw [read, exact n literal, wantedInt, first]
        simp only [literal, below, if_true]

theorem stringRight_iff (nul : 0 ∉ key) (members : o.entries ≠ [])
    (clear : walk key o.entries (closeBrace :: whites o.afterObject) ≠ .mistaken) :
    StringRight key o ↔
      (walk key o.entries (closeBrace :: whites o.afterObject)).stringRight key o = true := by
  have looked := jsonGetValue_walk key o nul members clear
  -- By what ends the walk over the members.
  cases walked : walk key o.entries (closeBrace :: whites o.afterObject) with
  | mistaken => exact absurd walked clear
  | through =>
    have absent := walk_through key o.entries _ walked
    simp only [Walk.stringRight, iff_true]
    intro stale value len
    rw [jsonGetString_none key _ value len (by rw [looked, walked]; rfl)]
    simp [wantedString, absent]
  | stopped =>
    have refused (stale : List UInt8) (value : Pointer) (len : UInt8) :=
      jsonGetString_none key (o.text ++ 0 :: stale) value len (by rw [looked, walked]; rfl)
    simp only [Walk.stringRight, decide_eq_true_eq]
    constructor
    · intro right
      have same := right [] [] 0
      rw [refused] at same
      rw [← Option.some.inj same]
    · intro wanted stale value len
      rw [refused, wantedString_value key o [] stale [] value 0 len wanted]
  | found e later =>
    have first := walk_found key o.entries _ e later walked
    have result (stale : List UInt8) (value : Pointer) (len : UInt8) :=
      jsonGetString_found (o.text ++ 0 :: stale) key value len e later o stale
        (by rw [looked, walked]; rfl)
    simp only [Walk.stringRight]
    constructor
    · intro right
      obtain ⟨p, count, read, -⟩ := result [] [] 0
      have same := right [] [] 0
      rw [read, wantedString, first] at same
      cases kind : e.value with
      | string pieces =>
        by_cases short : (rawBytes pieces).length ≤ 255
        · simpa using short
        · simp [kind, short] at same
      | number n => simp [kind] at same
      | bool b => simp [kind] at same
      | null => simp [kind] at same
    · intro short stale value len
      obtain ⟨p, count, read, exact⟩ := result stale value len
      cases kind : e.value with
      | string pieces =>
        have fits : (rawBytes pieces).length ≤ 255 := by simpa [kind] using short
        obtain ⟨rfl, rfl⟩ := exact pieces kind
        rw [read, wantedString, first]
        simp only [kind, fits, if_true]
      | number n => simp [kind] at short
      | bool b => simp [kind] at short
      | null => simp [kind] at short

theorem empty_not_right (nul : 0 ∉ key) (empty : o.entries = []) :
    ¬ IntRight key o ∧ ¬ StringRight key o := by
  have looked := jsonGetValue_empty key nul o empty
  have number : getNumber [48, 0] = some 0 := by decide
  have closing : jsonFindQuote [0] = some [0] := by decide
  constructor
  · intro right
    have same := right (key ++ [quote, colon, 48, 0]) 0
    simp [jsonGetInt, looked, number, wantedInt, empty, firstEntry] at same
  · intro right
    have same := right (key ++ [quote, colon, 48, 0]) [] 0
    simp [jsonGetString, looked, closing, wantedString, empty, firstEntry] at same

theorem typedGetters_right_iff (nul : 0 ∉ key)
    (clear : walk key o.entries (closeBrace :: whites o.afterObject) ≠ .mistaken) :
    (IntRight key o ↔ o.entries ≠ [] ∧
      (walk key o.entries (closeBrace :: whites o.afterObject)).intRight key o = true) ∧
    (StringRight key o ↔ o.entries ≠ [] ∧
      (walk key o.entries (closeBrace :: whites o.afterObject)).stringRight key o = true) := by
  by_cases members : o.entries = []
  · have wrong := empty_not_right key o nul members
    exact ⟨iff_of_false wrong.1 fun condition => condition.1 members,
      iff_of_false wrong.2 fun condition => condition.1 members⟩
  · simp only [ne_eq, members, not_false_eq_true, true_and]
    exact ⟨intRight_iff key o nul members clear, stringRight_iff key o nul members clear⟩

def letterA : Entry := { key := keyPieces (ascii ['a']) (by decide +kernel), value := .bool true }

theorem typedGetters_right_twelve :
    IntRight (ascii ['a'])
      { entries := [{ letterA with value := .number { first := 1, rest := [2] } }] } ∧
    StringRight (ascii ['a']) { entries := [{ letterA with value := .string [] }] } := by
  constructor
  · refine (typedGetters_right_iff (ascii ['a'])
      { entries := [{ letterA with value := .number { first := 1, rest := [2] } }] } (by decide +kernel)
      ?_).1.mpr ⟨by simp, by decide⟩
    intro mistaken
    cases (show Walk.found _ [] = .mistaken from mistaken)
  · refine (typedGetters_right_iff (ascii ['a'])
      { entries := [{ letterA with value := .string [] }] } (by decide +kernel) ?_).2.mpr
      ⟨by simp, by decide⟩
    intro mistaken
    cases (show Walk.found _ [] = .mistaken from mistaken)

theorem jsonGetInt_true_boolean : ¬ IntRight (ascii ['a']) { entries := [letterA] } := by
  intro right
  have read : jsonGetInt ((Record.mk [letterA] [] [] []).text ++ [0]) (ascii ['a']) 7 =
      some (true, 0) := by decide
  have same := (right [] 7).symm.trans read
  exact absurd same (by decide +kernel)

end AvrVoiceControl.Json
