import AvrVoiceControl.JsonGetters

set_option autoImplicit false

namespace AvrVoiceControl.Json

open CString FlatJson

theorem advance_extend {a q : Pointer} (b : Pointer) (moved : advance a = some q) :
    advance (a ++ b) = some (q ++ b) := by
  cases a with
  | nil => simp [advance] at moved
  | cons byte rest =>
    obtain rfl : rest = q := by simpa using moved
    rfl

theorem load_extend {a : Pointer} {byte : UInt8} (b : Pointer) (loaded : load a = some byte) :
    load (a ++ b) = some byte := by
  cases a with
  | nil => simp [load] at loaded
  | cons first rest => simpa using loaded

theorem next_extend {a q : Pointer} (b : Pointer) (moved : next a = some q) :
    next (a ++ b) = some (q ++ b) := by
  induction a with
  | nil => simp [next] at moved
  | cons first a ih =>
    by_cases white : first ≠ 0 ∧ isWhiteSpace first
    · rw [next, if_pos white] at moved
      rw [List.cons_append, next, if_pos white, ih moved]
    · rw [next, if_neg white] at moved
      obtain rfl := Option.some.inj moved
      rw [List.cons_append, next, if_neg white]

theorem skipAlphaDigit_extend {a q : Pointer} (b : Pointer) (moved : skipAlphaDigit a = some q) :
    skipAlphaDigit (a ++ b) = some (q ++ b) := by
  induction a with
  | nil => simp [skipAlphaDigit] at moved
  | cons first a ih =>
    by_cases alnum : (isAlpha first || isDigit first) = true
    · rw [skipAlphaDigit, if_pos alnum] at moved
      rw [List.cons_append, skipAlphaDigit, if_pos alnum, ih moved]
    · rw [skipAlphaDigit, if_neg alnum] at moved
      obtain rfl := Option.some.inj moved
      rw [List.cons_append, skipAlphaDigit, if_neg alnum]

theorem startsWith_extend {key a : List UInt8} {begins : Bool} (b : Pointer)
    (compared : startsWith key a = some begins) : startsWith key (a ++ b) = some begins := by
  induction key generalizing a with
  | nil => simpa [startsWith] using compared
  | cons k key ih =>
    cases a with
    | nil => simp [startsWith] at compared
    | cons byte rest =>
      by_cases same : byte = k
      · simp only [startsWith, same, if_true] at compared
        simpa [startsWith, same] using ih compared
      · simpa [startsWith, same] using compared

theorem valueOfKey_extend {a : Pointer} {r : Option Pointer} (b : Pointer)
    (found : valueOfKey a = some r) : valueOfKey (a ++ b) = some (r.map (· ++ b)) := by
  simp only [valueOfKey, Option.bind_eq_bind, Option.bind_eq_some_iff] at found
  obtain ⟨p, moved, q, blank, byte, loaded, rest⟩ := found
  simp only [valueOfKey, Option.bind_eq_bind, advance_extend b moved, Option.bind_some,
    next_extend b blank, load_extend b loaded]
  split_ifs at rest ⊢ with noColon
  · obtain rfl : none = r := by simpa using rest
    rfl
  · simp only [Option.bind_eq_some_iff] at rest
    obtain ⟨p', moved', q', blank', byte', loaded', rest⟩ := rest
    simp only [advance_extend b moved', Option.bind_some, next_extend b blank',
      load_extend b loaded']
    split_ifs at rest ⊢ with noValue
    · obtain rfl : none = r := by simpa using rest
      rfl
    · obtain rfl : some q' = r := by simpa using rest
      rfl

def toComma (p : Pointer) : Option (Option Pointer) :=
  (next p).bind fun p => (load p).bind fun byte => if byte ≠ comma then some none else some (some p)

theorem skipValue_eq (a : Pointer) :
    skipValue a = (load a).bind fun byte =>
      if byte = quote then
        (advance a).bind fun p => (jsonFindQuote p).bind fun p => (load p).bind fun byte =>
          if byte = 0 then some none else (advance p).bind fun p => (next p).bind toComma
      else (skipAlphaDigit a).bind toComma := by
  rfl

theorem toComma_extend {a : Pointer} {r : Option Pointer} (b : Pointer)
    (found : toComma a = some r) : toComma (a ++ b) = some (r.map (· ++ b)) := by
  simp only [toComma, Option.bind_eq_some_iff] at found
  obtain ⟨p, blank, byte, loaded, rest⟩ := found
  simp only [toComma, next_extend b blank, load_extend b loaded, Option.bind_some]
  split_ifs at rest ⊢
  · obtain rfl := Option.some.inj rest
    rfl
  · obtain rfl := Option.some.inj rest
    rfl

theorem skipValue_extend {a : Pointer} {r : Option Pointer} (b : Pointer)
    (found : skipValue a = some r) : skipValue (a ++ b) = some (r.map (· ++ b)) := by
  simp only [skipValue_eq, Option.bind_eq_some_iff] at found
  obtain ⟨byte, loaded, found⟩ := found
  simp only [skipValue_eq, load_extend b loaded, Option.bind_some]
  split_ifs at found ⊢ with string
  · simp only [Option.bind_eq_some_iff] at found
    obtain ⟨p, moved, q, closing, byte', loaded', rest⟩ := found
    simp only [advance_extend b moved, jsonFindQuote_append _ b _ closing, load_extend b loaded',
      Option.bind_some]
    split_ifs at rest ⊢ with ended
    · obtain rfl := Option.some.inj rest
      rfl
    · simp only [Option.bind_eq_some_iff] at rest
      obtain ⟨p', moved', q', blank, rest⟩ := rest
      simp only [advance_extend b moved', next_extend b blank, Option.bind_some]
      exact toComma_extend b rest
  · simp only [Option.bind_eq_some_iff] at found
    obtain ⟨p, skipped, rest⟩ := found
    simp only [skipAlphaDigit_extend b skipped, Option.bind_some]
    exact toComma_extend b rest

theorem nextPair_extend {a : Pointer} {r : Option Pointer} (b : Pointer)
    (found : nextPair a = some r) : nextPair (a ++ b) = some (r.map (· ++ b)) := by
  simp only [nextPair_eq, Option.bind_eq_some_iff] at found
  obtain ⟨p, moved, q, closing, byte, loaded, rest⟩ := found
  simp only [nextPair_eq, advance_extend b moved, jsonFindQuote_append _ b _ closing,
    load_extend b loaded, Option.bind_some]
  split_ifs at rest ⊢ with ended
  · obtain rfl := Option.some.inj rest
    rfl
  · simp only [Option.bind_eq_some_iff] at rest
    obtain ⟨value, found, rest⟩ := rest
    simp only [valueOfKey_extend b found, Option.bind_some]
    cases value with
    | none =>
      obtain rfl := Option.some.inj rest
      rfl
    | some p => exact skipValue_extend b rest

def Turn.extend (b : Pointer) : Turn -> Turn
  | .done value => .done (value.map (· ++ b))
  | .again p => .again (p ++ b)

theorem goOn_extend {a : Pointer} {r : Turn} (b : Pointer) (found : goOn a = some r) :
    goOn (a ++ b) = some (r.extend b) := by
  simp only [goOn, Option.bind_eq_some_iff] at found
  obtain ⟨pair, next, rest⟩ := found
  simp only [goOn, nextPair_extend b next, Option.bind_some]
  cases pair with
  | none =>
    obtain rfl := Option.some.inj rest
    rfl
  | some p =>
    obtain rfl := Option.some.inj rest
    rfl

theorem searchPair_extend {key a : List UInt8} {r : Turn} (b : Pointer)
    (found : searchPair key a = some r) : searchPair key (a ++ b) = some (r.extend b) := by
  simp only [searchPair_eq, Option.bind_eq_some_iff] at found
  obtain ⟨p, opening, behind, moved, begins, compared, rest⟩ := found
  simp only [searchPair_eq, jsonFindQuote_append _ b _ opening, advance_extend b moved,
    startsWith_extend b compared, Option.bind_some]
  split_ifs at rest ⊢
  · simp only [Option.bind_eq_some_iff] at rest
    obtain ⟨byte, loaded, rest⟩ := rest
    have inside : key.length ≤ behind.length := by
      by_contra beyond
      rw [List.drop_eq_nil_of_le (by omega)] at loaded
      simp [load] at loaded
    rw [List.drop_append_of_le_length inside]
    simp only [load_extend b loaded, Option.bind_some]
    split_ifs at rest ⊢
    · simp only [Option.bind_eq_some_iff] at rest
      obtain ⟨value, found, rest⟩ := rest
      obtain rfl := Option.some.inj rest
      simp only [valueOfKey_extend b found, Option.bind_some, Turn.extend]
    · exact goOn_extend b rest
  · exact goOn_extend b rest

theorem searchPairs_extend {key a : List UInt8} {fuel : Nat} {r : Option Pointer} (b : Pointer)
    (more : Nat) (found : searchPairs key fuel a = some r) :
    searchPairs key (fuel + more) (a ++ b) = some (r.map (· ++ b)) := by
  induction fuel generalizing a with
  | zero => simp [searchPairs] at found
  | succ fuel ih =>
    rw [Nat.succ_add]
    simp only [searchPairs, Option.bind_eq_bind, Option.bind_eq_some_iff] at found
    obtain ⟨byte, loaded, rest⟩ := found
    simp only [searchPairs, Option.bind_eq_bind, load_extend b loaded, Option.bind_some]
    split_ifs at rest ⊢
    · obtain rfl := Option.some.inj rest
      rfl
    · simp only [Option.bind_eq_some_iff] at rest
      obtain ⟨turn, one, rest⟩ := rest
      simp only [searchPair_extend b one, Option.bind_some]
      cases turn with
      | done value =>
        obtain rfl := Option.some.inj rest
        rfl
      | again p => exact ih rest

/-- `body` is the text behind the next quote that no backslash escapes. -/
def Ahead (text body : List UInt8) : Prop :=
  ∃ junk : List Piece, text = junk.flatMap Piece.text ++ quote :: body

inductive OverValue : List UInt8 -> List UInt8 -> Prop where
  | string (pieces : List Piece) (ws : List White) (rest : List UInt8) :
      OverValue (quote :: (pieces.flatMap Piece.text ++ quote :: (whites ws ++ comma :: rest)))
        (comma :: rest)
  | word (letters : List UInt8) (ws : List White) (rest : List UInt8)
      (alnum : ∀ byte ∈ letters, (isAlpha byte || isDigit byte) = true) :
      OverValue (letters ++ (whites ws ++ comma :: rest)) (comma :: rest)

inductive OverPair : List UInt8 -> List UInt8 -> Prop where
  | pair (afterKey beforeValue : List White) (value rest : List UInt8)
      (skipped : OverValue value rest) :
      OverPair (whites afterKey ++ colon :: (whites beforeValue ++ value)) rest

/-- From behind the opening quote of a key that is not the search key to behind its closing quote.
Behind the part that is equal to the search key, one byte is not looked at. -/
inductive OverKey (key : List UInt8) : List UInt8 -> List UInt8 -> Prop where
  | other (body tail : List UInt8) (differs : ¬ key <+: body) (closing : Ahead body tail) :
      OverKey key body tail
  | longer (byte : UInt8) (body tail : List UInt8) (more : byte ≠ quote)
      (closing : Ahead body tail) : OverKey key (key ++ byte :: body) tail

inductive Skips (key : List UInt8) : List UInt8 -> List UInt8 -> Prop where
  | pair (text body tail rest : List UInt8) (opening : Ahead text body)
      (skipped : OverKey key body tail) (value : OverPair tail rest) : Skips key text rest

inductive Pairs (key : List UInt8) : List UInt8 -> List UInt8 -> Prop where
  | here (text : List UInt8) : Pairs key text text
  | pair (text rest final : List UInt8) (first : Skips key text rest)
      (others : Pairs key rest final) : Pairs key text final

/-- A key begins that is more than the search key and the end of the text. -/
def Opens (key text : List UInt8) : Prop := ∃ body, Ahead text body ∧ body ≠ key ++ [0]

theorem ahead_found {a body : List UInt8} (ahead : Ahead a body) :
    jsonFindQuote a = some (quote :: body) := by
  obtain ⟨junk, rfl⟩ := ahead
  rw [jsonFindQuote_pieces, jsonFindQuote_quote]

theorem jsonFindQuote_split (a q : Pointer) (found : jsonFindQuote a = some q) :
    ∃ pieces : List Piece, a = pieces.flatMap Piece.text ++ q ∨
      ∃ rest, q = 0 :: rest ∧ a = pieces.flatMap Piece.text ++ backslash :: q := by
  induction a using jsonFindQuote.induct generalizing q with
  | case1 => simp [jsonFindQuote] at found
  | case2 rest =>
    obtain rfl : 0 :: rest = q := by simpa using found
    exact ⟨[], .inl rfl⟩
  | case3 rest _ =>
    obtain rfl : quote :: rest = q := by simpa using found
    exact ⟨[], .inl rfl⟩
  | case4 =>
    have unfinished : jsonFindQuote [backslash] = none := by decide
    simp [unfinished] at found
  | case5 rest =>
    obtain rfl : 0 :: rest = q := by simpa using found
    exact ⟨[], .inr ⟨rest, rfl, rfl⟩⟩
  | case6 escaped rest nonzero _ _ ih =>
    rw [jsonFindQuote_escape _ _ nonzero] at found
    obtain ⟨pieces, shape⟩ := ih q found
    refine ⟨.escape ⟨escaped, nonzero⟩ :: pieces, ?_⟩
    simpa [Piece.text] using shape
  | case7 byte rest notNul notQuote notBackslash ih =>
    rw [jsonFindQuote_plain _ _ ⟨notNul, notQuote, notBackslash⟩] at found
    obtain ⟨pieces, shape⟩ := ih q found
    refine ⟨.plain ⟨byte, notNul, notQuote, notBackslash⟩ :: pieces, ?_⟩
    simpa [Piece.text] using shape

theorem next_split (a q : Pointer) (moved : next a = some q) : ∃ ws, a = whites ws ++ q := by
  induction a with
  | nil => simp [next] at moved
  | cons first a ih =>
    by_cases white : first ≠ 0 ∧ isWhiteSpace first
    · rw [next, if_pos white] at moved
      obtain ⟨ws, rfl⟩ := ih moved
      have kind : ∃ w : White, first = w.byte := by
        have listed := white.2
        simp only [isWhiteSpace, Bool.or_eq_true, beq_iff_eq] at listed
        rcases listed with ((rfl | rfl) | rfl) | rfl
        · exact ⟨.newline, rfl⟩
        · exact ⟨.carriageReturn, rfl⟩
        · exact ⟨.tab, rfl⟩
        · exact ⟨.space, rfl⟩
      obtain ⟨w, rfl⟩ := kind
      exact ⟨w :: ws, rfl⟩
    · rw [next, if_neg white] at moved
      obtain rfl := Option.some.inj moved
      exact ⟨[], rfl⟩

theorem skipAlphaDigit_split (a q : Pointer) (moved : skipAlphaDigit a = some q) :
    ∃ letters, (∀ byte ∈ letters, (isAlpha byte || isDigit byte) = true) ∧ a = letters ++ q := by
  induction a with
  | nil => simp [skipAlphaDigit] at moved
  | cons first a ih =>
    by_cases alnum : (isAlpha first || isDigit first) = true
    · rw [skipAlphaDigit, if_pos alnum] at moved
      obtain ⟨letters, all, rfl⟩ := ih moved
      refine ⟨first :: letters, ?_, rfl⟩
      intro byte member
      rcases List.mem_cons.mp member with rfl | later
      · exact alnum
      · exact all byte later
    · rw [skipAlphaDigit, if_neg alnum] at moved
      obtain rfl := Option.some.inj moved
      exact ⟨[], by simp, rfl⟩

theorem ahead_of_found {a body : List UInt8} (found : jsonFindQuote a = some (quote :: body)) :
    Ahead a body := by
  obtain ⟨pieces, shape | ⟨rest, zero, -⟩⟩ := jsonFindQuote_split a _ found
  · exact ⟨pieces, shape⟩
  · have notNul : ¬ quote = 0 := by decide
    exact absurd (List.cons.inj zero).1 notNul

theorem load_eq_some {a : Pointer} {byte : UInt8} (loaded : load a = some byte) :
    ∃ rest, a = byte :: rest := by
  cases a with
  | nil => simp [load] at loaded
  | cons first rest => exact ⟨rest, by simpa using loaded⟩

theorem advance_eq_some {a q : Pointer} (moved : advance a = some q) : ∃ byte, a = byte :: q := by
  cases a with
  | nil => simp [advance] at moved
  | cons first rest => exact ⟨first, by simpa using moved⟩

theorem valueOfKey_split {tail p : Pointer} (found : valueOfKey (quote :: tail) = some (some p)) :
    ∃ afterKey beforeValue, tail = whites afterKey ++ colon :: (whites beforeValue ++ p) ∧
      ∃ byte rest, p = byte :: rest ∧ byte ≠ 0 := by
  simp only [valueOfKey, advance_cons, Option.bind_eq_bind, Option.bind_some,
    Option.bind_eq_some_iff] at found
  obtain ⟨q, blank, byte, loaded, rest⟩ := found
  obtain ⟨afterKey, rfl⟩ := next_split tail q blank
  obtain ⟨behind, rfl⟩ := load_eq_some loaded
  split_ifs at rest with isColon
  · simp at rest
  · have isColon : byte = colon := by simpa using isColon
    simp only [advance_cons, Option.bind_some, Option.bind_eq_some_iff] at rest
    obtain ⟨p', blank', first, loaded', rest⟩ := rest
    obtain ⟨beforeValue, rfl⟩ := next_split behind p' blank'
    split_ifs at rest with noValue
    · simp at rest
    · obtain rfl : p' = p := by simpa using rest
      obtain ⟨more, rfl⟩ := load_eq_some loaded'
      exact ⟨afterKey, beforeValue, by rw [isColon], first, more, rfl, fun zero => noValue (.inl zero)⟩

theorem toComma_split {a p : Pointer} (found : toComma a = some (some p)) :
    ∃ ws rest, p = comma :: rest ∧ a = whites ws ++ comma :: rest := by
  simp only [toComma, Option.bind_eq_some_iff] at found
  obtain ⟨q, blank, byte, loaded, rest⟩ := found
  obtain ⟨ws, rfl⟩ := next_split a q blank
  obtain ⟨behind, rfl⟩ := load_eq_some loaded
  split_ifs at rest with isComma
  · simp at rest
  · have isComma : byte = comma := by simpa using isComma
    obtain rfl : byte :: behind = p := by simpa using rest
    exact ⟨ws, behind, by rw [isComma], by rw [isComma]⟩

theorem skipValue_split {a p : Pointer} (found : skipValue a = some (some p)) : OverValue a p := by
  simp only [skipValue_eq, Option.bind_eq_some_iff] at found
  obtain ⟨byte, loaded, found⟩ := found
  split_ifs at found with string
  · obtain ⟨behind, rfl⟩ := load_eq_some loaded
    simp only [advance_cons, Option.bind_some, Option.bind_eq_some_iff] at found
    obtain ⟨q, closing, last, loaded', rest⟩ := found
    split_ifs at rest with ended
    · simp at rest
    · simp only [Option.bind_eq_some_iff] at rest
      obtain ⟨after, moved, r, blank, last'⟩ := rest
      obtain ⟨first, inner, rfl, ends, -⟩ := jsonFindQuote_suffix behind q closing
      obtain rfl : first = last := by simpa using loaded'
      obtain rfl : first = quote := ends.resolve_left ended
      obtain ⟨pieces, rfl⟩ := ahead_of_found closing
      obtain rfl : inner = after := by simpa using moved
      obtain ⟨ws, rfl⟩ := next_split inner r blank
      obtain ⟨ws', rest, rfl, rfl⟩ := toComma_split last'
      have spaces : whites ws ++ (whites ws' ++ comma :: rest) =
          whites (ws ++ ws') ++ comma :: rest := by simp [whites]
      rw [string, spaces]
      exact .string pieces (ws ++ ws') rest
  · simp only [Option.bind_eq_some_iff] at found
    obtain ⟨q, skipped, last⟩ := found
    obtain ⟨letters, alnum, rfl⟩ := skipAlphaDigit_split a q skipped
    obtain ⟨ws, rest, rfl, rfl⟩ := toComma_split last
    exact .word letters ws rest alnum

theorem nextPair_split {a p : Pointer} (found : nextPair a = some (some p)) :
    ∃ body tail, advance a = some body ∧ Ahead body tail ∧ OverPair tail p := by
  simp only [nextPair_eq, Option.bind_eq_some_iff] at found
  obtain ⟨body, moved, q, closing, byte, loaded, rest⟩ := found
  split_ifs at rest with ended
  · simp at rest
  · simp only [Option.bind_eq_some_iff] at rest
    obtain ⟨value, found, rest⟩ := rest
    obtain ⟨first, tail, rfl, ends, -⟩ := jsonFindQuote_suffix body q closing
    obtain rfl : first = byte := by simpa using loaded
    obtain rfl : first = quote := ends.resolve_left ended
    cases value with
    | none => simp at rest
    | some start =>
      obtain ⟨afterKey, beforeValue, rfl, -⟩ := valueOfKey_split found
      exact ⟨body, _, moved, ahead_of_found closing,
        .pair afterKey beforeValue start p (skipValue_split rest)⟩

theorem overPair_found {tail rest : List UInt8} (skipped : OverPair tail rest) :
    (valueOfKey (quote :: tail)).bind (fun value =>
      match value with
      | none => some none
      | some p => skipValue p) = some (some rest) := by
  have commaBlack : isWhiteSpace comma = false := by decide
  have commaStops : (isAlpha comma || isDigit comma) = false := by decide
  have commaProper : ¬ (comma = 0 ∨ comma = closeBrace) := by decide
  obtain ⟨afterKey, beforeValue, value, rest, skipped⟩ := skipped
  cases skipped with
  | string pieces ws rest =>
    rw [valueOfKey_before quote _ afterKey beforeValue (by decide) (by decide), Option.bind_some]
    have skipped := skipValue_string pieces ws comma rest commaBlack
    rwa [if_pos rfl] at skipped
  | word letters ws rest alnum =>
    cases letters with
    | nil =>
      have spaces : whites beforeValue ++ ([] ++ (whites ws ++ comma :: rest)) =
          whites (beforeValue ++ ws) ++ comma :: rest := by simp [whites]
      have skipped : skipValue (comma :: rest) = some (some (comma :: rest)) := by
        have notQuote : ¬ comma = quote := by decide
        have stays : skipAlphaDigit (comma :: rest) = some (comma :: rest) := by
          rw [skipAlphaDigit, if_neg (by decide)]
        simp only [skipValue_eq, load_cons, Option.bind_some, notQuote, if_false, stays, toComma,
          next_of_not_white _ _ commaBlack, ne_eq, not_true_eq_false]
      rw [spaces, valueOfKey_before comma rest afterKey _ commaBlack commaProper, Option.bind_some]
      exact skipped
    | cons letter letters =>
      have isAlnum := alnum letter (by simp)
      have black : isWhiteSpace letter = false := by
        by_contra white
        have listed : isWhiteSpace letter = true := by simpa using white
        simp only [isWhiteSpace, Bool.or_eq_true, beq_iff_eq] at listed
        rcases listed with ((rfl | rfl) | rfl) | rfl <;> exact absurd isAlnum (by decide)
      have proper : ¬ (letter = 0 ∨ letter = closeBrace) := by
        rintro (rfl | rfl) <;> exact absurd isAlnum (by decide)
      rw [List.cons_append, valueOfKey_before letter _ afterKey beforeValue black proper,
        Option.bind_some]
      have skipped := skipValue_word (letter :: letters) ws comma rest alnum (by simp) commaBlack
        commaStops
      rwa [if_pos rfl] at skipped

theorem nextPair_found {a body tail rest : List UInt8} (moved : advance a = some body)
    (closing : Ahead body tail) (skipped : OverPair tail rest) : nextPair a = some (some rest) := by
  have notNul : ¬ quote = 0 := by decide
  simp only [nextPair_eq, moved, Option.bind_some, ahead_found closing, load_cons, notNul, if_false]
  exact overPair_found skipped

theorem pieces_nul (pieces : List Piece) : 0 ∉ pieces.flatMap Piece.text :=
  keyText_nul { key := pieces, value := .null }

theorem mem_of_later {byte : UInt8} {rest : List UInt8} (nul : 0 ∈ byte :: rest)
    (nonzero : byte ≠ 0) : 0 ∈ rest :=
  (List.mem_cons.mp nul).resolve_left fun zero => nonzero zero.symm

theorem jsonFindQuote_reads (a : Pointer) (nul : 0 ∈ a) :
    ∃ byte rest, jsonFindQuote a = some (byte :: rest) ∧
      (byte = 0 ∨ byte = quote ∧ 0 ∈ rest ∧ Ahead a rest) := by
  obtain ⟨q, found⟩ := jsonFindQuote_total a nul
  obtain ⟨byte, rest, rfl, ends, -⟩ := jsonFindQuote_suffix a q found
  refine ⟨byte, rest, found, ends.imp_right ?_⟩
  rintro rfl
  have ahead := ahead_of_found found
  obtain ⟨junk, shape⟩ := ahead_of_found found
  rw [shape, List.mem_append] at nul
  exact ⟨rfl, mem_of_later (nul.resolve_left (pieces_nul junk)) (by decide), ahead⟩

theorem next_reads (a : Pointer) (nul : 0 ∈ a) :
    ∃ byte rest, next a = some (byte :: rest) ∧ 0 ∈ byte :: rest := by
  induction a with
  | nil => simp at nul
  | cons first a ih =>
    by_cases white : first ≠ 0 ∧ isWhiteSpace first
    · rw [next, if_pos white]
      exact ih (mem_of_later nul white.1)
    · exact ⟨first, a, by rw [next, if_neg white], nul⟩

theorem skipAlphaDigit_reads (a : Pointer) (nul : 0 ∈ a) :
    ∃ q, skipAlphaDigit a = some q ∧ 0 ∈ q := by
  induction a with
  | nil => simp at nul
  | cons first a ih =>
    by_cases alnum : (isAlpha first || isDigit first) = true
    · rw [skipAlphaDigit, if_pos alnum]
      refine ih (mem_of_later nul ?_)
      rintro rfl
      exact absurd alnum (by decide)
    · exact ⟨first :: a, by rw [skipAlphaDigit, if_neg alnum], nul⟩

theorem toComma_reads (a : Pointer) (nul : 0 ∈ a) : ∃ r, toComma a = some r := by
  obtain ⟨byte, rest, blank, -⟩ := next_reads a nul
  by_cases isComma : byte = comma
  · exact ⟨some (byte :: rest), by simp [toComma, blank, isComma]⟩
  · exact ⟨none, by simp [toComma, blank, isComma]⟩

theorem valueOfKey_reads (tail : Pointer) (nul : 0 ∈ tail) :
    ∃ r, valueOfKey (quote :: tail) = some r ∧ ∀ p, r = some p → 0 ∈ p := by
  obtain ⟨byte, rest, blank, restNul⟩ := next_reads tail nul
  simp only [valueOfKey, advance_cons, Option.bind_eq_bind, Option.bind_some, blank, load_cons]
  by_cases isColon : byte = colon
  · have later : 0 ∈ rest := mem_of_later restNul (by rw [isColon]; decide)
    obtain ⟨first, more, blank', valueNul⟩ := next_reads rest later
    by_cases noValue : first = 0 ∨ first = closeBrace
    · exact ⟨none, by simp [isColon, blank', noValue], by simp⟩
    · refine ⟨some (first :: more), by simp [isColon, blank', noValue], ?_⟩
      intro p same
      obtain rfl := Option.some.inj same
      exact valueNul
  · exact ⟨none, by simp [isColon], by simp⟩

theorem skipValue_reads (a : Pointer) (nul : 0 ∈ a) : ∃ r, skipValue a = some r := by
  cases a with
  | nil => simp at nul
  | cons byte rest =>
    simp only [skipValue_eq, load_cons, Option.bind_some, advance_cons]
    by_cases string : byte = quote
    · obtain ⟨last, behind, closing, ends⟩ :=
        jsonFindQuote_reads rest (mem_of_later nul (by rw [string]; decide))
      simp only [string, if_true, closing, Option.bind_some, load_cons, advance_cons]
      rcases ends with rfl | ⟨rfl, behindNul, -⟩
      · exact ⟨none, by simp⟩
      · obtain ⟨first, more, blank, moreNul⟩ := next_reads behind behindNul
        have notNul : ¬ quote = 0 := by decide
        simp only [notNul, if_false, blank, Option.bind_some]
        exact toComma_reads _ moreNul
    · obtain ⟨q, skipped, qNul⟩ := skipAlphaDigit_reads (byte :: rest) nul
      simp only [string, if_false, skipped, Option.bind_some]
      exact toComma_reads q qNul

theorem goOn_reads (byte : UInt8) (body : Pointer) (nul : 0 ∈ body) :
    ∃ turn, goOn (byte :: body) = some turn := by
  have read : ∃ r, nextPair (byte :: body) = some r := by
    obtain ⟨last, tail, closing, ends⟩ := jsonFindQuote_reads body nul
    simp only [nextPair_eq, advance_cons, Option.bind_some, closing, load_cons]
    rcases ends with rfl | ⟨rfl, tailNul, -⟩
    · exact ⟨none, by simp⟩
    · obtain ⟨value, found, valueNul⟩ := valueOfKey_reads tail tailNul
      have notNul : ¬ quote = 0 := by decide
      simp only [notNul, if_false, found, Option.bind_some]
      cases value with
      | none => exact ⟨none, rfl⟩
      | some p => exact skipValue_reads p (valueNul p rfl)
  obtain ⟨r, pair⟩ := read
  cases r with
  | none => exact ⟨.done none, by rw [goOn, pair]; rfl⟩
  | some p => exact ⟨.again p, by rw [goOn, pair]; rfl⟩

theorem startsWith_reads (key a : List UInt8) (keyNul : 0 ∉ key) (nul : 0 ∈ a) :
    startsWith key a = some (decide (key <+: a)) := by
  induction key generalizing a with
  | nil => simp [startsWith]
  | cons k key ih =>
    cases a with
    | nil => simp at nul
    | cons byte rest =>
      by_cases same : byte = k
      · subst same
        have nonzero : byte ≠ 0 := fun zero => keyNul (by simp [zero])
        have restFree : 0 ∉ key := fun member => keyNul (List.mem_cons_of_mem _ member)
        simp [startsWith, ih rest restFree (mem_of_later nul nonzero)]
      · have differ : ¬ k = byte := fun h => same h.symm
        simp [startsWith, same, differ, List.cons_prefix_cons]

def Ended (a : Pointer) : Prop := ∃ text : List UInt8, 0 ∉ text ∧ a = text ++ [0]

theorem Ended.nul {a : Pointer} (ended : Ended a) : 0 ∈ a := by
  obtain ⟨text, -, rfl⟩ := ended
  simp

theorem Ended.suffix {a q : Pointer} (ended : Ended a) (inside : q <:+ a) (nonempty : q ≠ []) :
    Ended q := by
  obtain ⟨text, free, rfl⟩ := ended
  obtain ⟨front, split⟩ := inside
  obtain ⟨start, last, rfl⟩ := (List.eq_nil_or_concat q).resolve_left nonempty
  rw [List.concat_eq_append, ← List.append_assoc] at split
  obtain ⟨texts, lasts⟩ := List.append_inj' split rfl
  refine ⟨start, fun member => free (texts ▸ List.mem_append_right _ member), ?_⟩
  rw [List.concat_eq_append, lasts]

theorem Ended.cons {byte : UInt8} {rest : Pointer} (ended : Ended (byte :: rest)) :
    byte = 0 ∧ rest = [] ∨ byte ≠ 0 ∧ Ended rest := by
  obtain ⟨text, free, split⟩ := ended
  cases text with
  | nil =>
    obtain ⟨rfl, rfl⟩ := List.cons.inj split
    exact .inl ⟨rfl, rfl⟩
  | cons first text =>
    obtain ⟨rfl, rfl⟩ := List.cons.inj split
    exact .inr ⟨fun zero => free (by simp [zero]), text,
      fun member => free (List.mem_cons_of_mem _ member), rfl⟩

theorem Ahead.suffix {a body : List UInt8} (ahead : Ahead a body) : quote :: body <:+ a := by
  obtain ⟨junk, rfl⟩ := ahead
  exact List.suffix_append _ _

theorem OverPair.suffix {tail rest : List UInt8} (skipped : OverPair tail rest) : rest <:+ tail := by
  obtain ⟨afterKey, beforeValue, value, rest, skipped⟩ := skipped
  have inside : rest <:+ value := by
    cases skipped with
    | string pieces ws rest =>
      exact ⟨quote :: (pieces.flatMap Piece.text ++ quote :: whites ws), by simp⟩
    | word letters ws rest alnum => exact ⟨letters ++ whites ws, by simp⟩
  exact inside.trans ⟨whites afterKey ++ colon :: whites beforeValue, by simp⟩

theorem Skips.suffix {key text rest : List UInt8} (skips : Skips key text rest) :
    rest <:+ text ∧ rest.length < text.length := by
  obtain ⟨body, tail, rest, opening, skipped, value⟩ := skips
  have closed : tail <:+ body := by
    cases skipped with
    | other _ _ _ closing => exact (List.suffix_cons _ _).trans closing.suffix
    | longer byte body _ _ closing =>
      exact ((List.suffix_cons _ _).trans closing.suffix).trans ⟨key ++ [byte], by simp⟩
  have inside := value.suffix.trans closed
  have opened := opening.suffix
  refine ⟨(inside.trans (List.suffix_cons _ _)).trans opened, ?_⟩
  have shorter := inside.length_le
  have whole := opened.length_le
  simp only [List.length_cons] at whole
  omega

theorem Skips.comma {key text rest : List UInt8} (skips : Skips key text rest) :
    ∃ more, rest = comma :: more := by
  obtain ⟨body, tail, rest, opening, skipped, value⟩ := skips
  obtain ⟨afterKey, beforeValue, value, rest, skipped⟩ := value
  cases skipped with
  | string pieces ws rest => exact ⟨rest, rfl⟩
  | word letters ws rest alnum => exact ⟨rest, rfl⟩

theorem searchPair_not_opens {key a : List UInt8} (keyNul : 0 ∉ key) (ended : Ended a)
    (closed : ¬ Opens key a) : searchPair key a = none := by
  obtain ⟨byte, rest, found, ends⟩ := jsonFindQuote_reads a ended.nul
  obtain ⟨-, -, same, -, inside⟩ := jsonFindQuote_suffix a _ found
  rw [searchPair_eq, found, Option.bind_some, advance_cons, Option.bind_some]
  rcases ends with rfl | ⟨rfl, restNul, ahead⟩
  · -- The scan is at the NUL; the key is compared with what is behind it.
    obtain rfl : rest = [] := by
      rcases (ended.suffix inside (by simp)).cons with ⟨-, empty⟩ | ⟨nonzero, -⟩
      · exact empty
      · exact absurd rfl nonzero
    cases key with
    | nil => simp [startsWith, load]
    | cons k key => simp [startsWith]
  · -- The text ends behind a match of the whole key.
    obtain rfl : rest = key ++ [0] := by
      by_contra differs
      exact closed ⟨rest, ahead, differs⟩
    have begins : startsWith key (key ++ [0]) = some true := by
      rw [startsWith_reads key _ keyNul (by simp), decide_eq_true (List.prefix_append _ _)]
    have notQuote : ¬ (0 : UInt8) = quote := by decide
    have behind : goOn [0] = none := by decide
    simp only [begins, Option.bind_some, if_true, List.drop_left, load_cons, notQuote, if_false,
      behind]

theorem goOn_again {a p : Pointer} (onward : goOn a = some (.again p)) :
    nextPair a = some (some p) := by
  simp only [goOn, Option.bind_eq_some_iff] at onward
  obtain ⟨pair, found, rest⟩ := onward
  cases pair with
  | none => simp at rest
  | some q =>
    obtain rfl : q = p := by simpa using rest
    exact found

theorem searchPair_opens {key a : List UInt8} (keyNul : 0 ∉ key) (ended : Ended a)
    (opens : Opens key a) :
    ∃ turn, searchPair key a = some turn ∧ ∀ p, turn = .again p → Skips key a p := by
  obtain ⟨body, ahead, differs⟩ := opens
  have bodyEnded : Ended body := by
    rcases (ended.suffix ahead.suffix (by simp)).cons with ⟨zero, -⟩ | ⟨-, bodyEnded⟩
    · exact absurd zero (by decide)
    · exact bodyEnded
  rw [searchPair_eq, ahead_found ahead, Option.bind_some, advance_cons, Option.bind_some,
    startsWith_reads key body keyNul bodyEnded.nul, Option.bind_some]
  by_cases begins : key <+: body
  · obtain ⟨rest, rfl⟩ := begins
    have restNonempty : rest ≠ [] := by
      rintro rfl
      exact keyNul (by simpa using bodyEnded.nul)
    have restEnded : Ended rest := bodyEnded.suffix (List.suffix_append _ _) restNonempty
    obtain ⟨byte, more, rfl⟩ := List.exists_cons_of_ne_nil restNonempty
    simp only [List.prefix_append, decide_true, if_true, List.drop_left, load_cons,
      Option.bind_some]
    rcases restEnded.cons with ⟨rfl, rfl⟩ | ⟨nonzero, moreEnded⟩
    · exact absurd rfl differs
    by_cases found : byte = quote
    · obtain ⟨value, read, -⟩ := valueOfKey_reads more moreEnded.nul
      exact ⟨.done value, by simp [found, read], by simp⟩
    · obtain ⟨turn, read⟩ := goOn_reads byte more moreEnded.nul
      refine ⟨turn, by simp [found, read], ?_⟩
      rintro p rfl
      obtain ⟨inner, tail, moved, closing, skipped⟩ := nextPair_split (goOn_again read)
      obtain rfl : more = inner := by simpa using moved
      exact .pair a _ tail p ahead (.longer byte more tail found closing) skipped
  · obtain ⟨turn, read⟩ := goOn_reads quote body bodyEnded.nul
    refine ⟨turn, by simp [begins, read], ?_⟩
    rintro p rfl
    obtain ⟨inner, tail, moved, closing, skipped⟩ := nextPair_split (goOn_again read)
    obtain rfl : body = inner := by simpa using moved
    exact .pair a body tail p ahead (.other body tail begins closing) skipped

theorem searchPair_skips {key a p : List UInt8} (keyNul : 0 ∉ key) (ended : Ended a)
    (skips : Skips key a p) : Opens key a ∧ searchPair key a = some (.again p) := by
  obtain ⟨body, tail, p, ahead, skipped, value⟩ := skips
  have bodyEnded : Ended body := by
    rcases (ended.suffix ahead.suffix (by simp)).cons with ⟨zero, -⟩ | ⟨-, bodyEnded⟩
    · exact absurd zero (by decide)
    · exact bodyEnded
  have turn {q : Pointer} (found : nextPair q = some (some p)) :
      goOn q = some (.again p) := by rw [goOn, found]; rfl
  have compared := startsWith_reads key body keyNul bodyEnded.nul
  rw [searchPair_eq, ahead_found ahead, Option.bind_some, advance_cons, Option.bind_some, compared,
    Option.bind_some]
  cases skipped with
  | other _ _ differs closing =>
    refine ⟨⟨body, ahead, fun same => differs (same ▸ List.prefix_append _ _)⟩, ?_⟩
    have onward := turn (nextPair_found (advance_cons quote body) closing value)
    simp only [differs, decide_false, Bool.false_eq_true, if_false, onward]
  | longer byte inner _ more closing =>
    have onward := turn (nextPair_found (advance_cons byte inner) closing value)
    refine ⟨⟨_, ahead, ?_⟩, ?_⟩
    · intro same
      obtain ⟨-, rfl⟩ := List.cons.inj (List.append_cancel_left same)
      obtain ⟨junk, empty⟩ := closing
      simp at empty
    · simp only [List.prefix_append, decide_true, if_true, List.drop_left, load_cons,
        Option.bind_some, more, if_false, onward]

theorem searchPairs_reads_iff (key : List UInt8) (keyNul : 0 ∉ key) (fuel : Nat) (a : Pointer)
    (ended : Ended a) (more : a ≠ [0]) (enough : a.length ≤ fuel) :
    (∃ found, searchPairs key fuel a = some found) ↔ ∀ rest, Pairs key a rest → Opens key rest := by
  induction fuel generalizing a with
  | zero =>
    obtain ⟨text, -, rfl⟩ := ended
    simp at enough
  | succ fuel ih =>
    obtain ⟨byte, tail, split⟩ : ∃ byte tail, a = byte :: tail := by
      obtain ⟨text, -, rfl⟩ := ended
      cases text <;> exact ⟨_, _, rfl⟩
    have notNul : ¬ byte = 0 := by
      rcases (split ▸ ended).cons with ⟨rfl, rfl⟩ | ⟨nonzero, -⟩
      · exact absurd split more
      · exact nonzero
    have loaded : load a = some byte := by rw [split]; rfl
    simp only [searchPairs, Option.bind_eq_bind, loaded, Option.bind_some, notNul, if_false]
    -- Either the first pair ends the lookup, or it is skipped up to its comma.
    by_cases opens : Opens key a
    · obtain ⟨turn, found, again⟩ := searchPair_opens keyNul ended opens
      simp only [found, Option.bind_some]
      cases turn with
      | done value =>
        refine iff_of_true ⟨value, rfl⟩ ?_
        intro rest pairs
        cases pairs with
        | here => exact opens
        | pair _ rest _ first others =>
          have skipped := (searchPair_skips keyNul ended first).2
          simp [found] at skipped
      | again p =>
        have skips := again p rfl
        obtain ⟨behind, rfl⟩ := skips.comma
        have pEnded := ended.suffix skips.suffix.1 (by simp)
        have notEmpty : comma :: behind ≠ [0] := fun same =>
          absurd (List.cons.inj same).1 (by decide)
        have shorter := skips.suffix.2
        rw [ih (comma :: behind) pEnded notEmpty (by omega)]
        constructor
        · intro all rest pairs
          cases pairs with
          | here => exact opens
          | pair _ next _ first others =>
            have skipped := (searchPair_skips keyNul ended first).2
            obtain rfl : comma :: behind = next := by simpa [found] using skipped
            exact all rest others
        · intro all rest pairs
          exact all rest (.pair a _ rest skips pairs)
    · refine iff_of_false ?_ fun all => opens (all a (.here a))
      simp [searchPair_not_opens keyNul ended opens]

theorem searchPairs_pointer (key : List UInt8) (fuel : Nat) (a p : Pointer)
    (found : searchPairs key fuel a = some (some p)) :
    p <:+ a ∧ ∃ byte rest, p = byte :: rest ∧ byte ≠ 0 := by
  induction fuel generalizing a with
  | zero => simp [searchPairs] at found
  | succ fuel ih =>
    simp only [searchPairs, Option.bind_eq_bind, Option.bind_eq_some_iff] at found
    obtain ⟨byte, -, found⟩ := found
    split_ifs at found
    · simp at found
    · simp only [Option.bind_eq_some_iff] at found
      obtain ⟨turn, one, result⟩ := found
      simp only [searchPair_eq, Option.bind_eq_some_iff] at one
      obtain ⟨q, opening, behind, moved, begins, -, one⟩ := one
      obtain ⟨-, -, -, -, inside⟩ := jsonFindQuote_suffix a q opening
      obtain ⟨first, rfl⟩ := advance_eq_some moved
      have behindInside : behind <:+ a := (List.suffix_cons _ _).trans inside
      have dropped := (List.drop_suffix key.length behind).trans behindInside
      -- However the pair was compared, the loop goes on behind it.
      have onward {start : Pointer} (goes : goOn start = some turn) (startInside : start <:+ a) :
          p <:+ a ∧ ∃ byte rest, p = byte :: rest ∧ byte ≠ 0 := by
        cases turn with
        | done value =>
          simp only [goOn, Option.bind_eq_some_iff] at goes
          obtain ⟨pair, -, rest⟩ := goes
          cases pair with
          | none =>
            obtain rfl : none = value := by simpa using rest
            simp at result
          | some next => simp at rest
        | again next =>
          obtain ⟨body, tail, moved', closing, skipped⟩ := nextPair_split (goOn_again goes)
          obtain ⟨_, rfl⟩ := advance_eq_some moved'
          have nextInside : next <:+ body :=
            skipped.suffix.trans ((List.suffix_cons _ _).trans closing.suffix)
          obtain ⟨later, shape⟩ := ih next result
          exact ⟨later.trans (nextInside.trans ((List.suffix_cons _ _).trans startInside)), shape⟩
      split_ifs at one with same
      · simp only [Option.bind_eq_some_iff] at one
        obtain ⟨byte', loaded, one⟩ := one
        split_ifs at one with closes
        · simp only [Option.bind_eq_some_iff] at one
          obtain ⟨value, read, last⟩ := one
          obtain rfl : Turn.done value = turn := by simpa using last
          obtain rfl : value = some p := by simpa using result
          obtain ⟨tail, split⟩ := load_eq_some loaded
          rw [split, closes] at read
          obtain ⟨afterKey, beforeValue, rfl, shape⟩ := valueOfKey_split read
          refine ⟨List.IsSuffix.trans ?_ dropped, shape⟩
          rw [split]
          exact ⟨byte' :: (whites afterKey ++ colon :: whites beforeValue), by simp⟩
        · exact onward one dropped
      · exact onward one inside

/-- The lookup ends, reads nothing behind the NUL, and gives the same for all bytes behind it, and
so do the three getters. -/
structure StaysInside (key text : List UInt8) : Prop where
  value : ∃ found, jsonGetValue (text ++ [0]) key = some found ∧
    ∀ stale, jsonGetValue (text ++ 0 :: stale) key = some (found.map (· ++ stale))
  bool : ∃ result, ∀ stale, jsonGetBool (text ++ 0 :: stale) key = some result
  int : ∀ value, ∃ result, ∀ stale, jsonGetInt (text ++ 0 :: stale) key value = some result
  string : ∀ value len, ∃ ok p count, jsonGetString (text ++ [0]) key value len = some (ok, p, count) ∧
    ∀ stale, jsonGetString (text ++ 0 :: stale) key value len =
      some (ok, if ok then p ++ stale else p, count)

theorem insideString_extend {a q : Pointer} (b : Pointer) (moved : insideString a = some q) :
    insideString (a ++ b) = some (q ++ b) := by
  cases a with
  | nil => simp [insideString, load] at moved
  | cons byte rest =>
    by_cases bare : byte = quote
    · cases rest with
      | nil => simp [insideString, bare, load] at moved
      | cons second rest =>
        by_cases ends : second = 0
        · obtain rfl : byte :: second :: rest = q := by simpa [insideString, bare, ends] using moved
          simp [insideString, ends]
        · obtain rfl : second :: rest = q := by simpa [insideString, bare, ends] using moved
          simp [insideString, bare, ends]
    · rw [insideString_of_not_quote byte rest bare] at moved
      obtain rfl := Option.some.inj moved
      exact insideString_of_not_quote byte (rest ++ b) bare

theorem addDigits_extend {a q : Pointer} {value sum : UInt32} (b : Pointer)
    (added : addDigits value a = some (sum, q)) :
    addDigits value (a ++ b) = some (sum, q ++ b) := by
  induction a generalizing value with
  | nil => simp [addDigits] at added
  | cons byte rest ih =>
    by_cases digit : byte ≠ 0 ∧ isDigit byte = true
    · rw [addDigits, if_pos digit] at added
      rw [List.cons_append, addDigits, if_pos digit, ih added]
    · rw [addDigits, if_neg digit] at added
      obtain ⟨rfl, rfl⟩ : value = sum ∧ byte :: rest = q := by simpa using added
      rw [List.cons_append, addDigits, if_neg digit]

theorem getNumber_extend {a : Pointer} {value : UInt32} (b : Pointer)
    (read : getNumber a = some value) : getNumber (a ++ b) = some value := by
  simp only [getNumber, Option.bind_eq_bind, Option.bind_eq_some_iff] at read
  obtain ⟨p, entered, ⟨sum, q⟩, added, after, left, same⟩ := read
  simp only [getNumber, Option.bind_eq_bind, insideString_extend b entered, Option.bind_some,
    addDigits_extend b added, insideString_extend b left, same]

theorem jsonGetValue_extend {key text : List UInt8} {found : Option Pointer}
    (looked : jsonGetValue (text ++ [0]) key = some found) (stale : List UInt8) :
    jsonGetValue (text ++ 0 :: stale) key = some (found.map (· ++ stale)) := by
  have fuels : (text ++ 0 :: stale).length + 1 = (text ++ [0]).length + 1 + stale.length := by
    simp only [List.length_append, List.length_cons, List.length_nil]
    omega
  have split : text ++ 0 :: stale = text ++ [0] ++ stale := by simp
  rw [jsonGetValue, fuels, split]
  exact searchPairs_extend stale stale.length looked

theorem staysInside_absent {key text : List UInt8}
    (looked : jsonGetValue (text ++ [0]) key = some none) : StaysInside key text := by
  have absent (stale : List UInt8) : jsonGetValue (text ++ 0 :: stale) key = some none :=
    jsonGetValue_extend looked stale
  refine ⟨⟨none, looked, absent⟩, ⟨none, ?_⟩, ?_, ?_⟩
  · intro stale
    simp [jsonGetBool, absent]
  · intro value
    exact ⟨(false, value), fun stale => jsonGetInt_none key _ value (absent stale)⟩
  · intro value len
    refine ⟨false, value, len, jsonGetString_none key _ value len looked, fun stale => ?_⟩
    rw [jsonGetString_none key _ value len (absent stale)]
    rfl

theorem staysInside_present {key text rest : List UInt8} {byte : UInt8} (textNul : 0 ∉ text)
    (looked : jsonGetValue (text ++ [0]) key = some (some (byte :: rest))) :
    StaysInside key text := by
  -- The value has the NUL of the text behind it, so each scan of it ends before the stale bytes.
  obtain ⟨inside, _, _, split, nonzero⟩ := searchPairs_pointer key _ _ _ looked
  obtain ⟨rfl, rfl⟩ := List.cons.inj split
  have ended : Ended (byte :: rest) := Ended.suffix ⟨text, textNul, rfl⟩ inside (by simp)
  have restNul : 0 ∈ rest := mem_of_later ended.nul nonzero
  have present (stale : List UInt8) :
      jsonGetValue (text ++ 0 :: stale) key = some (some (byte :: rest ++ stale)) :=
    jsonGetValue_extend looked stale
  obtain ⟨number, read⟩ := getNumber_total (byte :: rest) ended.nul
  obtain ⟨closing, ends⟩ := jsonFindQuote_total rest restNul
  refine ⟨⟨some (byte :: rest), looked, present⟩, ?_, ?_, ?_⟩
  · have isTrue := startsWith_reads trueText (byte :: rest) (by decide) ended.nul
    have isFalse := startsWith_reads falseText (byte :: rest) (by decide) ended.nul
    refine ⟨if trueText <+: byte :: rest then some true
      else if falseText <+: byte :: rest then some false else none, fun stale => ?_⟩
    simp only [jsonGetBool, present, Option.bind_eq_bind, Option.bind_some,
      startsWith_extend stale isTrue, startsWith_extend stale isFalse, decide_eq_true_eq,
      Option.pure_def]
    split_ifs <;> rfl
  · intro value
    refine ⟨(true, number), fun stale => ?_⟩
    simp only [jsonGetInt, present, Option.bind_eq_bind, Option.bind_some,
      getNumber_extend stale read, Option.pure_def]
  · intro value len
    refine ⟨true, rest, UInt8.ofNat (rest.length - closing.length), ?_, fun stale => ?_⟩
    · simp only [jsonGetString, looked, Option.bind_eq_bind, Option.bind_some, advance_cons, ends,
        Option.pure_def]
    · have lengths : (rest ++ stale).length - (closing ++ stale).length =
          rest.length - closing.length := by
        simp only [List.length_append]
        omega
      simp only [jsonGetString, present, Option.bind_eq_bind, Option.bind_some,
        List.cons_append, advance_cons, jsonFindQuote_append rest stale closing ends, lengths,
        if_true, Option.pure_def]

theorem staysInside_of_found (key text : List UInt8) (textNul : 0 ∉ text) (found : Option Pointer)
    (looked : jsonGetValue (text ++ [0]) key = some found) : StaysInside key text := by
  cases found with
  | none => exact staysInside_absent looked
  | some p =>
    obtain ⟨-, byte, rest, rfl, -⟩ := searchPairs_pointer key _ _ p looked
    exact staysInside_present textNul looked

theorem staysInside_iff (key text : List UInt8) (keyNul : 0 ∉ key) (textNul : 0 ∉ text) :
    StaysInside key text ↔
      text = [] ∨ ∀ rest, Pairs key (text ++ [0]) rest → Opens key rest := by
  have found : StaysInside key text ↔ ∃ found, jsonGetValue (text ++ [0]) key = some found := by
    constructor
    · intro inside
      obtain ⟨found, looked, -⟩ := inside.value
      exact ⟨found, looked⟩
    · rintro ⟨found, looked⟩
      exact staysInside_of_found key text textNul found looked
  rw [found]
  by_cases empty : text = []
  · subst empty
    exact iff_of_true ⟨none, by simp [jsonGetValue, searchPairs]⟩ (.inl rfl)
  · have more : text ++ [0] ≠ [0] := by simpa using empty
    simp only [empty, false_or]
    exact searchPairs_reads_iff key keyNul _ (text ++ [0]) ⟨text, textNul, rfl⟩ more (by simp)

def memberA : List UInt8 := ascii ['{', '"', 'a', '"', ':', '1', '}']

theorem staysInside_memberA : StaysInside (ascii ['a']) memberA ∧
    ∀ rest, Pairs (ascii ['a']) (memberA ++ [0]) rest → Opens (ascii ['a']) rest := by
  have looked : jsonGetValue (memberA ++ [0]) (ascii ['a']) = some (some (ascii ['1', '}'] ++ [0])) :=
    by decide
  have inside := staysInside_of_found (ascii ['a']) memberA (by decide +kernel) _ looked
  have iff := staysInside_iff (ascii ['a']) memberA (by decide +kernel) (by decide +kernel)
  exact ⟨inside, (iff.mp inside).resolve_left (by decide +kernel)⟩

theorem staysInside_empty_object : ¬ StaysInside (ascii ['a']) (ascii ['{', '}']) := by
  intro inside
  obtain ⟨found, looked, -⟩ := inside.value
  have behind : jsonGetValue (ascii ['{', '}'] ++ [0]) (ascii ['a']) = none := by decide
  simp [behind] at looked

end AvrVoiceControl.Json
