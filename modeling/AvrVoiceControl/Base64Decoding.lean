import AvrVoiceControl.Base64Text

set_option autoImplicit false

namespace AvrVoiceControl.Atca

open Base64 CString FlatMemory

structure Rules.Readable (rules : Rules) : Prop where
  digit : isDigit rules.equals = false
  alpha : isAlpha rules.equals = false
  plus : rules.equals ≠ rules.plus
  slash : rules.equals ≠ rules.slash
  visible : isWhiteSpace rules.equals = false

section Loop

variable {rules : Rules} {dataMaxSize : Nat}

def IsLetter (rules : Rules) (c : UInt8) : Prop := isBase64Digit c rules = true ∧ c ≠ rules.equals

def valueOf (rules : Rules) (c : UInt8) : Nat := (base64Index c rules).toNat

def bytesOf (rules : Rules) (body : List UInt8) : List UInt8 :=
  (bytes (body.map (valueOf rules))).map UInt8.ofNat

def printed (text : List UInt8) : List UInt8 := text.filter fun c => !isWhiteSpace c

theorem decodeLoop_printed (text ids : List UInt8) (isDone : Bool) (data : List UInt8) :
    base64decodeLoop rules dataMaxSize text ids isDone data =
      base64decodeLoop rules dataMaxSize (printed text) ids isDone data := by
  induction text generalizing ids isDone data with
  | nil => rfl
  | cons c rest ih =>
    by_cases space : isWhiteSpace c = true
    next =>
      rw [printed, List.filter_cons_of_neg (by simp [space]), ← printed]
      rcases ids with _ | ⟨id0, _ | ⟨id1, _ | ⟨id2, _ | ⟨id3, more⟩⟩⟩⟩ <;>
      simp only [base64decodeLoop, space, ih, if_true]
    next =>
      rw [printed, List.filter_cons_of_pos (by simp [space]), ← printed]
      rcases ids with _ | ⟨id0, _ | ⟨id1, _ | ⟨id2, _ | ⟨id3, more⟩⟩⟩⟩ <;>
      simp only [base64decodeLoop, space, ih]

theorem alphanumeric_index {c : UInt8} (ordinary : isDigit c = true ∨ isAlpha c = true)
    (rules : Rules) : base64Index c rules = base64Index c b64rulesUrlsafe := by
  rw [base64Index, base64Index]
  by_cases upper : (65 ≤ c && c ≤ 90) = true
  next => rw [if_pos upper, if_pos upper]
  next =>
    rw [if_neg upper, if_neg upper]
    by_cases lower : (97 ≤ c && c ≤ 122) = true
    next => rw [if_pos lower, if_pos lower]
    next =>
      rw [if_neg lower, if_neg lower]
      have figure : (48 ≤ c && c ≤ 57) = true := by
        rcases ordinary with figure | letter
        · exact figure
        · exact absurd (Bool.or_eq_true_iff.mp letter) (by simp [upper, lower])
      rw [if_pos figure, if_pos figure]

theorem alphanumeric_index_lt {c : UInt8} (ordinary : isDigit c = true ∨ isAlpha c = true)
    (rules : Rules) : (base64Index c rules).toNat < 62 := by
  have read : ∀ byte : Fin 256, isDigit (UInt8.ofNat byte) = true ∨ isAlpha (UInt8.ofNat byte) = true ->
      (base64Index (UInt8.ofNat byte) b64rulesUrlsafe).toNat < 62 := by
    decide +kernel
  have bounded := c.toNat_lt
  rw [alphanumeric_index ordinary rules]
  simpa using read ⟨c.toNat, bounded⟩ (by simpa using ordinary)

theorem index_cases {c : UInt8} (digit : isBase64Digit c rules = true) :
    ((isDigit c = true ∨ isAlpha c = true) ∧ (base64Index c rules).toNat < 62) ∨
      ((isDigit c = false ∧ isAlpha c = false) ∧
        ((c = rules.plus ∧ base64Index c rules = 62) ∨
          (c ≠ rules.plus ∧ c = rules.slash ∧ base64Index c rules = 63) ∨
          (c ≠ rules.plus ∧ c ≠ rules.slash ∧ c = rules.equals ∧
            base64Index c rules = b64IsEqual))) := by
  by_cases ordinary : isDigit c = true ∨ isAlpha c = true
  next => exact .inl ⟨ordinary, alphanumeric_index_lt ordinary rules⟩
  next =>
    have figure : isDigit c = false := by simpa using fun is => ordinary (.inl is)
    have letter : isAlpha c = false := by simpa using fun is => ordinary (.inr is)
    have upper : (65 ≤ c && c ≤ 90) = false := (Bool.or_eq_false_iff.mp letter).1
    have lower : (97 ≤ c && c ≤ 122) = false := (Bool.or_eq_false_iff.mp letter).2
    have number : (48 ≤ c && c ≤ 57) = false := figure
    refine .inr ⟨⟨figure, letter⟩, ?_⟩
    rw [base64Index]
    simp only [upper, lower, number, Bool.false_eq_true, if_false]
    by_cases plus : c = rules.plus
    next => exact .inl ⟨plus, by simp [plus]⟩
    next =>
      by_cases slash : c = rules.slash
      next =>
        refine .inr (.inl ⟨plus, slash, ?_⟩)
        rw [if_neg (by simpa using plus), if_pos (by simpa using slash)]
      next =>
        have equals : c = rules.equals := by
          simpa [isBase64Digit, figure, letter, plus, slash] using digit
        refine .inr (.inr ⟨plus, slash, equals, ?_⟩)
        rw [if_neg (by simpa using plus), if_neg (by simpa using slash),
          if_pos (by simpa using equals)]

theorem index_equals (readable : rules.Readable) {c : UInt8} (digit : isBase64Digit c rules = true) :
    base64Index c rules = b64IsEqual ↔ c = rules.equals := by
  constructor
  · intro index
    rcases index_cases digit with ⟨_, less⟩ | ⟨_, ⟨_, plus⟩ | ⟨_, _, slash⟩ | ⟨_, _, equals, _⟩⟩
    · rw [index] at less
      exact absurd less (by decide)
    · rw [index] at plus
      exact absurd plus (by decide)
    · rw [index] at slash
      exact absurd slash (by decide)
    · exact equals
  · rintro rfl
    rcases index_cases digit with ⟨ordinary, _⟩ | ⟨_, ⟨plus, _⟩ | ⟨_, slash, _⟩ | ⟨_, _, _, equals⟩⟩
    · simp [readable.digit, readable.alpha] at ordinary
    · exact absurd plus readable.plus
    · exact absurd slash readable.slash
    · exact equals

theorem valueOf_lt {c : UInt8} (letter : IsLetter rules c) :
    valueOf rules c < 64 := by
  rw [valueOf]
  rcases index_cases letter.1 with ⟨_, less⟩ | ⟨_, ⟨_, plus⟩ | ⟨_, _, slash⟩ | ⟨_, _, equals, _⟩⟩
  · omega
  · simp [plus]
  · simp [slash]
  · exact absurd equals letter.2

theorem shiftedLeft {digit : Nat} (small : digit < 64) :
    UInt8.ofNat digit <<< 2 = UInt8.ofNat (digit * 2 ^ 2) ∧
      UInt8.ofNat digit <<< 4 = UInt8.ofNat (digit % 16 * 2 ^ 4) ∧
      UInt8.ofNat digit <<< 6 = UInt8.ofNat (digit % 4 * 2 ^ 6) ∧
      UInt8.ofNat digit >>> 4 = UInt8.ofNat (digit / 16) ∧
      UInt8.ofNat digit >>> 2 = UInt8.ofNat (digit / 4) := by
  have all : ∀ digit : Fin 64,
      UInt8.ofNat digit <<< 2 = UInt8.ofNat (digit * 2 ^ 2) ∧
        UInt8.ofNat digit <<< 4 = UInt8.ofNat (digit % 16 * 2 ^ 4) ∧
        UInt8.ofNat digit <<< 6 = UInt8.ofNat (digit % 4 * 2 ^ 6) ∧
        UInt8.ofNat digit >>> 4 = UInt8.ofNat (digit / 16) ∧
        UInt8.ofNat digit >>> 2 = UInt8.ofNat (digit / 4) := by
    decide +kernel
  exact all ⟨digit, small⟩

theorem index_ofNat (c : UInt8) : base64Index c rules = UInt8.ofNat (valueOf rules c) :=
  UInt8.ofNat_toNat.symm

theorem firstByte {c0 c1 : UInt8} (l0 : IsLetter rules c0) (l1 : IsLetter rules c1) :
    base64Index c0 rules <<< 2 ||| base64Index c1 rules >>> 4 =
      UInt8.ofNat (valueOf rules c0 * 4 + valueOf rules c1 / 16) := by
  have small := valueOf_lt l1
  rw [index_ofNat c0, index_ofNat c1, (shiftedLeft (valueOf_lt l0)).1,
    (shiftedLeft small).2.2.2.1, joined (by omega)]
  rfl

theorem secondByte {c1 c2 : UInt8} (l1 : IsLetter rules c1) (l2 : IsLetter rules c2) :
    base64Index c1 rules <<< 4 ||| base64Index c2 rules >>> 2 =
      UInt8.ofNat (valueOf rules c1 % 16 * 16 + valueOf rules c2 / 4) := by
  have small := valueOf_lt l2
  rw [index_ofNat c1, index_ofNat c2, (shiftedLeft (valueOf_lt l1)).2.1,
    (shiftedLeft small).2.2.2.2, joined (by omega)]
  rfl

theorem thirdByte {c2 c3 : UInt8} (l2 : IsLetter rules c2) (l3 : IsLetter rules c3) :
    base64Index c2 rules <<< 6 ||| base64Index c3 rules =
      UInt8.ofNat (valueOf rules c2 % 4 * 64 + valueOf rules c3) := by
  have small := valueOf_lt l3
  rw [index_ofNat c2, index_ofNat c3, (shiftedLeft (valueOf_lt l2)).2.2.1, joined small]
  rfl

def IsGroup (rules : Rules) (c0 c1 c2 c3 : UInt8) (group : List UInt8) : Prop :=
  IsLetter rules c0 ∧ IsLetter rules c1 ∧
    ((c2 = rules.equals ∧ c3 = rules.equals ∧ group = [c0, c1]) ∨
      (IsLetter rules c2 ∧ c3 = rules.equals ∧ group = [c0, c1, c2]) ∨
      (IsLetter rules c2 ∧ IsLetter rules c3 ∧ group = [c0, c1, c2, c3]))

theorem fits_iff {data added out : List UInt8} {count : Nat} (length : added.length = count) :
    (if dataMaxSize < data.length + count then (AtcaStatus.badParam, data)
      else (.success, data ++ added)) = (.success, out) ↔
      out = data ++ added ∧ out.length ≤ dataMaxSize := by
  by_cases full : dataMaxSize < data.length + count
  next =>
    rw [if_pos full]
    refine ⟨nofun, ?_⟩
    rintro ⟨rfl, fits⟩
    rw [List.length_append, length] at fits
    omega
  next =>
    rw [if_neg full, Prod.mk.injEq]
    constructor
    · rintro ⟨_, rfl⟩
      exact ⟨rfl, by rw [List.length_append, length]; omega⟩
    · rintro ⟨rfl, _⟩
      exact ⟨rfl, rfl⟩

theorem block_success (readable : rules.Readable) {c0 c1 c2 c3 : UInt8}
    (d0 : isBase64Digit c0 rules = true) (d1 : isBase64Digit c1 rules = true)
    (d2 : isBase64Digit c2 rules = true) (d3 : isBase64Digit c3 rules = true)
    {data out : List UInt8} :
    base64decodeBlock (base64Index c0 rules, base64Index c1 rules, base64Index c2 rules,
        base64Index c3 rules) data dataMaxSize = (.success, out) ↔
      ∃ group, IsGroup rules c0 c1 c2 c3 group ∧ out = data ++ bytesOf rules group ∧
        out.length ≤ dataMaxSize := by
  have e0 := index_equals readable d0
  have e1 := index_equals readable d1
  have e2 := index_equals readable d2
  have e3 := index_equals readable d3
  rw [base64decodeBlock]
  simp only [ne_eq, e0, e1, e2, e3]
  by_cases bad : c0 = rules.equals ∨ c1 = rules.equals ∨ c2 = rules.equals ∧ ¬c3 = rules.equals
  next =>
    rw [if_pos bad]
    refine ⟨nofun, ?_⟩
    rintro ⟨group, ⟨l0, l1, shape⟩, _⟩
    rcases bad with bad | bad | ⟨bad, other⟩
    · exact absurd bad l0.2
    · exact absurd bad l1.2
    · rcases shape with ⟨_, same, _⟩ | ⟨l2, _⟩ | ⟨l2, _⟩
      · exact absurd same other
      · exact absurd bad l2.2
      · exact absurd bad l2.2
  next =>
    have l0 : IsLetter rules c0 := ⟨d0, fun same => bad (.inl same)⟩
    have l1 : IsLetter rules c1 := ⟨d1, fun same => bad (.inr (.inl same))⟩
    rw [if_neg bad, firstByte l0 l1]
    by_cases two : c2 = rules.equals
    next =>
      have last : c3 = rules.equals := by
        by_contra other
        exact bad (.inr (.inr ⟨two, other⟩))
      have only (group : List UInt8) : IsGroup rules c0 c1 c2 c3 group ↔ group = [c0, c1] := by
        simp [IsGroup, IsLetter, two, last, l0.1, l0.2, l1.1, l1.2]
      simp only [only, exists_eq_left]
      simp only [two, if_true]
      exact fits_iff rfl
    next =>
      have l2 : IsLetter rules c2 := ⟨d2, two⟩
      rw [secondByte l1 l2]
      by_cases three : c3 = rules.equals
      next =>
        have only (group : List UInt8) : IsGroup rules c0 c1 c2 c3 group ↔ group = [c0, c1, c2] := by
          simp [IsGroup, IsLetter, two, three, l0.1, l0.2, l1.1, l1.2, l2.1]
        simp only [only, exists_eq_left]
        simp only [two, three, if_true, if_false, List.append_assoc]
        exact fits_iff rfl
      next =>
        have l3 : IsLetter rules c3 := ⟨d3, three⟩
        have only (group : List UInt8) :
            IsGroup rules c0 c1 c2 c3 group ↔ group = [c0, c1, c2, c3] := by
          simp [IsGroup, l0, l1, l2, l3, two, three]
        rw [thirdByte l2 l3]
        simp only [only, exists_eq_left]
        simp only [two, three, if_false, List.append_assoc]
        exact fits_iff rfl

def IsDigit (rules : Rules) (c : UInt8) : Prop := isWhiteSpace c = false ∧ isBase64Digit c rules = true

theorem decodeLoop_digits {letters ids data out : List UInt8} {isDone : Bool}
    (shown : ∀ c ∈ letters, isWhiteSpace c = false)
    (success : base64decodeLoop rules dataMaxSize letters ids isDone data = (.success, out)) :
    ∀ c ∈ letters, IsDigit rules c := by
  induction letters generalizing ids isDone data with
  | nil => simp
  | cons c rest ih =>
    have space := shown c (by simp)
    have later := fun c member => shown c (List.mem_cons_of_mem _ member)
    by_cases digit : isBase64Digit c rules = true
    next =>
      have after : ∃ ids isDone data,
          base64decodeLoop rules dataMaxSize rest ids isDone data = (.success, out) := by
        cases isDone with
        | true =>
          rcases ids with _ | ⟨id0, _ | ⟨id1, _ | ⟨id2, _ | ⟨id3, more⟩⟩⟩⟩ <;>
          simp [base64decodeLoop, space, digit] at success
        | false =>
          rcases ids with _ | ⟨id0, _ | ⟨id1, _ | ⟨id2, _ | ⟨id3, more⟩⟩⟩⟩
          · exact ⟨_, _, _, by simpa [base64decodeLoop, space, digit] using success⟩
          · exact ⟨_, _, _, by simpa [base64decodeLoop, space, digit] using success⟩
          · exact ⟨_, _, _, by simpa [base64decodeLoop, space, digit] using success⟩
          · simp only [base64decodeLoop, space, digit, not_true_eq_false, Bool.false_eq_true,
              if_false] at success
            split at success
            · exact ⟨_, _, _, success⟩
            · rename_i failed other
              exact absurd success (other _)
          · exact ⟨_, _, _, by simpa [base64decodeLoop, space, digit] using success⟩
      obtain ⟨ids, isDone, data, success⟩ := after
      intro other member
      rcases List.mem_cons.mp member with rfl | inside
      · exact ⟨space, digit⟩
      · exact ih later success other inside
    next =>
      rcases ids with _ | ⟨id0, _ | ⟨id1, _ | ⟨id2, _ | ⟨id3, more⟩⟩⟩⟩ <;>
      simp [base64decodeLoop, space, digit] at success

theorem decodeLoop_group {c0 c1 c2 c3 : UInt8} (d0 : IsDigit rules c0) (d1 : IsDigit rules c1)
    (d2 : IsDigit rules c2) (d3 : IsDigit rules c3) (rest data out : List UInt8) :
    base64decodeLoop rules dataMaxSize (c0 :: c1 :: c2 :: c3 :: rest) [] false data =
        (.success, out) ↔
      ∃ decoded, base64decodeBlock (base64Index c0 rules, base64Index c1 rules,
          base64Index c2 rules, base64Index c3 rules) data dataMaxSize = (.success, decoded) ∧
        base64decodeLoop rules dataMaxSize rest [] (base64Index c3 rules = b64IsEqual) decoded =
          (.success, out) := by
  simp only [base64decodeLoop, d0.1, d0.2, d1.1, d1.2, d2.1, d2.2, d3.1, d3.2, not_true_eq_false,
    Bool.false_eq_true, if_false, List.nil_append, List.cons_append]
  split
  next decoded same =>
    rw [same]
    simp
  next failed other =>
    constructor
    · intro success
      exact absurd success (other _)
    · rintro ⟨decoded, success, _⟩
      exact absurd success (other _)

theorem decodeLoop_done {letters : List UInt8} (digits' : ∀ c ∈ letters, IsDigit rules c)
    (data out : List UInt8) :
    base64decodeLoop rules dataMaxSize letters [] true data = (.success, out) ↔
      letters = [] ∧ out = data := by
  cases letters with
  | nil => simp [base64decodeLoop, eq_comm]
  | cons c rest =>
    have digit := digits' c (by simp)
    simp [base64decodeLoop, digit.1, digit.2]

/-- A text without white space that is read behind `data`: letters, then no more padding than fills
their last group, a group that one letter alone does not make. -/
def Accepted (rules : Rules) (dataMaxSize : Nat) (letters data out : List UInt8) : Prop :=
  ∃ body fill, letters = body ++ List.replicate fill rules.equals ∧
    (∀ c ∈ body, IsLetter rules c) ∧ body.length % 4 ≠ 1 ∧ fill ≤ (4 - body.length % 4) % 4 ∧
    out = data ++ bytesOf rules body ∧ out.length ≤ dataMaxSize

theorem bytesOf_group {c0 c1 c2 c3 : UInt8} (rest : List UInt8) :
    bytesOf rules (c0 :: c1 :: c2 :: c3 :: rest) =
      bytesOf rules [c0, c1, c2, c3] ++ bytesOf rules rest := rfl

theorem accepted_four {c0 c1 c2 c3 : UInt8} {rest data out : List UInt8} :
    Accepted rules dataMaxSize (c0 :: c1 :: c2 :: c3 :: rest) data out ↔
      ∃ group, IsGroup rules c0 c1 c2 c3 group ∧
        ((c3 = rules.equals ∧ rest = [] ∧ out = data ++ bytesOf rules group ∧
            out.length ≤ dataMaxSize) ∨
          (c3 ≠ rules.equals ∧ Accepted rules dataMaxSize rest (data ++ bytesOf rules group) out)) := by
  constructor
  · rintro ⟨body, fill, split, letters, odd, few, result, room⟩
    rcases body with _ | ⟨b0, _ | ⟨b1, _ | ⟨b2, _ | ⟨b3, more⟩⟩⟩⟩
    · simp at few
      simp [few] at split
    · simp at odd
    · obtain rfl : fill = 2 := by
        have length := congrArg List.length split
        simp at length few
        omega
      simp only [List.replicate, List.cons_append, List.nil_append, List.cons.injEq] at split
      obtain ⟨rfl, rfl, rfl, rfl, rfl⟩ := split
      exact ⟨[c0, c1], ⟨letters c0 (by simp), letters c1 (by simp), .inl ⟨rfl, rfl, rfl⟩⟩,
        .inl ⟨rfl, rfl, result, room⟩⟩
    · obtain rfl : fill = 1 := by
        have length := congrArg List.length split
        simp at length few
        omega
      simp only [List.replicate, List.cons_append, List.nil_append, List.cons.injEq] at split
      obtain ⟨rfl, rfl, rfl, rfl, rfl⟩ := split
      exact ⟨[c0, c1, c2], ⟨letters c0 (by simp), letters c1 (by simp),
        .inr (.inl ⟨letters c2 (by simp), rfl, rfl⟩)⟩, .inl ⟨rfl, rfl, result, room⟩⟩
    · simp only [List.cons_append, List.cons.injEq] at split
      obtain ⟨rfl, rfl, rfl, rfl, rfl⟩ := split
      have last := letters c3 (by simp)
      simp only [List.length_cons] at odd few
      refine ⟨[c0, c1, c2, c3], ⟨letters c0 (by simp), letters c1 (by simp),
        .inr (.inr ⟨letters c2 (by simp), last, rfl⟩)⟩, .inr ⟨last.2, more, fill, rfl,
          fun c member => letters c (by simp [member]), by omega, by omega, ?_, room⟩⟩
      rw [result, bytesOf_group more, List.append_assoc]
  · rintro ⟨group, ⟨l0, l1, shape⟩, done | ⟨open', body, fill, rfl, letters, odd, few, result, room⟩⟩
    · obtain ⟨last, rfl, result, room⟩ := done
      rcases shape with ⟨two, _, rfl⟩ | ⟨l2, _, rfl⟩ | ⟨_, l3, _⟩
      · exact ⟨[c0, c1], 2, by simp [two, last, List.replicate], by simp [l0, l1], by simp,
          by simp, result, room⟩
      · exact ⟨[c0, c1, c2], 1, by simp [last], by simp [l0, l1, l2], by simp, by simp, result,
          room⟩
      · exact absurd last l3.2
    · rcases shape with ⟨_, same, _⟩ | ⟨_, same, _⟩ | ⟨l2, l3, rfl⟩
      · exact absurd same open'
      · exact absurd same open'
      · refine ⟨c0 :: c1 :: c2 :: c3 :: body, fill, by simp, ?_, ?_, ?_, ?_, room⟩
        · simpa [l0, l1, l2, l3] using letters
        · simp only [List.length_cons]
          omega
        · simp only [List.length_cons]
          omega
        · rw [result, bytesOf_group body, List.append_assoc]

theorem accepted_short {letters data out : List UInt8}
    (short : letters.length = 2 ∨ letters.length = 3) :
    Accepted rules dataMaxSize letters data out ↔
      Accepted rules dataMaxSize
        (letters ++ List.replicate (4 - letters.length) rules.equals) data out := by
  constructor
  · rintro ⟨body, fill, rfl, letters, odd, few, result, room⟩
    rw [List.length_append, List.length_replicate] at short
    refine ⟨body, fill + (4 - (body.length + fill)), ?_, letters, odd, by omega, result, room⟩
    rw [List.append_assoc, List.length_append, List.length_replicate, List.replicate_append_replicate]
  · rintro ⟨body, fill, split, all, odd, few, result, room⟩
    have length := congrArg List.length split
    simp only [List.length_append, List.length_replicate] at length
    have inside : body.length ≤ letters.length := by
      by_contra longer
      have at' : (letters ++ List.replicate (4 - letters.length) rules.equals)[letters.length]? =
          some rules.equals := by
        rw [List.getElem?_append_right (Nat.le_refl _), Nat.sub_self, List.getElem?_replicate,
          if_pos (by omega)]
      rw [split, List.getElem?_append_left (by omega)] at at'
      exact (all _ (List.mem_of_getElem? at')).2 rfl
    have front := congrArg (List.take letters.length) split
    rw [List.take_left' rfl, List.take_append, List.take_of_length_le inside,
      List.take_replicate] at front
    refine ⟨body, min (letters.length - body.length) fill, front, all, odd, by omega, result, room⟩

theorem accepted_padded {c0 c1 c2 : UInt8} {data out : List UInt8} :
    Accepted rules dataMaxSize [c0, c1, c2, rules.equals] data out ↔
      ∃ group, IsGroup rules c0 c1 c2 rules.equals group ∧ out = data ++ bytesOf rules group ∧
        out.length ≤ dataMaxSize := by
  simp [accepted_four]

theorem decodeLoop_accepted (readable : rules.Readable) {letters data out : List UInt8}
    (digits' : ∀ c ∈ letters, IsDigit rules c) (room : data.length ≤ dataMaxSize) :
    base64decodeLoop rules dataMaxSize letters [] false data = (.success, out) ↔
      Accepted rules dataMaxSize letters data out := by
  have padDigit : IsDigit rules rules.equals := ⟨readable.visible, by simp [isBase64Digit]⟩
  induction count : letters.length using Nat.strong_induction_on generalizing letters data with
  | _ count ih =>
    rcases letters with _ | ⟨c0, _ | ⟨c1, _ | ⟨c2, _ | ⟨c3, rest⟩⟩⟩⟩
    · constructor
      · intro success
        obtain rfl : data = out := by simpa [base64decodeLoop] using success
        exact ⟨[], 0, rfl, by simp, by simp, by simp, by simp [bytesOf, bytes], room⟩
      · rintro ⟨body, fill, split, _, _, _, rfl, _⟩
        obtain ⟨rfl, _⟩ := List.append_eq_nil_iff.mp split.symm
        simp [base64decodeLoop, bytesOf, bytes]
    · have d0 := digits' c0 (by simp)
      constructor
      · intro success
        simp [base64decodeLoop, d0.1, d0.2] at success
      · rintro ⟨body, fill, split, _, odd, few, _⟩
        have length := congrArg List.length split
        simp at length
        omega
    · have d0 := digits' c0 (by simp)
      have d1 := digits' c1 (by simp)
      rw [accepted_short (.inl rfl)]
      simp only [base64decodeLoop, d0.1, d0.2, d1.1, d1.2, not_true_eq_false, Bool.false_eq_true,
        if_false, List.nil_append, List.cons_append]
      rw [← (index_equals readable padDigit.2).mpr rfl,
        block_success readable d0.2 d1.2 padDigit.2 padDigit.2]
      exact accepted_padded.symm
    · have d0 := digits' c0 (by simp)
      have d1 := digits' c1 (by simp)
      have d2 := digits' c2 (by simp)
      rw [accepted_short (.inr rfl)]
      simp only [base64decodeLoop, d0.1, d0.2, d1.1, d1.2, d2.1, d2.2, not_true_eq_false,
        Bool.false_eq_true, if_false, List.nil_append, List.cons_append]
      rw [← (index_equals readable padDigit.2).mpr rfl,
        block_success readable d0.2 d1.2 d2.2 padDigit.2]
      exact accepted_padded.symm
    · have d0 := digits' c0 (by simp)
      have d1 := digits' c1 (by simp)
      have d2 := digits' c2 (by simp)
      have d3 := digits' c3 (by simp)
      have later : ∀ c ∈ rest, IsDigit rules c := fun c member => digits' c (by simp [member])
      simp only [decodeLoop_group d0 d1 d2 d3, accepted_four,
        block_success readable d0.2 d1.2 d2.2 d3.2, index_equals readable d3.2]
      constructor
      · rintro ⟨decoded, ⟨group, shape, rfl, fits⟩, success⟩
        refine ⟨group, shape, ?_⟩
        by_cases last : c3 = rules.equals
        · simp only [last, decide_true, decodeLoop_done later] at success
          exact .inl ⟨last, success.1, success.2, by rw [success.2]; exact fits⟩
        · simp only [last, decide_false] at success
          refine .inr ⟨last, (ih _ ?_ later fits rfl).mp success⟩
          rw [← count]
          simp only [List.length_cons]
          omega
      · rintro ⟨group, shape, ⟨last, rfl, rfl, fits⟩ | ⟨open', accepted⟩⟩
        · refine ⟨_, ⟨group, shape, rfl, fits⟩, ?_⟩
          simp [last, decodeLoop_done]
        · have fits : (data ++ bytesOf rules group).length ≤ dataMaxSize := by
            obtain ⟨body, fill, _, _, _, _, result, room⟩ := accepted
            rw [result, List.length_append] at room
            omega
          refine ⟨_, ⟨group, shape, rfl, fits⟩, ?_⟩
          simp only [open', decide_false]
          refine (ih _ ?_ later fits rfl).mpr accepted
          rw [← count]
          simp only [List.length_cons]
          omega

end Loop

section Texts

variable {rules : Rules} {dataMaxSize : Nat}

theorem printed_shown {text : List UInt8} {c : UInt8} (member : c ∈ printed text) :
    isWhiteSpace c = false := by
  simpa [printed] using (List.mem_filter.mp member).2

theorem base64decode_iff (readable : rules.Readable) (text out : List UInt8) :
    base64decode rules text dataMaxSize = (.success, out) ↔
      ∃ body fill, printed text = body ++ List.replicate fill rules.equals ∧
        (∀ c ∈ body, IsLetter rules c) ∧ body.length % 4 ≠ 1 ∧
        fill ≤ (4 - body.length % 4) % 4 ∧ out = bytesOf rules body ∧
        out.length ≤ dataMaxSize := by
  rw [base64decode, decodeLoop_printed]
  constructor
  · intro success
    have digits' := decodeLoop_digits (fun c member => printed_shown member) success
    simpa [Accepted] using (decodeLoop_accepted readable digits' (Nat.zero_le _)).mp success
  · rintro ⟨body, fill, split, letters, rest⟩
    have digits' : ∀ c ∈ printed text, IsDigit rules c := by
      intro c member
      refine ⟨printed_shown member, ?_⟩
      rw [split, List.mem_append, List.mem_replicate] at member
      rcases member with inside | ⟨_, rfl⟩
      · exact (letters c inside).1
      · simp [isBase64Digit]
    apply (decodeLoop_accepted readable digits' (Nat.zero_le _)).mpr
    exact ⟨body, fill, split, letters, by simpa using rest⟩

structure Rules.Distinct (rules : Rules) : Prop where
  plus : isDigit rules.plus = false ∧ isAlpha rules.plus = false ∧ isWhiteSpace rules.plus = false
  slash : isDigit rules.slash = false ∧ isAlpha rules.slash = false ∧
    isWhiteSpace rules.slash = false
  apart : rules.slash ≠ rules.plus

theorem index_special {c : UInt8} (figure : isDigit c = false) (letter : isAlpha c = false) :
    base64Index c rules =
      if c == rules.plus then 62
      else if c == rules.slash then 63
      else if c == rules.equals then b64IsEqual
      else b64IsInvalid := by
  have upper : (65 ≤ c && c ≤ 90) = false := (Bool.or_eq_false_iff.mp letter).1
  have lower : (97 ≤ c && c ≤ 122) = false := (Bool.or_eq_false_iff.mp letter).2
  have number : (48 ≤ c && c ≤ 57) = false := figure
  rw [base64Index, if_neg (by simp [upper]), if_neg (by simp [lower]), if_neg (by simp [number])]

theorem charOf_letter (readable : rules.Readable) (distinct : rules.Distinct) {digit : Nat}
    (small : digit < 64) :
    IsLetter rules (charOf rules digit) ∧ valueOf rules (charOf rules digit) = digit ∧
      isWhiteSpace (charOf rules digit) = false := by
  rcases (by omega : digit < 62 ∨ digit = 62 ∨ digit = 63) with ordinary | rfl | rfl
  · have written : ∀ digit : Fin 62,
        (isDigit (charOf b64rulesUrlsafe digit) = true ∨
          isAlpha (charOf b64rulesUrlsafe digit) = true) ∧
        base64Index (charOf b64rulesUrlsafe digit) b64rulesUrlsafe = UInt8.ofNat digit ∧
        isWhiteSpace (charOf b64rulesUrlsafe digit) = false := by
      decide +kernel
    obtain ⟨alphanumeric, index, visible⟩ := written ⟨digit, ordinary⟩
    rw [charOf_alphanumeric rules ordinary]
    refine ⟨⟨?_, ?_⟩, ?_, visible⟩
    · rcases alphanumeric with figure | letter
      · simp [isBase64Digit, figure]
      · simp [isBase64Digit, letter]
    · intro same
      rcases alphanumeric with figure | letter
      · rw [same, readable.digit] at figure
        exact Bool.noConfusion figure
      · rw [same, readable.alpha] at letter
        exact Bool.noConfusion letter
    · rw [valueOf, alphanumeric_index alphanumeric rules, index, UInt8.toNat_ofNat',
        Nat.mod_eq_of_lt (show digit < 2 ^ 8 by omega)]
  · obtain ⟨figure, letter, blank⟩ := distinct.plus
    have plus : charOf rules 62 = rules.plus := rfl
    rw [plus]
    refine ⟨⟨by simp [isBase64Digit], fun same => readable.plus same.symm⟩, ?_, blank⟩
    rw [valueOf, index_special figure letter, if_pos (by simp)]
    rfl
  · obtain ⟨figure, letter, blank⟩ := distinct.slash
    have slash : charOf rules 63 = rules.slash := rfl
    rw [slash]
    refine ⟨⟨by simp [isBase64Digit], fun same => readable.slash same.symm⟩, ?_, blank⟩
    rw [valueOf, index_special figure letter, if_neg (by simpa using distinct.apart),
      if_pos (by simp)]
    rfl

theorem bytesOf_chars (readable : rules.Readable) (distinct : rules.Distinct)
    (data : List UInt8) :
    bytesOf rules ((digits (data.map UInt8.toNat)).map (charOf rules)) = data := by
  have small := digits_bytes_lt data
  have values : ((digits (data.map UInt8.toNat)).map (charOf rules)).map (valueOf rules) =
      digits (data.map UInt8.toNat) := by
    rw [List.map_map]
    conv_rhs => rw [← List.map_id (digits (data.map UInt8.toNat))]
    exact List.map_congr_left fun digit member =>
      (charOf_letter readable distinct (small digit member)).2.1
  have numbers : ∀ byte ∈ data.map UInt8.toNat, byte < 256 := by
    intro byte member
    obtain ⟨source, _, rfl⟩ := List.mem_map.mp member
    exact source.toNat_lt
  rw [bytesOf, values, bytes_digits _ numbers, List.map_map]
  conv_rhs => rw [← List.map_id data]
  exact List.map_congr_left fun byte _ => UInt8.ofNat_toNat

theorem printed_breakLines (line at' : Nat) {text : List UInt8}
    (shown : ∀ c ∈ text, isWhiteSpace c = false) : printed (breakLines line at' text) = text := by
  induction text generalizing at' with
  | nil => rfl
  | cons c rest ih =>
    have later := ih (at' + 1) fun c member => shown c (List.mem_cons_of_mem _ member)
    rw [printed] at later
    rw [breakLines, printed, List.filter_append, List.filter_cons_of_pos (by simp [shown c]), later]
    split
    · rfl
    · rfl

theorem printed_visible (sound : rules.Sound) (readable : rules.Readable)
    (distinct : rules.Distinct) (data : List UInt8) :
    ∃ fill, fill ≤ (3 - data.length % 3) % 3 ∧ printed (visible (base64Text rules data)) =
      (digits (data.map UInt8.toNat)).map (charOf rules) ++ List.replicate fill rules.equals := by
  have chars (c : UInt8) (member : c ∈ (digits (data.map UInt8.toNat)).map (charOf rules)) :
      isWhiteSpace c = false ∧ c ≠ 0 := by
    obtain ⟨digit, inside, rfl⟩ := List.mem_map.mp member
    have small := digits_bytes_lt data digit inside
    exact ⟨(charOf_letter readable distinct small).2.2, charOf_ne_zero sound small⟩
  have shown : ∀ c ∈ padded rules data, isWhiteSpace c = false := by
    intro c member
    rcases List.mem_append.mp member with inside | pad
    · exact (chars c inside).1
    · rw [(List.mem_replicate.mp pad).2]
      exact readable.visible
  have whole : printed (base64Text rules data) = padded rules data := printed_breakLines _ _ shown
  have trail : ∀ c ∈ (base64Text rules data).rtakeWhile (· = 0), c = 0 := by
    intro c member
    simpa using List.mem_rtakeWhile_imp member
  have shownTrail : printed ((base64Text rules data).rtakeWhile (· = 0)) =
      (base64Text rules data).rtakeWhile (· = 0) := by
    apply List.filter_eq_self.mpr
    intro c member
    rw [trail c member]
    rfl
  rw [← @List.rdropWhile_append_rtakeWhile _ (· = 0) (base64Text rules data), printed,
    List.filter_append] at whole
  change printed (visible (base64Text rules data)) ++ printed _ = _ ++ _ at whole
  rw [shownTrail] at whole
  rcases List.append_eq_append_iff.mp whole with ⟨extra, longer, zeros⟩ | ⟨pad, same, split⟩
  · have none : extra = [] := by
      cases extra with
      | nil => rfl
      | cons c more =>
        have null : c = 0 := trail c (by simp [zeros])
        exact absurd null (chars c (by simp [longer])).2
    rw [none, List.append_nil] at longer
    exact ⟨0, by omega, by simp [longer]⟩
  · have replicated : pad = List.replicate pad.length rules.equals :=
      List.eq_replicate_length.mpr fun c member =>
        (List.mem_replicate.mp (split ▸ List.mem_append_left _ member)).2
    have length := congrArg List.length split
    rw [padding, List.length_replicate, List.length_append] at length
    refine ⟨pad.length, by omega, ?_⟩
    rw [same]
    conv_lhs => rw [replicated]

theorem base64decode_visible (sound : rules.Sound) (readable : rules.Readable)
    (distinct : rules.Distinct) (data : List UInt8) (room : data.length ≤ dataMaxSize) :
    base64decode rules (visible (base64Text rules data)) dataMaxSize = (.success, data) := by
  obtain ⟨fill, few, shown⟩ := printed_visible sound readable distinct data
  have length : ((digits (data.map UInt8.toNat)).map (charOf rules)).length =
      (4 * data.length + 2) / 3 := by
    rw [List.length_map, digits_length, List.length_map]
  have lacking : (3 - data.length % 3) % 3 = (4 - (4 * data.length + 2) / 3 % 4) % 4 := by
    rcases (by omega : data.length % 3 = 0 ∨ data.length % 3 = 1 ∨ data.length % 3 = 2)
      with rest | rest | rest <;> omega
  apply (base64decode_iff readable _ _).mpr
  refine ⟨_, fill, shown, ?_, ?_, ?_, (bytesOf_chars readable distinct data).symm, room⟩
  · intro c member
    obtain ⟨digit, inside, rfl⟩ := List.mem_map.mp member
    exact (charOf_letter readable distinct (digits_bytes_lt data digit inside)).1
  · rw [length]
    omega
  · rw [length, ← lacking]
    exact few

end Texts

section Memory

variable {rules : Rules} {memory : Nat -> UInt8} {data dataSize encoded : Nat}

theorem breakLines_length {line : Nat} (text : List UInt8) (at' : Nat) :
    (breakLines line at' text).length ≤
      text.length + 2 * ((at' + text.length - 1) / line - (at' - 1) / line) := by
  induction text generalizing at' with
  | nil => simp [breakLines]
  | cons c rest ih =>
    have later := ih (at' + 1)
    have last : at' + 1 + rest.length - 1 = at' + rest.length := by omega
    have least : at' / line ≤ (at' + rest.length) / line := Nat.div_le_div_right (by omega)
    have step : (if line ≠ 0 ∧ 0 < at' ∧ at' % line = 0 then 1 else 0) + (at' - 1) / line ≤
        at' / line := by
      cases at' with
      | zero => simp
      | succ before =>
        rw [Nat.add_sub_cancel, Nat.succ_div]
        split
        next breaks =>
          rw [if_pos (Nat.dvd_of_mod_eq_zero breaks.2.2)]
          omega
        next => omega
    rw [last, Nat.add_sub_cancel] at later
    rw [breakLines, List.length_append, List.length_cons, List.length_cons,
      show at' + (rest.length + 1) - 1 = at' + rest.length by omega]
    split
    next breaks =>
      rw [if_pos breaks] at step
      simp only [List.length_cons, List.length_nil]
      omega
    next breaks =>
      rw [if_neg breaks] at step
      simp only [List.length_nil]
      omega

theorem base64Text_length (small : 2 * dataSize + 8 < 65536)
    (whole : rules.lineLength.toNat % 4 = 0) :
    (base64Text rules (block memory data dataSize)).length + 1 ≤ base64Length rules dataSize := by
  have plain : (dataSize / 3 + if dataSize % 3 ≠ 0 then 1 else 0) = (dataSize + 2) / 3 := by
    split <;> omega
  have within : (dataSize + 2) / 3 * 4 % 65536 = (dataSize + 2) / 3 * 4 :=
    Nat.mod_eq_of_lt (by omega)
  have bound := @breakLines_length rules.lineLength.toNat
    (padded rules (block memory data dataSize)) 0
  rw [padded_length, block_length, Nat.zero_add, Nat.zero_sub, Nat.zero_div, Nat.sub_zero] at bound
  rw [base64Text, base64Length]
  simp only [plain, within]
  have nonzero : rules.lineLength ≠ 0 ↔ rules.lineLength.toNat ≠ 0 := by
    simp [← UInt8.toNat_inj]
  split
  next some =>
    have four : 4 ≤ rules.lineLength.toNat := by
      have := nonzero.mp some
      omega
    have fewer : (4 * ((dataSize + 2) / 3) - 1) / rules.lineLength.toNat ≤
        (dataSize + 2) / 3 * 4 / rules.lineLength.toNat := Nat.div_le_div_right (by omega)
    have most : (dataSize + 2) / 3 * 4 / rules.lineLength.toNat ≤ (dataSize + 2) / 3 * 4 / 4 :=
      Nat.div_le_div_left four (by omega)
    rw [Nat.mod_eq_of_lt (by omega), Nat.mod_eq_of_lt (by omega)]
    omega
  next none =>
    have zero : rules.lineLength.toNat = 0 := by simpa [nonzero] using none
    rw [zero, Nat.div_zero] at bound
    rw [Nat.mod_eq_of_lt (by omega)]
    rw [zero]
    omega

theorem visible_length (text : List UInt8) : (visible text).length ≤ text.length :=
  (List.rdropWhile_prefix _ text).length_le

theorem block_ended (memory : Nat -> UInt8) (encoded : Nat) (text : List UInt8) :
    block (ended memory encoded text) encoded (visible text).length = visible text := by
  have short := visible_length text
  have begins : visible text <+: text := List.rdropWhile_prefix _ text
  have same : block (ended memory encoded text) encoded (visible text).length =
      block (fill memory encoded text) encoded (visible text).length :=
    block_congr fun place low high => Function.update_of_ne (by omega) _ _
  rw [same, ← block_take _ _ short, block_fill]
  exact (List.prefix_iff_eq_take.mp begins).symm

theorem staysClear_behind (behind : data + dataSize ≤ encoded) :
    StaysClear rules memory data dataSize encoded := by
  intro k j low high
  exact .inl (by omega)

theorem staysClear_ahead (ahead : encoded + (dataSize - 1) / 3 + 4 +
      2 * ((4 * ((dataSize - 1) / 3) + 3) / rules.lineLength.toNat) ≤ data) :
    StaysClear rules memory data dataSize encoded := by
  intro k j low high
  have bound := @breakLines_length rules.lineLength.toNat
    (padded rules (block memory data (min (3 * (k + 1)) dataSize))) 0
  rw [padded_length, block_length, Nat.zero_add, Nat.zero_sub, Nat.zero_div, Nat.sub_zero] at bound
  have groups : 4 * ((min (3 * (k + 1)) dataSize + 2) / 3) ≤ 4 * k + 4 := by omega
  have early : k ≤ (dataSize - 1) / 3 := by omega
  have lines : (4 * ((min (3 * (k + 1)) dataSize + 2) / 3) - 1) / rules.lineLength.toNat ≤
      (4 * ((dataSize - 1) / 3) + 3) / rules.lineLength.toNat :=
    Nat.div_le_div_right (by omega)
  refine .inr ?_
  rw [textBefore, base64Text]
  omega

theorem base64_roundTrip (sound : rules.Sound) (readable : rules.Readable)
    (distinct : rules.Distinct) (small : 2 * dataSize + 8 < 65536)
    (clear : StaysClear rules memory data dataSize encoded) {encodedSize dataMaxSize : Nat}
    (fits : base64Length rules dataSize ≤ encodedSize) (room : dataSize ≤ dataMaxSize) :
    ∃ last length, base64encode rules data dataSize encoded memory encodedSize =
        (.success, last, length) ∧
      base64decode rules (block last encoded length) dataMaxSize =
        (.success, block memory data dataSize) ∧
      length < encodedSize ∧ last (encoded + length) = 0 ∧
      ∀ place, place < encoded ∨ encoded + encodedSize ≤ place -> last place = memory place := by
  have long := @base64Text_length rules memory data dataSize small sound.line
  have short := visible_length (base64Text rules (block memory data dataSize))
  refine ⟨_, _, base64encode_text sound clear fits, ?_, by omega, Function.update_self _ _ _, ?_⟩
  · rw [block_ended, base64decode_visible sound readable distinct _ (by simpa using room)]
  · intro place outside
    rw [ended, Function.update_of_ne (by omega), fill_outside _ _ _ (by omega)]

end Memory

theorem default_sound : b64rulesDefault.Sound := ⟨by decide, by decide, by decide⟩

theorem default_readable : b64rulesDefault.Readable :=
  ⟨by decide, by decide, by decide, by decide, by decide⟩

theorem default_distinct : b64rulesDefault.Distinct := ⟨by decide, by decide, by decide⟩

theorem base64decode_iff_lines :
    base64decode b64rulesDefault (ascii "QVZ\r\nSSUg=".toList) 5 = (.success, ascii "AVRIH".toList) := by
  apply (base64decode_iff default_readable _ _).mpr
  exact ⟨ascii "QVZSSUg".toList, 1, by decide +kernel, by simp only [IsLetter]; decide +kernel, by decide,
    by decide, by decide +kernel, by decide⟩

theorem base64_roundTrip_itself :
    ∃ last length, base64encode b64rulesDefault 15 6 10 (fun place => UInt8.ofNat place) 9 =
        (.success, last, length) ∧
      base64decode b64rulesDefault (block last 10 length) 6 =
        (.success, block (fun place => UInt8.ofNat place) 15 6) ∧
      length < 9 ∧ last (10 + length) = 0 ∧
      ∀ place, place < 10 ∨ 10 + 9 ≤ place -> last place = UInt8.ofNat place :=
  base64_roundTrip default_sound default_readable default_distinct (by decide)
    (staysClear_ahead (by decide)) (by decide) (by decide)

end AvrVoiceControl.Atca
