import AvrVoiceControl.AtcaHelpers

set_option autoImplicit false

namespace AvrVoiceControl.Atca

open Base64 FlatMemory

section Characters

variable (rules : Rules)

def charOf (digit : Nat) : UInt8 := base64Char (UInt8.ofNat digit) rules

def padding (bytes : List UInt8) : List UInt8 :=
  List.replicate ((3 - bytes.length % 3) % 3) rules.equals

def padded (bytes : List UInt8) : List UInt8 :=
  (digits (bytes.map UInt8.toNat)).map (charOf rules) ++ padding rules bytes

/-- A line feed before every character that begins a line, except the first. -/
def breakLines (line : Nat) : Nat -> List UInt8 -> List UInt8
  | _, [] => []
  | at', c :: rest =>
    (if line ≠ 0 ∧ 0 < at' ∧ at' % line = 0 then [13, 10] else []) ++
      c :: breakLines line (at' + 1) rest

def base64Text (bytes : List UInt8) : List UInt8 :=
  breakLines rules.lineLength.toNat 0 (padded rules bytes)

theorem breakLines_append (line at' : Nat) (front back : List UInt8) :
    breakLines line at' (front ++ back) =
      breakLines line at' front ++ breakLines line (at' + front.length) back := by
  induction front generalizing at' with
  | nil => rfl
  | cons c rest ih =>
    simp only [List.cons_append, breakLines, ih, List.append_assoc, List.length_cons]
    rw [Nat.add_assoc, Nat.add_comm 1]

theorem padded_length (bytes : List UInt8) :
    (padded rules bytes).length = 4 * ((bytes.length + 2) / 3) := by
  simp only [padded, padding, List.length_append, List.length_map, digits_length,
    List.length_replicate]
  omega

theorem padded_append (front back : List UInt8) (whole : front.length % 3 = 0) :
    padded rules (front ++ back) = padded rules front ++ padded rules back := by
  have none : padding rules front = [] := by simp [padding, whole]
  have same : padding rules (front ++ back) = padding rules back := by
    rw [padding, padding, List.length_append, Nat.add_mod, whole, Nat.zero_add, Nat.mod_mod]
  rw [padded, padded, padded, none, same, List.map_append,
    digits_append _ _ (by simpa using whole), List.map_append]
  simp

theorem base64Text_append (front back : List UInt8) (whole : front.length % 3 = 0) :
    base64Text rules (front ++ back) = base64Text rules front ++
      breakLines rules.lineLength.toNat (4 * (front.length / 3)) (padded rules back) := by
  have length : (padded rules front).length = 4 * (front.length / 3) := by
    rw [padded_length]
    omega
  rw [base64Text, padded_append rules front back whole, breakLines_append, length, Nat.zero_add,
    base64Text]

end Characters

section Bits

theorem highSix (a : UInt8) : (a &&& 0xfc) >>> 2 = UInt8.ofNat (a.toNat / 4) := by
  obtain ⟨⟨a, bounded⟩⟩ := a
  revert a
  decide +kernel

theorem lowTwo (a : UInt8) : (a &&& 0x03) <<< 4 = UInt8.ofNat (a.toNat % 4 * 16) := by
  obtain ⟨⟨a, bounded⟩⟩ := a
  revert a
  decide +kernel

theorem highFour (a : UInt8) : (a &&& 0xf0) >>> 4 = UInt8.ofNat (a.toNat / 16) := by
  obtain ⟨⟨a, bounded⟩⟩ := a
  revert a
  decide +kernel

theorem lowFour (a : UInt8) : (a &&& 0x0f) <<< 2 = UInt8.ofNat (a.toNat % 16 * 4) := by
  obtain ⟨⟨a, bounded⟩⟩ := a
  revert a
  decide +kernel

theorem highTwo (a : UInt8) : (a &&& 0xc0) >>> 6 = UInt8.ofNat (a.toNat / 64) := by
  obtain ⟨⟨a, bounded⟩⟩ := a
  revert a
  decide +kernel

theorem lowSix (a : UInt8) : a &&& 0x3f = UInt8.ofNat (a.toNat % 64) := by
  obtain ⟨⟨a, bounded⟩⟩ := a
  revert a
  decide +kernel

theorem joined {shift high low : Nat} (fits : low < 2 ^ shift) :
    UInt8.ofNat (high * 2 ^ shift) ||| UInt8.ofNat low = UInt8.ofNat (high * 2 ^ shift + low) := by
  have apart := @Nat.two_pow_add_eq_or_of_lt shift low fits high
  apply UInt8.toNat_inj.mp
  rw [UInt8.toNat_or, UInt8.toNat_ofNat', UInt8.toNat_ofNat', UInt8.toNat_ofNat',
    Nat.mul_comm high, apart]
  exact (Nat.or_mod_two_pow (n := 8)).symm

theorem middleLeft (a b : UInt8) :
    (a &&& 0x03) <<< 4 ||| (b &&& 0xf0) >>> 4 =
      UInt8.ofNat (a.toNat % 4 * 16 + b.toNat / 16) := by
  have bounded := b.toNat_lt
  rw [lowTwo, highFour]
  exact @joined 4 (a.toNat % 4) (b.toNat / 16) (by omega)

theorem middleRight (b c : UInt8) :
    (b &&& 0x0f) <<< 2 ||| (c &&& 0xc0) >>> 6 =
      UInt8.ofNat (b.toNat % 16 * 4 + c.toNat / 64) := by
  have bounded := c.toNat_lt
  rw [lowFour, highTwo]
  exact @joined 2 (b.toNat % 16) (c.toNat / 64) (by omega)

end Bits

section Encoder

variable (rules : Rules) {memory : Nat -> UInt8} {data dataSize encoded : Nat}

/-- The encoder has written a text from `encoded` on, with this many characters in line feeds. -/
def Encoding.wrote (memory : Nat -> UInt8) (encoded : Nat) (text : List UInt8) (offset : Nat) :
    Encoding :=
  ⟨fill memory encoded text, text.length, offset⟩

@[simp] theorem put_wrote (text : List UInt8) (offset : Nat) (c : UInt8) :
    (Encoding.wrote memory encoded text offset).put encoded c =
      .wrote memory encoded (text ++ [c]) offset := by
  simp [Encoding.wrote, Encoding.put, fill_concat]

@[simp] theorem wrote_b64Idx (text : List UInt8) (offset : Nat) :
    (Encoding.wrote memory encoded text offset).b64Idx = text.length := rfl

def Unreached (encoded reach place : Nat) : Prop := place < encoded ∨ encoded + reach ≤ place

theorem wrote_memory {text : List UInt8} {offset reach place : Nat}
    (unreached : Unreached encoded reach place) (within : text.length ≤ reach) :
    (Encoding.wrote memory encoded text offset).memory place = memory place := by
  apply fill_outside
  rcases unreached with below | above
  · exact .inl below
  · exact .inr (by omega)

def lineFeed (at' : Nat) : List UInt8 :=
  if rules.lineLength.toNat ≠ 0 ∧ 0 < at' ∧ at' % rules.lineLength.toNat = 0 then [13, 10] else []

theorem breakLines_group (whole : rules.lineLength.toNat % 4 = 0) (k : Nat) (c0 c1 c2 c3 : UInt8) :
    breakLines rules.lineLength.toNat (4 * k) [c0, c1, c2, c3] =
      lineFeed rules (4 * k) ++ [c0, c1, c2, c3] := by
  have inside (j : Nat) (less : 0 < j ∧ j < 4) :
      (4 * k + j) % rules.lineLength.toNat ≠ 0 := by
    intro zero
    have divides : 4 ∣ 4 * k + j :=
      Nat.dvd_trans (Nat.dvd_of_mod_eq_zero whole) (Nat.dvd_of_mod_eq_zero zero)
    omega
  simp [breakLines, lineFeed, inside 1 (by omega), inside 2 (by omega), inside 3 (by omega),
    Nat.add_assoc]

theorem newLine_wrote {text : List UInt8} {offset k : Nat} (counted : text.length - offset = 4 * k) :
    (Encoding.wrote memory encoded text offset).newLine rules encoded (3 * k) =
      .wrote memory encoded (text ++ lineFeed rules (4 * k))
        (offset + (lineFeed rules (4 * k)).length) := by
  have nonzero : rules.lineLength ≠ 0 ↔ rules.lineLength.toNat ≠ 0 := by
    simp [← UInt8.toNat_inj]
  by_cases breaks : rules.lineLength.toNat ≠ 0 ∧ 0 < 4 * k ∧ 4 * k % rules.lineLength.toNat = 0
  next =>
    rw [Encoding.newLine, if_pos ⟨nonzero.mpr breaks.1, by omega, by
      rw [wrote_b64Idx, show (Encoding.wrote memory encoded text offset).offset = offset from rfl,
        counted]
      exact breaks.2.2⟩, lineFeed, if_pos breaks]
    simp [Encoding.wrote, Encoding.put, fill_append, fill, Nat.add_assoc]
  next =>
    rw [Encoding.newLine, if_neg, lineFeed, if_neg breaks, List.append_nil]
    · rfl
    · rintro ⟨some, positive, zero⟩
      rw [wrote_b64Idx, show (Encoding.wrote memory encoded text offset).offset = offset from rfl,
        counted] at zero
      exact breaks ⟨nonzero.mp some, by omega, zero⟩

theorem base64Char_equals : base64Char b64IsEqual rules = rules.equals := rfl

theorem body_wrote (whole : rules.lineLength.toNat % 4 = 0) {text : List UInt8} {offset k : Nat}
    (counted : text.length - offset = 4 * k) (less : 3 * k < dataSize)
    (unreached : ∀ j, 3 * k ≤ j -> j < dataSize ->
      Unreached encoded (text.length + (lineFeed rules (4 * k)).length + 4) (data + j)) :
    (Encoding.wrote memory encoded text offset).body rules data dataSize encoded (3 * k) =
      .wrote memory encoded
        (text ++ breakLines rules.lineLength.toNat (4 * k)
          (padded rules (block memory (data + 3 * k) (min 3 (dataSize - 3 * k)))))
        (offset + (lineFeed rules (4 * k)).length) := by
  have first := unreached (3 * k) (by omega) less
  rw [Encoding.body, newLine_wrote rules counted]
  by_cases second : 3 * k + 1 < dataSize
  next =>
    have unreached1 := unreached (3 * k + 1) (by omega) second
    by_cases third : 3 * k + 2 < dataSize
    next =>
      have unreached2 := unreached (3 * k + 2) (by omega) third
      have three : min 3 (dataSize - 3 * k) = 3 := by omega
      have group : padded rules (block memory (data + 3 * k) 3) =
          [charOf rules ((memory (data + 3 * k)).toNat / 4),
            charOf rules ((memory (data + 3 * k)).toNat % 4 * 16 +
              (memory (data + (3 * k + 1))).toNat / 16),
            charOf rules ((memory (data + (3 * k + 1))).toNat % 16 * 4 +
              (memory (data + (3 * k + 2))).toNat / 64),
            charOf rules ((memory (data + (3 * k + 2))).toNat % 64)] := by
        simp [padded, padding, block, digits, Nat.add_assoc]
      rw [three, group, breakLines_group rules whole]
      simp (disch := (simp only [List.length_append, List.length_singleton]; omega)) only
        [put_wrote, second, third, if_true, wrote_memory first, wrote_memory unreached1,
          wrote_memory unreached2, highSix, middleLeft, middleRight, lowSix]
      simp [charOf]
    next =>
      have two : min 3 (dataSize - 3 * k) = 2 := by omega
      have group : padded rules (block memory (data + 3 * k) 2) =
          [charOf rules ((memory (data + 3 * k)).toNat / 4),
            charOf rules ((memory (data + 3 * k)).toNat % 4 * 16 +
              (memory (data + (3 * k + 1))).toNat / 16),
            charOf rules ((memory (data + (3 * k + 1))).toNat % 16 * 4), rules.equals] := rfl
      rw [two, group, breakLines_group rules whole]
      simp (disch := (simp only [List.length_append, List.length_singleton]; omega)) only
        [put_wrote, second, third, if_true, if_false, wrote_memory first, wrote_memory unreached1,
          highSix, middleLeft, lowFour, base64Char_equals]
      simp [charOf]
  next =>
    have one : min 3 (dataSize - 3 * k) = 1 := by omega
    have group : padded rules (block memory (data + 3 * k) 1) =
        [charOf rules ((memory (data + 3 * k)).toNat / 4),
          charOf rules ((memory (data + 3 * k)).toNat % 4 * 16), rules.equals, rules.equals] := rfl
    rw [one, group, breakLines_group rules whole]
    simp (disch := (simp only [List.length_append, List.length_singleton]; omega)) only
      [put_wrote, second, if_false, wrote_memory first, highSix, lowTwo, base64Char_equals]
    simp [charOf]

def textBefore (rules : Rules) (memory : Nat -> UInt8) (data dataSize k : Nat) : List UInt8 :=
  base64Text rules (block memory data (min (3 * k) dataSize))

/-- The text up to and including that of a group reaches neither this group nor the data behind it. -/
def StaysClear (rules : Rules) (memory : Nat -> UInt8) (data dataSize encoded : Nat) : Prop :=
  ∀ k j, 3 * k ≤ j -> j < dataSize ->
    Unreached encoded (textBefore rules memory data dataSize (k + 1)).length (data + j)

theorem textBefore_succ {k : Nat} (less : 3 * k < dataSize) :
    textBefore rules memory data dataSize (k + 1) = textBefore rules memory data dataSize k ++
      breakLines rules.lineLength.toNat (4 * k)
        (padded rules (block memory (data + 3 * k) (min 3 (dataSize - 3 * k)))) := by
  have split : min (3 * (k + 1)) dataSize = 3 * k + min 3 (dataSize - 3 * k) := by omega
  have before : min (3 * k) dataSize = 3 * k := by omega
  rw [textBefore, textBefore, split, before, block_add,
    base64Text_append rules _ _ (by simp), block_length, Nat.mul_div_cancel_left k (by omega)]

theorem group_length (whole : rules.lineLength.toNat % 4 = 0) {k : Nat} (less : 3 * k < dataSize) :
    (breakLines rules.lineLength.toNat (4 * k)
      (padded rules (block memory (data + 3 * k) (min 3 (dataSize - 3 * k))))).length =
      (lineFeed rules (4 * k)).length + 4 := by
  have four : (padded rules (block memory (data + 3 * k) (min 3 (dataSize - 3 * k)))).length = 4 := by
    rw [padded_length, block_length]
    omega
  obtain ⟨c0, c1, c2, c3, same⟩ := List.length_eq_four.mp four
  rw [same, breakLines_group rules whole]
  simp

theorem loop_wrote (whole : rules.lineLength.toNat % 4 = 0)
    (clear : StaysClear rules memory data dataSize encoded) (turns : Nat) {k offset : Nat}
    (enough : dataSize ≤ 3 * k + turns)
    (counted : (textBefore rules memory data dataSize k).length - offset = 4 * k)
    (bounded : offset ≤ (textBefore rules memory data dataSize k).length) :
    ∃ last, Encoding.loop rules data dataSize encoded turns (3 * k)
        (.wrote memory encoded (textBefore rules memory data dataSize k) offset) =
      .wrote memory encoded (base64Text rules (block memory data dataSize)) last := by
  induction turns generalizing k offset with
  | zero =>
    have all : min (3 * k) dataSize = dataSize := by omega
    exact ⟨offset, by rw [Encoding.loop, textBefore, all]⟩
  | succ turns ih =>
    by_cases less : 3 * k < dataSize
    next =>
      have added := @group_length rules memory data dataSize whole k less
      have grown := congrArg List.length (@textBefore_succ rules memory data dataSize k less)
      rw [List.length_append, added] at grown
      have unreached (j : Nat) (low : 3 * k ≤ j) (high : j < dataSize) : Unreached encoded
          ((textBefore rules memory data dataSize k).length + (lineFeed rules (4 * k)).length + 4)
          (data + j) := by
        rw [Nat.add_assoc, ← grown]
        exact clear k j low high
      have wrote := @body_wrote rules memory data dataSize encoded whole _ offset k counted less
        unreached
      rw [← textBefore_succ rules less] at wrote
      rw [Encoding.loop, if_pos less, wrote]
      exact ih (k := k + 1) (by omega) (by omega) (by omega)
    next =>
      have all : min (3 * k) dataSize = dataSize := by omega
      exact ⟨offset, by rw [Encoding.loop, if_neg less, textBefore, all]⟩

def visible (text : List UInt8) : List UInt8 := text.rdropWhile (· = 0)

theorem stripNulls_visible {text : List UInt8} (holds : block memory encoded text.length = text)
    (begins : text.head? ≠ some 0) :
    stripNulls memory encoded text.length = (visible text).length := by
  induction text using List.reverseRecOn with
  | nil => rfl
  | append_singleton front c ih =>
    rw [List.length_append, List.length_singleton, block_succ] at holds
    obtain ⟨before, last⟩ := List.append_inj' holds rfl
    have read : memory (encoded + front.length) = c := by simpa using last
    rw [visible, List.rdropWhile_concat, List.length_append, List.length_singleton]
    cases front with
    | nil =>
      have some : c ≠ 0 := by simpa using begins
      simp [stripNulls, some]
    | cons first others =>
      rw [List.length_cons, stripNulls]
      rw [List.length_cons] at read before ih
      rw [read]
      by_cases null : c = 0
      next =>
        rw [if_pos null, if_pos (by simpa using null)]
        exact ih before (by simpa using begins)
      next =>
        rw [if_neg null, if_neg (by simpa using null)]
        simp

def ended (memory : Nat -> UInt8) (encoded : Nat) (text : List UInt8) : Nat -> UInt8 :=
  Function.update (fill memory encoded text) (encoded + (visible text).length) 0

structure Rules.Sound (rules : Rules) : Prop where
  plus : rules.plus ≠ 0
  slash : rules.slash ≠ 0
  line : rules.lineLength.toNat % 4 = 0

theorem charOf_alphanumeric (rules : Rules) {digit : Nat} (small : digit < 62) :
    charOf rules digit = charOf b64rulesUrlsafe digit := by
  have ordinary : UInt8.ofNat digit < 62 := by
    rw [UInt8.lt_iff_toNat_lt, UInt8.toNat_ofNat', Nat.mod_eq_of_lt (by omega)]
    exact small
  rw [charOf, charOf, base64Char, base64Char]
  split
  next => rfl
  next low =>
    split
    next => rfl
    next middle =>
      have high : (52 ≤ UInt8.ofNat digit && UInt8.ofNat digit < 62) = true := by
        simp only [UInt8.lt_iff_toNat_lt, UInt8.le_iff_toNat_le, Bool.and_eq_true,
          decide_eq_true_eq] at low middle ordinary ⊢
        simp at low middle ⊢
        omega
      rw [if_pos high, if_pos high]

theorem charOf_ne_zero {rules : Rules} (sound : rules.Sound) {digit : Nat} (small : digit < 64) :
    charOf rules digit ≠ 0 := by
  have some : ∀ ordinary : Fin 62, charOf b64rulesUrlsafe ordinary ≠ 0 := by decide +kernel
  rcases (by omega : digit < 62 ∨ digit = 62 ∨ digit = 63) with ordinary | rfl | rfl
  · rw [charOf_alphanumeric rules ordinary]
    exact some ⟨digit, ordinary⟩
  · exact sound.plus
  · exact sound.slash

theorem digits_bytes_lt (bytes : List UInt8) : ∀ digit ∈ digits (bytes.map UInt8.toNat), digit < 64 := by
  apply digits_lt
  intro byte member
  obtain ⟨source, _, rfl⟩ := List.mem_map.mp member
  exact source.toNat_lt

theorem base64Text_begins {rules : Rules} (sound : rules.Sound) (bytes : List UInt8) :
    (base64Text rules bytes).head? ≠ some 0 := by
  cases text : digits (bytes.map UInt8.toNat) with
  | nil =>
    have none : bytes = [] := by
      have length := congrArg List.length text
      rw [digits_length, List.length_map, List.length_nil] at length
      exact List.eq_nil_of_length_eq_zero (by omega)
    simp [none, base64Text, padded, padding, digits, breakLines]
  | cons digit rest =>
    have small := digits_bytes_lt bytes digit (by simp [text])
    rw [base64Text, padded, text, List.map_cons, List.cons_append, breakLines]
    simpa using charOf_ne_zero sound small

theorem base64encode_text {rules : Rules} (sound : rules.Sound)
    (clear : StaysClear rules memory data dataSize encoded) {encodedSize : Nat}
    (fits : base64Length rules dataSize ≤ encodedSize) :
    base64encode rules data dataSize encoded memory encodedSize =
      (.success, ended memory encoded (base64Text rules (block memory data dataSize)),
        (visible (base64Text rules (block memory data dataSize))).length) := by
  have start : textBefore rules memory data dataSize 0 = [] := by
    simp [textBefore, block, base64Text, padded, padding, digits, breakLines]
  obtain ⟨offset, loops⟩ := @loop_wrote rules memory data dataSize encoded sound.line clear dataSize
    0 0 (by omega) (by rw [start]; rfl) (by omega)
  rw [start] at loops
  have begun : (⟨memory, 0, 0⟩ : Encoding) = .wrote memory encoded [] 0 := rfl
  have stripped := @stripNulls_visible
    (fill memory encoded (base64Text rules (block memory data dataSize))) encoded
    (base64Text rules (block memory data dataSize)) (block_fill _ _ _) (base64Text_begins sound _)
  rw [base64encode, if_neg (by simp [sound.line]), if_neg (by omega), begun, loops]
  simp only [Encoding.wrote, stripped, ended]

end Encoder

end AvrVoiceControl.Atca
