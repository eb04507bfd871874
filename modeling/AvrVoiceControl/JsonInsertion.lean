import AvrVoiceControl.JsonGetters

set_option autoImplicit false

namespace AvrVoiceControl.Json

open CString FlatJson

theorem meeting_cases (key keyText : List UInt8) (keyPlain : ∀ b ∈ key, Plain b) :
    (∀ after, meeting key keyText after = meeting key keyText []) ∨
      ∀ after, meeting key keyText after = strayed after := by
  have quoteFree : quote ∉ key := fun member => (keyPlain quote member).2.1 rfl
  by_cases begins : key <+: keyText
  next =>
    obtain ⟨more, rfl⟩ := begins
    cases more with
    | nil => exact .inl fun after => by simp [meeting]
    | cons byte more =>
      by_cases inside : byte = quote
      next => exact .inl fun after => by rw [meeting_begun, meeting_begun, if_pos inside, if_pos inside]
      next =>
        cases found : jsonFindQuote (more ++ [quote]) with
        | some q =>
          obtain ⟨first, inner, rfl, -⟩ := jsonFindQuote_suffix _ q found
          refine .inl fun after => ?_
          rw [meeting_begun, meeting_begun, found]
          cases inner <;> rfl
        | none => exact .inr fun after => by rw [meeting_begun, if_neg inside, found]
  next =>
    refine .inl fun after => ?_
    have longer (behind : List UInt8) : ¬ key <+: keyText ++ quote :: behind := fun beyond =>
      begins (begins_of_longer key keyText behind quoteFree beyond)
    simp only [meeting, begins, longer after, longer [], if_false]

theorem takenForEnd_append {inner : List UInt8} (mistaken : takenForEnd inner = .mistaken)
    (behind : List UInt8) : takenForEnd (inner ++ behind) = .mistaken := by
  unfold takenForEnd at mistaken ⊢
  split_ifs at mistaken with ends
  obtain ⟨rest, stopped, first⟩ := Option.bind_eq_some_iff.mp ends
  cases rest with
  | nil => cases first
  | cons byte rest =>
    rw [next_append inner behind byte rest stopped]
    exact if_pos first

theorem strayed_append {text behind : List UInt8} (clear : strayed (text ++ behind) ≠ .mistaken) :
    strayed text = strayed (text ++ behind) := by
  rw [strayed_broken clear]
  apply strayed_broken
  intro mistaken
  apply clear
  unfold strayed at mistaken ⊢
  split at mistaken
  next byte inner found =>
    rw [jsonFindQuote_append text behind _ found]
    dsimp only [List.cons_append]
    split_ifs at mistaken ⊢
    exact takenForEnd_append mistaken behind
  next => cases mistaken

theorem meeting_append {key keyText text behind : List UInt8} (keyPlain : ∀ b ∈ key, Plain b)
    (clear : meeting key keyText (text ++ behind) ≠ .mistaken) :
    meeting key keyText text = meeting key keyText (text ++ behind) := by
  rcases meeting_cases key keyText keyPlain with fixed | strays
  next => rw [fixed, fixed (text ++ behind)]
  next =>
    rw [strays] at clear
    rw [strays, strays, strayed_append clear]

theorem jsonFindQuote_unfound {text behind : List UInt8} (unfound : jsonFindQuote text = none)
    (plain : ∀ b ∈ behind, Plain b) : jsonFindQuote (text ++ behind) = none := by
  have alone : jsonFindQuote ([] : List UInt8) = none := by decide
  have skipped (rest : List UInt8) (plain : ∀ b ∈ rest, Plain b) : jsonFindQuote rest = none := by
    rw [← List.append_nil rest, jsonFindQuote_skip rest [] plain, alone]
  induction text using jsonFindQuote.induct with
  | case1 => exact skipped behind plain
  | case2 rest => simp at unfound
  | case3 rest _ => simp at unfound
  | case4 =>
    cases behind with
    | nil => exact unfound
    | cons byte rest =>
      rw [List.singleton_append, jsonFindQuote_escape _ _ (plain byte List.mem_cons_self).1]
      exact skipped rest fun b member => plain b (List.mem_cons_of_mem _ member)
  | case5 rest => simp at unfound
  | case6 escaped rest nonzero _ _ ih =>
    rw [jsonFindQuote_escape _ _ nonzero] at unfound
    rw [List.cons_append, List.cons_append, jsonFindQuote_escape _ _ nonzero, ih unfound]
  | case7 byte rest notNul notQuote notBackslash ih =>
    rw [jsonFindQuote_plain _ _ ⟨notNul, notQuote, notBackslash⟩] at unfound
    rw [List.cons_append, jsonFindQuote_plain _ _ ⟨notNul, notQuote, notBackslash⟩, ih unfound]

theorem takenForEnd_closed (inner : List UInt8) (ws : List White) :
    takenForEnd (inner ++ closeBrace :: whites ws) = takenForEnd inner := by
  have ends : (next (inner ++ closeBrace :: whites ws)).bind load = some colon ↔
      (next inner).bind load = some colon := by
    induction inner with
    | nil =>
      have black : isWhiteSpace closeBrace = false := by decide
      have other : closeBrace ≠ colon := by decide
      simp [next, black, other]
    | cons byte inner ih =>
      by_cases white : byte ≠ 0 ∧ isWhiteSpace byte
      next => simpa [next, white] using ih
      next => simp only [List.cons_append, next, white, if_false, Option.bind_some, load_cons]
  simp only [takenForEnd, ends]

theorem strayed_closed (text : List UInt8) (ws : List White) :
    strayed (text ++ closeBrace :: whites ws) = strayed text := by
  have plain : ∀ b ∈ closeBrace :: whites ws, Plain b := by
    intro b member
    rcases List.mem_cons.mp member with rfl | white
    · decide
    · exact plain_of_mem_whites white
  unfold strayed
  cases found : jsonFindQuote text with
  | none => rw [jsonFindQuote_unfound found plain]
  | some q =>
    obtain ⟨byte, inner, rfl, -⟩ := jsonFindQuote_suffix text q found
    rw [jsonFindQuote_append text _ _ found]
    dsimp only [List.cons_append]
    rw [takenForEnd_closed]

theorem walk_closed (key : List UInt8) (entries : List Entry) (ws : List White)
    (keyPlain : ∀ b ∈ key, Plain b) :
    walk key entries (closeBrace :: whites ws) = walk key entries [] := by
  induction entries with
  | nil => rfl
  | cons e rest ih =>
    have same (text : List UInt8) : meeting key e.keyText (text ++ closeBrace :: whites ws) =
        meeting key e.keyText text := by
      rcases meeting_cases key e.keyText keyPlain with fixed | strays
      next => rw [fixed, fixed text]
      next => rw [strays, strays, strayed_closed]
    rw [walk, walk, ih, List.append_nil, ← List.append_assoc, same]

def Walk.followedBy (front : Walk) (back : List Entry) (onward : Walk) : Walk :=
  match front with
  | .found e later => .found e (later ++ back)
  | .stopped => .stopped
  | .mistaken => .mistaken
  | .through => onward

theorem walk_append (key : List UInt8) (front back : List Entry) (keyPlain : ∀ b ∈ key, Plain b)
    (clear : walk key (front ++ back) [] ≠ .mistaken) :
    walk key (front ++ back) [] =
      (walk key front []).followedBy back (walk key back []) := by
  induction front with
  | nil => rfl
  | cons e front ih =>
    have text : e.fromColon ++ (entriesText (front ++ back) ++ []) =
        e.fromColon ++ (entriesText front ++ []) ++ entriesText back := by
      rw [entriesText_append, List.append_nil, List.append_nil, List.append_assoc]
    rw [List.cons_append, walk, text] at clear ⊢
    rw [walk]
    have same := @meeting_append key e.keyText (e.fromColon ++ (entriesText front ++ []))
      (entriesText back) keyPlain fun mistaken => clear (by rw [mistaken])
    rw [← same] at clear ⊢
    cases met : meeting key e.keyText (e.fromColon ++ (entriesText front ++ [])) with
    | apart =>
      simp only [met] at clear ⊢
      by_cases word : e.value.unpunctuated = true
      next =>
        simp only [word, if_true] at clear ⊢
        exact ih clear
      next => simp [word, Walk.followedBy]
    | same => rfl
    | broken => rfl
    | mistaken => rfl

/-- The member stops the lookup of any later one. -/
def blocks (key : List UInt8) (new : Entry) : Bool :=
  meeting key new.keyText [] = .broken || !new.value.unpunctuated

theorem walk_new (key : List UInt8) (new : Entry) (back : List Entry)
    (keyPlain : ∀ b ∈ key, Plain b) (other : new.keyText ≠ key)
    (clear : walk key (new :: back) [] ≠ .mistaken) :
    walk key (new :: back) [] = if blocks key new then .stopped else walk key back [] := by
  have alone : meeting key new.keyText [] =
      meeting key new.keyText (new.fromColon ++ (entriesText back ++ [])) := by
    have behind := @meeting_append key new.keyText [] (new.fromColon ++ (entriesText back ++ []))
      keyPlain
    rw [List.nil_append] at behind
    exact behind fun mistaken => clear (by rw [walk, mistaken])
  rw [walk, ← alone] at clear ⊢
  cases met : meeting key new.keyText [] with
  | same => exact absurd met (meeting_other _ _ _ other)
  | apart => by_cases word : new.value.unpunctuated = true <;> simp [blocks, met, word]
  | broken => simp [blocks, met]
  | mistaken => simp [met] at clear

theorem walk_found_split (key : List UInt8) (entries : List Entry) (e : Entry)
    (later : List Entry) (found : walk key entries [] = .found e later) :
    ∃ front, entries = front ++ e :: later := by
  have first := walk_found key entries [] e later found
  clear found
  induction entries with
  | nil => simp [firstEntry] at first
  | cons e' rest ih =>
    by_cases same : e'.keyText = key
    · obtain ⟨rfl, rfl⟩ : e' = e ∧ rest = later := by simpa [firstEntry, same] using first
      exact ⟨[], rfl⟩
    · obtain ⟨front, rfl⟩ := ih (by simpa [firstEntry, same] using first)
      exact ⟨e' :: front, rfl⟩

def position (array p : Pointer) : Nat := array.length - p.length

def lookup (key : List UInt8) (o : Record) (stale : List UInt8) : Option (Option Nat) :=
  (jsonGetValue (o.text ++ 0 :: stale) key).map
    (Option.map (position (o.text ++ 0 :: stale)))

structure Insertion where
  front : List Entry
  new : Entry
  back : List Entry
  beforeObject : List White := []
  inside : List White := []
  afterObject : List White := []

def Insertion.without (i : Insertion) : Record :=
  { entries := i.front ++ i.back, beforeObject := i.beforeObject, inside := i.inside
    afterObject := i.afterObject }

def Insertion.record (i : Insertion) : Record :=
  { i.without with entries := i.front ++ i.new :: i.back }

/-- Where a byte of the text without the member is in the text with it. -/
def Insertion.moved (i : Insertion) (offset : Nat) : Nat :=
  if offset < (whites i.beforeObject ++ openBrace :: whites i.inside ++ joined i.front).length then
    offset
  else offset + (i.record.text.length - i.without.text.length)

def Insertion.Unaffected (key : List UInt8) (i : Insertion) : Prop :=
  ∀ stale, ∃ found, lookup key i.without stale = some found ∧
    lookup key i.record stale = some (found.map i.moved)

theorem length_joined (entries : List Entry) :
    (joined entries).length = (entriesText entries).length - 1 := by
  cases entries <;> simp [joined, entriesText]

theorem length_found (front later : List Entry) (e : Entry) (tail : List UInt8) :
    (entriesText (front ++ e :: later)).length + tail.length =
      (entriesText front).length + 4 + (whites e.beforeKey).length + e.keyText.length +
        (whites e.afterKey).length + (whites e.beforeValue).length +
        (entryThen e (entriesText later ++ tail)).length := by
  simp only [entriesText_append, entriesText, Entry.text, Entry.fromColon, entryThen,
    List.length_append, List.length_cons]
  omega

theorem length_text (o : Record) (stale : List UInt8) :
    (o.text ++ 0 :: stale).length = (whites o.beforeObject).length + 1 + (whites o.inside).length +
      ((entriesText o.entries).length - 1) + (objectEnd o stale).length := by
  simp only [Record.text, objectEnd, List.length_append, List.length_cons, length_joined]
  omega

theorem lookup_walk (key : List UInt8) (keyPlain : ∀ b ∈ key, Plain b) (o : Record)
    (members : o.entries ≠ []) (clear : walk key o.entries [] ≠ .mistaken) (stale : List UInt8) :
    lookup key o stale =
      ((walk key o.entries []).result (objectEnd o stale) (some none)).map
        (Option.map (position (o.text ++ 0 :: stale))) := by
  have nul : 0 ∉ key := fun member => (keyPlain 0 member).1 rfl
  have same := walk_closed key o.entries o.afterObject keyPlain
  rw [lookup, jsonGetValue_walk key o nul members (same ▸ clear), same]

theorem length_entryThen (e : Entry) (tail : Pointer) :
    (entryThen e tail).length = (entryThen e []).length + tail.length ∧
      0 < (entryThen e []).length := by
  obtain ⟨byte, rest, head, -, -⟩ := value_head e.value
  simp only [entryThen, head, List.length_append, List.length_cons, List.length_nil]
  omega

def Insertion.start (i : Insertion) : Nat :=
  (whites i.beforeObject).length + 1 + (whites i.inside).length

theorem length_without (i : Insertion) (stale : List UInt8) :
    (i.without.text ++ 0 :: stale).length = i.start +
      ((entriesText i.front).length + (entriesText i.back).length - 1) +
        (objectEnd i.without stale).length := by
  rw [length_text]
  simp only [Insertion.without, Insertion.start, entriesText_append, List.length_append]

theorem length_record (i : Insertion) (stale : List UInt8) :
    (i.record.text ++ 0 :: stale).length = i.start +
      ((entriesText i.front).length + (1 + i.new.text.length + (entriesText i.back).length) - 1) +
        (objectEnd i.without stale).length := by
  have ends : objectEnd i.record stale = objectEnd i.without stale := rfl
  rw [length_text, ends]
  simp only [Insertion.record, Insertion.without, Insertion.start, entriesText_append, entriesText,
    List.length_append, List.length_cons]
  omega

theorem moved_eq (i : Insertion) (stale : List UInt8) (offset : Nat) :
    i.moved offset =
      if offset < i.start + ((entriesText i.front).length - 1) then offset
      else offset + ((i.record.text ++ 0 :: stale).length -
        (i.without.text ++ 0 :: stale).length) := by
  have insertionPoint : (whites i.beforeObject ++ openBrace :: whites i.inside ++
      joined i.front).length = i.start + ((entriesText i.front).length - 1) := by
    simp only [List.length_append, List.length_cons, length_joined, Insertion.start]
    omega
  have inserted : i.record.text.length - i.without.text.length =
      (i.record.text ++ 0 :: stale).length - (i.without.text ++ 0 :: stale).length := by
    simp only [List.length_append, List.length_cons]
    omega
  rw [Insertion.moved, insertionPoint, inserted]

theorem moved_front (i : Insertion) (stale : List UInt8) (before later : List Entry) (e : Entry)
    (split : i.front = before ++ e :: later) :
    position (i.record.text ++ 0 :: stale)
        (entryThen e (entriesText (later ++ i.new :: i.back) ++ objectEnd i.record stale)) =
      i.moved (position (i.without.text ++ 0 :: stale)
        (entryThen e (entriesText (later ++ i.back) ++ objectEnd i.without stale))) := by
  have reached := length_found before later e []
  have value := length_entryThen e (entriesText later ++ [])
  have withNew := length_entryThen e
    (entriesText (later ++ i.new :: i.back) ++ objectEnd i.record stale)
  have withoutNew := length_entryThen e
    (entriesText (later ++ i.back) ++ objectEnd i.without stale)
  have ends : objectEnd i.record stale = objectEnd i.without stale := rfl
  rw [← split] at reached
  rw [moved_eq i stale, position, position, length_record, length_without, withNew.1,
    withoutNew.1, ends]
  simp only [entriesText_append, entriesText, List.length_append, List.length_cons,
    List.length_nil] at reached value ⊢
  split_ifs with inFront <;> omega

theorem moved_back (i : Insertion) (stale : List UInt8) (before later : List Entry) (e : Entry)
    (split : i.back = before ++ e :: later) :
    position (i.record.text ++ 0 :: stale)
        (entryThen e (entriesText later ++ objectEnd i.record stale)) =
      i.moved (position (i.without.text ++ 0 :: stale)
        (entryThen e (entriesText later ++ objectEnd i.without stale))) := by
  have reached := length_found before later e (objectEnd i.without stale)
  have ends : objectEnd i.record stale = objectEnd i.without stale := rfl
  rw [← split] at reached
  rw [moved_eq i stale, position, position, length_record, length_without, ends]
  split_ifs with inFront <;> omega

theorem walks_of_insertion (key : List UInt8) (keyPlain : ∀ b ∈ key, Plain b) (i : Insertion)
    (other : i.new.keyText ≠ key) (clearWithout : walk key i.without.entries [] ≠ .mistaken)
    (clear : walk key i.record.entries [] ≠ .mistaken) :
    walk key i.without.entries [] =
      (walk key i.front []).followedBy i.back (walk key i.back []) ∧
    walk key i.record.entries [] = (walk key i.front []).followedBy (i.new :: i.back)
      (if blocks key i.new then .stopped else walk key i.back []) := by
  refine ⟨walk_append key i.front i.back keyPlain clearWithout, ?_⟩
  have whole : walk key i.record.entries [] = (walk key i.front []).followedBy (i.new :: i.back)
      (walk key (i.new :: i.back) []) := walk_append key i.front (i.new :: i.back) keyPlain clear
  rw [whole] at clear ⊢
  cases front : walk key i.front [] with
  | found e later => rfl
  | stopped => rfl
  | mistaken => rfl
  | through =>
    rw [front] at clear
    exact walk_new key i.new i.back keyPlain other clear

theorem unaffected_empty (key : List UInt8) (keyPlain : ∀ b ∈ key, Plain b) (i : Insertion)
    (other : i.new.keyText ≠ key) (clearWithout : walk key i.without.entries [] ≠ .mistaken)
    (clear : walk key i.record.entries [] ≠ .mistaken) (empty : i.without.entries = []) :
    ¬ i.Unaffected key := by
  have nul : 0 ∉ key := fun member => (keyPlain 0 member).1 rfl
  obtain ⟨front, back⟩ : i.front = [] ∧ i.back = [] := List.append_eq_nil_iff.mp empty
  have walks := (walks_of_insertion key keyPlain i other clearWithout clear).2
  have members : i.record.entries ≠ [] := by simp [Insertion.record, front]
  intro unaffected
  obtain ⟨found, without, record⟩ := unaffected (key ++ [quote, colon, 48, 0])
  rw [lookup, jsonGetValue_empty key nul i.without empty] at without
  obtain ⟨offset, rfl⟩ : ∃ offset, found = some offset := ⟨_, (Option.some.inj without).symm⟩
  rw [lookup_walk key keyPlain i.record members clear, walks, front, back] at record
  by_cases blocked : blocks key i.new = true
  · simp [walk, Walk.followedBy, blocked, Walk.result] at record
  · simp [walk, Walk.followedBy, blocked, Walk.result] at record

theorem insertion_unaffected_iff (key : List UInt8) (keyPlain : ∀ b ∈ key, Plain b) (i : Insertion)
    (other : i.new.keyText ≠ key) (clearWithout : walk key i.without.entries [] ≠ .mistaken)
    (clear : walk key i.record.entries [] ≠ .mistaken) :
    i.Unaffected key ↔ i.without.entries ≠ [] ∧
      (walk key i.front [] = .through → blocks key i.new = true →
        ∀ e later, walk key i.back [] ≠ .found e later) := by
  have walks := walks_of_insertion key keyPlain i other clearWithout clear
  by_cases empty : i.without.entries = []
  · exact iff_of_false (unaffected_empty key keyPlain i other clearWithout clear empty)
      fun condition => condition.1 empty
  have members : i.record.entries ≠ [] := by simp [Insertion.record]
  have without := lookup_walk key keyPlain i.without empty clearWithout
  have record := lookup_walk key keyPlain i.record members clear
  rw [walks.1] at without clearWithout
  rw [walks.2] at record
  simp only [ne_eq, empty, not_false_eq_true, true_and]
  -- What ends the walk before the new member ends both lookups.
  cases front : walk key i.front [] with
  | mistaken => simp [front, Walk.followedBy] at clearWithout
  | stopped =>
    simp only [front, Walk.followedBy, Walk.result] at without record
    simp only [reduceCtorEq, false_implies, iff_true]
    intro stale
    exact ⟨none, without stale, record stale⟩
  | found e later =>
    simp only [front, Walk.followedBy, Walk.result] at without record
    simp only [reduceCtorEq, false_implies, iff_true]
    intro stale
    obtain ⟨before, split⟩ := walk_found_split key i.front e later front
    refine ⟨_, without stale, ?_⟩
    rw [record stale]
    simp only [Option.map_some, moved_front i stale before later e split]
  | through =>
    simp only [front, Walk.followedBy, true_implies] at without record clearWithout ⊢
    -- Now the new member is met, which stops only the lookup that has it.
    by_cases blocked : blocks key i.new = true
    · simp only [blocked, if_true, Walk.result, true_implies] at record ⊢
      constructor
      · intro unaffected e later found
        obtain ⟨value, here, there⟩ := unaffected []
        rw [record] at there
        rw [without, found] at here
        cases value with
        | none => simp [Walk.result] at here
        | some offset => simp at there
      · intro notFound stale
        refine ⟨none, ?_, record stale⟩
        rw [without stale]
        cases back : walk key i.back [] with
        | found e later => exact absurd back (notFound e later)
        | stopped => rfl
        | mistaken => exact absurd back clearWithout
        | through => rfl
    · simp only [blocked, if_false, false_implies, iff_true, Bool.false_eq_true] at record ⊢
      intro stale
      cases back : walk key i.back [] with
      | found e later =>
        obtain ⟨before, split⟩ := walk_found_split key i.back e later back
        refine ⟨_, by rw [without stale, back]; rfl, ?_⟩
        rw [record stale]
        simp only [back, Walk.result, Option.map_some, moved_back i stale before later e split]
      | stopped => exact ⟨none, by rw [without stale, back]; rfl, by rw [record stale, back]; rfl⟩
      | mistaken => exact absurd back clearWithout
      | through => exact ⟨none, by rw [without stale, back]; rfl, by rw [record stale, back]; rfl⟩

def oneAndFive : Insertion :=
  { front := []
    new := { key := keyPieces (ascii ['b']) (by decide +kernel), value := .number { first := 1 } }
    back := [{ letterA with value := .number { first := 5 } }] }

theorem insertion_unaffected_one : oneAndFive.Unaffected (ascii ['a']) := by
  refine (insertion_unaffected_iff (ascii ['a']) (by decide +kernel) oneAndFive
    (by decide +kernel) ?_ ?_).mpr
    ⟨by simp [oneAndFive, Insertion.without], fun _ blocked => absurd blocked (by decide +kernel)⟩
  · intro mistaken
    cases (show Walk.found _ [] = .mistaken from mistaken)
  · intro mistaken
    cases (show Walk.found _ [] = .mistaken from mistaken)

theorem insertion_minus_one : ¬ Insertion.Unaffected (ascii ['a'])
    { oneAndFive with
      new := { oneAndFive.new with value := .number { negative := true, first := 1 } } } := by
  intro unaffected
  obtain ⟨found, without, record⟩ := unaffected []
  have here : some (some 5) = some found := without
  have there : some none = some (found.map _) := record
  obtain rfl := Option.some.inj here
  simp at there

end AvrVoiceControl.Json
