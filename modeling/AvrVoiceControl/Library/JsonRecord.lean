import AvrVoiceControl.Library.FlatJson

set_option autoImplicit false

namespace FlatJson

open CString

abbrev minus : UInt8 := 45
abbrev plus : UInt8 := 43
abbrev dot : UInt8 := 46

structure Exponent where
  capital : Bool := false
  negative : Option Bool := none
  first : Fin 10
  rest : List (Fin 10) := []

/-- The numbers of RFC 8259, and those with leading zeros. -/
structure Number where
  negative : Bool := false
  first : Fin 10
  rest : List (Fin 10) := []
  fraction : Option (Fin 10 × List (Fin 10)) := none
  exponent : Option Exponent := none

def Exponent.letter (e : Exponent) : UInt8 := if e.capital then 69 else 101

def Exponent.signText (e : Exponent) : List UInt8 :=
  match e.negative with
  | none => []
  | some true => [minus]
  | some false => [plus]

def Exponent.text (e : Exponent) : List UInt8 :=
  e.letter :: e.signText ++ (e.first :: e.rest).map digit

def fractionText : Option (Fin 10 × List (Fin 10)) -> List UInt8
  | none => []
  | some (first, rest) => dot :: (first :: rest).map digit

def exponentText : Option Exponent -> List UInt8
  | none => []
  | some e => e.text

def Number.whole (n : Number) : List UInt8 := (n.first :: n.rest).map digit

def Number.text (n : Number) : List UInt8 :=
  (if n.negative then [minus] else []) ++ n.whole ++ fractionText n.fraction ++
    exponentText n.exponent

inductive Value where
  | string (pieces : List Piece)
  | number (n : Number)
  | bool (value : Bool)
  | null

def Value.text : Value -> List UInt8
  | .string pieces => quote :: pieces.flatMap Piece.text ++ [quote]
  | .number n => n.text
  | .bool value => boolText value
  | .null => ascii ['n', 'u', 'l', 'l']

def Number.unsigned (n : Number) : Bool :=
  !n.negative && n.fraction.isNone && n.exponent.isNone

/-- No sign and no dot is in the text of the number. -/
def Number.unpunctuated (n : Number) : Bool :=
  !n.negative && n.fraction.isNone && n.exponent.all fun e => e.negative.isNone

def Value.unpunctuated : Value -> Bool
  | .number n => n.unpunctuated
  | _ => true

def rawBytes (pieces : List Piece) : List UInt8 := pieces.flatMap Piece.text

structure Entry where
  key : List Piece
  value : Value
  beforeKey : List White := []
  afterKey : List White := []
  beforeValue : List White := []
  afterValue : List White := []

def keyPieces (text : List UInt8) (plain : ∀ b ∈ text, Plain b) : List Piece :=
  (plainBytes text plain).map Piece.plain

def Entry.keyText (e : Entry) : List UInt8 := e.key.flatMap Piece.text

def Entry.fromColon (e : Entry) : List UInt8 :=
  whites e.afterKey ++ colon :: whites e.beforeValue ++ e.value.text ++ whites e.afterValue

def Entry.text (e : Entry) : List UInt8 :=
  whites e.beforeKey ++ quote :: e.keyText ++ quote :: e.fromColon

def entriesText : List Entry -> List UInt8
  | [] => []
  | e :: rest => comma :: e.text ++ entriesText rest

def joined : List Entry -> List UInt8
  | [] => []
  | e :: rest => e.text ++ entriesText rest

structure Record where
  entries : List Entry
  beforeObject : List White := []
  inside : List White := []
  afterObject : List White := []

def Record.text (o : Record) : List UInt8 :=
  whites o.beforeObject ++ openBrace :: whites o.inside ++ joined o.entries ++
    closeBrace :: whites o.afterObject

def firstEntry (key : List UInt8) : List Entry -> Option (Entry × List Entry)
  | [] => none
  | e :: rest => if e.keyText = key then some (e, rest) else firstEntry key rest

def isNumeral (text : List UInt8) : Bool :=
  text ≠ [] && text.all fun byte => 48 ≤ byte && byte ≤ 57

def decimal (text : List UInt8) : Nat := text.foldl (fun n byte => n * 10 + (byte.toNat - 48)) 0

def Value.numeral? : Value -> Option Nat
  | .number n => if n.unsigned then some (decimal n.whole) else none
  | .string pieces =>
    if isNumeral (rawBytes pieces) then some (decimal (rawBytes pieces)) else none
  | _ => none

@[simp] theorem entriesText_append (front back : List Entry) :
    entriesText (front ++ back) = entriesText front ++ entriesText back := by
  induction front with
  | nil => rfl
  | cons e front ih => simp [entriesText, ih]

theorem length_entries_le (entries : List Entry) :
    entries.length ≤ (entriesText entries).length := by
  induction entries with
  | nil => simp
  | cons e rest ih =>
    simp only [entriesText, List.length_cons, List.length_append]
    omega

end FlatJson
