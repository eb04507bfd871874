import AvrVoiceControl.Library.CString

set_option autoImplicit false

namespace FlatJson

open CString

inductive White where
  | newline | carriageReturn | tab | space
  deriving DecidableEq

def White.byte : White -> UInt8
  | .newline => 10
  | .carriageReturn => 13
  | .tab => 9
  | .space => 32

def whites (ws : List White) : List UInt8 := ws.map White.byte

def Plain (byte : UInt8) : Prop := byte ≠ 0 ∧ byte ≠ quote ∧ byte ≠ backslash

instance (byte : UInt8) : Decidable (Plain byte) := by
  unfold Plain
  infer_instance

/-- Any byte may be escaped, so that every escape of JSON is covered. -/
inductive Piece where
  | plain (byte : { b : UInt8 // Plain b })
  | escape (byte : { b : UInt8 // b ≠ 0 })

def Piece.text : Piece -> List UInt8
  | .plain byte => [byte.val]
  | .escape byte => [backslash, byte.val]

inductive Scalar where
  | string (pieces : List Piece)
  | number (first : Fin 10) (rest : List (Fin 10))
  | bool (value : Bool)
  | null

def digit (d : Fin 10) : UInt8 := 48 + UInt8.ofNat d.val

def boolText : Bool -> List UInt8
  | true => ascii ['t', 'r', 'u', 'e']
  | false => ascii ['f', 'a', 'l', 's', 'e']

def Scalar.text : Scalar -> List UInt8
  | .string pieces => quote :: pieces.flatMap Piece.text ++ [quote]
  | .number first rest => (first :: rest).map digit
  | .bool value => boolText value
  | .null => ascii ['n', 'u', 'l', 'l']

def Scalar.bool? : Scalar -> Option Bool
  | .bool value => some value
  | _ => none

structure Member where
  key : List { b : UInt8 // Plain b }
  value : Scalar
  beforeKey : List White := []
  afterKey : List White := []
  beforeValue : List White := []
  afterValue : List White := []

def plainBytes (text : List UInt8) (plain : ∀ b ∈ text, Plain b) : List { b : UInt8 // Plain b } :=
  text.pmap Subtype.mk plain

def Member.keyText (m : Member) : List UInt8 := m.key.map Subtype.val

def Member.text (m : Member) : List UInt8 :=
  whites m.beforeKey ++ quote :: m.keyText ++ quote :: whites m.afterKey ++
    colon :: whites m.beforeValue ++ m.value.text ++ whites m.afterValue

structure Object where
  first : Member
  rest : List Member
  beforeObject : List White := []
  afterObject : List White := []

def Object.members (o : Object) : List Member := o.first :: o.rest

def membersText : List Member -> List UInt8
  | [] => []
  | m :: rest => comma :: m.text ++ membersText rest

def Object.text (o : Object) : List UInt8 :=
  whites o.beforeObject ++ openBrace :: o.first.text ++ membersText o.rest ++
    closeBrace :: whites o.afterObject

def valueAt (key : List UInt8) (members : List Member) : Option Scalar :=
  (members.find? fun m => m.keyText = key).map Member.value

def Object.boolAt (key : List UInt8) (o : Object) : Option Bool :=
  (valueAt key o.members).bind Scalar.bool?

@[simp] theorem plainBytes_unattach (text : List UInt8) (plain : ∀ b ∈ text, Plain b) :
    (plainBytes text plain).unattach = text := by
  simp [plainBytes, List.unattach, List.map_pmap]

theorem plain_of_all (text : List UInt8) (plain : text.all (fun byte => decide (Plain byte)) = true) :
    ∀ byte ∈ text, Plain byte := by
  simpa using plain

theorem Plain.of_white (w : White) : Plain w.byte := by
  cases w <;> decide

theorem plain_of_mem_whites {ws : List White} {byte : UInt8} (member : byte ∈ whites ws) :
    Plain byte := by
  obtain ⟨w, -, rfl⟩ := List.mem_map.mp member
  exact Plain.of_white w

theorem Member.plain_of_mem_keyText {m : Member} {byte : UInt8} (member : byte ∈ m.keyText) :
    Plain byte := by
  obtain ⟨b, -, rfl⟩ := List.mem_map.mp member
  exact b.property

theorem length_members_le (members : List Member) :
    members.length ≤ (membersText members).length := by
  induction members with
  | nil => simp
  | cons m rest ih =>
    simp only [membersText, List.length_cons, List.length_append]
    omega

end FlatJson
