import AvrVoiceControl.Library.CString

set_option autoImplicit false

namespace AvrVoiceControl.Json

open CString

def isDigit (c : UInt8) : Bool := 48 ≤ c && c ≤ 57

def isAlpha (c : UInt8) : Bool := (65 ≤ c && c ≤ 90) || (97 ≤ c && c ≤ 122)

def isWhiteSpace (c : UInt8) : Bool := c == 10 || c == 13 || c == 9 || c == 32

def jsonFindQuote : Pointer -> Option Pointer
  | [] => none
  | byte :: rest =>
    if byte = 0 then some (byte :: rest)
    else if byte = quote then some (byte :: rest)
    else if byte = backslash then
      match rest with
      | [] => none
      | escaped :: rest =>
        -- The backslash was the last character of the string.
        if escaped = 0 then some (escaped :: rest) else jsonFindQuote rest
    else jsonFindQuote rest

def next : Pointer -> Option Pointer
  | [] => none
  | byte :: rest => if byte ≠ 0 ∧ isWhiteSpace byte then next rest else some (byte :: rest)

def skipAlphaDigit : Pointer -> Option Pointer
  | [] => none
  | byte :: rest => if isAlpha byte || isDigit byte then skipAlphaDigit rest else some (byte :: rest)

def valueOfKey (p : Pointer) : Option (Option Pointer) := do
  -- From the closing quote of a key to its value; an inner `none` is a `break`.
  let p ← next (← advance p)
  if (← load p) ≠ colon then return none
  let p ← next (← advance p)
  let first ← load p
  if first = 0 ∨ first = closeBrace then return none
  return some p

def skipValue (p : Pointer) : Option (Option Pointer) := do
  -- From a value to the comma after it; an inner `none` is a `break`.
  let p ←
    if (← load p) = quote then do
      let p ← jsonFindQuote (← advance p)
      if (← load p) = 0 then return none
      next (← advance p)
    else skipAlphaDigit p
  let p ← next p
  if (← load p) ≠ comma then return none
  return some p

def nextPair (p : Pointer) : Option (Option Pointer) := do
  let p ← jsonFindQuote (← advance p)
  if (← load p) = 0 then return none
  match ← valueOfKey p with
  | none => return none
  | some p => skipValue p

/-- What one turn of the loop decides: it returns a value, or goes on from a pointer. -/
inductive Turn where
  | done (value : Option Pointer)
  | again (p : Pointer)
  deriving DecidableEq

def searchPair (key : List UInt8) (p : Pointer) : Option Turn := do
  let skip (p : Pointer) : Option Turn := do
    match ← nextPair p with
    | none => return .done none
    | some p => return .again p
  let p ← jsonFindQuote p
  if ← startsWith key (← advance p) then
    let afterKey := (← advance p).drop key.length
    if (← load afterKey) = quote then return .done (← valueOfKey afterKey)
    skip afterKey
  else skip p

def searchPairs (key : List UInt8) : Nat -> Pointer -> Option (Option Pointer)
  | 0, _ => none
  | fuel + 1, p => do
    if (← load p) = 0 then return none
    match ← searchPair key p with
    | .done value => return value
    | .again p => searchPairs key fuel p

/-- NULL is the inner `none`; the outer one is a read outside of the array. -/
def jsonGetValue (json : Pointer) (key : List UInt8) : Option (Option Pointer) :=
  searchPairs key (json.length + 1) json

def insideString (p : Pointer) : Option Pointer := do
  if (← load p) = quote then
    if (← load (← advance p)) ≠ 0 then return (← advance p)
  return p

def addDigits : UInt32 -> Pointer -> Option (UInt32 × Pointer)
  | _, [] => none
  | value, byte :: rest =>
    if byte ≠ 0 ∧ isDigit byte then addDigits (value * 10 + (byte - 48).toUInt32) rest
    else some (value, byte :: rest)

def getNumber (p : Pointer) : Option UInt32 := do
  let (value, p) ← addDigits 0 (← insideString p)
  let _ ← insideString p
  return value

/-- The return value of JSON_getInt and `*value` after it. -/
def jsonGetInt (json : Pointer) (key : List UInt8) (value : UInt32) :
    Option (Bool × UInt32) := do
  match ← jsonGetValue json key with
  | none => return (false, value)
  | some pV => return (true, ← getNumber pV)

/-- The return value of JSON_getString, and `*value` and the byte `*len` after it. -/
def jsonGetString (json : Pointer) (key : List UInt8) (value : Pointer) (len : UInt8) :
    Option (Bool × Pointer × UInt8) := do
  match ← jsonGetValue json key with
  | none => return (false, value, len)
  | some pV =>
    let pV ← advance pV
    let closing ← jsonFindQuote pV
    return (true, pV, UInt8.ofNat (pV.length - closing.length))

def trueText : List UInt8 := ascii ['t', 'r', 'u', 'e']

def falseText : List UInt8 := ascii ['f', 'a', 'l', 's', 'e']

def jsonGetBool (json : Pointer) (key : List UInt8) : Option (Option Bool) := do
  -- An inner `none` is the return value false, which leaves `*value` as it was.
  match ← jsonGetValue json key with
  | none => return none
  | some value =>
    if ← startsWith trueText value then return some true
    else if ← startsWith falseText value then return some false
    else return none

end AvrVoiceControl.Json
