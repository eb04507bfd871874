import AvrVoiceControl.Library.Base64
import AvrVoiceControl.Library.CString
import AvrVoiceControl.Library.FlatMemory
import Mathlib.Data.List.DropRight
import Mathlib.Data.UInt

set_option autoImplicit false

namespace AvrVoiceControl.Atca

open FlatMemory

inductive AtcaStatus
  | success
  | badParam
  | smallBuffer
  | invalidSize
  | genFail
  | commFail
  | checkmacVerifyFailed
  | parseError
  | statusEcc
  | statusSelftestError
  | healthTestError
  | executionError
  | wakeSuccess
  | statusCrc
  | rxFail
  | rxNoResponse
  | rxCrcError
  | badOpcode
  deriving DecidableEq

/-- The four bytes of a ruleset: the characters of 62 and 63, the padding, and after how many
characters a line ends. -/
structure Rules where
  plus : UInt8
  slash : UInt8
  equals : UInt8
  lineLength : UInt8
  deriving DecidableEq

def b64rulesDefault : Rules := ⟨43, 47, 61, 64⟩
def b64rulesUrlsafe : Rules := ⟨45, 95, 0, 0⟩

abbrev b64IsEqual : UInt8 := 64
abbrev b64IsInvalid : UInt8 := 0xff

def isDigit (c : UInt8) : Bool := 48 ≤ c && c ≤ 57
def isAlpha (c : UInt8) : Bool := (65 ≤ c && c ≤ 90) || (97 ≤ c && c ≤ 122)
def isWhiteSpace (c : UInt8) : Bool := c == 10 || c == 13 || c == 9 || c == 32

def isBase64Digit (c : UInt8) (rules : Rules) : Bool :=
  isDigit c || isAlpha c || c == rules.plus || c == rules.slash || c == rules.equals

def base64Index (c : UInt8) (rules : Rules) : UInt8 :=
  if 65 ≤ c && c ≤ 90 then c - 65
  else if 97 ≤ c && c ≤ 122 then 26 + c - 97
  else if 48 ≤ c && c ≤ 57 then 52 + c - 48
  else if c == rules.plus then 62
  else if c == rules.slash then 63
  else if c == rules.equals then b64IsEqual
  else b64IsInvalid

def base64Char (id : UInt8) (rules : Rules) : UInt8 :=
  if id < 26 then 65 + id
  else if 26 ≤ id && id < 52 then 97 + id - 26
  else if 52 ≤ id && id < 62 then 48 + id - 52
  else if id == 62 then rules.plus
  else if id == 63 then rules.slash
  else if id == b64IsEqual then rules.equals
  else b64IsInvalid

/-- The output of `atcab_base64encode_` so far, which shares its memory with the data. -/
structure Encoding where
  memory : Nat -> UInt8
  b64Idx : Nat
  offset : Nat

def Encoding.put (encoding : Encoding) (encoded : Nat) (c : UInt8) : Encoding :=
  { encoding with
      memory := Function.update encoding.memory (encoded + encoding.b64Idx) c
      b64Idx := encoding.b64Idx + 1 }

section Encode

variable (rules : Rules) (data dataSize encoded : Nat)

def Encoding.newLine (encoding : Encoding) (dataIdx : Nat) : Encoding :=
  if rules.lineLength ≠ 0 ∧ 0 < dataIdx ∧
      (encoding.b64Idx - encoding.offset) % rules.lineLength.toNat = 0 then
    { (encoding.put encoded 13).put encoded 10 with offset := encoding.offset + 2 }
  else encoding

def Encoding.body (encoding : Encoding) (dataIdx : Nat) : Encoding :=
  let started := encoding.newLine rules encoded dataIdx
  let first := started.put encoded
    (base64Char ((started.memory (data + dataIdx) &&& 0xfc) >>> 2) rules)
  let id := (first.memory (data + dataIdx) &&& 0x03) <<< 4
  if dataIdx + 1 < dataSize then
    let id := id ||| (first.memory (data + (dataIdx + 1)) &&& 0xf0) >>> 4
    let second := first.put encoded (base64Char id rules)
    let id := (second.memory (data + (dataIdx + 1)) &&& 0x0f) <<< 2
    if dataIdx + 2 < dataSize then
      let id := id ||| (second.memory (data + (dataIdx + 2)) &&& 0xc0) >>> 6
      let third := second.put encoded (base64Char id rules)
      let id := third.memory (data + (dataIdx + 2)) &&& 0x3f
      third.put encoded (base64Char id rules)
    else (second.put encoded (base64Char id rules)).put encoded (base64Char b64IsEqual rules)
  else
    ((first.put encoded (base64Char id rules)).put encoded
      (base64Char b64IsEqual rules)).put encoded (base64Char b64IsEqual rules)

def Encoding.loop : Nat -> Nat -> Encoding -> Encoding
  | 0, _, encoding => encoding
  | turns + 1, dataIdx, encoding =>
    if dataIdx < dataSize then
      loop turns (dataIdx + 3) (encoding.body rules data dataSize encoded dataIdx)
    else encoding

def stripNulls (memory : Nat -> UInt8) (encoded : Nat) : Nat -> Nat
  | b64Idx + 2 =>
    if memory (encoded + (b64Idx + 1)) = 0 then stripNulls memory encoded (b64Idx + 1)
    else b64Idx + 2
  | b64Idx => b64Idx

/-- The length that is checked against the buffer, in the 16 bits of a `size_t`. -/
def base64Length : Nat :=
  let plain := (dataSize / 3 + if dataSize % 3 ≠ 0 then 1 else 0) * 4 % 65536
  let broken :=
    if rules.lineLength ≠ 0 then
      (plain + plain / rules.lineLength.toNat * 2) % 65536
    else plain
  (broken + 1) % 65536

/-- `atcab_base64encode_` of an array in memory to a buffer in the same memory; the last result is
`*encoded_size`. -/
def base64encode (memory : Nat -> UInt8) (encodedSize : Nat) :
    AtcaStatus × (Nat -> UInt8) × Nat :=
  if rules.lineLength ≠ 0 ∧ rules.lineLength.toNat % 4 ≠ 0 then (.badParam, memory, encodedSize)
  else if encodedSize < base64Length rules dataSize then (.smallBuffer, memory, encodedSize)
  else
    let filled := Encoding.loop rules data dataSize encoded dataSize 0 ⟨memory, 0, 0⟩
    let b64Idx := stripNulls filled.memory encoded filled.b64Idx
    (.success, Function.update filled.memory (encoded + b64Idx) 0, b64Idx)

end Encode

def base64decodeBlock (id : UInt8 × UInt8 × UInt8 × UInt8) (data : List UInt8)
    (dataMaxSize : Nat) : AtcaStatus × List UInt8 :=
  let (id0, id1, id2, id3) := id
  if id0 = b64IsEqual ∨ id1 = b64IsEqual ∨ (id2 = b64IsEqual ∧ id3 ≠ b64IsEqual) then
    (.badParam, data)
  else
    let newBytes := if id2 = b64IsEqual then 1 else if id3 = b64IsEqual then 2 else 3
    if dataMaxSize < data.length + newBytes then (.badParam, data)
    else
      let first := data ++ [(id0 <<< 2) ||| (id1 >>> 4)]
      if id2 = b64IsEqual then (.success, first)
      else
        let second := first ++ [(id1 <<< 4) ||| (id2 >>> 2)]
        if id3 = b64IsEqual then (.success, second)
        else (.success, second ++ [(id2 <<< 6) ||| id3])

/-- The loop of `atcab_base64decode_` over what is left of the text, with the indices of an
unfinished group, and the end of the string behind it. -/
def base64decodeLoop (rules : Rules) (dataMaxSize : Nat) :
    List UInt8 -> List UInt8 -> Bool -> List UInt8 -> AtcaStatus × List UInt8
  | [], ids, _, data =>
    match ids with
    | [] => (.success, data)
    | [_] => (.badParam, data)
    | [id0, id1] => base64decodeBlock (id0, id1, b64IsEqual, b64IsEqual) data dataMaxSize
    | id0 :: id1 :: id2 :: _ => base64decodeBlock (id0, id1, id2, b64IsEqual) data dataMaxSize
  | c :: rest, ids, isDone, data =>
    if isWhiteSpace c then base64decodeLoop rules dataMaxSize rest ids isDone data
    else if ¬isBase64Digit c rules then (.badParam, data)
    else if isDone then (.badParam, data)
    else
      match ids with
      | [id0, id1, id2] =>
        let id3 := base64Index c rules
        match base64decodeBlock (id0, id1, id2, id3) data dataMaxSize with
        | (.success, decoded) =>
          base64decodeLoop rules dataMaxSize rest [] (id3 = b64IsEqual) decoded
        | failed => failed
      | _ => base64decodeLoop rules dataMaxSize rest (ids ++ [base64Index c rules]) isDone data

def base64decode (rules : Rules) (encoded : List UInt8) (dataMaxSize : Nat) :
    AtcaStatus × List UInt8 :=
  base64decodeLoop rules dataMaxSize encoded [] false []

end AvrVoiceControl.Atca
