import Mathlib
import AvrVoiceControl.Library.ByteOrder

set_option autoImplicit false

namespace MqttGrammar

open ByteOrder

def encodeRemainingLength (n : Nat) : List UInt8 :=
  -- Seven bits a byte, lowest first; the top bit says that another byte follows.
  if n < 128 then [UInt8.ofNat n]
  else UInt8.ofNat (n % 128 + 128) :: encodeRemainingLength (n / 128)
termination_by n
decreasing_by omega

def decodeRemainingLength : Nat -> List UInt8 -> Option (Nat × List UInt8)
  | 0, _ => none
  | _ + 1, [] => none
  | limit + 1, byte :: rest =>
    if byte.toNat < 128 then some (byte.toNat, rest)
    else do
      let (high, rest) ← decodeRemainingLength limit rest
      return (byte.toNat - 128 + 128 * high, rest)

def parseWord : List UInt8 -> Option (UInt16 × List UInt8)
  | high :: low :: rest => some (ofBigEndian high low, rest)
  | _ => none

def parseString (bytes : List UInt8) : Option (List UInt8 × List UInt8) := do
  let (count, rest) ← parseWord bytes
  if count.toNat ≤ rest.length then some (rest.take count.toNat, rest.drop count.toNat) else none

def parseOptionalString (flag : Bool) (bytes : List UInt8) :
    Option (Option (List UInt8) × List UInt8) :=
  if flag then (parseString bytes).map fun (text, rest) => (some text, rest)
  else some (none, bytes)

structure Will where
  qos : Nat
  retain : Bool
  topic : List UInt8
  message : List UInt8
  deriving DecidableEq

structure Connect where
  cleanSession : Bool
  keepAlive : UInt16
  clientId : List UInt8
  will : Option Will
  username : Option (List UInt8)
  password : Option (List UInt8)
  deriving DecidableEq

structure Publish where
  duplicate : Bool
  qos : Nat
  retain : Bool
  topic : List UInt8
  packetIdentifier : Option UInt16
  payload : List UInt8
  deriving DecidableEq

structure Subscribe where
  -- The second component of a filter is the byte with the requested quality of service.
  packetIdentifier : UInt16
  filters : List (List UInt8 × UInt8)
  deriving DecidableEq

inductive Packet
  | connect (packet : Connect)
  | connack (sessionPresent : Bool) (returnCode : UInt8)
  | publish (packet : Publish)
  | puback (packetIdentifier : UInt16)
  | subscribe (packet : Subscribe)
  | suback (packetIdentifier : UInt16) (returnCodes : List UInt8)
  | pingreq
  | pingresp
  | disconnect
  deriving DecidableEq

def protocolName : List UInt8 := [77, 81, 84, 84]

def parseWill (present : Bool) (qos : Nat) (retain : Bool) (bytes : List UInt8) :
    Option (Option Will × List UInt8) :=
  if present then do
    let (topic, rest) ← parseString bytes
    let (message, rest) ← parseString rest
    if qos ≤ 2 then some (some { qos, retain, topic, message }, rest) else none
  else if qos = 0 ∧ retain = false then some (none, bytes) else none

def parseConnect (body : List UInt8) : Option Connect := do
  let (name, rest) ← parseString body
  match rest with
  | level :: flags :: rest =>
    let bit (i : Nat) : Bool := flags.toNat.testBit i
    if name ≠ protocolName ∨ level ≠ 4 ∨ bit 0 ∨ (bit 6 ∧ !bit 7) then none
    else do
      let (keepAlive, rest) ← parseWord rest
      let (clientId, rest) ← parseString rest
      let (will, rest) ← parseWill (bit 2) (flags.toNat / 8 % 4) (bit 5) rest
      let (username, rest) ← parseOptionalString (bit 7) rest
      let (password, rest) ← parseOptionalString (bit 6) rest
      if rest = [] then
        some { cleanSession := bit 1, keepAlive, clientId, will, username, password }
      else none
  | _ => none

def parsePublish (flags : Nat) (body : List UInt8) : Option Publish := do
  let duplicate := flags.testBit 3
  let qos := flags / 2 % 4
  let retain := flags.testBit 0
  if qos = 3 ∨ (qos = 0 ∧ duplicate) then none
  else do
    let (topic, rest) ← parseString body
    if qos = 0 then
      some { duplicate, qos, retain, topic, packetIdentifier := none, payload := rest }
    else do
      let (identifier, rest) ← parseWord rest
      some { duplicate, qos, retain, topic, packetIdentifier := some identifier, payload := rest }

def parseFilters : Nat -> List UInt8 -> Option (List (List UInt8 × UInt8))
  | _, [] => some []
  | 0, _ => none
  | limit + 1, bytes => do
    let (topic, rest) ← parseString bytes
    match rest with
    | qos :: rest => do
      let filters ← parseFilters limit rest
      return (topic, qos) :: filters
    | [] => none

def parseSubscribe (body : List UInt8) : Option Subscribe := do
  let (packetIdentifier, rest) ← parseWord body
  let filters ← parseFilters rest.length rest
  if filters = [] then none else some { packetIdentifier, filters }

def parseBody : Nat -> Nat -> List UInt8 -> Option Packet
  | 1, 0, body => (parseConnect body).map .connect
  | 2, 0, [flags, code] =>
    if flags.toNat ≤ 1 then some (.connack (flags.toNat = 1) code) else none
  | 3, flags, body => (parsePublish flags body).map .publish
  | 4, 0, [high, low] => some (.puback (ofBigEndian high low))
  | 8, 2, body => (parseSubscribe body).map .subscribe
  | 9, 0, high :: low :: codes => some (.suback (ofBigEndian high low) codes)
  | 12, 0, [] => some .pingreq
  | 13, 0, [] => some .pingresp
  | 14, 0, [] => some .disconnect
  | _, _, _ => none

/-- The first byte, the bytes the remaining length counts, and what follows the packet. -/
def parseFrame : List UInt8 -> Option (UInt8 × List UInt8 × List UInt8)
  | [] => none
  | header :: bytes => do
    let (count, rest) ← decodeRemainingLength 4 bytes
    if count ≤ rest.length then some (header, rest.take count, rest.drop count) else none

def parsePacket (bytes : List UInt8) : Option (Packet × List UInt8) := do
  let (header, body, rest) ← parseFrame bytes
  let packet ← parseBody (header.toNat / 16) (header.toNat % 16) body
  return (packet, rest)

theorem encodeRemainingLength_small {n : Nat} (small : n < 128) :
    encodeRemainingLength n = [UInt8.ofNat n] := by
  rw [encodeRemainingLength, if_pos small]

theorem encodeRemainingLength_large {n : Nat} (large : 128 ≤ n) :
    encodeRemainingLength n =
      UInt8.ofNat (n % 128 + 128) :: encodeRemainingLength (n / 128) := by
  rw [encodeRemainingLength, if_neg (by omega)]

theorem decode_encodeRemainingLength (limit n : Nat) (bound : n < 128 ^ limit)
    (positive : 0 < limit) (rest : List UInt8) :
    decodeRemainingLength limit (encodeRemainingLength n ++ rest) = some (n, rest) := by
  induction limit generalizing n with
  | zero => omega
  | succ limit ih =>
    by_cases small : n < 128
    · have byte : (UInt8.ofNat n).toNat = n := by
        rw [UInt8.toNat_ofNat']
        omega
      simp [encodeRemainingLength_small small, decodeRemainingLength, byte, small]
    · have large : 128 ≤ n := by omega
      have byte : (UInt8.ofNat (n % 128 + 128)).toNat = n % 128 + 128 := by
        rw [UInt8.toNat_ofNat']
        omega
      have next : n / 128 < 128 ^ limit := by
        rw [Nat.pow_succ] at bound
        exact (Nat.div_lt_iff_lt_mul (by decide)).mpr bound
      have more : 0 < limit := by
        rcases Nat.eq_zero_or_pos limit with rfl | more
        · simp at bound
          omega
        · exact more
      have continued : ¬ n % 128 + 128 < 128 := by omega
      rw [encodeRemainingLength_large large, List.cons_append, decodeRemainingLength, byte,
        if_neg continued, ih (n / 128) next more]
      simp only [Option.bind_eq_bind, Option.bind_some, Option.pure_def, Option.some.injEq,
        Prod.mk.injEq, and_true]
      omega

@[simp] theorem parseWord_bigEndian (n : UInt16) (rest : List UInt8) :
    parseWord (bigEndian n ++ rest) = some (n, rest) := by
  simp [bigEndian, parseWord]

theorem parseString_encode (n : UInt16) (text rest : List UInt8) (count : n.toNat = text.length) :
    parseString (bigEndian n ++ (text ++ rest)) = some (text, rest) := by
  simp [parseString, count]

theorem parseFilters_nil (limit : Nat) : parseFilters limit [] = some [] := by
  cases limit <;> rfl

theorem parseFilters_cons (limit : Nat) (n : UInt16) (text : List UInt8) (qos : UInt8)
    (rest : List UInt8) (count : n.toNat = text.length) :
    parseFilters (limit + 1) (bigEndian n ++ (text ++ qos :: rest)) =
      (parseFilters limit rest).map ((text, qos) :: ·) := by
  have front : bigEndian n ++ (text ++ qos :: rest) =
      (n >>> 8).toUInt8 :: n.toUInt8 :: (text ++ qos :: rest) := rfl
  rw [front, parseFilters, ← front, parseString_encode n text (qos :: rest) count]
  · simp only [Option.bind_eq_bind, Option.bind_some]
    cases parseFilters limit rest <;> rfl
  · simp

theorem encodeRemainingLength_length {limit n : Nat} (bound : n < 128 ^ limit)
    (positive : 0 < limit) : (encodeRemainingLength n).length ≤ limit := by
  induction limit generalizing n with
  | zero => omega
  | succ limit ih =>
    by_cases small : n < 128
    · simp [encodeRemainingLength_small small]
    · have next : n / 128 < 128 ^ limit := by
        rw [Nat.pow_succ] at bound
        exact (Nat.div_lt_iff_lt_mul (by decide)).mpr bound
      have more : 0 < limit := by
        rcases Nat.eq_zero_or_pos limit with rfl | more
        · simp at bound
          omega
        · exact more
      rw [encodeRemainingLength_large (by omega)]
      simpa using ih next more

theorem parsePacket_frame_iff (header : UInt8) (n : Nat) (bound : n < 128 ^ 4)
    (body : List UInt8) (packet : Packet) :
    parsePacket (header :: (encodeRemainingLength n ++ body)) = some (packet, []) ↔
      n = body.length ∧ parseBody (header.toNat / 16) (header.toNat % 16) body = some packet := by
  rw [parsePacket, parseFrame, decode_encodeRemainingLength 4 n bound (by decide)]
  simp only [Option.bind_eq_bind, Option.bind_some, Option.pure_def]
  by_cases enough : n ≤ body.length
  · rw [if_pos enough, Option.bind_some]
    simp only [Option.bind_eq_some_iff, Option.some.injEq, Prod.mk.injEq, List.drop_eq_nil_iff]
    constructor
    · rintro ⟨parsed, found, rfl, all⟩
      have same : n = body.length := by omega
      exact ⟨same, by rwa [List.take_of_length_le all] at found⟩
    · rintro ⟨same, found⟩
      have all : body.length ≤ n := by omega
      exact ⟨packet, by rwa [List.take_of_length_le all], rfl, all⟩
  · rw [if_neg enough]
    simp only [Option.bind_none, reduceCtorEq, false_iff, not_and]
    intro same
    omega

theorem parseWord_length {bytes rest : List UInt8} {n : UInt16}
    (parsed : parseWord bytes = some (n, rest)) : bytes.length = 2 + rest.length := by
  match bytes, parsed with
  | high :: low :: tail, parsed =>
    obtain ⟨-, rfl⟩ := Prod.mk.inj (Option.some.inj parsed)
    simp
    omega

theorem parseString_length {bytes text rest : List UInt8}
    (parsed : parseString bytes = some (text, rest)) :
    bytes.length = 2 + text.length + rest.length := by
  unfold parseString at parsed
  obtain ⟨⟨count, tail⟩, word, found⟩ := Option.bind_eq_some_iff.mp parsed
  have front := parseWord_length word
  dsimp only at found
  split at found
  case isTrue enough =>
    obtain ⟨rfl, rfl⟩ := Prod.mk.inj (Option.some.inj found)
    simp only [List.length_take, List.length_drop]
    omega
  case isFalse => simp at found

theorem parseOptionalString_length {flag : Bool} {bytes rest : List UInt8}
    {text : Option (List UInt8)} (parsed : parseOptionalString flag bytes = some (text, rest)) :
    bytes.length = (text.map fun t => 2 + t.length).getD 0 + rest.length := by
  unfold parseOptionalString at parsed
  cases flag with
  | false =>
    obtain ⟨rfl, rfl⟩ := Prod.mk.inj (Option.some.inj parsed)
    simp
  | true =>
    obtain ⟨⟨found, tail⟩, string, same⟩ := Option.map_eq_some_iff.mp parsed
    obtain ⟨rfl, rfl⟩ := Prod.mk.inj same
    simpa using parseString_length string

theorem parseWill_length {present retain : Bool} {qos : Nat} {bytes rest : List UInt8}
    {will : Option Will} (parsed : parseWill present qos retain bytes = some (will, rest)) :
    rest.length ≤ bytes.length := by
  unfold parseWill at parsed
  cases present with
  | false =>
    simp only [Bool.false_eq_true, if_false] at parsed
    split at parsed
    · obtain ⟨-, rfl⟩ := Prod.mk.inj (Option.some.inj parsed)
      exact Nat.le_refl _
    · simp at parsed
  | true =>
    simp only [if_true] at parsed
    obtain ⟨⟨topic, tail⟩, first, parsed⟩ := Option.bind_eq_some_iff.mp parsed
    obtain ⟨⟨message, tail'⟩, second, parsed⟩ := Option.bind_eq_some_iff.mp parsed
    have front := parseString_length first
    have back := parseString_length second
    dsimp only at parsed front back
    split at parsed
    · obtain ⟨-, rfl⟩ := Prod.mk.inj (Option.some.inj parsed)
      omega
    · simp at parsed

theorem parseConnect_length {body : List UInt8} {packet : Connect}
    (parsed : parseConnect body = some packet) :
    12 + packet.clientId.length + (packet.username.map fun t => 2 + t.length).getD 0 +
      (packet.password.map fun t => 2 + t.length).getD 0 ≤ body.length := by
  unfold parseConnect at parsed
  obtain ⟨⟨name, tail⟩, first, parsed⟩ := Option.bind_eq_some_iff.mp parsed
  have nameLength := parseString_length first
  match tail, parsed with
  | [], parsed => simp at parsed
  | [_], parsed => simp at parsed
  | level :: flags :: tail, parsed =>
    dsimp only at parsed
    split at parsed
    case isTrue => simp at parsed
    case isFalse valid =>
      obtain ⟨⟨keepAlive, tail1⟩, second, parsed⟩ := Option.bind_eq_some_iff.mp parsed
      obtain ⟨⟨clientId, tail2⟩, third, parsed⟩ := Option.bind_eq_some_iff.mp parsed
      obtain ⟨⟨will, tail3⟩, fourth, parsed⟩ := Option.bind_eq_some_iff.mp parsed
      obtain ⟨⟨username, tail4⟩, fifth, parsed⟩ := Option.bind_eq_some_iff.mp parsed
      obtain ⟨⟨password, tail5⟩, sixth, parsed⟩ := Option.bind_eq_some_iff.mp parsed
      have keepAliveLength := parseWord_length second
      have clientIdLength := parseString_length third
      have willLength := parseWill_length fourth
      have usernameLength := parseOptionalString_length fifth
      have passwordLength := parseOptionalString_length sixth
      dsimp only at *
      have same : name = protocolName := by
        by_contra differ
        exact valid (.inl differ)
      have four : name.length = 4 := by rw [same]; rfl
      split at parsed
      · obtain rfl := Option.some.inj parsed
        simp only [List.length_cons] at nameLength
        simp only
        omega
      · simp at parsed

theorem parseFilters_length {limit : Nat} {bytes : List UInt8}
    {filters : List (List UInt8 × UInt8)} (parsed : parseFilters limit bytes = some filters) :
    bytes.length = (filters.map fun f => 3 + f.1.length).sum := by
  induction limit generalizing bytes filters with
  | zero =>
    cases bytes with
    | nil => obtain rfl := Option.some.inj parsed; rfl
    | cons => simp [parseFilters] at parsed
  | succ limit ih =>
    cases bytes with
    | nil => obtain rfl := Option.some.inj parsed; rfl
    | cons byte bytes =>
      unfold parseFilters at parsed
      obtain ⟨⟨topic, tail⟩, first, parsed⟩ := Option.bind_eq_some_iff.mp parsed
      have topicLength := parseString_length first
      match tail, parsed with
      | [], parsed => simp at parsed
      | qos :: tail, parsed =>
        obtain ⟨others, second, parsed⟩ := Option.bind_eq_some_iff.mp parsed
        obtain rfl := Option.some.inj parsed
        have rest := ih second
        simp only [List.length_cons, List.map_cons, List.sum_cons] at topicLength ⊢
        omega

theorem parseSubscribe_length {body : List UInt8} {packet : Subscribe}
    (parsed : parseSubscribe body = some packet) :
    body.length = 2 + (packet.filters.map fun f => 3 + f.1.length).sum := by
  unfold parseSubscribe at parsed
  obtain ⟨⟨identifier, tail⟩, first, parsed⟩ := Option.bind_eq_some_iff.mp parsed
  obtain ⟨filters, second, parsed⟩ := Option.bind_eq_some_iff.mp parsed
  have front := parseWord_length first
  have back := parseFilters_length second
  split at parsed
  · simp at parsed
  · obtain rfl := Option.some.inj parsed
    exact front.trans (by rw [back])

theorem parsePublish_length {flags : Nat} {body : List UInt8} {packet : Publish}
    (parsed : parsePublish flags body = some packet) :
    flags / 2 % 4 ≠ 3 ∧ (∃ rest, parseString body = some (packet.topic, rest)) ∧
      body.length = 2 + packet.topic.length + (if flags / 2 % 4 = 0 then 0 else 2) +
        packet.payload.length := by
  unfold parsePublish at parsed
  dsimp only at parsed
  split at parsed
  case isTrue => simp at parsed
  case isFalse valid =>
    refine ⟨fun three => valid (.inl three), ?_⟩
    obtain ⟨⟨topic, tail⟩, first, parsed⟩ := Option.bind_eq_some_iff.mp parsed
    have topicLength := parseString_length first
    dsimp only at topicLength parsed
    split at parsed
    case isTrue zero =>
      obtain rfl := Option.some.inj parsed
      exact ⟨⟨tail, first⟩, by simp only [zero, if_true]; omega⟩
    case isFalse some =>
      obtain ⟨⟨identifier, payload⟩, second, parsed⟩ := Option.bind_eq_some_iff.mp parsed
      have identifierLength := parseWord_length second
      obtain rfl := Option.some.inj parsed
      exact ⟨⟨tail, first⟩, by simp only [some, if_false]; omega⟩

end MqttGrammar
