import AvrVoiceControl.Base64Decoding

set_option autoImplicit false

namespace AvrVoiceControl.Atca

open CString FlatMemory

abbrev sigSize : Nat := 64
abbrev digestSize : Nat := 32

/-- The secure element, as far as tokens need it: what it answers, if it does. -/
structure Device where
  sha256 : List UInt8 -> Option (List UInt8)
  sign : Nat -> List UInt8 -> Option (List UInt8)
  pubkey : Nat -> Option (List UInt8)
  sha256_length : ∀ message digest, sha256 message = some digest -> digest.length = digestSize
  sign_length : ∀ key digest signature, sign key digest = some signature ->
    signature.length = sigSize
  pubkey_length : ∀ key point, pubkey key = some point -> point.length = 64

def jwtHeader : List UInt8 := ascii "\x7b\"alg\":\"ES256\",\"typ\":\"JWT\"\x7d".toList

/-- The buffer of a token and how far it is written. -/
structure Jwt where
  memory : Nat -> UInt8
  buf : Nat
  buflen : Nat
  cur : Nat

def snprintf (memory : Nat -> UInt8) (place size : Nat) (text : List UInt8) :
    (Nat -> UInt8) × Nat :=
  (if size = 0 then memory else fill memory place (text.take (size - 1) ++ [0]), text.length)

def longText (value : Int) : List UInt8 :=
  if value < 0 then 45 :: ascii (Nat.toDigits 10 value.natAbs)
  else ascii (Nat.toDigits 10 value.natAbs)

namespace Jwt

def put (jwt : Jwt) (c : UInt8) : Jwt :=
  { jwt with memory := Function.update jwt.memory (jwt.buf + jwt.cur) c, cur := jwt.cur + 1 }

def checkPayloadStart (jwt : Jwt) : Jwt :=
  if 0 < jwt.cur ∧ jwt.cur < jwt.buflen - 1 then
    let c := jwt.memory (jwt.buf + (jwt.cur - 1))
    if c = 46 then jwt.put openBrace
    else if c ≠ openBrace then jwt.put comma
    else jwt
  else jwt

def init (memory : Nat -> UInt8) (header buf buflen : Nat) : AtcaStatus × Jwt :=
  if buflen = 0 then (.badParam, ⟨memory, buf, buflen, 0⟩)
  else
    match base64encode b64rulesUrlsafe header jwtHeader.length buf memory buflen with
    | (.success, encoded, size) =>
      let jwt : Jwt := ⟨encoded, buf, buflen, size⟩
      if size < buflen - 1 then (.success, jwt.put 46) else (.invalidSize, jwt)
    | (status, encoded, _) => (status, ⟨encoded, buf, buflen, 0⟩)

def addClaim (jwt : Jwt) (text : List UInt8) : AtcaStatus × Jwt :=
  let started := jwt.checkPayloadStart
  let remaining := started.buflen - started.cur
  let (memory, written) := snprintf started.memory (started.buf + started.cur) remaining text
  if 0 < written ∧ written < remaining then
    (.success, { started with memory := memory, cur := started.cur + written })
  else (.genFail, { started with memory := memory })

def quoted (text : List UInt8) : List UInt8 := quote :: text ++ [quote]

def addClaimString (jwt : Jwt) (claim value : List UInt8) : AtcaStatus × Jwt :=
  jwt.addClaim (quoted claim ++ colon :: quoted value)

def addClaimNumeric (jwt : Jwt) (claim : List UInt8) (value : Int32) : AtcaStatus × Jwt :=
  jwt.addClaim (quoted claim ++ colon :: longText value.toInt)

/-- The index behind the first `'.'` of the buffer, or `cur` where there is none. -/
def payloadStart (jwt : Jwt) : Nat :=
  let before := (block jwt.memory jwt.buf jwt.cur).takeWhile (· ≠ 46)
  if before.length < jwt.cur then before.length + 1 else jwt.cur

/-- What `atca_jwt_finalize` needs of the buffer, in the 16 bits of a `size_t`. -/
def remNeeded (payload : Nat) : Nat := ((payload + sigSize) * 4 % 65536 / 3 + 3) % 65536

/-- The end of `atca_jwt_finalize`, where the payload is text. -/
def finalizeSignature (device : Device) (jwt : Jwt) (keyId : Nat) : AtcaStatus × Jwt :=
  if (jwt.buflen + 65536 - 88) % 65536 ≤ jwt.cur then (.invalidSize, jwt)
  else
    match device.sha256 (block jwt.memory jwt.buf jwt.cur) with
    | none => (.genFail, jwt)
    | some digest =>
      let digested := fill jwt.memory (jwt.buf + jwt.buflen - 32) digest
      match device.sign keyId
          (block digested (jwt.buf + jwt.buflen - digestSize) digestSize) with
      | none => (.genFail, { jwt with memory := digested })
      | some signature =>
        let signed := { jwt with
          memory := fill digested (jwt.buf + jwt.buflen - 64) signature }
        let dotted := signed.put 46
        -- The status of this call is not looked at.
        let (_, last, size) := base64encode b64rulesUrlsafe
          (dotted.buf + dotted.buflen - sigSize) sigSize (dotted.buf + dotted.cur)
          dotted.memory (dotted.buflen - dotted.cur)
        let complete := { dotted with memory := last, cur := dotted.cur + size }
        if complete.buflen ≤ complete.cur then (.invalidSize, complete)
        else
          (.success, { complete with
            memory := Function.update complete.memory (complete.buf + complete.cur) 0 })

def finalize (device : Device) (jwt : Jwt) (keyId : Nat) : AtcaStatus × Jwt :=
  if jwt.buflen = 0 ∨ jwt.cur = 0 then (.badParam, jwt)
  else
    let closed := if jwt.memory (jwt.buf + (jwt.cur - 1)) ≠ closeBrace then jwt.put closeBrace else jwt
    let i := closed.payloadStart
    let rem := closed.cur - i
    if closed.buflen - closed.cur < remNeeded rem then (.invalidSize, closed)
    else
      -- Move the payload to make room for the encoding.
      let source := closed.buf + closed.buflen - closed.cur
      let moved := fill closed.memory source (block closed.memory (closed.buf + i) rem)
      match base64encode b64rulesUrlsafe source rem (closed.buf + i) moved closed.buflen with
      | (.success, encoded, size) =>
        finalizeSignature device { closed with memory := encoded, cur := i + size } keyId
      | (status, encoded, _) => (status, { closed with memory := encoded })

end Jwt

/-- `atca_jwt_verify` of a string. Without two dots it goes astray, since `strchr(..) + 1` is no NULL,
and a signature of fewer bytes leaves the rest of its array to chance. -/
def jwtVerify (device : Device)
    (verifyExtern : List UInt8 -> List UInt8 -> List UInt8 -> Option Bool)
    (token pubkey : List UInt8) : Option AtcaStatus :=
  match token.dropWhile (· ≠ 46) with
  | [] => none
  | _ :: behindHeader =>
    match behindHeader.dropWhile (· ≠ 46) with
    | [] => none
    | _ :: encoded =>
      match base64decode b64rulesUrlsafe encoded sigSize with
      | (.success, signature) =>
        if signature.length ≠ sigSize then none
        else
          match device.sha256 (token.take (token.length - encoded.length - 1)) with
          | none => some .genFail
          | some digest =>
            match verifyExtern digest signature pubkey with
            | none => some .genFail
            | some verified => some (if verified then .success else .checkmacVerifyFailed)
      | (status, _) => some status

inductive ClientStatus
  | noError
  | error
  deriving DecidableEq

/-- `if (ATCA_SUCCESS != result) return ERROR;` before the rest of a function, and the memory that
it leaves. -/
def orError (result : AtcaStatus × Jwt) (next : Jwt -> ClientStatus × (Nat -> UInt8)) :
    ClientStatus × (Nat -> UInt8) :=
  match result with
  | (.success, jwt) => next jwt
  | (_, jwt) => (.error, jwt.memory)

def createJWT (device : Device) (cryptoDeviceInitialized : Bool) (memory : Nat -> UInt8)
    (header buf buflen : Nat) (ts : UInt32) (projectId : List UInt8) :
    ClientStatus × (Nat -> UInt8) :=
  if ¬cryptoDeviceInitialized then (.error, memory)
  else if buflen = 0 then (.noError, memory)
  else
    orError (Jwt.init memory header buf buflen) fun jwt =>
    orError (jwt.addClaimNumeric (ascii "iat".toList) ts.toInt32) fun jwt =>
    orError (jwt.addClaimNumeric (ascii "exp".toList) (ts + 60 * 60).toInt32) fun jwt =>
    orError (jwt.addClaimString (ascii "aud".toList) projectId) fun jwt =>
    orError (jwt.finalize device 0) fun jwt => (.noError, jwt.memory)

def publicKeyX509Header : List UInt8 :=
  [0x30, 0x59, 0x30, 0x13, 0x06, 0x07, 0x2A, 0x86,
    0x48, 0xCE, 0x3D, 0x02, 0x01, 0x06, 0x08, 0x2A,
    0x86, 0x48, 0xCE, 0x3D, 0x03, 0x01, 0x07, 0x03,
    0x42, 0x00, 0x04]

def pemText (body : List UInt8) : List UInt8 :=
  ascii "-----BEGIN PUBLIC KEY-----\r\n".toList ++ body ++
    ascii "\r\n-----END PUBLIC KEY-----\r\n\x04".toList

/-- `CRYPTO_CLIENT_printPublicKey` with its array `buf` in memory: the string `s`, if it answers
`NO_ERROR`, and the memory that it leaves. -/
def printPublicKey (device : Device) (initialized : Bool) (memory : Nat -> UInt8) (buf : Nat) :
    Option (List UInt8) × (Nat -> UInt8) :=
  if ¬initialized then (none, memory)
  else
    let tmp := buf + 128 - 64 - publicKeyX509Header.length
    let headed := fill memory tmp publicKeyX509Header
    match device.pubkey 0 with
    | none => (none, headed)
    | some point =>
      let keyed := fill headed (tmp + publicKeyX509Header.length) point
      match base64encode b64rulesDefault tmp (64 + publicKeyX509Header.length) buf keyed 128 with
      | (.success, encoded, bufferLen) =>
        let terminated := Function.update encoded (buf + bufferLen) 0
        (some (pemText ((block terminated buf 128).takeWhile (· ≠ 0))), terminated)
      | (_, encoded, _) => (none, encoded)

end AvrVoiceControl.Atca
