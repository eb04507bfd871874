import AvrVoiceControl.CryptoClient

set_option autoImplicit false

namespace AvrVoiceControl.Atca

open Base64 CString FlatMemory

theorem urlsafe_sound : b64rulesUrlsafe.Sound := ⟨by decide, by decide, by decide⟩

theorem urlsafe_readable : b64rulesUrlsafe.Readable :=
  ⟨by decide, by decide, by decide, by decide, by decide⟩

theorem urlsafe_distinct : b64rulesUrlsafe.Distinct := ⟨by decide, by decide, by decide⟩

def urlText (bytes : List UInt8) : List UInt8 :=
  (digits (bytes.map UInt8.toNat)).map (charOf b64rulesUrlsafe)

theorem urlText_length (bytes : List UInt8) :
    (urlText bytes).length = (4 * bytes.length + 2) / 3 := by
  rw [urlText, List.length_map, digits_length, List.length_map]

theorem breakLines_zero (at' : Nat) (text : List UInt8) : breakLines 0 at' text = text := by
  induction text generalizing at' with
  | nil => rfl
  | cons c rest ih => simp [breakLines, ih]

theorem base64Text_urlsafe (bytes : List UInt8) :
    base64Text b64rulesUrlsafe bytes =
      urlText bytes ++ List.replicate ((3 - bytes.length % 3) % 3) 0 :=
  breakLines_zero 0 _

theorem urlText_plain {bytes : List UInt8} {c : UInt8} (member : c ∈ urlText bytes) :
    c ≠ 0 ∧ c ≠ 46 := by
  have all : ∀ digit : Fin 64, charOf b64rulesUrlsafe digit ≠ 0 ∧ charOf b64rulesUrlsafe digit ≠ 46 := by
    decide +kernel
  obtain ⟨digit, inside, rfl⟩ := List.mem_map.mp member
  exact all ⟨digit, digits_bytes_lt bytes digit inside⟩

theorem visible_urlsafe (bytes : List UInt8) :
    visible (base64Text b64rulesUrlsafe bytes) = urlText bytes := by
  have kept : visible (urlText bytes) = urlText bytes := by
    apply List.rdropWhile_eq_self_iff.mpr
    intro some
    simpa using (urlText_plain (List.getLast_mem some)).1
  rw [base64Text_urlsafe]
  generalize (3 - bytes.length % 3) % 3 = count
  induction count with
  | zero => simpa using kept
  | succ count ih =>
    rw [List.replicate_succ', ← List.append_assoc, visible, List.rdropWhile_concat_pos _ _ _ (by simp)]
    exact ih

theorem orError_success {result : AtcaStatus × Jwt} {jwt : Jwt} (success : result = (.success, jwt))
    (next : Jwt -> ClientStatus × (Nat -> UInt8)) : orError result next = next jwt := by
  rw [success, orError]

def Confined (memory : Nat -> UInt8) (buf buflen : Nat) (other : Nat -> UInt8) : Prop :=
  ∀ place, place < buf ∨ buf + buflen ≤ place -> other place = memory place

theorem orError_confined {memory : Nat -> UInt8} {buf buflen : Nat} {result : AtcaStatus × Jwt}
    (failed : result.1 ≠ .success) (confined : Confined memory buf buflen result.2.memory)
    (next : Jwt -> ClientStatus × (Nat -> UInt8)) :
    (orError result next).1 = .error ∧ Confined memory buf buflen (orError result next).2 := by
  obtain ⟨status, jwt⟩ := result
  cases status with
  | success => exact absurd rfl failed
  | _ => exact ⟨rfl, confined⟩

/-- The buffer holds a text, and the memory outside of it is as it was. -/
structure Jwt.Holds (memory : Nat -> UInt8) (buf buflen : Nat) (text : List UInt8) (jwt : Jwt) :
    Prop where
  place : jwt.buf = buf
  size : jwt.buflen = buflen
  cur : jwt.cur = text.length
  written : block jwt.memory buf text.length = text
  fits : text.length ≤ buflen
  outside : Confined memory buf buflen jwt.memory

namespace Jwt

variable {memory : Nat -> UInt8} {buf buflen : Nat} {text : List UInt8} {jwt : Jwt}

theorem Holds.extend (holds : Holds memory buf buflen text jwt) {more rest : List UInt8}
    (room : text.length + (more ++ rest).length ≤ buflen) :
    Holds memory buf buflen (text ++ more)
      { jwt with
          memory := fill jwt.memory (buf + text.length) (more ++ rest)
          cur := text.length + more.length } := by
  rw [List.length_append] at room
  refine ⟨holds.place, holds.size, by simp, ?_, by rw [List.length_append]; omega, ?_⟩
  · have added : block (fill jwt.memory (buf + text.length) (more ++ rest))
        (buf + text.length) more.length = more := by
      rw [fill_append, block_fill_outside _ _ _ (.inl (Nat.le_refl _)), block_fill]
    rw [List.length_append, block_add, block_fill_outside _ _ _ (.inl (Nat.le_refl _)),
      holds.written, added]
  · intro place outside
    change fill jwt.memory (buf + text.length) (more ++ rest) place = memory place
    rw [fill_outside _ _ _ (by rw [List.length_append]; omega)]
    exact holds.outside place outside

theorem Holds.put (holds : Holds memory buf buflen text jwt) (c : UInt8)
    (room : text.length < buflen) : Holds memory buf buflen (text ++ [c]) (jwt.put c) := by
  have wrote := @Holds.extend memory buf buflen text jwt holds [c] [] (by simp; omega)
  have same : jwt.put c = { jwt with
      memory := fill jwt.memory (buf + text.length) ([c] ++ [])
      cur := text.length + [c].length } := by
    rw [Jwt.put, ← holds.place, ← holds.cur]
    rfl
  rw [same]
  exact wrote

theorem Holds.last {c : UInt8} (holds : Holds memory buf buflen text jwt)
    (last : text.getLast? = some c) : jwt.memory (jwt.buf + (jwt.cur - 1)) = c := by
  obtain ⟨front, rfl⟩ := List.getLast?_eq_some_iff.mp last
  have split := holds.written
  rw [List.length_append, List.length_singleton, block_succ] at split
  have same := (List.append_inj' split rfl).2
  rw [holds.place, holds.cur, List.length_append, List.length_singleton, Nat.add_sub_cancel]
  simpa using same

theorem Holds.beside (holds : Holds memory buf buflen text jwt) {offset : Nat}
    {values : List UInt8} (behind : text.length ≤ offset)
    (room : offset + values.length ≤ buflen) :
    Holds memory buf buflen text { jwt with memory := fill jwt.memory (buf + offset) values } := by
  refine ⟨holds.place, holds.size, holds.cur, ?_, holds.fits, ?_⟩
  · rw [block_fill_outside _ _ _ (.inl (by omega))]
    exact holds.written
  · intro place outside
    change fill jwt.memory (buf + offset) values place = memory place
    rw [fill_outside _ _ _ (by omega)]
    exact holds.outside place outside

def separator (last : UInt8) : UInt8 := if last = 46 then openBrace else comma

theorem checkPayloadStart_holds {c : UInt8} (holds : Holds memory buf buflen text jwt)
    (last : text.getLast? = some c) (inside : c ≠ openBrace) (room : text.length + 1 < buflen) :
    Holds memory buf buflen (text ++ [separator c]) jwt.checkPayloadStart := by
  have positive : 0 < text.length := List.length_pos_iff.mpr (by rintro rfl; simp at last)
  have begun : 0 < jwt.cur ∧ jwt.cur < jwt.buflen - 1 := by
    rw [holds.size, holds.cur]
    omega
  have put := fun c' => holds.put c' (by omega)
  rw [checkPayloadStart, if_pos begun, holds.last last, separator]
  by_cases dot : c = 46
  next =>
    rw [if_pos dot, if_pos dot]
    exact put openBrace
  next =>
    rw [if_neg dot, if_neg dot, if_pos inside]
    exact put comma

theorem addClaim_holds {c : UInt8} (holds : Holds memory buf buflen text jwt)
    (last : text.getLast? = some c) (inside : c ≠ openBrace) {claim : List UInt8}
    (some : claim ≠ []) (room : text.length + 1 + claim.length < buflen) :
    ∃ next, jwt.addClaim claim = (.success, next) ∧
      Holds memory buf buflen (text ++ [separator c] ++ claim) next := by
  have started := checkPayloadStart_holds holds last inside (by omega)
  have positive : 0 < claim.length := List.length_pos_iff.mpr some
  have length : (text ++ [separator c]).length = text.length + 1 := by simp
  have remaining : jwt.checkPayloadStart.buflen - jwt.checkPayloadStart.cur =
      buflen - (text.length + 1) := by
    rw [started.size, started.cur, length]
  have whole : claim.take (buflen - (text.length + 1) - 1) = claim :=
    List.take_of_length_le (by omega)
  have extended := @Holds.extend memory buf buflen _ _ started claim [0] (by
    rw [length, List.length_append, List.length_singleton]
    omega)
  refine ⟨_, ?_, extended⟩
  rw [addClaim]
  simp only [snprintf, remaining, whole]
  rw [if_pos ⟨positive, by omega⟩, if_neg (by omega), started.place, started.cur]

theorem addClaim_full {c : UInt8} (holds : Holds memory buf buflen text jwt)
    (last : text.getLast? = some c) (inside : c ≠ openBrace) {claim : List UInt8}
    (some : claim ≠ []) (full : buflen ≤ text.length + 1 + claim.length) :
    (jwt.addClaim claim).1 ≠ .success ∧
      Confined memory buf buflen (jwt.addClaim claim).2.memory := by
  have started : ∃ more, more.length ≤ 1 ∧
      buflen ≤ text.length + more.length + claim.length ∧
      Holds memory buf buflen (text ++ more) jwt.checkPayloadStart := by
    by_cases room : text.length + 1 < buflen
    next => exact ⟨[separator c], Nat.le_refl 1, full, checkPayloadStart_holds holds last inside room⟩
    next =>
      have positive : 0 < claim.length := List.length_pos_iff.mpr some
      have same : jwt.checkPayloadStart = jwt := by
        rw [checkPayloadStart, if_neg (by rw [holds.size, holds.cur]; omega)]
      rw [same]
      exact ⟨[], by simp, by simp; omega, by simpa using holds⟩
  obtain ⟨more, few, short, started⟩ := started
  rw [← List.length_append] at short
  have refused : jwt.addClaim claim = (.genFail, { jwt.checkPayloadStart with
      memory := (snprintf jwt.checkPayloadStart.memory (buf + (text ++ more).length)
        (buflen - (text ++ more).length) claim).1 }) := by
    have unfit : ¬(0 < claim.length ∧ claim.length < jwt.checkPayloadStart.buflen -
        jwt.checkPayloadStart.cur) := by
      rw [started.size, started.cur]
      omega
    rw [← started.place, ← started.cur, ← started.size, addClaim]
    exact if_neg unfit
  rw [refused]
  refine ⟨by simp, ?_⟩
  have fits := started.fits
  rw [snprintf]
  by_cases none : buflen - (text ++ more).length = 0
  next =>
    simp only [if_pos none]
    exact started.outside
  next =>
    simp only [if_neg none]
    exact (started.beside (Nat.le_refl _) (by
      rw [@List.length_append _ _ [0], List.length_take, List.length_singleton]
      omega)).outside

theorem ended_urlsafe (memory : Nat -> UInt8) (place : Nat) (bytes : List UInt8) :
    ∃ rest, rest.length ≤ (3 - bytes.length % 3) % 3 ∧
      ended memory place (base64Text b64rulesUrlsafe bytes) =
        fill memory place (urlText bytes ++ 0 :: rest) := by
  rw [ended, visible_urlsafe, base64Text_urlsafe]
  cases (3 - bytes.length % 3) % 3 with
  | zero => exact ⟨[], by simp, by rw [List.replicate_zero, List.append_nil, fill_concat]⟩
  | succ count =>
    have null : fill memory place (urlText bytes ++ List.replicate (count + 1) 0)
        (place + (urlText bytes).length) = 0 := by
      rw [fill_append, fill_head]
      rfl
    have same := Function.update_eq_self (place + (urlText bytes).length)
      (fill memory place (urlText bytes ++ List.replicate (count + 1) 0))
    rw [null] at same
    exact ⟨List.replicate count 0, by simp, same⟩

theorem encode_holds {start : Nat -> UInt8} {source size encodedSize : Nat}
    (holds : Holds start buf buflen text jwt)
    (clear : StaysClear b64rulesUrlsafe jwt.memory source size (buf + text.length))
    (fits : base64Length b64rulesUrlsafe size ≤ encodedSize)
    (room : text.length + 4 * ((size + 2) / 3) < buflen) :
    ∃ last, base64encode b64rulesUrlsafe source size (buf + text.length) jwt.memory encodedSize =
        (.success, last, (4 * size + 2) / 3) ∧
      Holds start buf buflen (text ++ urlText (block jwt.memory source size))
        { jwt with memory := last, cur := text.length + (4 * size + 2) / 3 } := by
  have encodes := base64encode_text urlsafe_sound clear fits
  have length : (urlText (block jwt.memory source size)).length = (4 * size + 2) / 3 := by
    rw [urlText_length, block_length]
  refine ⟨ended jwt.memory (buf + text.length)
    (base64Text b64rulesUrlsafe (block jwt.memory source size)), ?_, ?_⟩
  · rw [encodes, visible_urlsafe, length]
  · obtain ⟨rest, few, same⟩ := ended_urlsafe jwt.memory (buf + text.length)
      (block jwt.memory source size)
    rw [block_length] at few
    have extended := @Holds.extend start buf buflen text jwt holds
      (urlText (block jwt.memory source size)) (0 :: rest) (by
        rw [List.length_append, List.length_cons, length]
        omega)
    rw [length] at extended
    rw [same]
    exact extended

theorem Holds.orError_addClaim {c d : UInt8} (holds : Holds memory buf buflen text jwt)
    (last : text.getLast? = some c) (inside : c ≠ openBrace) {claim : List UInt8}
    (ends : claim.getLast? = some d) (next : Jwt -> ClientStatus × (Nat -> UInt8)) :
    (buflen ≤ text.length + 1 + claim.length ∧ (orError (jwt.addClaim claim) next).1 = .error ∧
      Confined memory buf buflen (orError (jwt.addClaim claim) next).2) ∨
    (text.length + 1 + claim.length < buflen ∧
      (text ++ [separator c] ++ claim).getLast? = some d ∧
      ∃ added, orError (jwt.addClaim claim) next = next added ∧
        Holds memory buf buflen (text ++ [separator c] ++ claim) added) := by
  have some : claim ≠ [] := by
    rintro rfl
    simp at ends
  by_cases room : text.length + 1 + claim.length < buflen
  next =>
    obtain ⟨added, success, longer⟩ := addClaim_holds holds last inside some room
    have longerEnds : (text ++ [separator c] ++ claim).getLast? = Option.some d := by
      rw [List.getLast?_append, ends]
      rfl
    exact .inr ⟨room, longerEnds, added, orError_success success next, longer⟩
  next =>
    obtain ⟨failed, confined⟩ := addClaim_full holds last inside some (by omega)
    exact .inl ⟨by omega, orError_confined failed confined next⟩

theorem payloadStart_holds {front payload : List UInt8}
    (holds : Holds memory buf buflen (front ++ 46 :: payload) jwt) (dotless : 46 ∉ front) :
    jwt.payloadStart = front.length + 1 := by
  have plain : ∀ c ∈ front, decide (c ≠ 46) = true := by
    intro c member
    exact decide_eq_true (by rintro rfl; exact dotless member)
  have before : (front ++ 46 :: payload).takeWhile (· ≠ 46) = front := by
    rw [List.takeWhile_append_of_pos plain, List.takeWhile_cons_of_neg (by simp), List.append_nil]
  rw [payloadStart, holds.place, holds.cur, holds.written, before,
    if_pos (by rw [List.length_append, List.length_cons]; omega)]

section Begin

variable {header : Nat} (stored : block memory header jwtHeader.length = jwtHeader)
  (apart : header + jwtHeader.length ≤ buf ∨ buf + buflen ≤ header)

include stored apart

theorem header_holds (room : 37 ≤ buflen) :
    ∃ last, base64encode b64rulesUrlsafe header jwtHeader.length buf memory buflen =
        (.success, last, 36) ∧
      Holds memory buf buflen (urlText jwtHeader) ⟨last, buf, buflen, 36⟩ := by
  have length : jwtHeader.length = 27 := rfl
  have empty : Holds memory buf buflen [] ⟨memory, buf, buflen, 0⟩ :=
    ⟨rfl, rfl, rfl, rfl, Nat.zero_le _, fun _ _ => rfl⟩
  have clear : StaysClear b64rulesUrlsafe memory header jwtHeader.length buf := by
    rcases apart with below | above
    · exact staysClear_behind below
    · apply staysClear_ahead
      rw [length]
      change buf + 26 / 3 + 4 + 2 * (_ / 0) ≤ header
      rw [Nat.div_zero]
      omega
  have fits : base64Length b64rulesUrlsafe jwtHeader.length ≤ buflen := room
  obtain ⟨last, encodes, holds⟩ := @encode_holds buf buflen [] _ memory header jwtHeader.length
    buflen empty clear fits (by rw [length]; simp; omega)
  rw [List.nil_append, stored] at holds
  exact ⟨last, encodes, holds⟩

theorem init_holds (room : 38 ≤ buflen) :
    ∃ jwt, init memory header buf buflen = (.success, jwt) ∧
      Holds memory buf buflen (urlText jwtHeader ++ [46]) jwt := by
  obtain ⟨last, encodes, holds⟩ := header_holds stored apart (by omega)
  have length : (urlText jwtHeader).length = 36 := urlText_length jwtHeader
  refine ⟨_, ?_, holds.put 46 (by omega)⟩
  rw [init, if_neg (by omega), encodes]
  exact if_pos (by omega)

theorem init_full (positive : 0 < buflen) (full : buflen < 38) :
    (init memory header buf buflen).1 ≠ .success ∧
      Confined memory buf buflen (init memory header buf buflen).2.memory := by
  by_cases room : 37 ≤ buflen
  next =>
    obtain ⟨last, encodes, holds⟩ := header_holds stored apart room
    have begun : init memory header buf buflen = (.invalidSize, ⟨last, buf, buflen, 36⟩) := by
      rw [init, if_neg (by omega), encodes]
      exact if_neg (by omega)
    rw [begun]
    exact ⟨by simp, holds.outside⟩
  next =>
    have small : base64encode b64rulesUrlsafe header jwtHeader.length buf memory buflen =
        (.smallBuffer, memory, buflen) := by
      rw [base64encode, if_neg (by simp [b64rulesUrlsafe])]
      exact if_pos (by change buflen < 37; omega)
    have begun : init memory header buf buflen = (.smallBuffer, ⟨memory, buf, buflen, 0⟩) := by
      rw [init, if_neg (by omega), small]
    rw [begun]
    exact ⟨by simp, fun _ _ => rfl⟩

end Begin

theorem remNeeded_small {payload : Nat} (small : payload < 16320) :
    remNeeded payload = 4 * (payload + sigSize) / 3 + 3 := by
  have size : sigSize = 64 := rfl
  rw [remNeeded, Nat.mul_comm, Nat.mod_eq_of_lt (by omega), Nat.mod_eq_of_lt (by omega)]

theorem base64Length_urlsafe {size : Nat} (small : size < 16320) :
    base64Length b64rulesUrlsafe size = 4 * ((size + 2) / 3) + 1 := by
  have groups : size / 3 + (if size % 3 ≠ 0 then 1 else 0) = (size + 2) / 3 := by
    split <;> omega
  rw [base64Length, groups]
  change ((size + 2) / 3 * 4 % 65536 + 1) % 65536 = _
  omega

/-- What a token takes while its payload is encoded. -/
def Room (front payload : List UInt8) (buflen : Nat) : Prop :=
  front.length + 1 + payload.length + (4 * (payload.length + sigSize) / 3 + 3) ≤ buflen

def message (front payload : List UInt8) : List UInt8 := front ++ 46 :: urlText payload

theorem message_length (front payload : List UInt8) :
    (message front payload).length = front.length + 1 + (4 * payload.length + 2) / 3 := by
  rw [message, List.length_append, List.length_cons, urlText_length]
  omega

section Finalize

variable {front payload : List UInt8} (device : Device) (keyId : Nat)

theorem payload_holds (holds : Holds memory buf buflen (front ++ 46 :: payload) jwt)
    (short : front.length = 36) (some : 2 ≤ payload.length) (small : payload.length < 16320)
    (room : Room front payload buflen) :
    ∃ last, base64encode b64rulesUrlsafe (buf + buflen - jwt.cur) payload.length
        (buf + (front.length + 1))
        (fill jwt.memory (buf + buflen - jwt.cur) payload) buflen =
        (.success, last, (4 * payload.length + 2) / 3) ∧
      Holds memory buf buflen (message front payload)
        { jwt with memory := last, cur := front.length + 1 + (4 * payload.length + 2) / 3 } := by
  have signature : sigSize = 64 := rfl
  rw [Room] at room
  have cur : jwt.cur = front.length + 1 + payload.length := by
    rw [holds.cur, List.length_append, List.length_cons]
    omega
  have place : buf + buflen - jwt.cur = buf + (buflen - jwt.cur) := by omega
  have begun : Holds memory buf buflen (front ++ [46])
      { jwt with memory := jwt.memory, cur := front.length + 1 } := by
    refine ⟨holds.place, holds.size, by simp, ?_, by simp; omega, holds.outside⟩
    have whole := holds.written
    have split : front ++ 46 :: payload = (front ++ [46]) ++ payload := by simp
    rw [split, @List.length_append _ (front ++ [46]), block_add] at whole
    exact (List.append_inj whole (block_length _ _ _)).1
  have moved := @Holds.beside memory buf buflen _ _ begun (buflen - jwt.cur) payload
    (by simp; omega) (by omega)
  have clear : StaysClear b64rulesUrlsafe
      (fill jwt.memory (buf + (buflen - jwt.cur)) payload)
      (buf + (buflen - jwt.cur)) payload.length (buf + (front ++ [46]).length) := by
    apply staysClear_ahead
    change _ + _ + 2 * (_ / 0) ≤ _
    rw [Nat.div_zero, List.length_append, List.length_singleton]
    omega
  have fits : base64Length b64rulesUrlsafe payload.length ≤ buflen := by
    rw [base64Length_urlsafe small]
    omega
  obtain ⟨last, encodes, encoded⟩ := encode_holds moved clear fits
    (by rw [List.length_append, List.length_singleton]; omega)
  rw [block_fill, List.append_assoc] at encoded
  rw [List.length_append, List.length_singleton] at encodes encoded
  rw [place]
  exact ⟨last, encodes, encoded⟩

theorem digested_holds {text digest : List UInt8} (holds : Holds memory buf buflen text jwt)
    (room : text.length + 90 ≤ buflen) (hashed : device.sha256 text = some digest) :
    Holds memory buf buflen text
      { jwt with memory := fill jwt.memory (buf + (buflen - 32)) digest } ∧
    block (fill jwt.memory (buf + (buflen - 32)) digest) (buf + (buflen - 32)) digestSize =
      digest := by
  have length := device.sha256_length text digest hashed
  have wide : digestSize = 32 := rfl
  constructor
  · exact holds.beside (by omega) (by omega)
  · rw [← length, block_fill]

theorem finalizeSignature_refused {text : List UInt8}
    (holds : Holds memory buf buflen text jwt) (room : text.length + 90 ≤ buflen)
    (refused : ∀ digest, device.sha256 text = some digest -> device.sign keyId digest = none) :
    (jwt.finalizeSignature device keyId).1 ≠ .success ∧
      Confined memory buf buflen (jwt.finalizeSignature device keyId).2.memory := by
  rw [finalizeSignature]
  by_cases full : (jwt.buflen + 65536 - 88) % 65536 ≤ jwt.cur
  next =>
    rw [if_pos full]
    exact ⟨by simp, holds.outside⟩
  next =>
    rw [if_neg full, holds.place, holds.cur, holds.written]
    cases hashed : device.sha256 text with
    | none => exact ⟨by simp, holds.outside⟩
    | some digest =>
      obtain ⟨digested, stored⟩ := digested_holds device holds room hashed
      have place : buf + jwt.buflen - 32 = buf + (buflen - 32) := by
        rw [holds.size]
        omega
      simp only [place, stored, refused digest hashed]
      exact ⟨by simp, digested.outside⟩

theorem signature_holds {text signature : List UInt8} {begun : Nat -> UInt8}
    (holds : Holds memory buf buflen text ⟨begun, buf, buflen, text.length⟩)
    (room : text.length + 90 ≤ buflen)
    (stored : block begun (buf + (buflen - sigSize)) sigSize = signature) :
    ∃ last, base64encode b64rulesUrlsafe (buf + (buflen - sigSize)) sigSize
        (buf + (text.length + 1)) (Function.update begun (buf + text.length) 46)
        (buflen - (text.length + 1)) = (.success, last, 86) ∧
      Holds memory buf buflen (text ++ 46 :: urlText signature)
        ⟨last, buf, buflen, text.length + 1 + 86⟩ := by
  have wide : sigSize = 64 := rfl
  have dotted := holds.put 46 (by omega)
  have kept : block (Function.update begun (buf + text.length) 46) (buf + (buflen - sigSize))
      sigSize = signature := by
    rw [← stored]
    apply block_congr
    intro place low high
    exact Function.update_of_ne (by omega) _ _
  have clear : StaysClear b64rulesUrlsafe (Function.update begun (buf + text.length) 46)
      (buf + (buflen - sigSize)) sigSize (buf + (text ++ [46]).length) := by
    apply staysClear_ahead
    change _ + 63 / 3 + 4 + 2 * (_ / 0) ≤ _
    rw [Nat.div_zero, List.length_append, List.length_singleton]
    omega
  have fits : base64Length b64rulesUrlsafe sigSize ≤ buflen - (text.length + 1) := by
    change 89 ≤ _
    omega
  obtain ⟨last, encodes, encoded⟩ := encode_holds dotted clear fits
    (by rw [List.length_append, List.length_singleton]; omega)
  have joined : text ++ [46] ++ urlText signature = text ++ 46 :: urlText signature := by simp
  rw [List.length_append, List.length_singleton] at encodes encoded
  change Holds memory buf buflen (text ++ [46] ++ urlText (block (Function.update begun
    (buf + text.length) 46) (buf + (buflen - sigSize)) sigSize)) _ at encoded
  rw [kept, joined] at encoded
  exact ⟨last, encodes, encoded⟩

theorem finalizeSignature_holds {text digest signature : List UInt8}
    (holds : Holds memory buf buflen text jwt) (room : text.length + 90 ≤ buflen)
    (small : buflen ≤ 65535) (hashed : device.sha256 text = some digest)
    (signed : device.sign keyId digest = some signature) :
    ∃ last, jwt.finalizeSignature device keyId = (.success, last) ∧
      Holds memory buf buflen (text ++ 46 :: urlText signature ++ [0])
        { last with cur := last.cur + 1 } := by
  obtain ⟨begun, place, size, cur⟩ := jwt
  obtain rfl : buf = place := holds.place.symm
  obtain rfl : buflen = size := holds.size.symm
  obtain rfl : text.length = cur := holds.cur.symm
  obtain ⟨digested, stored⟩ := digested_holds device holds room hashed
  have length := device.sign_length keyId digest signature signed
  have wide : sigSize = 64 := rfl
  have placed := @Holds.beside _ _ _ _ _ digested (buflen - sigSize) signature (by omega)
    (by omega)
  have there := block_fill (fill begun (buf + (buflen - 32)) digest) (buf + (buflen - sigSize))
    signature
  rw [length] at there
  obtain ⟨last, encodes, encoded⟩ := signature_holds placed room there
  have textLength : (urlText signature).length = 86 := by
    rw [urlText_length, length, wide]
  have complete := encoded.put 0 (by
    rw [List.length_append, List.length_cons, textLength]
    omega)
  refine ⟨⟨Function.update last (buf + (text.length + 1 + 86)) 0, buf, buflen,
    text.length + 1 + 86⟩, ?_, complete⟩
  have place32 : buf + buflen - 32 = buf + (buflen - 32) := by omega
  have place64 : buf + buflen - 64 = buf + (buflen - sigSize) := by omega
  have open' : ¬(buflen + 65536 - 88) % 65536 ≤ text.length := by omega
  have written : block begun buf text.length = text := holds.written
  rw [finalizeSignature]
  simp only [Jwt.put, place32, place64, written, hashed, stored, signed, encodes, if_neg open']
  rw [if_neg (by omega)]

section Close

variable {c : UInt8} {claims : List UInt8}
  (holds : Holds memory buf buflen (front ++ 46 :: claims) jwt)
  (last : claims.getLast? = some c) (inside : c ≠ closeBrace)
  (open' : (front ++ 46 :: claims).length < buflen)

include holds last inside open'

theorem close_holds :
    (if jwt.memory (jwt.buf + (jwt.cur - 1)) ≠ closeBrace then jwt.put closeBrace else jwt) =
        jwt.put closeBrace ∧
      Holds memory buf buflen (front ++ 46 :: (claims ++ [closeBrace])) (jwt.put closeBrace) := by
  have ends : (front ++ 46 :: claims).getLast? = some c := by
    rw [List.getLast?_append, List.getLast?_cons, last]
    rfl
  have closed := holds.put closeBrace open'
  constructor
  · rw [holds.last ends, if_pos inside]
  · simpa using closed

theorem finalize_eq (dotless : 46 ∉ front) (short : front.length = 36) (small : buflen ≤ 16356)
    (room : Room front (claims ++ [closeBrace]) buflen) :
    ∃ encoded, jwt.finalize device keyId = encoded.finalizeSignature device keyId ∧
      Holds memory buf buflen (message front (claims ++ [closeBrace])) encoded := by
  obtain ⟨closes, closed⟩ := close_holds holds last inside open'
  have some : claims ≠ [] := by
    rintro rfl
    simp at last
  have positive : 0 < claims.length := List.length_pos_iff.mpr some
  have length : (front ++ 46 :: (claims ++ [closeBrace])).length =
      front.length + 1 + (claims ++ [closeBrace]).length := by
    rw [List.length_append, List.length_cons]
    omega
  have fits := closed.fits
  have longer : (claims ++ [closeBrace]).length = claims.length + 1 := by simp
  obtain ⟨encoded, encodes, message⟩ := payload_holds closed short (by omega) (by omega) room
  have start := payloadStart_holds closed dotless
  have rem : (jwt.put closeBrace).cur - (front.length + 1) = (claims ++ [closeBrace]).length := by
    rw [closed.cur, length]
    omega
  have payload : block (jwt.put closeBrace).memory (buf + (front.length + 1))
      (claims ++ [closeBrace]).length = claims ++ [closeBrace] := by
    have whole := closed.written
    rw [length, List.append_cons front, block_add] at whole
    exact (List.append_inj whole (by rw [block_length]; simp)).2
  have enough : ¬(jwt.put closeBrace).buflen - (jwt.put closeBrace).cur <
      remNeeded (claims ++ [closeBrace]).length := by
    rw [remNeeded_small (by omega), closed.size, closed.cur, length]
    rw [Room] at room
    omega
  have begun : ¬(jwt.buflen = 0 ∨ jwt.cur = 0) := by
    rw [holds.size, holds.cur, List.length_append, List.length_cons]
    omega
  refine ⟨_, ?_, message⟩
  rw [finalize, if_neg begun, closes]
  dsimp only
  rw [start, rem, if_neg enough, closed.place, closed.size, payload, encodes]

theorem finalize_full (dotless : 46 ∉ front) (short : front.length = 36) (small : buflen ≤ 16356)
    (full : ¬Room front (claims ++ [closeBrace]) buflen) :
    (jwt.finalize device keyId).1 ≠ .success ∧
      Confined memory buf buflen (jwt.finalize device keyId).2.memory := by
  obtain ⟨closes, closed⟩ := close_holds holds last inside open'
  have length : (front ++ 46 :: (claims ++ [closeBrace])).length =
      front.length + 1 + (claims ++ [closeBrace]).length := by
    rw [List.length_append, List.length_cons]
    omega
  have fits := closed.fits
  have start := payloadStart_holds closed dotless
  have rem : (jwt.put closeBrace).cur - (front.length + 1) = (claims ++ [closeBrace]).length := by
    rw [closed.cur, length]
    omega
  have few : (jwt.put closeBrace).buflen - (jwt.put closeBrace).cur <
      remNeeded (claims ++ [closeBrace]).length := by
    rw [remNeeded_small (by omega), closed.size, closed.cur, length]
    rw [Room] at full
    omega
  have begun : ¬(jwt.buflen = 0 ∨ jwt.cur = 0) := by
    rw [holds.size, holds.cur, List.length_append, List.length_cons]
    omega
  have refused : jwt.finalize device keyId = (.invalidSize, jwt.put closeBrace) := by
    rw [finalize, if_neg begun, closes]
    dsimp only
    rw [start, rem, if_pos few]
  rw [refused]
  exact ⟨by simp, closed.outside⟩

end Close

end Finalize

end Jwt

theorem longText_last (value : Int) :
    ∃ c, (longText value).getLast? = some c ∧ c ≠ 46 ∧ c ≠ openBrace := by
  have digits : ∀ number, ∃ c, (ascii (Nat.toDigits 10 number)).getLast? = some c ∧
      c ≠ 46 ∧ c ≠ openBrace := by
    intro number
    have some : Nat.toDigits 10 number ≠ [] := Nat.toDigits_ne_nil
    have digit : ((Nat.toDigits 10 number).getLast some).isDigit = true :=
      Nat.isDigit_of_mem_toDigits (by decide) (by decide) (List.getLast_mem some)
    refine ⟨UInt8.ofNat ((Nat.toDigits 10 number).getLast some).toNat, ?_, ?_⟩
    · rw [ascii, List.getLast?_map, List.getLast?_eq_getLast_of_ne_nil some]
      rfl
    · have bounds : 48 ≤ ((Nat.toDigits 10 number).getLast some).toNat ∧
          ((Nat.toDigits 10 number).getLast some).toNat ≤ 57 := by
        simpa [Char.isDigit, UInt32.le_iff_toNat_le] using digit
      generalize ((Nat.toDigits 10 number).getLast some).toNat = code at bounds
      have value : (UInt8.ofNat code).toNat = code := Nat.mod_eq_of_lt (by omega)
      constructor
      · intro dot
        rw [dot] at value
        exact absurd bounds.1 (by rw [← value]; decide)
      · intro brace
        rw [brace] at value
        exact absurd bounds.2 (by rw [← value]; decide)
  obtain ⟨c, last, plain⟩ := digits value.natAbs
  refine ⟨c, ?_, plain⟩
  rw [longText]
  split
  · rw [List.getLast?_cons, last]
    rfl
  · exact last

def iatClaim (ts : UInt32) : List UInt8 :=
  Jwt.quoted (ascii "iat".toList) ++ colon :: longText ts.toInt32.toInt

def expClaim (ts : UInt32) : List UInt8 :=
  Jwt.quoted (ascii "exp".toList) ++ colon :: longText (ts + 60 * 60).toInt32.toInt

def audClaim (projectId : List UInt8) : List UInt8 :=
  Jwt.quoted (ascii "aud".toList) ++ colon :: Jwt.quoted projectId

theorem claim_last {claim value : List UInt8} {c : UInt8} (last : value.getLast? = some c) :
    (Jwt.quoted claim ++ colon :: value).getLast? = some c := by
  rw [List.getLast?_append, List.getLast?_cons, last]
  rfl

theorem iatClaim_last (ts : UInt32) :
    ∃ c, (iatClaim ts).getLast? = some c ∧ c ≠ 46 ∧ c ≠ openBrace := by
  obtain ⟨c, last, plain⟩ := longText_last ts.toInt32.toInt
  exact ⟨c, claim_last last, plain⟩

theorem expClaim_last (ts : UInt32) :
    ∃ c, (expClaim ts).getLast? = some c ∧ c ≠ 46 ∧ c ≠ openBrace := by
  obtain ⟨c, last, plain⟩ := longText_last (ts + 60 * 60).toInt32.toInt
  exact ⟨c, claim_last last, plain⟩

theorem audClaim_last (projectId : List UInt8) : (audClaim projectId).getLast? = some quote :=
  claim_last List.getLast?_concat

def openClaims (ts : UInt32) (projectId : List UInt8) : List UInt8 :=
  openBrace :: iatClaim ts ++ comma :: expClaim ts ++ comma :: audClaim projectId

def payload (ts : UInt32) (projectId : List UInt8) : List UInt8 :=
  openClaims ts projectId ++ [closeBrace]

def signedText (ts : UInt32) (projectId : List UInt8) : List UInt8 :=
  Jwt.message (urlText jwtHeader) (payload ts projectId)

section Create

variable (device : Device) {memory : Nat -> UInt8} {header buf buflen : Nat} (ts : UInt32)
  (projectId : List UInt8) (stored : block memory header jwtHeader.length = jwtHeader)
  (apart : header + jwtHeader.length ≤ buf ∨ buf + buflen ≤ header)

include stored apart

theorem createJWT_claims (positive : 0 < buflen) :
    ((createJWT device true memory header buf buflen ts projectId).1 = .error ∧
      Confined memory buf buflen
        (createJWT device true memory header buf buflen ts projectId).2 ∧
      buflen ≤ 37 + (openClaims ts projectId).length) ∨
    ∃ claimed, createJWT device true memory header buf buflen ts projectId =
        orError (claimed.finalize device 0) (fun jwt => (.noError, jwt.memory)) ∧
      Jwt.Holds memory buf buflen (urlText jwtHeader ++ 46 :: openClaims ts projectId) claimed ∧
      37 + (openClaims ts projectId).length < buflen := by
  have header : (urlText jwtHeader).length = 36 := urlText_length jwtHeader
  rw [createJWT, if_neg (by simp), if_neg (by omega)]
  by_cases room : 38 ≤ buflen
  case neg =>
    obtain ⟨failed, confined⟩ := Jwt.init_full stored apart positive (by omega)
    have error := orError_confined failed confined
    exact .inl ⟨(error _).1, (error _).2, by omega⟩
  obtain ⟨begun, init, holds⟩ := Jwt.init_holds stored apart room
  rw [orError_success init]
  have length : (openClaims ts projectId).length =
      1 + (iatClaim ts).length + (1 + (expClaim ts).length) + (1 + (audClaim projectId).length) := by
    simp [openClaims]
    omega
  have dot : (urlText jwtHeader ++ [46]).getLast? = some 46 := List.getLast?_concat
  obtain ⟨iatEnd, iatLast, iatDot, iatBrace⟩ := iatClaim_last ts
  obtain ⟨expEnd, expLast, expDot, expBrace⟩ := expClaim_last ts
  have iat (jwt : Jwt) : jwt.addClaimNumeric (ascii "iat".toList) ts.toInt32 =
      jwt.addClaim (iatClaim ts) := rfl
  have exp (jwt : Jwt) : jwt.addClaimNumeric (ascii "exp".toList) (ts + 60 * 60).toInt32 =
      jwt.addClaim (expClaim ts) := rfl
  have aud (jwt : Jwt) : jwt.addClaimString (ascii "aud".toList) projectId =
      jwt.addClaim (audClaim projectId) := rfl
  simp only [iat, exp, aud]
  rcases holds.orError_addClaim dot (by decide) iatLast _ with
    ⟨full, failed⟩ | ⟨room, last, issued, success, holds⟩
  next =>
    simp only [List.length_append, List.length_singleton] at full
    exact .inl ⟨failed.1, failed.2, by omega⟩
  rw [success]
  rcases holds.orError_addClaim last iatBrace expLast _ with
    ⟨full, failed⟩ | ⟨room, last, expiring, success, holds⟩
  next =>
    simp only [List.length_append, List.length_singleton] at full
    exact .inl ⟨failed.1, failed.2, by omega⟩
  rw [success]
  rcases holds.orError_addClaim last expBrace (audClaim_last projectId) _ with
    ⟨full, failed⟩ | ⟨room, last, claimed, success, holds⟩
  next =>
    simp only [List.length_append, List.length_singleton] at full
    exact .inl ⟨failed.1, failed.2, by omega⟩
  have whole : urlText jwtHeader ++ [46] ++ [Jwt.separator 46] ++ iatClaim ts ++
      [Jwt.separator iatEnd] ++ expClaim ts ++ [Jwt.separator expEnd] ++ audClaim projectId =
      urlText jwtHeader ++ 46 :: openClaims ts projectId := by
    simp [Jwt.separator, iatDot, expDot, openClaims]
  rw [whole] at holds
  simp only [List.length_append, List.length_singleton] at room
  exact .inr ⟨claimed, success, holds, by omega⟩

/-- What a token takes: room, and a secure element that answers. -/
def Signs (buflen : Nat) : Prop :=
  Jwt.Room (urlText jwtHeader) (payload ts projectId) buflen ∧
    ∃ digest signature, device.sha256 (signedText ts projectId) = some digest ∧
      device.sign 0 digest = some signature

theorem createJWT_cases (positive : 0 < buflen) (small : buflen ≤ 16356) :
    (¬Signs device ts projectId buflen ∧
      (createJWT device true memory header buf buflen ts projectId).1 = .error ∧
      Confined memory buf buflen (createJWT device true memory header buf buflen ts projectId).2) ∨
    ∃ digest signature last, Signs device ts projectId buflen ∧
      device.sha256 (signedText ts projectId) = some digest ∧
      device.sign 0 digest = some signature ∧
      createJWT device true memory header buf buflen ts projectId = (.noError, last) ∧
      block last buf ((signedText ts projectId ++ 46 :: urlText signature).length + 1) =
        signedText ts projectId ++ 46 :: urlText signature ++ [0] ∧
      Confined memory buf buflen last := by
  have headerLength : (urlText jwtHeader).length = 36 := urlText_length jwtHeader
  have dotless : 46 ∉ urlText jwtHeader := fun inside => (urlText_plain inside).2 rfl
  have payloadLength : (payload ts projectId).length = (openClaims ts projectId).length + 1 := by
    rw [payload, List.length_append, List.length_singleton]
  have ends : (openClaims ts projectId).getLast? = some quote := by
    rw [openClaims, List.getLast?_append, List.getLast?_cons, audClaim_last]
    rfl
  have begins : 3 ≤ (openClaims ts projectId).length := by
    simp only [openClaims, List.length_append, List.length_cons]
    omega
  rcases createJWT_claims device ts projectId stored apart positive with
    ⟨error, confined, full⟩ | ⟨claimed, created, holds, fits⟩
  next =>
    refine .inl ⟨?_, error, confined⟩
    rintro ⟨room, _⟩
    rw [Jwt.Room] at room
    omega
  rw [created]
  have open' : (urlText jwtHeader ++ 46 :: openClaims ts projectId).length < buflen := by
    rw [List.length_append, List.length_cons]
    omega
  by_cases room : Jwt.Room (urlText jwtHeader) (payload ts projectId) buflen
  case neg =>
    obtain ⟨failed, confined⟩ := Jwt.finalize_full device 0 holds ends (by decide) open' dotless
      headerLength small room
    exact .inl ⟨fun signs => room signs.1, orError_confined failed confined _⟩
  obtain ⟨encoded, finalizes, text⟩ := Jwt.finalize_eq device 0 holds ends (by decide) open' dotless
    headerLength small room
  change Jwt.Holds memory buf buflen (signedText ts projectId) encoded at text
  have tail : (signedText ts projectId).length + 90 ≤ buflen := by
    have size : sigSize = 64 := rfl
    rw [signedText, Jwt.message_length, payloadLength]
    rw [Jwt.Room, payloadLength] at room
    omega
  rw [finalizes]
  by_cases answers : ∃ digest signature, device.sha256 (signedText ts projectId) = some digest ∧
      device.sign 0 digest = some signature
  case neg =>
    have refused : ∀ digest, device.sha256 (signedText ts projectId) = some digest ->
        device.sign 0 digest = none := by
      intro digest hashed
      apply Option.eq_none_iff_forall_ne_some.mpr
      intro signature signed
      exact answers ⟨digest, signature, hashed, signed⟩
    obtain ⟨failed, confined⟩ := Jwt.finalizeSignature_refused device 0 text tail refused
    exact .inl ⟨fun signs => answers signs.2, orError_confined failed confined _⟩
  obtain ⟨digest, signature, hashed, signed⟩ := answers
  obtain ⟨last, success, token⟩ := Jwt.finalizeSignature_holds device 0 text tail (by omega)
    hashed signed
  rw [orError_success success]
  refine .inr ⟨digest, signature, last.memory, ⟨room, digest, signature, hashed, signed⟩, hashed,
    signed, rfl, ?_, token.outside⟩
  have written := token.written
  rw [@List.length_append _ _ [0]] at written
  exact written

theorem createJWT_noError_iff (cryptoDeviceInitialized : Bool) (small : buflen ≤ 16356) :
    ((createJWT device cryptoDeviceInitialized memory header buf buflen ts projectId).1 = .noError ↔
      cryptoDeviceInitialized = true ∧ (buflen = 0 ∨ Signs device ts projectId buflen)) ∧
    Confined memory buf buflen
      (createJWT device cryptoDeviceInitialized memory header buf buflen ts projectId).2 := by
  cases cryptoDeviceInitialized with
  | false => exact ⟨by simp [createJWT], fun _ _ => rfl⟩
  | true =>
    rcases Nat.eq_zero_or_pos buflen with none | positive
    next =>
      have untouched : createJWT device true memory header buf buflen ts projectId =
          (.noError, memory) := by simp [createJWT, none]
      rw [untouched]
      exact ⟨by simp [none], fun _ _ => rfl⟩
    next =>
      rcases createJWT_cases device ts projectId stored apart positive small with
        ⟨refused, error, confined⟩ | ⟨_, _, last, signs, _, _, created, _, confined⟩
      · exact ⟨by simp [error, refused, positive.ne'], confined⟩
      · rw [created]
        exact ⟨by simp [signs], confined⟩

end Create

/-- A secure element whose digest repeats the sum of the message and whose signature repeats the
digest. -/
def summingDevice : Device where
  sha256 message := some (List.replicate digestSize message.sum)
  sign _ digest := if digest.length = digestSize then some (digest ++ digest) else none
  pubkey _ := some (List.replicate 64 4)
  sha256_length _ _ answer := by
    cases answer
    exact List.length_replicate
  sign_length _ digest _ answer := by
    split at answer
    next length =>
      cases answer
      rw [List.length_append, length]
      rfl
    next => cases answer
  pubkey_length _ _ answer := by
    cases answer
    exact List.length_replicate

def headerMemory (place : Nat) : UInt8 := jwtHeader.getD place 0

theorem summingDevice_signs :
    Signs summingDevice 1500000000 (ascii "avr-iot".toList) 456 := by
  have signed (byte : UInt8) : summingDevice.sign 0 (List.replicate digestSize byte) =
      some (List.replicate digestSize byte ++ List.replicate digestSize byte) := by
    simp [summingDevice]
  refine ⟨?_, _, _, rfl, signed _⟩
  rw [Jwt.Room]
  decide +kernel

theorem createJWT_noError_iff_password :
    (createJWT summingDevice true headerMemory 0 100 456 1500000000
      (ascii "avr-iot".toList)).1 = .noError :=
  (createJWT_noError_iff summingDevice 1500000000 (ascii "avr-iot".toList) (by decide +kernel)
    (.inl (by decide)) true (by decide)).1.mpr ⟨rfl, .inr summingDevice_signs⟩

theorem urlText_decodes (bytes : List UInt8) {size : Nat} (room : bytes.length ≤ size) :
    base64decode b64rulesUrlsafe (urlText bytes) size = (.success, bytes) := by
  rw [← visible_urlsafe]
  exact base64decode_visible urlsafe_sound urlsafe_readable urlsafe_distinct bytes room

theorem dropWhile_urlText (bytes behind : List UInt8) :
    (urlText bytes ++ 46 :: behind).dropWhile (· ≠ 46) = 46 :: behind := by
  have plain : ∀ c ∈ urlText bytes, decide (c ≠ 46) = true := by
    intro c member
    exact decide_eq_true (urlText_plain member).2
  rw [List.dropWhile_append_of_pos plain, List.dropWhile_cons_of_neg (by simp)]

theorem createJWT_verifies {device : Device} {memory last : Nat -> UInt8} {header buf buflen : Nat}
    {ts : UInt32} {projectId pubkey : List UInt8} {cryptoDeviceInitialized : Bool}
    {verifyExtern : List UInt8 -> List UInt8 -> List UInt8 -> Option Bool}
    (stored : block memory header jwtHeader.length = jwtHeader)
    (apart : header + jwtHeader.length ≤ buf ∨ buf + buflen ≤ header)
    (positive : 0 < buflen) (small : buflen ≤ 16356)
    (accepts : ∀ digest signature, device.sign 0 digest = some signature ->
      verifyExtern digest signature pubkey = some true)
    (created : createJWT device cryptoDeviceInitialized memory header buf buflen ts projectId =
      (.noError, last)) :
    ∃ digest signature,
      device.sha256 (signedText ts projectId) = some digest ∧
      device.sign 0 digest = some signature ∧
      block last buf ((signedText ts projectId ++ 46 :: urlText signature).length + 1) =
        signedText ts projectId ++ 46 :: urlText signature ++ [0] ∧
      jwtVerify device verifyExtern (signedText ts projectId ++ 46 :: urlText signature) pubkey =
        some .success := by
  cases cryptoDeviceInitialized with
  | false => simp [createJWT] at created
  | true =>
    rcases createJWT_cases device ts projectId stored apart positive small with
      ⟨_, error, _⟩ | ⟨digest, signature, token, _, hashed, signed, same, written, _⟩
    next =>
      rw [created] at error
      cases error
    rw [created] at same
    cases same
    refine ⟨digest, signature, hashed, signed, written, ?_⟩
    have behindHeader : (signedText ts projectId ++ 46 :: urlText signature).dropWhile (· ≠ 46) =
        46 :: (urlText (payload ts projectId) ++ 46 :: urlText signature) := by
      rw [signedText, Jwt.message, List.append_assoc, List.cons_append, dropWhile_urlText]
    have front : (signedText ts projectId ++ 46 :: urlText signature).take
        ((signedText ts projectId ++ 46 :: urlText signature).length -
          (urlText signature).length - 1) = signedText ts projectId :=
      List.take_left' (by rw [List.length_append, List.length_cons]; omega)
    have length := device.sign_length 0 digest signature signed
    have decoded : base64decode b64rulesUrlsafe (urlText signature) sigSize =
        (.success, signature) := urlText_decodes signature (Nat.le_of_eq length)
    rw [jwtVerify, behindHeader]
    simp only [dropWhile_urlText, decoded, front, hashed]
    simp [length, accepts digest signature signed]

theorem createJWT_verifies_password :
    ∃ last, createJWT summingDevice true headerMemory 0 100 456 1500000000
        (ascii "avr-iot".toList) = (.noError, last) ∧
      ∃ digest signature,
        summingDevice.sha256 (signedText 1500000000 (ascii "avr-iot".toList)) = some digest ∧
        summingDevice.sign 0 digest = some signature ∧
        block last 100 ((signedText 1500000000 (ascii "avr-iot".toList) ++
            46 :: urlText signature).length + 1) =
          signedText 1500000000 (ascii "avr-iot".toList) ++ 46 :: urlText signature ++ [0] ∧
        jwtVerify summingDevice (fun digest signature _ => some (signature == digest ++ digest))
          (signedText 1500000000 (ascii "avr-iot".toList) ++ 46 :: urlText signature) [] =
          some .success := by
  have stored : block headerMemory 0 jwtHeader.length = jwtHeader := by decide +kernel
  have apart : 0 + jwtHeader.length ≤ 100 ∨ 100 + 456 ≤ 0 := .inl (by decide)
  rcases createJWT_cases summingDevice 1500000000 (ascii "avr-iot".toList) stored apart (by decide)
    (by decide) with ⟨refused, _⟩ | ⟨_, _, last, _, _, _, created, _⟩
  · exact absurd summingDevice_signs refused
  · refine ⟨last, created, createJWT_verifies stored apart (by decide) (by decide) ?_ created⟩
    intro digest signature signed
    simp only [summingDevice] at signed
    split at signed
    next =>
      cases signed
      rw [beq_self_eq_true]
    next => cases signed

end AvrVoiceControl.Atca
