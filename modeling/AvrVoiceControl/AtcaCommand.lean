import AvrVoiceControl.AtcaHelpers
import AvrVoiceControl.Library.Crc

set_option autoImplicit false

namespace AvrVoiceControl.Atca

open FlatMemory

def shiftRegisters : List UInt8 := [1, 2, 4, 8, 16, 32, 64, 128]

/-- The body of the inner loop of `atCRC`. -/
def crcBody (data : UInt8) (crcRegister : UInt16) (shiftRegister : UInt8) : UInt16 :=
  let dataBit : UInt16 := if data &&& shiftRegister ≠ 0 then 1 else 0
  let crcBit := crcRegister >>> 15
  let shifted := crcRegister <<< 1
  if dataBit ≠ crcBit then shifted ^^^ 0x8005 else shifted

def crcRegister (data : List UInt8) : UInt16 :=
  data.foldl (fun register byte => shiftRegisters.foldl (crcBody byte) register) 0

def atCRC (data : List UInt8) : List UInt8 :=
  [(crcRegister data &&& 0x00ff).toUInt8, (crcRegister data >>> 8).toUInt8]

/-- `atCheckCrc`, which believes the count of the response and may read past its array. -/
def atCheckCrc (memory : Nat -> UInt8) (response : Nat) : AtcaStatus :=
  let count := (memory response - 2).toNat
  if atCRC (block memory response count) = block memory (response + count) 2 then .success
  else .rxCrcError

def isATCAError (memory : Nat -> UInt8) (data : Nat) : AtcaStatus :=
  if memory data = 0x04 then
    match (memory (data + 1)).toNat with
    | 0x00 => .success
    | 0x01 => .checkmacVerifyFailed
    | 0x03 => .parseError
    | 0x05 => .statusEcc
    | 0x07 => .statusSelftestError
    | 0x08 => .healthTestError
    | 0x0f => .executionError
    | 0x11 => .wakeSuccess
    | 0xff => .statusCrc
    | _ => .genFail
  else .success

def bitsOf (byte : UInt8) : List Bool := shiftRegisters.map fun mask => decide (byte &&& mask ≠ 0)

/-- The byte of eight bits. -/
def byteOf (bits : List Bool) : UInt8 :=
  (List.zipWith (fun bit mask => if bit then mask else 0) bits shiftRegisters).foldl (· ||| ·) 0

theorem byteOf_bitsOf (byte : UInt8) : byteOf (bitsOf byte) = byte := by
  obtain ⟨⟨byte, bounded⟩⟩ := byte
  revert byte
  decide +kernel

theorem bitsOf_length (byte : UInt8) : (bitsOf byte).length = 8 := by
  rw [bitsOf, List.length_map]
  rfl

abbrev polynom : BitVec 16 := 0x8005#16

theorem crcBit_msb (crcRegister : UInt16) (bit : Bool) :
    ((if bit then (1 : UInt16) else 0) ≠ crcRegister >>> 15) ↔ ¬bit = crcRegister.toBitVec.msb := by
  have bounded := crcRegister.toNat_lt
  have value : (crcRegister >>> 15).toNat = crcRegister.toNat / 32768 := by
    rw [UInt16.toNat_shiftRight, Nat.shiftRight_eq_div_pow]
    rfl
  have msb : crcRegister.toBitVec.msb = decide (32768 ≤ crcRegister.toNat) :=
    BitVec.msb_eq_decide _
  rw [ne_eq, ← UInt16.toNat_inj, value, msb]
  cases bit with
  | false =>
    change ¬0 = _ ↔ _
    by_cases high : 32768 ≤ crcRegister.toNat <;> simp [high] <;> omega
  | true =>
    change ¬1 = _ ↔ _
    by_cases high : 32768 ≤ crcRegister.toNat <;> simp [high] <;> omega

theorem crcBody_step (data : UInt8) (crcRegister : UInt16) (shiftRegister : UInt8) :
    (crcBody data crcRegister shiftRegister).toBitVec =
      Crc.step polynom crcRegister.toBitVec (decide (data &&& shiftRegister ≠ 0)) := by
  have msb := crcBit_msb crcRegister (decide (data &&& shiftRegister ≠ 0))
  have dataBit : (if data &&& shiftRegister ≠ 0 then (1 : UInt16) else 0) =
      if decide (data &&& shiftRegister ≠ 0) = true then 1 else 0 := by
    simp
  rw [crcBody, dataBit, Crc.step]
  by_cases same : decide (data &&& shiftRegister ≠ 0) = crcRegister.toBitVec.msb
  next =>
    rw [if_pos same, if_neg (fun differ => msb.mp differ same)]
    rfl
  next =>
    rw [if_neg same, if_pos (msb.mpr same)]
    rfl

theorem crcBody_remainder (data : UInt8) (crcRegister : UInt16) (masks : List UInt8) :
    (masks.foldl (crcBody data) crcRegister).toBitVec =
      Crc.remainder polynom crcRegister.toBitVec
        (masks.map fun mask => decide (data &&& mask ≠ 0)) := by
  induction masks generalizing crcRegister with
  | nil => rfl
  | cons mask rest ih =>
    rw [List.foldl_cons, ih, crcBody_step]
    rfl

theorem crcRegister_remainder (data : List UInt8) :
    (crcRegister data).toBitVec = Crc.remainder polynom 0#16 (data.flatMap bitsOf) := by
  have bytes (start : UInt16) : (data.foldl (fun register byte =>
      shiftRegisters.foldl (crcBody byte) register) start).toBitVec =
      Crc.remainder polynom start.toBitVec (data.flatMap bitsOf) := by
    induction data generalizing start with
    | nil => rfl
    | cons byte rest ih =>
      rw [List.foldl_cons, ih, List.flatMap_cons, Crc.remainder_append, crcBody_remainder]
      rfl
  exact bytes 0

theorem atCRC_register {data other : List UInt8} (same : atCRC data = atCRC other) :
    crcRegister data = crcRegister other := by
  have halves (register : UInt16) :
      (register &&& 0x00ff).toUInt8.toNat + 256 * (register >>> 8).toUInt8.toNat =
        register.toNat := by
    have bounded := register.toNat_lt
    have low : (register &&& 0x00ff).toUInt8.toNat = register.toNat % 256 := by
      rw [UInt16.toNat_toUInt8, UInt16.toNat_and]
      change (register.toNat &&& (2 ^ 8 - 1)) % 256 = _
      rw [Nat.and_two_pow_sub_one_eq_mod, Nat.mod_mod]
    have high : (register >>> 8).toUInt8.toNat = register.toNat / 256 := by
      rw [UInt16.toNat_toUInt8, UInt16.toNat_shiftRight, Nat.shiftRight_eq_div_pow]
      exact Nat.mod_eq_of_lt (by change register.toNat / 256 < 256; omega)
    omega
  rw [atCRC, atCRC, List.cons.injEq, List.cons.injEq] at same
  apply UInt16.toNat_inj.mp
  rw [← halves (crcRegister data), ← halves (crcRegister other), same.1, same.2.1]

theorem flatMap_bitsOf_length (data : List UInt8) :
    (data.flatMap bitsOf).length = 8 * data.length := by
  induction data with
  | nil => rfl
  | cons byte rest ih =>
    rw [List.flatMap_cons, List.length_append, bitsOf_length, ih, List.length_cons]
    omega

theorem flatMap_bitsOf_injective {data other : List UInt8}
    (same : data.flatMap bitsOf = other.flatMap bitsOf) : data = other := by
  induction data generalizing other with
  | nil =>
    have length := congrArg List.length same
    rw [flatMap_bitsOf_length, flatMap_bitsOf_length] at length
    exact (List.eq_nil_of_length_eq_zero (by simpa using length.symm)).symm
  | cons byte rest ih =>
    cases other with
    | nil =>
      have length := congrArg List.length same
      rw [flatMap_bitsOf_length, flatMap_bitsOf_length] at length
      simp at length
    | cons first later =>
      rw [List.flatMap_cons, List.flatMap_cons] at same
      obtain ⟨bits, others⟩ := List.append_inj same (by rw [bitsOf_length, bitsOf_length])
      rw [← byteOf_bitsOf byte, bits, byteOf_bitsOf, ih others]

def WithinBurst (width : Nat) (bits others : List Bool) : Prop :=
  ∃ front window changed back, window.length = changed.length ∧ window.length ≤ width ∧
    bits = front ++ window ++ back ∧ others = front ++ changed ++ back

theorem atCRC_burst {data other : List UInt8}
    (burst : WithinBurst 16 (data.flatMap bitsOf) (other.flatMap bitsOf))
    (same : atCRC data = atCRC other) : data = other := by
  obtain ⟨front, window, changed, back, alike, short, bits, others⟩ := burst
  have registers := congrArg UInt16.toBitVec (atCRC_register same)
  rw [crcRegister_remainder, crcRegister_remainder, bits, others] at registers
  have unchanged := Crc.remainder_window (by decide) front back alike short registers
  apply flatMap_bitsOf_injective
  rw [bits, others, unchanged]

theorem atCRC_length (data : List UInt8) : (atCRC data).length = 2 := rfl

theorem count_of_length {length : Nat} (long : 2 ≤ length) (small : length < 256) :
    (UInt8.ofNat length - 2).toNat = length - 2 := by
  have two : (2 : UInt8) ≤ UInt8.ofNat length := by
    rw [UInt8.le_iff_toNat_le, UInt8.toNat_ofNat', Nat.mod_eq_of_lt small]
    exact long
  rw [UInt8.toNat_sub_of_le _ _ two, UInt8.toNat_ofNat', Nat.mod_eq_of_lt small]
  rfl

def IsFrame (frame : List UInt8) : Prop :=
  ∃ body, frame = body ++ atCRC body ∧ body.head? = some (UInt8.ofNat (body.length + 2)) ∧
    body.length + 2 < 256

section Check

variable {memory : Nat -> UInt8} {response : Nat} {body crc : List UInt8}

theorem atCheckCrc_body (counted : body.head? = some (UInt8.ofNat (body.length + 2)))
    (small : body.length + 2 < 256)
    (received : block memory response (body.length + 2) = body ++ crc) :
    atCheckCrc memory response = if atCRC body = crc then .success else .rxCrcError := by
  have count := count_of_length (Nat.le_add_left 2 body.length) small
  rw [Nat.add_sub_cancel] at count
  obtain ⟨front, back⟩ := List.append_inj ((block_add memory response body.length 2).symm.trans
    received) (block_length _ _ _)
  have first : memory response = UInt8.ofNat (body.length + 2) := by
    have head := congrArg List.head? received
    rw [List.head?_append, counted, block] at head
    simpa using head
  simp only [atCheckCrc, first, count, front, back]

theorem atCheckCrc_success_iff (long : 2 ≤ (memory response).toNat) :
    atCheckCrc memory response = .success ↔
      IsFrame (block memory response (memory response).toNat) := by
  have bounded := (memory response).toNat_lt
  have count : (memory response - 2).toNat = (memory response).toNat - 2 := by
    have counted := count_of_length long bounded
    rwa [UInt8.ofNat_toNat] at counted
  have split := block_add memory response ((memory response).toNat - 2) 2
  rw [Nat.sub_add_cancel long] at split
  have verdict : atCheckCrc memory response = .success ↔
      atCRC (block memory response ((memory response).toNat - 2)) =
        block memory (response + ((memory response).toNat - 2)) 2 := by
    simp only [atCheckCrc, count]
    split <;> simp_all
  rw [verdict, split]
  constructor
  · intro same
    have first : (block memory response ((memory response).toNat - 2)).head? =
        some (memory response) := by
      rcases (by omega : (memory response).toNat = 2 ∨ 2 < (memory response).toNat) with two | more
      · -- The CRC of nothing would be the count itself.
        have count : memory response = 2 := UInt8.toNat_inj.mp two
        rw [two] at same
        have impossible := (List.cons.inj same).1
        rw [Nat.sub_self, Nat.add_zero, count] at impossible
        exact absurd impossible (show ¬(crcRegister [] &&& 0x00ff).toUInt8 = 2 by decide)
      · obtain ⟨more, size⟩ : ∃ more, (memory response).toNat - 2 = more + 1 :=
          ⟨(memory response).toNat - 3, by omega⟩
        rw [size, block]
        rfl
    refine ⟨_, by rw [same], ?_, by rw [block_length]; omega⟩
    rw [first, block_length, Nat.sub_add_cancel long, UInt8.ofNat_toNat]
  · rintro ⟨body, same, _, _⟩
    have length := congrArg List.length same
    simp only [List.length_append, block_length, atCRC_length] at length
    obtain ⟨rfl, crc⟩ := List.append_inj same (by rw [block_length]; omega)
    exact crc.symm

theorem atCheckCrc_frame (counted : body.head? = some (UInt8.ofNat (body.length + 2)))
    (small : body.length + 2 < 256) :
    (block memory response (body.length + 2) = body ++ atCRC body ->
      atCheckCrc memory response = .success) ∧
    (∀ crc, crc ≠ atCRC body ->
      block memory response (body.length + 2) = body ++ crc ->
        atCheckCrc memory response = .rxCrcError) ∧
    ∀ other, other.head? = body.head? ->
      WithinBurst 16 (body.flatMap bitsOf) (other.flatMap bitsOf) -> other ≠ body ->
      block memory response (body.length + 2) = other ++ atCRC body ->
        atCheckCrc memory response = .rxCrcError := by
  refine ⟨?_, ?_, ?_⟩
  · intro received
    rw [atCheckCrc_body counted small received, if_pos rfl]
  · intro crc changed received
    rw [atCheckCrc_body counted small received, if_neg (Ne.symm changed)]
  · intro other head burst changed received
    have length : other.length = body.length := by
      obtain ⟨front, window, changed, back, alike, _, bits, others⟩ := burst
      have left := congrArg List.length bits
      have right := congrArg List.length others
      simp only [flatMap_bitsOf_length, List.length_append] at left right
      omega
    have shown : atCRC other ≠ atCRC body := fun same => changed (atCRC_burst burst same.symm).symm
    rw [atCheckCrc_body (by rw [head, length, counted]) (by omega)
      (by rw [length, received]), if_neg shown]

end Check

def responseMemory (response : List UInt8) (place : Nat) : UInt8 := response.getD place 0

theorem atCheckCrc_frame_wake :
    atCheckCrc (responseMemory [4, 0x11, 0x33, 0x43]) 0 = .success ∧
      atCheckCrc (responseMemory [4, 0x11, 0x33, 0x42]) 0 = .rxCrcError ∧
      atCheckCrc (responseMemory [4, 0x10, 0x33, 0x43]) 0 = .rxCrcError :=
  have frame {memory : Nat -> UInt8} := @atCheckCrc_frame memory 0 [4, 0x11] rfl (by decide)
  ⟨frame.1 (by decide +kernel), frame.2.1 [0x33, 0x42] (by decide +kernel) (by decide +kernel),
    frame.2.2 [4, 0x10] rfl
      ⟨bitsOf 4, [true], [false], (bitsOf 0x11).tail, rfl, by decide, by decide +kernel,
        by decide +kernel⟩ (by decide) (by decide +kernel)⟩

-- The bits of the CRC do not follow those of the body in the order of the division, so that a change
-- of six bits across the border is not seen.
example : atCheckCrc (responseMemory [4, 0x00, 0x03, 0x40]) 0 = .success ∧
    atCheckCrc (responseMemory [4, 0xc0, 0x09, 0x40]) 0 = .success := by
  decide +kernel

end AvrVoiceControl.Atca
