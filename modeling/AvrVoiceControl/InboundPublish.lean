import AvrVoiceControl.Reception

set_option autoImplicit false

namespace AvrVoiceControl

open ByteOrder

namespace MqttCore

def publishLengths (rxbuff : Ring rxBuffSize) : UInt32 × UInt16 :=
  let (_, rxbuff) := readByte rxbuff 0
  let (first, rxbuff) := readByte rxbuff 0
  let (remainingLength, rxbuff) := readRemainingLength rxbuff [first, 0, 0, 0] 2 2
  let decodedLength := (mqttDecodeLength remainingLength).getD 0
  let (topicBytes, _) := rxbuff.read 2
  (decodedLength, ofBigEndian (topicBytes.getD 0 0) (topicBytes.getD 1 0))

/-- The copies stay inside the two local arrays and leave a NUL in each, and neither subtraction
from `decodedLength` goes below zero. -/
def InBounds (rxbuff : Ring rxBuffSize) : Prop :=
  let (decodedLength, topicLength) := publishLengths rxbuff
  let packet := (readPublishPacket rxbuff).1
  2 ≤ decodedLength ∧ topicLength.toUInt32 ≤ decodedLength - 2 ∧
    packet.topic.length ≤ topicSize ∧ packet.payload.length ≤ payloadArraySize ∧
    0 ∈ intoArray topicSize packet.topic ∧ 0 ∈ intoArray payloadArraySize packet.payload

instance (rxbuff : Ring rxBuffSize) : Decidable (InBounds rxbuff) := by
  unfold InBounds
  infer_instance

def topicLengthOf (contents : List UInt8) : UInt16 :=
  ofBigEndian (contents.getD 2 0) (contents.getD 3 0)

def storedTopic (contents : List UInt8) : List UInt8 :=
  (contents.drop 4).take (topicLengthOf contents).toNat

/-- The first length byte without its top bit covers the topic, and what is stored of the topic
leaves room for a NUL or holds one. -/
def Contained (contents : List UInt8) : Prop :=
  2 + (topicLengthOf contents).toNat ≤ (contents.getD 1 0 &&& 0x7f).toNat ∧
    ((storedTopic contents).length < topicSize ∨
      (storedTopic contents).length = topicSize ∧ 0 ∈ storedTopic contents)

-- The loop looks at the byte behind the first one, which is still zero.
theorem readRemainingLength_first (rxbuff : Ring rxBuffSize) (first : UInt8) :
    readRemainingLength rxbuff [first, 0, 0, 0] 2 2 = ([first, 0, 0, 0], rxbuff) := by
  simp [readRemainingLength]

theorem mqttDecodeLength_first (first : UInt8) :
    mqttDecodeLength [first, 0, 0, 0] = some (first &&& 0x7f).toUInt32 := by
  simp only [mqttDecodeLength, decodeLoop]
  split <;> simp

theorem publishLengths_eq (rxbuff : Ring rxBuffSize) :
    publishLengths rxbuff =
      ((rxbuff.contents.getD 1 0 &&& 0x7f).toUInt32, topicLengthOf rxbuff.contents) := by
  simp [publishLengths, readRemainingLength_first, mqttDecodeLength_first, topicLengthOf,
    List.headD_eq_head?_getD]

theorem readPublishPacket_topic (rxbuff : Ring rxBuffSize) :
    (readPublishPacket rxbuff).1.topic = storedTopic rxbuff.contents := by
  simp [readPublishPacket, readRemainingLength_first, storedTopic, topicLengthOf]

theorem readPublishPacket_payload (rxbuff : Ring rxBuffSize) :
    (readPublishPacket rxbuff).1.payload.length ≤
      ((publishLengths rxbuff).1 - 2 - (publishLengths rxbuff).2.toUInt32).toUInt16.toNat := by
  simp only [readPublishPacket, publishLengths, Ring.read_bytes, List.length_take]
  exact Nat.min_le_left _ _

theorem decodedLength_le (byte : UInt8) : (byte &&& 0x7f).toNat ≤ 127 := by
  rw [UInt8.toNat_and]
  exact Nat.and_le_right

theorem subtractions_iff (decodedLength : UInt32) (topicLength : UInt16) :
    2 ≤ decodedLength ∧ topicLength.toUInt32 ≤ decodedLength - 2 ↔
      2 + topicLength.toNat ≤ decodedLength.toNat := by
  have two : (2 : UInt32).toNat = 2 := rfl
  constructor
  · rintro ⟨enough, fits⟩
    rw [UInt32.le_iff_toNat_le, UInt32.toNat_sub_of_le _ _ enough, two,
      UInt16.toNat_toUInt32] at fits
    rw [UInt32.le_iff_toNat_le, two] at enough
    omega
  · intro fits
    have enough : 2 ≤ decodedLength := by
      rw [UInt32.le_iff_toNat_le, two]
      omega
    refine ⟨enough, ?_⟩
    rw [UInt32.le_iff_toNat_le, UInt32.toNat_sub_of_le _ _ enough, two, UInt16.toNat_toUInt32]
    omega

theorem payload_small {decodedLength : UInt32} {topicLength : UInt16}
    (fits : 2 + topicLength.toNat ≤ decodedLength.toNat) (small : decodedLength.toNat ≤ 127) :
    (decodedLength - 2 - topicLength.toUInt32).toUInt16.toNat < payloadArraySize := by
  obtain ⟨enough, rest⟩ := (subtractions_iff decodedLength topicLength).mpr fits
  rw [UInt32.toNat_toUInt16, UInt32.toNat_sub_of_le _ _ rest,
    UInt32.toNat_sub_of_le _ _ enough]
  have below := Nat.mod_le (decodedLength.toNat - (2 : UInt32).toNat - topicLength.toUInt32.toNat)
    (2 ^ 16)
  have size : payloadArraySize = 200 := rfl
  omega

theorem nul_intoArray_iff {size : Nat} {bytes : List UInt8} (fits : bytes.length ≤ size) :
    0 ∈ intoArray size bytes ↔ bytes.length < size ∨ bytes.length = size ∧ 0 ∈ bytes := by
  have whole : (bytes ++ List.replicate (size - bytes.length) 0).length = size := by
    rw [List.length_append, List.length_replicate]
    omega
  rw [intoArray, List.take_of_length_le (Nat.le_of_eq whole), List.mem_append,
    List.mem_replicate]
  constructor
  · rintro (brought | ⟨room, -⟩)
    · by_cases full : bytes.length = size
      · exact .inr ⟨full, brought⟩
      · exact .inl (by omega)
    · exact .inl (by omega)
  · rintro (room | ⟨-, brought⟩)
    · exact .inr ⟨by omega, rfl⟩
    · exact .inl brought

theorem publish_inBounds_iff (rxbuff : Ring rxBuffSize) :
    InBounds rxbuff ↔ Contained rxbuff.contents := by
  have lengths := publishLengths_eq rxbuff
  have payload := readPublishPacket_payload rxbuff
  have small := decodedLength_le (rxbuff.contents.getD 1 0)
  rw [lengths] at payload
  simp only [InBounds, Contained, lengths, readPublishPacket_topic, ← and_assoc,
    subtractions_iff, UInt8.toNat_toUInt32]
  constructor
  · rintro ⟨⟨⟨⟨fits, topic⟩, -⟩, terminated⟩, -⟩
    exact ⟨fits, (nul_intoArray_iff topic).mp terminated⟩
  · rintro ⟨fits, room⟩
    have topic : (storedTopic rxbuff.contents).length ≤ topicSize := by
      rcases room with room | ⟨full, -⟩
      · exact Nat.le_of_lt room
      · exact Nat.le_of_eq full
    have short := Nat.lt_of_le_of_lt payload
      (payload_small (by rwa [UInt8.toNat_toUInt32]) (by rwa [UInt8.toNat_toUInt32]))
    exact ⟨⟨⟨⟨fits, topic⟩, Nat.le_of_lt short⟩, (nul_intoArray_iff topic).mpr room⟩,
      (nul_intoArray_iff (Nat.le_of_lt short)).mpr (.inl short)⟩

def twoLengthBytes : List UInt8 :=
  [0x30, 0x82, 0x01, 0x00, 0x03, 99, 47, 116] ++ List.replicate 125 120

theorem twoLengthBytes_outOfBounds :
    ¬ InBounds ((Ring.zeroed (by decide)).write twoLengthBytes) := by
  decide +kernel

end MqttCore

end AvrVoiceControl
