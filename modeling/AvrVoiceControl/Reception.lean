import AvrVoiceControl.MqttCore

set_option autoImplicit false

namespace AvrVoiceControl

namespace MqttCore

@[simp] theorem readByte_byte (rxbuff : Ring rxBuffSize) (old : UInt8) :
    (readByte rxbuff old).1 = rxbuff.contents.headD old := by
  cases stored : rxbuff.contents <;> simp [readByte, stored]

@[simp] theorem contents_readByte (rxbuff : Ring rxBuffSize) (old : UInt8) :
    (readByte rxbuff old).2.contents = rxbuff.contents.drop 1 := by
  simp [readByte]

theorem dataLength_agrees {left right : Ring rxBuffSize} (same : left.contents = right.contents) :
    left.dataLength = right.dataLength := by
  rw [← left.contents_length, ← right.contents_length, same]

theorem readRemainingLength_agrees {left right : Ring rxBuffSize}
    (same : left.contents = right.contents) (remainingLength : List UInt8) (i turns : Nat) :
    (readRemainingLength left remainingLength i turns).1 =
        (readRemainingLength right remainingLength i turns).1 ∧
      (readRemainingLength left remainingLength i turns).2.contents =
        (readRemainingLength right remainingLength i turns).2.contents := by
  induction turns generalizing left right remainingLength i with
  | zero => exact ⟨rfl, same⟩
  | succ turns ih =>
    simp only [readRemainingLength]
    split
    · simp only [readByte_byte, same]
      exact ih (by simp [same]) _ _
    · exact ⟨rfl, same⟩

theorem readPublishPacket_agrees {left right : Ring rxBuffSize}
    (same : left.contents = right.contents) :
    (readPublishPacket left).1 = (readPublishPacket right).1 := by
  have afterFirst : (readByte (readByte left 0).2 0).2.contents =
      (readByte (readByte right 0).2 0).2.contents := by
    simp [same]
  obtain ⟨length, rest⟩ := readRemainingLength_agrees afterFirst
    [(readByte (readByte left 0).2 0).1, 0, 0, 0] 2 2
  simp only [readByte_byte, contents_readByte, same] at length rest
  simp only [readPublishPacket, readByte_byte, contents_readByte, Ring.read_bytes,
    Ring.contents_read, same, length, rest]

def RefusesConnection (core : MqttCore) : Prop :=
  core.receivedPacketType = MqttControlPacketType.connack.code ∧
    core.rxbuff.contents.getD 3 0 ≠ 0

/-- The SUBACK in the buffer names another packet or refuses the first topic. -/
def RefusesSubscription (core : MqttCore) : Prop :=
  core.receivedPacketType = MqttControlPacketType.suback.code ∧
    (core.rxbuff.contents.getD 3 0 ≠ core.txSubscribePacket.packetIdentifierLSB ∨
      core.rxbuff.contents.getD 2 0 ≠ core.txSubscribePacket.packetIdentifierMSB ∨
      core.rxbuff.contents.getD 4 0 = 0x80 ∨
      core.txSubscribePacket.subscribePayload.1.requestedQoS < core.rxbuff.contents.getD 4 0)

instance (core : MqttCore) : Decidable core.RefusesConnection := by
  unfold RefusesConnection
  infer_instance

instance (core : MqttCore) : Decidable core.RefusesSubscription := by
  unfold RefusesSubscription
  infer_instance

theorem mqttProcessConnack_refuses {core : MqttCore}
    (packetType : core.receivedPacketType = MqttControlPacketType.connack.code)
    (refused : core.mqttProcessConnack.1 = false) : core.RefusesConnection := by
  refine ⟨packetType, ?_⟩
  rw [List.getD_eq_getElem?_getD]
  simpa [mqttProcessConnack] using refused

def grants (requestedQoS returnCode : UInt8) : Bool :=
  returnCode ≠ 0x80 && returnCode ≤ requestedQoS

def identifies (packet : MqttSubscribePacket) (msb lsb : UInt8) : Bool :=
  msb = packet.packetIdentifierMSB && lsb = packet.packetIdentifierLSB

def wantedVerdict (packet : MqttSubscribePacket) (msb lsb first second : UInt8) :
    MqttCurrentState :=
  if identifies packet msb lsb && grants packet.subscribePayload.1.requestedQoS first &&
      grants packet.subscribePayload.2.requestedQoS second then .connected
  else .disconnected

theorem subackVerdict_grants (requestedQoS returnCode : UInt8) (rest : List (UInt8 × UInt8))
    (ret : MqttCurrentState) :
    subackVerdict ((returnCode, requestedQoS) :: rest) ret =
      if grants requestedQoS returnCode then subackVerdict rest .connected else .disconnected := by
  by_cases failure : returnCode = 0x80
  · simp [subackVerdict, grants, failure]
  · simp [subackVerdict, grants, failure]

theorem mqttProcessSuback_verdict (core : MqttCore) :
    core.mqttProcessSuback.1 =
      if identifies core.txSubscribePacket (core.rxbuff.contents.getD 2 0)
            (core.rxbuff.contents.getD 3 0) &&
          grants core.txSubscribePacket.subscribePayload.1.requestedQoS
            (core.rxbuff.contents.getD 4 0) then .connected
      else .disconnected := by
  have unread : grants core.txSubscribePacket.subscribePayload.2.requestedQoS 0 = true := by
    have least : (0 : UInt8) ≤ core.txSubscribePacket.subscribePayload.2.requestedQoS :=
      UInt8.zero_le
    simp [grants, least]
  by_cases same : identifies core.txSubscribePacket (core.rxbuff.contents.getD 2 0)
      (core.rxbuff.contents.getD 3 0) = true
  · obtain ⟨msb, lsb⟩ : core.rxbuff.contents.getD 2 0 =
          core.txSubscribePacket.packetIdentifierMSB ∧
        core.rxbuff.contents.getD 3 0 = core.txSubscribePacket.packetIdentifierLSB := by
      simpa [identifies] using same
    rw [same, Bool.true_and]
    simp only [List.getD_eq_getElem?_getD] at msb lsb ⊢
    have read : core.mqttProcessSuback.1 =
        subackVerdict
          [(core.rxbuff.contents[4]?.getD 0, core.txSubscribePacket.subscribePayload.1.requestedQoS),
            (0, core.txSubscribePacket.subscribePayload.2.requestedQoS)] .connected := by
      simp [mqttProcessSuback, msb, lsb]
    rw [read, subackVerdict_grants, subackVerdict_grants, unread]
    rfl
  · have other : core.rxbuff.contents.getD 3 0 ≠ core.txSubscribePacket.packetIdentifierLSB ∨
        core.rxbuff.contents.getD 2 0 ≠ core.txSubscribePacket.packetIdentifierMSB := by
      by_contra both
      simp only [ne_eq, not_or, not_not] at both
      exact same (by simp only [identifies, both.1, both.2, decide_true, Bool.and_self])
    rw [Bool.not_eq_true] at same
    rw [same, Bool.false_and]
    simp only [List.getD_eq_getElem?_getD] at other
    simp [mqttProcessSuback, other]

theorem mqttProcessSuback_refuses {core : MqttCore}
    (packetType : core.receivedPacketType = MqttControlPacketType.suback.code) :
    core.mqttProcessSuback.1 = .disconnected ↔ core.RefusesSubscription := by
  rw [mqttProcessSuback_verdict, RefusesSubscription, and_iff_right packetType]
  constructor
  · intro refused
    by_contra accepts
    simp only [not_or, not_not, UInt8.not_lt] at accepts
    obtain ⟨lsb, msb, granted, within⟩ := accepts
    simp only [identifies, grants, lsb, msb, granted, within, decide_true, ne_eq,
      not_false_eq_true, Bool.and_self, if_true, reduceCtorEq] at refused
  · rintro (lsb | msb | failure | above)
    · simp only [identifies, lsb, decide_false, Bool.and_false, Bool.false_and, Bool.false_eq_true,
        if_false]
    · simp only [identifies, msb, decide_false, Bool.false_and, Bool.false_eq_true, if_false]
    · simp only [grants, failure, ne_eq, not_true_eq_false, decide_false, Bool.false_and,
        Bool.and_false, Bool.false_eq_true, if_false]
    · simp only [grants, UInt8.not_le.mpr above, decide_false, Bool.and_false, Bool.false_eq_true,
        if_false]

theorem suback_verdict_iff (core : MqttCore)
    (header remainingLength msb lsb first second : UInt8) (rest : List UInt8)
    (received : core.rxbuff.contents =
      header :: remainingLength :: msb :: lsb :: first :: second :: rest) :
    core.mqttProcessSuback.1 = wantedVerdict core.txSubscribePacket msb lsb first second ↔
      (identifies core.txSubscribePacket msb lsb = true →
        grants core.txSubscribePacket.subscribePayload.1.requestedQoS first = true →
          grants core.txSubscribePacket.subscribePayload.2.requestedQoS second = true) := by
  rw [mqttProcessSuback_verdict, wantedVerdict, received]
  simp only [List.getD_cons_succ, List.getD_cons_zero]
  cases identifies core.txSubscribePacket msb lsb <;>
    cases grants core.txSubscribePacket.subscribePayload.1.requestedQoS first <;>
    cases grants core.txSubscribePacket.subscribePayload.2.requestedQoS second <;> simp

def withSuback (first second : UInt8) : MqttCore :=
  { boot with
    mqttState := .connected
    txSubscribePacket := subscribePacketOf
      { MqttSubscribePacket.zero with
        packetIdentifierLSB := 1
        subscribePayload := (⟨1, [97], 0⟩, ⟨1, [98], 0⟩) }
    rxbuff := boot.rxbuff.write [0x90, 4, 0, 1, first, second] }

theorem suback_verdict_granted :
    (withSuback 0 0).mqttProcessSuback.1 =
      wantedVerdict (withSuback 0 0).txSubscribePacket 0 1 0 0 :=
  (suback_verdict_iff (withSuback 0 0) 0x90 4 0 1 0 0 [] (by decide +kernel)).mpr (by decide +kernel)

theorem suback_second_refused :
    ¬ (withSuback 0 0x80).mqttProcessSuback.1 =
      wantedVerdict (withSuback 0 0x80).txSubscribePacket 0 1 0 0x80 := by
  decide +kernel

end MqttCore

end AvrVoiceControl
