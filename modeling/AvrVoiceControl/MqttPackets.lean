import AvrVoiceControl.Library.ByteOrder
import AvrVoiceControl.Library.CString

set_option autoImplicit false

namespace AvrVoiceControl

open ByteOrder CString

inductive MqttCurrentState
  | disconnected
  | connecting
  | waitForConnack
  | connected
  deriving DecidableEq

def MqttCurrentState.code : MqttCurrentState -> UInt8
  | disconnected => 0
  | connecting => 1
  | waitForConnack => 2
  | connected => 3

inductive MqttConnectCurrentTxSubstate
  | sendDisconnect
  | sendPublish
  | sendSubscribe
  | sendUnsubscribe
  | sendPingreq
  deriving DecidableEq

def MqttConnectCurrentTxSubstate.code : MqttConnectCurrentTxSubstate -> UInt8
  | sendDisconnect => 2
  | sendPublish => 4
  | sendSubscribe => 8
  | sendUnsubscribe => 16
  | sendPingreq => 32

def MqttCurrentState.ofSubstate (substate : MqttConnectCurrentTxSubstate) :
    Option MqttCurrentState :=
  -- `mqttState = substate`: both enumerations are plain numbers to the assignment.
  [disconnected, connecting, waitForConnack, connected].find? fun state =>
    state.code == substate.code

inductive MqttControlPacketType
  | reserved
  | connect
  | connack
  | publish
  | puback
  | subscribe
  | suback
  | unsubscribe
  | unsuback
  | pingreq
  | pingresp
  | disconnect
  deriving DecidableEq

def MqttControlPacketType.code : MqttControlPacketType -> Fin 16
  | reserved => 0
  | connect => 1
  | connack => 2
  | publish => 3
  | puback => 4
  | subscribe => 8
  | suback => 9
  | unsubscribe => 10
  | unsuback => 11
  | pingreq => 12
  | pingresp => 13
  | disconnect => 14

-- The quality of service has two bits.
instance neZeroFour : @NeZero Nat Zero.ofOfNat0 4 := ⟨by decide⟩

structure MqttHeaderFlags where
  -- The fields of `mqttHeaderFlags`, from the lowest bit up.
  retain : Bool
  qos : Fin 4
  duplicate : Bool
  controlPacketType : Fin 16
  deriving DecidableEq

def MqttHeaderFlags.all (flags : MqttHeaderFlags) : UInt8 :=
  UInt8.ofNat (16 * flags.controlPacketType.val + 8 * flags.duplicate.toNat +
    2 * flags.qos.val + flags.retain.toNat)

def MqttHeaderFlags.ofAll (all : UInt8) : MqttHeaderFlags where
  retain := all.toNat.testBit 0
  qos := Fin.ofNat 4 (all.toNat / 2)
  duplicate := all.toNat.testBit 3
  controlPacketType := Fin.ofNat 16 (all.toNat / 16)

structure NewTxDataFlags where
  newTxConnectPacket : Bool
  newTxDisconnectPacket : Bool
  newTxPublishPacket : Bool
  newTxSubscribePacket : Bool
  newTxUnsubscribePacket : Bool
  newTxPingreqPacket : Bool
  deriving DecidableEq

def NewTxDataFlags.none : NewTxDataFlags := ⟨false, false, false, false, false, false⟩

def NewTxDataFlags.all (flags : NewTxDataFlags) : UInt8 :=
  -- The reserved bits are never set.
  (if flags.newTxConnectPacket then 1 else 0) |||
    (if flags.newTxDisconnectPacket then 2 else 0) |||
    (if flags.newTxPublishPacket then 4 else 0) |||
    (if flags.newTxSubscribePacket then 8 else 0) |||
    (if flags.newTxUnsubscribePacket then 16 else 0) |||
    (if flags.newTxPingreqPacket then 32 else 0)

structure NewRxDataFlags where
  newRxConnackPacket : Bool
  newRxPublishPacket : Bool
  newRxSubackPacket : Bool
  newRxUnsubackPacket : Bool
  newRxPingrespPacket : Bool
  newRxPubackPacket : Bool
  deriving DecidableEq

def NewRxDataFlags.none : NewRxDataFlags := ⟨false, false, false, false, false, false⟩

/-- A field behind a pointer is the bytes from the pointer on; a C string is its characters. The
lengths of a stored packet are in network order. -/
structure MqttConnectPacket where
  connectFixedHeaderFlags : MqttHeaderFlags
  protocolName : List UInt8
  protocolLevel : UInt8
  connectFlagsByte : UInt8
  keepAliveTimer : UInt16
  clientIDLength : UInt16
  clientID : List UInt8
  usernameLength : UInt16
  username : Pointer
  passwordLength : UInt16
  password : Pointer
  totalLength : UInt16
  deriving DecidableEq

structure MqttPublishPacket where
  publishHeaderFlags : MqttHeaderFlags
  topicLength : UInt16
  topic : List UInt8
  packetIdentifierLSB : UInt8
  packetIdentifierMSB : UInt8
  payloadLength : UInt8
  payload : Pointer
  totalLength : UInt16
  deriving DecidableEq

structure MqttSubscribePayload where
  topicLength : UInt16
  topic : Pointer
  requestedQoS : UInt8
  deriving DecidableEq

structure MqttSubscribePacket where
  subscribeHeaderFlags : MqttHeaderFlags
  packetIdentifierLSB : UInt8
  packetIdentifierMSB : UInt8
  subscribePayload : MqttSubscribePayload × MqttSubscribePayload
  totalLength : UInt16
  deriving DecidableEq

def MqttHeaderFlags.zero : MqttHeaderFlags := ⟨false, 0, false, 0⟩

def MqttConnectPacket.zero : MqttConnectPacket where
  connectFixedHeaderFlags := .zero
  protocolName := [0, 0, 0, 0, 0, 0]
  protocolLevel := 0
  connectFlagsByte := 0
  keepAliveTimer := 0
  clientIDLength := 0
  clientID := []
  usernameLength := 0
  username := []
  passwordLength := 0
  password := []
  totalLength := 0

def MqttPublishPacket.zero : MqttPublishPacket where
  publishHeaderFlags := .zero
  topicLength := 0
  topic := []
  packetIdentifierLSB := 0
  packetIdentifierMSB := 0
  payloadLength := 0
  payload := []
  totalLength := 0

def MqttSubscribePayload.zero : MqttSubscribePayload := ⟨0, [], 0⟩

def MqttSubscribePacket.zero : MqttSubscribePacket where
  subscribeHeaderFlags := .zero
  packetIdentifierLSB := 0
  packetIdentifierMSB := 0
  subscribePayload := (.zero, .zero)
  totalLength := 0

def encodeLoop : Nat -> Nat -> List UInt8
  -- Sixteen bits take at most three turns.
  | 0, _ => []
  | turns + 1, length =>
    let encodedByte := length % 128
    let length := length / 128
    if length > 0 then UInt8.ofNat (encodedByte ||| 0x80) :: encodeLoop turns length
    else [UInt8.ofNat encodedByte]

def mqttEncodeLength (length : UInt16) : List UInt8 := encodeLoop 3 length.toNat

def decodeLoop (value multiplier : UInt32) : Pointer -> Option UInt32
  -- The loop stops at the first byte without its top bit.
  | [] => none
  | byte :: rest =>
    let value := value + (byte &&& 0x7f).toUInt32 * multiplier
    if byte &&& 0x80 = 0 then some value else decodeLoop value (multiplier * 0x80) rest

def mqttDecodeLength (encodedData : Pointer) : Option UInt32 := decodeLoop 0 1 encodedData

def connectPacketOf (new : MqttConnectPacket) : MqttConnectPacket :=
  let supplied := new.passwordLength > 0 ∨ new.usernameLength > 0
  let connectFlagsByte : UInt8 := if supplied then 0xC2 else 0x02
  let passwordFlag := connectFlagsByte &&& 0x40 ≠ 0
  let usernameFlag := connectFlagsByte &&& 0x80 ≠ 0
  let clientIDLength := UInt16.ofNat new.clientID.length
  let passwordLength := if passwordFlag then new.passwordLength else 0
  let usernameLength := if usernameFlag then new.usernameLength else 0
  let payloadLength : UInt16 :=
    if usernameFlag then clientIDLength + passwordLength + usernameLength + 4
    else clientIDLength
  -- sizeof (connectVariableHeader) is ten.
  { connectFixedHeaderFlags :=
      ⟨false, 0, false, MqttControlPacketType.connect.code⟩
    protocolName := [0x00, 0x04, 77, 81, 84, 84]
    protocolLevel := 0x04
    connectFlagsByte
    keepAliveTimer := swap16 new.keepAliveTimer
    clientIDLength := swap16 clientIDLength
    clientID := new.clientID
    usernameLength :=
      if usernameFlag ∨ passwordFlag then swap16 usernameLength else usernameLength
    username := if usernameFlag then new.username else []
    passwordLength :=
      if usernameFlag ∨ passwordFlag then swap16 passwordLength else passwordLength
    password := if passwordFlag then new.password else []
    totalLength := 10 + 2 + payloadLength }

def publishPacketOf (new : MqttPublishPacket) : MqttPublishPacket :=
  let qos := new.publishHeaderFlags.qos
  let duplicate :=
    if qos = 0 ∧ new.publishHeaderFlags.duplicate then false
    else new.publishHeaderFlags.duplicate
  let topicLength := UInt16.ofNat new.topic.length
  let identified := qos > 0
  { publishHeaderFlags :=
      ⟨new.publishHeaderFlags.retain, qos, duplicate, MqttControlPacketType.publish.code⟩
    topicLength := swap16 topicLength
    topic := new.topic
    packetIdentifierLSB := if identified then new.packetIdentifierLSB else 0
    packetIdentifierMSB := if identified then new.packetIdentifierMSB else 0
    payloadLength := new.payloadLength
    payload := new.payload
    totalLength :=
      (if identified then 2 else 0) + (2 + topicLength + new.payloadLength.toUInt16) }

def subscribePayloadOf (new : MqttSubscribePayload) : MqttSubscribePayload :=
  { new with topicLength := swap16 new.topicLength }

def subscribePacketOf (new : MqttSubscribePacket) : MqttSubscribePacket :=
  let first := subscribePayloadOf new.subscribePayload.1
  let second := subscribePayloadOf new.subscribePayload.2
  { subscribeHeaderFlags :=
      ⟨false, 1, false, MqttControlPacketType.subscribe.code⟩
    packetIdentifierLSB := new.packetIdentifierLSB
    packetIdentifierMSB := new.packetIdentifierMSB
    subscribePayload := (first, second)
    totalLength :=
      (2 + swap16 first.topicLength + 1) + (2 + swap16 second.topicLength + 1) + 2 }

/-- What `mqttSendConnect` writes, one entry for each call of `MQTT_ExchangeBufferWrite`. -/
def connectFields (packet : MqttConnectPacket) : List (List UInt8) :=
  [[packet.connectFixedHeaderFlags.all],
    mqttEncodeLength packet.totalLength,
    packet.protocolName ++
      [packet.protocolLevel, packet.connectFlagsByte] ++ littleEndian packet.keepAliveTimer,
    littleEndian packet.clientIDLength,
    packet.clientID] ++
  if packet.passwordLength > 0 ∨ packet.usernameLength > 0 then
    [littleEndian packet.usernameLength,
      packet.username.take (swap16 packet.usernameLength).toNat,
      littleEndian packet.passwordLength,
      packet.password.take (swap16 packet.passwordLength).toNat]
  else []

def publishFields (packet : MqttPublishPacket) : List (List UInt8) :=
  [[packet.publishHeaderFlags.all],
    mqttEncodeLength packet.totalLength,
    littleEndian packet.topicLength,
    packet.topic.take (swap16 packet.topicLength).toNat] ++
  (if packet.publishHeaderFlags.qos = 1 then
    [[packet.packetIdentifierMSB], [packet.packetIdentifierLSB]]
  else []) ++
  [packet.payload.take packet.payloadLength.toNat]

def subscribePayloadFields (payload : MqttSubscribePayload) : List (List UInt8) :=
  [littleEndian payload.topicLength,
    payload.topic.take (swap16 payload.topicLength).toNat,
    [payload.requestedQoS]]

def subscribeFields (packet : MqttSubscribePacket) : List (List UInt8) :=
  [[packet.subscribeHeaderFlags.all],
    mqttEncodeLength packet.totalLength,
    [packet.packetIdentifierMSB],
    [packet.packetIdentifierLSB]] ++
  subscribePayloadFields packet.subscribePayload.1 ++
  subscribePayloadFields packet.subscribePayload.2

def pingreqFields : List (List UInt8) :=
  [[(⟨false, 0, false, MqttControlPacketType.pingreq.code⟩ : MqttHeaderFlags).all], [0]]

def disconnectFields : List (List UInt8) :=
  [[(⟨false, 0, false, MqttControlPacketType.disconnect.code⟩ : MqttHeaderFlags).all], [0]]

end AvrVoiceControl
