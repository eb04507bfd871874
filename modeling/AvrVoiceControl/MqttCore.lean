import AvrVoiceControl.ExchangeBuffer
import AvrVoiceControl.MqttPackets
import AvrVoiceControl.Library.TimeoutService
import AvrVoiceControl.Library.Machine

set_option autoImplicit false

namespace AvrVoiceControl

open ByteOrder CString TimeoutService

abbrev txBuffSize : Nat := 400
abbrev rxBuffSize : Nat := 1000
abbrev topicSize : Nat := 100
abbrev payloadArraySize : Nat := 200
abbrev seconds : UInt32 := 1000
abbrev waitForConnackTimeout : UInt32 := 30 * seconds
abbrev waitForPingrespTimeout : UInt32 := 30 * seconds

-- An entry of the publish handler table: NULL, or a topic with its callback.
abbrev PublishReceptionHandler := Option Pointer

inductive MqttEvent
  -- A `MQTT_Create...` function returned true.
  | created (packetType : MqttControlPacketType)
  -- `MQTT_Send` was called with these bytes and returned this.
  | handed (packetType : MqttControlPacketType) (frame : List UInt8) (sent : Bool)
  -- `MQTT_ReceptionHandler` looked at a packet with this type field.
  | processed (packetType : Fin 16)
  -- A CONNACK took the client to CONNECTED.
  | accepted
  -- The application callback ran.
  | published (topic payload : List UInt8)
  -- `MQTT_Close` was called.
  | closed
  -- An array was read or written outside its bounds, or NULL was followed.
  | invalidAccess
  deriving DecidableEq

/-- The static variables of the core, its timers, the two exchange buffers and the handler table. -/
structure MqttCore where
  mqttState : MqttCurrentState
  mqttTxFlags : NewTxDataFlags
  mqttRxFlags : NewRxDataFlags
  txConnectPacket : MqttConnectPacket
  txPublishPacket : MqttPublishPacket
  txSubscribePacket : MqttSubscribePacket
  connackTimeoutOccured : Bool
  pingreqTimeoutOccured : Bool
  pingrespTimeoutOccured : Bool
  connectTime : UInt32
  connackTimer : TimerStatus
  pingreqTimer : TimerStatus
  pingrespTimer : TimerStatus
  txbuff : Ring txBuffSize
  rxbuff : Ring rxBuffSize
  publishRecvInfo : Option (PublishReceptionHandler × PublishReceptionHandler)

namespace MqttCore

/-- The loader's zeros, after the first `MQTT_ClientInitialise`. -/
def boot : MqttCore where
  mqttState := .disconnected
  mqttTxFlags := .none
  mqttRxFlags := .none
  txConnectPacket := .zero
  txPublishPacket := .zero
  txSubscribePacket := .zero
  connackTimeoutOccured := false
  pingreqTimeoutOccured := false
  pingrespTimeoutOccured := false
  connectTime := 0
  connackTimer := .idle
  pingreqTimer := .idle
  pingrespTimer := .idle
  txbuff := Ring.zeroed (by decide)
  rxbuff := Ring.zeroed (by decide)
  publishRecvInfo := none

def keepAliveTimeout (core : MqttCore) : UInt16 := swap16 core.txConnectPacket.keepAliveTimer

-- The difference is taken in sixteen bits, the product in thirty-two.
def pingreqPeriod (keepAliveTimeout : UInt16) : UInt32 := (keepAliveTimeout - 1).toUInt32 * seconds

def mqttInitialiseState (core : MqttCore) : MqttCore := { core with mqttState := .disconnected }

def mqttClientInitialise (core : MqttCore) : MqttCore :=
  -- `sizeof(TX_BUFF_SIZE)` is the size of an `int`, so `memset` clears two bytes of each array.
  { core.mqttInitialiseState with
    txbuff := core.txbuff.clientInitialise 2
    rxbuff := core.rxbuff.clientInitialise 2 }

def mqttCreateConnectPacket (core : MqttCore) (newConnectPacket : MqttConnectPacket) :
    MqttCore × List MqttEvent :=
  ({ core with
      txConnectPacket := connectPacketOf newConnectPacket
      mqttTxFlags := { NewTxDataFlags.none with newTxConnectPacket := true }
      mqttState := .connecting },
    [.created .connect])

def mqttCreatePublishPacket (core : MqttCore) (newPublishPacket : MqttPublishPacket) :
    MqttCore × List MqttEvent :=
  if core.mqttState = .connected then
    ({ core with
        txPublishPacket := publishPacketOf newPublishPacket
        mqttTxFlags := { core.mqttTxFlags with newTxPublishPacket := true } },
      [.created .publish])
  else ({ core with txPublishPacket := .zero }, [])

def mqttCreateSubscribePacket (core : MqttCore) (newSubscribePacket : MqttSubscribePacket) :
    MqttCore × List MqttEvent :=
  if core.mqttState = .connected then
    ({ core with
        txSubscribePacket := subscribePacketOf newSubscribePacket
        mqttTxFlags := { core.mqttTxFlags with newTxSubscribePacket := true } },
      [.created .subscribe])
  else ({ core with txSubscribePacket := .zero }, [])

def fillTxbuff (core : MqttCore) (fields : List (List UInt8)) : MqttCore :=
  { core with
    txbuff := core.txbuff.writeAll fields
    rxbuff := core.rxbuff.init }

def mqttSendConnect (core : MqttCore) (sent : Bool) : Bool × MqttCore × List MqttEvent :=
  -- `sent` is what `MQTT_Send` returns if it is called.
  let core := core.fillTxbuff (connectFields core.txConnectPacket)
  if core.mqttTxFlags.newTxConnectPacket then
    let event := MqttEvent.handed .connect core.txbuff.frame sent
    if sent then
      (true, { core with mqttTxFlags := { core.mqttTxFlags with newTxConnectPacket := false } },
        [event])
    else (false, core, [event])
  else (false, core, [])

def mqttSendPublish (core : MqttCore) (sent : Bool) : Bool × MqttCore × List MqttEvent :=
  let core := core.fillTxbuff (publishFields core.txPublishPacket)
  if core.mqttTxFlags.newTxPublishPacket ∨
      core.txPublishPacket.publishHeaderFlags.duplicate then
    let event := MqttEvent.handed .publish core.txbuff.frame sent
    if sent then
      let core := { core with mqttTxFlags := { core.mqttTxFlags with newTxPublishPacket := false } }
      if core.txPublishPacket.publishHeaderFlags.qos = 1 then
        (true, { core with mqttRxFlags := { core.mqttRxFlags with newRxPubackPacket := true } },
          [event])
      else (true, core, [event])
    else (false, core, [event])
  else (false, core, [])

def mqttSendSubscribe (core : MqttCore) (sent : Bool) : Bool × MqttCore × List MqttEvent :=
  let core := core.fillTxbuff (subscribeFields core.txSubscribePacket)
  if core.mqttTxFlags.newTxSubscribePacket then
    let event := MqttEvent.handed .subscribe core.txbuff.frame sent
    if sent then
      (true,
        { core with
          mqttTxFlags := { core.mqttTxFlags with newTxSubscribePacket := false }
          mqttRxFlags := { core.mqttRxFlags with newRxSubackPacket := true } },
        [event])
    else (false, core, [event])
  else (false, core, [])

def mqttSendPingreq (core : MqttCore) (sent : Bool) : Bool × MqttCore × List MqttEvent :=
  let core := core.fillTxbuff pingreqFields
  if core.mqttTxFlags.newTxPingreqPacket then
    let event := MqttEvent.handed .pingreq core.txbuff.frame sent
    if sent then
      (true,
        { core with
          mqttTxFlags := { core.mqttTxFlags with newTxPingreqPacket := false }
          mqttRxFlags := { core.mqttRxFlags with newRxPingrespPacket := true }
          pingrespTimer := .pending waitForPingrespTimeout },
        [event])
    else (false, core, [event])
  else (false, core, [])

def mqttSendDisconnect (core : MqttCore) (sent : Bool) : Bool × MqttCore × List MqttEvent :=
  let core := core.fillTxbuff disconnectFields
  let event := MqttEvent.handed .disconnect core.txbuff.frame sent
  if sent then (true, { core with mqttTxFlags := .none }, [event])
  else (false, core, [event])

def mqttDisconnect (core : MqttCore) (sent : Bool) : MqttCore × List MqttEvent :=
  if core.mqttState = .connected ∨ core.mqttState = .waitForConnack then
    let (_, core, events) := { core with pingreqTimer := .idle }.mqttSendDisconnect sent
    ({ core with mqttState := .disconnected }, events)
  else (core, [])

def lowestSetFlag (all : UInt8) (getSetFlag : UInt8) : Nat -> UInt8
  -- The `while` loop that looks for the lowest set bit, from bit `getSetFlag` on.
  | 0 => getSetFlag
  | turns + 1 =>
    if all &&& (1 <<< getSetFlag) = 0 then lowestSetFlag all (getSetFlag + 1) turns
    else getSetFlag

def mqttConnectTxSubstate (flags : NewTxDataFlags) : UInt8 := 1 <<< lowestSetFlag flags.all 0 8

def mqttTransmissionHandler (core : MqttCore) (sent : Bool) : MqttCore × List MqttEvent :=
  match core.mqttState with
  | .connecting | .disconnected =>
    if core.mqttTxFlags.newTxConnectPacket then
      let (packetSent, core, events) := core.mqttSendConnect sent
      if packetSent then
        ({ core with
            connackTimer := .pending waitForConnackTimeout
            mqttState := .waitForConnack
            connackTimeoutOccured := false },
          events)
      else (core, events)
    else (core, [])
  | .connected =>
    if core.mqttTxFlags.all > 0 then
      let substate := mqttConnectTxSubstate core.mqttTxFlags
      if substate = MqttConnectCurrentTxSubstate.sendPingreq.code then
        if core.pingreqTimeoutOccured then
          let (_, core, events) := { core with pingreqTimeoutOccured := false }.mqttSendPingreq sent
          (core, events)
        else (core, [])
      else if substate = MqttConnectCurrentTxSubstate.sendPublish.code then
        let (packetSent, core, events) := { core with pingreqTimer := .idle }.mqttSendPublish sent
        if packetSent then
          if core.txConnectPacket.keepAliveTimer > 0 then
            ({ core with pingreqTimer := .pending (pingreqPeriod core.keepAliveTimeout) }, events)
          else (core, events)
        else ({ core with mqttState := .disconnected }, events)
      else if substate = MqttConnectCurrentTxSubstate.sendSubscribe.code then
        let (_, core, events) := core.mqttSendSubscribe sent
        ({ core with pingreqTimer := .pending (pingreqPeriod core.keepAliveTimeout) }, events)
      else (core, [])
    else (core, [])
  | .waitForConnack => (core, [])

def readByte (rxbuff : Ring rxBuffSize) (old : UInt8) : UInt8 × Ring rxBuffSize :=
  -- One byte read into a variable that holds `old`; an empty buffer leaves it alone.
  let (bytes, rxbuff) := rxbuff.read 1
  (bytes.headD old, rxbuff)

def mqttProcessConnack (core : MqttCore) : Bool × MqttCore :=
  -- The return code is an enumeration of one byte.
  let (_, rxbuff) := readByte core.rxbuff 0
  let (_, rxbuff) := readByte rxbuff 0
  let (_, rxbuff) := readByte rxbuff 0
  let (connackReturnCode, rxbuff) := readByte rxbuff 0
  (connackReturnCode = 0, { core with rxbuff := rxbuff })

def mqttProcessPingresp (core : MqttCore) : MqttCore :=
  let (_, rxbuff) := readByte core.rxbuff 0
  let mqttTxFlags :=
    if core.keepAliveTimeout ≠ 0 then { core.mqttTxFlags with newTxPingreqPacket := true }
    else core.mqttTxFlags
  { core with mqttTxFlags := mqttTxFlags, rxbuff := rxbuff.init }

def subackVerdict : List (UInt8 × UInt8) -> MqttCurrentState -> MqttCurrentState
  | [], ret => ret
  | (returnCode, requestedQoS) :: rest, _ =>
    if returnCode = 0x80 then .disconnected
    else if returnCode ≤ requestedQoS then subackVerdict rest .connected
    else .disconnected

def mqttProcessSuback (core : MqttCore) : MqttCurrentState × MqttCore :=
  let (_, rxbuff) := readByte core.rxbuff 0
  let (_, rxbuff) := readByte rxbuff 0
  let (packetIdentifierMSB, rxbuff) := readByte rxbuff 0
  let (packetIdentifierLSB, rxbuff) := readByte rxbuff 0
  let packet := core.txSubscribePacket
  let (ret, rxbuff) :=
    if packetIdentifierLSB ≠ packet.packetIdentifierLSB ∨
        packetIdentifierMSB ≠ packet.packetIdentifierMSB then
      (MqttCurrentState.disconnected, rxbuff)
    else
      -- One byte is read; the second return code keeps the zero of `memset`.
      let (returnCode, rxbuff) := readByte rxbuff 0
      (subackVerdict
        [(returnCode, packet.subscribePayload.1.requestedQoS),
          (0, packet.subscribePayload.2.requestedQoS)] .connected, rxbuff)
  (ret,
    { core with
      mqttRxFlags := { core.mqttRxFlags with newRxSubackPacket := false }
      rxbuff := rxbuff.init })

def readRemainingLength (rxbuff : Ring rxBuffSize) (remainingLength : List UInt8) (i : Nat) :
    Nat -> List UInt8 × Ring rxBuffSize
  | 0 => (remainingLength, rxbuff)
  | turns + 1 =>
    if remainingLength.getD (i - 1) 0 &&& 0x80 ≠ 0 then
      let (byte, rxbuff) := readByte rxbuff (remainingLength.getD i 0)
      readRemainingLength rxbuff (remainingLength.set i byte) (i + 1) turns
    else (remainingLength, rxbuff)

def intoArray (size : Nat) (bytes : List UInt8) : List UInt8 :=
  (bytes ++ List.replicate (size - bytes.length) 0).take size

def memcmpEqual : Pointer -> Pointer -> Nat -> Option Bool
  -- `memcmp(left, right, count) == 0`; running off an array is `none`.
  | _, _, 0 => some true
  | l :: left, r :: right, count + 1 => if l = r then memcmpEqual left right count else some false
  | _, _, _ + 1 => none

structure RxPublishPacket where
  topicLength : UInt16
  topic : List UInt8
  payload : List UInt8

def readPublishPacket (rxbuff : Ring rxBuffSize) : RxPublishPacket × Ring rxBuffSize :=
  let (_, rxbuff) := readByte rxbuff 0
  let (first, rxbuff) := readByte rxbuff 0
  let (remainingLength, rxbuff) := readRemainingLength rxbuff [first, 0, 0, 0] 2 2
  let decodedLength := (mqttDecodeLength remainingLength).getD 0
  let (topicBytes, rxbuff) := rxbuff.read 2
  let topicLength := ofBigEndian (topicBytes.getD 0 0) (topicBytes.getD 1 0)
  let decodedLength := decodedLength - 2
  let (topic, rxbuff) := rxbuff.read topicLength.toNat
  let decodedLength := decodedLength - topicLength.toUInt32
  -- The count parameter of the read has sixteen bits.
  let (payload, rxbuff) := rxbuff.read decodedLength.toUInt16.toNat
  ({ topicLength, topic, payload }, rxbuff)

def dispatch (topic payload : List UInt8) (topicLength : Nat) :
    List PublishReceptionHandler -> List MqttEvent
  -- The callback gets the two local arrays.
  | [] => []
  | none :: _ => [.invalidAccess]
  | some registered :: rest =>
    match memcmpEqual registered topic topicLength with
    | none => [.invalidAccess]
    | some true => [.published topic payload]
    | some false => dispatch topic payload topicLength rest

def deliver (table : Option (PublishReceptionHandler × PublishReceptionHandler))
    (packet : RxPublishPacket) : List MqttEvent :=
  let overrun :=
    if packet.topic.length > topicSize ∨ packet.payload.length > payloadArraySize then
      [MqttEvent.invalidAccess]
    else []
  let mqttTopic := intoArray topicSize packet.topic
  let mqttPayload := intoArray payloadArraySize packet.payload
  match table with
  | none => overrun ++ [.invalidAccess]
  | some (first, second) =>
    overrun ++ dispatch mqttTopic mqttPayload packet.topicLength.toNat [first, second]

def answer (callback : List UInt8 -> List UInt8 -> Option MqttPublishPacket) :
    List MqttEvent -> Option MqttPublishPacket
  | [] => none
  | .published topic payload :: _ => callback topic payload
  | _ :: rest => answer callback rest

def mqttProcessPublish (core : MqttCore)
    (callback : List UInt8 -> List UInt8 -> Option MqttPublishPacket) :
    MqttCore × List MqttEvent :=
  let (packet, rxbuff) := readPublishPacket core.rxbuff
  let delivered := deliver core.publishRecvInfo packet
  let core := { core with rxbuff := rxbuff }
  let (core, created) :=
    match answer callback delivered with
    | some newPublishPacket => core.mqttCreatePublishPacket newPublishPacket
    | none => (core, [])
  ({ core with rxbuff := core.rxbuff.init }, delivered ++ created)

def mqttProcessPuback (core : MqttCore) : MqttCore :=
  let (_, rxbuff) := readByte core.rxbuff 0
  let (_, rxbuff) := readByte rxbuff 0
  let (packetIdentifierMSB, rxbuff) := readByte rxbuff 0
  let (packetIdentifierLSB, rxbuff) := readByte rxbuff 0
  let packet := core.txPublishPacket
  let core := { core with rxbuff := rxbuff }
  if packetIdentifierLSB = packet.packetIdentifierLSB ∧
      packetIdentifierMSB = packet.packetIdentifierMSB then
    { core with mqttRxFlags := { core.mqttRxFlags with newRxPubackPacket := false } }
  else core

def assignSendDisconnect (core : MqttCore) : MqttCore :=
  { core with mqttState := (MqttCurrentState.ofSubstate .sendDisconnect).getD core.mqttState }

def receivedPacketType (core : MqttCore) : Fin 16 :=
  (MqttHeaderFlags.ofAll core.rxbuff.peekByte).controlPacketType

def mqttReceptionHandler (core : MqttCore) (now : UInt32)
    (callback : List UInt8 -> List UInt8 -> Option MqttPublishPacket) :
    MqttCore × List MqttEvent :=
  if core.rxbuff.dataLength = 0 then (core, [])
  else
    match core.mqttState with
    | .waitForConnack =>
      if core.connackTimeoutOccured then
        ({ core with mqttState := .disconnected }, [.closed])
      else
        let packetType := core.receivedPacketType
        let core := { core with connackTimer := .idle }
        if packetType = MqttControlPacketType.connack.code then
          let (accepted, core) := core.mqttProcessConnack
          if accepted then
            let core := { core with mqttState := .connected, connectTime := now }
            if core.keepAliveTimeout ≠ 0 then
              ({ core with
                  mqttTxFlags := { core.mqttTxFlags with newTxPingreqPacket := true }
                  pingreqTimer := .pending (pingreqPeriod core.keepAliveTimeout) },
                [.processed packetType, .accepted])
            else (core, [.processed packetType, .accepted])
          else ({ core with mqttState := .disconnected }, [.processed packetType])
        else ({ core with mqttState := .disconnected }, [.processed packetType, .closed])
    | .connected =>
      let packetType := core.receivedPacketType
      if packetType = MqttControlPacketType.pingresp.code then
        if core.mqttRxFlags.newRxPingrespPacket ∧ core.pingrespTimeoutOccured = false then
          ({ core with pingrespTimer := .idle }.mqttProcessPingresp, [.processed packetType])
        else (core.assignSendDisconnect, [.processed packetType])
      else if packetType = MqttControlPacketType.suback.code then
        if core.mqttRxFlags.newRxSubackPacket then
          let (mqttState, core) := core.mqttProcessSuback
          ({ core with mqttState := mqttState }, [.processed packetType])
        else (core.assignSendDisconnect, [.processed packetType])
      else if packetType = MqttControlPacketType.publish.code then
        let (core, events) := core.mqttProcessPublish callback
        (core, .processed packetType :: events)
      else if packetType = MqttControlPacketType.puback.code then
        (core.mqttProcessPuback, [.processed packetType])
      else (core, [.processed packetType])
    | .connecting | .disconnected => (core, [])

def mqttGetReceivedData (core : MqttCore) (pData : List UInt8) (len : Nat) : MqttCore :=
  -- The length parameter has eight bits.
  { core with rxbuff := core.rxbuff.init.write (pData.take (UInt8.ofNat len).toNat) }

def checkConnackTimeoutState (core : MqttCore) : MqttCore × UInt32 :=
  ({ core with connackTimeoutOccured := true }, 0)

def checkPingreqTimeoutState (core : MqttCore) : MqttCore × UInt32 :=
  ({ core with pingreqTimeoutOccured := true }, pingreqPeriod core.keepAliveTimeout)

def checkPingrespTimeoutState (core : MqttCore) : MqttCore × UInt32 :=
  ({ core with pingrespTimeoutOccured := true }, waitForPingrespTimeout)

end MqttCore

inductive MqttTimer
  | connack
  | pingreq
  | pingresp
  deriving DecidableEq

namespace MqttCore

def timer (core : MqttCore) : MqttTimer -> TimerStatus
  | .connack => core.connackTimer
  | .pingreq => core.pingreqTimer
  | .pingresp => core.pingrespTimer

def setTimer (core : MqttCore) (timer : MqttTimer) (status : TimerStatus) : MqttCore :=
  match timer with
  | .connack => { core with connackTimer := status }
  | .pingreq => { core with pingreqTimer := status }
  | .pingresp => { core with pingrespTimer := status }

def timerExpires (core : MqttCore) (timer : MqttTimer) : MqttCore :=
  -- The interrupt moves a running timer to the queue of callbacks.
  core.setTimer timer (core.timer timer).expire

def timerCallback (core : MqttCore) : MqttTimer -> MqttCore × UInt32
  | .connack => core.checkConnackTimeoutState
  | .pingreq => core.checkPingreqTimeoutState
  | .pingresp => core.checkPingrespTimeoutState

def timerRuns (core : MqttCore) (timer : MqttTimer) : MqttCore :=
  -- The scheduler runs the callback of a queued timer and starts the timer again if it says so.
  match core.timer timer with
  | .expired _ =>
    let (core, again) := core.timerCallback timer
    core.setTimer timer (.reschedule again)
  | _ => core

end MqttCore

inductive MqttAction
  | createConnectPacket (newConnectPacket : MqttConnectPacket)
  | createPublishPacket (newPublishPacket : MqttPublishPacket)
  | createSubscribePacket (newSubscribePacket : MqttSubscribePacket)
  | disconnect (sent : Bool)
  | initialiseState
  | clientInitialise
  | transmissionHandler (sent : Bool)
  | receptionHandler (now : UInt32)
      (callback : List UInt8 -> List UInt8 -> Option MqttPublishPacket)
  | timerExpires (timer : MqttTimer)
  | timerRuns (timer : MqttTimer)
  | getReceivedData (pData : List UInt8)
  | setPublishReceptionHandlerTable
      (table : Option (PublishReceptionHandler × PublishReceptionHandler))

namespace MqttCore

def step (core : MqttCore) : MqttAction -> MqttCore × List MqttEvent
  | .createConnectPacket newConnectPacket => core.mqttCreateConnectPacket newConnectPacket
  | .createPublishPacket newPublishPacket => core.mqttCreatePublishPacket newPublishPacket
  | .createSubscribePacket newSubscribePacket => core.mqttCreateSubscribePacket newSubscribePacket
  | .disconnect sent => core.mqttDisconnect sent
  | .initialiseState => (core.mqttInitialiseState, [])
  | .clientInitialise => (core.mqttClientInitialise, [])
  | .transmissionHandler sent => core.mqttTransmissionHandler sent
  | .receptionHandler now callback => core.mqttReceptionHandler now callback
  | .timerExpires timer => (core.timerExpires timer, [])
  | .timerRuns timer => (core.timerRuns timer, [])
  | .getReceivedData pData => (core.mqttGetReceivedData pData pData.length, [])
  | .setPublishReceptionHandlerTable table => ({ core with publishRecvInfo := table }, [])

end MqttCore

end AvrVoiceControl
