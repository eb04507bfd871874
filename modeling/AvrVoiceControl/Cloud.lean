import AvrVoiceControl.MqttCore
import AvrVoiceControl.Library.LinkLog

set_option autoImplicit false

namespace AvrVoiceControl

open CString LinkLog TimeoutService

abbrev cloudMqttTimeoutCount : UInt32 := 10000
abbrev cloudResetTimeout : UInt32 := 2000
abbrev mqttConnAgeTimeout : Int32 := 3600
abbrev cfgMqttConnTimeout : UInt16 := 10

inductive SocketState
  | notASocket
  | socketClosed
  | socketInProgress
  | socketConnected
  deriving DecidableEq

/-- A packet type that was given to `MQTT_Send`, and what `MQTT_Send` returned. -/
abbrev Handed := MqttControlPacketType × Bool

abbrev WireEvent := LinkEvent UInt8 Handed

inductive CloudTimer
  | mqttTimeoutTask
  | cloudResetTask
  deriving DecidableEq

/-- The statics of the cloud service and the entries of `cloud_packetReceiveCallBackTable`. Entry 0
points to `mqqtSocket` once it is registered; the socket pointer of entry 1 is NULL and leads to
the byte at address zero, a port register. -/
structure Cloud where
  core : MqttCore
  cloudInitialized : Bool
  waitingForMQTT : Bool
  isResetting : Bool
  cloudResetTimerFlag : Bool
  sendSubscribe : Bool
  mqttGoogleApisComIP : UInt32
  haveAPConnection : Bool
  mqttTimeoutTaskTimer : TimerStatus
  cloudResetTaskTimer : TimerStatus
  mqqtSocket : Int8
  registered : Bool
  socketState : SocketState
  spareState : SocketState
  zeroByte : Int8

namespace Cloud

def boot : Cloud where
  core := .boot
  cloudInitialized := false
  waitingForMQTT := false
  isResetting := false
  cloudResetTimerFlag := false
  sendSubscribe := true
  mqttGoogleApisComIP := 0
  haveAPConnection := false
  mqttTimeoutTaskTimer := .idle
  cloudResetTaskTimer := .idle
  mqqtSocket := -1
  registered := false
  socketState := .notASocket
  spareState := .notASocket
  zeroByte := 0

def andThen (first : Cloud × List WireEvent) (next : Cloud -> Cloud × List WireEvent) :
    Cloud × List WireEvent :=
  let second := next first.1
  (second.1, first.2 ++ second.2)

inductive TableEntry
  | mqtt
  | spare
  deriving DecidableEq

def getSocketInfo (cloud : Cloud) (sock : UInt8) : Option TableEntry :=
  -- Before the first `reInit` there is no table.
  if cloud.registered then
    if cloud.mqqtSocket.toInt = sock.toNat then some .mqtt
    else if cloud.zeroByte.toInt = sock.toNat then some .spare
    else none
  else none

def setSocketState (cloud : Cloud) (entry : TableEntry) (state : SocketState) : Cloud :=
  match entry with
  | .mqtt => { cloud with socketState := state }
  | .spare => { cloud with spareState := state }

def bsdGetSocketState (cloud : Cloud) (sock : UInt8) : SocketState :=
  match cloud.getSocketInfo sock with
  | some .mqtt => cloud.socketState
  | some .spare => cloud.spareState
  | none => .notASocket

def bsdClose (cloud : Cloud) (sock : UInt8) : Cloud × List WireEvent :=
  match cloud.getSocketInfo sock with
  | some entry => (cloud.setSocketState entry .notASocket, [.closed sock])
  | none => (cloud, [.closed sock])

def tcpClientSocket (cloud : Cloud) : UInt8 := cloud.mqqtSocket.toUInt8

def mqttTransport (cloud : Cloud) : List MqttEvent -> Cloud × List WireEvent
  | [] => (cloud, [])
  | .handed packetType _ sent :: rest =>
    andThen (cloud, [.carried cloud.tcpClientSocket (packetType, sent)])
      (·.mqttTransport rest)
  | .closed :: rest =>
    andThen (cloud.bsdClose cloud.tcpClientSocket) (·.mqttTransport rest)
  | _ :: rest => cloud.mqttTransport rest

def mqtt (cloud : Cloud) (action : MqttAction) : Cloud × List WireEvent :=
  let (core, events) := cloud.core.step action
  { cloud with core }.mqttTransport events

def timer (cloud : Cloud) : CloudTimer -> TimerStatus
  | .mqttTimeoutTask => cloud.mqttTimeoutTaskTimer
  | .cloudResetTask => cloud.cloudResetTaskTimer

def setTimer (cloud : Cloud) (timer : CloudTimer) (status : TimerStatus) : Cloud :=
  match timer with
  | .mqttTimeoutTask => { cloud with mqttTimeoutTaskTimer := status }
  | .cloudResetTask => { cloud with cloudResetTaskTimer := status }

def cloudReset (cloud : Cloud) : Cloud := { cloud with cloudInitialized := false }

def mqttTimeoutTask (cloud : Cloud) : Cloud :=
  { cloud.cloudReset with waitingForMQTT := false }

def reInit (cloud : Cloud) (connects : Bool) : Cloud × List WireEvent :=
  -- `connects` is what `m2m_wifi_connect` says.
  let cloud :=
    { cloud with
      mqttGoogleApisComIP := 0
      haveAPConnection := false
      waitingForMQTT := false
      isResetting := false }
  andThen (cloud.mqtt .clientInitialise) fun cloud =>
    let cloud :=
      { cloud with
        registered := true
        socketState := .notASocket
        spareState := .notASocket }
    if connects then
      ({ cloud with
          cloudResetTaskTimer := .idle
          mqttTimeoutTaskTimer := .pending cloudMqttTimeoutCount
          cloudResetTimerFlag := false
          waitingForMQTT := true
          cloudInitialized := true },
        [])
    else ({ cloud with cloudInitialized := false }, [])

/-- The environment of one run of `CLOUD_task`: the time, the strings of the credentials, the
application's publish handler, and the results of the calls into the socket layer. -/
structure TaskInput where
  now : UInt32
  cid : List UInt8
  mqttPassword : List UInt8
  deviceId : List UInt8
  callback : List UInt8 -> List UInt8 -> Option MqttPublishPacket
  socketNumber : Int8
  connects : Bool
  sent : Bool
  sentDisconnect : Bool

def mqttClientConnect (input : TaskInput) : MqttConnectPacket :=
  { MqttConnectPacket.zero with
    connectFlagsByte := 0x02
    keepAliveTimer := cfgMqttConnTimeout
    clientID := input.cid
    passwordLength := UInt16.ofNat input.mqttPassword.length
    password := input.mqttPassword ++ [0] }

def connectMQTT (cloud : Cloud) (input : TaskInput) : Cloud × List WireEvent :=
  andThen
    (if input.now > 0 then
      cloud.mqtt (.createConnectPacket (mqttClientConnect input))
    else (cloud, []))
    fun cloud => ({ cloud with sendSubscribe := true }, [])

def mqttSubscribeTopic (deviceId : List UInt8) : List UInt8 :=
  -- "/devices/%s/config"
  [47, 100, 101, 118, 105, 99, 101, 115, 47] ++ deviceId ++ [47, 99, 111, 110, 102, 105, 103]

def subscribePacket (deviceId : List UInt8) : MqttSubscribePacket :=
  let topic := mqttSubscribeTopic deviceId
  let payload : MqttSubscribePayload := ⟨UInt16.ofNat topic.length, topic ++ [0], 0⟩
  { MqttSubscribePacket.zero with
    packetIdentifierLSB := 1
    packetIdentifierMSB := 0
    subscribePayload := (payload, payload) }

def cloudSubscribe (cloud : Cloud) (input : TaskInput) : Cloud × List WireEvent :=
  let table := some (some (mqttSubscribeTopic input.deviceId ++ [0]), none)
  andThen (cloud.mqtt (.setPublishReceptionHandlerTable table)) fun cloud =>
    -- MQTT_CreateSubscribePacket returns true in CONNECTED.
    let created := cloud.core.mqttState = .connected
    andThen (cloud.mqtt (.createSubscribePacket (subscribePacket input.deviceId)))
      fun cloud => if created then ({ cloud with sendSubscribe := false }, []) else (cloud, [])

def cloudDisconnect (cloud : Cloud) (sent : Bool) : Cloud × List WireEvent :=
  if cloud.core.mqttState = .connected then cloud.mqtt (.disconnect sent) else (cloud, [])

-- `socket` says which number is free, -1 for none.
def bsdSocket (socketNumber : Int8) : Int8 := if socketNumber < 0 then -1 else socketNumber

def bsdConnect (cloud : Cloud) (sock : UInt8) (connects : Bool) : Option Cloud :=
  -- `none` is `BSD_ERROR`.
  match cloud.getSocketInfo sock with
  | some entry => if connects then some (cloud.setSocketState entry .socketInProgress) else none
  | none => none

/-- The first half of `connectMQTTSocket`, in NOT_A_SOCKET. -/
def createMQTTSocket (cloud : Cloud) (input : TaskInput) : Cloud :=
  let cloud := { cloud with mqqtSocket := bsdSocket input.socketNumber }
  if cloud.mqqtSocket ≥ 0 then
    match cloud.getSocketInfo cloud.tcpClientSocket with
    | some entry => cloud.setSocketState entry .socketClosed
    | none => cloud
  else cloud

def connectMQTTSocket (cloud : Cloud) (input : TaskInput) : Cloud × List WireEvent :=
  if cloud.mqttGoogleApisComIP ≠ 0 then
    let cloud :=
      if cloud.bsdGetSocketState cloud.tcpClientSocket = .notASocket then
        cloud.createMQTTSocket input
      else cloud
    if cloud.bsdGetSocketState cloud.tcpClientSocket = .socketClosed then
      match cloud.bsdConnect cloud.tcpClientSocket input.connects with
      | some cloud => (cloud, [])
      | none => cloud.bsdClose cloud.tcpClientSocket
    else (cloud, [])
  else (cloud, [])

def mqttGetConnectionAge (core : MqttCore) (now : UInt32) : Int32 :=
  -- `difftime` subtracts in thirty-two bits and gives a signed result.
  if core.connectTime > 0 then (now - core.connectTime).toInt32 else 0

/-- The first part of `CLOUD_task`, which sets the two supervision timers. -/
def supervise (cloud : Cloud) : Cloud :=
  if ¬ cloud.cloudInitialized then
    if ¬ cloud.isResetting then
      { cloud with
        isResetting := true
        mqttTimeoutTaskTimer := .idle
        cloudResetTaskTimer := .pending cloudResetTimeout
        cloudResetTimerFlag := true }
    else cloud
  else if ¬ cloud.waitingForMQTT then
    if cloud.core.mqttState ≠ .connected ∧ cloud.cloudResetTimerFlag = false then
      { cloud with
        mqttTimeoutTaskTimer := .pending cloudMqttTimeoutCount
        waitingForMQTT := true }
    else cloud
  else cloud

/-- What `CLOUD_task` does in a session after both handlers have run. -/
def serveSession (cloud : Cloud) (input : TaskInput) : Cloud × List WireEvent :=
  let cloud :=
    { cloud with
      mqttTimeoutTaskTimer := .idle
      cloudResetTaskTimer := .idle
      isResetting := false
      waitingForMQTT := false }
  andThen (if cloud.sendSubscribe then cloud.cloudSubscribe input else (cloud, [])) fun cloud =>
    if mqttGetConnectionAge cloud.core input.now > mqttConnAgeTimeout then
      andThen (cloud.mqtt (.disconnect input.sentDisconnect)) fun cloud =>
        cloud.bsdClose cloud.tcpClientSocket
    else (cloud, [])

def handlePackets (cloud : Cloud) (input : TaskInput) : Cloud × List WireEvent :=
  andThen (cloud.mqtt (.receptionHandler input.now input.callback)) fun cloud =>
    andThen (cloud.mqtt (.transmissionHandler input.sent)) fun cloud =>
      if cloud.core.mqttState = .connected then cloud.serveSession input else (cloud, [])

def cloudTask (cloud : Cloud) (input : TaskInput) : Cloud × List WireEvent :=
  let cloud := cloud.supervise
  if cloud.haveAPConnection = false then
    if cloud.core.mqttState = .connected then
      cloud.mqtt (.disconnect input.sentDisconnect)
    else (cloud, [])
  else
    match cloud.bsdGetSocketState cloud.tcpClientSocket with
    | .notASocket | .socketClosed =>
      andThen (cloud.mqtt .clientInitialise) (connectMQTTSocket · input)
    | .socketConnected =>
      if cloud.core.mqttState = .disconnected then cloud.connectMQTT input
      else cloud.handlePackets input
    | .socketInProgress => (cloud, [])

inductive SocketMessage
  -- A message without its structure does nothing.
  | connect (s8Error : Int8)
  | send
  | recv (buffer : List UInt8)

/-- The receive callback of entry 0 is `MQTT_CLIENT_receive`; the call through the NULL of entry 1
is left out. A message without bytes says that the peer has closed the connection. -/
def bsdSocketHandler (cloud : Cloud) (sock : UInt8) (message : SocketMessage) :
    Cloud × List WireEvent :=
  match cloud.getSocketInfo sock with
  | none => (cloud, [])
  | some entry =>
    match message with
    | .connect s8Error =>
      if s8Error ≥ 0 then (cloud.setSocketState entry .socketConnected, [.opened sock])
      else cloud.bsdClose sock
    | .send => (cloud.setSocketState entry .socketConnected, [])
    | .recv [] => cloud.bsdClose sock
    | .recv (first :: rest) =>
      match entry with
      | .mqtt =>
        andThen (cloud.mqtt (.getReceivedData (first :: rest))) fun cloud =>
          (cloud.setSocketState .mqtt .socketConnected, [])
      | .spare => (cloud.setSocketState .spare .socketConnected, [])

def mainDataTask (cloud : Cloud) (sw0 sw1 sent : Bool) :
    Cloud × List WireEvent :=
  -- The buttons; `sendToCloud` only sets the LEDs.
  andThen (if sw0 then cloud.cloudDisconnect sent else (cloud, [])) fun cloud =>
    if sw1 then ({ cloud with haveAPConnection := true }, []) else (cloud, [])

end Cloud

inductive CloudAction
  | cloudTask (input : Cloud.TaskInput)
  | mainDataTask (sw0 sw1 sent : Bool)
  | reconnectCmd (sent : Bool)
  | socketHandler (sock : UInt8) (message : Cloud.SocketMessage)
  | dnsHandler (serverIP : UInt32)
  | apConnection (have' : Bool)
  | wifiDisconnected
  | timerExpires (timer : CloudTimer)
  | timerRuns (timer : CloudTimer) (connects : Bool)
  | mqttTimerExpires (timer : MqttTimer)
  | mqttTimerRuns (timer : MqttTimer)
  | portChanges (zeroByte : Int8)

namespace Cloud

def timerRuns (cloud : Cloud) (timer : CloudTimer) (connects : Bool) :
    Cloud × List WireEvent :=
  -- The scheduler runs the callback of a queued timer; both callbacks return zero.
  match cloud.timer timer with
  | .expired _ =>
    let cloud := cloud.setTimer timer .idle
    match timer with
    | .mqttTimeoutTask => (cloud.mqttTimeoutTask, [])
    | .cloudResetTask => cloud.reInit connects
  | _ => (cloud, [])

def step (cloud : Cloud) : CloudAction -> Cloud × List WireEvent
  | .cloudTask input => cloud.cloudTask input
  | .mainDataTask sw0 sw1 sent => cloud.mainDataTask sw0 sw1 sent
  | .reconnectCmd sent => cloud.mqtt (.disconnect sent)
  | .socketHandler sock message => cloud.bsdSocketHandler sock message
  | .dnsHandler serverIP =>
    if serverIP ≠ 0 then ({ cloud with mqttGoogleApisComIP := serverIP }, []) else (cloud, [])
  | .apConnection have' => ({ cloud with haveAPConnection := have' }, [])
  | .wifiDisconnected => (cloud.cloudReset, [])
  | .timerExpires timer => (cloud.setTimer timer (cloud.timer timer).expire, [])
  | .timerRuns timer connects => cloud.timerRuns timer connects
  | .mqttTimerExpires timer => cloud.mqtt (.timerExpires timer)
  | .mqttTimerRuns timer => cloud.mqtt (.timerRuns timer)
  | .portChanges zeroByte => ({ cloud with zeroByte }, [])

def SocketConnected (cloud : Cloud) : Prop :=
  cloud.bsdGetSocketState cloud.tcpClientSocket = .socketConnected

instance (cloud : Cloud) : Decidable cloud.SocketConnected := by
  unfold SocketConnected
  infer_instance

theorem int8_cases (x : Int8) :
    x.toInt = x.toUInt8.toNat ∧ x.toUInt8.toNat < 128 ∨
      x.toInt = x.toUInt8.toNat - 256 ∧ 128 ≤ x.toUInt8.toNat ∧ x.toUInt8.toNat < 256 := by
  have bound := x.toUInt8.toNat_lt
  rw [← Int8.toInt_toBitVec, BitVec.toInt_eq_toNat_cond, Int8.toNat_toBitVec]
  split <;> omega

theorem getSocketInfo_mqtt {cloud : Cloud} {sock : UInt8}
    (found : cloud.getSocketInfo sock = some .mqtt) :
    sock = cloud.tcpClientSocket ∧ cloud.registered = true ∧ 0 ≤ cloud.mqqtSocket := by
  unfold getSocketInfo at found
  split at found
  case isFalse => cases found
  case isTrue registered =>
    split at found
    case isFalse => split at found <;> cases found
    case isTrue same =>
      have cases := int8_cases cloud.mqqtSocket
      have bound := sock.toNat_lt
      refine ⟨UInt8.toNat_inj.mp ?_, registered, Int8.le_iff_toInt_le.mpr ?_⟩
      · rw [tcpClientSocket]
        omega
      · rw [same]
        exact Int.natCast_nonneg _

theorem getSocketInfo_tcpClientSocket {cloud : Cloud} (registered : cloud.registered = true)
    (valid : 0 ≤ cloud.mqqtSocket) :
    cloud.getSocketInfo cloud.tcpClientSocket = some .mqtt := by
  have cases := int8_cases cloud.mqqtSocket
  have nonneg : (0 : Int) ≤ cloud.mqqtSocket.toInt := Int8.le_iff_toInt_le.mp valid
  have same : cloud.mqqtSocket.toInt = cloud.tcpClientSocket.toNat := by
    rw [tcpClientSocket]
    omega
  simp [getSocketInfo, registered, same]

theorem getSocketInfo_spare {cloud : Cloud} {sock : UInt8}
    (found : cloud.getSocketInfo sock = some .spare) : sock ≠ cloud.tcpClientSocket := by
  rintro rfl
  unfold getSocketInfo at found
  split at found
  case isFalse => cases found
  case isTrue registered =>
    split at found
    case isTrue => cases found
    case isFalse other =>
      split at found
      case isFalse => cases found
      case isTrue zero =>
        have valid := int8_cases cloud.mqqtSocket
        have byte := int8_cases cloud.zeroByte
        rw [tcpClientSocket] at other zero
        omega

theorem socketConnected_iff (cloud : Cloud) :
    cloud.SocketConnected ↔
      cloud.registered = true ∧ 0 ≤ cloud.mqqtSocket ∧ cloud.socketState = .socketConnected := by
  unfold SocketConnected bsdGetSocketState
  constructor
  · intro connected
    split at connected
    case h_1 found =>
      obtain ⟨-, registered, valid⟩ := getSocketInfo_mqtt found
      exact ⟨registered, valid, connected⟩
    case h_2 found => exact absurd rfl (getSocketInfo_spare found)
    case h_3 => cases connected
  · rintro ⟨registered, valid, connected⟩
    rw [getSocketInfo_tcpClientSocket registered valid]
    exact connected

end Cloud

end AvrVoiceControl
