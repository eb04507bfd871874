import AvrVoiceControl.Cloud
import AvrVoiceControl.MqttSteps

set_option autoImplicit false

namespace AvrVoiceControl

open LinkLog TimeoutService

namespace Cloud

def handed? : WireEvent -> Option Handed
  | .carried _ packet => some packet
  | _ => none

def handedOf (trace : List WireEvent) : List Handed := trace.filterMap handed?

def packet? : MqttEvent -> Option Handed
  | .handed packetType _ sent => some (packetType, sent)
  | _ => none

@[simp] theorem handedOf_nil : handedOf [] = [] := rfl

@[simp] theorem handedOf_append (trace later : List WireEvent) :
    handedOf (trace ++ later) = handedOf trace ++ handedOf later :=
  List.filterMap_append

def withSockets (cloud : Cloud) (socketState spareState : SocketState) : Cloud :=
  { cloud with socketState, spareState }

theorem setSocketState_frame (cloud : Cloud) (entry : TableEntry) (state : SocketState) :
    ∃ socketState spareState,
      cloud.setSocketState entry state = cloud.withSockets socketState spareState := by
  cases entry with
  | mqtt => exact ⟨state, cloud.spareState, rfl⟩
  | spare => exact ⟨cloud.socketState, state, rfl⟩

theorem bsdClose_frame (cloud : Cloud) (sock : UInt8) :
    ∃ socketState spareState,
      cloud.bsdClose sock = (cloud.withSockets socketState spareState, [.closed sock]) := by
  unfold bsdClose
  split
  case h_1 entry found =>
    obtain ⟨socketState, spareState, same⟩ := cloud.setSocketState_frame entry .notASocket
    exact ⟨socketState, spareState, by rw [same]⟩
  case h_2 => exact ⟨cloud.socketState, cloud.spareState, rfl⟩

theorem mqttTransport_frame (events : List MqttEvent) (cloud : Cloud) :
    (∃ socketState spareState,
        (cloud.mqttTransport events).1 = cloud.withSockets socketState spareState) ∧
      handedOf (cloud.mqttTransport events).2 = events.filterMap packet? := by
  induction events generalizing cloud with
  | nil => exact ⟨⟨cloud.socketState, cloud.spareState, rfl⟩, rfl⟩
  | cons event rest ih =>
    cases event with
    | handed packetType frame sent =>
      obtain ⟨same, packets⟩ := ih cloud
      refine ⟨same, ?_⟩
      simp only [mqttTransport, andThen, handedOf_append, packets]
      rfl
    | closed =>
      obtain ⟨socketState, spareState, closed⟩ := cloud.bsdClose_frame cloud.tcpClientSocket
      obtain ⟨⟨socketState', spareState', same⟩, packets⟩ :=
        ih (cloud.withSockets socketState spareState)
      simp only [mqttTransport, andThen, closed, handedOf_append, packets]
      exact ⟨⟨socketState', spareState', same⟩, rfl⟩
    | _ => exact ih cloud

theorem mqtt_frame (cloud : Cloud) (action : MqttAction) :
    (∃ socketState spareState,
        (cloud.mqtt action).1 =
          { cloud with core := (cloud.core.step action).1 }.withSockets socketState spareState) ∧
      handedOf (cloud.mqtt action).2 = (cloud.core.step action).2.filterMap packet? :=
  mqttTransport_frame _ _

/-- One run of `CLOUD_task`, one constructor for each way through it. -/
inductive Tasks (cloud : Cloud) (input : TaskInput) : Cloud × List WireEvent -> Prop
  | loses (noAP : cloud.haveAPConnection = false) (on : cloud.core.mqttState = .connected) :
      Tasks cloud input (cloud.supervise.mqtt (.disconnect input.sentDisconnect))
  | waits : Tasks cloud input (cloud.supervise, [])
  | opens :
      Tasks cloud input
        (andThen (cloud.supervise.mqtt .clientInitialise) (connectMQTTSocket · input))
  | connects (off : cloud.core.mqttState = .disconnected) :
      Tasks cloud input (cloud.supervise.connectMQTT input)
  | serves (on : cloud.core.mqttState ≠ .disconnected) :
      Tasks cloud input (cloud.supervise.handlePackets input)

theorem supervise_frame (cloud : Cloud) :
    cloud.supervise.core = cloud.core ∧
      cloud.supervise.haveAPConnection = cloud.haveAPConnection ∧
      cloud.supervise.sendSubscribe = cloud.sendSubscribe := by
  unfold supervise
  split
  · split <;> exact ⟨rfl, rfl, rfl⟩
  · split
    · split <;> exact ⟨rfl, rfl, rfl⟩
    · exact ⟨rfl, rfl, rfl⟩

theorem cloudTask_tasks (cloud : Cloud) (input : TaskInput) :
    Tasks cloud input (cloud.cloudTask input) := by
  obtain ⟨core, haveAP, -⟩ := cloud.supervise_frame
  unfold cloudTask
  dsimp only
  rw [core, haveAP]
  by_cases noAP : cloud.haveAPConnection = false
  · rw [if_pos noAP]
    by_cases on : cloud.core.mqttState = .connected
    · rw [if_pos on]
      exact .loses noAP on
    · rw [if_neg on]
      exact .waits
  rw [if_neg noAP]
  split
  · exact .opens
  · exact .opens
  · by_cases off : cloud.core.mqttState = .disconnected
    · rw [if_pos off]
      exact .connects off
    · rw [if_neg off]
      exact .serves off
  · exact .waits

theorem createMQTTSocket_frame (cloud : Cloud) (input : TaskInput) :
    ∃ mqqtSocket socketState spareState,
      cloud.createMQTTSocket input =
        { cloud with mqqtSocket }.withSockets socketState spareState := by
  unfold createMQTTSocket
  dsimp only
  split
  · split
    case h_1 entry found =>
      obtain ⟨socketState, spareState, same⟩ :=
        setSocketState_frame { cloud with mqqtSocket := bsdSocket input.socketNumber } entry
          .socketClosed
      exact ⟨_, socketState, spareState, same⟩
    case h_2 => exact ⟨bsdSocket input.socketNumber, cloud.socketState, cloud.spareState, rfl⟩
  · exact ⟨bsdSocket input.socketNumber, cloud.socketState, cloud.spareState, rfl⟩

theorem bsdConnect_some {cloud next : Cloud} {sock : UInt8} {connects : Bool}
    (opened : cloud.bsdConnect sock connects = some next) :
    ∃ entry, cloud.getSocketInfo sock = some entry ∧
      next = cloud.setSocketState entry .socketInProgress := by
  unfold bsdConnect at opened
  split at opened
  case h_1 entry found =>
    split at opened
    case isTrue => exact ⟨entry, found, (Option.some.inj opened).symm⟩
    case isFalse => cases opened
  case h_2 => cases opened

theorem connectMQTTSocket_frame (cloud : Cloud) (input : TaskInput) :
    (∃ mqqtSocket socketState spareState,
        (cloud.connectMQTTSocket input).1 =
          { cloud with mqqtSocket }.withSockets socketState spareState) ∧
      handedOf (cloud.connectMQTTSocket input).2 = [] := by
  -- Where `BSD_connect` fails, the socket is closed again.
  have here (next : Cloud) (same : ∃ mqqtSocket socketState spareState,
      next = { cloud with mqqtSocket }.withSockets socketState spareState) (sock : UInt8) :
      (∃ mqqtSocket socketState spareState,
          (next.bsdClose sock).1 =
            { cloud with mqqtSocket }.withSockets socketState spareState) ∧
        handedOf (next.bsdClose sock).2 = [] := by
    obtain ⟨mqqtSocket, socketState, spareState, rfl⟩ := same
    obtain ⟨socketState', spareState', closed⟩ :=
      bsdClose_frame ({ cloud with mqqtSocket }.withSockets socketState spareState) sock
    rw [closed]
    exact ⟨⟨mqqtSocket, socketState', spareState', rfl⟩, rfl⟩
  have stays : ∃ mqqtSocket socketState spareState,
      cloud = { cloud with mqqtSocket }.withSockets socketState spareState :=
    ⟨cloud.mqqtSocket, cloud.socketState, cloud.spareState, rfl⟩
  have created : ∃ mqqtSocket socketState spareState,
      (if cloud.bsdGetSocketState cloud.tcpClientSocket = .notASocket then
        cloud.createMQTTSocket input
      else cloud) = { cloud with mqqtSocket }.withSockets socketState spareState := by
    split
    · exact cloud.createMQTTSocket_frame input
    · exact stays
  unfold connectMQTTSocket
  dsimp only
  generalize (if cloud.bsdGetSocketState cloud.tcpClientSocket = .notASocket then
    cloud.createMQTTSocket input else cloud) = next at created ⊢
  split
  case isFalse => exact ⟨stays, rfl⟩
  case isTrue =>
    split
    case isFalse => exact ⟨created, rfl⟩
    case isTrue =>
      split
      case h_2 => exact here next created _
      case h_1 connecting connects =>
        obtain ⟨entry, -, rfl⟩ := bsdConnect_some connects
        obtain ⟨mqqtSocket, socketState, spareState, rfl⟩ := created
        obtain ⟨socketState', spareState', same⟩ := setSocketState_frame
          ({ cloud with mqqtSocket }.withSockets socketState spareState) entry .socketInProgress
        exact ⟨⟨mqqtSocket, socketState', spareState', same⟩, rfl⟩

def unsupervised (cloud : Cloud) : Cloud :=
  { cloud with
    mqttTimeoutTaskTimer := .idle
    cloudResetTaskTimer := .idle
    isResetting := false
    waitingForMQTT := false }

def subscribed (cloud : Cloud) (input : TaskInput) : Cloud :=
  if cloud.sendSubscribe then
    { cloud with
      core :=
        { cloud.core with
          publishRecvInfo := some (some (mqttSubscribeTopic input.deviceId ++ [0]), none)
          txSubscribePacket := subscribePacketOf (subscribePacket input.deviceId)
          mqttTxFlags := { cloud.core.mqttTxFlags with newTxSubscribePacket := true } }
      sendSubscribe := false }
  else cloud

theorem serveSession_connected {cloud : Cloud} (on : cloud.core.mqttState = .connected)
    (input : TaskInput) :
    cloud.serveSession input =
      let next := cloud.unsupervised.subscribed input
      if mqttGetConnectionAge cloud.core input.now > mqttConnAgeTimeout then
        andThen (next.mqtt (.disconnect input.sentDisconnect)) fun cloud =>
          cloud.bsdClose cloud.tcpClientSocket
      else (next, []) := by
  have first : (if cloud.sendSubscribe then cloud.unsupervised.cloudSubscribe input
      else (cloud.unsupervised, [])) = (cloud.unsupervised.subscribed input, []) := by
    unfold subscribed
    split
    case isTrue =>
      simp [unsupervised, cloudSubscribe, andThen, mqtt, MqttCore.step,
        MqttCore.mqttCreateSubscribePacket, mqttTransport, *]
    case isFalse => simp [unsupervised, *]
  have sameTime : (cloud.unsupervised.subscribed input).core.connectTime =
      cloud.core.connectTime := by
    unfold subscribed
    split <;> rfl
  have whole : cloud.serveSession input =
      andThen
        (if cloud.sendSubscribe then cloud.unsupervised.cloudSubscribe input
        else (cloud.unsupervised, []))
        fun cloud =>
          if mqttGetConnectionAge cloud.core input.now > mqttConnAgeTimeout then
            andThen (cloud.mqtt (.disconnect input.sentDisconnect)) fun cloud =>
              cloud.bsdClose cloud.tcpClientSocket
          else (cloud, []) := rfl
  rw [whole, first, andThen]
  simp only [mqttGetConnectionAge, sameTime, List.nil_append]
  rfl

def handled (core : MqttCore) (input : TaskInput) : MqttCore :=
  ((core.mqttReceptionHandler input.now input.callback).1.mqttTransmissionHandler input.sent).1

theorem handlers_frame (cloud : Cloud) (input : TaskInput) :
    ∃ socketState spareState,
      ((cloud.mqtt (.receptionHandler input.now input.callback)).1.mqtt
        (.transmissionHandler input.sent)).1 =
        { cloud with core := handled cloud.core input }.withSockets socketState spareState := by
  obtain ⟨⟨_, _, received⟩, -⟩ :=
    cloud.mqtt_frame (.receptionHandler input.now input.callback)
  obtain ⟨⟨socketState, spareState, transmitted⟩, -⟩ :=
    (cloud.mqtt (.receptionHandler input.now input.callback)).1.mqtt_frame
      (.transmissionHandler input.sent)
  refine ⟨socketState, spareState, ?_⟩
  rw [transmitted, received]
  rfl

end Cloud

end AvrVoiceControl
