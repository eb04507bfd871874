import AvrVoiceControl.CloudSteps
import AvrVoiceControl.TransmitFlags

set_option autoImplicit false

namespace AvrVoiceControl

open LinkLog

/-- Nothing follows a DISCONNECT, and a CONNECT follows no other. -/
def Permitted (log : List Handed) (packet : Handed) : Prop :=
  (∀ earlier ∈ log, earlier.1 ≠ .disconnect) ∧
    (packet.1 = .connect -> ∀ earlier ∈ log, earlier.1 ≠ .connect)

namespace Cloud

/-- The client is left DISCONNECTED, or still to be connected, and the socket is not closed. -/
def EndsSession (cloud : Cloud) : CloudAction -> Prop
  | .cloudTask input =>
    if cloud.haveAPConnection then
      -- A send that fails, a refused CONNACK, a refusing SUBACK; the other errors close the socket.
      cloud.core.mqttState ≠ .disconnected ∧
        (input.sent = false ∨
          cloud.core.mqttState = .waitForConnack ∧ cloud.core.RefusesConnection ∨
          cloud.core.mqttState = .connected ∧ cloud.core.RefusesSubscription)
    else cloud.core.mqttState = .connected
  | .mainDataTask sw0 _ _ => sw0 = true ∧ cloud.core.mqttState = .connected
  | .reconnectCmd _ =>
    cloud.core.mqttState = .connected ∨ cloud.core.mqttState = .waitForConnack
  | _ => False

instance (cloud : Cloud) (action : CloudAction) : Decidable (cloud.EndsSession action) := by
  cases action <;> unfold EndsSession <;> infer_instance

def sessionEnded (cloud : Cloud) (action : CloudAction) (ended : Bool) : Bool :=
  decide (cloud.SocketConnected ∧ (ended = true ∨ cloud.EndsSession action))

def SocketMessage.Traffic : SocketMessage -> Prop
  | .connect _ => False
  | .send => True
  | .recv buffer => buffer ≠ []

instance (message : SocketMessage) : Decidable message.Traffic := by
  cases message <;> unfold SocketMessage.Traffic <;> infer_instance

/-- No CONNECT is polled on a socket whose session has ended, and no traffic comes to the client
while it is DISCONNECTED and without a connection. -/
def KeepsConnection (state : Cloud × Bool) : CloudAction -> Prop
  | .cloudTask _ =>
    state.2 = true -> state.1.SocketConnected -> state.1.haveAPConnection = true ->
      state.1.core.mqttState ≠ .connecting
  | .socketHandler sock message =>
    state.1.getSocketInfo sock = some .mqtt -> message.Traffic ->
      state.1.SocketConnected ∨ state.1.core.mqttState ≠ .disconnected
  | _ => True

instance (state : Cloud × Bool) (action : CloudAction) :
    Decidable (KeepsConnection state action) := by
  cases action <;> unfold KeepsConnection <;> infer_instance

def Underway (mqttState : MqttCurrentState) : Prop :=
  mqttState = .waitForConnack ∨ mqttState = .connected

def Ongoing (trace : List WireEvent) (cloud : Cloud) : Prop :=
  ∀ log, logOf cloud.tcpClientSocket trace = some log ->
    (∀ earlier ∈ log, earlier.1 ≠ .disconnect) ∧
      (¬ Underway cloud.core.mqttState -> ∀ earlier ∈ log, earlier.1 ≠ .connect)

/-- The invariant of the runs, over the trace and the note that the session has ended. -/
structure Wired (trace : List WireEvent) (cloud : Cloud) (ended : Bool) : Prop where
  flags : cloud.core.TransmitFlags
  disciplined : Disciplined Permitted trace
  -- With the session ended only a CONNECT could follow, which the guard keeps from being polled.
  connected : cloud.SocketConnected ->
    Ongoing trace cloud ∨ ended = true ∧ ¬ Underway cloud.core.mqttState
  outside : ¬ cloud.SocketConnected ->
    cloud.core.mqttState = .disconnected ∨ logOf cloud.tcpClientSocket trace = none

def Silent : MqttEvent -> Prop
  | .handed _ _ _ => False
  | .closed => False
  | _ => True

theorem mqttTransport_silent {front : List MqttEvent} (silent : ∀ event ∈ front, Silent event)
    (cloud : Cloud) (back : List MqttEvent) :
    cloud.mqttTransport (front ++ back) = cloud.mqttTransport back := by
  induction front with
  | nil => rfl
  | cons event rest ih =>
    have later := ih fun other member => silent other (List.mem_cons_of_mem _ member)
    have here := silent event List.mem_cons_self
    cases event with
    | handed _ _ _ => exact here.elim
    | closed => exact here.elim
    | _ => exact later

theorem mqttTransport_nothing {events : List MqttEvent} (silent : ∀ event ∈ events, Silent event)
    (cloud : Cloud) : cloud.mqttTransport events = (cloud, []) := by
  have same := mqttTransport_silent silent cloud []
  rwa [List.append_nil] at same

@[simp] theorem mqttTransport_handed (cloud : Cloud) (packetType : MqttControlPacketType)
    (frame : List UInt8) (sent : Bool) :
    cloud.mqttTransport [.handed packetType frame sent] =
      (cloud, [.carried cloud.tcpClientSocket (packetType, sent)]) := rfl

@[simp] theorem mqttTransport_closed (cloud : Cloud) :
    cloud.mqttTransport [.closed] = cloud.bsdClose cloud.tcpClientSocket := by
  simp [mqttTransport, andThen]

theorem silent_delivery {events : List MqttEvent} (delivery : MqttCore.Delivery events) :
    ∀ event ∈ events, Silent event := by
  intro event member
  rcases delivery event member with rfl | ⟨topic, payload, rfl⟩ <;> trivial

theorem receives_session {core : MqttCore} {now : UInt32} {result : MqttCore × List MqttEvent}
    (receives : MqttCore.Receives core now result) :
    (∀ event ∈ result.2, Silent event) ∧
        (result.1 = core ∨ Underway core.mqttState ∧ Underway result.1.mqttState) ∨
      Underway core.mqttState ∧ result.1.mqttState = .disconnected ∧
        result.1.mqttTxFlags = core.mqttTxFlags ∧
        ((∀ event ∈ result.2, Silent event) ∧
            (core.mqttState = .waitForConnack ∧ core.RefusesConnection ∨
              core.mqttState = .connected ∧ core.RefusesSubscription) ∨
          ∃ front, result.2 = front ++ [.closed] ∧ ∀ event ∈ front, Silent event) := by
  cases receives with
  | quiet nothing => exact .inl ⟨by simp, .inl rfl⟩
  | connackTimeout waiting late =>
    exact .inr ⟨.inl waiting, rfl, rfl, .inr ⟨[], rfl, by simp⟩⟩
  | accepted waiting inTime rxbuff =>
    exact .inl ⟨by simp [Silent], .inr ⟨.inl waiting, .inr rfl⟩⟩
  | refused waiting packetType rxbuff closing how =>
    refine .inr ⟨.inl waiting, rfl, rfl, ?_⟩
    rcases how with ⟨-, rfl, refuses⟩ | ⟨-, rfl⟩
    · exact .inl ⟨by simp [Silent], .inl ⟨waiting, refuses⟩⟩
    · exact .inr ⟨[.processed packetType], rfl, by simp [Silent]⟩
  | unsolicited unexpected packetType =>
    exact .inl ⟨by simp [Silent], .inr ⟨.inr unexpected.1, .inl rfl⟩⟩
  | pingresp on expected inTime rxbuff =>
    exact .inl ⟨by simp [Silent], .inr ⟨.inr on, .inr on⟩⟩
  | suback on packetType expected verdict which judged rxbuff =>
    -- The verdict keeps the session or ends it.
    rcases which with rfl | rfl
    · exact .inl ⟨by simp [Silent], .inr ⟨.inr on, .inr rfl⟩⟩
    · have refuses := (MqttCore.mqttProcessSuback_refuses packetType).mp judged.symm
      exact .inr ⟨.inr on, rfl, rfl, .inl ⟨by simp [Silent], .inr ⟨on, refuses⟩⟩⟩
  | publish on rxbuff events delivery =>
    have silent := silent_delivery delivery
    refine .inl ⟨?_, .inr ⟨.inr on, .inr on⟩⟩
    simpa [Silent] using silent
  | publishAnswered on rxbuff events delivery newPublishPacket =>
    have silent := silent_delivery delivery
    refine .inl ⟨?_, .inr ⟨.inr on, .inr on⟩⟩
    intro event member
    simp only [List.mem_cons, List.mem_append, List.not_mem_nil, or_false] at member
    rcases member with rfl | member | rfl
    · trivial
    · exact silent event member
    · trivial
  | puback on rxbuff awaited stays => exact .inl ⟨by simp [Silent], .inr ⟨.inr on, .inr on⟩⟩
  | ignored on packetType => exact .inl ⟨by simp [Silent], .inl rfl⟩

theorem transmits_session {core : MqttCore} {sent : Bool} {result : MqttCore × List MqttEvent}
    (transmits : MqttCore.Transmits core sent result) :
    result = (core, []) ∨
      ∃ packetType frame, result.2 = [.handed packetType frame sent] ∧
        packetType ≠ .disconnect ∧ (packetType = .connect -> ¬ Underway core.mqttState) ∧
        (Underway result.1.mqttState ∨ sent = false ∧ ¬ Underway result.1.mqttState) := by
  cases transmits with
  | quiet => exact .inl rfl
  | connectSent off pending =>
    refine .inr ⟨_, _, rfl, by simp, fun _ => ?_, .inl (.inl rfl)⟩
    rcases off with off | off <;> simp [Underway, off]
  | connectFailed off pending =>
    have outside : ¬ Underway core.mqttState := by rcases off with off | off <;> simp [Underway, off]
    exact .inr ⟨_, _, rfl, by simp, fun _ => outside, .inr ⟨rfl, outside⟩⟩
  | publishSent on pending timer restarted =>
    exact .inr ⟨_, _, rfl, by simp, by simp, .inl (.inr on)⟩
  | publishFailed on pending =>
    exact .inr ⟨_, _, rfl, by simp, by simp, .inr ⟨rfl, by simp [Underway]⟩⟩
  | subscribeSent on pending => exact .inr ⟨_, _, rfl, by simp, by simp, .inl (.inr on)⟩
  | subscribeFailed on pending => exact .inr ⟨_, _, rfl, by simp, by simp, .inl (.inr on)⟩
  | pingreqSent on pending due => exact .inr ⟨_, _, rfl, by simp, by simp, .inl (.inr on)⟩
  | pingreqFailed on pending due => exact .inr ⟨_, _, rfl, by simp, by simp, .inl (.inr on)⟩

theorem transmission_off {core : MqttCore} (off : core.mqttState = .disconnected)
    (flag : core.mqttTxFlags.newTxConnectPacket = false) (sent : Bool) :
    core.mqttTransmissionHandler sent = (core, []) := by
  simp [MqttCore.mqttTransmissionHandler, off, flag]

section Wired

variable {trace : List WireEvent} {cloud next : Cloud} {ended : Bool}

theorem not_underway_disconnected (off : cloud.core.mqttState = .disconnected) :
    ¬ Underway cloud.core.mqttState := by
  simp [Underway, off]

theorem wired_same (wired : Wired trace cloud ended) (core : next.core = cloud.core)
    (number : next.mqqtSocket = cloud.mqqtSocket)
    (socket : next.SocketConnected ↔ cloud.SocketConnected) : Wired trace next ended where
  flags := by rw [core]; exact wired.flags
  disciplined := wired.disciplined
  connected connected := by
    rw [Ongoing, tcpClientSocket, number, core]
    exact wired.connected (socket.mp connected)
  outside outside := by
    rw [tcpClientSocket, number, core]
    exact wired.outside fun connected => outside (socket.mpr connected)

theorem wired_ended {later : Bool} (wired : Wired trace cloud ended)
    (kept : cloud.SocketConnected -> ended = true -> later = true) :
    Wired trace cloud later where
  flags := wired.flags
  disciplined := wired.disciplined
  connected connected := by
    rcases wired.connected connected with ongoing | ⟨gone, off⟩
    · exact .inl ongoing
    · exact .inr ⟨kept connected gone, off⟩
  outside := wired.outside

theorem wired_core (wired : Wired trace cloud ended) {core : MqttCore}
    (flags : core.TransmitFlags)
    (session : Underway core.mqttState ↔ Underway cloud.core.mqttState)
    (off : ¬ cloud.SocketConnected -> cloud.core.mqttState = .disconnected ->
      core.mqttState = .disconnected) :
    Wired trace { cloud with core } ended where
  flags := flags
  disciplined := wired.disciplined
  connected connected := by
    rw [Ongoing]
    simp only [session]
    exact wired.connected connected
  outside outside := (wired.outside outside).imp_left (off outside)

theorem wired_off (flags : next.core.TransmitFlags) (disciplined : Disciplined Permitted trace)
    (outside : ¬ next.SocketConnected) (off : next.core.mqttState = .disconnected) :
    Wired trace next ended where
  flags := flags
  disciplined := disciplined
  connected connected := absurd connected outside
  outside _ := .inl off

theorem wired_handed (wired : Wired trace cloud ended)
    (ongoing : cloud.SocketConnected -> Ongoing trace cloud) {packetType : MqttControlPacketType}
    {sent : Bool} (connect : packetType = .connect -> ¬ Underway cloud.core.mqttState)
    (reaches : cloud.SocketConnected ∨ Underway cloud.core.mqttState) {core : MqttCore}
    (flags : core.TransmitFlags)
    (session : packetType ≠ .disconnect ∧ Underway core.mqttState ∨
      (cloud.SocketConnected -> ended = true) ∧ ¬ Underway core.mqttState) :
    Wired (trace ++ [.carried cloud.tcpClientSocket (packetType, sent)])
      { cloud with core } ended := by
  have unopened (outside : ¬ cloud.SocketConnected) :
      logOf cloud.tcpClientSocket trace = none := by
    rcases wired.outside outside with off | none
    · exact absurd (reaches.resolve_left outside) (not_underway_disconnected off)
    · exact none
  constructor
  · exact flags
  · refine (disciplined_append_carried _ _ _ _).mpr ⟨wired.disciplined, fun log opened => ?_⟩
    by_cases connected : cloud.SocketConnected
    · obtain ⟨noDisconnect, noConnect⟩ := ongoing connected log opened
      exact ⟨noDisconnect, fun same => noConnect (connect same)⟩
    · rw [unopened connected] at opened
      cases opened
  · intro connected
    rcases session with ⟨other, underway⟩ | ⟨gone, off⟩
    · refine .inl fun log opened => ⟨?_, fun off => absurd underway off⟩
      change logOf cloud.tcpClientSocket _ = some log at opened
      simp only [logOf_carried, if_true, Option.map_eq_some_iff] at opened
      obtain ⟨before, opened, rfl⟩ := opened
      intro earlier member
      rcases List.mem_append.mp member with old | new
      · exact (ongoing connected before opened).1 earlier old
      · obtain rfl : earlier = (packetType, sent) := by simpa using new
        exact other
    · exact .inr ⟨gone connected, off⟩
  · intro outside
    refine .inr ?_
    change logOf cloud.tcpClientSocket _ = none
    simp [unopened outside]

theorem bsdClose_events (cloud : Cloud) (sock : UInt8) :
    (cloud.bsdClose sock).2 = [.closed sock] := by
  unfold bsdClose
  split <;> rfl

@[simp] theorem setSocketState_core (cloud : Cloud) (entry : TableEntry) (state : SocketState) :
    (cloud.setSocketState entry state).core = cloud.core := by
  cases entry <;> rfl

@[simp] theorem bsdClose_core (cloud : Cloud) (sock : UInt8) :
    (cloud.bsdClose sock).1.core = cloud.core := by
  unfold bsdClose
  split <;> simp

@[simp] theorem bsdClose_mqqtSocket (cloud : Cloud) (sock : UInt8) :
    (cloud.bsdClose sock).1.mqqtSocket = cloud.mqqtSocket := by
  unfold bsdClose
  split
  case h_1 entry found => cases entry <;> rfl
  case h_2 => rfl

theorem bsdClose_tcpClientSocket (cloud : Cloud) :
    ¬ (cloud.bsdClose cloud.tcpClientSocket).1.SocketConnected := by
  intro connected
  obtain ⟨registered, valid, state⟩ := (socketConnected_iff _).mp connected
  have found : cloud.getSocketInfo cloud.tcpClientSocket = some .mqtt := by
    refine getSocketInfo_tcpClientSocket ?_ (by simpa using valid)
    unfold bsdClose at registered
    split at registered
    case h_1 entry found => cases entry <;> exact registered
    case h_2 => exact registered
  simp [bsdClose, found, setSocketState] at state

theorem wired_closed (flags : cloud.core.TransmitFlags) (disciplined : Disciplined Permitted trace)
    (ended : Bool) :
    Wired (trace ++ (cloud.bsdClose cloud.tcpClientSocket).2)
      (cloud.bsdClose cloud.tcpClientSocket).1 ended where
  flags := by simpa using flags
  disciplined := by
    rw [bsdClose_events]
    exact (disciplined_append_quiet _ _ _ (by simp)).mpr disciplined
  connected connected := absurd connected cloud.bsdClose_tcpClientSocket
  outside _ := by
    refine .inr ?_
    rw [bsdClose_events, tcpClientSocket, bsdClose_mqqtSocket]
    simp [tcpClientSocket]

theorem wired_disconnect (wired : Wired trace cloud ended) (sent : Bool)
    (ends : cloud.SocketConnected -> Underway cloud.core.mqttState -> ended = true) :
    Wired (trace ++ (cloud.mqtt (.disconnect sent)).2) (cloud.mqtt (.disconnect sent)).1 ended := by
  have flags := MqttCore.step_flags wired.flags (.disconnect sent)
  have disconnects := cloud.core.mqttDisconnect_disconnects sent
  unfold mqtt
  simp only [MqttCore.step] at flags ⊢
  -- The packet goes out only in a session, and the session is over then.
  have handed (underway : Underway cloud.core.mqttState) {core : MqttCore}
      (flags : core.TransmitFlags) (off : core.mqttState = .disconnected) :
      Wired (trace ++ [.carried cloud.tcpClientSocket (.disconnect, sent)])
        { cloud with core } ended := by
    refine wired_handed wired (fun connected => ?_) (by simp) (.inr underway) flags
      (.inr ⟨fun connected => ends connected underway, by simp [Underway, off]⟩)
    rcases wired.connected connected with ongoing | ⟨-, off⟩
    · exact ongoing
    · exact absurd underway off
  generalize cloud.core.mqttDisconnect sent = result at disconnects flags ⊢
  cases disconnects with
  | idle _ off => simpa [mqttTransport] using wired
  | sent active => exact handed active.symm flags rfl
  | failed active => exact handed active.symm flags rfl

theorem wired_quiet (wired : Wired trace cloud ended) (action : MqttAction)
    (silent : ∀ event ∈ (cloud.core.step action).2, Silent event)
    (same : (cloud.core.step action).1.mqttState = cloud.core.mqttState) :
    Wired (trace ++ (cloud.mqtt action).2) (cloud.mqtt action).1 ended := by
  have kept := wired_core wired (MqttCore.step_flags wired.flags action) (by rw [same])
    (fun _ off => same.trans off)
  unfold mqtt
  dsimp only
  rw [mqttTransport_nothing silent, List.append_nil]
  exact kept

theorem wired_andThen {first : Cloud × List WireEvent} {rest : Cloud -> Cloud × List WireEvent}
    (one : Wired (trace ++ first.2) first.1 ended)
    (other : ∀ trace cloud, Wired trace cloud ended ->
      Wired (trace ++ (rest cloud).2) (rest cloud).1 ended) :
    Wired (trace ++ (andThen first rest).2) (andThen first rest).1 ended := by
  rw [andThen, ← List.append_assoc]
  exact other _ _ one

theorem wired_reception (wired : Wired trace cloud ended) (connected : cloud.SocketConnected)
    (ongoing : Ongoing trace cloud) (now : UInt32)
    (callback : List UInt8 -> List UInt8 -> Option MqttPublishPacket)
    (ends : cloud.core.mqttState = .waitForConnack ∧ cloud.core.RefusesConnection ∨
      cloud.core.mqttState = .connected ∧ cloud.core.RefusesSubscription -> ended = true) :
    let result := cloud.mqtt (.receptionHandler now callback)
    Wired (trace ++ result.2) result.1 ended ∧
      (result.1.SocketConnected ∧ Ongoing (trace ++ result.2) result.1 ∨
        result.1.core.mqttState = .disconnected ∧
          result.1.core.mqttTxFlags.newTxConnectPacket = false) := by
  have flags := MqttCore.step_flags wired.flags (.receptionHandler now callback)
  have receives := cloud.core.receptionHandler_receives now callback
  unfold mqtt
  simp only [MqttCore.step] at flags ⊢
  generalize cloud.core.mqttReceptionHandler now callback = result at receives flags ⊢
  rcases receives_session receives with
    ⟨silent, kept⟩ | ⟨underway, off, same, ⟨silent, refuses⟩ | ⟨front, closes, silent⟩⟩
  · rw [mqttTransport_nothing silent, List.append_nil]
    rcases kept with same | ⟨before, after⟩
    · rw [same]
      exact ⟨wired, .inl ⟨connected, ongoing⟩⟩
    · refine ⟨wired_core wired flags ⟨fun _ => before, fun _ => after⟩
        (fun outside => absurd connected outside), .inl ⟨connected, fun log opened => ?_⟩⟩
      exact ⟨(ongoing log opened).1, fun off => absurd after off⟩
  · rw [mqttTransport_nothing silent, List.append_nil]
    refine ⟨⟨flags, wired.disciplined, fun _ => .inr ⟨ends refuses, ?_⟩,
      fun outside => absurd connected outside⟩, .inr ⟨off, ?_⟩⟩
    · simp [Underway, off]
    · rw [same]
      exact wired.flags.connect underway
  · rw [closes, mqttTransport_silent silent, mqttTransport_closed]
    refine ⟨@wired_closed trace { cloud with core := result.1 } flags wired.disciplined ended,
      .inr ⟨?_, ?_⟩⟩
    · simpa using off
    · simpa [same] using wired.flags.connect underway

theorem wired_transmission (wired : Wired trace cloud ended) (connected : cloud.SocketConnected)
    (ongoing : Ongoing trace cloud) (sent : Bool) (ends : sent = false -> ended = true) :
    let result := cloud.mqtt (.transmissionHandler sent)
    Wired (trace ++ result.2) result.1 ended := by
  have flags := MqttCore.step_flags wired.flags (.transmissionHandler sent)
  have transmits := cloud.core.transmissionHandler_transmits sent
  unfold mqtt
  simp only [MqttCore.step] at flags ⊢
  generalize cloud.core.mqttTransmissionHandler sent = result at transmits flags ⊢
  rcases transmits_session transmits with rfl | ⟨packetType, frame, handed, other, connect, session⟩
  · simpa [mqttTransport] using wired
  · rw [handed, mqttTransport_handed]
    apply wired_handed wired (fun _ => ongoing) connect (.inl connected) flags
    rcases session with underway | ⟨failed, off⟩
    · exact .inl ⟨other, underway⟩
    · exact .inr ⟨fun _ => ends failed, off⟩

theorem wired_subscribe (wired : Wired trace cloud ended) (input : TaskInput) :
    Wired (trace ++ (cloud.cloudSubscribe input).2) (cloud.cloudSubscribe input).1 ended := by
  apply wired_andThen (wired_quiet wired _ (by simp [MqttCore.step]) rfl)
  intro trace cloud wired
  refine wired_andThen (wired_quiet wired _ ?_ ?_) fun trace next wired => ?_
  · simp only [MqttCore.step, MqttCore.mqttCreateSubscribePacket]
    split <;> simp [Silent]
  · simp only [MqttCore.step, MqttCore.mqttCreateSubscribePacket]
    split <;> rfl
  · split
    · rw [List.append_nil]
      exact wired_same wired rfl rfl Iff.rfl
    · rwa [List.append_nil]

theorem wired_serveSession (wired : Wired trace cloud ended) (input : TaskInput) :
    Wired (trace ++ (cloud.serveSession input).2) (cloud.serveSession input).1 ended := by
  refine wired_andThen ?_ fun trace cloud wired => ?_
  · have served : Wired trace
        { cloud with
          mqttTimeoutTaskTimer := .idle
          cloudResetTaskTimer := .idle
          isResetting := false
          waitingForMQTT := false } ended := wired_same wired rfl rfl Iff.rfl
    split
    · exact wired_subscribe served input
    · rwa [List.append_nil]
  · split
    case isFalse => rwa [List.append_nil]
    case isTrue aged =>
      -- The DISCONNECT of an aged connection is followed by the close of its socket.
      have last := wired_disconnect (@wired_ended _ _ _ true wired fun _ _ => rfl)
        input.sentDisconnect (fun _ _ => rfl)
      rw [andThen, ← List.append_assoc]
      exact wired_closed last.flags last.disciplined ended

theorem wired_handlePackets (wired : Wired trace cloud ended) (connected : cloud.SocketConnected)
    (ongoing : Ongoing trace cloud) (input : TaskInput)
    (ends : input.sent = false ∨
      cloud.core.mqttState = .waitForConnack ∧ cloud.core.RefusesConnection ∨
      cloud.core.mqttState = .connected ∧ cloud.core.RefusesSubscription -> ended = true) :
    Wired (trace ++ (cloud.handlePackets input).2) (cloud.handlePackets input).1 ended := by
  obtain ⟨received, rest⟩ := wired_reception wired connected ongoing input.now input.callback
    (fun refuses => ends (.inr refuses))
  have transmitted : Wired
      (trace ++ (cloud.mqtt (.receptionHandler input.now input.callback)).2 ++
        ((cloud.mqtt (.receptionHandler input.now input.callback)).1.mqtt
          (.transmissionHandler input.sent)).2)
      ((cloud.mqtt (.receptionHandler input.now input.callback)).1.mqtt
        (.transmissionHandler input.sent)).1 ended := by
    rcases rest with ⟨connected, ongoing⟩ | ⟨off, flag⟩
    · exact wired_transmission received connected ongoing input.sent fun failed => ends (.inl failed)
    · have quiet := transmission_off off flag input.sent
      refine wired_quiet received _ ?_ ?_ <;> simp [MqttCore.step, quiet]
  rw [handlePackets, andThen, ← List.append_assoc]
  apply wired_andThen transmitted
  intro trace cloud wired
  split
  · exact wired_serveSession wired input
  · rwa [List.append_nil]

theorem wired_connectMQTT (wired : Wired trace cloud ended) (connected : cloud.SocketConnected)
    (off : cloud.core.mqttState = .disconnected) (input : TaskInput) :
    Wired (trace ++ (cloud.connectMQTT input).2) (cloud.connectMQTT input).1 ended := by
  refine wired_andThen ?_ fun trace cloud wired => ?_
  · split
    case isFalse => rwa [List.append_nil]
    case isTrue =>
      have flags := MqttCore.step_flags wired.flags (.createConnectPacket (mqttClientConnect input))
      have created := wired_core wired flags
        (by simp [Underway, off, MqttCore.step, MqttCore.mqttCreateConnectPacket])
        (fun outside => absurd connected outside)
      unfold mqtt
      simpa [MqttCore.step, MqttCore.mqttCreateConnectPacket, mqttTransport] using created
  · rw [List.append_nil]
    exact wired_same wired rfl rfl Iff.rfl

theorem setSocketState_outside {entry : TableEntry} {state : SocketState}
    (found : cloud.getSocketInfo cloud.tcpClientSocket = some entry)
    (off : state ≠ .socketConnected) : ¬ (cloud.setSocketState entry state).SocketConnected := by
  cases entry with
  | mqtt => exact fun connected => off ((socketConnected_iff _).mp connected).2.2
  | spare => exact absurd rfl (getSocketInfo_spare found)

theorem createMQTTSocket_outside (cloud : Cloud) (input : TaskInput) :
    ¬ (cloud.createMQTTSocket input).SocketConnected := by
  unfold createMQTTSocket
  dsimp only
  split
  case isFalse negative => exact fun connected => negative ((socketConnected_iff _).mp connected).2.1
  case isTrue =>
    split
    case h_1 entry found => exact setSocketState_outside found (by simp)
    case h_2 missing =>
      intro connected
      obtain ⟨registered, valid, -⟩ := (socketConnected_iff _).mp connected
      rw [getSocketInfo_tcpClientSocket registered valid] at missing
      cases missing

@[simp] theorem createMQTTSocket_core (cloud : Cloud) (input : TaskInput) :
    (cloud.createMQTTSocket input).core = cloud.core := by
  unfold createMQTTSocket
  dsimp only
  split
  · split <;> simp
  · rfl

theorem wired_connectMQTTSocket (flags : cloud.core.TransmitFlags)
    (disciplined : Disciplined Permitted trace) (off : cloud.core.mqttState = .disconnected)
    (outside : ¬ cloud.SocketConnected) (input : TaskInput) :
    Wired (trace ++ (cloud.connectMQTTSocket input).2) (cloud.connectMQTTSocket input).1 ended := by
  -- A new socket is not connected before its message comes.
  have fresh : ∃ next : Cloud, next =
      (if cloud.bsdGetSocketState cloud.tcpClientSocket = .notASocket then
        cloud.createMQTTSocket input
      else cloud) ∧ next.core = cloud.core ∧ ¬ next.SocketConnected := by
    refine ⟨_, rfl, ?_⟩
    split
    · exact ⟨by simp, cloud.createMQTTSocket_outside input⟩
    · exact ⟨rfl, outside⟩
  obtain ⟨next, created, same, outside'⟩ := fresh
  unfold connectMQTTSocket
  simp only [← created]
  rw [← same] at flags off
  split
  case isFalse =>
    rw [same] at flags off
    rw [List.append_nil]
    exact wired_off flags disciplined outside off
  case isTrue =>
    split
    case isFalse =>
      rw [List.append_nil]
      exact wired_off flags disciplined outside' off
    case isTrue =>
      split
      case h_2 => exact wired_closed flags disciplined ended
      case h_1 connecting connects =>
        obtain ⟨entry, found, rfl⟩ := bsdConnect_some connects
        rw [List.append_nil]
        exact wired_off (by simpa using flags) disciplined
          (setSocketState_outside found (by simp)) (by simpa using off)

theorem wired_reInit (flags : cloud.core.TransmitFlags) (disciplined : Disciplined Permitted trace)
    (connects : Bool) :
    Wired (trace ++ (cloud.reInit connects).2) (cloud.reInit connects).1 ended := by
  have initialised := MqttCore.step_flags flags .clientInitialise
  have outside (next : Cloud) (state : next.socketState = .notASocket) :
      ¬ next.SocketConnected := by
    simp [socketConnected_iff, state]
  cases connects with
  | true =>
    simpa [reInit, andThen, mqtt, MqttCore.step, mqttTransport] using
      wired_off initialised disciplined (outside _ rfl) rfl
  | false =>
    simpa [reInit, andThen, mqtt, MqttCore.step, mqttTransport] using
      wired_off initialised disciplined (outside _ rfl) rfl

theorem supervise_keeps (cloud : Cloud) :
    cloud.supervise.core = cloud.core ∧ cloud.supervise.mqqtSocket = cloud.mqqtSocket ∧
      cloud.supervise.haveAPConnection = cloud.haveAPConnection ∧
      (cloud.supervise.SocketConnected ↔ cloud.SocketConnected) := by
  unfold supervise
  split
  · split <;> exact ⟨rfl, rfl, rfl, Iff.rfl⟩
  · split
    · split <;> exact ⟨rfl, rfl, rfl, Iff.rfl⟩
    · exact ⟨rfl, rfl, rfl, Iff.rfl⟩

theorem wired_cloudTask (wired : Wired trace cloud ended) (input : TaskInput)
    (keeps : ended = true -> cloud.SocketConnected -> cloud.haveAPConnection = true ->
      cloud.core.mqttState ≠ .connecting) :
    Wired (trace ++ (cloud.cloudTask input).2) (cloud.cloudTask input).1
      (cloud.sessionEnded (.cloudTask input) ended) := by
  have later : Wired trace cloud (cloud.sessionEnded (.cloudTask input) ended) :=
    wired_ended wired fun connected gone => by simp [sessionEnded, connected, gone]
  obtain ⟨core, number, haveAP, socket⟩ := cloud.supervise_keeps
  have ends : cloud.supervise.SocketConnected -> cloud.EndsSession (.cloudTask input) ->
      cloud.sessionEnded (.cloudTask input) ended = true := by
    intro connected gone
    simp [sessionEnded, socket.mp connected, gone]
  have supervised := wired_same later core number socket
  simp only [EndsSession, ← core, ← haveAP] at ends
  unfold cloudTask
  dsimp only
  by_cases access : cloud.supervise.haveAPConnection = true
  case neg =>
    simp only [Bool.not_eq_true] at access
    simp only [access, Bool.false_eq_true, if_false] at ends
    rw [if_pos access]
    split
    case isFalse => rwa [List.append_nil]
    case isTrue on => exact wired_disconnect supervised _ fun connected _ => ends connected on
  rw [if_neg (by simp [access])]
  simp only [access, if_true] at ends
  have reconnects (outside : ¬ cloud.supervise.SocketConnected) :
      Wired
        (trace ++ (andThen (cloud.supervise.mqtt .clientInitialise) (connectMQTTSocket · input)).2)
        (andThen (cloud.supervise.mqtt .clientInitialise) (connectMQTTSocket · input)).1
        (cloud.sessionEnded (.cloudTask input) ended) :=
    @wired_connectMQTTSocket trace (cloud.supervise.mqtt .clientInitialise).1 _
      (MqttCore.step_flags supervised.flags .clientInitialise) supervised.disciplined rfl outside
      input
  split
  case h_1 state => exact reconnects (by simp [SocketConnected, state])
  case h_2 state => exact reconnects (by simp [SocketConnected, state])
  case h_4 => rwa [List.append_nil]
  case h_3 state =>
    have connected : cloud.supervise.SocketConnected := state
    split
    case isTrue off => exact wired_connectMQTT supervised connected off input
    case isFalse on =>
      refine wired_handlePackets supervised connected ?_ input fun gone => ends connected ⟨on, gone⟩
      -- With the session ended the client would be CONNECTING.
      have open' := wired_same wired core number socket
      rcases open'.connected connected with ongoing | ⟨gone, outside⟩
      · exact ongoing
      · have not := keeps gone (socket.mp connected) (haveAP.symm.trans access)
        rw [← core] at not
        cases state : cloud.supervise.core.mqttState <;> simp_all [Underway]

end Wired

section Messages

variable {trace : List WireEvent} {cloud : Cloud} {ended : Bool} {sock : UInt8}

theorem wired_elsewhere (wired : Wired trace cloud ended) {next : Cloud} {event : WireEvent}
    (core : next.core = cloud.core) (number : next.mqqtSocket = cloud.mqqtSocket)
    (socket : next.SocketConnected ↔ cloud.SocketConnected)
    (quiet : ∀ link packet, event ≠ .carried link packet)
    (other : logOf cloud.tcpClientSocket (trace ++ [event]) = logOf cloud.tcpClientSocket trace) :
    Wired (trace ++ [event]) next ended := by
  refine wired_same ⟨wired.flags, ?_, fun connected => ?_, fun outside => ?_⟩ core number socket
  · exact (disciplined_append_quiet _ _ _ quiet).mpr wired.disciplined
  · rw [Ongoing, other]
    exact wired.connected connected
  · rw [other]
    exact wired.outside outside

theorem wired_opened (wired : Wired trace cloud ended) {next : Cloud}
    (core : next.core = cloud.core) (number : next.mqqtSocket = cloud.mqqtSocket)
    (connected : next.SocketConnected) :
    Wired (trace ++ [.opened cloud.tcpClientSocket]) next ended where
  flags := by rw [core]; exact wired.flags
  disciplined := (disciplined_append_quiet _ _ _ (by simp)).mpr wired.disciplined
  connected _ := by
    refine .inl fun log opened => ?_
    rw [tcpClientSocket, number] at opened
    obtain rfl : [] = log := by simpa [tcpClientSocket] using opened
    simp
  outside outside := absurd connected outside

theorem setSocketState_connected (found : cloud.getSocketInfo sock = some .mqtt) :
    (cloud.setSocketState .mqtt .socketConnected).SocketConnected := by
  obtain ⟨-, registered, valid⟩ := getSocketInfo_mqtt found
  exact (socketConnected_iff _).mpr ⟨registered, valid, rfl⟩

theorem wired_traffic (wired : Wired trace cloud ended)
    (found : cloud.getSocketInfo sock = some .mqtt)
    (expected : cloud.SocketConnected ∨ cloud.core.mqttState ≠ .disconnected) :
    Wired trace (cloud.setSocketState .mqtt .socketConnected) ended := by
  -- Traffic marks the socket as connected even if it is not.
  have connected := setSocketState_connected found
  by_cases before : cloud.SocketConnected
  · exact wired_same wired rfl rfl ⟨fun _ => before, fun _ => connected⟩
  · have none := (wired.outside before).resolve_left (expected.resolve_left before)
    refine ⟨wired.flags, wired.disciplined, fun _ => .inl fun log opened => ?_,
      fun outside => absurd connected outside⟩
    change logOf cloud.tcpClientSocket trace = some log at opened
    rw [none] at opened
    cases opened

theorem wired_close (wired : Wired trace cloud ended) {entry : TableEntry}
    (found : cloud.getSocketInfo sock = some entry) :
    Wired (trace ++ (cloud.bsdClose sock).2) (cloud.bsdClose sock).1 ended := by
  cases entry with
  | mqtt =>
    obtain rfl := (getSocketInfo_mqtt found).1
    exact wired_closed wired.flags wired.disciplined ended
  | spare =>
    have other := getSocketInfo_spare found
    rw [bsdClose_events]
    refine wired_elsewhere wired (by simp) (by simp) ?_ (by simp) (by simp [other])
    simp only [bsdClose, found, socketConnected_iff, setSocketState]

theorem wired_message (wired : Wired trace cloud ended) (message : SocketMessage)
    (traffic : cloud.getSocketInfo sock = some .mqtt -> message.Traffic ->
      cloud.SocketConnected ∨ cloud.core.mqttState ≠ .disconnected) :
    Wired (trace ++ (cloud.bsdSocketHandler sock message).2)
      (cloud.bsdSocketHandler sock message).1 ended := by
  have spare {trace : List WireEvent} {cloud : Cloud} (wired : Wired trace cloud ended) :
      Wired trace (cloud.setSocketState .spare .socketConnected) ended :=
    wired_same wired rfl rfl (by simp only [socketConnected_iff, setSocketState])
  cases found : cloud.getSocketInfo sock with
  | none => simpa [bsdSocketHandler, found] using wired
  | some entry =>
    cases message with
    | connect s8Error =>
      simp only [bsdSocketHandler, found]
      split
      case isFalse => exact wired_close wired found
      case isTrue =>
        cases entry with
        | mqtt =>
          obtain rfl := (getSocketInfo_mqtt found).1
          exact wired_opened wired rfl rfl (setSocketState_connected found)
        | spare =>
          have other := getSocketInfo_spare found
          exact wired_elsewhere wired rfl rfl (by simp only [socketConnected_iff, setSocketState])
            (by simp) (by simp [other])
    | send =>
      simp only [bsdSocketHandler, found, List.append_nil]
      cases entry with
      | mqtt => exact wired_traffic wired found (traffic found trivial)
      | spare => exact spare wired
    | recv buffer =>
      cases buffer with
      | nil =>
        simp only [bsdSocketHandler, found]
        exact wired_close wired found
      | cons first rest =>
        simp only [bsdSocketHandler, found]
        cases entry with
        | mqtt =>
          have received := wired_quiet wired (.getReceivedData (first :: rest))
            (by simp [MqttCore.step]) rfl
          simp only [andThen, List.append_nil]
          exact @wired_traffic _ _ _ sock received found
            (traffic found (by simp [SocketMessage.Traffic]))
        | spare =>
          rw [List.append_nil]
          exact spare wired

end Messages

theorem wired_step {trace : List WireEvent} {cloud : Cloud} {ended : Bool}
    (wired : Wired trace cloud ended) (action : CloudAction)
    (keeps : KeepsConnection (cloud, ended) action) :
    Wired (trace ++ (cloud.step action).2) (cloud.step action).1
      (cloud.sessionEnded action ended) := by
  have later : Wired trace cloud (cloud.sessionEnded action ended) :=
    wired_ended wired fun connected gone => by simp [sessionEnded, connected, gone]
  -- An action that ends the session on the connected socket is noted.
  have ends (connected : cloud.SocketConnected) (gone : cloud.EndsSession action) :
      cloud.sessionEnded action ended = true := by
    simp [sessionEnded, connected, gone]
  cases action with
  | cloudTask input => exact wired_cloudTask wired input keeps
  | mainDataTask sw0 sw1 sent =>
    refine wired_andThen ?_ fun trace cloud wired => ?_
    · split
      case isFalse => rwa [List.append_nil]
      case isTrue pressed =>
        unfold cloudDisconnect
        split
        case isFalse => rwa [List.append_nil]
        case isTrue on =>
          exact wired_disconnect later sent fun connected _ => ends connected ⟨pressed, on⟩
    · split
      · rw [List.append_nil]
        exact wired_same wired rfl rfl Iff.rfl
      · rwa [List.append_nil]
  | reconnectCmd sent =>
    exact wired_disconnect later sent fun connected underway => ends connected underway.symm
  | socketHandler sock message => exact wired_message later message keeps
  | dnsHandler serverIP =>
    simp only [step]
    split <;> rw [List.append_nil]
    · exact wired_same later rfl rfl Iff.rfl
    · exact later
  | apConnection have' =>
    rw [step, List.append_nil]
    exact wired_same later rfl rfl Iff.rfl
  | wifiDisconnected =>
    rw [step, List.append_nil]
    exact wired_same later rfl rfl Iff.rfl
  | timerExpires timer =>
    rw [step, List.append_nil]
    cases timer <;> exact wired_same later rfl rfl Iff.rfl
  | timerRuns timer connects =>
    simp only [step, timerRuns]
    split
    case h_2 => rwa [List.append_nil]
    case h_1 =>
      cases timer with
      | mqttTimeoutTask =>
        rw [List.append_nil]
        exact wired_same later rfl rfl Iff.rfl
      | cloudResetTask =>
        exact @wired_reInit trace (cloud.setTimer .cloudResetTask .idle) _ later.flags
          later.disciplined connects
  | mqttTimerExpires timer =>
    apply wired_quiet later _ (by simp [MqttCore.step])
    cases timer <;> rfl
  | mqttTimerRuns timer =>
    apply wired_quiet later _ (by simp [MqttCore.step])
    rcases cloud.core.timerRuns_cases timer with same | ⟨timeout, -, ran⟩
    · simp only [MqttCore.step, same]
    · simp only [MqttCore.step, ran]
      cases timer <;> rfl
  | portChanges zeroByte =>
    rw [step, List.append_nil]
    refine wired_same later rfl rfl ?_
    simp only [socketConnected_iff]

theorem keepsConnection_permitted {actions : List CloudAction}
    (guarded : Machine.Guarded (Machine.noting step sessionEnded) KeepsConnection (boot, false)
      actions) :
    Disciplined Permitted (Machine.run step boot actions).2 := by
  have start : Wired [] boot false := by
    refine ⟨⟨rfl, rfl, fun _ => rfl, fun set => absurd set (by decide)⟩, Machine.justified_nil _,
      fun connected => ?_, fun _ => .inl rfl⟩
    have registered : boot.registered = true := ((socketConnected_iff boot).mp connected).1
    cases registered
  have wired := Machine.run_invariant
    (fun (trace : List WireEvent) (state : Cloud × Bool) => Wired trace state.1 state.2)
    (fun trace state action held keeps => wired_step held action keeps) start guarded
  rw [← (Machine.run_noting step sessionEnded (boot, false) actions).2]
  exact wired.disciplined

def poll : CloudAction :=
  .cloudTask
    { now := 1, cid := [99], mqttPassword := [112], deviceId := [100],
      callback := fun _ _ => none, socketNumber := 0, connects := true, sent := true,
      sentDisconnect := true }

def bringUp : List CloudAction :=
  [poll, .timerExpires .cloudResetTask, .timerRuns .cloudResetTask true, .dnsHandler 1,
    .apConnection true]

def openSession : List CloudAction :=
  [poll, .socketHandler 0 (.connect 0), poll, poll, .socketHandler 0 (.recv [0x20, 2, 0, 0]), poll]

theorem keepsConnection_permitted_reconnect :
    Disciplined Permitted
      (Machine.run step boot
        (bringUp ++ openSession ++ [.reconnectCmd true, .socketHandler 0 (.recv [])] ++
          openSession)).2 :=
  -- The broker closes the socket before the next poll.
  keepsConnection_permitted (by decide +kernel)

theorem reconnect_sameConnection :
    ¬ Disciplined Permitted
      (Machine.run step boot (bringUp ++ openSession ++ [.reconnectCmd true, poll, poll])).2 := by
  have trace :
      (Machine.run step boot (bringUp ++ openSession ++ [.reconnectCmd true, poll, poll])).2 =
        [.opened 0, .carried 0 (.connect, true), .carried 0 (.disconnect, true)] ++
          [.carried 0 (.connect, true)] := by
    decide +kernel
  rw [trace, disciplined_append_carried]
  rintro ⟨-, permitted⟩
  have after := permitted [(.connect, true), (.disconnect, true)] (by decide)
  exact absurd after.1 (by decide)

end Cloud

end AvrVoiceControl
