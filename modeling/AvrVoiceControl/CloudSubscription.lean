import AvrVoiceControl.CloudSteps
import AvrVoiceControl.CloudWire

set_option autoImplicit false

namespace AvrVoiceControl

open LinkLog

def Handed.isConnect (packet : Handed) : Bool := packet == (.connect, true)

def Handed.isSubscribe (packet : Handed) : Bool := packet == (.subscribe, true)

def subscribesSince (packets : List Handed) : Nat :=
  Machine.countSince Handed.isConnect Handed.isSubscribe packets

def Unrelated (packet : Handed) : Prop := packet.isConnect = false ∧ packet.isSubscribe = false

instance (packet : Handed) : Decidable (Unrelated packet) := by
  unfold Unrelated
  infer_instance

namespace Cloud

structure Subscription (packets : List Handed) (cloud : Cloud) : Prop where
  flags : cloud.core.TransmitFlags
  once : Machine.Justified
    (fun before packet => packet.isSubscribe = true -> subscribesSince before = 0) packets
  -- The SUBSCRIBE of the session is still to be created, or pending, or sent.
  underway : Underway cloud.core.mqttState ->
    subscribesSince packets + cloud.core.mqttTxFlags.newTxSubscribePacket.toNat =
      if cloud.sendSubscribe then 0 else 1
  connecting : cloud.core.mqttState = .connecting -> cloud.sendSubscribe = true

theorem once_append {packets later : List Handed}
    (once : Machine.Justified
      (fun before packet => packet.isSubscribe = true -> subscribesSince before = 0) packets)
    (unrelated : ∀ packet ∈ later, Unrelated packet) :
    Machine.Justified
      (fun before packet => packet.isSubscribe = true -> subscribesSince before = 0)
      (packets ++ later) := by
  refine (Machine.justified_append _ _ _).mpr ⟨once, ?_⟩
  rintro before packet after rfl subscribe
  rw [(unrelated packet (by simp)).2] at subscribe
  cases subscribe

theorem subscribesSince_append (packets : List Handed) {later : List Handed}
    (unrelated : ∀ packet ∈ later, Unrelated packet) :
    subscribesSince (packets ++ later) = subscribesSince packets := by
  have none : later.countP Handed.isSubscribe = 0 := by
    rw [List.countP_eq_zero]
    intro packet member
    simp [(unrelated packet member).2]
  rw [subscribesSince, Machine.countSince_append packets
    (fun packet member => (unrelated packet member).1), none, Nat.add_zero]
  rfl

/-- A step that has nothing to do with the opening of a session, except that it may end one. -/
structure Quiet (cloud : Cloud) (result : Cloud × List WireEvent) : Prop where
  flags : cloud.core.TransmitFlags -> result.1.core.TransmitFlags
  unrelated : ∀ packet ∈ handedOf result.2, Unrelated packet
  sendSubscribe : result.1.sendSubscribe = cloud.sendSubscribe
  underway : Underway result.1.core.mqttState -> Underway cloud.core.mqttState ∧
    result.1.core.mqttTxFlags.newTxSubscribePacket = cloud.core.mqttTxFlags.newTxSubscribePacket
  connecting : result.1.core.mqttState = .connecting -> cloud.core.mqttState = .connecting
  connected : result.1.core.mqttState = .connected -> cloud.core.mqttState = .connected

section Quiet

variable {cloud next : Cloud}

theorem quiet_same {result : Cloud × List WireEvent} (nothing : handedOf result.2 = [])
    (core : result.1.core = cloud.core)
    (sendSubscribe : result.1.sendSubscribe = cloud.sendSubscribe) : Quiet cloud result where
  flags flags := by rwa [core]
  unrelated := by simp [nothing]
  sendSubscribe := sendSubscribe
  underway := by rw [core]; exact fun on => ⟨on, rfl⟩
  connecting := by rw [core]; exact id
  connected := by rw [core]; exact id

theorem quiet_andThen {first : Cloud × List WireEvent} {rest : Cloud -> Cloud × List WireEvent}
    (before : Quiet cloud first) (after : ∀ cloud, Quiet cloud (rest cloud)) :
    Quiet cloud (andThen first rest) where
  flags flags := (after first.1).flags (before.flags flags)
  unrelated packet member := by
    rw [andThen, handedOf_append, List.mem_append] at member
    rcases member with member | member
    · exact before.unrelated packet member
    · exact (after first.1).unrelated packet member
  sendSubscribe := (after first.1).sendSubscribe.trans before.sendSubscribe
  underway on := by
    obtain ⟨on, same⟩ := (after first.1).underway on
    obtain ⟨on, earlier⟩ := before.underway on
    exact ⟨on, same.trans earlier⟩
  connecting creating := before.connecting ((after first.1).connecting creating)
  connected on := before.connected ((after first.1).connected on)

theorem quiet_of_same {result : Cloud × List WireEvent} (quiet : Quiet next result)
    (core : next.core = cloud.core) (sendSubscribe : next.sendSubscribe = cloud.sendSubscribe) :
    Quiet cloud result where
  flags := by rw [← core]; exact quiet.flags
  unrelated := quiet.unrelated
  sendSubscribe := quiet.sendSubscribe.trans sendSubscribe
  underway := by rw [← core]; exact quiet.underway
  connecting := by rw [← core]; exact quiet.connecting
  connected := by rw [← core]; exact quiet.connected

theorem quiet_bsdClose (cloud : Cloud) (sock : UInt8) : Quiet cloud (cloud.bsdClose sock) := by
  obtain ⟨socketState, spareState, closed⟩ := cloud.bsdClose_frame sock
  rw [closed]
  exact quiet_same rfl rfl rfl

theorem quiet_setSocketState (cloud : Cloud) (entry : TableEntry) (state : SocketState)
    {events : List WireEvent} (nothing : handedOf events = []) :
    Quiet cloud (cloud.setSocketState entry state, events) := by
  obtain ⟨socketState, spareState, same⟩ := cloud.setSocketState_frame entry state
  rw [same]
  exact quiet_same nothing rfl rfl

def Plain : MqttAction -> Prop
  | .createConnectPacket _ => False
  | .createSubscribePacket _ => False
  | .transmissionHandler _ => False
  | .receptionHandler _ _ => False
  | _ => True

theorem quiet_steps {core : MqttCore} {action : MqttAction} {result : MqttCore × List MqttEvent}
    (steps : MqttCore.Steps core action result) (plain : Plain action) :
    (∀ packet ∈ result.2.filterMap packet?, Unrelated packet) ∧
      (result.1.mqttState = core.mqttState ∧
          result.1.mqttTxFlags.newTxSubscribePacket = core.mqttTxFlags.newTxSubscribePacket ∨
        result.1.mqttState = .disconnected) := by
  cases steps with
  | createConnect => exact plain.elim
  | createSubscribe => exact plain.elim
  | refuseSubscribe => exact plain.elim
  | transmission => exact plain.elim
  | reception => exact plain.elim
  | disconnect sent disconnects =>
    cases disconnects with
    | idle => exact ⟨by simp, .inl ⟨rfl, rfl⟩⟩
    | sent =>
      exact ⟨by simp [packet?, Unrelated, Handed.isConnect, Handed.isSubscribe], .inr rfl⟩
    | failed =>
      exact ⟨by simp [packet?, Unrelated, Handed.isConnect, Handed.isSubscribe], .inr rfl⟩
  | initialiseState => exact ⟨by simp, .inr rfl⟩
  | clientInitialise => exact ⟨by simp, .inr rfl⟩
  | timerExpires timer => cases timer <;> exact ⟨by simp, .inl ⟨rfl, rfl⟩⟩
  | _ => exact ⟨by simp [packet?], .inl ⟨rfl, rfl⟩⟩

theorem quiet_mqtt (cloud : Cloud) (action : MqttAction) (plain : Plain action) :
    Quiet cloud (cloud.mqtt action) := by
  obtain ⟨⟨socketState, spareState, same⟩, handed⟩ := cloud.mqtt_frame action
  obtain ⟨unrelated, state⟩ := quiet_steps (cloud.core.step_steps action) plain
  have core : (cloud.mqtt action).1.core = (cloud.core.step action).1 := by
    rw [same]
    rfl
  refine ⟨?_, by rwa [handed], by rw [same]; rfl, ?_, ?_, ?_⟩ <;> rw [core]
  · exact fun flags => MqttCore.step_flags flags action
  · intro on
    rcases state with ⟨state, subscribe⟩ | off
    · exact ⟨by rwa [← state], subscribe⟩
    · simp [Underway, off] at on
  · intro creating
    rcases state with ⟨state, -⟩ | off
    · rwa [← state]
    · simp [off] at creating
  · intro on
    rcases state with ⟨state, -⟩ | off
    · rwa [← state]
    · simp [off] at on

theorem quiet_message (cloud : Cloud) (sock : UInt8) (message : SocketMessage) :
    Quiet cloud (cloud.bsdSocketHandler sock message) := by
  unfold bsdSocketHandler
  split
  · exact quiet_same rfl rfl rfl
  · split
    · split
      · exact cloud.quiet_setSocketState _ _ rfl
      · exact cloud.quiet_bsdClose sock
    · exact cloud.quiet_setSocketState _ _ rfl
    · exact cloud.quiet_bsdClose sock
    · split
      · exact quiet_andThen (cloud.quiet_mqtt _ trivial) fun cloud =>
          cloud.quiet_setSocketState _ _ rfl
      · exact cloud.quiet_setSocketState _ _ rfl

theorem quiet_reInit (cloud : Cloud) (connects : Bool) : Quiet cloud (cloud.reInit connects) := by
  simp only [reInit]
  refine quiet_of_same (quiet_andThen (quiet_mqtt _ .clientInitialise trivial) fun cloud => ?_)
    rfl rfl
  split
  · exact quiet_same rfl rfl rfl
  · exact quiet_same rfl rfl rfl

theorem quiet_opens (cloud : Cloud) (input : TaskInput) :
    Quiet cloud (andThen (cloud.mqtt .clientInitialise) (connectMQTTSocket · input)) := by
  apply quiet_andThen (cloud.quiet_mqtt .clientInitialise trivial)
  intro cloud
  obtain ⟨⟨mqqtSocket, socketState, spareState, same⟩, nothing⟩ :=
    cloud.connectMQTTSocket_frame input
  refine quiet_same nothing ?_ ?_ <;> rw [same] <;> rfl

theorem quiet_step (cloud : Cloud) {action : CloudAction}
    (other : ∀ input, action ≠ .cloudTask input) : Quiet cloud (cloud.step action) := by
  cases action with
  | cloudTask input => exact absurd rfl (other input)
  | mainDataTask sw0 sw1 sent =>
    have pressed : Quiet cloud (if sw0 then cloud.cloudDisconnect sent else (cloud, [])) := by
      unfold cloudDisconnect
      split
      · split
        · exact cloud.quiet_mqtt (.disconnect sent) trivial
        · exact quiet_same rfl rfl rfl
      · exact quiet_same rfl rfl rfl
    have joined (cloud : Cloud) :
        Quiet cloud (if sw1 then ({ cloud with haveAPConnection := true }, []) else (cloud, [])) := by
      split
      · exact quiet_same rfl rfl rfl
      · exact quiet_same rfl rfl rfl
    exact quiet_andThen pressed joined
  | reconnectCmd sent => exact cloud.quiet_mqtt (.disconnect sent) trivial
  | socketHandler sock message => exact cloud.quiet_message sock message
  | dnsHandler serverIP =>
    simp only [step]
    split
    · exact quiet_same rfl rfl rfl
    · exact quiet_same rfl rfl rfl
  | apConnection have' => exact quiet_same rfl rfl rfl
  | wifiDisconnected => exact quiet_same rfl rfl rfl
  | timerExpires timer => cases timer <;> exact quiet_same rfl rfl rfl
  | timerRuns timer connects =>
    simp only [step, timerRuns]
    split
    case h_2 => exact quiet_same rfl rfl rfl
    case h_1 =>
      cases timer with
      | mqttTimeoutTask => exact quiet_same rfl rfl rfl
      | cloudResetTask =>
        exact quiet_of_same (quiet_reInit (cloud.setTimer .cloudResetTask .idle) connects) rfl rfl
  | mqttTimerExpires timer => exact cloud.quiet_mqtt (.timerExpires timer) trivial
  | mqttTimerRuns timer => exact cloud.quiet_mqtt (.timerRuns timer) trivial
  | portChanges zeroByte => exact quiet_same rfl rfl rfl

end Quiet

section Reception

theorem silent_nothing {events : List MqttEvent} (silent : ∀ event ∈ events, Silent event) :
    events.filterMap packet? = [] := by
  rw [List.filterMap_eq_nil_iff]
  intro event member
  have quiet := silent event member
  cases event with
  | handed _ _ _ => exact quiet.elim
  | _ => rfl

variable {core : MqttCore} {now : UInt32} {result : MqttCore × List MqttEvent}

theorem receives_nothing (receives : MqttCore.Receives core now result) :
    result.2.filterMap packet? = [] := by
  rcases receives_session receives with ⟨silent, -⟩ | ⟨-, -, -, ⟨silent, -⟩ | ⟨front, closes, silent⟩⟩
  · exact silent_nothing silent
  · exact silent_nothing silent
  · rw [closes, List.filterMap_append, silent_nothing silent]
    rfl

theorem receives_subscribe (receives : MqttCore.Receives core now result) :
    result.1.mqttTxFlags.newTxSubscribePacket = core.mqttTxFlags.newTxSubscribePacket := by
  cases receives with
  | accepted => dsimp only; split <;> rfl
  | pingresp => dsimp only; split <;> rfl
  | _ => rfl

theorem receives_underway (receives : MqttCore.Receives core now result) :
    (Underway result.1.mqttState -> Underway core.mqttState) ∧
      (result.1.mqttState = .connecting -> core.mqttState = .connecting) := by
  rcases receives_session receives with ⟨-, same | ⟨before, after⟩⟩ | ⟨before, off, -⟩
  · rw [same]
    exact ⟨id, id⟩
  · refine ⟨fun _ => before, fun creating => ?_⟩
    simp [Underway, creating] at after
  · exact ⟨fun _ => before, fun creating => by simp [off] at creating⟩

end Reception

section Subscription

variable {packets later : List Handed} {cloud next : Cloud}

theorem subscription_kept (holds : Subscription packets cloud)
    (flags : next.core.TransmitFlags) (unrelated : ∀ packet ∈ later, Unrelated packet)
    (sendSubscribe : next.sendSubscribe = cloud.sendSubscribe)
    (underway : Underway next.core.mqttState -> Underway cloud.core.mqttState ∧
      next.core.mqttTxFlags.newTxSubscribePacket = cloud.core.mqttTxFlags.newTxSubscribePacket)
    (connecting : next.core.mqttState = .connecting -> cloud.core.mqttState = .connecting) :
    Subscription (packets ++ later) next where
  flags := flags
  once := once_append holds.once unrelated
  underway on := by
    obtain ⟨before, same⟩ := underway on
    rw [subscribesSince_append packets unrelated, same, sendSubscribe]
    exact holds.underway before
  connecting creating := by
    rw [sendSubscribe]
    exact holds.connecting (connecting creating)

theorem subscription_quiet {result : Cloud × List WireEvent} (holds : Subscription packets cloud)
    (quiet : Quiet cloud result) : Subscription (packets ++ handedOf result.2) result.1 :=
  subscription_kept holds (quiet.flags holds.flags) quiet.unrelated quiet.sendSubscribe
    quiet.underway quiet.connecting

theorem subscription_same (holds : Subscription packets cloud) (core : next.core = cloud.core)
    (sendSubscribe : next.sendSubscribe = cloud.sendSubscribe) : Subscription packets next := by
  have same := subscription_quiet holds (@quiet_same _ (next, []) rfl core sendSubscribe)
  rwa [handedOf_nil, List.append_nil] at same

theorem subscription_reception (holds : Subscription packets cloud) (input : TaskInput) :
    let result := cloud.mqtt (.receptionHandler input.now input.callback)
    Subscription (packets ++ handedOf result.2) result.1 := by
  obtain ⟨⟨socketState, spareState, same⟩, handed⟩ :=
    cloud.mqtt_frame (.receptionHandler input.now input.callback)
  have receives := cloud.core.receptionHandler_receives input.now input.callback
  obtain ⟨underway, connecting⟩ := receives_underway receives
  dsimp only
  rw [same, handed]
  refine subscription_kept holds (MqttCore.step_flags holds.flags _) ?_ rfl
    (fun on => ⟨underway on, receives_subscribe receives⟩) connecting
  rw [MqttCore.step, receives_nothing receives]
  simp

theorem subscription_transmission (holds : Subscription packets cloud) (sent : Bool)
    (before : cloud.core.mqttState ≠ .disconnected ∨
      cloud.core.mqttTxFlags.newTxConnectPacket = false) :
    Subscription (packets ++ handedOf (cloud.mqtt (.transmissionHandler sent)).2)
      (cloud.mqtt (.transmissionHandler sent)).1 := by
  obtain ⟨⟨socketState, spareState, same⟩, handed⟩ := cloud.mqtt_frame (.transmissionHandler sent)
  have flags := MqttCore.step_flags holds.flags (.transmissionHandler sent)
  have transmits := cloud.core.transmissionHandler_transmits sent
  rw [same, handed]
  simp only [MqttCore.step] at flags ⊢
  generalize cloud.core.mqttTransmissionHandler sent = result at transmits flags ⊢
  -- A packet that is neither a CONNECT nor a SUBSCRIBE leaves the count alone.
  have kept {packetType : MqttControlPacketType} {how : Bool}
      (other : Unrelated (packetType, how)) {core : MqttCore} (flags : core.TransmitFlags)
      (underway : Underway core.mqttState -> Underway cloud.core.mqttState ∧
        core.mqttTxFlags.newTxSubscribePacket = cloud.core.mqttTxFlags.newTxSubscribePacket)
      (connecting : core.mqttState = .connecting -> cloud.core.mqttState = .connecting) :
      Subscription (packets ++ [(packetType, how)])
        ({ cloud with core }.withSockets socketState spareState) :=
    subscription_kept holds flags (by simpa using other) rfl underway connecting
  cases transmits with
  | quiet =>
    rw [List.filterMap_nil, List.append_nil]
    exact subscription_same holds rfl rfl
  | connectSent off pending =>
    have alone := holds.flags.alone pending
    have creating : cloud.sendSubscribe = true := by
      refine holds.connecting (off.resolve_right fun off => ?_)
      rcases before with on | none
      · exact on off
      · rw [none] at pending
        cases pending
    refine ⟨flags, ?_, fun _ => ?_, by simp [withSockets]⟩
    · exact (Machine.justified_append_singleton _ _ _).mpr ⟨holds.once, by simp [Handed.isSubscribe]⟩
    · simp [subscribesSince, packet?, Handed.isConnect, withSockets, creating, alone,
        NewTxDataFlags.none]
  | connectFailed off pending =>
    exact kept (by decide) flags (fun on => ⟨on, rfl⟩) id
  | publishSent on => exact kept (by decide) flags (fun on => ⟨on, rfl⟩) id
  | publishFailed on => exact kept (by decide) flags (by simp [Underway]) (by simp)
  | subscribeSent on pending =>
    have counted := holds.underway (.inr on)
    simp only [pending, Bool.toNat_true] at counted
    -- A pending SUBSCRIBE has been created, and is the only one of its session.
    have created : cloud.sendSubscribe = false := by
      by_contra again
      rw [if_pos (by simpa using again)] at counted
      omega
    rw [if_neg (by simp [created])] at counted
    have none : subscribesSince packets = 0 := by omega
    refine ⟨flags, ?_, fun _ => ?_, fun creating => ?_⟩
    · exact (Machine.justified_append_singleton _ _ _).mpr ⟨holds.once, fun _ => none⟩
    · rw [subscribesSince] at none
      simp [subscribesSince, packet?, Handed.isConnect, Handed.isSubscribe, withSockets, created,
        none]
    · have creating : cloud.core.mqttState = .connecting := creating
      simp [on] at creating
  | subscribeFailed on => exact kept (by decide) flags (fun on => ⟨on, rfl⟩) id
  | pingreqSent on => exact kept (by decide) flags (fun on => ⟨on, rfl⟩) id
  | pingreqFailed on => exact kept (by decide) flags (fun on => ⟨on, rfl⟩) id

theorem subscription_subscribed (holds : Subscription packets cloud)
    (on : cloud.core.mqttState = .connected) (input : TaskInput) :
    Subscription packets (cloud.subscribed input) := by
  unfold subscribed
  split
  case isFalse => exact holds
  case isTrue creating =>
    have counted := holds.underway (.inr on)
    rw [if_pos creating] at counted
    have off := holds.flags.connect (.inr on)
    refine ⟨?_, holds.once, fun _ => ?_, fun creating => ?_⟩
    · exact MqttCore.transmitFlags_of_off holds.flags.noDisconnect holds.flags.noUnsubscribe off
    · simp
      omega
    · have creating : cloud.core.mqttState = .connecting := creating
      simp [on] at creating

theorem quiet_serveSession (on : cloud.core.mqttState = .connected) (input : TaskInput) :
    Quiet (cloud.unsupervised.subscribed input) (cloud.serveSession input) := by
  rw [serveSession_connected on]
  dsimp only
  split
  · exact quiet_andThen (quiet_mqtt _ _ trivial) fun cloud => cloud.quiet_bsdClose _
  · exact quiet_same rfl rfl rfl

theorem subscription_serveSession (holds : Subscription packets cloud)
    (on : cloud.core.mqttState = .connected) (input : TaskInput) :
    Subscription (packets ++ handedOf (cloud.serveSession input).2)
      (cloud.serveSession input).1 := by
  have fresh : Subscription packets cloud.unsupervised := subscription_same holds rfl rfl
  exact subscription_quiet (subscription_subscribed fresh on input) (quiet_serveSession on input)

theorem reception_connect (holds : Subscription packets cloud)
    (before : cloud.core.mqttState ≠ .disconnected) (now : UInt32)
    (callback : List UInt8 -> List UInt8 -> Option MqttPublishPacket) :
    let core := (cloud.core.mqttReceptionHandler now callback).1
    core.mqttState ≠ .disconnected ∨ core.mqttTxFlags.newTxConnectPacket = false := by
  have receives := cloud.core.receptionHandler_receives now callback
  dsimp only
  generalize cloud.core.mqttReceptionHandler now callback = result at receives ⊢
  rcases receives_session receives with ⟨-, same | ⟨-, after⟩⟩ | ⟨underway, -, same, -⟩
  · rw [same]
    exact .inl before
  · refine .inl fun off => ?_
    simp [Underway, off] at after
  · rw [same]
    exact .inr (holds.flags.connect underway)

theorem handedOf_handlePackets (cloud : Cloud) (input : TaskInput) :
    let received := cloud.mqtt (.receptionHandler input.now input.callback)
    let transmitted := received.1.mqtt (.transmissionHandler input.sent)
    handedOf (cloud.handlePackets input).2 =
      handedOf received.2 ++ (handedOf transmitted.2 ++
        if transmitted.1.core.mqttState = .connected then
          handedOf (transmitted.1.serveSession input).2
        else []) := by
  dsimp only
  simp only [handlePackets, andThen, handedOf_append]
  split <;> rfl

theorem subscription_handlePackets (holds : Subscription packets cloud)
    (before : cloud.core.mqttState ≠ .disconnected) (input : TaskInput) :
    Subscription (packets ++ handedOf (cloud.handlePackets input).2)
      (cloud.handlePackets input).1 := by
  have received := subscription_reception holds input
  have connect := reception_connect holds before input.now input.callback
  obtain ⟨⟨socketState, spareState, same⟩, -⟩ :=
    cloud.mqtt_frame (.receptionHandler input.now input.callback)
  have transmitted := subscription_transmission received input.sent (by
    rw [same]
    exact connect)
  rw [handedOf_handlePackets]
  simp only [handlePackets, andThen, ← List.append_assoc]
  split
  case isTrue on => exact subscription_serveSession transmitted on input
  case isFalse => rwa [List.append_nil]

theorem subscription_connectMQTT (holds : Subscription packets cloud)
    (off : cloud.core.mqttState = .disconnected) (input : TaskInput) :
    Subscription (packets ++ handedOf (cloud.connectMQTT input).2) (cloud.connectMQTT input).1 := by
  unfold connectMQTT
  split
  case isTrue =>
    have flags := MqttCore.step_flags holds.flags (.createConnectPacket (mqttClientConnect input))
    have created : cloud.mqtt (.createConnectPacket (mqttClientConnect input)) =
        ({ cloud with core := (cloud.core.step (.createConnectPacket (mqttClientConnect input))).1 },
          []) := rfl
    rw [created]
    refine ⟨flags, ?_, ?_, fun _ => rfl⟩
    · simpa [andThen] using holds.once
    · simp [andThen, MqttCore.step, MqttCore.mqttCreateConnectPacket, Underway]
  case isFalse =>
    refine ⟨holds.flags, ?_, by simp [andThen, Underway, off], fun _ => rfl⟩
    simpa [andThen] using holds.once

theorem subscription_cloudTask (holds : Subscription packets cloud) (input : TaskInput) :
    Subscription (packets ++ handedOf (cloud.cloudTask input).2) (cloud.cloudTask input).1 := by
  obtain ⟨core, -, sendSubscribe⟩ := cloud.supervise_frame
  have first := subscription_same holds core sendSubscribe
  have tasks := cloud.cloudTask_tasks input
  generalize cloud.cloudTask input = result at tasks ⊢
  cases tasks with
  | loses => exact subscription_quiet first (quiet_mqtt _ _ trivial)
  | waits => simpa using first
  | opens => exact subscription_quiet first (quiet_opens _ input)
  | connects off => exact subscription_connectMQTT first (by rwa [core]) input
  | serves on => exact subscription_handlePackets first (by rwa [core]) input

theorem subscription_step (holds : Subscription packets cloud) (action : CloudAction) :
    Subscription (packets ++ handedOf (cloud.step action).2) (cloud.step action).1 := by
  by_cases task : ∃ input, action = .cloudTask input
  · obtain ⟨input, rfl⟩ := task
    exact subscription_cloudTask holds input
  · exact subscription_quiet holds (cloud.quiet_step fun input same => task ⟨input, same⟩)

end Subscription

/-- Between two steps a session runs only with its SUBSCRIBE created. -/
def Subscribed (cloud : Cloud) : Prop :=
  cloud.core.mqttState = .connected -> cloud.sendSubscribe = false

section Subscribed

variable {cloud : Cloud}

theorem subscribed_quiet {result : Cloud × List WireEvent} (holds : cloud.Subscribed)
    (quiet : Quiet cloud result) : result.1.Subscribed := by
  intro on
  rw [quiet.sendSubscribe]
  exact holds (quiet.connected on)

theorem subscribed_serveSession (on : cloud.core.mqttState = .connected) (input : TaskInput) :
    (cloud.serveSession input).1.Subscribed := by
  intro _
  rw [(quiet_serveSession on input).sendSubscribe]
  unfold subscribed
  split
  case isTrue => rfl
  case isFalse created => simpa using created

theorem subscribed_cloudTask (holds : cloud.Subscribed) (input : TaskInput) :
    (cloud.cloudTask input).1.Subscribed := by
  obtain ⟨core, -, sendSubscribe⟩ := cloud.supervise_frame
  have first : cloud.supervise.Subscribed := by
    rw [Subscribed, core, sendSubscribe]
    exact holds
  have tasks := cloud.cloudTask_tasks input
  generalize cloud.cloudTask input = result at tasks ⊢
  cases tasks with
  | loses => exact subscribed_quiet first (quiet_mqtt _ _ trivial)
  | waits => exact first
  | opens => exact subscribed_quiet first (quiet_opens _ input)
  | connects off =>
    intro on
    rw [← core] at off
    unfold connectMQTT at on
    split at on
    · cases on
    · simp [andThen, off] at on
  | serves =>
    simp only [handlePackets, andThen]
    split
    case isTrue on => exact subscribed_serveSession on input
    case isFalse off => exact fun on => absurd on off

theorem subscribed_step (holds : cloud.Subscribed) (action : CloudAction) :
    (cloud.step action).1.Subscribed := by
  by_cases task : ∃ input, action = .cloudTask input
  · obtain ⟨input, rfl⟩ := task
    exact subscribed_cloudTask holds input
  · exact subscribed_quiet holds (cloud.quiet_step fun input same => task ⟨input, same⟩)

theorem not_unrelated_subscribe : ¬ Unrelated (.subscribe, true) := by decide

theorem transmits_subscribe {core : MqttCore} {sent : Bool} {result : MqttCore × List MqttEvent}
    (transmits : MqttCore.Transmits core sent result)
    (sends : (.subscribe, true) ∈ result.2.filterMap packet?) : core.mqttState = .connected := by
  cases transmits with
  | subscribeSent on => exact on
  | _ => simp [packet?] at sends

theorem cloudTask_subscribe {input : TaskInput}
    (subscribe : (.subscribe, true) ∈ handedOf (cloud.cloudTask input).2) :
    (cloud.core.mqttReceptionHandler input.now input.callback).1.mqttState = .connected := by
  have quiet {cloud : Cloud} {result : Cloud × List WireEvent} (quiet : Quiet cloud result)
      (subscribe : (.subscribe, true) ∈ handedOf result.2) : False :=
    not_unrelated_subscribe (quiet.unrelated _ subscribe)
  have tasks := cloud.cloudTask_tasks input
  generalize cloud.cloudTask input = result at tasks subscribe
  cases tasks with
  | loses => exact (quiet (quiet_mqtt _ (.disconnect _) trivial) subscribe).elim
  | waits => simp at subscribe
  | opens => exact (quiet (quiet_opens _ input) subscribe).elim
  | connects =>
    unfold connectMQTT at subscribe
    split at subscribe
    · cases subscribe
    · cases subscribe
  | serves =>
    obtain ⟨⟨socketState, spareState, same⟩, handed⟩ :=
      cloud.supervise.mqtt_frame (.receptionHandler input.now input.callback)
    have receives := cloud.supervise.core.receptionHandler_receives input.now input.callback
    rw [handedOf_handlePackets, handed, MqttCore.step, receives_nothing receives, List.nil_append,
      List.mem_append] at subscribe
    rcases subscribe with sends | served
    · have transmits := MqttCore.transmissionHandler_transmits
        (cloud.core.mqttReceptionHandler input.now input.callback).1 input.sent
      rw [(mqtt_frame _ _).2, same] at sends
      simp only [withSockets, MqttCore.step, cloud.supervise_frame.1] at sends
      exact transmits_subscribe transmits sends
    · split at served
      case isTrue on => exact (quiet (quiet_serveSession on input) served).elim
      case isFalse => cases served

end Subscribed

theorem subscribesOnce (actions : List CloudAction) :
    let (cloud, trace) := Machine.run step boot actions
    (∀ before middle after, handedOf trace = before ++ middle ++ after ->
        (.connect, true) ∉ middle -> middle.count (.subscribe, true) ≤ 1) ∧
      (∀ action, (.subscribe, true) ∈ handedOf (cloud.step action).2 ->
        ∃ input, action = .cloudTask input ∧
          (cloud.core.mqttReceptionHandler input.now input.callback).1.mqttState = .connected) ∧
      ∀ input,
        let (next, events) := cloud.cloudTask input
        next.core.mqttState = .connected -> next.sendSubscribe = false ∧
          (next.core.mqttTxFlags.newTxSubscribePacket = true ∨
            subscribesSince (handedOf (trace ++ events)) = 1) := by
  dsimp only
  have holds : Subscription (handedOf (Machine.run step boot actions).2)
      (Machine.run step boot actions).1 := by
    refine Machine.run_invariant (fun trace cloud => Subscription (handedOf trace) cloud)
      (fun trace cloud action holds _ => ?_) ?_
      (Machine.guarded_of_forall step (fun _ _ => True) (fun _ _ => trivial) boot actions)
    · rw [handedOf_append]
      exact subscription_step holds action
    · exact ⟨⟨rfl, rfl, fun _ => rfl, fun on => by cases on⟩, Machine.justified_nil _,
        by simp [boot, MqttCore.boot, Underway], fun _ => rfl⟩
  have created : (Machine.run step boot actions).1.Subscribed :=
    Machine.run_always Subscribed (fun _ action created => subscribed_step created action)
      (fun on => by cases on) actions
  -- The three parts only need the invariant of the state that is reached.
  generalize Machine.run step boot actions = result at holds created ⊢
  refine ⟨fun before middle after stretch none => ?_, fun action subscribe => ?_, fun input on => ?_⟩
  · have other : ∀ packet ∈ middle, packet.isConnect = false := by
      intro packet member
      simp only [Handed.isConnect, beq_eq_false_iff_ne]
      exact ne_of_mem_of_not_mem member none
    exact Machine.once_of_justified holds.once stretch other
  · by_cases task : ∃ input, action = .cloudTask input
    · obtain ⟨input, rfl⟩ := task
      exact ⟨input, rfl, cloudTask_subscribe subscribe⟩
    · have quiet := result.1.quiet_step fun input same => task ⟨input, same⟩
      exact absurd (quiet.unrelated _ subscribe) not_unrelated_subscribe
  · have next := subscription_cloudTask holds input
    have off := subscribed_cloudTask created input on
    have counted := next.underway (.inr on)
    simp only [off, Bool.false_eq_true, if_false, ← handedOf_append] at counted
    refine ⟨off, ?_⟩
    cases pending : (result.1.cloudTask input).1.core.mqttTxFlags.newTxSubscribePacket with
    | true => exact .inl rfl
    | false =>
      rw [pending] at counted
      exact .inr counted

end Cloud

end AvrVoiceControl
