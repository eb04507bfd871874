import AvrVoiceControl.Reception

set_option autoImplicit false

namespace AvrVoiceControl

open TimeoutService

namespace MqttCore

theorem mqttConnectTxSubstate_eq (flags : NewTxDataFlags) (some : flags.all > 0) :
    mqttConnectTxSubstate flags =
      if flags.newTxConnectPacket then 1
      else if flags.newTxDisconnectPacket then 2
      else if flags.newTxPublishPacket then 4
      else if flags.newTxSubscribePacket then 8
      else if flags.newTxUnsubscribePacket then 16
      else 32 := by
  rcases flags with ⟨connect, disconnect, publish, subscribe, unsubscribe, pingreq⟩
  cases connect <;> cases disconnect <;> cases publish <;> cases subscribe <;>
    cases unsubscribe <;> cases pingreq <;> first | rfl | exact absurd some (by decide)

/-- A handler call or API function with its result, one constructor for each way through it. -/
inductive Transmits (core : MqttCore) : Bool -> MqttCore × List MqttEvent -> Prop
  | quiet (sent : Bool) : Transmits core sent (core, [])
  | connectSent (off : core.mqttState = .connecting ∨ core.mqttState = .disconnected)
      (pending : core.mqttTxFlags.newTxConnectPacket = true) :
      Transmits core true
        ({ core.fillTxbuff (connectFields core.txConnectPacket) with
            mqttTxFlags := { core.mqttTxFlags with newTxConnectPacket := false }
            connackTimer := .pending waitForConnackTimeout
            mqttState := .waitForConnack
            connackTimeoutOccured := false },
          [.handed .connect (core.fillTxbuff (connectFields core.txConnectPacket)).txbuff.frame
            true])
  | connectFailed (off : core.mqttState = .connecting ∨ core.mqttState = .disconnected)
      (pending : core.mqttTxFlags.newTxConnectPacket = true) :
      Transmits core false
        (core.fillTxbuff (connectFields core.txConnectPacket),
          [.handed .connect (core.fillTxbuff (connectFields core.txConnectPacket)).txbuff.frame
            false])
  | publishSent (on : core.mqttState = .connected)
      (pending : core.mqttTxFlags.newTxPublishPacket = true) (timer : TimerStatus)
      (restarted : timer =
        if core.txConnectPacket.keepAliveTimer > 0 then
          .pending (pingreqPeriod core.keepAliveTimeout)
        else .idle) :
      Transmits core true
        ({ core.fillTxbuff (publishFields core.txPublishPacket) with
            mqttTxFlags := { core.mqttTxFlags with newTxPublishPacket := false }
            mqttRxFlags :=
              if core.txPublishPacket.publishHeaderFlags.qos = 1 then
                { core.mqttRxFlags with newRxPubackPacket := true }
              else core.mqttRxFlags
            pingreqTimer := timer },
          [.handed .publish (core.fillTxbuff (publishFields core.txPublishPacket)).txbuff.frame
            true])
  | publishFailed (on : core.mqttState = .connected)
      (pending : core.mqttTxFlags.newTxPublishPacket = true) :
      Transmits core false
        ({ core.fillTxbuff (publishFields core.txPublishPacket) with
            pingreqTimer := .idle
            mqttState := .disconnected },
          [.handed .publish (core.fillTxbuff (publishFields core.txPublishPacket)).txbuff.frame
            false])
  | subscribeSent (on : core.mqttState = .connected)
      (pending : core.mqttTxFlags.newTxSubscribePacket = true) :
      Transmits core true
        ({ core.fillTxbuff (subscribeFields core.txSubscribePacket) with
            mqttTxFlags := { core.mqttTxFlags with newTxSubscribePacket := false }
            mqttRxFlags := { core.mqttRxFlags with newRxSubackPacket := true }
            pingreqTimer := .pending (pingreqPeriod core.keepAliveTimeout) },
          [.handed .subscribe
            (core.fillTxbuff (subscribeFields core.txSubscribePacket)).txbuff.frame true])
  | subscribeFailed (on : core.mqttState = .connected)
      (pending : core.mqttTxFlags.newTxSubscribePacket = true) :
      Transmits core false
        ({ core.fillTxbuff (subscribeFields core.txSubscribePacket) with
            pingreqTimer := .pending (pingreqPeriod core.keepAliveTimeout) },
          [.handed .subscribe
            (core.fillTxbuff (subscribeFields core.txSubscribePacket)).txbuff.frame false])
  | pingreqSent (on : core.mqttState = .connected)
      (pending : core.mqttTxFlags.newTxPingreqPacket = true)
      (due : core.pingreqTimeoutOccured = true) :
      Transmits core true
        ({ core.fillTxbuff pingreqFields with
            mqttTxFlags := { core.mqttTxFlags with newTxPingreqPacket := false }
            mqttRxFlags := { core.mqttRxFlags with newRxPingrespPacket := true }
            pingreqTimeoutOccured := false
            pingrespTimer := .pending waitForPingrespTimeout },
          [.handed .pingreq (core.fillTxbuff pingreqFields).txbuff.frame true])
  | pingreqFailed (on : core.mqttState = .connected)
      (pending : core.mqttTxFlags.newTxPingreqPacket = true)
      (due : core.pingreqTimeoutOccured = true) :
      Transmits core false
        ({ core.fillTxbuff pingreqFields with pingreqTimeoutOccured := false },
          [.handed .pingreq (core.fillTxbuff pingreqFields).txbuff.frame false])

theorem disconnected_transmits (core : MqttCore) (sent : Bool)
    (off : core.mqttState = .connecting ∨ core.mqttState = .disconnected) :
    Transmits core sent (core.mqttTransmissionHandler sent) := by
  have sending := @Transmits.connectSent core off
  have failing := @Transmits.connectFailed core off
  by_cases pending : core.mqttTxFlags.newTxConnectPacket = true
  · cases sent with
    | true =>
      have result := sending pending
      rcases off with off | off <;>
        simpa [mqttTransmissionHandler, off, pending, mqttSendConnect, fillTxbuff] using result
    | false =>
      have result := failing pending
      rcases off with off | off <;>
        simpa [mqttTransmissionHandler, off, pending, mqttSendConnect, fillTxbuff] using result
  · rcases off with off | off <;> simpa [mqttTransmissionHandler, off, pending] using .quiet sent

theorem connected_transmits (core : MqttCore) (sent : Bool) (on : core.mqttState = .connected) :
    Transmits core sent (core.mqttTransmissionHandler sent) := by
  unfold mqttTransmissionHandler
  split
  case h_1 off => simp [on] at off
  case h_2 off => simp [on] at off
  case h_4 off => simp [on] at off
  by_cases some : core.mqttTxFlags.all > 0
  case neg => simpa only [if_neg some] using .quiet sent
  rw [if_pos some]
  simp only [mqttConnectTxSubstate_eq _ some, MqttConnectCurrentTxSubstate.code]
  -- The flags by their priority in `mqttConnectTxSubstate`.
  by_cases connect : core.mqttTxFlags.newTxConnectPacket = true
  · simpa [connect] using .quiet sent
  by_cases disconnect : core.mqttTxFlags.newTxDisconnectPacket = true
  · simpa [connect, disconnect] using .quiet sent
  by_cases publish : core.mqttTxFlags.newTxPublishPacket = true
  · cases sent with
    | true =>
      have sending := Transmits.publishSent on publish _ rfl
      by_cases acknowledged : core.txPublishPacket.publishHeaderFlags.qos = 1 <;>
        by_cases kept : core.txConnectPacket.keepAliveTimer > 0 <;>
        simpa [connect, disconnect, publish, mqttSendPublish, fillTxbuff, acknowledged, kept,
          keepAliveTimeout] using sending
    | false =>
      simpa [connect, disconnect, publish, mqttSendPublish, fillTxbuff] using
        .publishFailed on publish
  by_cases subscribe : core.mqttTxFlags.newTxSubscribePacket = true
  · cases sent with
    | true =>
      have sending := Transmits.subscribeSent on subscribe
      simpa [connect, disconnect, publish, subscribe, mqttSendSubscribe, fillTxbuff,
        keepAliveTimeout] using sending
    | false =>
      simpa [connect, disconnect, publish, subscribe, mqttSendSubscribe, fillTxbuff,
        keepAliveTimeout] using .subscribeFailed on subscribe
  by_cases unsubscribe : core.mqttTxFlags.newTxUnsubscribePacket = true
  · simpa [connect, disconnect, publish, subscribe, unsubscribe] using .quiet sent
  by_cases pingreq : core.mqttTxFlags.newTxPingreqPacket = true
  case neg =>
    simp [NewTxDataFlags.all, connect, disconnect, publish, subscribe, unsubscribe,
      pingreq] at some
  by_cases due : core.pingreqTimeoutOccured = true
  · cases sent with
    | true =>
      have sending := Transmits.pingreqSent on pingreq due
      simpa [connect, disconnect, publish, subscribe, unsubscribe, pingreq, due,
        mqttSendPingreq, fillTxbuff] using sending
    | false =>
      simpa [connect, disconnect, publish, subscribe, unsubscribe, pingreq, due,
        mqttSendPingreq, fillTxbuff] using .pingreqFailed on pingreq due
  · simpa [connect, disconnect, publish, subscribe, unsubscribe, due] using .quiet sent

theorem transmissionHandler_transmits (core : MqttCore) (sent : Bool) :
    Transmits core sent (core.mqttTransmissionHandler sent) := by
  cases state : core.mqttState with
  | connecting => exact core.disconnected_transmits sent (.inl state)
  | disconnected => exact core.disconnected_transmits sent (.inr state)
  | connected => exact core.connected_transmits sent state
  | waitForConnack => simpa [mqttTransmissionHandler, state] using .quiet sent

def Unsolicited (core : MqttCore) : Prop :=
  core.mqttState = .connected ∧ core.rxbuff.dataLength ≠ 0 ∧
    (core.receivedPacketType = MqttControlPacketType.pingresp.code ∧
        ¬ (core.mqttRxFlags.newRxPingrespPacket = true ∧ core.pingrespTimeoutOccured = false) ∨
      core.receivedPacketType = MqttControlPacketType.suback.code ∧
        core.mqttRxFlags.newRxSubackPacket = false)

instance (core : MqttCore) : Decidable core.Unsolicited := by
  unfold Unsolicited
  infer_instance

def Delivery (events : List MqttEvent) : Prop :=
  ∀ event ∈ events, event = .invalidAccess ∨ ∃ topic payload, event = .published topic payload

inductive Receives (core : MqttCore) (now : UInt32) : MqttCore × List MqttEvent -> Prop
  | quiet (nothing : core.rxbuff.dataLength = 0 ∨ core.mqttState = .connecting ∨
        core.mqttState = .disconnected) :
      Receives core now (core, [])
  | connackTimeout (waiting : core.mqttState = .waitForConnack)
      (late : core.connackTimeoutOccured = true) :
      Receives core now ({ core with mqttState := .disconnected }, [.closed])
  | accepted (waiting : core.mqttState = .waitForConnack)
      (inTime : core.connackTimeoutOccured = false) (rxbuff : Ring rxBuffSize) :
      Receives core now
        ({ core with
            connackTimer := .idle
            rxbuff := rxbuff
            mqttState := .connected
            connectTime := now
            mqttTxFlags :=
              if core.keepAliveTimeout ≠ 0 then { core.mqttTxFlags with newTxPingreqPacket := true }
              else core.mqttTxFlags
            pingreqTimer :=
              if core.keepAliveTimeout ≠ 0 then .pending (pingreqPeriod core.keepAliveTimeout)
              else core.pingreqTimer },
          [.processed MqttControlPacketType.connack.code, .accepted])
  | refused (waiting : core.mqttState = .waitForConnack) (packetType : Fin 16)
      (rxbuff : Ring rxBuffSize) (closing : List MqttEvent)
      (how : packetType = MqttControlPacketType.connack.code ∧ closing = [] ∧
          core.RefusesConnection ∨
        packetType ≠ MqttControlPacketType.connack.code ∧ closing = [.closed]) :
      Receives core now
        ({ core with
            connackTimer := .idle
            rxbuff := rxbuff
            mqttState := .disconnected },
          .processed packetType :: closing)
  | unsolicited (unexpected : core.Unsolicited) (packetType : Fin 16) :
      Receives core now ({ core with mqttState := .waitForConnack }, [.processed packetType])
  | pingresp (on : core.mqttState = .connected)
      (expected : core.mqttRxFlags.newRxPingrespPacket = true)
      (inTime : core.pingrespTimeoutOccured = false) (rxbuff : Ring rxBuffSize) :
      Receives core now
        ({ core with
            pingrespTimer := .idle
            rxbuff := rxbuff
            mqttTxFlags :=
              if core.keepAliveTimeout ≠ 0 then { core.mqttTxFlags with newTxPingreqPacket := true }
              else core.mqttTxFlags },
          [.processed MqttControlPacketType.pingresp.code])
  | suback (on : core.mqttState = .connected)
      (packetType : core.receivedPacketType = MqttControlPacketType.suback.code)
      (expected : core.mqttRxFlags.newRxSubackPacket = true) (verdict : MqttCurrentState)
      (which : verdict = .connected ∨ verdict = .disconnected)
      (judged : verdict = core.mqttProcessSuback.1) (rxbuff : Ring rxBuffSize) :
      Receives core now
        ({ core with
            mqttRxFlags := { core.mqttRxFlags with newRxSubackPacket := false }
            rxbuff := rxbuff
            mqttState := verdict },
          [.processed MqttControlPacketType.suback.code])
  | publish (on : core.mqttState = .connected) (rxbuff : Ring rxBuffSize)
      (events : List MqttEvent) (delivery : Delivery events) :
      Receives core now
        ({ core with rxbuff := rxbuff },
          .processed MqttControlPacketType.publish.code :: events)
  | publishAnswered (on : core.mqttState = .connected) (rxbuff : Ring rxBuffSize)
      (events : List MqttEvent) (delivery : Delivery events)
      (newPublishPacket : MqttPublishPacket) :
      Receives core now
        ({ core with
            rxbuff := rxbuff
            txPublishPacket := publishPacketOf newPublishPacket
            mqttTxFlags := { core.mqttTxFlags with newTxPublishPacket := true } },
          .processed MqttControlPacketType.publish.code :: (events ++ [.created .publish]))
  | puback (on : core.mqttState = .connected) (rxbuff : Ring rxBuffSize) (awaited : Bool)
      (stays : awaited = true -> core.mqttRxFlags.newRxPubackPacket = true) :
      Receives core now
        ({ core with
            rxbuff := rxbuff
            mqttRxFlags := { core.mqttRxFlags with newRxPubackPacket := awaited } },
          [.processed MqttControlPacketType.puback.code])
  | ignored (on : core.mqttState = .connected) (packetType : Fin 16) :
      Receives core now (core, [.processed packetType])

theorem subackVerdict_cases (codes : List (UInt8 × UInt8)) (ret : MqttCurrentState)
    (which : ret = .connected ∨ ret = .disconnected) :
    subackVerdict codes ret = .connected ∨ subackVerdict codes ret = .disconnected := by
  induction codes generalizing ret with
  | nil => exact which
  | cons entry rest ih =>
    obtain ⟨returnCode, requestedQoS⟩ := entry
    rw [subackVerdict]
    split
    · exact .inr rfl
    · split
      · exact ih .connected (.inl rfl)
      · exact .inr rfl

theorem mqttProcessSuback_cases (core : MqttCore) :
    ∃ verdict rxbuff,
      (verdict = MqttCurrentState.connected ∨ verdict = .disconnected) ∧ rxbuff.contents = [] ∧
        core.mqttProcessSuback =
          (verdict,
            { core with
              mqttRxFlags := { core.mqttRxFlags with newRxSubackPacket := false }
              rxbuff := rxbuff }) := by
  unfold mqttProcessSuback
  dsimp only
  split
  · exact ⟨_, _, .inr rfl, Ring.contents_init _, rfl⟩
  · exact ⟨_, _, subackVerdict_cases _ _ (.inl rfl), Ring.contents_init _, rfl⟩

theorem dispatch_delivery (topic payload : List UInt8) (topicLength : Nat)
    (table : List PublishReceptionHandler) :
    Delivery (dispatch topic payload topicLength table) := by
  induction table with
  | nil => simp [dispatch, Delivery]
  | cons entry rest ih =>
    cases entry with
    | none => simp [dispatch, Delivery]
    | some registered =>
      rw [dispatch]
      split
      · simp [Delivery]
      · simp [Delivery]
      · exact ih

theorem deliver_delivery
    (table : Option (PublishReceptionHandler × PublishReceptionHandler))
    (packet : RxPublishPacket) : Delivery (deliver table packet) := by
  have overrun : Delivery
      (if packet.topic.length > topicSize ∨ packet.payload.length > payloadArraySize then
        [MqttEvent.invalidAccess]
      else []) := by
    split <;> simp [Delivery]
  intro event member
  unfold deliver at member
  cases table with
  | none =>
    rcases List.mem_append.mp member with early | late
    · exact overrun event early
    · exact .inl (by simpa using late)
  | some entries =>
    rcases List.mem_append.mp member with early | late
    · exact overrun event early
    · exact dispatch_delivery _ _ _ _ event late

theorem mqttProcessPublish_cases (core : MqttCore) (on : core.mqttState = .connected)
    (callback : List UInt8 -> List UInt8 -> Option MqttPublishPacket) :
    ∃ rxbuff events, rxbuff.contents = [] ∧ Delivery events ∧
      (core.mqttProcessPublish callback = ({ core with rxbuff := rxbuff }, events) ∨
        ∃ newPublishPacket,
          core.mqttProcessPublish callback =
            ({ core with
                rxbuff := rxbuff
                txPublishPacket := publishPacketOf newPublishPacket
                mqttTxFlags := { core.mqttTxFlags with newTxPublishPacket := true } },
              events ++ [.created .publish])) := by
  unfold mqttProcessPublish
  generalize readPublishPacket core.rxbuff = parsed
  obtain ⟨packet, rxbuff⟩ := parsed
  have delivery : Delivery (deliver core.publishRecvInfo packet) := deliver_delivery _ packet
  refine ⟨rxbuff.init, _, Ring.contents_init rxbuff, delivery, ?_⟩
  dsimp only
  cases answer callback (deliver core.publishRecvInfo packet) with
  | none => exact .inl (by simp)
  | some newPublishPacket =>
    refine .inr ⟨newPublishPacket, ?_⟩
    simp [mqttCreatePublishPacket, on]

theorem connack_receives (core : MqttCore) (now : UInt32)
    (waiting : core.mqttState = .waitForConnack) (inTime : core.connackTimeoutOccured = false)
    (packetType : core.receivedPacketType = MqttControlPacketType.connack.code) :
    Receives core now
      (let (accepted, core) := { core with connackTimer := .idle }.mqttProcessConnack
      if accepted then
        let core := { core with mqttState := .connected, connectTime := now }
        if core.keepAliveTimeout ≠ 0 then
          ({ core with
              mqttTxFlags := { core.mqttTxFlags with newTxPingreqPacket := true }
              pingreqTimer := .pending (pingreqPeriod core.keepAliveTimeout) },
            [.processed MqttControlPacketType.connack.code, .accepted])
        else (core, [.processed MqttControlPacketType.connack.code, .accepted])
      else
        ({ core with mqttState := .disconnected },
          [.processed MqttControlPacketType.connack.code])) := by
  have refuses := core.mqttProcessConnack_refuses packetType
  unfold mqttProcessConnack at refuses ⊢
  dsimp only at refuses ⊢
  split
  · have accepting (rxbuff : Ring rxBuffSize) :=
      @Receives.accepted core now waiting inTime rxbuff
    by_cases kept : ByteOrder.swap16 core.txConnectPacket.keepAliveTimer = 0
    · simpa [keepAliveTimeout, kept] using accepting _
    · simpa [keepAliveTimeout, kept] using accepting _
  · rename_i refused
    exact .refused waiting _ _ [] (.inl ⟨rfl, rfl, refuses (by simpa using refused)⟩)

theorem connected_receives (core : MqttCore) (now : UInt32)
    (callback : List UInt8 -> List UInt8 -> Option MqttPublishPacket)
    (on : core.mqttState = .connected) (arrived : core.rxbuff.dataLength ≠ 0) :
    Receives core now (core.mqttReceptionHandler now callback) := by
  unfold mqttReceptionHandler
  rw [if_neg arrived]
  split
  case h_1 waiting => simp [on] at waiting
  case h_3 off => simp [on] at off
  case h_4 off => simp [on] at off
  by_cases pingresp : core.receivedPacketType = MqttControlPacketType.pingresp.code
  · rw [if_pos pingresp, pingresp]
    by_cases expected : core.mqttRxFlags.newRxPingrespPacket = true ∧
        core.pingrespTimeoutOccured = false
    · rw [if_pos expected]
      exact .pingresp on expected.1 expected.2 _
    · rw [if_neg expected]
      exact .unsolicited ⟨on, arrived, .inl ⟨pingresp, expected⟩⟩ _
  rw [if_neg pingresp]
  by_cases suback : core.receivedPacketType = MqttControlPacketType.suback.code
  · rw [if_pos suback, suback]
    by_cases expected : core.mqttRxFlags.newRxSubackPacket = true
    · rw [if_pos expected]
      obtain ⟨verdict, rxbuff, which, -, result⟩ := core.mqttProcessSuback_cases
      rw [result]
      exact .suback on suback expected verdict which (by rw [result]) rxbuff
    · rw [if_neg expected]
      exact .unsolicited ⟨on, arrived, .inr ⟨suback, by simpa using expected⟩⟩ _
  rw [if_neg suback]
  by_cases publish : core.receivedPacketType = MqttControlPacketType.publish.code
  · rw [if_pos publish, publish]
    obtain ⟨rxbuff, events, -, delivery, quiet | ⟨newPublishPacket, answered⟩⟩ :=
      core.mqttProcessPublish_cases on callback
    · rw [quiet]
      exact .publish on rxbuff events delivery
    · rw [answered]
      exact .publishAnswered on rxbuff events delivery newPublishPacket
  rw [if_neg publish]
  by_cases puback : core.receivedPacketType = MqttControlPacketType.puback.code
  · rw [if_pos puback, puback]
    unfold mqttProcessPuback
    dsimp only
    split
    · exact .puback on _ false (by simp)
    · exact .puback on _ core.mqttRxFlags.newRxPubackPacket id
  · rw [if_neg puback]
    exact .ignored on _

theorem receptionHandler_receives (core : MqttCore) (now : UInt32)
    (callback : List UInt8 -> List UInt8 -> Option MqttPublishPacket) :
    Receives core now (core.mqttReceptionHandler now callback) := by
  by_cases empty : core.rxbuff.dataLength = 0
  · rw [mqttReceptionHandler, if_pos empty]
    exact .quiet (.inl empty)
  cases state : core.mqttState with
  | connected => exact core.connected_receives now callback state empty
  | connecting =>
    simp only [mqttReceptionHandler, state, if_neg empty]
    exact .quiet (.inr (.inl state))
  | disconnected =>
    simp only [mqttReceptionHandler, state, if_neg empty]
    exact .quiet (.inr (.inr state))
  | waitForConnack =>
    simp only [mqttReceptionHandler, state, if_neg empty]
    by_cases late : core.connackTimeoutOccured = true
    · rw [if_pos late]
      exact .connackTimeout state late
    rw [if_neg late]
    have inTime : core.connackTimeoutOccured = false := by simpa using late
    by_cases connack : core.receivedPacketType = MqttControlPacketType.connack.code
    · rw [if_pos connack, connack]
      exact core.connack_receives now state inTime connack
    · rw [if_neg connack]
      exact .refused state _ core.rxbuff [.closed] (.inr ⟨connack, rfl⟩)

inductive Disconnects (core : MqttCore) : Bool -> MqttCore × List MqttEvent -> Prop
  | idle (sent : Bool) (off : core.mqttState = .connecting ∨ core.mqttState = .disconnected) :
      Disconnects core sent (core, [])
  | sent (active : core.mqttState = .connected ∨ core.mqttState = .waitForConnack) :
      Disconnects core true
        ({ core.fillTxbuff disconnectFields with
            pingreqTimer := .idle
            mqttTxFlags := .none
            mqttState := .disconnected },
          [.handed .disconnect (core.fillTxbuff disconnectFields).txbuff.frame true])
  | failed (active : core.mqttState = .connected ∨ core.mqttState = .waitForConnack) :
      Disconnects core false
        ({ core.fillTxbuff disconnectFields with
            pingreqTimer := .idle
            mqttState := .disconnected },
          [.handed .disconnect (core.fillTxbuff disconnectFields).txbuff.frame false])

theorem mqttDisconnect_disconnects (core : MqttCore) (sent : Bool) :
    Disconnects core sent (core.mqttDisconnect sent) := by
  unfold mqttDisconnect
  split
  case isTrue active =>
    cases sent with
    | true => exact .sent active
    | false => exact .failed active
  case isFalse off =>
    refine .idle sent ?_
    cases state : core.mqttState <;> simp_all

theorem timerRuns_cases (core : MqttCore) (timer : MqttTimer) :
    core.timerRuns timer = core ∨
      ∃ timeout, core.timer timer = .expired timeout ∧
        core.timerRuns timer =
          match timer with
          | .connack => { core with connackTimeoutOccured := true, connackTimer := .idle }
          | .pingreq =>
            { core with
              pingreqTimeoutOccured := true
              pingreqTimer := .reschedule (pingreqPeriod core.keepAliveTimeout) }
          | .pingresp =>
            { core with
              pingrespTimeoutOccured := true
              pingrespTimer := .pending waitForPingrespTimeout } := by
  unfold timerRuns
  cases queued : core.timer timer with
  | idle => exact .inl rfl
  | pending timeout => exact .inl rfl
  | expired timeout =>
    refine .inr ⟨timeout, rfl, ?_⟩
    cases timer <;> rfl

inductive Steps (core : MqttCore) : MqttAction -> MqttCore × List MqttEvent -> Prop
  | createConnect (newConnectPacket : MqttConnectPacket) :
      Steps core (.createConnectPacket newConnectPacket)
        ({ core with
            txConnectPacket := connectPacketOf newConnectPacket
            mqttTxFlags := { NewTxDataFlags.none with newTxConnectPacket := true }
            mqttState := .connecting },
          [.created .connect])
  | createPublish (newPublishPacket : MqttPublishPacket) (on : core.mqttState = .connected) :
      Steps core (.createPublishPacket newPublishPacket)
        ({ core with
            txPublishPacket := publishPacketOf newPublishPacket
            mqttTxFlags := { core.mqttTxFlags with newTxPublishPacket := true } },
          [.created .publish])
  | refusePublish (newPublishPacket : MqttPublishPacket) (off : core.mqttState ≠ .connected) :
      Steps core (.createPublishPacket newPublishPacket)
        ({ core with txPublishPacket := .zero }, [])
  | createSubscribe (newSubscribePacket : MqttSubscribePacket)
      (on : core.mqttState = .connected) :
      Steps core (.createSubscribePacket newSubscribePacket)
        ({ core with
            txSubscribePacket := subscribePacketOf newSubscribePacket
            mqttTxFlags := { core.mqttTxFlags with newTxSubscribePacket := true } },
          [.created .subscribe])
  | refuseSubscribe (newSubscribePacket : MqttSubscribePacket)
      (off : core.mqttState ≠ .connected) :
      Steps core (.createSubscribePacket newSubscribePacket)
        ({ core with txSubscribePacket := .zero }, [])
  | disconnect (sent : Bool) {result : MqttCore × List MqttEvent}
      (disconnects : Disconnects core sent result) : Steps core (.disconnect sent) result
  | initialiseState : Steps core .initialiseState ({ core with mqttState := .disconnected }, [])
  | clientInitialise (txbuff : Ring txBuffSize) (rxbuff : Ring rxBuffSize) :
      Steps core .clientInitialise
        ({ core with mqttState := .disconnected, txbuff := txbuff, rxbuff := rxbuff }, [])
  | transmission (sent : Bool) {result : MqttCore × List MqttEvent}
      (transmits : Transmits core sent result) : Steps core (.transmissionHandler sent) result
  | reception (now : UInt32)
      (callback : List UInt8 -> List UInt8 -> Option MqttPublishPacket)
      {result : MqttCore × List MqttEvent} (receives : Receives core now result) :
      Steps core (.receptionHandler now callback) result
  | timerExpires (timer : MqttTimer) :
      Steps core (.timerExpires timer) (core.timerExpires timer, [])
  | timerStays (timer : MqttTimer) : Steps core (.timerRuns timer) (core, [])
  | connackRuns (timeout : UInt32) (queued : core.connackTimer = .expired timeout) :
      Steps core (.timerRuns .connack)
        ({ core with connackTimeoutOccured := true, connackTimer := .idle }, [])
  | pingreqRuns (timeout : UInt32) (queued : core.pingreqTimer = .expired timeout) :
      Steps core (.timerRuns .pingreq)
        ({ core with
            pingreqTimeoutOccured := true
            pingreqTimer := .reschedule (pingreqPeriod core.keepAliveTimeout) },
          [])
  | pingrespRuns (timeout : UInt32) (queued : core.pingrespTimer = .expired timeout) :
      Steps core (.timerRuns .pingresp)
        ({ core with
            pingrespTimeoutOccured := true
            pingrespTimer := .pending waitForPingrespTimeout },
          [])
  | getReceivedData (pData : List UInt8) (rxbuff : Ring rxBuffSize) :
      Steps core (.getReceivedData pData) ({ core with rxbuff := rxbuff }, [])
  | setTable (table : Option (PublishReceptionHandler × PublishReceptionHandler)) :
      Steps core (.setPublishReceptionHandlerTable table)
        ({ core with publishRecvInfo := table }, [])

theorem step_steps (core : MqttCore) (action : MqttAction) :
    Steps core action (core.step action) := by
  cases action with
  | createConnectPacket newConnectPacket => exact .createConnect newConnectPacket
  | createPublishPacket newPublishPacket =>
    simp only [step, mqttCreatePublishPacket]
    split
    case isTrue on => exact .createPublish newPublishPacket on
    case isFalse off => exact .refusePublish newPublishPacket off
  | createSubscribePacket newSubscribePacket =>
    simp only [step, mqttCreateSubscribePacket]
    split
    case isTrue on => exact .createSubscribe newSubscribePacket on
    case isFalse off => exact .refuseSubscribe newSubscribePacket off
  | disconnect sent => exact .disconnect sent (core.mqttDisconnect_disconnects sent)
  | initialiseState => exact .initialiseState
  | clientInitialise => exact .clientInitialise _ _
  | transmissionHandler sent => exact .transmission sent (core.transmissionHandler_transmits sent)
  | receptionHandler now callback =>
    exact .reception now callback (core.receptionHandler_receives now callback)
  | timerExpires timer => exact .timerExpires timer
  | timerRuns timer =>
    rcases core.timerRuns_cases timer with same | ⟨timeout, queued, ran⟩
    · simp only [step, same]
      exact .timerStays timer
    · simp only [step, ran]
      cases timer with
      | connack => exact .connackRuns timeout queued
      | pingreq => exact .pingreqRuns timeout queued
      | pingresp => exact .pingrespRuns timeout queued
  | getReceivedData pData => exact .getReceivedData pData _
  | setPublishReceptionHandlerTable table => exact .setTable table

def opening (keepAliveTimer : UInt16) : List MqttAction :=
  [.createConnectPacket { MqttConnectPacket.zero with keepAliveTimer := keepAliveTimer },
    .transmissionHandler true, .getReceivedData [0x20, 2, 0, 0],
    .receptionHandler 1 fun _ _ => none]

end MqttCore

end AvrVoiceControl
