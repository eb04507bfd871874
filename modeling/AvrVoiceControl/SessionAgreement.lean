import AvrVoiceControl.MqttSteps

set_option autoImplicit false

namespace AvrVoiceControl

open TimeoutService

/-- What a session does not look at, or not before it is written. -/
structure Aside where
  txPublishPacket : MqttPublishPacket
  txSubscribePacket : MqttSubscribePacket
  connectTime : UInt32
  txbuff : Ring txBuffSize
  rxbuff : Ring rxBuffSize

namespace MqttCore

def withAside (core : MqttCore) (aside : Aside) : MqttCore :=
  { core with
    txPublishPacket := aside.txPublishPacket
    txSubscribePacket := aside.txSubscribePacket
    connectTime := aside.connectTime
    txbuff := aside.txbuff
    rxbuff := aside.rxbuff }

def aside (core : MqttCore) : Aside where
  txPublishPacket := core.txPublishPacket
  txSubscribePacket := core.txSubscribePacket
  connectTime := core.connectTime
  txbuff := core.txbuff
  rxbuff := core.rxbuff

/-- Equal but for what a session does not look at, with the same unread bytes, and with the same
packets where one is to be sent or waits for an answer. -/
structure SameSession (left right : MqttCore) : Prop where
  elsewhere : left = right.withAside left.aside
  input : left.rxbuff.contents = right.rxbuff.contents
  publishPacket : right.mqttTxFlags.newTxPublishPacket = true ∨
      right.mqttRxFlags.newRxPubackPacket = true ->
    left.txPublishPacket = right.txPublishPacket
  subscribePacket : right.mqttTxFlags.newTxSubscribePacket = true ∨
      right.mqttRxFlags.newRxSubackPacket = true ->
    left.txSubscribePacket = right.txSubscribePacket

def Agree (left right : MqttCore × List MqttEvent) : Prop :=
  SameSession left.1 right.1 ∧ left.2 = right.2

variable {core : MqttCore} {aside : Aside}

theorem SameSession.states {left right : MqttCore} (same : SameSession left right) :
    left.mqttState = right.mqttState ∧
      left.connackTimeoutOccured = right.connackTimeoutOccured := by
  rw [same.elsewhere]
  exact ⟨rfl, rfl⟩

theorem SameSession.withState {left right : MqttCore} (same : SameSession left right)
    (state : MqttCurrentState) :
    SameSession { left with mqttState := state } { right with mqttState := state } where
  elsewhere := congrArg (fun client => { client with mqttState := state }) same.elsewhere
  input := same.input
  publishPacket := same.publishPacket
  subscribePacket := same.subscribePacket

theorem ite_agree {left right : Prop} [Decidable left] [Decidable right] (iff : left ↔ right)
    {ofLeft ofRight elseLeft elseRight : MqttCore × List MqttEvent}
    (yes : right -> Agree ofLeft ofRight) (no : ¬ right -> Agree elseLeft elseRight) :
    Agree (if left then ofLeft else elseLeft) (if right then ofRight else elseRight) := by
  by_cases which : right
  · rw [if_pos (iff.mpr which), if_pos which]
    exact yes which
  · rw [if_neg (which ∘ iff.mp), if_neg which]
    exact no which

theorem createConnectPacket_agree (same : SameSession (core.withAside aside) core)
    (newConnectPacket : MqttConnectPacket) :
    Agree ((core.withAside aside).mqttCreateConnectPacket newConnectPacket)
      (core.mqttCreateConnectPacket newConnectPacket) := by
  refine ⟨⟨rfl, same.input, ?_, ?_⟩, rfl⟩
  · rintro (sending | awaited)
    · cases sending
    · exact same.publishPacket (.inr awaited)
  · rintro (sending | awaited)
    · cases sending
    · exact same.subscribePacket (.inr awaited)

theorem createPublishPacket_agree (same : SameSession (core.withAside aside) core)
    (newPublishPacket : MqttPublishPacket) :
    Agree ((core.withAside aside).mqttCreatePublishPacket newPublishPacket)
      (core.mqttCreatePublishPacket newPublishPacket) := by
  refine ite_agree .rfl ?_ ?_
  · exact fun _ => ⟨⟨rfl, same.input, fun _ => rfl, same.subscribePacket⟩, rfl⟩
  · exact fun _ => ⟨⟨rfl, same.input, fun _ => rfl, same.subscribePacket⟩, rfl⟩

theorem createSubscribePacket_agree (same : SameSession (core.withAside aside) core)
    (newSubscribePacket : MqttSubscribePacket) :
    Agree ((core.withAside aside).mqttCreateSubscribePacket newSubscribePacket)
      (core.mqttCreateSubscribePacket newSubscribePacket) := by
  refine ite_agree .rfl ?_ ?_
  · exact fun _ => ⟨⟨rfl, same.input, same.publishPacket, fun _ => rfl⟩, rfl⟩
  · exact fun _ => ⟨⟨rfl, same.input, same.publishPacket, fun _ => rfl⟩, rfl⟩

theorem frame_writeAll {size : Nat} (ring : Ring size) (fields : List (List UInt8)) :
    (ring.writeAll fields).frame = fields.flatten.take size := (ring.writeAll_correct fields).1

theorem disconnect_agree (same : SameSession (core.withAside aside) core) (sent : Bool) :
    Agree ((core.withAside aside).mqttDisconnect sent) (core.mqttDisconnect sent) := by
  refine ite_agree .rfl (fun active => ?_) (fun _ => ⟨same, rfl⟩)
  simp only [mqttSendDisconnect, fillTxbuff, withAside, frame_writeAll]
  cases sent with
  | false =>
    exact ⟨⟨rfl, rfl, same.publishPacket, same.subscribePacket⟩, rfl⟩
  | true =>
    refine ⟨⟨rfl, rfl, ?_, ?_⟩, rfl⟩
    · rintro (sending | awaited)
      · cases sending
      · exact same.publishPacket (.inr awaited)
    · rintro (sending | awaited)
      · cases sending
      · exact same.subscribePacket (.inr awaited)

theorem with_state {core : MqttCore} {state : MqttCurrentState} (is : core.mqttState = state) :
    core = { core with mqttState := state } := by
  -- The state as a literal, so that the `switch` of a handler computes.
  rw [← is]

theorem selected_flag (flags : NewTxDataFlags) (some : flags.all > 0) :
    (mqttConnectTxSubstate flags = MqttConnectCurrentTxSubstate.sendPublish.code ->
        flags.newTxPublishPacket = true) ∧
      (mqttConnectTxSubstate flags = MqttConnectCurrentTxSubstate.sendSubscribe.code ->
        flags.newTxSubscribePacket = true) := by
  rw [mqttConnectTxSubstate_eq flags some]
  cases flags.newTxConnectPacket <;> cases flags.newTxDisconnectPacket <;>
    cases flags.newTxPublishPacket <;> cases flags.newTxSubscribePacket <;>
    cases flags.newTxUnsubscribePacket <;> decide

theorem transmissionHandler_agree (same : SameSession (core.withAside aside) core) (sent : Bool) :
    Agree ((core.withAside aside).mqttTransmissionHandler sent)
      (core.mqttTransmissionHandler sent) := by
  have publishPacket := same.publishPacket
  have subscribePacket := same.subscribePacket
  have opened (off : core.mqttState = .connecting ∨ core.mqttState = .disconnected) :
      Agree ((core.withAside aside).mqttTransmissionHandler sent)
        (core.mqttTransmissionHandler sent) := by
    by_cases pending : core.mqttTxFlags.newTxConnectPacket = true
    · rcases off with state | state <;> cases sent <;>
        simp only [mqttTransmissionHandler, mqttSendConnect, fillTxbuff, withAside, state, pending,
          frame_writeAll, ↓reduceIte, Bool.false_eq_true] <;>
        exact ⟨⟨rfl, rfl, publishPacket, subscribePacket⟩, rfl⟩
    · have quiet (client : MqttCore) (state : client.mqttState = core.mqttState)
          (flags : client.mqttTxFlags = core.mqttTxFlags) :
          client.mqttTransmissionHandler sent = (client, []) := by
        rcases off with off | off <;> simp [mqttTransmissionHandler, state, flags, off, pending]
      rw [quiet (core.withAside aside) rfl rfl, quiet core rfl rfl]
      exact ⟨same, rfl⟩
  cases state : core.mqttState with
  | connecting => exact opened (.inl state)
  | disconnected => exact opened (.inr state)
  | waitForConnack =>
    rw [with_state state] at same ⊢
    exact ⟨same, rfl⟩
  | connected =>
    rw [with_state state] at same ⊢
    simp only [mqttTransmissionHandler]
    refine ite_agree .rfl (fun some => ?_) (fun _ => ⟨same, rfl⟩)
    refine ite_agree .rfl (fun _ => ?_) (fun _ => ?_)
    · refine ite_agree .rfl (fun due => ?_) (fun _ => ⟨same, rfl⟩)
      by_cases pending : core.mqttTxFlags.newTxPingreqPacket = true <;> cases sent <;>
        simp only [mqttSendPingreq, fillTxbuff, withAside, pending, frame_writeAll, ↓reduceIte,
          Bool.false_eq_true] <;>
        exact ⟨⟨rfl, rfl, publishPacket, subscribePacket⟩, rfl⟩
    refine ite_agree .rfl (fun selected => ?_) (fun _ => ?_)
    · have publish : core.mqttTxFlags.newTxPublishPacket = true :=
        (selected_flag core.mqttTxFlags some).1 selected
      have packet : aside.txPublishPacket = core.txPublishPacket := publishPacket (.inl publish)
      by_cases acknowledged : core.txPublishPacket.publishHeaderFlags.qos = 1 <;>
        by_cases kept : core.txConnectPacket.keepAliveTimer > 0 <;> cases sent <;>
        simp only [mqttSendPublish, fillTxbuff, withAside, publish, packet, acknowledged, kept,
          frame_writeAll, true_or, ↓reduceIte, Bool.false_eq_true] <;>
        exact ⟨⟨rfl, rfl, fun _ => rfl, subscribePacket⟩, rfl⟩
    refine ite_agree .rfl (fun selected => ?_) (fun _ => ⟨same, rfl⟩)
    have subscribe : core.mqttTxFlags.newTxSubscribePacket = true :=
      (selected_flag core.mqttTxFlags some).2 selected
    have packet : aside.txSubscribePacket = core.txSubscribePacket :=
      subscribePacket (.inl subscribe)
    cases sent <;>
      simp only [mqttSendSubscribe, fillTxbuff, withAside, subscribe, packet, frame_writeAll,
        ↓reduceIte, Bool.false_eq_true] <;>
      exact ⟨⟨rfl, rfl, publishPacket, fun _ => rfl⟩, rfl⟩
theorem processSuback_agree (same : SameSession (core.withAside aside) core)
    (expected : core.mqttRxFlags.newRxSubackPacket = true) :
    (core.withAside aside).mqttProcessSuback.1 = core.mqttProcessSuback.1 ∧
      SameSession (core.withAside aside).mqttProcessSuback.2 core.mqttProcessSuback.2 := by
  have packet : aside.txSubscribePacket = core.txSubscribePacket :=
    same.subscribePacket (.inr expected)
  have input : aside.rxbuff.contents = core.rxbuff.contents := same.input
  constructor
  · simp only [mqttProcessSuback, withAside, readByte_byte, contents_readByte, input, packet]
    split <;> rfl
  · obtain ⟨_, leftBuffer, -, leftEmpty, left⟩ := (core.withAside aside).mqttProcessSuback_cases
    obtain ⟨_, rightBuffer, -, rightEmpty, right⟩ := core.mqttProcessSuback_cases
    rw [left, right]
    exact ⟨rfl, leftEmpty.trans rightEmpty.symm, same.publishPacket, fun _ => packet⟩

theorem processPublish_agree (same : SameSession (core.withAside aside) core)
    (on : core.mqttState = .connected)
    (callback : List UInt8 -> List UInt8 -> Option MqttPublishPacket) :
    Agree ((core.withAside aside).mqttProcessPublish callback)
      (core.mqttProcessPublish callback) := by
  have input : aside.rxbuff.contents = core.rxbuff.contents := same.input
  have packet := readPublishPacket_agrees input
  simp only [mqttProcessPublish, withAside, packet]
  cases answer callback (deliver core.publishRecvInfo (readPublishPacket core.rxbuff).1) with
  | none => exact ⟨⟨rfl, rfl, same.publishPacket, same.subscribePacket⟩, rfl⟩
  | some newPublishPacket =>
    simp only [mqttCreatePublishPacket, on, ↓reduceIte]
    exact ⟨⟨rfl, rfl, fun _ => rfl, same.subscribePacket⟩, rfl⟩

def Acknowledges (core : MqttCore) : Prop :=
  (core.rxbuff.contents.drop 3).headD 0 = core.txPublishPacket.packetIdentifierLSB ∧
    (core.rxbuff.contents.drop 2).headD 0 = core.txPublishPacket.packetIdentifierMSB

instance (core : MqttCore) : Decidable core.Acknowledges := by
  unfold Acknowledges
  infer_instance

theorem mqttProcessPuback_state (core : MqttCore) :
    ∃ rxbuff, rxbuff.contents = core.rxbuff.contents.drop 4 ∧
      core.mqttProcessPuback =
        { core with
          rxbuff := rxbuff
          mqttRxFlags :=
            { core.mqttRxFlags with
              newRxPubackPacket := core.mqttRxFlags.newRxPubackPacket && !core.Acknowledges } } := by
  refine ⟨(readByte (readByte (readByte (readByte core.rxbuff 0).2 0).2 0).2 0).2, by simp, ?_⟩
  have read : core.mqttProcessPuback =
      if core.Acknowledges then
        { core with
          rxbuff := (readByte (readByte (readByte (readByte core.rxbuff 0).2 0).2 0).2 0).2
          mqttRxFlags := { core.mqttRxFlags with newRxPubackPacket := false } }
      else
        { core with
          rxbuff := (readByte (readByte (readByte (readByte core.rxbuff 0).2 0).2 0).2 0).2 } := by
    simp only [mqttProcessPuback, readByte_byte, contents_readByte, List.drop_drop, Acknowledges]
  rw [read]
  by_cases acknowledged : core.Acknowledges
  · simp [acknowledged]
  · simp [acknowledged]

theorem processPuback_agree (same : SameSession (core.withAside aside) core) :
    SameSession (core.withAside aside).mqttProcessPuback core.mqttProcessPuback := by
  have input : aside.rxbuff.contents = core.rxbuff.contents := same.input
  obtain ⟨leftBuffer, leftRest, left⟩ := (core.withAside aside).mqttProcessPuback_state
  obtain ⟨rightBuffer, rightRest, right⟩ := core.mqttProcessPuback_state
  have rest : leftBuffer.contents = rightBuffer.contents := by
    rw [leftRest, rightRest]
    exact congrArg (List.drop 4) input
  have flag : ((core.withAside aside).mqttRxFlags.newRxPubackPacket &&
        !(core.withAside aside).Acknowledges) =
      (core.mqttRxFlags.newRxPubackPacket && !core.Acknowledges) := by
    by_cases awaited : core.mqttRxFlags.newRxPubackPacket = true
    · have packet : aside.txPublishPacket = core.txPublishPacket :=
        same.publishPacket (.inr awaited)
      simp only [Acknowledges, withAside, input, packet]
    · simp [withAside, awaited]
  rw [flag] at left
  rw [left, right]
  refine ⟨rfl, rest, ?_, same.subscribePacket⟩
  simp only [Bool.and_eq_true]
  rintro (sending | ⟨awaited, -⟩)
  · exact same.publishPacket (.inl sending)
  · exact same.publishPacket (.inr awaited)

theorem processPingresp_agree (same : SameSession (core.withAside aside) core) :
    SameSession (core.withAside aside).mqttProcessPingresp core.mqttProcessPingresp := by
  by_cases kept : core.keepAliveTimeout ≠ 0
  · simp only [mqttProcessPingresp, withAside, keepAliveTimeout, ne_eq] at kept ⊢
    simp only [kept, not_false_eq_true, ↓reduceIte]
    exact ⟨rfl, rfl, same.publishPacket, same.subscribePacket⟩
  · simp only [mqttProcessPingresp, withAside, keepAliveTimeout, ne_eq] at kept ⊢
    simp only [kept, ↓reduceIte]
    exact ⟨rfl, rfl, same.publishPacket, same.subscribePacket⟩

section Reception

variable (same : SameSession (core.withAside aside) core) (now : UInt32)
  (callback : List UInt8 -> List UInt8 -> Option MqttPublishPacket)
include same

theorem sameSession_received : aside.rxbuff.dataLength = core.rxbuff.dataLength ∧
    (core.withAside aside).receivedPacketType = core.receivedPacketType := by
  have input : aside.rxbuff.contents = core.rxbuff.contents := same.input
  refine ⟨dataLength_agrees input, ?_⟩
  simp only [receivedPacketType, withAside, Ring.peekByte_eq, input]

theorem connack_agree (waiting : core.mqttState = .waitForConnack) :
    Agree ((core.withAside aside).mqttReceptionHandler now callback)
      (core.mqttReceptionHandler now callback) := by
  obtain ⟨length, packetType⟩ := sameSession_received same
  have input : aside.rxbuff.contents = core.rxbuff.contents := same.input
  have publishPacket := same.publishPacket
  have subscribePacket := same.subscribePacket
  -- Both handlers take the same branches: they look at the type and the unread bytes.
  rw [with_state waiting] at same packetType ⊢
  simp only [mqttReceptionHandler]
  refine ite_agree (by rw [← length]; rfl) (fun _ => ⟨same, rfl⟩) (fun _ => ?_)
  refine ite_agree .rfl (fun _ => ?_) (fun _ => ?_)
  · exact ⟨⟨rfl, input, publishPacket, subscribePacket⟩, rfl⟩
  rw [packetType]
  refine ite_agree .rfl (fun _ => ?_) (fun _ => ?_)
  · have rest : (readByte (readByte (readByte (readByte aside.rxbuff 0).2 0).2 0).2 0).2.contents =
        (readByte (readByte (readByte (readByte core.rxbuff 0).2 0).2 0).2 0).2.contents := by
      simp only [contents_readByte, input]
    simp only [mqttProcessConnack, withAside, readByte_byte, contents_readByte, input]
    refine ite_agree .rfl (fun _ => ?_) (fun _ => ?_)
    · refine ite_agree .rfl (fun _ => ?_) (fun _ => ?_)
      · exact ⟨⟨rfl, rest, publishPacket, subscribePacket⟩, rfl⟩
      · exact ⟨⟨rfl, rest, publishPacket, subscribePacket⟩, rfl⟩
    · exact ⟨⟨rfl, rest, publishPacket, subscribePacket⟩, rfl⟩
  · exact ⟨⟨rfl, input, publishPacket, subscribePacket⟩, rfl⟩

theorem connected_agree (on : core.mqttState = .connected) :
    Agree ((core.withAside aside).mqttReceptionHandler now callback)
      (core.mqttReceptionHandler now callback) := by
  obtain ⟨length, packetType⟩ := sameSession_received same
  have input : aside.rxbuff.contents = core.rxbuff.contents := same.input
  have publishPacket := same.publishPacket
  have subscribePacket := same.subscribePacket
  rw [with_state on] at same packetType ⊢
  simp only [mqttReceptionHandler]
  refine ite_agree (by rw [← length]; rfl) (fun _ => ⟨same, rfl⟩) (fun _ => ?_)
  rw [packetType]
  refine ite_agree .rfl (fun _ => ?_) (fun _ => ?_)
  · refine ite_agree .rfl (fun _ => ?_) (fun _ => ?_)
    · -- The timer is stopped before the response is read.
      refine ⟨@processPingresp_agree { core with mqttState := .connected, pingrespTimer := .idle }
        aside ⟨rfl, input, publishPacket, subscribePacket⟩, rfl⟩
    · exact ⟨⟨rfl, input, publishPacket, subscribePacket⟩, rfl⟩
  refine ite_agree .rfl (fun _ => ?_) (fun _ => ?_)
  · refine ite_agree .rfl (fun expected => ?_) (fun _ => ?_)
    · obtain ⟨verdict, next⟩ := processSuback_agree same expected
      rw [verdict]
      exact ⟨next.withState _, rfl⟩
    · exact ⟨⟨rfl, input, publishPacket, subscribePacket⟩, rfl⟩
  refine ite_agree .rfl (fun _ => ?_) (fun _ => ?_)
  · obtain ⟨next, events⟩ := processPublish_agree same rfl callback
    exact ⟨next, congrArg (List.cons _) events⟩
  refine ite_agree .rfl (fun _ => ?_) (fun _ => ⟨same, rfl⟩)
  exact ⟨processPuback_agree same, rfl⟩

theorem receptionHandler_agree :
    Agree ((core.withAside aside).mqttReceptionHandler now callback)
      (core.mqttReceptionHandler now callback) := by
  have length := (sameSession_received same).1
  cases state : core.mqttState with
  | connecting =>
    rw [with_state state] at same ⊢
    simp only [mqttReceptionHandler]
    exact ite_agree (by rw [← length]; rfl) (fun _ => ⟨same, rfl⟩) (fun _ => ⟨same, rfl⟩)
  | disconnected =>
    rw [with_state state] at same ⊢
    simp only [mqttReceptionHandler]
    exact ite_agree (by rw [← length]; rfl) (fun _ => ⟨same, rfl⟩) (fun _ => ⟨same, rfl⟩)
  | waitForConnack => exact connack_agree same now callback state
  | connected => exact connected_agree same now callback state

end Reception

theorem timerRuns_withAside (core : MqttCore) (aside : Aside) (timer : MqttTimer) :
    (core.withAside aside).timerRuns timer = (core.timerRuns timer).withAside aside := by
  have status : (core.withAside aside).timer timer = core.timer timer := by cases timer <;> rfl
  unfold timerRuns
  rw [status]
  cases core.timer timer with
  | expired timeout => cases timer <;> rfl
  | _ => rfl

theorem step_agree {left core : MqttCore} (same : SameSession left core) (action : MqttAction) :
    Agree (left.step action) (core.step action) := by
  obtain ⟨aside, rfl⟩ : ∃ aside, left = core.withAside aside := ⟨_, same.elsewhere⟩
  have publishPacket := same.publishPacket
  have subscribePacket := same.subscribePacket
  cases action with
  | createConnectPacket newConnectPacket => exact createConnectPacket_agree same newConnectPacket
  | createPublishPacket newPublishPacket => exact createPublishPacket_agree same newPublishPacket
  | createSubscribePacket newSubscribePacket =>
    exact createSubscribePacket_agree same newSubscribePacket
  | disconnect sent => exact disconnect_agree same sent
  | initialiseState => exact ⟨same.withState .disconnected, rfl⟩
  | clientInitialise => exact ⟨⟨rfl, rfl, publishPacket, subscribePacket⟩, rfl⟩
  | transmissionHandler sent => exact transmissionHandler_agree same sent
  | receptionHandler now callback => exact receptionHandler_agree same now callback
  | timerExpires timer =>
    cases timer with
    | connack => exact ⟨⟨rfl, same.input, publishPacket, subscribePacket⟩, rfl⟩
    | pingreq => exact ⟨⟨rfl, same.input, publishPacket, subscribePacket⟩, rfl⟩
    | pingresp => exact ⟨⟨rfl, same.input, publishPacket, subscribePacket⟩, rfl⟩
  | timerRuns timer =>
    refine ⟨?_, rfl⟩
    simp only [step, timerRuns_withAside]
    rcases core.timerRuns_cases timer with stays | ⟨timeout, -, ran⟩
    · rw [stays]
      exact same
    · rw [ran]
      cases timer with
      | connack => exact ⟨rfl, same.input, publishPacket, subscribePacket⟩
      | pingreq => exact ⟨rfl, same.input, publishPacket, subscribePacket⟩
      | pingresp => exact ⟨rfl, same.input, publishPacket, subscribePacket⟩
  | getReceivedData pData =>
    refine ⟨⟨rfl, ?_, publishPacket, subscribePacket⟩, rfl⟩
    simp [step, mqttGetReceivedData]
  | setPublishReceptionHandlerTable table =>
    exact ⟨⟨rfl, same.input, publishPacket, subscribePacket⟩, rfl⟩

theorem run_agree {left right : MqttCore} (same : SameSession left right)
    (actions : List MqttAction) :
    Agree (Machine.run step left actions) (Machine.run step right actions) :=
  @Machine.run_agrees _ _ _ step SameSession (fun _ _ action same => step_agree same action)
    left right same actions

end MqttCore

end AvrVoiceControl
