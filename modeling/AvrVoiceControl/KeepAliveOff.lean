import AvrVoiceControl.KeepAlive

set_option autoImplicit false

namespace AvrVoiceControl

open ByteOrder TimeoutService

namespace MqttCore

def txSubstateIs (core : MqttCore) (substate : MqttConnectCurrentTxSubstate) : Bool :=
  core.mqttState = .connected && core.mqttTxFlags.all > 0 &&
    mqttConnectTxSubstate core.mqttTxFlags = substate.code

def takesSubscribe (core : MqttCore) : Bool := core.txSubstateIs .sendSubscribe

/-- The step computes `keepAliveTimeout - KEEP_ALIVE_CALCULATION_CONSTANT`. -/
def computesPeriod (core : MqttCore) : MqttAction -> Bool
  | .transmissionHandler sent =>
    core.txSubstateIs .sendPublish && sent && core.txConnectPacket.keepAliveTimer > 0 ||
      core.takesSubscribe
  | .receptionHandler _ _ =>
    core.rxbuff.dataLength ≠ 0 && core.mqttState = .waitForConnack &&
      !core.connackTimeoutOccured &&
      core.receivedPacketType = MqttControlPacketType.connack.code &&
      core.mqttProcessConnack.1 && core.keepAliveTimeout ≠ 0
  | .timerRuns .pingreq => core.pingreqTimer.queued
  | _ => false

/-- After the step the PINGREQ timer is in no list, and the step neither handed a PINGREQ to
`MQTT_Send` nor computed the period of a keep-alive of zero. -/
structure PingsOff (core : MqttCore) (action : MqttAction) : Prop where
  timer : (core.step action).1.pingreqTimer = .idle
  handed : ∀ frame sent, .handed .pingreq frame sent ∉ (core.step action).2
  period : core.computesPeriod action = true -> core.keepAliveTimeout ≠ 0

def SubscribesNot (core : MqttCore) : MqttAction -> Prop
  | .transmissionHandler _ => core.takesSubscribe = false
  | _ => True

instance (core : MqttCore) : (action : MqttAction) -> Decidable (core.SubscribesNot action)
  | .transmissionHandler _ => inferInstanceAs (Decidable (core.takesSubscribe = false))
  | .createConnectPacket _ | .createPublishPacket _ | .createSubscribePacket _ | .disconnect _
  | .initialiseState | .clientInitialise | .receptionHandler _ _ | .timerExpires _ | .timerRuns _
  | .getReceivedData _ | .setPublishReceptionHandlerTable _ => inferInstanceAs (Decidable True)

structure KeepAliveOff (core : MqttCore) : Prop where
  timeout : core.keepAliveTimeout = 0
  timer : core.pingreqTimer = .idle
  flag : core.mqttTxFlags.newTxPingreqPacket = false

theorem subscribe_branch (core : MqttCore) (sent : Bool) (takes : core.takesSubscribe = true) :
    (core.mqttTransmissionHandler sent).1.pingreqTimer =
      .pending (pingreqPeriod core.keepAliveTimeout) := by
  simp only [takesSubscribe, txSubstateIs, Bool.and_eq_true, decide_eq_true_eq] at takes
  obtain ⟨⟨on, some⟩, substate⟩ := takes
  have notPingreq : ¬ MqttConnectCurrentTxSubstate.sendSubscribe.code =
      MqttConnectCurrentTxSubstate.sendPingreq.code := by decide
  have notPublish : ¬ MqttConnectCurrentTxSubstate.sendSubscribe.code =
      MqttConnectCurrentTxSubstate.sendPublish.code := by decide
  simp only [mqttTransmissionHandler, on, some, if_true, substate, notPingreq, notPublish, if_false]
  by_cases pending : core.mqttTxFlags.newTxSubscribePacket = true <;> cases sent <;>
    simp [mqttSendSubscribe, fillTxbuff, pending, keepAliveTimeout]

theorem mqttSendPublish_handed (core : MqttCore) (sent : Bool) (event : MqttEvent)
    (handed : event ∈ (core.mqttSendPublish sent).2.2) :
    ∃ frame result, event = .handed .publish frame result := by
  unfold mqttSendPublish at handed
  dsimp only at handed
  split_ifs at handed with pending ok <;> simp at handed <;> exact ⟨_, _, handed⟩

theorem subscribe_handed (core : MqttCore) (sent : Bool) (other : core.takesSubscribe = false)
    (frame : List UInt8) (result : Bool) :
    .handed .subscribe frame result ∉ (core.mqttTransmissionHandler sent).2 := by
  intro handed
  unfold mqttTransmissionHandler at handed
  split at handed
  case h_1 =>
    by_cases pending : core.mqttTxFlags.newTxConnectPacket = true <;> cases sent <;>
      simp [mqttSendConnect, fillTxbuff, pending] at handed
  case h_2 =>
    by_cases pending : core.mqttTxFlags.newTxConnectPacket = true <;> cases sent <;>
      simp [mqttSendConnect, fillTxbuff, pending] at handed
  case h_4 => simp at handed
  case h_3 on =>
    by_cases some : core.mqttTxFlags.all > 0
    case neg => simp [some] at handed
    simp only [some, if_true] at handed
    by_cases pingreq : mqttConnectTxSubstate core.mqttTxFlags =
        MqttConnectCurrentTxSubstate.sendPingreq.code
    · by_cases due : core.pingreqTimeoutOccured = true <;>
        by_cases pending : core.mqttTxFlags.newTxPingreqPacket = true <;> cases sent <;>
          simp [pingreq, due, mqttSendPingreq, fillTxbuff, pending] at handed
    by_cases publish : mqttConnectTxSubstate core.mqttTxFlags =
        MqttConnectCurrentTxSubstate.sendPublish.code
    · have member : .handed .subscribe frame result ∈
          ({ core with pingreqTimer := .idle }.mqttSendPublish sent).2.2 := by
        simp only [if_neg pingreq, if_pos publish] at handed
        split_ifs at handed <;> exact handed
      obtain ⟨frame', result', same⟩ := mqttSendPublish_handed _ sent _ member
      simp at same
    have notSubscribe : ¬ mqttConnectTxSubstate core.mqttTxFlags =
        MqttConnectCurrentTxSubstate.sendSubscribe.code := by
      simpa [takesSubscribe, txSubstateIs, on, some] using other
    simp [pingreq, publish, notSubscribe] at handed

theorem transmission_off {core : MqttCore} (off : core.KeepAliveOff) (sent : Bool)
    (other : core.takesSubscribe = false) :
    (core.mqttTransmissionHandler sent).1.KeepAliveOff ∧
      ∀ frame result, .handed .pingreq frame result ∉ (core.mqttTransmissionHandler sent).2 := by
  have notSubscribe := core.subscribe_handed sent other
  have transmits := core.transmissionHandler_transmits sent
  have notStored : ¬ core.txConnectPacket.keepAliveTimer > 0 := by
    have zero := (swap16_eq_zero _).mp off.timeout
    simp [zero]
  generalize core.mqttTransmissionHandler sent = result at notSubscribe transmits
  cases transmits with
  | quiet => exact ⟨off, by simp⟩
  | connectSent _ pending => exact ⟨⟨off.timeout, off.timer, off.flag⟩, by simp⟩
  | connectFailed _ pending => exact ⟨⟨off.timeout, off.timer, off.flag⟩, by simp⟩
  | publishSent on pending timer restarted =>
    refine ⟨⟨off.timeout, ?_, off.flag⟩, by simp⟩
    rw [restarted, if_neg notStored]
  | publishFailed on pending => exact ⟨⟨off.timeout, rfl, off.flag⟩, by simp⟩
  | subscribeSent on pending => exact absurd (List.mem_singleton.mpr rfl) (notSubscribe _ true)
  | subscribeFailed on pending => exact absurd (List.mem_singleton.mpr rfl) (notSubscribe _ false)
  | pingreqSent on pending due => simp [off.flag] at pending
  | pingreqFailed on pending due => simp [off.flag] at pending

theorem receives_off {core : MqttCore} (off : core.KeepAliveOff) {now : UInt32}
    {result : MqttCore × List MqttEvent} (receives : Receives core now result) :
    result.1.KeepAliveOff ∧ ∀ frame sent, .handed .pingreq frame sent ∉ result.2 := by
  have timeout : ¬ core.keepAliveTimeout ≠ 0 := fun stored => stored off.timeout
  have delivered {events : List MqttEvent} (delivery : Delivery events) (frame : List UInt8)
      (sent : Bool) : .handed .pingreq frame sent ∉ events := by
    intro member
    rcases delivery _ member with invalid | ⟨topic, payload, published⟩
    · simp at invalid
    · simp at published
  cases receives with
  | quiet nothing => exact ⟨off, by simp⟩
  | connackTimeout waiting late => exact ⟨⟨off.timeout, off.timer, off.flag⟩, by simp⟩
  | accepted waiting inTime rxbuff =>
    refine ⟨⟨off.timeout, ?_, ?_⟩, by simp⟩
    · simp only [timeout, if_false]
      exact off.timer
    · simp only [timeout, if_false]
      exact off.flag
  | refused waiting packetType rxbuff closing how =>
    refine ⟨⟨off.timeout, off.timer, off.flag⟩, ?_⟩
    rcases how with ⟨-, rfl, -⟩ | ⟨-, rfl⟩ <;> simp
  | unsolicited unexpected packetType => exact ⟨⟨off.timeout, off.timer, off.flag⟩, by simp⟩
  | pingresp on expected inTime rxbuff =>
    refine ⟨⟨off.timeout, off.timer, ?_⟩, by simp⟩
    simp only [timeout, if_false]
    exact off.flag
  | suback on packetType expected verdict which judged rxbuff =>
    exact ⟨⟨off.timeout, off.timer, off.flag⟩, by simp⟩
  | publish on rxbuff events delivery =>
    refine ⟨⟨off.timeout, off.timer, off.flag⟩, fun frame sent => ?_⟩
    simp [delivered delivery frame sent]
  | publishAnswered on rxbuff events delivery newPublishPacket =>
    refine ⟨⟨off.timeout, off.timer, off.flag⟩, fun frame sent => ?_⟩
    simp [delivered delivery frame sent]
  | puback on rxbuff awaited stays => exact ⟨⟨off.timeout, off.timer, off.flag⟩, by simp⟩
  | ignored on packetType => exact ⟨off, by simp⟩

theorem disconnects_off {core : MqttCore} (off : core.KeepAliveOff) {sent : Bool}
    {result : MqttCore × List MqttEvent} (disconnects : Disconnects core sent result) :
    result.1.KeepAliveOff ∧ ∀ frame result', .handed .pingreq frame result' ∉ result.2 := by
  cases disconnects with
  | idle _ _ => exact ⟨off, by simp⟩
  | sent active => exact ⟨⟨off.timeout, rfl, rfl⟩, by simp⟩
  | failed active => exact ⟨⟨off.timeout, rfl, off.flag⟩, by simp⟩

def CreatesOff (action : MqttAction) : Prop :=
  ∀ newConnectPacket, action = .createConnectPacket newConnectPacket ->
    newConnectPacket.keepAliveTimer = 0

theorem steps_off {core : MqttCore} (off : core.KeepAliveOff) (action : MqttAction)
    (stays : CreatesOff action) (other : core.SubscribesNot action) :
    (core.step action).1.KeepAliveOff ∧
      ∀ frame sent, .handed .pingreq frame sent ∉ (core.step action).2 := by
  cases action with
  | transmissionHandler sent => exact transmission_off off sent other
  | receptionHandler now callback =>
    exact receives_off off (core.receptionHandler_receives now callback)
  | disconnect sent => exact disconnects_off off (core.mqttDisconnect_disconnects sent)
  | timerExpires timer =>
    cases timer with
    | connack => exact ⟨⟨off.timeout, off.timer, off.flag⟩, by simp [step]⟩
    | pingresp => exact ⟨⟨off.timeout, off.timer, off.flag⟩, by simp [step]⟩
    | pingreq =>
      refine ⟨⟨off.timeout, ?_, off.flag⟩, by simp [step]⟩
      exact (TimerStatus.expire_idle_iff _).mpr off.timer
  | createConnectPacket newConnectPacket =>
    refine ⟨⟨?_, off.timer, rfl⟩, by simp [step, mqttCreateConnectPacket]⟩
    have zero := stays newConnectPacket rfl
    simp [step, mqttCreateConnectPacket, keepAliveTimeout, connectPacketOf, zero]
  | createPublishPacket newPublishPacket =>
    by_cases on : core.mqttState = .connected
    · rw [step, mqttCreatePublishPacket, if_pos on]
      exact ⟨⟨off.timeout, off.timer, off.flag⟩, by simp⟩
    · rw [step, mqttCreatePublishPacket, if_neg on]
      exact ⟨⟨off.timeout, off.timer, off.flag⟩, by simp⟩
  | createSubscribePacket newSubscribePacket =>
    by_cases on : core.mqttState = .connected
    · rw [step, mqttCreateSubscribePacket, if_pos on]
      exact ⟨⟨off.timeout, off.timer, off.flag⟩, by simp⟩
    · rw [step, mqttCreateSubscribePacket, if_neg on]
      exact ⟨⟨off.timeout, off.timer, off.flag⟩, by simp⟩
  | timerRuns timer =>
    rcases core.timerRuns_cases timer with same | ⟨timeout, queued, ran⟩
    · rw [step, same]
      exact ⟨off, by simp⟩
    · rw [step, ran]
      cases timer with
      | connack => exact ⟨⟨off.timeout, off.timer, off.flag⟩, by simp⟩
      | pingresp => exact ⟨⟨off.timeout, off.timer, off.flag⟩, by simp⟩
      | pingreq =>
        -- The timer is idle, so its callback is not in the queue.
        rw [timer, off.timer] at queued
        simp at queued
  | initialiseState => exact ⟨⟨off.timeout, off.timer, off.flag⟩, by simp [step]⟩
  | clientInitialise => exact ⟨⟨off.timeout, off.timer, off.flag⟩, by simp [step]⟩
  | getReceivedData pData => exact ⟨⟨off.timeout, off.timer, off.flag⟩, by simp [step]⟩
  | setPublishReceptionHandlerTable table =>
    exact ⟨⟨off.timeout, off.timer, off.flag⟩, by simp [step]⟩

theorem computesPeriod_off {core : MqttCore} (off : core.KeepAliveOff) (action : MqttAction)
    (other : core.SubscribesNot action) : core.computesPeriod action = false := by
  have notStored : ¬ core.txConnectPacket.keepAliveTimer > 0 := by
    have zero := (swap16_eq_zero _).mp off.timeout
    simp [zero]
  cases action with
  | transmissionHandler sent =>
    have notTaken : core.takesSubscribe = false := other
    simp [computesPeriod, notStored, notTaken]
  | receptionHandler now callback => simp [computesPeriod, off.timeout]
  | timerRuns timer =>
    cases timer with
    | pingreq => simp [computesPeriod, off.timer, TimerStatus.queued]
    | connack => rfl
    | pingresp => rfl
  | _ => rfl

theorem pingsOff_iff {core : MqttCore} (off : core.KeepAliveOff) (action : MqttAction)
    (stays : CreatesOff action) : core.PingsOff action ↔ core.SubscribesNot action := by
  constructor
  · intro good
    cases action with
    | transmissionHandler sent =>
      by_contra taken
      have takes : core.takesSubscribe = true := by simpa [SubscribesNot] using taken
      have timer := good.timer
      rw [step, core.subscribe_branch sent takes] at timer
      simp at timer
    | _ => trivial
  · intro other
    obtain ⟨next, handed⟩ := steps_off off action stays other
    exact ⟨next.timer, handed, fun computes => by
      simp [computesPeriod_off off action other] at computes⟩

def createdOff (actions : List MqttAction) (newConnectPacket : MqttConnectPacket) : MqttCore :=
  (Machine.run step boot (actions ++ [.createConnectPacket newConnectPacket])).1

theorem keepAliveOff_iff (actions : List MqttAction) (newConnectPacket : MqttConnectPacket)
    (zero : newConnectPacket.keepAliveTimer = 0) (later : List MqttAction)
    (stays : ∀ action ∈ later, CreatesOff action) :
    ((createdOff actions newConnectPacket).pingreqTimer = .idle ∧
        Machine.Guarded step PingsOff (createdOff actions newConnectPacket) later) ↔
      ((createdOff actions newConnectPacket).pingreqTimer = .idle ∧
        Machine.Guarded step SubscribesNot (createdOff actions newConnectPacket) later) := by
  apply and_congr_right
  intro idle
  have off : (createdOff actions newConnectPacket).KeepAliveOff := by
    refine ⟨?_, idle, ?_⟩
    · simp [createdOff, Machine.run_append, Machine.run_cons, step, mqttCreateConnectPacket,
        keepAliveTimeout, connectPacketOf, zero]
    · simp [createdOff, Machine.run_append, Machine.run_cons, step, mqttCreateConnectPacket,
        NewTxDataFlags.none]
  generalize createdOff actions newConnectPacket = core at off
  clear idle
  induction later generalizing core with
  | nil => exact Iff.rfl
  | cons action rest ih =>
    have here := stays action (by simp)
    have same := pingsOff_iff off action here
    simp only [Machine.Guarded, same]
    apply and_congr_right
    intro other
    exact ih (fun next member => stays next (List.mem_cons_of_mem _ member)) _
      (steps_off off action here other).1

def publishing : List MqttAction :=
  (opening 0).tail ++ [.createPublishPacket .zero, .transmissionHandler true]

theorem keepAliveOff_publishing :
    (createdOff [] .zero).pingreqTimer = .idle ∧
      Machine.Guarded step PingsOff (createdOff [] .zero) publishing :=
  (keepAliveOff_iff [] .zero rfl publishing (by simp [publishing, opening, CreatesOff])).mpr
    ⟨rfl, by decide +kernel⟩

def subscribing : List MqttAction := (opening 0).tail ++ [.createSubscribePacket .zero]

theorem keepAliveOff_subscribing :
    ¬ ((createdOff [] .zero).pingreqTimer = .idle ∧
      Machine.Guarded step PingsOff (createdOff [] .zero)
        (subscribing ++ [.transmissionHandler true])) := by
  rintro ⟨-, guarded⟩
  obtain ⟨-, last, -⟩ := (Machine.guarded_append _ _ _ _ _).mp guarded
  exact absurd last.timer (by decide +kernel)

end MqttCore

end AvrVoiceControl
