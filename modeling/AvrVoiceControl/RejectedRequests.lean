import AvrVoiceControl.MqttSteps

set_option autoImplicit false

namespace AvrVoiceControl

open TimeoutService

namespace MqttCore

/-- The packet that a call asks for, by the application or by its publish callback. -/
def requestedPublish (core : MqttCore) : MqttAction -> Option MqttPublishPacket
  | .createPublishPacket newPublishPacket => some newPublishPacket
  | .receptionHandler _ callback =>
    answer callback (deliver core.publishRecvInfo (readPublishPacket core.rxbuff).1)
  | _ => none

def requestedSubscribe : MqttAction -> Option MqttSubscribePacket
  | .createSubscribePacket newSubscribePacket => some newSubscribePacket
  | _ => none

structure LastCreated where
  publish : Option MqttPublishPacket
  subscribe : Option MqttSubscribePacket

def lastCreated (core : MqttCore) (action : MqttAction) (last : LastCreated) : LastCreated where
  publish :=
    if .created .publish ∈ (core.step action).2 then core.requestedPublish action else last.publish
  subscribe :=
    if .created .subscribe ∈ (core.step action).2 then requestedSubscribe action
    else last.subscribe

/-- A call that returns false leaves its packet, the transmit flags and the state as they were. -/
def RefusedUnchanged (core : MqttCore) (action : MqttAction) : Prop :=
  match action with
  | .createPublishPacket _ =>
    .created .publish ∉ (core.step action).2 ->
      (core.step action).1.txPublishPacket = core.txPublishPacket ∧
        (core.step action).1.mqttTxFlags = core.mqttTxFlags ∧
        (core.step action).1.mqttState = core.mqttState
  | .createSubscribePacket _ =>
    .created .subscribe ∉ (core.step action).2 ->
      (core.step action).1.txSubscribePacket = core.txSubscribePacket ∧
        (core.step action).1.mqttTxFlags = core.mqttTxFlags ∧
        (core.step action).1.mqttState = core.mqttState
  | _ => True

structure Built (core : MqttCore) (last : LastCreated) : Prop where
  publish : core.mqttTxFlags.newTxPublishPacket = true ->
    ∃ newPublishPacket, last.publish = some newPublishPacket ∧
      core.txPublishPacket = publishPacketOf newPublishPacket
  subscribe : core.mqttTxFlags.newTxSubscribePacket = true ->
    ∃ newSubscribePacket, last.subscribe = some newSubscribePacket ∧
      core.txSubscribePacket = subscribePacketOf newSubscribePacket

/-- A request comes while the client is connected or while there is nothing stored. -/
def NothingToLose (core : MqttCore) (action : MqttAction) : Prop :=
  match action with
  | .createPublishPacket _ => core.mqttState = .connected ∨ core.txPublishPacket = .zero
  | .createSubscribePacket _ => core.mqttState = .connected ∨ core.txSubscribePacket = .zero
  | _ => True

instance (core : MqttCore) : (action : MqttAction) -> Decidable (core.NothingToLose action)
  | .createPublishPacket _ =>
    inferInstanceAs (Decidable (core.mqttState = .connected ∨ core.txPublishPacket = .zero))
  | .createSubscribePacket _ =>
    inferInstanceAs (Decidable (core.mqttState = .connected ∨ core.txSubscribePacket = .zero))
  | .createConnectPacket _ | .disconnect _ | .initialiseState | .clientInitialise
  | .transmissionHandler _ | .receptionHandler _ _ | .timerExpires _ | .timerRuns _
  | .getReceivedData _ | .setPublishReceptionHandlerTable _ => inferInstanceAs (Decidable True)

theorem refusedUnchanged_iff (core : MqttCore) (action : MqttAction) :
    core.RefusedUnchanged action ↔ core.NothingToLose action := by
  cases action with
  | createPublishPacket newPublishPacket =>
    by_cases on : core.mqttState = .connected
    · simp [RefusedUnchanged, NothingToLose, step, mqttCreatePublishPacket, on]
    · simp [RefusedUnchanged, NothingToLose, step, mqttCreatePublishPacket, on, eq_comm]
  | createSubscribePacket newSubscribePacket =>
    by_cases on : core.mqttState = .connected
    · simp [RefusedUnchanged, NothingToLose, step, mqttCreateSubscribePacket, on]
    · simp [RefusedUnchanged, NothingToLose, step, mqttCreateSubscribePacket, on, eq_comm]
  | _ => exact Iff.rfl

theorem delivery_created {events : List MqttEvent} (delivery : Delivery events)
    (packetType : MqttControlPacketType) : .created packetType ∉ events := by
  intro member
  rcases delivery _ member with invalid | ⟨topic, payload, published⟩
  · simp at invalid
  · simp at published

theorem publish_created (core : MqttCore) (on : core.mqttState = .connected)
    (callback : List UInt8 -> List UInt8 -> Option MqttPublishPacket)
    (created : .created .publish ∈ (core.mqttProcessPublish callback).2) :
    ∃ newPublishPacket,
      answer callback (deliver core.publishRecvInfo (readPublishPacket core.rxbuff).1) =
        some newPublishPacket ∧
      (core.mqttProcessPublish callback).1.txPublishPacket = publishPacketOf newPublishPacket := by
  cases answered : answer callback
      (deliver core.publishRecvInfo (readPublishPacket core.rxbuff).1) with
  | none =>
    have delivery := deliver_delivery core.publishRecvInfo (readPublishPacket core.rxbuff).1
    have absent := delivery_created delivery .publish
    simp [mqttProcessPublish, answered, absent] at created
  | some newPublishPacket =>
    refine ⟨newPublishPacket, rfl, ?_⟩
    simp [mqttProcessPublish, answered, mqttCreatePublishPacket, on]

theorem reception_created (core : MqttCore) (now : UInt32)
    (callback : List UInt8 -> List UInt8 -> Option MqttPublishPacket)
    (created : .created .publish ∈ (core.mqttReceptionHandler now callback).2) :
    ∃ newPublishPacket,
      answer callback (deliver core.publishRecvInfo (readPublishPacket core.rxbuff).1) =
        some newPublishPacket ∧
      (core.mqttReceptionHandler now callback).1.txPublishPacket =
        publishPacketOf newPublishPacket := by
  unfold mqttReceptionHandler at created ⊢
  by_cases empty : core.rxbuff.dataLength = 0
  · simp [empty] at created
  simp only [empty, if_false] at created ⊢
  cases state : core.mqttState with
  | connecting => simp [state] at created
  | disconnected => simp [state] at created
  | waitForConnack =>
    simp only [state] at created
    split_ifs at created <;> simp at created
  | connected =>
    simp only [state] at created ⊢
    by_cases pingresp : core.receivedPacketType = MqttControlPacketType.pingresp.code
    · simp only [pingresp, if_true] at created
      split_ifs at created <;> simp at created
    by_cases suback : core.receivedPacketType = MqttControlPacketType.suback.code
    · simp only [suback, if_true] at created
      split_ifs at created <;> simp at created
    by_cases publish : core.receivedPacketType = MqttControlPacketType.publish.code
    · have notPingresp : ¬ MqttControlPacketType.publish.code =
          MqttControlPacketType.pingresp.code := by decide
      have notSuback : ¬ MqttControlPacketType.publish.code =
          MqttControlPacketType.suback.code := by decide
      simp only [publish, notPingresp, notSuback, if_true, if_false, List.mem_cons, reduceCtorEq,
        false_or] at created ⊢
      exact core.publish_created state callback created
    · simp only [pingresp, suback, publish, if_false] at created
      split_ifs at created <;> simp at created

theorem transmits_created {core : MqttCore} {sent : Bool} {result : MqttCore × List MqttEvent}
    (transmits : Transmits core sent result) (packetType : MqttControlPacketType) :
    .created packetType ∉ result.2 := by
  cases transmits <;> simp

theorem transmits_built {core : MqttCore} {last : LastCreated} (built : core.Built last)
    {sent : Bool} {result : MqttCore × List MqttEvent} (transmits : Transmits core sent result) :
    result.1.Built last := by
  cases transmits with
  | quiet => exact built
  | publishSent on pending timer restarted =>
    exact ⟨fun set => absurd set (by simp), built.subscribe⟩
  | subscribeSent on pending => exact ⟨built.publish, fun set => absurd set (by simp)⟩
  | _ => exact ⟨built.publish, built.subscribe⟩

theorem receives_built {core : MqttCore} {last : LastCreated} (built : core.Built last)
    {now : UInt32} {result : MqttCore × List MqttEvent} (receives : Receives core now result) :
    .created .subscribe ∉ result.2 ∧
      (.created .publish ∉ result.2 -> result.1.Built last) ∧
      (∀ newPublishPacket, result.1.txPublishPacket = publishPacketOf newPublishPacket ->
        .created .publish ∈ result.2 ->
          result.1.Built { last with publish := some newPublishPacket }) := by
  have quiet (after : MqttCore) (events : List MqttEvent) (here : after.Built last)
      (none : ∀ packetType, .created packetType ∉ events) :
      .created .subscribe ∉ events ∧ (.created .publish ∉ events -> after.Built last) ∧
        (∀ newPublishPacket, after.txPublishPacket = publishPacketOf newPublishPacket ->
          .created .publish ∈ events ->
            after.Built { last with publish := some newPublishPacket }) :=
    ⟨none .subscribe, fun _ => here, fun _ _ created => absurd created (none .publish)⟩
  cases receives with
  | quiet nothing => exact quiet _ _ built (by simp)
  | connackTimeout waiting late => exact quiet _ _ ⟨built.publish, built.subscribe⟩ (by simp)
  | accepted waiting inTime rxbuff =>
    refine quiet _ _ ⟨fun set => built.publish ?_, fun set => built.subscribe ?_⟩ (by simp)
    · dsimp only at set
      split_ifs at set <;> exact set
    · dsimp only at set
      split_ifs at set <;> exact set
  | refused waiting packetType rxbuff closing how =>
    refine quiet _ _ ⟨built.publish, built.subscribe⟩ ?_
    rcases how with ⟨-, rfl, -⟩ | ⟨-, rfl⟩ <;> simp
  | unsolicited unexpected packetType =>
    exact quiet _ _ ⟨built.publish, built.subscribe⟩ (by simp)
  | pingresp on expected inTime rxbuff =>
    refine quiet _ _ ⟨fun set => built.publish ?_, fun set => built.subscribe ?_⟩ (by simp)
    · dsimp only at set
      split_ifs at set <;> exact set
    · dsimp only at set
      split_ifs at set <;> exact set
  | suback on packetType expected verdict which judged rxbuff =>
    exact quiet _ _ ⟨built.publish, built.subscribe⟩ (by simp)
  | publish on rxbuff events delivery =>
    refine quiet _ _ ⟨built.publish, built.subscribe⟩ fun packetType => ?_
    simp [delivery_created delivery packetType]
  | publishAnswered on rxbuff events delivery newPublishPacket =>
    refine ⟨by simp [delivery_created delivery .subscribe], fun absent => absurd (by simp) absent,
      fun packet same _ => ⟨fun _ => ⟨packet, rfl, same⟩, built.subscribe⟩⟩
  | puback on rxbuff awaited stays => exact quiet _ _ ⟨built.publish, built.subscribe⟩ (by simp)
  | ignored on packetType => exact quiet _ _ built (by simp)

theorem disconnects_created {core : MqttCore} {sent : Bool} {result : MqttCore × List MqttEvent}
    (disconnects : Disconnects core sent result) (packetType : MqttControlPacketType) :
    .created packetType ∉ result.2 := by
  cases disconnects <;> simp

theorem disconnects_built {core : MqttCore} {last : LastCreated} (built : core.Built last)
    {sent : Bool} {result : MqttCore × List MqttEvent}
    (disconnects : Disconnects core sent result) : result.1.Built last := by
  cases disconnects with
  | idle _ _ => exact built
  | sent active =>
    exact ⟨fun set => absurd set (by simp [NewTxDataFlags.none]),
      fun set => absurd set (by simp [NewTxDataFlags.none])⟩
  | failed active => exact ⟨built.publish, built.subscribe⟩

theorem lastCreated_none {core : MqttCore} {action : MqttAction} (last : LastCreated)
    (none : ∀ packetType, .created packetType ∉ (core.step action).2) :
    core.lastCreated action last = last := by
  simp [lastCreated, none]

theorem createPublishPacket_built {core : MqttCore} {last : LastCreated} (built : core.Built last)
    (newPublishPacket : MqttPublishPacket)
    (nothing : core.NothingToLose (.createPublishPacket newPublishPacket)) :
    (core.step (.createPublishPacket newPublishPacket)).1.Built
      (core.lastCreated (.createPublishPacket newPublishPacket) last) := by
  by_cases on : core.mqttState = .connected
  · refine ⟨fun _ => ⟨newPublishPacket, ?_, ?_⟩, fun set => ?_⟩
    · simp [lastCreated, step, mqttCreatePublishPacket, on, requestedPublish]
    · simp [step, mqttCreatePublishPacket, on]
    · simp only [step, mqttCreatePublishPacket, on, if_true] at set ⊢
      simpa [lastCreated, step, mqttCreatePublishPacket, on] using built.subscribe set
  · have zero : core.txPublishPacket = .zero := by simpa [NothingToLose, on] using nothing
    have stepped : core.step (.createPublishPacket newPublishPacket) = (core, []) := by
      simp [step, mqttCreatePublishPacket, on, ← zero]
    have note : core.lastCreated (.createPublishPacket newPublishPacket) last = last :=
      lastCreated_none last (by simp [stepped])
    rw [note, stepped]
    exact built

theorem createSubscribePacket_built {core : MqttCore} {last : LastCreated}
    (built : core.Built last) (newSubscribePacket : MqttSubscribePacket)
    (nothing : core.NothingToLose (.createSubscribePacket newSubscribePacket)) :
    (core.step (.createSubscribePacket newSubscribePacket)).1.Built
      (core.lastCreated (.createSubscribePacket newSubscribePacket) last) := by
  by_cases on : core.mqttState = .connected
  · refine ⟨fun set => ?_, fun _ => ⟨newSubscribePacket, ?_, ?_⟩⟩
    · simp only [step, mqttCreateSubscribePacket, on, if_true] at set ⊢
      simpa [lastCreated, step, mqttCreateSubscribePacket, on] using built.publish set
    · simp [lastCreated, step, mqttCreateSubscribePacket, on, requestedSubscribe]
    · simp [step, mqttCreateSubscribePacket, on]
  · have zero : core.txSubscribePacket = .zero := by simpa [NothingToLose, on] using nothing
    have stepped : core.step (.createSubscribePacket newSubscribePacket) = (core, []) := by
      simp [step, mqttCreateSubscribePacket, on, ← zero]
    have note : core.lastCreated (.createSubscribePacket newSubscribePacket) last = last :=
      lastCreated_none last (by simp [stepped])
    rw [note, stepped]
    exact built

theorem step_built {core : MqttCore} {last : LastCreated} (built : core.Built last)
    (action : MqttAction) (nothing : core.NothingToLose action) :
    (core.step action).1.Built (core.lastCreated action last) := by
  have same (here : (core.step action).1.Built last)
      (none : ∀ packetType, .created packetType ∉ (core.step action).2) :
      (core.step action).1.Built (core.lastCreated action last) := by
    rw [lastCreated_none last none]
    exact here
  cases action with
  | transmissionHandler sent =>
    have transmits := core.transmissionHandler_transmits sent
    exact same (transmits_built built transmits) (transmits_created transmits)
  | disconnect sent =>
    have disconnects := core.mqttDisconnect_disconnects sent
    exact same (disconnects_built built disconnects) (disconnects_created disconnects)
  | receptionHandler now callback =>
    obtain ⟨subscribe, quiet, created⟩ :=
      receives_built built (core.receptionHandler_receives now callback)
    have stepped : core.step (.receptionHandler now callback) =
        core.mqttReceptionHandler now callback := rfl
    -- The callback may have asked for a packet.
    by_cases answered : .created .publish ∈ (core.mqttReceptionHandler now callback).2
    · obtain ⟨newPublishPacket, requested, stored⟩ := core.reception_created now callback answered
      have note : core.lastCreated (.receptionHandler now callback) last =
          { last with publish := some newPublishPacket } := by
        simp [lastCreated, stepped, answered, subscribe, requestedPublish, requested]
      rw [note]
      exact created newPublishPacket stored answered
    · have note : core.lastCreated (.receptionHandler now callback) last = last := by
        simp [lastCreated, stepped, answered, subscribe]
      rw [note]
      exact quiet answered
  | createConnectPacket newConnectPacket =>
    constructor <;>
    · intro set
      simp [step, mqttCreateConnectPacket, NewTxDataFlags.none] at set
  | createPublishPacket newPublishPacket =>
    exact createPublishPacket_built built newPublishPacket nothing
  | createSubscribePacket newSubscribePacket =>
    exact createSubscribePacket_built built newSubscribePacket nothing
  | timerExpires timer =>
    refine same ?_ (by simp [step])
    cases timer <;> exact ⟨built.publish, built.subscribe⟩
  | timerRuns timer =>
    refine same ?_ (by simp [step])
    show (core.timerRuns timer).Built last
    rcases core.timerRuns_cases timer with unchanged | ⟨timeout, expired, ran⟩
    · rw [unchanged]
      exact built
    · rw [ran]
      cases timer <;> exact ⟨built.publish, built.subscribe⟩
  | initialiseState => exact same ⟨built.publish, built.subscribe⟩ (by simp [step])
  | clientInitialise => exact same ⟨built.publish, built.subscribe⟩ (by simp [step])
  | getReceivedData pData => exact same ⟨built.publish, built.subscribe⟩ (by simp [step])
  | setPublishReceptionHandlerTable table =>
    exact same ⟨built.publish, built.subscribe⟩ (by simp [step])

structure Atomic (noted : MqttCore × LastCreated) (action : MqttAction) : Prop where
  refused : noted.1.RefusedUnchanged action
  built : (noted.1.step action).1.Built (noted.1.lastCreated action noted.2)

theorem rejectedRequests_iff (actions : List MqttAction) :
    Machine.Guarded (Machine.noting step lastCreated) Atomic (boot, ⟨none, none⟩) actions ↔
      Machine.Guarded step NothingToLose boot actions := by
  have start : boot.Built ⟨none, none⟩ := ⟨fun set => absurd set (by decide),
    fun set => absurd set (by decide)⟩
  have plain : Machine.Guarded (Machine.noting step lastCreated)
      (fun noted => NothingToLose noted.1) (boot, ⟨none, none⟩) actions ↔
        Machine.Guarded step NothingToLose boot actions :=
    @Machine.guarded_noting _ _ _ _ _ _ NothingToLose _ _
  rw [← plain]
  refine Machine.guarded_iff (fun noted : MqttCore × LastCreated => noted.1.Built noted.2)
    (fun _ action built nothing => step_built built action nothing) ?_ start actions
  rintro ⟨core, last⟩ action built
  constructor
  · exact fun atomic => (core.refusedUnchanged_iff action).mp atomic.refused
  · exact fun nothing =>
      ⟨(core.refusedUnchanged_iff action).mpr nothing, step_built built action nothing⟩

def abandoned : List MqttAction :=
  opening 10 ++ [.createPublishPacket .zero, .initialiseState, .createPublishPacket .zero]

theorem rejectedRequests_abandoned :
    ¬ Machine.Guarded (Machine.noting step lastCreated) Atomic (boot, ⟨none, none⟩) abandoned := by
  intro guarded
  obtain ⟨-, -, -, ⟨refused, -⟩, -⟩ := (Machine.guarded_append _ _ _ _ _).mp guarded
  exact absurd (refused (by decide +kernel)).1 (by decide +kernel)

end MqttCore

end AvrVoiceControl
