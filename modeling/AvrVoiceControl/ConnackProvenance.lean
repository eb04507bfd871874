import AvrVoiceControl.MqttSteps

set_option autoImplicit false

namespace AvrVoiceControl

open TimeoutService

namespace MqttCore

/-- A CONNECT was handed over, and no packet was looked at since. -/
def AwaitingConnack (trace : List MqttEvent) : Prop :=
  ∃ before frame after, trace = before ++ .handed .connect frame true :: after ∧
    ∀ packetType, MqttEvent.processed packetType ∉ after

def isConnectSent : MqttEvent -> Bool
  | .handed .connect _ sent => sent
  | _ => false

def connectsSent (trace : List MqttEvent) : Nat := trace.countP isConnectSent

def timesConnected : MqttCore -> List MqttAction -> Nat
  | _, [] => 0
  | core, action :: rest =>
    let next := (core.step action).1
    (if core.mqttState ≠ .connected ∧ next.mqttState = .connected then 1 else 0) +
      timesConnected next rest

/-- The reception handler runs on a response nothing in the core asked for. -/
def Surprised (core : MqttCore) : MqttAction -> Prop
  | .receptionHandler _ _ => core.Unsolicited
  | _ => False

instance (core : MqttCore) (action : MqttAction) : Decidable (core.Surprised action) := by
  cases action <;> unfold Surprised <;> infer_instance

theorem awaitingConnack_append {trace later : List MqttEvent} (awaiting : AwaitingConnack trace)
    (quiet : ∀ packetType, MqttEvent.processed packetType ∉ later) :
    AwaitingConnack (trace ++ later) := by
  obtain ⟨before, frame, after, rfl, none⟩ := awaiting
  refine ⟨before, frame, after ++ later, by simp, fun packetType member => ?_⟩
  rcases List.mem_append.mp member with early | late
  · exact none packetType early
  · exact quiet packetType late

theorem not_awaitingConnack_of_processed (trace : List MqttEvent) (packetType : Fin 16) :
    ¬ AwaitingConnack (trace ++ [.processed packetType]) := by
  rintro ⟨before, frame, after, split, none⟩
  rcases List.eq_nil_or_concat after with rfl | ⟨initial, last, rfl⟩
  · have same := (List.append_inj' split rfl).2
    simp at same
  · have whole : trace ++ [MqttEvent.processed packetType] =
        (before ++ .handed .connect frame true :: initial) ++ [last] := by simp [split]
    have same := (List.append_inj' whole rfl).2
    obtain rfl : MqttEvent.processed packetType = last := by simpa using same
    exact none packetType (by simp)

/-- The wait for a CONNACK has its CONNECT, which no connection has used up yet. -/
structure Provenance (trace : List MqttEvent) (core : MqttCore) : Prop where
  awaiting : core.mqttState = .waitForConnack -> AwaitingConnack trace
  unused : trace.count .accepted + (if core.mqttState = .waitForConnack then 1 else 0) ≤
    connectsSent trace

theorem provenance_quiet {trace : List MqttEvent} {core next : MqttCore}
    {events : List MqttEvent} (holds : Provenance trace core)
    (kept : next.mqttState = .waitForConnack ->
      core.mqttState = .waitForConnack ∧ ∀ packetType, MqttEvent.processed packetType ∉ events)
    (noAccept : MqttEvent.accepted ∉ events) :
    Provenance (trace ++ events) next where
  awaiting waiting := awaitingConnack_append (holds.awaiting (kept waiting).1) (kept waiting).2
  unused := by
    have unused := holds.unused
    have none : events.count .accepted = 0 := List.count_eq_zero.mpr noAccept
    have more : connectsSent trace ≤ connectsSent (trace ++ events) := by
      simp [connectsSent]
    rw [List.count_append, none]
    by_cases waiting : next.mqttState = .waitForConnack
    · simp only [waiting, (kept waiting).1, if_true] at unused ⊢
      omega
    · simp only [waiting, if_false]
      omega

theorem transmits_provenance {trace : List MqttEvent} {core : MqttCore}
    (holds : Provenance trace core) {sent : Bool} {result : MqttCore × List MqttEvent}
    (transmits : Transmits core sent result) : Provenance (trace ++ result.2) result.1 := by
  cases transmits with
  | quiet => exact provenance_quiet holds (by simp) (by simp)
  | connectSent off pending =>
    constructor
    · intro _
      exact ⟨trace, _, [], rfl, by simp⟩
    · have unused := holds.unused
      simp only [connectsSent, isConnectSent, List.count_append, List.countP_append,
        List.countP_singleton, if_true] at unused ⊢
      simp
      omega
  | connectFailed off pending => exact provenance_quiet holds (by simp [fillTxbuff]) (by simp)
  | publishSent on pending timer restarted =>
    exact provenance_quiet holds (by simp [fillTxbuff, on]) (by simp)
  | publishFailed on pending => exact provenance_quiet holds (by simp) (by simp)
  | subscribeSent on pending => exact provenance_quiet holds (by simp [fillTxbuff, on]) (by simp)
  | subscribeFailed on pending => exact provenance_quiet holds (by simp [fillTxbuff, on]) (by simp)
  | pingreqSent on pending due => exact provenance_quiet holds (by simp [fillTxbuff, on]) (by simp)
  | pingreqFailed on pending due =>
    exact provenance_quiet holds (by simp [fillTxbuff, on]) (by simp)

theorem delivery_no_accept {events : List MqttEvent} (delivery : Delivery events) :
    MqttEvent.accepted ∉ events := by
  intro member
  rcases delivery _ member with invalid | ⟨topic, payload, published⟩
  · cases invalid
  · cases published

theorem receives_provenance {trace : List MqttEvent} {core : MqttCore}
    (holds : Provenance trace core) {now : UInt32} {result : MqttCore × List MqttEvent}
    (receives : Receives core now result) (expected : ¬ core.Unsolicited) :
    Provenance (trace ++ result.2) result.1 := by
  cases receives with
  | quiet nothing => exact provenance_quiet holds (by simp) (by simp)
  | connackTimeout waiting late => exact provenance_quiet holds (by simp) (by simp)
  | accepted waiting inTime rxbuff =>
    constructor
    · simp
    · have unused := holds.unused
      simp only [waiting, if_true, connectsSent] at unused
      simp [connectsSent, isConnectSent]
      omega
  | refused waiting packetType rxbuff closing how =>
    apply provenance_quiet holds (by simp)
    rcases how with ⟨-, rfl, -⟩ | ⟨-, rfl⟩ <;> simp
  | unsolicited unexpected packetType => exact absurd unexpected expected
  | pingresp on expected inTime rxbuff => exact provenance_quiet holds (by simp [on]) (by simp)
  | suback on packetType expected verdict which judged rxbuff =>
    refine provenance_quiet holds ?_ (by simp)
    rcases which with rfl | rfl <;> simp
  | publish on rxbuff events delivery =>
    exact provenance_quiet holds (by simp [on]) (by simp [delivery_no_accept delivery])
  | publishAnswered on rxbuff events delivery newPublishPacket =>
    exact provenance_quiet holds (by simp [on]) (by simp [delivery_no_accept delivery])
  | puback on rxbuff awaited stays => exact provenance_quiet holds (by simp [on]) (by simp)
  | ignored on packetType => exact provenance_quiet holds (by simp [on]) (by simp)

theorem steps_provenance {trace : List MqttEvent} {core : MqttCore}
    (holds : Provenance trace core) {action : MqttAction} {result : MqttCore × List MqttEvent}
    (steps : Steps core action result) (expected : ¬ core.Surprised action) :
    Provenance (trace ++ result.2) result.1 := by
  cases steps with
  | disconnect sent disconnects =>
    cases disconnects with
    | idle _ off => exact provenance_quiet holds (by simp) (by simp)
    | sent active => exact provenance_quiet holds (by simp) (by simp)
    | failed active => exact provenance_quiet holds (by simp) (by simp)
  | transmission sent transmits => exact transmits_provenance holds transmits
  | reception now callback receives => exact receives_provenance holds receives expected
  | timerExpires timer =>
    have same : (core.timerExpires timer).mqttState = core.mqttState := by cases timer <;> rfl
    exact provenance_quiet holds (by simp [same]) (by simp)
  | createPublish newPublishPacket on => exact provenance_quiet holds (by simp [on]) (by simp)
  | createSubscribe newSubscribePacket on => exact provenance_quiet holds (by simp [on]) (by simp)
  | _ => exact provenance_quiet holds (by simp) (by simp)

theorem run_provenance {actions : List MqttAction}
    (expected : Machine.Guarded step (fun core action => ¬ core.Surprised action) boot actions) :
    Provenance (Machine.run step boot actions).2 (Machine.run step boot actions).1 :=
  Machine.run_invariant Provenance
    (fun _ core action holds guard => steps_provenance holds (core.step_steps action) guard)
    ⟨fun waiting => absurd waiting (by decide), by decide⟩ expected

theorem steps_accepted {core : MqttCore} {action : MqttAction}
    {result : MqttCore × List MqttEvent} (steps : Steps core action result) :
    result.2.count .accepted =
      if core.mqttState ≠ .connected ∧ result.1.mqttState = .connected then 1 else 0 := by
  cases steps with
  | disconnect sent disconnects => cases disconnects <;> simp
  | transmission sent transmits =>
    cases transmits with
    | connectFailed off pending => rcases off with off | off <;> simp [fillTxbuff, off]
    | publishSent on => simp [fillTxbuff, on]
    | subscribeSent on => simp [fillTxbuff, on]
    | subscribeFailed on => simp [fillTxbuff, on]
    | pingreqSent on => simp [fillTxbuff, on]
    | pingreqFailed on => simp [fillTxbuff, on]
    | _ => simp
  | reception now callback receives =>
    cases receives with
    | accepted waiting => simp [waiting]
    | refused waiting packetType rxbuff closing how =>
      rcases how with ⟨-, rfl, -⟩ | ⟨-, rfl⟩ <;> simp
    | pingresp on => simp [on]
    | suback on => simp [on]
    | publish on rxbuff events delivery =>
      simp [on, List.count_eq_zero.mpr (delivery_no_accept delivery)]
    | publishAnswered on rxbuff events delivery =>
      simp [on, List.count_eq_zero.mpr (delivery_no_accept delivery)]
    | puback on => simp [on]
    | ignored on => simp [on]
    | _ => simp
  | timerExpires timer => cases timer <;> simp [timerExpires, setTimer]
  | createPublish newPublishPacket on => simp [on]
  | createSubscribe newSubscribePacket on => simp [on]
  | _ => simp

theorem accepted_state {core : MqttCore} {action : MqttAction}
    {result : MqttCore × List MqttEvent} (steps : Steps core action result)
    (accepted : .accepted ∈ result.2) :
    core.mqttState = .waitForConnack ∧ core.connackTimeoutOccured = false ∧
      ∃ now rxbuff, result.1 =
        { core with
          connackTimer := .idle
          rxbuff := rxbuff
          mqttState := .connected
          connectTime := now
          mqttTxFlags :=
            if core.keepAliveTimeout ≠ 0 then { core.mqttTxFlags with newTxPingreqPacket := true }
            else core.mqttTxFlags
          pingreqTimer :=
            if core.keepAliveTimeout ≠ 0 then .pending (pingreqPeriod core.keepAliveTimeout)
            else core.pingreqTimer } ∧
        result.2 = [.processed MqttControlPacketType.connack.code, .accepted] := by
  cases steps with
  | reception now callback receives =>
    cases receives with
    | accepted waiting inTime rxbuff => exact ⟨waiting, inTime, now, rxbuff, rfl, rfl⟩
    | refused waiting packetType rxbuff closing how =>
      rcases how with ⟨-, rfl, -⟩ | ⟨-, rfl⟩ <;> simp at accepted
    | publish on rxbuff events delivery =>
      simp [delivery_no_accept delivery] at accepted
    | publishAnswered on rxbuff events delivery =>
      simp [delivery_no_accept delivery] at accepted
    | _ => simp at accepted
  | disconnect sent disconnects => cases disconnects <;> simp at accepted
  | transmission sent transmits => cases transmits <;> simp at accepted
  | _ => simp at accepted

theorem timesConnected_eq (core : MqttCore) (actions : List MqttAction) :
    timesConnected core actions = (Machine.run step core actions).2.count .accepted := by
  induction actions generalizing core with
  | nil => rfl
  | cons action rest ih =>
    rw [timesConnected, ih, Machine.run_cons, List.count_append,
      steps_accepted (core.step_steps action)]

theorem step_of_surprised {core : MqttCore} {action : MqttAction}
    (surprised : core.Surprised action) :
    (core.step action).1.mqttState = .waitForConnack ∧
      (core.step action).2 = [.processed core.receivedPacketType] := by
  cases action with
  | receptionHandler now callback =>
    obtain ⟨on, arrived, which⟩ := surprised
    have differ : MqttControlPacketType.suback.code ≠ MqttControlPacketType.pingresp.code := by
      decide
    have assigned : core.assignSendDisconnect = { core with mqttState := .waitForConnack } := rfl
    rcases which with ⟨pingresp, unexpected⟩ | ⟨suback, unexpected⟩
    · simp only [step, mqttReceptionHandler, on, if_neg arrived, if_pos pingresp,
        if_neg unexpected, assigned, and_self]
    · simp only [step, mqttReceptionHandler, on, if_neg arrived, suback, if_neg differ, if_true,
        unexpected, Bool.false_eq_true, if_false, assigned, and_self]
  | _ => exact absurd surprised id

/-- WAITFORCONNACK only while a CONNECT awaits its answer, one connection for each CONNECT. -/
def HasProvenance (actions : List MqttAction) : Prop :=
  ((Machine.run step boot actions).1.mqttState = .waitForConnack ->
      AwaitingConnack (Machine.run step boot actions).2) ∧
    timesConnected boot actions ≤ connectsSent (Machine.run step boot actions).2

theorem hasProvenance_iff (actions : List MqttAction) :
    (∀ front, front <+: actions -> HasProvenance front) ↔
      Machine.Guarded step (fun core action => ¬ core.Surprised action) boot actions := by
  constructor
  · intro holds
    induction actions using List.reverseRecOn with
    | nil => trivial
    | append_singleton front action ih =>
      have before : ∀ earlier, earlier <+: front -> HasProvenance earlier :=
        fun earlier within => holds earlier (within.trans (List.prefix_append front [action]))
      refine (Machine.guarded_append step _ boot front [action]).mpr ⟨ih before, ?_, trivial⟩
      intro surprised
      obtain ⟨waiting, events⟩ := step_of_surprised surprised
      have last := (holds (front ++ [action]) (List.prefix_rfl)).1
      simp only [Machine.run_append, Machine.run_cons, Machine.run_nil, List.append_nil,
        events] at last
      exact not_awaitingConnack_of_processed _ _ (last waiting)
  · rintro guarded front ⟨back, rfl⟩
    have expected := ((Machine.guarded_append step _ boot front back).mp guarded).1
    have provenance := run_provenance expected
    refine ⟨provenance.awaiting, ?_⟩
    rw [timesConnected_eq]
    exact Nat.le_trans (Nat.le_add_right _ _) provenance.unused

def strayPingresp : List MqttAction :=
  opening 10 ++
  [.getReceivedData [0xD0, 0], .receptionHandler 2 fun _ _ => none,
    .getReceivedData [0x20, 2, 0, 0], .receptionHandler 3 fun _ _ => none]

theorem strayPingresp_no_provenance :
    ¬ HasProvenance (strayPingresp.take 6) ∧ ¬ HasProvenance strayPingresp := by
  constructor
  · rintro ⟨awaiting, -⟩
    have waiting : (Machine.run step boot (strayPingresp.take 6)).1.mqttState =
        .waitForConnack := by decide +kernel
    have events : ∃ trace, (Machine.run step boot (strayPingresp.take 6)).2 =
        trace ++ [.processed 13] := ⟨(Machine.run step boot (strayPingresp.take 6)).2.take 4,
          by decide +kernel⟩
    obtain ⟨trace, ends⟩ := events
    exact not_awaitingConnack_of_processed trace 13 (ends ▸ awaiting waiting)
  · rintro ⟨-, once⟩
    exact absurd once (by decide +kernel)

end MqttCore

end AvrVoiceControl
