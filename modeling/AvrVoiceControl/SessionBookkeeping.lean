import AvrVoiceControl.ConnackProvenance
import AvrVoiceControl.SessionAgreement
import AvrVoiceControl.TransmitFlags

set_option autoImplicit false

namespace AvrVoiceControl

open TimeoutService

namespace MqttCore

def Fresh (core : MqttCore) : Prop :=
  (core.connackTimeoutOccured = false ∧ core.pingreqTimeoutOccured = false ∧
      core.pingrespTimeoutOccured = false) ∧
    core.mqttRxFlags = .none ∧ core.pingrespTimer = .idle ∧ core.connackTimer = .idle ∧
    core.mqttTxFlags =
      { NewTxDataFlags.none with newTxPingreqPacket := core.keepAliveTimeout ≠ 0 }

-- Nothing clears `newRxPingrespPacket`, so one PINGREQ is enough to leave a session unsettled.
def Unsettled (core : MqttCore) : Prop :=
  core.mqttRxFlags.newRxPingrespPacket = true ∨ core.mqttRxFlags.newRxPubackPacket = true ∨
    core.pingreqTimeoutOccured = true

def Outstanding (core : MqttCore) : Prop :=
  core.Unsettled ∨ core.mqttRxFlags.newRxSubackPacket = true

def OnlyPingreq (core : MqttCore) : Prop :=
  core.mqttTxFlags = .none ∨
    core.keepAliveTimeout ≠ 0 ∧
      core.mqttTxFlags = { NewTxDataFlags.none with newTxPingreqPacket := true }

/-- The action ends the session while something of it is still outstanding. -/
def LeavesUnsettled (core : MqttCore) : MqttAction -> Prop
  | .createConnectPacket _ | .disconnect _ | .initialiseState | .clientInitialise =>
    core.mqttState = .connected ∧ core.Outstanding
  | .transmissionHandler sent =>
    -- A PUBLISH that is not sent.
    core.mqttState = .connected ∧ core.mqttTxFlags.newTxPublishPacket = true ∧ sent = false ∧
      core.Outstanding
  | .receptionHandler _ _ =>
    -- A response nothing asked for leads back to WAITFORCONNACK with the flags as they are; a
    -- SUBACK that refuses settles the subscription itself.
    core.Unsolicited ∧ (core.Outstanding ∨ ¬ core.OnlyPingreq) ∨
      core.mqttState = .connected ∧ core.RefusesSubscription ∧ core.Unsettled
  | _ => False

def RunsOutBetween (core : MqttCore) : MqttAction -> Prop
  | .timerRuns .pingreq => core.mqttState ≠ .connected ∧ core.pingreqTimer.queued = true
  | _ => False

/-- The step leaves nothing outstanding behind, and no PINGREQ timer runs out between two
sessions. -/
def TidyStep (core : MqttCore) (action : MqttAction) : Prop :=
  ¬ core.LeavesUnsettled action ∧ ¬ core.RunsOutBetween action

section Decidable

variable (core : MqttCore)

instance : Decidable core.Fresh := by unfold Fresh; infer_instance
instance : Decidable core.Unsettled := by unfold Unsettled; infer_instance
instance : Decidable core.Outstanding := by unfold Outstanding; infer_instance
instance : Decidable core.OnlyPingreq := by unfold OnlyPingreq; infer_instance

instance (action : MqttAction) : Decidable (core.LeavesUnsettled action) :=
  match action with
  | .createConnectPacket _ | .disconnect _ | .initialiseState | .clientInitialise =>
    inferInstanceAs (Decidable (_ ∧ _))
  | .transmissionHandler _ => inferInstanceAs (Decidable (_ ∧ _))
  | .receptionHandler _ _ => inferInstanceAs (Decidable (_ ∨ _))
  | .createPublishPacket _ | .createSubscribePacket _ | .timerExpires _ | .timerRuns _
  | .getReceivedData _ | .setPublishReceptionHandlerTable _ => inferInstanceAs (Decidable False)

instance (action : MqttAction) : Decidable (core.RunsOutBetween action) := by
  rcases action with _ | _ | _ | _ | _ | _ | _ | _ | _ | timer | _ | _ <;>
    first
    | exact isFalse id
    | cases timer <;> unfold RunsOutBetween <;> infer_instance

instance (action : MqttAction) : Decidable (core.TidyStep action) := by
  unfold TidyStep
  infer_instance

end Decidable

structure Tidy (core : MqttCore) : Prop where
  pingresp : core.mqttRxFlags.newRxPingrespPacket = false ->
    core.pingrespTimer = .idle ∧ core.pingrespTimeoutOccured = false
  unused : core.mqttRxFlags.newRxConnackPacket = false ∧
    core.mqttRxFlags.newRxPublishPacket = false ∧ core.mqttRxFlags.newRxUnsubackPacket = false
  settled : core.mqttState ≠ .connected -> ¬ core.Outstanding
  waiting : core.mqttState = .waitForConnack -> core.OnlyPingreq

theorem transmits_tidy {core : MqttCore} (tidy : core.Tidy) (flags : core.TransmitFlags)
    {sent : Bool} {result : MqttCore × List MqttEvent} (transmits : Transmits core sent result)
    (settles : ¬ core.LeavesUnsettled (.transmissionHandler sent)) : result.1.Tidy := by
  cases transmits with
  | quiet => exact tidy
  | connectSent off pending =>
    have outside : core.mqttState ≠ .connected := by rcases off with off | off <;> simp [off]
    refine ⟨tidy.pingresp, tidy.unused, fun _ => tidy.settled outside, fun _ => .inl ?_⟩
    simp [flags.alone pending, NewTxDataFlags.none]
  | connectFailed off pending => exact ⟨tidy.pingresp, tidy.unused, tidy.settled, tidy.waiting⟩
  | publishSent on pending timer restarted =>
    refine ⟨?_, ?_, fun off => absurd on off, ?_⟩
    · by_cases acknowledged : core.txPublishPacket.publishHeaderFlags.qos = 1 <;>
        simpa [acknowledged, fillTxbuff] using tidy.pingresp
    · by_cases acknowledged : core.txPublishPacket.publishHeaderFlags.qos = 1 <;>
        simpa [acknowledged] using tidy.unused
    · simp [fillTxbuff, on]
  | publishFailed on pending =>
    exact ⟨tidy.pingresp, tidy.unused, fun _ left => settles ⟨on, pending, rfl, left⟩, by simp⟩
  | subscribeSent on pending =>
    exact ⟨tidy.pingresp, tidy.unused, fun off => absurd on off, by simp [fillTxbuff, on]⟩
  | subscribeFailed on pending =>
    exact ⟨tidy.pingresp, tidy.unused, fun off => absurd on off, by simp [fillTxbuff, on]⟩
  | pingreqSent on pending due =>
    exact ⟨by simp, tidy.unused, fun off => absurd on off, by simp [fillTxbuff, on]⟩
  | pingreqFailed on pending due =>
    exact ⟨tidy.pingresp, tidy.unused, fun off => absurd on off, by simp [fillTxbuff, on]⟩

theorem receives_tidy {core : MqttCore} (tidy : core.Tidy) {now : UInt32}
    {callback : List UInt8 -> List UInt8 -> Option MqttPublishPacket}
    {result : MqttCore × List MqttEvent} (receives : Receives core now result)
    (settles : ¬ core.LeavesUnsettled (.receptionHandler now callback)) : result.1.Tidy := by
  cases receives with
  | quiet nothing => exact tidy
  | connackTimeout waiting late =>
    exact ⟨tidy.pingresp, tidy.unused, fun _ => tidy.settled (by simp [waiting]), by simp⟩
  | accepted waiting inTime rxbuff =>
    exact ⟨tidy.pingresp, tidy.unused, fun off => absurd rfl off, by simp⟩
  | refused waiting packetType rxbuff closing how =>
    exact ⟨tidy.pingresp, tidy.unused, fun _ => tidy.settled (by simp [waiting]), by simp⟩
  | unsolicited unexpected packetType =>
    have left : ¬ (core.Outstanding ∨ ¬ core.OnlyPingreq) :=
      fun left => settles (.inl ⟨unexpected, left⟩)
    exact ⟨tidy.pingresp, tidy.unused, fun _ => (not_or.mp left).1,
      fun _ => not_not.mp (not_or.mp left).2⟩
  | pingresp on expected inTime rxbuff =>
    exact ⟨fun none => absurd expected (by simpa using none), tidy.unused,
      fun off => absurd on off, by simp [on]⟩
  | suback on packetType expected verdict which judged rxbuff =>
    refine ⟨tidy.pingresp, tidy.unused, fun off => ?_, fun waiting => ?_⟩
    · have refused : core.mqttProcessSuback.1 = .disconnected := by
        rcases which with accepted | refused
        · exact absurd accepted off
        · rw [← judged, refused]
      have clear : ¬ core.Unsettled :=
        fun left => settles (.inr ⟨on, (mqttProcessSuback_refuses packetType).mp refused, left⟩)
      rintro (left | suback)
      · exact clear left
      · cases suback
    · rcases which with rfl | rfl <;> simp at waiting
  | publish on rxbuff events delivery =>
    exact ⟨tidy.pingresp, tidy.unused, fun off => absurd on off, by simp [on]⟩
  | publishAnswered on rxbuff events delivery newPublishPacket =>
    exact ⟨tidy.pingresp, tidy.unused, fun off => absurd on off, by simp [on]⟩
  | puback on rxbuff awaited stays =>
    exact ⟨tidy.pingresp, tidy.unused, fun off => absurd on off, by simp [on]⟩
  | ignored on packetType => exact tidy

theorem tidy_left {core next : MqttCore} (tidy : core.Tidy)
    (settles : ¬ (core.mqttState = .connected ∧ core.Outstanding))
    (rx : next.mqttRxFlags = core.mqttRxFlags)
    (ping : next.pingrespTimer = core.pingrespTimer ∧
      next.pingrespTimeoutOccured = core.pingrespTimeoutOccured ∧
      next.pingreqTimeoutOccured = core.pingreqTimeoutOccured)
    (off : next.mqttState ≠ .waitForConnack) : next.Tidy where
  pingresp none := by
    rw [rx] at none
    rw [ping.1, ping.2.1]
    exact tidy.pingresp none
  unused := by
    rw [rx]
    exact tidy.unused
  settled _ := by
    rw [Outstanding, Unsettled, rx, ping.2.2]
    by_cases on : core.mqttState = .connected
    · exact fun left => settles ⟨on, left⟩
    · exact tidy.settled on
  waiting waiting := absurd waiting off

theorem steps_tidy {core : MqttCore} (tidy : core.Tidy) (flags : core.TransmitFlags)
    {action : MqttAction} {result : MqttCore × List MqttEvent} (steps : Steps core action result)
    (guard : core.TidyStep action) : result.1.Tidy := by
  obtain ⟨settles, between⟩ := guard
  cases steps with
  | createConnect newConnectPacket =>
    exact tidy_left tidy settles rfl ⟨rfl, rfl, rfl⟩ (by simp)
  | createPublish newPublishPacket on =>
    exact ⟨tidy.pingresp, tidy.unused, fun off => absurd on off, by simp [on]⟩
  | refusePublish newPublishPacket off =>
    exact ⟨tidy.pingresp, tidy.unused, tidy.settled, tidy.waiting⟩
  | createSubscribe newSubscribePacket on =>
    exact ⟨tidy.pingresp, tidy.unused, fun off => absurd on off, by simp [on]⟩
  | refuseSubscribe newSubscribePacket off =>
    exact ⟨tidy.pingresp, tidy.unused, tidy.settled, tidy.waiting⟩
  | disconnect sent disconnects =>
    cases disconnects with
    | idle _ off => exact tidy
    | sent active =>
      exact tidy_left tidy settles rfl ⟨rfl, rfl, rfl⟩ (by simp)
    | failed active =>
      exact tidy_left tidy settles rfl ⟨rfl, rfl, rfl⟩ (by simp)
  | initialiseState =>
    exact tidy_left tidy settles rfl ⟨rfl, rfl, rfl⟩ (by simp)
  | clientInitialise txbuff rxbuff =>
    exact tidy_left tidy settles rfl ⟨rfl, rfl, rfl⟩ (by simp)
  | transmission sent transmits => exact transmits_tidy tidy flags transmits settles
  | reception now callback receives => exact receives_tidy tidy receives settles
  | timerExpires timer =>
    cases timer with
    | connack => exact ⟨tidy.pingresp, tidy.unused, tidy.settled, tidy.waiting⟩
    | pingreq => exact ⟨tidy.pingresp, tidy.unused, tidy.settled, tidy.waiting⟩
    | pingresp =>
      refine ⟨fun none => ?_, tidy.unused, tidy.settled, tidy.waiting⟩
      obtain ⟨idle, inTime⟩ := tidy.pingresp none
      exact ⟨(TimerStatus.expire_idle_iff core.pingrespTimer).mpr idle, inTime⟩
  | timerStays timer => exact tidy
  | connackRuns timeout queued => exact ⟨tidy.pingresp, tidy.unused, tidy.settled, tidy.waiting⟩
  | pingreqRuns timeout queued =>
    have on : core.mqttState = .connected := by
      by_contra off
      exact between ⟨off, by rw [queued]; rfl⟩
    exact ⟨tidy.pingresp, tidy.unused, fun off => absurd on off, by simp [on]⟩
  | pingrespRuns timeout queued =>
    -- The timer runs only after a PINGREQ was sent, and the flag stays set from then on.
    refine ⟨fun none => ?_, tidy.unused, tidy.settled, tidy.waiting⟩
    have idle := (tidy.pingresp none).1
    rw [queued] at idle
    cases idle
  | getReceivedData pData rxbuff =>
    exact ⟨tidy.pingresp, tidy.unused, tidy.settled, tidy.waiting⟩
  | setTable table => exact ⟨tidy.pingresp, tidy.unused, tidy.settled, tidy.waiting⟩

theorem run_tidy {actions : List MqttAction}
    (guarded : Machine.Guarded step TidyStep boot actions) :
    (Machine.run step boot actions).1.Tidy := by
  have start : boot.Tidy ∧ boot.TransmitFlags :=
    ⟨⟨fun _ => ⟨rfl, rfl⟩, ⟨rfl, rfl, rfl⟩, fun _ => by decide, fun _ => .inl rfl⟩, boot_flags⟩
  exact (Machine.run_invariant (fun _ core => core.Tidy ∧ core.TransmitFlags)
    (fun _ core action held guard =>
      ⟨steps_tidy held.1 held.2 (core.step_steps action) guard, step_flags held.2 action⟩)
    start guarded).1

theorem accepted_fresh {core : MqttCore} (tidy : core.Tidy) {action : MqttAction}
    {result : MqttCore × List MqttEvent} (steps : Steps core action result)
    (accepted : .accepted ∈ result.2) : result.1.Fresh := by
  obtain ⟨waiting, inTime, now, rxbuff, result, -⟩ := accepted_state steps accepted
  have settled : ¬ core.Outstanding := tidy.settled (by simp [waiting])
  simp only [Outstanding, Unsettled, not_or, Bool.not_eq_true] at settled
  obtain ⟨⟨noPingresp, noPuback, noTimeout⟩, noSuback⟩ := settled
  obtain ⟨idle, pingresp⟩ := tidy.pingresp noPingresp
  obtain ⟨noConnack, noPublish, noUnsuback⟩ := tidy.unused
  have received : core.mqttRxFlags = .none := by
    rcases flags : core.mqttRxFlags with ⟨connack, publish, suback, unsuback, pingresp, puback⟩
    simp_all [NewRxDataFlags.none]
  rw [result]
  refine ⟨⟨inTime, noTimeout, pingresp⟩, received, idle, rfl, ?_⟩
  have flags := tidy.waiting waiting
  simp only [OnlyPingreq, keepAliveTimeout] at flags
  by_cases kept : ByteOrder.swap16 core.txConnectPacket.keepAliveTimer = 0
  · have none : core.mqttTxFlags = .none := by
      rcases flags with none | ⟨some, -⟩
      · exact none
      · exact absurd kept some
    simp [keepAliveTimeout, kept, none, NewTxDataFlags.none]
  · rcases flags with none | ⟨-, only⟩
    · simp [keepAliveTimeout, kept, none]
    · simp [keepAliveTimeout, kept, only]

def JustAccepted (actions : List MqttAction) : Prop :=
  ∃ front action, actions = front ++ [action] ∧
    .accepted ∈ ((Machine.run step boot front).1.step action).2

/-- Every session of the run begins with the bookkeeping of a first session. -/
def InheritsNothing (actions : List MqttAction) : Prop :=
  ∀ front, front <+: actions -> JustAccepted front -> (Machine.run step boot front).1.Fresh

/-- What two sessions may differ in when they begin: the CONNECT packet, the PINGREQ timer, what is
left in the receive buffer, and the handler table. -/
structure SameStart (left right : MqttCore) : Prop where
  txConnectPacket : left.txConnectPacket = right.txConnectPacket
  pingreqTimer : left.pingreqTimer = right.pingreqTimer
  input : left.rxbuff.contents = right.rxbuff.contents
  publishRecvInfo : left.publishRecvInfo = right.publishRecvInfo

theorem justAccepted_fresh {actions : List MqttAction}
    (guarded : Machine.Guarded step TidyStep boot actions) (accepted : JustAccepted actions) :
    (Machine.run step boot actions).1.mqttState = .connected ∧
      (Machine.run step boot actions).1.Fresh := by
  obtain ⟨front, action, rfl, event⟩ := accepted
  have before := ((Machine.guarded_append step TidyStep boot front [action]).mp guarded).1
  have last : (Machine.run step boot (front ++ [action])).1 =
      ((Machine.run step boot front).1.step action).1 := by
    rw [Machine.run_append]
    rfl
  rw [last]
  constructor
  · obtain ⟨-, -, now, rxbuff, result, -⟩ := accepted_state (step_steps _ action) event
    rw [result]
  · exact accepted_fresh (run_tidy before) (step_steps _ action) event

theorem sameSession_of_fresh {left right : MqttCore} (leftFresh : left.Fresh)
    (rightFresh : right.Fresh) (leftOn : left.mqttState = .connected)
    (rightOn : right.mqttState = .connected) (start : SameStart left right) :
    SameSession left right := by
  obtain ⟨leftTimeouts, leftRx, leftPingresp, leftConnack, leftTx⟩ := leftFresh
  obtain ⟨rightTimeouts, rightRx, rightPingresp, rightConnack, rightTx⟩ := rightFresh
  have keepAlive : left.keepAliveTimeout = right.keepAliveTimeout := by
    rw [keepAliveTimeout, start.txConnectPacket, keepAliveTimeout]
  have tx : left.mqttTxFlags = right.mqttTxFlags := by rw [leftTx, rightTx, keepAlive]
  constructor
  · have state := leftOn.trans rightOn.symm
    have rx := leftRx.trans rightRx.symm
    have connackTimeout := leftTimeouts.1.trans rightTimeouts.1.symm
    have pingreqTimeout := leftTimeouts.2.1.trans rightTimeouts.2.1.symm
    have pingrespTimeout := leftTimeouts.2.2.trans rightTimeouts.2.2.symm
    have connack := leftConnack.trans rightConnack.symm
    have pingresp := leftPingresp.trans rightPingresp.symm
    simp only [withAside, aside, ← state, ← tx, ← rx, ← start.txConnectPacket, ← connackTimeout,
      ← pingreqTimeout, ← pingrespTimeout, ← connack, ← start.pingreqTimer, ← pingresp,
      ← start.publishRecvInfo]
  · exact start.input
  · simp [rightTx, rightRx, NewTxDataFlags.none, NewRxDataFlags.none]
  · simp [rightTx, rightRx, NewTxDataFlags.none, NewRxDataFlags.none]

theorem tidy_inheritsNothing (actions : List MqttAction)
    (guarded : Machine.Guarded step TidyStep boot actions) :
    InheritsNothing actions ∧
      ∀ other, Machine.Guarded step TidyStep boot other ->
        JustAccepted actions -> JustAccepted other ->
        SameStart (Machine.run step boot actions).1 (Machine.run step boot other).1 ->
        ∀ later,
          Agree (Machine.run step (Machine.run step boot actions).1 later)
            (Machine.run step (Machine.run step boot other).1 later) := by
  constructor
  · rintro front ⟨back, rfl⟩ accepted
    have before := ((Machine.guarded_append step TidyStep boot front back).mp guarded).1
    exact (justAccepted_fresh before accepted).2
  · intro other otherGuarded accepted otherAccepted start later
    obtain ⟨leftOn, leftFresh⟩ := justAccepted_fresh guarded accepted
    obtain ⟨rightOn, rightFresh⟩ := justAccepted_fresh otherGuarded otherAccepted
    exact run_agree (sameSession_of_fresh leftFresh rightFresh leftOn rightOn start) later

theorem tidy_inheritsNothing_reconnect :
    InheritsNothing (opening 10 ++ [.disconnect true] ++ opening 10) :=
  (tidy_inheritsNothing (opening 10 ++ [.disconnect true] ++ opening 10) (by decide +kernel)).1

def missedPingresp : List MqttAction :=
  opening 10 ++
  [.timerExpires .pingreq, .timerRuns .pingreq, .transmissionHandler true,
    .timerExpires .pingresp, .timerRuns .pingresp, .disconnect true] ++
  opening 10

theorem missedPingresp_inherits : ¬ InheritsNothing missedPingresp := by
  intro nothing
  have accepted : JustAccepted missedPingresp :=
    ⟨missedPingresp.take 13, .receptionHandler 1 fun _ _ => none, rfl, by decide +kernel⟩
  exact absurd (nothing missedPingresp List.prefix_rfl accepted) (by decide +kernel)

end MqttCore

end AvrVoiceControl
