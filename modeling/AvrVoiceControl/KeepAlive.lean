import AvrVoiceControl.MqttSteps

set_option autoImplicit false

namespace AvrVoiceControl

open ByteOrder TimeoutService

namespace MqttCore

theorem pingreqPeriod_toNat (k : UInt16) (atLeast : 1 ≤ k.toNat) :
    (pingreqPeriod k).toNat = (k.toNat - 1) * 1000 := by
  have bound := k.toNat_lt
  have one : (1 : UInt16).toNat = 1 := rfl
  have below : (k - 1).toNat = k.toNat - 1 := by
    rw [UInt16.toNat_sub_of_le _ _ (by rw [UInt16.le_iff_toNat_le, one]; exact atLeast), one]
  have factor : (1000 : UInt32).toNat = 1000 := rfl
  rw [pingreqPeriod, UInt32.toNat_mul, UInt16.toNat_toUInt32, below, factor]
  omega

theorem pingreqPeriod_ne_zero (k : UInt16) (atLeast : 2 ≤ k.toNat) : pingreqPeriod k ≠ 0 := by
  intro zero
  have period := pingreqPeriod_toNat k (by omega)
  have none : (pingreqPeriod k).toNat = 0 := by rw [zero]; rfl
  omega

/-- In a session with a keep-alive of two seconds or more the PINGREQ timer runs, and a PINGREQ is
to be sent or its answer is awaited. -/
structure KeptAlive (core : MqttCore) : Prop where
  timer : core.mqttState = .connected -> 2 ≤ core.keepAliveTimeout.toNat ->
    core.pingreqTimer.Scheduled (pingreqPeriod core.keepAliveTimeout)
  ping : core.mqttState = .connected -> 2 ≤ core.keepAliveTimeout.toNat ->
    core.mqttTxFlags.newTxPingreqPacket = true ∨ core.mqttRxFlags.newRxPingrespPacket = true

theorem keptAlive_of_off {core : MqttCore} (off : core.mqttState ≠ .connected) :
    core.KeptAlive where
  timer on := absurd on off
  ping on := absurd on off

theorem keepAlive_stored {core : MqttCore} (kept : 2 ≤ core.keepAliveTimeout.toNat) :
    core.txConnectPacket.keepAliveTimer > 0 ∧ core.keepAliveTimeout ≠ 0 := by
  have nonzero : core.keepAliveTimeout ≠ 0 := by
    intro zero
    rw [zero] at kept
    exact absurd kept (by decide)
  refine ⟨?_, nonzero⟩
  apply UInt16.pos_iff_ne_zero.mpr
  intro zero
  exact nonzero ((swap16_eq_zero _).mpr zero)

theorem transmits_keptAlive {core : MqttCore} (alive : core.KeptAlive) {sent : Bool}
    {result : MqttCore × List MqttEvent} (transmits : Transmits core sent result) :
    result.1.KeptAlive := by
  cases transmits with
  | quiet => exact alive
  | connectSent off pending => exact keptAlive_of_off (by simp)
  | connectFailed off pending =>
    exact keptAlive_of_off (by rcases off with off | off <;> simp [fillTxbuff, off])
  | publishSent on pending timer restarted =>
    constructor
    · intro _ kept
      have stored := (keepAlive_stored kept).1
      subst restarted
      exact .inl (if_pos stored)
    · intro _ kept
      rcases alive.ping on kept with tx | rx
      · exact .inl tx
      · refine .inr ?_
        by_cases acknowledged : core.txPublishPacket.publishHeaderFlags.qos = 1 <;>
          simp [acknowledged, rx]
  | publishFailed on pending => exact keptAlive_of_off (by simp)
  | subscribeSent on pending => exact ⟨fun _ _ => .inl rfl, fun _ kept => alive.ping on kept⟩
  | subscribeFailed on pending => exact ⟨fun _ _ => .inl rfl, fun _ kept => alive.ping on kept⟩
  | pingreqSent on pending due => exact ⟨alive.timer, fun _ _ => .inr rfl⟩
  | pingreqFailed on pending due => exact ⟨alive.timer, alive.ping⟩

theorem receives_keptAlive {core : MqttCore} (alive : core.KeptAlive) {now : UInt32}
    {result : MqttCore × List MqttEvent} (receives : Receives core now result) :
    result.1.KeptAlive := by
  cases receives with
  | quiet nothing => exact alive
  | connackTimeout waiting late => exact keptAlive_of_off (by simp)
  | accepted waiting inTime rxbuff =>
    constructor
    · intro _ kept
      have stored : core.keepAliveTimeout ≠ 0 := (keepAlive_stored kept).2
      exact .inl (if_pos stored)
    · intro _ kept
      have stored : core.keepAliveTimeout ≠ 0 := (keepAlive_stored kept).2
      exact .inl (by simp [stored])
  | refused waiting packetType rxbuff closing how => exact keptAlive_of_off (by simp)
  | unsolicited unexpected packetType => exact keptAlive_of_off (by simp)
  | pingresp on expected inTime rxbuff =>
    refine ⟨alive.timer, fun _ kept => .inl ?_⟩
    have stored : core.keepAliveTimeout ≠ 0 := (keepAlive_stored kept).2
    simp [stored]
  | suback on packetType expected verdict which judged rxbuff =>
    exact ⟨fun _ kept => alive.timer on kept, fun _ kept => alive.ping on kept⟩
  | publish on rxbuff events delivery => exact ⟨alive.timer, alive.ping⟩
  | publishAnswered on rxbuff events delivery newPublishPacket =>
    exact ⟨alive.timer, alive.ping⟩
  | puback on rxbuff awaited stays => exact ⟨alive.timer, alive.ping⟩
  | ignored on packetType => exact alive

theorem disconnects_keptAlive {core : MqttCore} (alive : core.KeptAlive) {sent : Bool}
    {result : MqttCore × List MqttEvent} (disconnects : Disconnects core sent result) :
    result.1.KeptAlive := by
  cases disconnects with
  | idle _ off => exact alive
  | sent active => exact keptAlive_of_off (by simp)
  | failed active => exact keptAlive_of_off (by simp)

theorem timerExpires_keptAlive {core : MqttCore} (alive : core.KeptAlive) (timer : MqttTimer) :
    (core.timerExpires timer).KeptAlive := by
  cases timer with
  | connack => exact ⟨alive.timer, alive.ping⟩
  | pingresp => exact ⟨alive.timer, alive.ping⟩
  | pingreq =>
    exact ⟨fun on kept => TimerStatus.scheduled_expire (alive.timer on kept), alive.ping⟩

theorem steps_keptAlive {core : MqttCore} (alive : core.KeptAlive) {action : MqttAction}
    {result : MqttCore × List MqttEvent} (steps : Steps core action result) :
    result.1.KeptAlive := by
  cases steps with
  | createConnect newConnectPacket => exact keptAlive_of_off (by simp)
  | createPublish newPublishPacket on => exact ⟨alive.timer, alive.ping⟩
  | refusePublish newPublishPacket off => exact keptAlive_of_off off
  | createSubscribe newSubscribePacket on => exact ⟨alive.timer, alive.ping⟩
  | refuseSubscribe newSubscribePacket off => exact keptAlive_of_off off
  | disconnect sent disconnects => exact disconnects_keptAlive alive disconnects
  | initialiseState => exact keptAlive_of_off (by simp)
  | clientInitialise txbuff rxbuff => exact keptAlive_of_off (by simp)
  | transmission sent transmits => exact transmits_keptAlive alive transmits
  | reception now callback receives => exact receives_keptAlive alive receives
  | timerExpires timer => exact timerExpires_keptAlive alive timer
  | timerStays timer => exact alive
  | connackRuns timeout queued => exact ⟨alive.timer, alive.ping⟩
  | pingreqRuns timeout queued =>
    refine ⟨fun _ kept => ?_, alive.ping⟩
    -- From a keep-alive of two on the callback never returns zero, which would stop the timer.
    exact .inl (if_neg (pingreqPeriod_ne_zero _ kept))
  | pingrespRuns timeout queued => exact ⟨alive.timer, alive.ping⟩
  | getReceivedData pData rxbuff => exact ⟨alive.timer, alive.ping⟩
  | setTable table => exact ⟨alive.timer, alive.ping⟩

theorem run_keptAlive (actions : List MqttAction) :
    (Machine.run step boot actions).1.KeptAlive :=
  Machine.run_always KeptAlive (fun core action alive => steps_keptAlive alive (core.step_steps action))
    (keptAlive_of_off (by decide)) actions

theorem keepAlive_supervised (actions : List MqttAction) (k : UInt16) (atLeast : 2 ≤ k.toNat)
    (stored : (Machine.run step boot actions).1.txConnectPacket.keepAliveTimer = swap16 k)
    (connected : (Machine.run step boot actions).1.mqttState = .connected) :
    ∃ period : UInt32, period.toNat = (k.toNat - 1) * 1000 ∧
      (Machine.run step boot actions).1.pingreqTimer.Scheduled period ∧
      ((Machine.run step boot actions).1.mqttTxFlags.newTxPingreqPacket = true ∨
        (Machine.run step boot actions).1.mqttRxFlags.newRxPingrespPacket = true) := by
  have alive := run_keptAlive actions
  have same : (Machine.run step boot actions).1.keepAliveTimeout = k := by
    rw [keepAliveTimeout, stored, swap16_swap16]
  have kept : 2 ≤ (Machine.run step boot actions).1.keepAliveTimeout.toNat := by rwa [same]
  have scheduled := alive.timer connected kept
  rw [same] at scheduled
  exact ⟨pingreqPeriod k, pingreqPeriod_toNat k (by omega), scheduled, alive.ping connected kept⟩

theorem keepAlive_supervised_ten :
    ∃ period : UInt32, period.toNat = (10 - 1) * 1000 ∧
      (Machine.run step boot (opening 10)).1.pingreqTimer.Scheduled period ∧
      ((Machine.run step boot (opening 10)).1.mqttTxFlags.newTxPingreqPacket = true ∨
        (Machine.run step boot (opening 10)).1.mqttRxFlags.newRxPingrespPacket = true) :=
  keepAlive_supervised _ 10 (by decide) (by decide +kernel) (by decide +kernel)

end MqttCore

end AvrVoiceControl
