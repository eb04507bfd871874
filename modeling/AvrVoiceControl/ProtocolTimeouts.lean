import AvrVoiceControl.OutstandingRequests

set_option autoImplicit false

namespace AvrVoiceControl

open TimeoutService

namespace MqttCore

structure SessionPingreq where
  sent : Bool
  late : Bool

def sendsPingreq : MqttEvent -> Bool
  | .handed .pingreq _ sent => sent
  | _ => false

/-- A PINGREQ of this session was sent, and the PINGRESP timer ran after that. -/
def notePingreq (core : MqttCore) (action : MqttAction) (note : SessionPingreq) :
    SessionPingreq :=
  if .accepted ∈ (core.step action).2 then ⟨false, false⟩
  else
    { sent := note.sent || (core.step action).2.any sendsPingreq
      late :=
        match action with
        | .timerRuns .pingresp => note.late || note.sent && core.pingrespTimer.queued
        | _ => note.late }

def pingNoted (actions : List MqttAction) : MqttCore × SessionPingreq :=
  (Machine.run (Machine.noting step notePingreq) (boot, ⟨false, false⟩) actions).1

def Overdue (noted : MqttCore × SessionPingreq) : Prop :=
  noted.1.mqttState = .waitForConnack ∧ noted.1.connackTimeoutOccured = true ∨
    noted.1.mqttState = .connected ∧ noted.1.pingrespTimeoutOccured = true ∧ noted.2.late = true

instance (noted : MqttCore × SessionPingreq) : Decidable (Overdue noted) := by
  unfold Overdue
  infer_instance

def EnforcesTimeouts (noted : MqttCore × SessionPingreq) (now : UInt32)
    (callback : List UInt8 -> List UInt8 -> Option MqttPublishPacket) : Prop :=
  Overdue noted -> (noted.1.mqttReceptionHandler now callback).1.mqttState = .disconnected

/-- Some bytes are in the buffer, and for a connected client they are an expected SUBACK that
refuses the subscription. -/
def HasReason (core : MqttCore) : Prop :=
  core.rxbuff.dataLength ≠ 0 ∧
    (core.mqttState = .connected -> core.TakesSuback ∧ core.RefusesSubscription)

theorem waiting_disconnects_iff {core : MqttCore} (waiting : core.mqttState = .waitForConnack)
    (late : core.connackTimeoutOccured = true) (now : UInt32)
    (callback : List UInt8 -> List UInt8 -> Option MqttPublishPacket) :
    (core.mqttReceptionHandler now callback).1.mqttState = .disconnected ↔
      core.rxbuff.dataLength ≠ 0 := by
  by_cases empty : core.rxbuff.dataLength = 0
  · simp [mqttReceptionHandler, empty, waiting]
  · simp [mqttReceptionHandler, empty, waiting, late]

theorem connected_disconnects_iff {core : MqttCore} (on : core.mqttState = .connected)
    (now : UInt32) (callback : List UInt8 -> List UInt8 -> Option MqttPublishPacket) :
    (core.mqttReceptionHandler now callback).1.mqttState = .disconnected ↔
      core.TakesSuback ∧ core.RefusesSubscription := by
  constructor
  · intro disconnects
    have receives := core.receptionHandler_receives now callback
    have arrived : core.rxbuff.dataLength ≠ 0 := by
      intro empty
      simp [mqttReceptionHandler, empty, on] at disconnects
    generalize core.mqttReceptionHandler now callback = result at receives disconnects
    cases receives with
    | quiet nothing => simp [on] at disconnects
    | connackTimeout waiting late => simp [on] at waiting
    | accepted waiting inTime rxbuff => simp [on] at waiting
    | refused waiting packetType rxbuff closing how => simp [on] at waiting
    | unsolicited unexpected packetType => simp at disconnects
    | pingresp on expected inTime rxbuff => simp [on] at disconnects
    | suback on packetType expected verdict which judged rxbuff =>
      have refused : core.mqttProcessSuback.1 = .disconnected := by
        rw [← judged]
        exact disconnects
      exact ⟨⟨on, arrived, packetType, expected⟩, (mqttProcessSuback_refuses packetType).mp refused⟩
    | publish on rxbuff events delivery => simp [on] at disconnects
    | publishAnswered on rxbuff events delivery newPublishPacket => simp [on] at disconnects
    | puback on rxbuff awaited stays => simp [on] at disconnects
    | ignored on packetType => simp [on] at disconnects
  · rintro ⟨takes, refuses⟩
    rw [receptionHandler_suback takes]
    exact (mqttProcessSuback_refuses takes.2.2.1).mpr refuses

theorem timeoutsEnforced_iff (actions : List MqttAction) (now : UInt32)
    (callback : List UInt8 -> List UInt8 -> Option MqttPublishPacket) :
    EnforcesTimeouts (pingNoted actions) now callback ↔
      (Overdue (pingNoted actions) -> (pingNoted actions).1.HasReason) := by
  generalize pingNoted actions = noted
  apply imp_congr_right
  intro overdue
  rcases overdue with ⟨waiting, late⟩ | ⟨on, -, -⟩
  · rw [waiting_disconnects_iff waiting late, HasReason, waiting]
    simp
  · rw [connected_disconnects_iff on, HasReason]
    constructor
    · exact fun suback => ⟨suback.1.2.1, fun _ => suback⟩
    · exact fun reason => reason.2 on

def silentBroker : List MqttAction :=
  [.createConnectPacket .zero, .transmissionHandler true, .timerExpires .connack,
    .timerRuns .connack]

theorem silentBroker_waits :
    ¬ EnforcesTimeouts (pingNoted silentBroker) 0 fun _ _ => none := by
  intro enforces
  exact absurd (enforces (by decide +kernel)) (by decide +kernel)

end MqttCore

end AvrVoiceControl
