import AvrVoiceControl.CloudSteps

set_option autoImplicit false

namespace AvrVoiceControl

open TimeoutService

namespace Cloud

/-- The flags of the cloud service stand for its two supervision timers. -/
structure Supervised (cloud : Cloud) : Prop where
  resetTimer : cloud.cloudInitialized = true -> cloud.cloudResetTimerFlag = false
  mqttTimeout : cloud.cloudInitialized = true -> cloud.waitingForMQTT = true ->
    cloud.mqttTimeoutTaskTimer.Active
  cloudReset : cloud.cloudInitialized = false -> cloud.isResetting = true ->
    cloud.cloudResetTaskTimer.Active
  -- So that a reset of the service does not find the flag set without its timer.
  apart : cloud.cloudInitialized = true -> cloud.isResetting = false

def supervision (cloud : Cloud) : Bool × Bool × Bool × Bool × TimerStatus × TimerStatus :=
  (cloud.cloudInitialized, cloud.waitingForMQTT, cloud.isResetting, cloud.cloudResetTimerFlag,
    cloud.mqttTimeoutTaskTimer, cloud.cloudResetTaskTimer)

section Supervised

variable {cloud next : Cloud}

theorem supervised_same (supervised : cloud.Supervised)
    (same : next.supervision = cloud.supervision) : next.Supervised := by
  obtain ⟨resetTimer, mqttTimeout, cloudReset, apart⟩ := supervised
  simp only [supervision, Prod.mk.injEq] at same
  obtain ⟨initialized, waiting, resetting, flag, timeout, reset⟩ := same
  constructor
  · rwa [initialized, flag]
  · rwa [initialized, waiting, timeout]
  · rwa [initialized, resetting, reset]
  · rwa [initialized, resetting]

@[simp] theorem supervision_mqtt (cloud : Cloud) (action : MqttAction) :
    (cloud.mqtt action).1.supervision = cloud.supervision := by
  obtain ⟨⟨socketState, spareState, same⟩, -⟩ := cloud.mqtt_frame action
  rw [same]
  rfl

@[simp] theorem supervision_bsdClose (cloud : Cloud) (sock : UInt8) :
    (cloud.bsdClose sock).1.supervision = cloud.supervision := by
  obtain ⟨socketState, spareState, same⟩ := cloud.bsdClose_frame sock
  rw [same]
  rfl

@[simp] theorem supervision_setSocketState (cloud : Cloud) (entry : TableEntry)
    (state : SocketState) : (cloud.setSocketState entry state).supervision = cloud.supervision := by
  cases entry <;> rfl

@[simp] theorem supervision_connectMQTTSocket (cloud : Cloud) (input : TaskInput) :
    (cloud.connectMQTTSocket input).1.supervision = cloud.supervision := by
  obtain ⟨⟨mqqtSocket, socketState, spareState, same⟩, -⟩ := cloud.connectMQTTSocket_frame input
  rw [same]
  rfl

@[simp] theorem supervision_connectMQTT (cloud : Cloud) (input : TaskInput) :
    (cloud.connectMQTT input).1.supervision = cloud.supervision := by
  unfold connectMQTT
  split
  · exact supervision_mqtt cloud _
  · rfl

@[simp] theorem supervision_cloudSubscribe (cloud : Cloud) (input : TaskInput) :
    (cloud.cloudSubscribe input).1.supervision = cloud.supervision := by
  simp only [cloudSubscribe, andThen]
  split
  · exact (supervision_mqtt _ _).trans (supervision_mqtt cloud _)
  · exact (supervision_mqtt _ _).trans (supervision_mqtt cloud _)

theorem supervised_supervise (supervised : cloud.Supervised) : cloud.supervise.Supervised := by
  unfold supervise
  split
  case isTrue off =>
    split
    · exact ⟨fun on => absurd on off, fun on => absurd on off,
        fun _ _ => TimerStatus.active_pending _, fun on => absurd on off⟩
    · exact supervised
  case isFalse on =>
    split
    · split
      · exact ⟨supervised.resetTimer, fun _ _ => TimerStatus.active_pending _,
          supervised.cloudReset, supervised.apart⟩
      · exact supervised
    · exact supervised

theorem supervise_active (supervised : cloud.Supervised)
    (off : cloud.core.mqttState ≠ .connected) :
    cloud.supervise.mqttTimeoutTaskTimer.Active ∨ cloud.supervise.cloudResetTaskTimer.Active := by
  unfold supervise
  split
  case isTrue notInitialized =>
    have down : cloud.cloudInitialized = false := by simpa using notInitialized
    split
    · exact .inr (TimerStatus.active_pending _)
    case isFalse resetting => exact .inr (supervised.cloudReset down (by simpa using resetting))
  case isFalse initialized =>
    have up : cloud.cloudInitialized = true := by simpa using initialized
    split
    case isTrue =>
      rw [if_pos ⟨off, supervised.resetTimer up⟩]
      exact .inl (TimerStatus.active_pending _)
    case isFalse waiting => exact .inl (supervised.mqttTimeout up (by simpa using waiting))

theorem supervised_serveSession (supervised : cloud.Supervised) (input : TaskInput) :
    (cloud.serveSession input).1.Supervised := by
  have served : Supervised
      { cloud with
        mqttTimeoutTaskTimer := .idle
        cloudResetTaskTimer := .idle
        isResetting := false
        waitingForMQTT := false } :=
    ⟨supervised.resetTimer, by simp, by simp, fun _ => rfl⟩
  simp only [serveSession, andThen]
  apply supervised_same served
  split <;> split <;> simp

theorem supervised_handlePackets (supervised : cloud.Supervised) (input : TaskInput) :
    (cloud.handlePackets input).1.Supervised := by
  simp only [handlePackets, andThen]
  split
  · refine supervised_serveSession (supervised_same supervised ?_) input
    simp
  · exact supervised_same supervised (by simp)

theorem supervised_cloudTask (supervised : cloud.Supervised) (input : TaskInput) :
    (cloud.cloudTask input).1.Supervised := by
  have first := supervised_supervise supervised
  have tasks := cloud.cloudTask_tasks input
  generalize cloud.cloudTask input = result at tasks ⊢
  cases tasks with
  | loses => exact supervised_same first (by simp)
  | waits => exact first
  | opens => exact supervised_same first (by simp [andThen])
  | connects => exact supervised_same first (by simp)
  | serves => exact supervised_handlePackets first input

theorem supervised_reInit (cloud : Cloud) (connects : Bool) :
    (cloud.reInit connects).1.Supervised := by
  have kept := supervision_mqtt
    { cloud with
      mqttGoogleApisComIP := 0
      haveAPConnection := false
      waitingForMQTT := false
      isResetting := false } .clientInitialise
  simp only [supervision, Prod.mk.injEq] at kept
  obtain ⟨-, -, resetting, -⟩ := kept
  simp only [reInit, andThen]
  split
  · exact ⟨fun _ => rfl, fun _ _ => TimerStatus.active_pending _, by simp, fun _ => resetting⟩
  · exact ⟨by simp, by simp, by simp [resetting], fun _ => resetting⟩

theorem supervised_timers (supervised : cloud.Supervised) {timeout reset : TimerStatus}
    (sameTimeout : timeout.Active ↔ cloud.mqttTimeoutTaskTimer.Active)
    (sameReset : reset.Active ↔ cloud.cloudResetTaskTimer.Active) :
    Supervised
      { cloud with mqttTimeoutTaskTimer := timeout, cloudResetTaskTimer := reset } where
  resetTimer := supervised.resetTimer
  mqttTimeout up waiting := sameTimeout.mpr (supervised.mqttTimeout up waiting)
  cloudReset down resetting := sameReset.mpr (supervised.cloudReset down resetting)
  apart := supervised.apart

theorem supervised_cloudReset (supervised : cloud.Supervised) : cloud.cloudReset.Supervised where
  resetTimer up := by cases up
  mqttTimeout up := by cases up
  cloudReset _ resetting := by
    have resetting : cloud.isResetting = true := resetting
    refine supervised.cloudReset ?_ resetting
    by_contra up
    rw [supervised.apart (by simpa using up)] at resetting
    cases resetting
  apart up := by cases up

theorem supervised_mqttTimeoutTask (supervised : cloud.Supervised) :
    Supervised (mqttTimeoutTask { cloud with mqttTimeoutTaskTimer := .idle }) where
  resetTimer up := by cases up
  mqttTimeout up := by cases up
  cloudReset := (supervised_cloudReset supervised).cloudReset
  apart up := by cases up

theorem supervised_step (supervised : cloud.Supervised) (action : CloudAction) :
    (cloud.step action).1.Supervised := by
  cases action with
  | cloudTask input => exact supervised_cloudTask supervised input
  | mainDataTask sw0 sw1 sent =>
    apply supervised_same supervised
    have pressed : (if sw0 then cloud.cloudDisconnect sent else (cloud, [])).1.supervision =
        cloud.supervision := by
      unfold cloudDisconnect
      split
      · split <;> simp
      · rfl
    simp only [step, mainDataTask, andThen]
    split
    · exact pressed
    · exact pressed
  | reconnectCmd sent => exact supervised_same supervised (supervision_mqtt cloud _)
  | socketHandler sock message =>
    apply supervised_same supervised
    simp only [step, bsdSocketHandler]
    split
    · rfl
    · split
      · split <;> simp
      · simp
      · simp
      · split <;> simp [andThen]
  | dnsHandler serverIP =>
    apply supervised_same supervised
    simp only [step]
    split <;> rfl
  | apConnection have' => exact supervised_same supervised rfl
  | wifiDisconnected => exact supervised_cloudReset supervised
  | timerExpires timer =>
    cases timer with
    | mqttTimeoutTask =>
      exact supervised_timers supervised (TimerStatus.active_expire _) Iff.rfl
    | cloudResetTask =>
      exact supervised_timers supervised Iff.rfl (TimerStatus.active_expire _)
  | timerRuns timer connects =>
    simp only [step, timerRuns]
    split
    · cases timer with
      | mqttTimeoutTask => exact supervised_mqttTimeoutTask supervised
      | cloudResetTask => exact supervised_reInit _ connects
    · exact supervised
  | mqttTimerExpires timer => exact supervised_same supervised (supervision_mqtt cloud _)
  | mqttTimerRuns timer => exact supervised_same supervised (supervision_mqtt cloud _)
  | portChanges zeroByte => exact supervised_same supervised rfl

end Supervised

theorem handlers_fresh {core : MqttCore} (off : core.mqttState ≠ .connected) (now : UInt32)
    (callback : List UInt8 -> List UInt8 -> Option MqttPublishPacket) (sent : Bool) :
    let after := ((core.mqttReceptionHandler now callback).1.mqttTransmissionHandler sent).1
    after.mqttState = .connected -> after.connectTime = now := by
  have receives := core.receptionHandler_receives now callback
  generalize core.mqttReceptionHandler now callback = received at receives ⊢
  have fresh : received.1.mqttState = .connected -> received.1.connectTime = now := by
    cases receives with
    | accepted => exact fun _ => rfl
    | quiet => exact fun on => absurd on off
    | connackTimeout => exact fun on => by cases on
    | refused => exact fun on => by cases on
    | unsolicited unexpected => exact absurd unexpected.1 off
    | pingresp on => exact absurd on off
    | suback on => exact absurd on off
    | publish on => exact absurd on off
    | publishAnswered on => exact absurd on off
    | puback on => exact absurd on off
    | ignored on => exact absurd on off
  have transmits := received.1.transmissionHandler_transmits sent
  dsimp only
  generalize received.1.mqttTransmissionHandler sent = result at transmits ⊢
  cases transmits with
  | connectSent => exact fun on => by cases on
  | publishFailed => exact fun on => by cases on
  | _ => exact fresh

theorem mqttGetConnectionAge_now {core : MqttCore} {now : UInt32} (fresh : core.connectTime = now) :
    ¬ mqttGetConnectionAge core now > mqttConnAgeTimeout := by
  unfold mqttGetConnectionAge
  rw [fresh, UInt32.sub_self]
  split <;> decide

theorem serveSession_fresh {cloud : Cloud} (on : cloud.core.mqttState = .connected)
    {input : TaskInput} (fresh : cloud.core.connectTime = input.now) :
    (cloud.serveSession input).1.core.mqttState = .connected := by
  rw [serveSession_connected on]
  dsimp only
  rw [if_neg (mqttGetConnectionAge_now fresh)]
  unfold subscribed
  split
  · exact on
  · exact on

theorem cloudTask_supervises {cloud : Cloud} (supervised : cloud.Supervised)
    (off : cloud.core.mqttState ≠ .connected) (input : TaskInput) :
    let next := (cloud.cloudTask input).1
    next.core.mqttState = .connected ∨ next.mqttTimeoutTaskTimer.Active ∨
      next.cloudResetTaskTimer.Active := by
  have active := supervise_active supervised off
  have kept (next : Cloud) (same : next.supervision = cloud.supervise.supervision) :
      next.mqttTimeoutTaskTimer.Active ∨ next.cloudResetTaskTimer.Active := by
    simp only [supervision, Prod.mk.injEq] at same
    obtain ⟨-, -, -, -, timeout, reset⟩ := same
    rwa [timeout, reset]
  have tasks := cloud.cloudTask_tasks input
  dsimp only
  generalize cloud.cloudTask input = result at tasks ⊢
  cases tasks with
  | loses noAP on => exact absurd on off
  | waits => exact .inr active
  | opens => exact .inr (kept _ (by simp [andThen]))
  | connects => exact .inr (kept _ (by simp))
  | serves =>
    obtain ⟨socketState, spareState, both⟩ := cloud.supervise.handlers_frame input
    simp only [handlePackets, andThen]
    rw [both]
    split
    case isTrue connected =>
      have fresh := handlers_fresh off input.now input.callback input.sent
      rw [← cloud.supervise_frame.1] at fresh
      exact .inl (serveSession_fresh connected (fresh connected))
    case isFalse => exact .inr active

theorem run_supervised (actions : List CloudAction) :
    (Machine.run step boot actions).1.Supervised :=
  Machine.run_always Supervised (fun _ action supervised => supervised_step supervised action)
    ⟨by simp [boot], by simp [boot], by simp [boot], by simp [boot]⟩ actions

theorem connection_supervised (actions : List CloudAction) :
    let cloud := (Machine.run step boot actions).1
    cloud.Supervised ∧
      ∀ input, cloud.core.mqttState ≠ .connected ->
        let next := (cloud.cloudTask input).1
        next.core.mqttState = .connected ∨ next.mqttTimeoutTaskTimer.Active ∨
          next.cloudResetTaskTimer.Active := by
  have supervised := run_supervised actions
  exact ⟨supervised, fun input off => cloudTask_supervises supervised off input⟩

end Cloud

end AvrVoiceControl
