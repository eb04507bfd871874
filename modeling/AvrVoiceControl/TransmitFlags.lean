import AvrVoiceControl.ConnackProvenance
import AvrVoiceControl.RejectedRequests

set_option autoImplicit false

namespace AvrVoiceControl

namespace MqttCore

structure TransmitFlags (core : MqttCore) : Prop where
  noDisconnect : core.mqttTxFlags.newTxDisconnectPacket = false
  noUnsubscribe : core.mqttTxFlags.newTxUnsubscribePacket = false
  connect : core.mqttState = .waitForConnack ∨ core.mqttState = .connected ->
    core.mqttTxFlags.newTxConnectPacket = false
  alone : core.mqttTxFlags.newTxConnectPacket = true ->
    core.mqttTxFlags = { NewTxDataFlags.none with newTxConnectPacket := true }

theorem transmitFlags_of_off {core : MqttCore}
    (noDisconnect : core.mqttTxFlags.newTxDisconnectPacket = false)
    (noUnsubscribe : core.mqttTxFlags.newTxUnsubscribePacket = false)
    (off : core.mqttTxFlags.newTxConnectPacket = false) : core.TransmitFlags :=
  ⟨noDisconnect, noUnsubscribe, fun _ => off, by simp [off]⟩

theorem transmits_flags {core : MqttCore} (flags : core.TransmitFlags) {sent : Bool}
    {result : MqttCore × List MqttEvent} (transmits : Transmits core sent result) :
    result.1.TransmitFlags := by
  cases transmits with
  | quiet => exact flags
  | connectSent off pending => exact ⟨flags.noDisconnect, flags.noUnsubscribe, fun _ => rfl, by simp⟩
  | connectFailed off pending =>
    exact ⟨flags.noDisconnect, flags.noUnsubscribe, flags.connect, flags.alone⟩
  | subscribeFailed on pending =>
    exact ⟨flags.noDisconnect, flags.noUnsubscribe, flags.connect, flags.alone⟩
  | pingreqFailed on pending due =>
    exact ⟨flags.noDisconnect, flags.noUnsubscribe, flags.connect, flags.alone⟩
  | publishSent on pending timer restarted =>
    exact transmitFlags_of_off flags.noDisconnect flags.noUnsubscribe (flags.connect (.inr on))
  | publishFailed on pending =>
    exact transmitFlags_of_off flags.noDisconnect flags.noUnsubscribe (flags.connect (.inr on))
  | subscribeSent on pending =>
    exact transmitFlags_of_off flags.noDisconnect flags.noUnsubscribe (flags.connect (.inr on))
  | pingreqSent on pending due =>
    exact transmitFlags_of_off flags.noDisconnect flags.noUnsubscribe (flags.connect (.inr on))

theorem flags_pingreq {core next : MqttCore} (flags : core.TransmitFlags)
    (off : core.mqttTxFlags.newTxConnectPacket = false)
    (same : next.mqttTxFlags =
      if core.keepAliveTimeout ≠ 0 then { core.mqttTxFlags with newTxPingreqPacket := true }
      else core.mqttTxFlags) : next.TransmitFlags := by
  by_cases kept : core.keepAliveTimeout = 0
  · simp only [kept, ne_eq, not_true, if_false] at same
    apply transmitFlags_of_off <;> simp [same, flags.noDisconnect, flags.noUnsubscribe, off]
  · simp only [kept, ne_eq, not_false_eq_true, if_true] at same
    apply transmitFlags_of_off <;> simp [same, flags.noDisconnect, flags.noUnsubscribe, off]

theorem receives_flags {core : MqttCore} (flags : core.TransmitFlags) {now : UInt32}
    {result : MqttCore × List MqttEvent} (receives : Receives core now result) :
    result.1.TransmitFlags := by
  have same : ∀ next : MqttCore, next.mqttTxFlags = core.mqttTxFlags ->
      core.mqttTxFlags.newTxConnectPacket = false -> next.TransmitFlags := by
    intro next equal off
    exact transmitFlags_of_off (by rw [equal, flags.noDisconnect])
      (by rw [equal, flags.noUnsubscribe]) (by rw [equal, off])
  cases receives with
  | quiet nothing => exact flags
  | connackTimeout waiting late => exact same _ rfl (flags.connect (.inl waiting))
  | accepted waiting inTime rxbuff => exact flags_pingreq flags (flags.connect (.inl waiting)) rfl
  | refused waiting packetType rxbuff closing how =>
    exact same _ rfl (flags.connect (.inl waiting))
  | unsolicited unexpected packetType => exact same _ rfl (flags.connect (.inr unexpected.1))
  | pingresp on expected inTime rxbuff => exact flags_pingreq flags (flags.connect (.inr on)) rfl
  | suback on packetType expected verdict which judged rxbuff =>
    exact same _ rfl (flags.connect (.inr on))
  | publish on rxbuff events delivery => exact same _ rfl (flags.connect (.inr on))
  | publishAnswered on rxbuff events delivery newPublishPacket =>
    exact transmitFlags_of_off flags.noDisconnect flags.noUnsubscribe (flags.connect (.inr on))
  | puback on rxbuff awaited stays => exact same _ rfl (flags.connect (.inr on))
  | ignored on packetType => exact flags

theorem steps_flags {core : MqttCore} (flags : core.TransmitFlags) {action : MqttAction}
    {result : MqttCore × List MqttEvent} (steps : Steps core action result) :
    result.1.TransmitFlags := by
  cases steps with
  | createConnect newConnectPacket => exact ⟨rfl, rfl, by simp, fun _ => rfl⟩
  | createPublish newPublishPacket on =>
    exact transmitFlags_of_off flags.noDisconnect flags.noUnsubscribe (flags.connect (.inr on))
  | createSubscribe newSubscribePacket on =>
    exact transmitFlags_of_off flags.noDisconnect flags.noUnsubscribe (flags.connect (.inr on))
  | disconnect sent disconnects =>
    cases disconnects with
    | idle _ off => exact flags
    | sent active => exact ⟨rfl, rfl, fun _ => rfl, by simp [NewTxDataFlags.none]⟩
    | failed active => exact ⟨flags.noDisconnect, flags.noUnsubscribe, by simp, flags.alone⟩
  | initialiseState => exact ⟨flags.noDisconnect, flags.noUnsubscribe, by simp, flags.alone⟩
  | clientInitialise txbuff rxbuff =>
    exact ⟨flags.noDisconnect, flags.noUnsubscribe, by simp, flags.alone⟩
  | transmission sent transmits => exact transmits_flags flags transmits
  | reception now callback receives => exact receives_flags flags receives
  | timerExpires timer =>
    cases timer <;> exact ⟨flags.noDisconnect, flags.noUnsubscribe, flags.connect, flags.alone⟩
  | _ => exact ⟨flags.noDisconnect, flags.noUnsubscribe, flags.connect, flags.alone⟩

theorem step_flags {core : MqttCore} (flags : core.TransmitFlags) (action : MqttAction) :
    (core.step action).1.TransmitFlags :=
  steps_flags flags (core.step_steps action)

theorem boot_flags : boot.TransmitFlags := ⟨rfl, rfl, fun _ => rfl, fun set => absurd set (by decide)⟩

theorem transmission_publish {core : MqttCore} (flags : core.TransmitFlags)
    (on : core.mqttState = .connected) (pending : core.mqttTxFlags.newTxPublishPacket = true)
    (sent : Bool) :
    (core.mqttTransmissionHandler sent).2 =
      [.handed .publish ((publishFields core.txPublishPacket).flatten.take txBuffSize) sent] := by
  have off := flags.connect (.inr on)
  have some : core.mqttTxFlags.all > 0 := by
    simp [NewTxDataFlags.all, pending, UInt8.pos_iff_ne_zero]
  have frame := (core.txbuff.writeAll_correct (publishFields core.txPublishPacket)).1
  simp only [mqttTransmissionHandler, on, if_pos some, mqttConnectTxSubstate_eq _ some, off,
    flags.noDisconnect, pending]
  cases sent with
  | true =>
    by_cases acknowledged : core.txPublishPacket.publishHeaderFlags.qos = 1 <;>
      by_cases kept : core.txConnectPacket.keepAliveTimer > 0 <;>
      simp [MqttConnectCurrentTxSubstate.code, mqttSendPublish, fillTxbuff, pending, acknowledged,
        kept, frame]
  | false => simp [MqttConnectCurrentTxSubstate.code, mqttSendPublish, fillTxbuff, pending, frame]

theorem transmission_subscribe {core : MqttCore} (flags : core.TransmitFlags)
    (on : core.mqttState = .connected) (noPublish : core.mqttTxFlags.newTxPublishPacket = false)
    (pending : core.mqttTxFlags.newTxSubscribePacket = true) (sent : Bool) :
    (core.mqttTransmissionHandler sent).2 =
      [.handed .subscribe
        ((subscribeFields core.txSubscribePacket).flatten.take txBuffSize) sent] := by
  have off := flags.connect (.inr on)
  have some : core.mqttTxFlags.all > 0 := by
    simp [NewTxDataFlags.all, pending, UInt8.pos_iff_ne_zero]
  have frame := (core.txbuff.writeAll_correct (subscribeFields core.txSubscribePacket)).1
  simp only [mqttTransmissionHandler, on, if_pos some, mqttConnectTxSubstate_eq _ some, off,
    flags.noDisconnect, noPublish, pending]
  cases sent <;>
    simp [MqttConnectCurrentTxSubstate.code, mqttSendSubscribe, fillTxbuff, pending, frame]

def isPublishSent : MqttEvent -> Bool
  | .handed .publish _ sent => sent
  | _ => false

/-- The CONNACKs accepted so far, the last PUBLISH accepted and not sent since with the session it
was created in, and the last SUBSCRIBE accepted. -/
structure Outgoing where
  sessions : Nat
  publish : Option (MqttPublishPacket × Nat)
  subscribe : Option MqttSubscribePacket

def Outgoing.none : Outgoing := ⟨0, Option.none, Option.none⟩

def Outgoing.after (note : Outgoing) (publish : Option MqttPublishPacket)
    (subscribe : Option MqttSubscribePacket) (events : List MqttEvent) : Outgoing where
  sessions := note.sessions + events.count .accepted
  publish :=
    if .created .publish ∈ events then publish.map fun packet => (packet, note.sessions)
    else if events.any isPublishSent then Option.none
    else note.publish
  subscribe := if .created .subscribe ∈ events then subscribe else note.subscribe

def outgoing (core : MqttCore) (action : MqttAction) (note : Outgoing) : Outgoing :=
  note.after (core.requestedPublish action) (requestedSubscribe action) (core.step action).2

/-- What is pending in CONNECTED is what is handed over next, and what is sent was created in the
present session and not sent before. -/
structure SendsAccepted (core : MqttCore) (note : Outgoing) : Prop where
  connect : core.mqttState = .waitForConnack ∨ core.mqttState = .connected ->
    core.mqttTxFlags.newTxConnectPacket = false
  bits : core.mqttState = .connected ->
    core.mqttTxFlags.all ||| (4 ||| 8 ||| 32) = 4 ||| 8 ||| 32
  publish : core.mqttState = .connected -> core.mqttTxFlags.newTxPublishPacket = true ->
    ∃ packet session, note.publish = some (packet, session) ∧ ∀ sent,
      (core.mqttTransmissionHandler sent).2 =
        [.handed .publish ((publishFields (publishPacketOf packet)).flatten.take txBuffSize) sent]
  subscribe : core.mqttState = .connected -> core.mqttTxFlags.newTxPublishPacket = false ->
    core.mqttTxFlags.newTxSubscribePacket = true ->
      ∃ packet, note.subscribe = some packet ∧ ∀ sent,
        (core.mqttTransmissionHandler sent).2 =
          [.handed .subscribe
            ((subscribeFields (subscribePacketOf packet)).flatten.take txBuffSize) sent]
  once : ∀ action, (core.step action).2.any isPublishSent = true ->
    ∃ packet, note.publish = some (packet, note.sessions)

def MeetsAcceptance (core : MqttCore) : Prop :=
  core.mqttState = .waitForConnack ∧ core.rxbuff.dataLength ≠ 0 ∧
    core.connackTimeoutOccured = false ∧
    core.receivedPacketType = MqttControlPacketType.connack.code ∧
    core.rxbuff.contents.getD 3 0 = 0

/-- No PUBLISH is pending when a CONNACK is accepted, and no SUBSCRIBE whose packet was cleared. -/
def StartsClear (core : MqttCore) : MqttAction -> Prop
  | .receptionHandler _ _ =>
    core.MeetsAcceptance ->
      core.mqttTxFlags.newTxPublishPacket = false ∧
        (core.mqttTxFlags.newTxSubscribePacket = true -> core.txSubscribePacket ≠ .zero)
  | _ => True

theorem mqttProcessConnack_accepts (core : MqttCore) :
    core.mqttProcessConnack.1 = decide (core.rxbuff.contents.getD 3 0 = 0) := by
  simp [mqttProcessConnack]

theorem reception_accepts (core : MqttCore) (now : UInt32)
    (callback : List UInt8 -> List UInt8 -> Option MqttPublishPacket) :
    .accepted ∈ (core.mqttReceptionHandler now callback).2 ↔ core.MeetsAcceptance := by
  have counted := steps_accepted (core.step_steps (.receptionHandler now callback))
  by_cases empty : core.rxbuff.dataLength = 0
  · simp [mqttReceptionHandler, empty, MeetsAcceptance]
  cases state : core.mqttState with
  | connecting => simp [mqttReceptionHandler, empty, state, MeetsAcceptance]
  | disconnected => simp [mqttReceptionHandler, empty, state, MeetsAcceptance]
  | connected =>
    simp only [state, ne_eq, not_true, false_and, if_false, List.count_eq_zero] at counted
    simp only [MeetsAcceptance, state, reduceCtorEq, false_and, iff_false]
    exact counted
  | waitForConnack =>
    by_cases late : core.connackTimeoutOccured = true
    · simp [mqttReceptionHandler, empty, state, late, MeetsAcceptance]
    by_cases connack : core.receivedPacketType = MqttControlPacketType.connack.code
    · have accepts := { core with connackTimer := .idle }.mqttProcessConnack_accepts
      have meets : core.MeetsAcceptance ↔ core.rxbuff.contents.getD 3 0 = 0 := by
        simp [MeetsAcceptance, state, empty, late, connack]
      rw [meets, mqttReceptionHandler, if_neg empty]
      split
      case h_2 on => simp [state] at on
      case h_3 off => simp [state] at off
      case h_4 off => simp [state] at off
      rw [if_neg late]
      dsimp only
      rw [if_pos connack]
      generalize { core with connackTimer := .idle }.mqttProcessConnack = parsed at accepts ⊢
      obtain ⟨accepted, after⟩ := parsed
      subst accepts
      by_cases kept : ByteOrder.swap16 after.txConnectPacket.keepAliveTimer = 0 <;>
        by_cases zero : core.rxbuff.contents[3]?.getD 0 = 0 <;> simp [keepAliveTimeout, kept, zero]
    · simp [mqttReceptionHandler, empty, state, late, connack, MeetsAcceptance]

/-- What the flags say of the packets in CONNECTED, and of a SUBSCRIBE wherever the client is. -/
structure Carried (core : MqttCore) (note : Outgoing) : Prop where
  publish : core.mqttTxFlags.newTxPublishPacket = true -> core.mqttState = .connected ->
    ∃ packet, note.publish = some (packet, note.sessions) ∧
      core.txPublishPacket = publishPacketOf packet
  subscribe : core.mqttTxFlags.newTxSubscribePacket = true ->
    core.mqttState ≠ .connected ∧ core.txSubscribePacket = .zero ∨
      ∃ packet, note.subscribe = some packet ∧ core.txSubscribePacket = subscribePacketOf packet
  past : ∀ packet session, note.publish = some (packet, session) -> session ≤ note.sessions

def quietEvent : MqttEvent -> Bool
  | .accepted => false
  | .created packetType => packetType = .connect
  | .handed packetType _ sent => packetType ≠ .publish || !sent
  | _ => true

theorem quiet_absent {events : List MqttEvent} (quiet : events.all quietEvent = true)
    {event : MqttEvent} (loud : quietEvent event = false) : event ∉ events := by
  intro member
  have here := List.all_eq_true.mp quiet event member
  rw [loud] at here
  cases here

theorem after_quiet (note : Outgoing) (publish : Option MqttPublishPacket)
    (subscribe : Option MqttSubscribePacket) {events : List MqttEvent}
    (quiet : events.all quietEvent = true) : note.after publish subscribe events = note := by
  have sent : events.any isPublishSent = false := by
    rw [List.any_eq_false]
    intro event member
    have here := List.all_eq_true.mp quiet event member
    cases event with
    | handed packetType frame sent => cases packetType <;> simp_all [quietEvent, isPublishSent]
    | _ => simp [isPublishSent]
  simp [Outgoing.after, sent, quiet_absent quiet,
    List.count_eq_zero.mpr (quiet_absent quiet (rfl : quietEvent .accepted = false)), quietEvent]

theorem after_created (note : Outgoing) (packet : MqttPublishPacket)
    (subscribe : Option MqttSubscribePacket) {events : List MqttEvent}
    (quiet : events.all quietEvent = true) :
    note.after (some packet) subscribe (events ++ [.created .publish]) =
      { note with publish := some (packet, note.sessions) } := by
  have unaccepted := quiet_absent quiet (rfl : quietEvent .accepted = false)
  have unsubscribed := quiet_absent quiet (rfl : quietEvent (.created .subscribe) = false)
  simp [Outgoing.after, unsubscribed, List.count_eq_zero.mpr unaccepted]

theorem delivery_quiet {events : List MqttEvent} (delivery : Delivery events) :
    events.all quietEvent = true := by
  rw [List.all_eq_true]
  intro event member
  rcases delivery event member with rfl | ⟨topic, payload, rfl⟩ <;> rfl

theorem carried_quiet {core next : MqttCore} {note : Outgoing} (carried : core.Carried note)
    (publish : Option MqttPublishPacket) (subscribe : Option MqttSubscribePacket)
    {events : List MqttEvent} (quiet : events.all quietEvent = true)
    (stays : next.mqttState = .connected -> core.mqttState = .connected)
    (published : next.mqttTxFlags.newTxPublishPacket = true ->
      core.mqttTxFlags.newTxPublishPacket = true ∧
        (next.mqttState = .connected -> next.txPublishPacket = core.txPublishPacket))
    (subscribed : next.mqttTxFlags.newTxSubscribePacket = true ->
      core.mqttTxFlags.newTxSubscribePacket = true ∧
        (next.txSubscribePacket = core.txSubscribePacket ∨
          next.mqttState ≠ .connected ∧ next.txSubscribePacket = .zero)) :
    next.Carried (note.after publish subscribe events) := by
  rw [after_quiet note publish subscribe quiet]
  refine ⟨fun set on => ?_, fun set => ?_, carried.past⟩
  · obtain ⟨before, same⟩ := published set
    rw [same on]
    exact carried.publish before (stays on)
  · obtain ⟨before, same | cleared⟩ := subscribed set
    · rw [same]
      exact (carried.subscribe before).imp_left fun off => ⟨fun on => off.1 (stays on), off.2⟩
    · exact .inl cleared

theorem carried_created {core next : MqttCore} {note : Outgoing} (carried : core.Carried note)
    (on : core.mqttState = .connected) (packet : MqttPublishPacket)
    (subscribe : Option MqttSubscribePacket) {events : List MqttEvent}
    (quiet : events.all quietEvent = true) (stored : next.txPublishPacket = publishPacketOf packet)
    (subscribed : next.mqttTxFlags.newTxSubscribePacket = true ->
      core.mqttTxFlags.newTxSubscribePacket = true ∧
        next.txSubscribePacket = core.txSubscribePacket) :
    next.Carried (note.after (some packet) subscribe (events ++ [.created .publish])) := by
  rw [after_created note packet subscribe quiet]
  refine ⟨fun _ _ => ⟨packet, rfl, stored⟩, fun set => ?_, ?_⟩
  · obtain ⟨before, same⟩ := subscribed set
    rw [same]
    exact .inr ((carried.subscribe before).resolve_left fun off => off.1 on)
  · rintro earlier session same
    obtain ⟨-, rfl⟩ : packet = earlier ∧ note.sessions = session := by simpa using same
    exact Nat.le_refl _

theorem transmits_carried {core : MqttCore} {note : Outgoing} (carried : core.Carried note)
    {sent : Bool} {result : MqttCore × List MqttEvent} (transmits : Transmits core sent result)
    (publish : Option MqttPublishPacket) (subscribe : Option MqttSubscribePacket) :
    result.1.Carried (note.after publish subscribe result.2) := by
  have quiet := @carried_quiet core result.1 note carried publish subscribe result.2
  cases transmits with
  | quiet => exact quiet rfl id (fun set => ⟨set, fun _ => rfl⟩) (fun set => ⟨set, .inl rfl⟩)
  | publishSent on pending timer restarted =>
    refine ⟨fun set => absurd set (by simp), ?_, ?_⟩
    · simpa [Outgoing.after, fillTxbuff] using carried.subscribe
    · simp [Outgoing.after, isPublishSent]
  | publishFailed on pending =>
    exact quiet rfl (by simp) (fun set => ⟨set, fun _ => rfl⟩) (fun set => ⟨set, .inl rfl⟩)
  | subscribeSent on pending =>
    exact quiet rfl id (fun set => ⟨set, fun _ => rfl⟩) (by simp)
  | connectSent off pending =>
    exact quiet rfl (by simp) (fun set => ⟨set, fun _ => rfl⟩) (fun set => ⟨set, .inl rfl⟩)
  | _ => exact quiet rfl id (fun set => ⟨set, fun _ => rfl⟩) (fun set => ⟨set, .inl rfl⟩)

theorem flags_unpinged (core : MqttCore) :
    let flags :=
      if core.keepAliveTimeout ≠ 0 then { core.mqttTxFlags with newTxPingreqPacket := true }
      else core.mqttTxFlags
    flags.newTxPublishPacket = core.mqttTxFlags.newTxPublishPacket ∧
      flags.newTxSubscribePacket = core.mqttTxFlags.newTxSubscribePacket := by
  by_cases kept : core.keepAliveTimeout = 0 <;> simp [kept]

theorem receives_carried {core : MqttCore} {note : Outgoing} (carried : core.Carried note)
    {now : UInt32} {result : MqttCore × List MqttEvent} (receives : Receives core now result)
    (publish : Option MqttPublishPacket) (subscribe : Option MqttSubscribePacket)
    (requested : .created .publish ∈ result.2 ->
      ∃ packet, publish = some packet ∧ result.1.txPublishPacket = publishPacketOf packet)
    (clear : .accepted ∈ result.2 -> core.mqttTxFlags.newTxPublishPacket = false ∧
      (core.mqttTxFlags.newTxSubscribePacket = true -> core.txSubscribePacket ≠ .zero)) :
    result.1.Carried (note.after publish subscribe result.2) := by
  have quiet := @carried_quiet core result.1 note carried publish subscribe result.2
  have same : core.mqttTxFlags.newTxPublishPacket = true ->
      core.mqttTxFlags.newTxPublishPacket = true ∧
        (result.1.mqttState = .connected -> core.txPublishPacket = core.txPublishPacket) :=
    fun set => ⟨set, fun _ => rfl⟩
  have pinged := core.flags_unpinged
  cases receives with
  | quiet nothing => exact quiet rfl id same (fun set => ⟨set, .inl rfl⟩)
  | connackTimeout waiting late => exact quiet rfl (by simp) same (fun set => ⟨set, .inl rfl⟩)
  | accepted waiting inTime rxbuff =>
    obtain ⟨published, subscribed⟩ := clear (by simp)
    refine ⟨fun set => ?_, fun set => ?_, ?_⟩
    · rw [pinged.1, published] at set
      cases set
    · rw [pinged.2] at set
      have stored := (carried.subscribe set).resolve_left fun off => subscribed set off.2
      exact .inr (by simpa [Outgoing.after] using stored)
    · intro packet session pending
      have before := carried.past packet session (by simpa [Outgoing.after, isPublishSent] using pending)
      simp only [Outgoing.after]
      omega
  | refused waiting packetType rxbuff closing how =>
    refine quiet ?_ (by simp) same (fun set => ⟨set, .inl rfl⟩)
    rcases how with ⟨-, rfl, -⟩ | ⟨-, rfl⟩ <;> rfl
  | unsolicited unexpected packetType =>
    exact quiet rfl (by simp) same (fun set => ⟨set, .inl rfl⟩)
  | pingresp on expected inTime rxbuff =>
    exact quiet rfl id (fun set => same (pinged.1 ▸ set)) fun set => ⟨pinged.2 ▸ set, .inl rfl⟩
  | suback on packetType expected verdict which judged rxbuff =>
    exact quiet rfl (fun _ => on) same (fun set => ⟨set, .inl rfl⟩)
  | publish on rxbuff events delivery =>
    exact quiet (by simp [quietEvent, delivery_quiet delivery]) id same
      (fun set => ⟨set, .inl rfl⟩)
  | publishAnswered on rxbuff events delivery newPublishPacket =>
    obtain ⟨packet, rfl, stored⟩ := requested (by simp)
    rw [← List.cons_append]
    exact carried_created carried on packet subscribe
      (by simp [quietEvent, delivery_quiet delivery]) stored (fun set => ⟨set, rfl⟩)
  | puback on rxbuff awaited stays => exact quiet rfl id same (fun set => ⟨set, .inl rfl⟩)
  | ignored on packetType => exact quiet rfl id same (fun set => ⟨set, .inl rfl⟩)

theorem steps_carried {core : MqttCore} {note : Outgoing} (carried : core.Carried note)
    {action : MqttAction} {result : MqttCore × List MqttEvent} (steps : Steps core action result)
    (requested : .created .publish ∈ result.2 ->
      ∃ packet, core.requestedPublish action = some packet ∧
        result.1.txPublishPacket = publishPacketOf packet)
    (clear : .accepted ∈ result.2 -> core.mqttTxFlags.newTxPublishPacket = false ∧
      (core.mqttTxFlags.newTxSubscribePacket = true -> core.txSubscribePacket ≠ .zero)) :
    result.1.Carried
      (note.after (core.requestedPublish action) (requestedSubscribe action) result.2) := by
  have quiet := @carried_quiet core result.1 note carried (core.requestedPublish action)
    (requestedSubscribe action) result.2
  have same : core.mqttTxFlags.newTxPublishPacket = true ->
      core.mqttTxFlags.newTxPublishPacket = true ∧
        (result.1.mqttState = .connected -> core.txPublishPacket = core.txPublishPacket) :=
    fun set => ⟨set, fun _ => rfl⟩
  cases steps with
  | createConnect newConnectPacket =>
    exact quiet rfl (by simp) (by simp [NewTxDataFlags.none]) (by simp [NewTxDataFlags.none])
  | createPublish newPublishPacket on =>
    exact @carried_created core _ note carried on newPublishPacket none [] rfl rfl
      fun set => ⟨set, rfl⟩
  | refusePublish newPublishPacket off =>
    exact quiet rfl id (fun set => ⟨set, fun on => absurd on off⟩) (fun set => ⟨set, .inl rfl⟩)
  | createSubscribe newSubscribePacket on =>
    refine ⟨fun set _ => ?_, fun _ => .inr ⟨newSubscribePacket, ?_, rfl⟩, ?_⟩
    · simpa [Outgoing.after, isPublishSent] using carried.publish set on
    · simp [Outgoing.after, requestedSubscribe]
    · simpa [Outgoing.after, isPublishSent] using carried.past
  | refuseSubscribe newSubscribePacket off =>
    exact quiet rfl id same (fun set => ⟨set, .inr ⟨off, rfl⟩⟩)
  | disconnect sent disconnects =>
    cases disconnects with
    | idle _ off => exact quiet rfl id same (fun set => ⟨set, .inl rfl⟩)
    | sent active =>
      exact quiet rfl (by simp) (by simp [NewTxDataFlags.none]) (by simp [NewTxDataFlags.none])
    | failed active => exact quiet rfl (by simp) same (fun set => ⟨set, .inl rfl⟩)
  | initialiseState => exact quiet rfl (by simp) same (fun set => ⟨set, .inl rfl⟩)
  | clientInitialise txbuff rxbuff => exact quiet rfl (by simp) same (fun set => ⟨set, .inl rfl⟩)
  | transmission sent transmits => exact transmits_carried carried transmits _ _
  | reception now callback receives => exact receives_carried carried receives _ _ requested clear
  | timerExpires timer =>
    cases timer <;> exact quiet rfl id same (fun set => ⟨set, .inl rfl⟩)
  | _ => exact quiet rfl id same (fun set => ⟨set, .inl rfl⟩)

theorem step_requested (core : MqttCore) (action : MqttAction)
    (created : .created .publish ∈ (core.step action).2) :
    ∃ packet, core.requestedPublish action = some packet ∧
      (core.step action).1.txPublishPacket = publishPacketOf packet := by
  cases action with
  | createPublishPacket newPublishPacket =>
    by_cases on : core.mqttState = .connected
    · exact ⟨newPublishPacket, rfl, by simp [step, mqttCreatePublishPacket, on]⟩
    · simp [step, mqttCreatePublishPacket, on] at created
  | createSubscribePacket newSubscribePacket =>
    by_cases on : core.mqttState = .connected <;>
      simp [step, mqttCreateSubscribePacket, on] at created
  | receptionHandler now callback => exact core.reception_created now callback created
  | transmissionHandler sent =>
    exact absurd created (transmits_created (core.transmissionHandler_transmits sent) .publish)
  | createConnectPacket newConnectPacket => simp [step, mqttCreateConnectPacket] at created
  | disconnect sent =>
    exact absurd created (disconnects_created (core.mqttDisconnect_disconnects sent) .publish)
  | _ => simp [step] at created

theorem step_publishSent (core : MqttCore) (action : MqttAction)
    (sent : (core.step action).2.any isPublishSent = true) :
    core.mqttState = .connected ∧ core.mqttTxFlags.newTxPublishPacket = true := by
  have steps := core.step_steps action
  generalize core.step action = result at sent steps
  cases steps with
  | transmission accepted transmits =>
    cases transmits with
    | publishSent on pending timer restarted => exact ⟨on, pending⟩
    | _ => simp [isPublishSent] at sent
  | disconnect accepted disconnects => cases disconnects <;> simp [isPublishSent] at sent
  | reception now callback receives =>
    have delivered {events : List MqttEvent} (delivery : Delivery events) :
        events.any isPublishSent = false := by
      rw [List.any_eq_false]
      intro event member
      rcases delivery event member with rfl | ⟨topic, payload, rfl⟩ <;> simp [isPublishSent]
    cases receives with
    | refused waiting packetType rxbuff closing how =>
      rcases how with ⟨-, rfl, -⟩ | ⟨-, rfl⟩ <;> simp [isPublishSent] at sent
    | publish on rxbuff events delivery =>
      rw [List.any_cons, delivered delivery] at sent
      cases sent
    | publishAnswered on rxbuff events delivery newPublishPacket =>
      rw [List.any_cons, List.any_append, delivered delivery] at sent
      cases sent
    | _ => simp [isPublishSent] at sent
  | _ => simp [isPublishSent] at sent

theorem carried_sends {core : MqttCore} {note : Outgoing} (flags : core.TransmitFlags)
    (carried : core.Carried note) : core.SendsAccepted note where
  connect := flags.connect
  bits on := by
    simp only [NewTxDataFlags.all, flags.connect (.inr on), flags.noDisconnect,
      flags.noUnsubscribe]
    cases core.mqttTxFlags.newTxPublishPacket <;> cases core.mqttTxFlags.newTxSubscribePacket <;>
      cases core.mqttTxFlags.newTxPingreqPacket <;> decide
  publish on set := by
    obtain ⟨packet, pending, stored⟩ := carried.publish set on
    exact ⟨packet, note.sessions, pending, stored ▸ transmission_publish flags on set⟩
  subscribe on unset set := by
    obtain ⟨packet, created, stored⟩ :=
      (carried.subscribe set).resolve_left fun off => off.1 on
    exact ⟨packet, created, stored ▸ transmission_subscribe flags on unset set⟩
  once action sent := by
    obtain ⟨on, set⟩ := core.step_publishSent action sent
    obtain ⟨packet, pending, -⟩ := carried.publish set on
    exact ⟨packet, pending⟩

theorem subscribeFields_ne (packet : MqttSubscribePacket) :
    (subscribeFields (subscribePacketOf packet)).flatten.take txBuffSize ≠
      (subscribeFields .zero).flatten.take txBuffSize := by
  intro same
  have heads := congrArg List.head? same
  simp [subscribeFields, subscribePacketOf, MqttSubscribePacket.zero] at heads
  exact absurd heads (by decide)

theorem startsClear_of_sends {core : MqttCore} {note : Outgoing} (flags : core.TransmitFlags)
    (carried : core.Carried note) (action : MqttAction)
    (sends : (core.step action).1.SendsAccepted (core.outgoing action note)) :
    core.StartsClear action := by
  cases action with
  | receptionHandler now callback =>
    intro meets
    have accepted : .accepted ∈ (core.step (.receptionHandler now callback)).2 :=
      (core.reception_accepts now callback).mpr meets
    have flagsNext := step_flags flags (.receptionHandler now callback)
    obtain ⟨-, -, time, rxbuff, next, events⟩ :=
      accepted_state (core.step_steps (.receptionHandler now callback)) accepted
    have on : (core.step (.receptionHandler now callback)).1.mqttState = .connected := by rw [next]
    have kept := core.flags_unpinged
    have publishes : (core.step (.receptionHandler now callback)).1.mqttTxFlags.newTxPublishPacket =
        core.mqttTxFlags.newTxPublishPacket := by rw [next]; exact kept.1
    have subscribes :
        (core.step (.receptionHandler now callback)).1.mqttTxFlags.newTxSubscribePacket =
          core.mqttTxFlags.newTxSubscribePacket := by rw [next]; exact kept.2
    have note : core.outgoing (.receptionHandler now callback) note =
        { note with sessions := note.sessions + 1 } := by
      simp [outgoing, Outgoing.after, events, isPublishSent]
    rw [note] at sends
    have unset : core.mqttTxFlags.newTxPublishPacket = false := by
      by_contra set
      have pending := publishes.trans (Bool.not_eq_false _ ▸ set)
      obtain ⟨packet, created⟩ := sends.once (.transmissionHandler true) (by
        rw [step, transmission_publish flagsNext on pending]
        rfl)
      exact absurd (carried.past packet _ created) (by simp)
    refine ⟨unset, fun set zero => ?_⟩
    have handed := transmission_subscribe flagsNext on (publishes.trans unset)
      (subscribes.trans set) true
    obtain ⟨packet, -, wanted⟩ := sends.subscribe on (publishes.trans unset) (subscribes.trans set)
    have stored : (core.step (.receptionHandler now callback)).1.txSubscribePacket = .zero := by
      rw [next]
      exact zero
    rw [wanted true, stored] at handed
    exact subscribeFields_ne packet (by simpa using handed)
  | _ => trivial

theorem accepted_reception {core : MqttCore} {action : MqttAction}
    {result : MqttCore × List MqttEvent} (steps : Steps core action result)
    (accepted : .accepted ∈ result.2) : ∃ now callback, action = .receptionHandler now callback := by
  cases steps with
  | reception now callback receives => exact ⟨now, callback, rfl⟩
  | disconnect sent disconnects => cases disconnects <;> simp at accepted
  | transmission sent transmits => cases transmits <;> simp at accepted
  | _ => simp at accepted

theorem step_carried {core : MqttCore} {note : Outgoing} (carried : core.Carried note)
    (action : MqttAction) (clear : core.StartsClear action) :
    (core.step action).1.Carried (core.outgoing action note) := by
  refine steps_carried carried (core.step_steps action) (core.step_requested action) ?_
  intro accepted
  obtain ⟨now, callback, rfl⟩ := accepted_reception (core.step_steps action) accepted
  exact clear ((core.reception_accepts now callback).mp accepted)

def noted (actions : List MqttAction) : MqttCore × Outgoing :=
  (Machine.run (Machine.noting step outgoing) (boot, .none) actions).1

theorem noted_append (front : List MqttAction) (action : MqttAction) :
    noted (front ++ [action]) =
      (((noted front).1.step action).1, (noted front).1.outgoing action (noted front).2) := by
  rw [noted, Machine.run_append, Machine.run_cons]
  rfl

theorem noted_core (actions : List MqttAction) :
    (noted actions).1 = (Machine.run step boot actions).1 :=
  (Machine.run_noting step outgoing (boot, .none) actions).1

theorem transmitFlags_iff (actions : List MqttAction) :
    (∀ front, front <+: actions -> (noted front).1.SendsAccepted (noted front).2) ↔
      Machine.Guarded step StartsClear boot actions := by
  have flags : ∀ front, (noted front).1.TransmitFlags := fun front =>
    noted_core front ▸ Machine.run_always TransmitFlags
      (fun _ action holds => step_flags holds action) boot_flags front
  have carried : ∀ front, Machine.Guarded step StartsClear boot front ->
      (noted front).1.Carried (noted front).2 := by
    intro front clear
    induction front using List.reverseRecOn with
    | nil =>
      exact ⟨fun set => absurd set (by decide), fun set => absurd set (by decide),
        by simp [noted, Outgoing.none]⟩
    | append_singleton front action ih =>
      obtain ⟨before, last, -⟩ := (Machine.guarded_append step _ boot front [action]).mp clear
      rw [noted_append]
      rw [← noted_core] at last
      exact step_carried (ih before) action last
  constructor
  · intro sends
    induction actions using List.reverseRecOn with
    | nil => trivial
    | append_singleton front action ih =>
      have before := ih fun earlier first => sends earlier (first.trans (List.prefix_append _ _))
      refine (Machine.guarded_append step _ boot front [action]).mpr ⟨before, ?_, trivial⟩
      have last := sends (front ++ [action]) List.prefix_rfl
      rw [noted_append] at last
      rw [← noted_core]
      exact startsClear_of_sends (flags front) (carried front before) action last
  · rintro clear front ⟨back, rfl⟩
    have before := ((Machine.guarded_append step _ boot front back).mp clear).1
    exact carried_sends (flags front) (carried front before)

def shortPublish : MqttPublishPacket :=
  { MqttPublishPacket.zero with
    topicLength := 1
    topic := [97]
    payloadLength := 1
    payload := [98] }

def overtaken : List MqttAction :=
  opening 10 ++
  [.createPublishPacket shortPublish, .getReceivedData [0xD0, 0], .receptionHandler 2 fun _ _ => none,
    .createPublishPacket shortPublish, .getReceivedData [0x20, 2, 0, 0],
    .receptionHandler 3 fun _ _ => none]

theorem overtaken_sends_zeros :
    ((noted overtaken).1.mqttTransmissionHandler true).2 = [.handed .publish [0, 0, 0, 0] true] ∧
      (noted overtaken).2.publish = some (shortPublish, 1) ∧ (noted overtaken).2.sessions = 2 ∧
      ¬ ∀ front, front <+: overtaken -> (noted front).1.SendsAccepted (noted front).2 := by
  have handed : ((noted overtaken).1.mqttTransmissionHandler true).2 =
      [.handed .publish [0, 0, 0, 0] true] := by decide +kernel
  have pending : (noted overtaken).2.publish = some (shortPublish, 1) := by decide +kernel
  have sessions : (noted overtaken).2.sessions = 2 := by decide +kernel
  refine ⟨handed, pending, sessions, fun sends => ?_⟩
  obtain ⟨packet, created⟩ := (sends overtaken List.prefix_rfl).once (.transmissionHandler true) (by
    rw [step, handed]
    rfl)
  rw [pending, sessions] at created
  simp at created

end MqttCore

end AvrVoiceControl
