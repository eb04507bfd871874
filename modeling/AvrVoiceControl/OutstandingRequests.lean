import AvrVoiceControl.MqttSteps

set_option autoImplicit false

namespace AvrVoiceControl

/-- What was sent and taken since the last accepted CONNACK. -/
structure RequestLedger where
  pingreqs : Nat
  pingresps : Nat
  subscribes : Nat
  subacks : Nat
  deriving DecidableEq

namespace RequestLedger

def empty : RequestLedger := ⟨0, 0, 0, 0⟩

def record (ledger : RequestLedger) : MqttEvent -> RequestLedger
  | .accepted => empty
  | .handed .pingreq _ true => { ledger with pingreqs := ledger.pingreqs + 1 }
  | .handed .subscribe _ true => { ledger with subscribes := ledger.subscribes + 1 }
  | _ => ledger

end RequestLedger

namespace MqttCore

def TakesPingresp (core : MqttCore) : Prop :=
  core.mqttState = .connected ∧ core.rxbuff.dataLength ≠ 0 ∧
    core.receivedPacketType = MqttControlPacketType.pingresp.code ∧
    core.mqttRxFlags.newRxPingrespPacket = true ∧ core.pingrespTimeoutOccured = false

def TakesSuback (core : MqttCore) : Prop :=
  core.mqttState = .connected ∧ core.rxbuff.dataLength ≠ 0 ∧
    core.receivedPacketType = MqttControlPacketType.suback.code ∧
    core.mqttRxFlags.newRxSubackPacket = true

/-- With a keep-alive, the flag of the PINGREQ is clear from its sending to its answer. -/
def AwaitsPingresp (core : MqttCore) : Prop :=
  core.keepAliveTimeout ≠ 0 ∧ core.mqttTxFlags.newTxPingreqPacket = false

instance (core : MqttCore) : Decidable core.TakesPingresp := by
  unfold TakesPingresp
  infer_instance

instance (core : MqttCore) : Decidable core.TakesSuback := by
  unfold TakesSuback
  infer_instance

instance (core : MqttCore) : Decidable core.AwaitsPingresp := by
  unfold AwaitsPingresp
  infer_instance

def take (core : MqttCore) (action : MqttAction) (ledger : RequestLedger) : RequestLedger :=
  match action with
  | .receptionHandler _ _ =>
    if core.TakesPingresp then { ledger with pingresps := ledger.pingresps + 1 }
    else if core.TakesSuback then { ledger with subacks := ledger.subacks + 1 }
    else ledger
  | _ => ledger

def settle (core : MqttCore) (action : MqttAction) (ledger : RequestLedger) : RequestLedger :=
  (core.step action).2.foldl RequestLedger.record (core.take action ledger)

def counted : Machine.Step (MqttCore × RequestLedger) MqttAction MqttEvent :=
  Machine.noting step settle

def Unasked (state : MqttCore × RequestLedger) (packetType : MqttControlPacketType) : Prop :=
  state.1.rxbuff.dataLength ≠ 0 ∧ state.1.receivedPacketType = packetType.code ∧
    match packetType with
    | .pingresp => state.2.pingresps = state.2.pingreqs
    | .suback => state.2.subacks = state.2.subscribes
    | _ => False

/-- No more responses than requests after the step, and an unasked one is not taken: it leaves the
PINGREQ flag and the wait for a SUBACK as they are. -/
def AnswersRequests (state : MqttCore × RequestLedger) (action : MqttAction) : Prop :=
  let after := (counted state action).1
  after.2.pingresps ≤ after.2.pingreqs ∧ after.2.subacks ≤ after.2.subscribes ∧
    ∀ now callback, action = .receptionHandler now callback ->
      (Unasked state .pingresp ->
        after.1.mqttTxFlags.newTxPingreqPacket = state.1.mqttTxFlags.newTxPingreqPacket) ∧
      (Unasked state .suback ->
        ¬ state.1.TakesSuback ∧ after.1.mqttRxFlags = state.1.mqttRxFlags ∧
          after.1.txSubscribePacket = state.1.txSubscribePacket)

/-- A PINGRESP is taken only while its PINGREQ is unanswered, a SUBACK only in a session that has
sent a SUBSCRIBE. -/
def ExpectsAnswer (state : MqttCore × RequestLedger) : MqttAction -> Prop
  | .receptionHandler _ _ =>
    (state.1.TakesPingresp -> state.1.AwaitsPingresp) ∧
      (state.1.TakesSuback -> state.2.subscribes ≠ 0)
  | _ => True

structure Accounted (core : MqttCore) (ledger : RequestLedger) : Prop where
  keepAlive : core.keepAliveTimeout = 0 -> core.mqttTxFlags.newTxPingreqPacket = false
  pingresps : ledger.pingresps ≤ ledger.pingreqs
  awaited : core.mqttState = .connected ->
    ledger.pingreqs = ledger.pingresps + if core.AwaitsPingresp then 1 else 0
  -- The flag of the SUBACK may be left over from an earlier session.
  subacks : ledger.subacks +
      (if core.mqttRxFlags.newRxSubackPacket = true ∧ ledger.subscribes ≠ 0 then 1 else 0) ≤
    ledger.subscribes

section Accounted

variable {core next : MqttCore} {ledger : RequestLedger}

theorem accounted_same (accounted : Accounted core ledger)
    (timeout : next.keepAliveTimeout = core.keepAliveTimeout)
    (pingreq : next.mqttTxFlags.newTxPingreqPacket = core.mqttTxFlags.newTxPingreqPacket)
    (suback : next.mqttRxFlags.newRxSubackPacket = core.mqttRxFlags.newRxSubackPacket)
    (stays : next.mqttState = .connected -> core.mqttState = .connected) :
    Accounted next ledger where
  keepAlive := by
    rw [timeout, pingreq]
    exact accounted.keepAlive
  pingresps := accounted.pingresps
  awaited on := by
    simp only [AwaitsPingresp, timeout, pingreq]
    exact accounted.awaited (stays on)
  subacks := by
    rw [suback]
    exact accounted.subacks

theorem accounted_off (accounted : Accounted core ledger)
    (keepAlive : next.keepAliveTimeout = 0 -> next.mqttTxFlags.newTxPingreqPacket = false)
    (suback : next.mqttRxFlags.newRxSubackPacket = core.mqttRxFlags.newRxSubackPacket)
    (off : next.mqttState ≠ .connected) : Accounted next ledger where
  keepAlive := keepAlive
  pingresps := accounted.pingresps
  awaited on := absurd on off
  subacks := by
    rw [suback]
    exact accounted.subacks

theorem transmits_accounted (accounted : Accounted core ledger) {sent : Bool}
    {result : MqttCore × List MqttEvent} (transmits : Transmits core sent result) :
    Accounted result.1 (result.2.foldl RequestLedger.record ledger) := by
  cases transmits with
  | connectSent off pending =>
    exact accounted_off accounted accounted.keepAlive rfl (by simp)
  | publishSent on pending timer restarted =>
    refine accounted_same accounted rfl rfl ?_ fun _ => on
    dsimp only
    split <;> rfl
  | publishFailed on pending => exact accounted_off accounted accounted.keepAlive rfl (by simp)
  | subscribeSent on pending =>
    refine ⟨accounted.keepAlive, accounted.pingresps, accounted.awaited, ?_⟩
    have before := accounted.subacks
    simp [RequestLedger.record]
    omega
  | pingreqSent on pending due =>
    have kept : core.keepAliveTimeout ≠ 0 := by
      intro none
      rw [accounted.keepAlive none] at pending
      cases pending
    have before := accounted.awaited on
    simp only [AwaitsPingresp, pending, Bool.true_eq_false, and_false, if_false] at before
    refine ⟨fun _ => rfl, ?_, fun _ => ?_, accounted.subacks⟩
    · simp only [List.foldl_cons, List.foldl_nil, RequestLedger.record]
      omega
    · have awaits : AwaitsPingresp
          { core.fillTxbuff pingreqFields with
            mqttTxFlags := { core.mqttTxFlags with newTxPingreqPacket := false }
            mqttRxFlags := { core.mqttRxFlags with newRxPingrespPacket := true }
            pingreqTimeoutOccured := false
            pingrespTimer := .pending waitForPingrespTimeout } := ⟨kept, rfl⟩
      simp only [List.foldl_cons, List.foldl_nil, RequestLedger.record, if_pos awaits]
      omega
  | _ => exact accounted_same accounted rfl rfl rfl id

theorem delivery_unrecorded {events : List MqttEvent} (delivery : Delivery events)
    (ledger : RequestLedger) : events.foldl RequestLedger.record ledger = ledger := by
  induction events with
  | nil => rfl
  | cons event rest ih =>
    have later := ih fun other member => delivery other (List.mem_cons_of_mem _ member)
    rcases delivery event List.mem_cons_self with rfl | ⟨topic, payload, rfl⟩
    · exact later
    · exact later

theorem accounted_accepted (kept : next.keepAliveTimeout = 0 ->
      next.mqttTxFlags.newTxPingreqPacket = false)
    (rearmed : next.keepAliveTimeout ≠ 0 -> next.mqttTxFlags.newTxPingreqPacket = true) :
    Accounted next .empty := by
  have answered : ¬ next.AwaitsPingresp := by
    rintro ⟨timeout, clear⟩
    rw [rearmed timeout] at clear
    cases clear
  exact ⟨kept, Nat.le_refl _, fun _ => by simp [answered, RequestLedger.empty],
    by simp [RequestLedger.empty]⟩

theorem processed_type {core : MqttCore} {now : UInt32}
    {callback : List UInt8 -> List UInt8 -> Option MqttPublishPacket} {packetType : Fin 16}
    {rest : List MqttEvent} (on : core.mqttState = .connected)
    (events : (core.mqttReceptionHandler now callback).2 = .processed packetType :: rest) :
    core.rxbuff.dataLength ≠ 0 ∧ core.receivedPacketType = packetType := by
  unfold mqttReceptionHandler at events
  split at events
  case isTrue => cases events
  case isFalse arrived =>
    refine ⟨arrived, ?_⟩
    simp only [on] at events
    split_ifs at events <;> simpa using congrArg List.head? events

theorem receptionHandler_pingresp (takes : core.TakesPingresp) (now : UInt32)
    (callback : List UInt8 -> List UInt8 -> Option MqttPublishPacket) :
    core.mqttReceptionHandler now callback =
      ({ core with pingrespTimer := .idle }.mqttProcessPingresp,
        [.processed MqttControlPacketType.pingresp.code]) := by
  obtain ⟨on, arrived, packetType, expected, inTime⟩ := takes
  simp only [mqttReceptionHandler, on, if_neg arrived, packetType, expected, inTime, and_self,
    if_true]

theorem receptionHandler_suback (takes : core.TakesSuback) (now : UInt32)
    (callback : List UInt8 -> List UInt8 -> Option MqttPublishPacket) :
    core.mqttReceptionHandler now callback =
      ({ core.mqttProcessSuback.2 with mqttState := core.mqttProcessSuback.1 },
        [.processed MqttControlPacketType.suback.code]) := by
  obtain ⟨on, arrived, packetType, expected⟩ := takes
  have differ : MqttControlPacketType.suback.code ≠ MqttControlPacketType.pingresp.code := by
    decide
  simp only [mqttReceptionHandler, on, if_neg arrived, packetType, if_neg differ, expected,
    if_true]

theorem not_takesSuback_of_pingresp (takes : core.TakesPingresp) : ¬ core.TakesSuback := by
  rintro ⟨-, -, packetType, -⟩
  rw [takes.2.2.1] at packetType
  cases packetType

theorem reception_accounted (accounted : Accounted core ledger) (now : UInt32)
    (callback : List UInt8 -> List UInt8 -> Option MqttPublishPacket)
    (noPingresp : ¬ core.TakesPingresp) (noSuback : ¬ core.TakesSuback) :
    Accounted (core.mqttReceptionHandler now callback).1
      ((core.mqttReceptionHandler now callback).2.foldl RequestLedger.record ledger) := by
  have receives := core.receptionHandler_receives now callback
  generalize whole : core.mqttReceptionHandler now callback = result at receives ⊢
  cases receives with
  | quiet => exact accounted
  | connackTimeout => exact accounted_off accounted accounted.keepAlive rfl (by simp)
  | accepted waiting inTime rxbuff =>
    refine accounted_accepted (fun none => ?_) (fun kept => ?_)
    · have off : core.keepAliveTimeout = 0 := none
      simp [off, accounted.keepAlive off]
    · have on : core.keepAliveTimeout ≠ 0 := kept
      simp [on]
  | refused waiting packetType rxbuff closing how =>
    have same : (MqttEvent.processed packetType :: closing).foldl RequestLedger.record ledger =
        ledger := by
      rcases how with ⟨-, rfl, -⟩ | ⟨-, rfl⟩ <;> rfl
    rw [same]
    exact accounted_off accounted accounted.keepAlive rfl (by simp)
  | unsolicited => exact accounted_off accounted accounted.keepAlive rfl (by simp)
  | pingresp on expected inTime rxbuff =>
    obtain ⟨arrived, packetType⟩ := processed_type on (congrArg Prod.snd whole)
    exact absurd ⟨on, arrived, packetType, expected, inTime⟩ noPingresp
  | suback on packetType expected =>
    obtain ⟨arrived, -⟩ := processed_type on (congrArg Prod.snd whole)
    exact absurd ⟨on, arrived, packetType, expected⟩ noSuback
  | publish on rxbuff events delivery =>
    rw [List.foldl_cons, delivery_unrecorded delivery]
    exact accounted_same accounted rfl rfl rfl id
  | publishAnswered on rxbuff events delivery =>
    rw [List.foldl_cons, List.foldl_append, delivery_unrecorded delivery]
    exact accounted_same accounted rfl rfl rfl id
  | puback => exact accounted_same accounted rfl rfl rfl id
  | ignored => exact accounted

theorem pingresp_accounted (accounted : Accounted core ledger) (takes : core.TakesPingresp)
    (awaits : core.AwaitsPingresp) :
    Accounted { core with pingrespTimer := .idle }.mqttProcessPingresp
      { ledger with pingresps := ledger.pingresps + 1 } := by
  have kept : { core with pingrespTimer := .idle }.keepAliveTimeout ≠ 0 := awaits.1
  have sent := accounted.awaited takes.1
  rw [if_pos awaits] at sent
  have answered : ¬ { core with pingrespTimer := .idle }.mqttProcessPingresp.AwaitsPingresp := by
    simp [AwaitsPingresp, mqttProcessPingresp, kept]
  refine ⟨fun none => absurd none kept, ?_, fun _ => ?_, accounted.subacks⟩
  · exact Nat.le_of_eq sent.symm
  · simp only [if_neg answered]
    omega

theorem suback_accounted (accounted : Accounted core ledger) (takes : core.TakesSuback)
    (asked : ledger.subscribes ≠ 0) :
    Accounted { core.mqttProcessSuback.2 with mqttState := core.mqttProcessSuback.1 }
      { ledger with subacks := ledger.subacks + 1 } := by
  obtain ⟨verdict, rxbuff, -, -, result⟩ := core.mqttProcessSuback_cases
  have before := accounted.subacks
  rw [if_pos ⟨takes.2.2.2, asked⟩] at before
  rw [result]
  refine ⟨accounted.keepAlive, accounted.pingresps, fun _ => accounted.awaited takes.1, ?_⟩
  simpa using before

theorem step_settles (accounted : Accounted core ledger) (action : MqttAction)
    (expects : ExpectsAnswer (core, ledger) action) :
    Accounted (core.step action).1 (core.settle action ledger) := by
  by_cases reception : ∃ now callback, action = .receptionHandler now callback
  · obtain ⟨now, callback, rfl⟩ := reception
    by_cases pingresp : core.TakesPingresp
    · simp only [settle, take, if_pos pingresp, step, receptionHandler_pingresp pingresp]
      exact pingresp_accounted accounted pingresp (expects.1 pingresp)
    by_cases suback : core.TakesSuback
    · simp only [settle, take, if_neg pingresp, if_pos suback, step,
        receptionHandler_suback suback]
      exact suback_accounted accounted suback (expects.2 suback)
    simp only [settle, take, if_neg pingresp, if_neg suback, step]
    exact reception_accounted accounted now callback pingresp suback
  have taken : core.take action ledger = ledger := by
    cases action with
    | receptionHandler now callback => exact absurd ⟨now, callback, rfl⟩ reception
    | _ => rfl
  have steps := core.step_steps action
  rw [settle, taken]
  generalize core.step action = result at steps ⊢
  cases steps with
  | reception now callback => exact absurd ⟨now, callback, rfl⟩ reception
  | createConnect => exact accounted_off accounted (fun _ => rfl) rfl (by simp)
  | disconnect sent disconnects =>
    cases disconnects with
    | idle => exact accounted
    | sent => exact accounted_off accounted (fun _ => rfl) rfl (by simp)
    | failed => exact accounted_off accounted accounted.keepAlive rfl (by simp)
  | initialiseState => exact accounted_off accounted accounted.keepAlive rfl (by simp)
  | clientInitialise => exact accounted_off accounted accounted.keepAlive rfl (by simp)
  | transmission sent transmits => exact transmits_accounted accounted transmits
  | timerExpires timer => cases timer <;> exact accounted_same accounted rfl rfl rfl id
  | _ => exact accounted_same accounted rfl rfl rfl id

theorem untaken_unchanged (now : UInt32)
    (callback : List UInt8 -> List UInt8 -> Option MqttPublishPacket)
    (arrived : core.rxbuff.dataLength ≠ 0)
    (response : core.receivedPacketType = MqttControlPacketType.pingresp.code ∧
        ¬ core.TakesPingresp ∨
      core.receivedPacketType = MqttControlPacketType.suback.code ∧ ¬ core.TakesSuback) :
    ∃ mqttState connackTimer, (core.mqttReceptionHandler now callback).1 =
      { core with mqttState := mqttState, connackTimer := connackTimer } := by
  cases state : core.mqttState with
  | disconnected =>
    have stays : core.mqttReceptionHandler now callback = (core, []) := by
      simp [mqttReceptionHandler, state]
    exact ⟨core.mqttState, core.connackTimer, by rw [stays]⟩
  | connecting =>
    have stays : core.mqttReceptionHandler now callback = (core, []) := by
      simp [mqttReceptionHandler, state]
    exact ⟨core.mqttState, core.connackTimer, by rw [stays]⟩
  | waitForConnack =>
    have other : core.receivedPacketType ≠ MqttControlPacketType.connack.code := by
      rcases response with ⟨packetType, -⟩ | ⟨packetType, -⟩ <;> rw [packetType] <;> decide
    refine ⟨.disconnected, if core.connackTimeoutOccured then core.connackTimer else .idle, ?_⟩
    cases late : core.connackTimeoutOccured <;>
      simp [mqttReceptionHandler, if_neg arrived, state, late, if_neg other]
  | connected =>
    have differ : MqttControlPacketType.suback.code ≠ MqttControlPacketType.pingresp.code := by
      decide
    refine ⟨.waitForConnack, core.connackTimer, ?_⟩
    rcases response with ⟨packetType, untaken⟩ | ⟨packetType, untaken⟩
    · have unexpected : ¬ (core.mqttRxFlags.newRxPingrespPacket = true ∧
          core.pingrespTimeoutOccured = false) :=
        fun expected => untaken ⟨state, arrived, packetType, expected⟩
      simp only [mqttReceptionHandler, if_neg arrived, state, packetType, if_true,
        if_neg unexpected]
      rfl
    · have unexpected : ¬ core.mqttRxFlags.newRxSubackPacket = true :=
        fun expected => untaken ⟨state, arrived, packetType, expected⟩
      simp only [mqttReceptionHandler, if_neg arrived, state, packetType, if_neg differ, if_true,
        if_neg unexpected]
      rfl

theorem answers_iff_expects (accounted : Accounted core ledger) (action : MqttAction) :
    AnswersRequests (core, ledger) action ↔ ExpectsAnswer (core, ledger) action := by
  constructor
  · rintro ⟨pingresps, subacks, -⟩
    cases action with
    | receptionHandler now callback =>
      refine ⟨fun pingresp => ?_, fun suback => ?_⟩
      · by_contra answered
        -- A second response would be counted beyond the PINGREQs sent.
        have sent := accounted.awaited pingresp.1
        rw [if_neg answered] at sent
        have counted' : ledger.pingresps + 1 ≤ ledger.pingreqs := by
          simpa [counted, Machine.noting, settle, take, if_pos pingresp, step,
            receptionHandler_pingresp pingresp, RequestLedger.record] using pingresps
        omega
      · have other : ¬ core.TakesPingresp :=
          fun pingresp => not_takesSuback_of_pingresp pingresp suback
        have counted' : ledger.subacks + 1 ≤ ledger.subscribes := by
          simpa [counted, Machine.noting, settle, take, if_neg other, if_pos suback, step,
            receptionHandler_suback suback, RequestLedger.record] using subacks
        exact Nat.ne_zero_of_lt counted'
    | _ => trivial
  · intro expects
    have after := step_settles accounted action expects
    refine ⟨after.pingresps, Nat.le_trans (Nat.le_add_right _ _) after.subacks, ?_⟩
    rintro now callback rfl
    constructor
    · rintro ⟨arrived, packetType, none⟩
      have untaken : ¬ core.TakesPingresp := by
        intro pingresp
        have sent := accounted.awaited pingresp.1
        rw [if_pos (expects.1 pingresp)] at sent
        dsimp only at none
        omega
      obtain ⟨mqttState, connackTimer, same⟩ :=
        untaken_unchanged now callback arrived (.inl ⟨packetType, untaken⟩)
      simp only [counted, Machine.noting, step, same]
    · rintro ⟨arrived, packetType, none⟩
      have untaken : ¬ core.TakesSuback := by
        intro suback
        have sent := accounted.subacks
        rw [if_pos ⟨suback.2.2.2, expects.2 suback⟩] at sent
        dsimp only at none
        omega
      obtain ⟨mqttState, connackTimer, same⟩ :=
        untaken_unchanged now callback arrived (.inr ⟨packetType, untaken⟩)
      simp only [counted, Machine.noting, step, same, and_self, and_true]
      exact untaken

end Accounted

theorem answersRequests_iff (actions : List MqttAction) :
    Machine.Guarded counted AnswersRequests (boot, .empty) actions ↔
      Machine.Guarded counted ExpectsAnswer (boot, .empty) actions := by
  have start : Accounted boot .empty :=
    ⟨fun _ => rfl, Nat.le_refl _, fun on => absurd on (by decide), by decide⟩
  exact Machine.guarded_iff (fun state : MqttCore × RequestLedger => Accounted state.1 state.2)
    (fun _ action accounted expects => step_settles accounted action expects)
    (fun _ action accounted => answers_iff_expects accounted action) start actions

def onePingresp : List MqttAction :=
  opening 10 ++
  [.timerExpires .pingreq, .timerRuns .pingreq, .transmissionHandler true,
    .getReceivedData [0xD0, 0], .receptionHandler 2 fun _ _ => none, .getReceivedData [0xD0, 0]]

theorem secondPingresp_unanswered :
    ¬ Machine.Guarded counted AnswersRequests (boot, .empty)
      (onePingresp ++ [.receptionHandler 3 fun _ _ => none]) := by
  intro answers
  have last := ((Machine.guarded_append _ _ _ _ _).mp answers).2.1.1
  exact absurd last (by decide +kernel)

end MqttCore

end AvrVoiceControl
