import AvrVoiceControl.SessionAgreement
import AvrVoiceControl.Library.MqttGrammar
import Mathlib.Data.List.Infix

set_option autoImplicit false

namespace AvrVoiceControl

open ByteOrder MqttGrammar TimeoutService

inductive BrokerPacket
  | connack (sessionPresent : Bool) (connackReturnCode : UInt8)
  | suback (packetIdentifierMSB packetIdentifierLSB : UInt8) (returnCodes : List UInt8)
  | pingresp
  | publish (retain : Bool) (topic payload : List UInt8)

namespace BrokerPacket

def controlPacketType : BrokerPacket -> MqttControlPacketType
  | connack .. => .connack
  | suback .. => .suback
  | pingresp => .pingresp
  | publish .. => .publish

def header (packet : BrokerPacket) : UInt8 :=
  match packet with
  | publish retain _ _ => (⟨retain, 0, false, packet.controlPacketType.code⟩ : MqttHeaderFlags).all
  | _ => (⟨false, 0, false, packet.controlPacketType.code⟩ : MqttHeaderFlags).all

def body : BrokerPacket -> List UInt8
  | connack sessionPresent connackReturnCode =>
    [if sessionPresent then 1 else 0, connackReturnCode]
  | suback packetIdentifierMSB packetIdentifierLSB returnCodes =>
    packetIdentifierMSB :: packetIdentifierLSB :: returnCodes
  | pingresp => []
  | publish _ topic payload => bigEndian (UInt16.ofNat topic.length) ++ topic ++ payload

def encode (packet : BrokerPacket) : List UInt8 :=
  packet.header :: encodeRemainingLength packet.body.length ++ packet.body

end BrokerPacket

def streamOf (packets : List BrokerPacket) : List UInt8 := packets.flatMap BrokerPacket.encode

inductive ClientCall
  | createPublishPacket (newPublishPacket : MqttPublishPacket)
  | createSubscribePacket (newSubscribePacket : MqttSubscribePacket)
  | timerExpires (timer : MqttTimer)
  | timerRuns (timer : MqttTimer)

def ClientCall.action : ClientCall -> MqttAction
  | createPublishPacket newPublishPacket => .createPublishPacket newPublishPacket
  | createSubscribePacket newSubscribePacket => .createSubscribePacket newSubscribePacket
  | timerExpires timer => .timerExpires timer
  | timerRuns timer => .timerRuns timer

inductive InboundAction
  | segment (data : List UInt8)
  | poll (now : UInt32) (callback : List UInt8 -> List UInt8 -> Option MqttPublishPacket)
      (sent : Bool)
  | call (call : ClientCall)

structure Processed where
  events : List MqttEvent
  mqttState : MqttCurrentState
  deriving DecidableEq

namespace MqttCore

def mqttClientReceive (core : MqttCore) (data : List UInt8) : MqttCore :=
  -- `recvCallBack(pu8Buffer, s16BufferSize)`: the length parameter has eight bits.
  core.mqttGetReceivedData data data.length

def poll (core : MqttCore) (now : UInt32)
    (callback : List UInt8 -> List UInt8 -> Option MqttPublishPacket) (sent : Bool) :
    MqttCore × List Processed :=
  let (core, events) := core.mqttReceptionHandler now callback
  let processed := if events = [] then [] else [⟨events, core.mqttState⟩]
  ((core.mqttTransmissionHandler sent).1, processed)

def inboundStep (core : MqttCore) : InboundAction -> MqttCore × List Processed
  | .segment data => (core.mqttClientReceive data, [])
  | .poll now callback sent => core.poll now callback sent
  | .call call => ((core.step call.action).1, [])

def store (core : MqttCore) (bytes : List UInt8) : MqttCore :=
  { core with rxbuff := core.rxbuff.init.write bytes }

def Awaits (core : MqttCore) : BrokerPacket -> Prop
  | .connack .. => core.mqttState = .waitForConnack ∧ core.connackTimeoutOccured = false
  | .suback .. => core.mqttState = .connected ∧ core.mqttRxFlags.newRxSubackPacket = true
  | .pingresp =>
    core.mqttState = .connected ∧ core.mqttRxFlags.newRxPingrespPacket = true ∧
      core.pingrespTimeoutOccured = false
  | .publish .. => core.mqttState = .connected

def NothingToSend (core : MqttCore) : Prop :=
  core.mqttTxFlags.newTxConnectPacket = false ∧ core.mqttTxFlags.newTxPublishPacket = false ∧
    core.mqttTxFlags.newTxSubscribePacket = false ∧ core.pingreqTimeoutOccured = false

end MqttCore

/-- The client to which each packet comes alone: the packets still to come, and how many of their
bytes have arrived. -/
structure AloneClient where
  core : MqttCore
  packets : List BrokerPacket
  arrived : Nat

namespace AloneClient

def due (client : AloneClient) : Option BrokerPacket :=
  client.packets.head?.filter fun packet => packet.encode.length ≤ client.arrived

def step (client : AloneClient) : InboundAction -> AloneClient × List Processed
  | .segment data => ({ client with arrived := client.arrived + data.length }, [])
  | .poll now callback sent =>
    match client.due with
    | some packet =>
      let (core, processed) := (client.core.store packet.encode).poll now callback sent
      ({ core
         packets := client.packets.tail
         arrived := client.arrived - packet.encode.length }, processed)
    | none =>
      let (core, processed) := client.core.poll now callback sent
      ({ client with core }, processed)
  | .call call => ({ client with core := (client.core.step call.action).1 }, [])

def Legal (client : AloneClient) : InboundAction -> Prop
  | .poll .. => ∀ packet ∈ client.due, client.core.Awaits packet
  | _ => True

end AloneClient

def segmentsOf (schedule : List InboundAction) : List (List UInt8) :=
  schedule.filterMap fun
    | .segment data => some data
    | _ => none

/-- The callbacks cut the byte string of the packets, every packet is legal where it is polled, and
every byte is polled in the end. -/
structure Deliverable (core : MqttCore) (packets : List BrokerPacket)
    (schedule : List InboundAction) : Prop where
  cut : (segmentsOf schedule).flatten = streamOf packets
  sizes : ∀ data ∈ segmentsOf schedule, 1 ≤ data.length ∧ data.length ≤ rxBuffSize
  fits : ∀ packet ∈ packets, packet.encode.length ≤ rxBuffSize
  legal : Machine.Guarded AloneClient.step AloneClient.Legal ⟨core, packets, 0⟩ schedule
  polled : (Machine.run AloneClient.step ⟨core, packets, 0⟩ schedule).1.packets = []

def MqttEvent.packetType? : MqttEvent -> Option (Fin 16)
  | .processed packetType => some packetType
  | _ => none

def typesOf (processed : Processed) : List (Fin 16) :=
  processed.events.filterMap MqttEvent.packetType?

/-- The client processes what the client with lone packets does, each packet once and in order. -/
def SegmentationFree (core : MqttCore) (packets : List BrokerPacket)
    (schedule : List InboundAction) : Prop :=
  (Machine.run MqttCore.inboundStep core schedule).2 =
      (Machine.run AloneClient.step ⟨core, packets, 0⟩ schedule).2 ∧
    (Machine.run MqttCore.inboundStep core schedule).2.flatMap typesOf =
      packets.map fun packet => packet.controlPacketType.code

/-- A callback brings whole packets, at most 255 bytes of them, into an empty receive buffer; a
poll meets more than one packet there only if the first is an awaited CONNACK and nothing is to be
sent. -/
def Unbroken (states : MqttCore × AloneClient) : InboundAction -> Prop
  | .segment data =>
    states.1.rxbuff.contents = [] ∧ data.length ≤ 255 ∧
      ∃ whole ∈ states.2.packets.inits, data = streamOf whole
  | .poll .. =>
    ∀ packet ∈ states.2.due,
      packet.encode.length < states.1.rxbuff.contents.length ->
        states.1.mqttState = .waitForConnack ∧ states.1.NothingToSend
  | .call _ => True

theorem ofAll_all (flags : MqttHeaderFlags) : MqttHeaderFlags.ofAll flags.all = flags := by
  obtain ⟨retain, qos, duplicate, controlPacketType⟩ := flags
  revert retain qos duplicate controlPacketType
  decide +kernel

namespace BrokerPacket

theorem encode_length_pos (packet : BrokerPacket) : 0 < packet.encode.length := by
  simp [encode]

theorem encode_connack (sessionPresent : Bool) (connackReturnCode : UInt8) :
    (connack sessionPresent connackReturnCode).encode =
      [0x20, 2, if sessionPresent then 1 else 0, connackReturnCode] := by
  simp [encode, body, header, controlPacketType, encodeRemainingLength_small,
    MqttControlPacketType.code, MqttHeaderFlags.all]

theorem header_type (packet : BrokerPacket) :
    (MqttHeaderFlags.ofAll packet.header).controlPacketType = packet.controlPacketType.code := by
  cases packet <;> simp only [header, ofAll_all]

end BrokerPacket

namespace MqttCore

theorem SameSession.withInput {left right : MqttCore} (same : SameSession left right)
    {leftBuffer rightBuffer : Ring rxBuffSize}
    (input : leftBuffer.contents = rightBuffer.contents) :
    SameSession { left with rxbuff := leftBuffer } { right with rxbuff := rightBuffer } where
  elsewhere :=
    congrArg (fun client : MqttCore => { client with rxbuff := leftBuffer }) same.elsewhere
  input := input
  publishPacket := same.publishPacket
  subscribePacket := same.subscribePacket

theorem contents_store (core : MqttCore) {bytes : List UInt8} (fits : bytes.length ≤ rxBuffSize) :
    (core.store bytes).rxbuff.contents = bytes := by
  simp [store, BoundedQueue.push, List.take_of_length_le fits]

theorem poll_agrees {left right : MqttCore} (same : SameSession left right) (now : UInt32)
    (callback : List UInt8 -> List UInt8 -> Option MqttPublishPacket) (sent : Bool) :
    SameSession (left.poll now callback sent).1 (right.poll now callback sent).1 ∧
      (left.poll now callback sent).2 = (right.poll now callback sent).2 := by
  obtain ⟨received, events⟩ := step_agree same (.receptionHandler now callback)
  obtain ⟨next, -⟩ := step_agree received (.transmissionHandler sent)
  refine ⟨next, ?_⟩
  have state := received.states.1
  simp only [step] at events state
  simp only [poll, events, state]

theorem segment_stored (core : MqttCore) {data : List UInt8} (short : data.length ≤ 255) :
    (core.mqttClientReceive data).rxbuff.contents = data := by
  have count : (UInt8.ofNat data.length).toNat = data.length :=
    Nat.mod_eq_of_lt (by omega)
  have fits : data.length ≤ rxBuffSize := Nat.le_trans short (by decide)
  simp [mqttClientReceive, mqttGetReceivedData, BoundedQueue.push, count,
    List.take_of_length_le fits]

theorem transmits_keeps_empty {core : MqttCore} {sent : Bool}
    {result : MqttCore × List MqttEvent} (transmits : Transmits core sent result)
    (empty : core.rxbuff.contents = []) : result.1.rxbuff.contents = [] := by
  cases transmits with
  | quiet => exact empty
  | _ => exact Ring.contents_init _

theorem poll_empties {core : MqttCore} {now : UInt32}
    {callback : List UInt8 -> List UInt8 -> Option MqttPublishPacket}
    (empty : (core.mqttReceptionHandler now callback).1.rxbuff.contents = []) (sent : Bool) :
    (core.poll now callback sent).1.rxbuff.contents = [] :=
  transmits_keeps_empty (transmissionHandler_transmits _ sent) empty

theorem reception_nothing {core : MqttCore} (empty : core.rxbuff.contents = []) (now : UInt32)
    (callback : List UInt8 -> List UInt8 -> Option MqttPublishPacket) :
    core.mqttReceptionHandler now callback = (core, []) := by
  have length : core.rxbuff.dataLength = 0 := by rw [← Ring.contents_length, empty]; rfl
  rw [mqttReceptionHandler, if_pos length]

theorem receivedPacketType_of_stored {core : MqttCore} {packet : BrokerPacket} {rest : List UInt8}
    (stored : core.rxbuff.contents = packet.encode ++ rest) :
    core.receivedPacketType = packet.controlPacketType.code ∧ core.rxbuff.dataLength ≠ 0 := by
  constructor
  · rw [receivedPacketType, Ring.peekByte_eq, stored, ← packet.header_type]
    rfl
  · rw [← Ring.contents_length, stored]
    simp [BrokerPacket.encode]

theorem reception_connack {core : MqttCore} {sessionPresent : Bool} {connackReturnCode : UInt8}
    {rest : List UInt8}
    (stored : core.rxbuff.contents =
      (BrokerPacket.connack sessionPresent connackReturnCode).encode ++ rest)
    (awaits : core.Awaits (.connack sessionPresent connackReturnCode)) (now : UInt32)
    (callback : List UInt8 -> List UInt8 -> Option MqttPublishPacket) :
    ∃ rxbuff, rxbuff.contents = rest ∧
      core.mqttReceptionHandler now callback =
        if connackReturnCode = 0 then
          ({ core with
              connackTimer := .idle
              rxbuff := rxbuff
              mqttState := .connected
              connectTime := now
              mqttTxFlags :=
                if core.keepAliveTimeout ≠ 0 then
                  { core.mqttTxFlags with newTxPingreqPacket := true }
                else core.mqttTxFlags
              pingreqTimer :=
                if core.keepAliveTimeout ≠ 0 then .pending (pingreqPeriod core.keepAliveTimeout)
                else core.pingreqTimer },
            [.processed MqttControlPacketType.connack.code, .accepted])
        else
          ({ core with
              connackTimer := .idle
              rxbuff := rxbuff
              mqttState := .disconnected },
            [.processed MqttControlPacketType.connack.code]) := by
  obtain ⟨packetType, arrived⟩ := receivedPacketType_of_stored stored
  obtain ⟨waiting, inTime⟩ := awaits
  have connack : core.receivedPacketType = MqttControlPacketType.connack.code := packetType
  rw [BrokerPacket.encode_connack] at stored
  refine ⟨(readByte (readByte (readByte (readByte core.rxbuff 0).2 0).2 0).2 0).2,
    by simp [stored], ?_⟩
  have late : ¬ core.connackTimeoutOccured = true := by simp [inTime]
  simp only [mqttReceptionHandler, if_neg arrived, waiting, if_neg late, connack,
    mqttProcessConnack, readByte_byte, contents_readByte, stored, List.cons_append,
    List.drop_succ_cons, List.drop_zero, List.headD_cons, if_true, decide_eq_true_eq]
  split
  · by_cases kept : core.keepAliveTimeout = 0
    · simp [keepAliveTimeout] at kept
      simp [keepAliveTimeout, kept]
    · simp [keepAliveTimeout] at kept
      simp [keepAliveTimeout, kept]
  · rfl

theorem delivery_no_type {events : List MqttEvent} (delivery : Delivery events) :
    events.filterMap MqttEvent.packetType? = [] := by
  rw [List.filterMap_eq_nil_iff]
  intro event member
  rcases delivery event member with rfl | ⟨topic, payload, rfl⟩
  · rfl
  · rfl

theorem reception_takes {core : MqttCore} {packet : BrokerPacket}
    (stored : core.rxbuff.contents = packet.encode) (awaits : core.Awaits packet) (now : UInt32)
    (callback : List UInt8 -> List UInt8 -> Option MqttPublishPacket) :
    (core.mqttReceptionHandler now callback).1.rxbuff.contents = [] ∧
      (core.mqttReceptionHandler now callback).2.filterMap MqttEvent.packetType? =
        [packet.controlPacketType.code] := by
  have whole : core.rxbuff.contents = packet.encode ++ [] := by simp [stored]
  -- Whichever type is awaited, its handler empties the buffer.
  obtain ⟨packetType, arrived⟩ := receivedPacketType_of_stored whole
  cases packet with
  | connack sessionPresent connackReturnCode =>
    obtain ⟨rxbuff, empty, result⟩ := reception_connack whole awaits now callback
    rw [result]
    split
    · exact ⟨empty, rfl⟩
    · exact ⟨empty, rfl⟩
  | suback packetIdentifierMSB packetIdentifierLSB returnCodes =>
    obtain ⟨on, expected⟩ := awaits
    have differ : MqttControlPacketType.suback.code ≠ MqttControlPacketType.pingresp.code := by
      decide
    have suback : core.receivedPacketType = MqttControlPacketType.suback.code := packetType
    obtain ⟨verdict, rxbuff, -, empty, left⟩ := core.mqttProcessSuback_cases
    simp only [mqttReceptionHandler, if_neg arrived, on, suback, if_neg differ, expected, if_true]
    rw [left]
    exact ⟨empty, rfl⟩
  | pingresp =>
    obtain ⟨on, expected, inTime⟩ := awaits
    have pingresp : core.receivedPacketType = MqttControlPacketType.pingresp.code := packetType
    simp only [mqttReceptionHandler, if_neg arrived, on, pingresp, expected, inTime, and_self,
      if_true]
    exact ⟨Ring.contents_init _, rfl⟩
  | publish retain topic payload =>
    have on : core.mqttState = .connected := awaits
    have publish : core.receivedPacketType = MqttControlPacketType.publish.code := packetType
    have noPingresp : MqttControlPacketType.publish.code ≠ MqttControlPacketType.pingresp.code := by
      decide
    have noSuback : MqttControlPacketType.publish.code ≠ MqttControlPacketType.suback.code := by
      decide
    obtain ⟨rxbuff, events, empty, delivery, quiet | ⟨newPublishPacket, answered⟩⟩ :=
      core.mqttProcessPublish_cases on callback
    · simp only [mqttReceptionHandler, if_neg arrived, on, publish, if_neg noPingresp,
        if_neg noSuback, if_true, quiet]
      exact ⟨empty, by simp [MqttEvent.packetType?, delivery_no_type delivery,
        BrokerPacket.controlPacketType]⟩
    · simp only [mqttReceptionHandler, if_neg arrived, on, publish, if_neg noPingresp,
        if_neg noSuback, if_true, answered]
      exact ⟨empty, by simp [MqttEvent.packetType?, delivery_no_type delivery,
        BrokerPacket.controlPacketType]⟩

end MqttCore

section Decidable

instance (core : MqttCore) (packet : BrokerPacket) : Decidable (core.Awaits packet) := by
  cases packet <;> unfold MqttCore.Awaits <;> infer_instance

instance (core : MqttCore) : Decidable core.NothingToSend := by
  unfold MqttCore.NothingToSend
  infer_instance

instance (client : AloneClient) (action : InboundAction) : Decidable (client.Legal action) := by
  cases action <;> unfold AloneClient.Legal <;> infer_instance

instance (states : MqttCore × AloneClient) (action : InboundAction) :
    Decidable (Unbroken states action) := by
  cases action <;> unfold Unbroken <;> infer_instance

end Decidable

namespace AloneClient

theorem due_eq_some {client : AloneClient} {packet : BrokerPacket} (due : client.due = some packet) :
    client.packets = packet :: client.packets.tail ∧ packet.encode.length ≤ client.arrived := by
  unfold AloneClient.due at due
  cases packets : client.packets with
  | nil => simp [packets] at due
  | cons next rest =>
    simp only [packets, List.head?_cons, Option.filter_eq_some_iff, Option.some.injEq,
      decide_eq_true_eq] at due
    obtain ⟨rfl, arrived⟩ := due
    exact ⟨rfl, arrived⟩

theorem due_cons {client : AloneClient} {packet : BrokerPacket} {rest : List BrokerPacket}
    (packets : client.packets = packet :: rest) (arrived : packet.encode.length ≤ client.arrived) :
    client.due = some packet := by
  simp [due, packets, arrived]

theorem call_keeps_input (core : MqttCore) (call : ClientCall) :
    (core.step call.action).1.rxbuff = core.rxbuff := by
  cases call with
  | createPublishPacket newPublishPacket =>
    simp only [ClientCall.action, MqttCore.step, MqttCore.mqttCreatePublishPacket]
    split <;> rfl
  | createSubscribePacket newSubscribePacket =>
    simp only [ClientCall.action, MqttCore.step, MqttCore.mqttCreateSubscribePacket]
    split <;> rfl
  | timerExpires timer => cases timer <;> rfl
  | timerRuns timer =>
    rcases core.timerRuns_cases timer with stays | ⟨timeout, -, ran⟩
    · simp only [ClientCall.action, MqttCore.step, stays]
    · simp only [ClientCall.action, MqttCore.step, ran]
      cases timer <;> rfl

theorem step_store (core : MqttCore) (bytes : List UInt8) (call : ClientCall) :
    ((core.store bytes).step call.action).1 = (core.step call.action).1.store bytes := by
  cases call with
  | createPublishPacket newPublishPacket =>
    by_cases on : core.mqttState = .connected <;>
      simp [ClientCall.action, MqttCore.step, MqttCore.mqttCreatePublishPacket, MqttCore.store, on]
  | createSubscribePacket newSubscribePacket =>
    by_cases on : core.mqttState = .connected <;>
      simp [ClientCall.action, MqttCore.step, MqttCore.mqttCreateSubscribePacket, MqttCore.store,
        on]
  | timerExpires timer => cases timer <;> rfl
  | timerRuns timer =>
    have status : (core.store bytes).timer timer = core.timer timer := by cases timer <;> rfl
    simp only [ClientCall.action, MqttCore.step, MqttCore.timerRuns, status]
    cases core.timer timer with
    | expired timeout => cases timer <;> rfl
    | _ => rfl

theorem poll_types {core : MqttCore} {now : UInt32}
    {callback : List UInt8 -> List UInt8 -> Option MqttPublishPacket} (sent : Bool)
    {types : List (Fin 16)}
    (received : (core.mqttReceptionHandler now callback).2.filterMap MqttEvent.packetType? =
      types) : (core.poll now callback sent).2.flatMap typesOf = types := by
  simp only [MqttCore.poll]
  split
  case isTrue quiet => simpa [quiet] using received
  case isFalse => simpa [typesOf] using received

structure Accounted (packets : List BrokerPacket) (trace : List Processed)
    (client : AloneClient) : Prop where
  empty : client.core.rxbuff.contents = []
  fits : ∀ packet ∈ client.packets, packet.encode.length ≤ rxBuffSize
  types : trace.flatMap typesOf ++ client.packets.map (·.controlPacketType.code) =
    packets.map (·.controlPacketType.code)

theorem step_accounted {packets : List BrokerPacket} {trace : List Processed}
    {client : AloneClient} (holds : Accounted packets trace client) {action : InboundAction}
    (legal : client.Legal action) :
    Accounted packets (trace ++ (client.step action).2) (client.step action).1 := by
  cases action with
  | segment data => exact ⟨holds.empty, holds.fits, by simpa [step] using holds.types⟩
  | call call =>
    refine ⟨?_, holds.fits, by simpa [step] using holds.types⟩
    simp only [step, call_keeps_input]
    exact holds.empty
  | poll now callback sent =>
    simp only [step]
    split
    case h_1 packet due =>
      obtain ⟨next, -⟩ := due_eq_some due
      have fits : packet.encode.length ≤ rxBuffSize := by
        apply holds.fits packet
        rw [next]
        exact List.mem_cons_self
      obtain ⟨taken, types⟩ := MqttCore.reception_takes
        (client.core.contents_store fits) (legal packet due) now callback
      refine ⟨MqttCore.poll_empties taken sent, fun later member => ?_, ?_⟩
      · exact holds.fits later (List.mem_of_mem_tail member)
      · rw [← holds.types, List.flatMap_append, poll_types sent types, List.append_assoc]
        conv_rhs => rw [next]
        simp
    case h_2 none =>
      have quiet := MqttCore.reception_nothing holds.empty now callback
      refine ⟨MqttCore.poll_empties (by rw [quiet]; exact holds.empty) sent, holds.fits, ?_⟩
      have types : (client.core.poll now callback sent).2.flatMap typesOf = [] :=
        poll_types sent (by rw [quiet]; rfl)
      rw [List.flatMap_append, types]
      simpa using holds.types

theorem run_accounted {core : MqttCore} (empty : core.rxbuff.contents = [])
    {packets : List BrokerPacket} (fits : ∀ packet ∈ packets, packet.encode.length ≤ rxBuffSize)
    {schedule : List InboundAction}
    (legal : Machine.Guarded step Legal ⟨core, packets, 0⟩ schedule) :
    Accounted packets (Machine.run step ⟨core, packets, 0⟩ schedule).2
      (Machine.run step ⟨core, packets, 0⟩ schedule).1 :=
  Machine.run_invariant (Accounted packets)
    (fun _ _ _ holds guard => step_accounted holds guard) ⟨empty, fits, rfl⟩ legal

end AloneClient

open MqttCore AloneClient

theorem transmits_nothing {core : MqttCore} {sent : Bool} {result : MqttCore × List MqttEvent}
    (transmits : Transmits core sent result) (nothing : core.NothingToSend) :
    result.1 = core := by
  obtain ⟨noConnect, noPublish, noSubscribe, notDue⟩ := nothing
  cases transmits with
  | quiet => rfl
  | connectSent off pending => simp [noConnect] at pending
  | connectFailed off pending => simp [noConnect] at pending
  | publishSent on pending => simp [noPublish] at pending
  | publishFailed on pending => simp [noPublish] at pending
  | subscribeSent on pending => simp [noSubscribe] at pending
  | subscribeFailed on pending => simp [noSubscribe] at pending
  | pingreqSent on pending due => simp [notDue] at due
  | pingreqFailed on pending due => simp [notDue] at due

theorem transmission_nothing {core : MqttCore} (nothing : core.NothingToSend) (sent : Bool) :
    (core.mqttTransmissionHandler sent).1 = core :=
  transmits_nothing (core.transmissionHandler_transmits sent) nothing

theorem poll_ahead {core : MqttCore} {sessionPresent : Bool} {connackReturnCode : UInt8}
    {rest : List UInt8}
    (stored : core.rxbuff.contents =
      (BrokerPacket.connack sessionPresent connackReturnCode).encode ++ rest)
    (awaits : core.Awaits (.connack sessionPresent connackReturnCode))
    (nothing : core.NothingToSend) {alone : Ring rxBuffSize}
    (aloneStored : alone.contents =
      (BrokerPacket.connack sessionPresent connackReturnCode).encode) (now : UInt32)
    (callback : List UInt8 -> List UInt8 -> Option MqttPublishPacket) (sent : Bool) :
    ∃ rxbuff, rxbuff.contents = rest ∧
      core.poll now callback sent =
        ({ ({ core with rxbuff := alone }.poll now callback sent).1 with rxbuff := rxbuff },
          ({ core with rxbuff := alone }.poll now callback sent).2) := by
  obtain ⟨rxbuff, left, result⟩ := reception_connack stored awaits now callback
  have whole : ({ core with rxbuff := alone } : MqttCore).rxbuff.contents =
      (BrokerPacket.connack sessionPresent connackReturnCode).encode ++ [] := by
    simp [aloneStored]
  obtain ⟨aloneBuffer, -, aloneResult⟩ := reception_connack whole awaits now callback
  refine ⟨rxbuff, left, ?_⟩
  obtain ⟨noConnect, noPublish, noSubscribe, notDue⟩ := nothing
  -- The CONNACK only sets the flag of a PINGREQ that is not due yet.
  have still : (core.mqttReceptionHandler now callback).1.NothingToSend := by
    rw [result]
    split
    · by_cases kept : core.keepAliveTimeout ≠ 0 <;>
        simp [NothingToSend, kept, noConnect, noPublish, noSubscribe, notDue]
    · exact ⟨noConnect, noPublish, noSubscribe, notDue⟩
  have aloneStill :
      ({ core with rxbuff := alone }.mqttReceptionHandler now callback).1.NothingToSend := by
    rw [aloneResult]
    rw [result] at still
    split
    case isTrue accepted =>
      rw [if_pos accepted] at still
      exact still
    case isFalse => exact ⟨noConnect, noPublish, noSubscribe, notDue⟩
  simp only [poll]
  rw [transmission_nothing still, transmission_nothing aloneStill, result, aloneResult]
  split <;> rfl

/-- The client holds the packets that have arrived but were not polled yet. -/
def Mirrors (core : MqttCore) (client : AloneClient) : Prop :=
  ∃ stored later,
    client.packets = stored ++ later ∧ client.arrived = (streamOf stored).length ∧
      (streamOf stored).length ≤ 255 ∧ client.core.rxbuff.contents = [] ∧
      SameSession core (client.core.store (streamOf stored))

theorem streamOf_cons (packet : BrokerPacket) (rest : List BrokerPacket) :
    streamOf (packet :: rest) = packet.encode ++ streamOf rest := rfl

theorem stored_contents {core : MqttCore} {client : AloneClient} {bytes : List UInt8}
    (same : SameSession core (client.core.store bytes)) (short : bytes.length ≤ 255) :
    core.rxbuff.contents = bytes :=
  same.input.trans (client.core.contents_store (Nat.le_trans short (by decide)))

theorem segment_mirrors {core : MqttCore} {client : AloneClient} (mirrors : Mirrors core client)
    {data : List UInt8} (unbroken : Unbroken (core, client) (.segment data)) :
    Mirrors (core.mqttClientReceive data)
      { client with arrived := client.arrived + data.length } := by
  obtain ⟨stored, later, packets, arrived, short, empty, same⟩ := mirrors
  obtain ⟨taken, fits, arriving, first, whole⟩ := unbroken
  obtain ⟨behind, split⟩ := (List.mem_inits _ _).mp first
  have nothing : streamOf stored = [] := by
    rw [← stored_contents same short]
    exact taken
  rw [nothing] at same arrived
  refine ⟨arriving, behind, split.symm, by simp [arrived, ← whole], by rw [← whole]; exact fits,
    empty, ?_⟩
  rw [← whole]
  have input : (core.mqttClientReceive data).rxbuff.contents =
      (client.core.store data).rxbuff.contents := by
    rw [core.segment_stored fits, client.core.contents_store (Nat.le_trans fits (by decide))]
  exact same.withInput input

theorem call_mirrors {core : MqttCore} {client : AloneClient} (mirrors : Mirrors core client)
    (call : ClientCall) :
    Mirrors (core.step call.action).1
      { client with core := (client.core.step call.action).1 } := by
  obtain ⟨stored, later, packets, arrived, short, empty, same⟩ := mirrors
  refine ⟨stored, later, packets, arrived, short, by rw [call_keeps_input]; exact empty, ?_⟩
  rw [← step_store]
  exact (step_agree same call.action).1

theorem sameSession_emptied {core other : MqttCore} (same : SameSession core other)
    (empty : other.rxbuff.contents = []) : SameSession core (other.store []) :=
  same.withInput (same.input.trans (empty.trans (other.contents_store (Nat.zero_le _)).symm))

section Polls

variable {core : MqttCore} {client : AloneClient} {now : UInt32} {sent : Bool}
  {callback : List UInt8 -> List UInt8 -> Option MqttPublishPacket}

def PollMirrors (core : MqttCore) (client : AloneClient) (now : UInt32)
    (callback : List UInt8 -> List UInt8 -> Option MqttPublishPacket) (sent : Bool) : Prop :=
  Mirrors (core.poll now callback sent).1 (client.step (.poll now callback sent)).1 ∧
    (core.poll now callback sent).2 = (client.step (.poll now callback sent)).2

theorem idle_poll_mirrors (arrived : client.arrived = 0)
    (empty : client.core.rxbuff.contents = []) (same : SameSession core client.core) :
    PollMirrors core client now callback sent := by
  have notDue : client.due = none := by
    cases due : client.due with
    | none => rfl
    | some packet =>
      have there := (due_eq_some due).2
      have bytes := packet.encode_length_pos
      omega
  have still : (client.core.poll now callback sent).1.rxbuff.contents = [] :=
    poll_empties (by rw [reception_nothing empty]; exact empty) sent
  obtain ⟨next, processed⟩ := poll_agrees same now callback sent
  simp only [PollMirrors, AloneClient.step, notDue]
  exact ⟨⟨[], client.packets, rfl, arrived, Nat.zero_le _, still, sameSession_emptied next still⟩,
    processed⟩

theorem due_poll {packet : BrokerPacket} {more later : List BrokerPacket}
    (packets : client.packets = packet :: more ++ later)
    (arrived : client.arrived = (streamOf (packet :: more)).length) :
    client.due = some packet ∧
      client.step (.poll now callback sent) =
        ({ core := ((client.core.store packet.encode).poll now callback sent).1
           packets := more ++ later
           arrived := (streamOf more).length },
          ((client.core.store packet.encode).poll now callback sent).2) := by
  have whole : packet.encode.length ≤ client.arrived := by
    simp [arrived, streamOf_cons]
  have due : client.due = some packet := due_cons packets whole
  have left : client.arrived - packet.encode.length = (streamOf more).length := by
    simp [arrived, streamOf_cons]
  have remaining : client.packets.tail = more ++ later := by simp [packets]
  exact ⟨due, by simp only [AloneClient.step, due, left, remaining]⟩

theorem lone_poll_mirrors {packet : BrokerPacket} {later : List BrokerPacket}
    (packets : client.packets = packet :: later)
    (arrived : client.arrived = packet.encode.length) (fits : packet.encode.length ≤ rxBuffSize)
    (awaits : client.core.Awaits packet)
    (same : SameSession core (client.core.store packet.encode)) :
    PollMirrors core client now callback sent := by
  have taken : ((client.core.store packet.encode).poll now callback sent).1.rxbuff.contents = [] :=
    poll_empties (reception_takes (contents_store _ fits) awaits now callback).1 sent
  obtain ⟨next, processed⟩ := poll_agrees same now callback sent
  have alone : streamOf [packet] = packet.encode := by simp [streamOf]
  rw [PollMirrors, (@due_poll client now sent callback packet [] later packets
    (by rw [alone, arrived])).2]
  exact ⟨⟨[], later, rfl, rfl, Nat.zero_le _, taken, sameSession_emptied next taken⟩, processed⟩

theorem ahead_poll_mirrors {sessionPresent : Bool} {connackReturnCode : UInt8}
    {more later : List BrokerPacket} {packet : BrokerPacket}
    (connack : packet = .connack sessionPresent connackReturnCode)
    (packets : client.packets = packet :: more ++ later)
    (arrived : client.arrived = (streamOf (packet :: more)).length)
    (short : (streamOf (packet :: more)).length ≤ 255) (awaits : client.core.Awaits packet)
    (same : SameSession core (client.core.store (streamOf (packet :: more))))
    (nothing : core.NothingToSend) : PollMirrors core client now callback sent := by
  obtain rfl := connack
  have room : (255 : Nat) ≤ rxBuffSize := by decide
  have shorter : (streamOf more).length ≤ 255 := Nat.le_trans (by simp [streamOf_cons]) short
  have fits : (BrokerPacket.connack sessionPresent connackReturnCode).encode.length ≤ rxBuffSize :=
    Nat.le_trans (Nat.le_trans (by simp [streamOf_cons]) short) room
  have taken := poll_empties (reception_takes (client.core.contents_store fits) awaits now callback).1
    sent
  obtain ⟨state, late⟩ := same.states
  have alone : SameSession
      { core with
        rxbuff := (client.core.store
          (BrokerPacket.connack sessionPresent connackReturnCode).encode).rxbuff }
      (client.core.store (BrokerPacket.connack sessionPresent connackReturnCode).encode) :=
    same.withInput rfl
  obtain ⟨rxbuff, ahead, polled⟩ := poll_ahead (stored_contents same short)
    ⟨state.trans awaits.1, late.trans awaits.2⟩ nothing (client.core.contents_store fits) now callback
    sent
  obtain ⟨next, processed⟩ := poll_agrees alone now callback sent
  rw [PollMirrors, (due_poll packets arrived).2, polled]
  refine ⟨⟨more, later, rfl, rfl, shorter, taken, ?_⟩, processed⟩
  exact next.withInput (ahead.trans (contents_store _ (Nat.le_trans shorter room)).symm)

end Polls

theorem poll_mirrors {core : MqttCore} {client : AloneClient} (mirrors : Mirrors core client)
    {now : UInt32} {callback : List UInt8 -> List UInt8 -> Option MqttPublishPacket} {sent : Bool}
    (legal : client.Legal (.poll now callback sent))
    (unbroken : Unbroken (core, client) (.poll now callback sent)) :
    PollMirrors core client now callback sent := by
  obtain ⟨stored, later, packets, arrived, short, empty, same⟩ := mirrors
  have contents := stored_contents same short
  cases stored with
  | nil => exact idle_poll_mirrors arrived empty (same.withInput (contents.trans empty.symm))
  | cons packet more =>
    have due := (@due_poll client now sent callback packet more later packets arrived).1
    have awaits : client.core.Awaits packet := legal packet due
    cases more with
    | nil =>
      rw [show streamOf [packet] = packet.encode by simp [streamOf]] at arrived short same
      exact lone_poll_mirrors packets arrived (Nat.le_trans short (by decide)) awaits same
    | cons following rest =>
      have behind : packet.encode.length < core.rxbuff.contents.length := by
        have bytes := following.encode_length_pos
        simp only [contents, streamOf_cons, List.length_append]
        omega
      obtain ⟨waiting, nothing⟩ := unbroken packet due behind
      have off : client.core.mqttState ≠ .connected := by
        intro on
        have still : core.mqttState = .connected := same.states.1.trans on
        simp [still] at waiting
      -- In WAITFORCONNACK only a CONNACK is awaited.
      cases packet with
      | connack => exact ahead_poll_mirrors rfl packets arrived short awaits same nothing
      | suback => exact absurd awaits.1 off
      | pingresp => exact absurd awaits.1 off
      | publish => exact absurd awaits off

theorem step_mirrors {core : MqttCore} {client : AloneClient} {action : InboundAction}
    (mirrors : Mirrors core client)
    (guard : client.Legal action ∧ Unbroken (core, client) action) :
    Mirrors (core.inboundStep action).1 (client.step action).1 ∧
      (core.inboundStep action).2 = (client.step action).2 := by
  cases action with
  | segment data => exact ⟨segment_mirrors mirrors guard.2, rfl⟩
  | call call => exact ⟨call_mirrors mirrors call, rfl⟩
  | poll now callback sent => exact poll_mirrors mirrors guard.1 guard.2

theorem unbroken_segmentationFree (core : MqttCore) (packets : List BrokerPacket)
    (schedule : List InboundAction) (empty : core.rxbuff.contents = [])
    (deliverable : Deliverable core packets schedule)
    (unbroken : Machine.Guarded (Machine.pair inboundStep AloneClient.step) Unbroken
      (core, ⟨core, packets, 0⟩) schedule) : SegmentationFree core packets schedule := by
  have start : Mirrors core ⟨core, packets, 0⟩ := by
    refine ⟨[], packets, rfl, rfl, Nat.zero_le _, empty, rfl, ?_, fun _ => rfl, fun _ => rfl⟩
    exact empty.trans (contents_store core (Nat.zero_le _)).symm
  have legal : Machine.Guarded (Machine.pair inboundStep AloneClient.step)
      (fun states => states.2.Legal) (core, ⟨core, packets, 0⟩) schedule :=
    Machine.guarded_pair_right deliverable.legal
  have same := (Machine.pair_agrees (fun _ _ _ => step_mirrors) start
    (legal.and unbroken)).2
  refine ⟨same, ?_⟩
  have accounted := run_accounted empty deliverable.fits deliverable.legal
  have types := accounted.types
  rw [deliverable.polled] at types
  rw [same]
  simpa using types

def oneTopic : PublishReceptionHandler × PublishReceptionHandler := (some [99, 47, 116, 0], none)

def quietPoll (now : UInt32) : InboundAction := .poll now (fun _ _ => none) true

def awaitingConnack : MqttCore :=
  (Machine.run MqttCore.step boot
    (.setPublishReceptionHandlerTable (some oneTopic) :: (opening 10).take 2)).1

theorem unbroken_segmentationFree_connack :
    SegmentationFree awaitingConnack
      [.connack false 0, .publish false [99, 47, 116] [111, 110],
        .publish false [99, 47, 116] [111]]
      [.segment [0x20, 2, 0, 0, 0x30, 7, 0, 3, 99, 47, 116, 111, 110], quietPoll 1, quietPoll 2,
        quietPoll 3, .segment [0x30, 6, 0, 3, 99, 47, 116, 111], quietPoll 4] :=
  -- The CONNACK and a PUBLISH in one segment, the next PUBLISH in one of its own.
  unbroken_segmentationFree _ _ _ (by decide +kernel)
    ⟨by decide +kernel, by decide +kernel, by decide +kernel, by decide +kernel,
      by decide +kernel⟩ (by decide +kernel)

def awaitingSuback : MqttCore :=
  (Machine.run MqttCore.step boot
    (.setPublishReceptionHandlerTable (some oneTopic) :: opening 10 ++
      [.createSubscribePacket .zero, .transmissionHandler true])).1

theorem publish_lost :
    Deliverable awaitingSuback [.suback 0 0 [0], .publish false [99, 47, 116] [111, 110]]
        [.segment [0x90, 3, 0, 0, 0, 0x30, 7, 0, 3, 99, 47, 116, 111, 110], quietPoll 1,
          quietPoll 2] ∧
      ¬ SegmentationFree awaitingSuback
        [.suback 0 0 [0], .publish false [99, 47, 116] [111, 110]]
        [.segment [0x90, 3, 0, 0, 0, 0x30, 7, 0, 3, 99, 47, 116, 111, 110], quietPoll 1,
          quietPoll 2] := by
  refine ⟨⟨by decide +kernel, by decide +kernel, by decide +kernel, by decide +kernel,
    by decide +kernel⟩, ?_⟩
  rintro ⟨-, types⟩
  exact absurd types (by decide +kernel)

end AvrVoiceControl
