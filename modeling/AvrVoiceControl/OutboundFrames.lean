import AvrVoiceControl.PacketCodec

set_option autoImplicit false

namespace AvrVoiceControl

open ByteOrder MqttGrammar

/-- The bytes are one packet and nothing else, and the packet carries what was asked for. -/
def CompleteFrame (carriedBy : Packet -> Prop) (frame : List UInt8) : Prop :=
  ∃ packet, parsePacket frame = some (packet, []) ∧ carriedBy packet

def ConnectRequest.CarriedBy (request : ConnectRequest) (packet : Packet) : Prop :=
  ∃ connect, packet = .connect connect ∧ connect.clientId = request.meaning.clientId ∧
    connect.username = request.meaning.username ∧ connect.password = request.meaning.password

def PublishRequest.CarriedBy (request : PublishRequest) (packet : Packet) : Prop :=
  ∃ publish, packet = .publish publish ∧ publish.payload = request.data.bytes

def SubscribeRequest.CarriedBy (request : SubscribeRequest) (packet : Packet) : Prop :=
  ∃ subscribe, packet = .subscribe subscribe ∧ subscribe.filters = request.meaning.filters

def ConnectRequest.Fits (request : ConnectRequest) : Prop :=
  wholeFrame request.remaining ≤ txBuffSize

def PublishRequest.Fits (request : PublishRequest) : Prop :=
  request.qos.val ≤ 1 ∧ request.data.length ≤ 255 ∧ wholeFrame request.remaining ≤ txBuffSize

def SubscribeRequest.Fits (request : SubscribeRequest) : Prop :=
  wholeFrame request.remaining ≤ txBuffSize

theorem connect_parses (request : ConnectRequest) (fits : request.Fits) :
    parsePacket ((connectFields (connectPacketOf request.packet)).flatten.take txBuffSize) =
      some (.connect request.meaning, []) := by
  have size : txBuffSize = 400 := rfl
  have small : request.remaining < 65536 := by
    have whole := fits
    rw [ConnectRequest.Fits, wholeFrame] at whole
    omega
  have total : (UInt16.ofNat request.remaining).toNat = request.tail.length := by
    rw [request.tail_length, UInt16.toNat_ofNat', Nat.mod_eq_of_lt small]
  have kept := keptTail_of_fits total (by rw [request.tail_length]; exact fits)
  rw [connectFields_packet, parsePacket_buffer_iff, kept]
  refine ⟨total, ?_⟩
  change (parseConnect request.tail).map Packet.connect = _
  rw [parseConnect_tail, Option.map_some]

theorem connect_complete_iff (request : ConnectRequest) :
    CompleteFrame request.CarriedBy
        ((connectFields (connectPacketOf request.packet)).flatten.take txBuffSize) ↔
      request.Fits := by
  constructor
  · rintro ⟨packet, parsed, connect, rfl, clientId, username, password⟩
    rw [connectFields_packet, parsePacket_buffer_iff] at parsed
    obtain ⟨same, body⟩ := parsed
    have whole := wholeFrame_keptTail same
    change (parseConnect _).map Packet.connect = _ at body
    obtain ⟨found, inner, again⟩ := Option.map_eq_some_iff.mp body
    obtain rfl := Packet.connect.inj again
    -- The strings that came through need as much room as the whole request.
    have room := parseConnect_length inner
    rw [clientId, username, password] at room
    have enough : request.remaining ≤
        (keptTail (UInt16.ofNat request.remaining) request.tail).length := by
      cases supplied : request.supplied <;>
        simp [ConnectRequest.meaning, supplied] at room <;>
        simp [ConnectRequest.remaining, supplied, Bytes16.length] at * <;> omega
    have exact' : request.remaining =
        (keptTail (UInt16.ofNat request.remaining) request.tail).length := by
      have size : txBuffSize = 400 := rfl
      rw [UInt16.toNat_ofNat'] at same
      rw [wholeFrame] at whole
      omega
    rw [ConnectRequest.Fits, exact']
    exact whole
  · intro fits
    exact ⟨_, connect_parses request fits, _, rfl, rfl, rfl, rfl⟩

theorem identifier_counted {qos : Fin 4} (quality : qos.val ≤ 1) :
    (if qos = 1 then 2 else 0) = if qos = 0 then 0 else 2 := by
  rcases Nat.le_one_iff_eq_zero_or_eq_one.mp quality with none | one
  · simp [show qos = 0 from Fin.ext none]
  · simp [show qos = 1 from Fin.ext one]

theorem publish_parses (request : PublishRequest) (fits : request.Fits) :
    parsePacket ((publishFields (publishPacketOf request.packet)).flatten.take txBuffSize) =
      some (.publish request.meaning, []) := by
  obtain ⟨quality, small, whole⟩ := fits
  have size : txBuffSize = 400 := rfl
  have length : request.tail.length = request.remaining := by
    rw [request.tail_length, PublishRequest.remaining, identifier_counted quality,
      Nat.mod_eq_of_lt (by omega)]
  have total : request.total.toNat = request.tail.length := by
    rw [request.total_toNat, length, PublishRequest.remaining]
    rw [PublishRequest.remaining, wholeFrame] at whole
    rw [Nat.mod_eq_of_lt (by omega : request.data.length < 256), Nat.mod_eq_of_lt (by omega)]
  have kept := keptTail_of_fits total (by rw [length]; exact whole)
  obtain ⟨kind, flags⟩ := request.header_toNat
  rw [publishFields_packet, parsePacket_buffer_iff, kept, kind, flags]
  refine ⟨total, ?_⟩
  change (parsePublish request.flags request.tail).map Packet.publish = _
  rw [parsePublish_tail request quality small, Option.map_some]

theorem publish_topic_length {request : PublishRequest} {count : Nat} {topic rest : List UInt8}
    (parsed : parseString (request.tail.take count) = some (topic, rest)) :
    topic.length = request.topic.length := by
  rcases count with _ | _ | count
  · simp [parseString, parseWord] at parsed
  · simp [parseString, parseWord, PublishRequest.tail, bigEndian] at parsed
  · have front : request.tail.take (count + 2) = bigEndian request.topic.count ++
        (request.topic.bytes ++ (request.identifier ++ request.payload)).take count := rfl
    rw [front, parseString, parseWord_bigEndian] at parsed
    simp only [Option.bind_eq_bind, Option.bind_some] at parsed
    split at parsed
    case isTrue enough =>
      obtain ⟨rfl, -⟩ := Prod.mk.inj (Option.some.inj parsed)
      rw [List.length_take, Nat.min_eq_left enough, Bytes16.count_toNat]
      rfl
    case isFalse => simp at parsed

theorem publish_complete_iff (request : PublishRequest) :
    CompleteFrame request.CarriedBy
        ((publishFields (publishPacketOf request.packet)).flatten.take txBuffSize) ↔
      request.Fits := by
  constructor
  · rintro ⟨packet, parsed, publish, rfl, payload⟩
    obtain ⟨kind, flags⟩ := request.header_toNat
    rw [publishFields_packet, parsePacket_buffer_iff, kind, flags] at parsed
    obtain ⟨same, body⟩ := parsed
    have whole := wholeFrame_keptTail same
    change (parsePublish request.flags _).map Packet.publish = _ at body
    obtain ⟨found, inner, again⟩ := Option.map_eq_some_iff.mp body
    obtain rfl := Packet.publish.inj again
    obtain ⟨quality, ⟨rest, string⟩, room⟩ := parsePublish_length inner
    have qos : request.flags / 2 % 4 = request.qos.val :=
      (publishFlags_bits request.retain request.qos request.duplicate).2.1
    have topic := publish_topic_length string
    have sent : (keptTail request.total request.tail).length ≤ request.tail.length :=
      List.length_take_le' _ _
    have total := request.total_toNat
    have length := request.tail_length
    have data : found.payload.length = request.data.length := by rw [payload]; rfl
    have zero : request.qos.val = 0 ↔ request.qos = 0 := by
      rw [← Fin.val_inj]; rfl
    have one : request.qos.val = 1 ↔ request.qos = 1 := by
      rw [← Fin.val_inj]; rfl
    have size : txBuffSize = 400 := rfl
    rw [qos] at quality room
    simp only [zero] at room
    rw [wholeFrame] at whole
    -- Sixteen bits did not overflow, so the length field counts the identifier and the topic.
    have small : (if request.qos = 0 then 0 else 2) ≤ 2 := by split <;> omega
    have exact' : (keptTail request.total request.tail).length = request.remaining := by
      rw [PublishRequest.remaining]
      omega
    have identified : request.qos.val ≤ 1 := by
      by_contra large
      have notZero : ¬ request.qos = 0 := fun h => large (by rw [h]; decide)
      have notOne : ¬ request.qos = 1 := fun h => large (by rw [h]; decide)
      simp only [notZero, notOne, if_false] at room length
      omega
    refine ⟨identified, ?_, ?_⟩
    · rw [identifier_counted identified] at length
      rw [PublishRequest.remaining] at exact'
      omega
    · rw [← exact']
      exact whole
  · intro fits
    exact ⟨_, publish_parses request fits, _, rfl, rfl⟩

theorem subscribe_parses (request : SubscribeRequest) (fits : request.Fits) :
    parsePacket ((subscribeFields (subscribePacketOf request.packet)).flatten.take txBuffSize) =
      some (.subscribe request.meaning, []) := by
  have size : txBuffSize = 400 := rfl
  have small : request.remaining < 65536 := by
    have whole := fits
    rw [SubscribeRequest.Fits, wholeFrame] at whole
    omega
  have total : (UInt16.ofNat request.remaining).toNat = request.tail.length := by
    rw [request.tail_length, UInt16.toNat_ofNat', Nat.mod_eq_of_lt small]
  have kept := keptTail_of_fits total (by rw [request.tail_length]; exact fits)
  rw [subscribeFields_packet, parsePacket_buffer_iff, kept]
  refine ⟨total, ?_⟩
  change (parseSubscribe request.tail).map Packet.subscribe = _
  rw [parseSubscribe_tail, Option.map_some]

theorem subscribe_complete_iff (request : SubscribeRequest) :
    CompleteFrame request.CarriedBy
        ((subscribeFields (subscribePacketOf request.packet)).flatten.take txBuffSize) ↔
      request.Fits := by
  constructor
  · rintro ⟨packet, parsed, subscribe, rfl, filters⟩
    rw [subscribeFields_packet, parsePacket_buffer_iff] at parsed
    obtain ⟨same, body⟩ := parsed
    have whole := wholeFrame_keptTail same
    change (parseSubscribe _).map Packet.subscribe = _ at body
    obtain ⟨found, inner, again⟩ := Option.map_eq_some_iff.mp body
    obtain rfl := Packet.subscribe.inj again
    have room := parseSubscribe_length inner
    rw [filters] at room
    have exact' : (keptTail (UInt16.ofNat request.remaining) request.tail).length =
        request.remaining := by
      simp [SubscribeRequest.meaning] at room
      simp [SubscribeRequest.remaining, Bytes16.length] at *
      omega
    rw [SubscribeRequest.Fits, ← exact']
    exact whole
  · intro fits
    exact ⟨_, subscribe_parses request fits, _, rfl, rfl⟩

inductive Request
  | connect (request : ConnectRequest)
  | publish (request : PublishRequest)
  | subscribe (request : SubscribeRequest)

namespace Request

def Fits : Request -> Prop
  | connect request => request.Fits
  | publish request => request.Fits
  | subscribe request => request.Fits

def CarriedBy : Request -> Packet -> Prop
  | connect request => request.CarriedBy
  | publish request => request.CarriedBy
  | subscribe request => request.CarriedBy

def meaning : Request -> Packet
  | connect request => .connect request.meaning
  | publish request => .publish request.meaning
  | subscribe request => .subscribe request.meaning

def packetType : Request -> MqttControlPacketType
  | connect _ => .connect
  | publish _ => .publish
  | subscribe _ => .subscribe

end Request

namespace MqttCore

def create (core : MqttCore) : Request -> MqttCore × List MqttEvent
  | .connect request => core.mqttCreateConnectPacket request.packet
  | .publish request => core.mqttCreatePublishPacket request.packet
  | .subscribe request => core.mqttCreateSubscribePacket request.packet

def send (core : MqttCore) (sent : Bool) : Request -> Bool × MqttCore × List MqttEvent
  | .connect _ => core.mqttSendConnect sent
  | .publish _ => core.mqttSendPublish sent
  | .subscribe _ => core.mqttSendSubscribe sent

def Accepts (core : MqttCore) (request : Request) : Prop :=
  (core.create request).2 = [.created request.packetType]

theorem accepts_iff (core : MqttCore) (request : Request) :
    core.Accepts request ↔ core.mqttState = .connected ∨ request.packetType = .connect := by
  cases request with
  | connect request => simp [Accepts, create, mqttCreateConnectPacket, Request.packetType]
  | publish request =>
    by_cases on : core.mqttState = .connected <;>
      simp [Accepts, create, mqttCreatePublishPacket, Request.packetType, on]
  | subscribe request =>
    by_cases on : core.mqttState = .connected <;>
      simp [Accepts, create, mqttCreateSubscribePacket, Request.packetType, on]

def frameOf : Request -> List UInt8
  | .connect request =>
    (connectFields (connectPacketOf request.packet)).flatten.take txBuffSize
  | .publish request =>
    (publishFields (publishPacketOf request.packet)).flatten.take txBuffSize
  | .subscribe request =>
    (subscribeFields (subscribePacketOf request.packet)).flatten.take txBuffSize

theorem send_create {core : MqttCore} {request : Request} (accepted : core.Accepts request)
    (sent : Bool) :
    ((core.create request).1.send sent request).2.1.txbuff.frame = frameOf request ∧
      ((core.create request).1.send sent request).2.2 =
        [.handed request.packetType (frameOf request) sent] := by
  have written := fun fields => (core.txbuff.writeAll_correct fields).1
  have on := (accepts_iff core request).mp accepted
  cases request with
  | connect request =>
    cases sent <;>
      simp [create, mqttCreateConnectPacket, send, mqttSendConnect, fillTxbuff, frameOf, written,
        Request.packetType]
  | publish request =>
    simp only [Request.packetType, reduceCtorEq, or_false] at on
    cases sent with
    | true =>
      by_cases acknowledged : (publishPacketOf request.packet).publishHeaderFlags.qos = 1 <;>
        simp [create, mqttCreatePublishPacket, on, send, mqttSendPublish, fillTxbuff, frameOf,
          written, Request.packetType, acknowledged]
    | false =>
      simp [create, mqttCreatePublishPacket, on, send, mqttSendPublish, fillTxbuff, frameOf,
        written, Request.packetType]
  | subscribe request =>
    simp only [Request.packetType, reduceCtorEq, or_false] at on
    cases sent <;>
      simp [create, mqttCreateSubscribePacket, on, send, mqttSendSubscribe, fillTxbuff, frameOf,
        written, Request.packetType]

theorem frameOf_parses (request : Request) (fits : request.Fits) :
    parsePacket (frameOf request) = some (request.meaning, []) := by
  cases request with
  | connect request => exact connect_parses request fits
  | publish request => exact publish_parses request fits
  | subscribe request => exact subscribe_parses request fits

theorem frameOf_complete_iff (request : Request) :
    CompleteFrame request.CarriedBy (frameOf request) ↔ request.Fits := by
  cases request with
  | connect request => exact connect_complete_iff request
  | publish request => exact publish_complete_iff request
  | subscribe request => exact subscribe_complete_iff request

theorem handed_iff {core : MqttCore} {request : Request} (accepted : core.Accepts request)
    (sent : Bool) (property : List UInt8 -> Prop) :
    (∃ frame, ((core.create request).1.send sent request).2.2 =
        [.handed request.packetType frame sent] ∧ property frame) ↔
      property (frameOf request) := by
  -- A request is handed over in one call, so the frame of the call decides.
  rw [(send_create accepted sent).2]
  constructor
  · rintro ⟨frame, same, complete⟩
    obtain rfl : frameOf request = frame := by simpa using same
    exact complete
  · intro complete
    exact ⟨frameOf request, rfl, complete⟩

theorem txbuff_roundTrip (core : MqttCore) (request : Request) (accepted : core.Accepts request)
    (fits : request.Fits) (sent : Bool) :
    parsePacket ((core.create request).1.send sent request).2.1.txbuff.frame =
      some (request.meaning, []) := by
  rw [(send_create accepted sent).1, frameOf_parses request fits]

theorem fits_of_small {remaining : Nat} (small : remaining < 128) :
    wholeFrame remaining ≤ txBuffSize := by
  have size : txBuffSize = 400 := rfl
  rw [wholeFrame_small small]
  omega

theorem txbuff_roundTrip_session :
    let connect : ConnectRequest := ⟨⟨[97, 98], by decide⟩, ⟨[], by decide⟩, ⟨[99], by decide⟩, 10⟩
    let publish : PublishRequest := ⟨true, 1, true, ⟨[116], by decide⟩, 0, 7, ⟨[1, 0, 2], by decide⟩⟩
    let subscribe : SubscribeRequest := ⟨0, 1, (⟨[116], by decide⟩, 0), (⟨[117], by decide⟩, 1)⟩
    let core := (Machine.run step boot (opening 10)).1
    parsePacket ((boot.create (.connect connect)).1.send true
        (.connect connect)).2.1.txbuff.frame = some (.connect connect.meaning, []) ∧
      parsePacket ((core.create (.publish publish)).1.send true
        (.publish publish)).2.1.txbuff.frame = some (.publish publish.meaning, []) ∧
      parsePacket ((core.create (.subscribe subscribe)).1.send false
        (.subscribe subscribe)).2.1.txbuff.frame = some (.subscribe subscribe.meaning, []) := by
  have on : (Machine.run step boot (opening 10)).1.mqttState = .connected := by decide +kernel
  exact ⟨txbuff_roundTrip _ (.connect _) ((accepts_iff _ _).mpr (.inr rfl))
      (fits_of_small (by decide)) true,
    txbuff_roundTrip _ (.publish _) ((accepts_iff _ _).mpr (.inl on))
      ⟨by decide, by decide, fits_of_small (by decide)⟩ true,
    txbuff_roundTrip _ (.subscribe _) ((accepts_iff _ _).mpr (.inl on))
      (fits_of_small (by decide)) false⟩

theorem handed_complete_iff (core : MqttCore) (request : Request)
    (accepted : core.Accepts request) (sent : Bool) :
    (∃ frame, ((core.create request).1.send sent request).2.2 =
        [.handed request.packetType frame sent] ∧
      CompleteFrame request.CarriedBy frame) ↔ request.Fits := by
  rw [handed_iff accepted, frameOf_complete_iff]

/-- The request that `MQTT_CLIENT_publish` makes for the bytes given to `CLOUD_publishData`. -/
def mqttClientPublish (mqttTopic data : Bytes16) : PublishRequest :=
  ⟨false, 0, false, mqttTopic, 0, 0, data⟩

theorem handed_complete_iff_report :
    let request := Request.publish (mqttClientPublish ⟨[116], by decide⟩ ⟨[123, 125], by decide⟩)
    let core := (Machine.run step boot (opening 10)).1
    (∃ frame, ((core.create request).1.send true request).2.2 =
        [.handed request.packetType frame true] ∧
      CompleteFrame request.CarriedBy frame) ↔ request.Fits := by
  have on : (Machine.run step boot (opening 10)).1.mqttState = .connected := by decide +kernel
  exact handed_complete_iff _ _ ((accepts_iff _ _).mpr (.inl on)) true

theorem mqttClientPublish_shortened :
    let data : Bytes16 := ⟨List.replicate 256 97, by rw [List.length_replicate]; decide⟩
    let request := Request.publish (mqttClientPublish ⟨[116], by decide⟩ data)
    let core := (Machine.run step boot (opening 10)).1
    core.Accepts request ∧
      ¬ ∃ frame, ((core.create request).1.send true request).2.2 =
          [.handed request.packetType frame true] ∧
        CompleteFrame request.CarriedBy frame := by
  intro data request core
  have on : core.mqttState = .connected := by decide +kernel
  have accepted : core.Accepts request := (accepts_iff _ _).mpr (.inl on)
  refine ⟨accepted, ?_⟩
  rw [handed_iff accepted, frameOf_complete_iff]
  rintro ⟨-, small, -⟩
  have count : data.length = 256 := List.length_replicate
  exact absurd small (by rw [mqttClientPublish, count]; decide)

end MqttCore

end AvrVoiceControl
