import AvrVoiceControl.Library.MqttGrammar
import AvrVoiceControl.MqttSteps

set_option autoImplicit false

namespace AvrVoiceControl

open ByteOrder MqttGrammar

structure Bytes16 where
  bytes : List UInt8
  short : bytes.length < 65536

def Bytes16.length (data : Bytes16) : Nat := data.bytes.length

def Bytes16.count (data : Bytes16) : UInt16 := UInt16.ofNat data.bytes.length

@[simp] theorem Bytes16.count_toNat (data : Bytes16) : data.count.toNat = data.bytes.length := by
  have short := data.short
  rw [count, UInt16.toNat_ofNat']
  omega

structure ConnectRequest where
  clientID : Bytes16
  username : Bytes16
  password : Bytes16
  keepAliveTimer : UInt16

structure PublishRequest where
  retain : Bool
  qos : Fin 4
  duplicate : Bool
  topic : Bytes16
  packetIdentifierMSB : UInt8
  packetIdentifierLSB : UInt8
  data : Bytes16

structure SubscribeRequest where
  packetIdentifierMSB : UInt8
  packetIdentifierLSB : UInt8
  first : Bytes16 × UInt8
  second : Bytes16 × UInt8

def ConnectRequest.packet (request : ConnectRequest) : MqttConnectPacket :=
  { MqttConnectPacket.zero with
    keepAliveTimer := request.keepAliveTimer
    clientID := request.clientID.bytes
    usernameLength := request.username.count
    username := request.username.bytes
    passwordLength := request.password.count
    password := request.password.bytes }

def PublishRequest.packet (request : PublishRequest) : MqttPublishPacket :=
  -- `payloadLength` has eight bits.
  { MqttPublishPacket.zero with
    publishHeaderFlags :=
      { MqttHeaderFlags.zero with
        retain := request.retain
        qos := request.qos
        duplicate := request.duplicate }
    topic := request.topic.bytes
    packetIdentifierLSB := request.packetIdentifierLSB
    packetIdentifierMSB := request.packetIdentifierMSB
    payloadLength := UInt8.ofNat request.data.length
    payload := request.data.bytes }

def SubscribeRequest.packet (request : SubscribeRequest) : MqttSubscribePacket :=
  { MqttSubscribePacket.zero with
    packetIdentifierLSB := request.packetIdentifierLSB
    packetIdentifierMSB := request.packetIdentifierMSB
    subscribePayload :=
      (⟨request.first.1.count, request.first.1.bytes, request.first.2⟩,
        ⟨request.second.1.count, request.second.1.bytes, request.second.2⟩) }

theorem encodeLoop_eq (turns n : Nat) (bound : n < 128 ^ turns) (positive : 0 < turns) :
    encodeLoop turns n = encodeRemainingLength n := by
  induction turns generalizing n with
  | zero => omega
  | succ turns ih =>
    by_cases small : n < 128
    · have last : ¬ n / 128 > 0 := by omega
      rw [encodeLoop, if_neg last, encodeRemainingLength_small small, Nat.mod_eq_of_lt small]
    · have next : n / 128 < 128 ^ turns := by
        rw [Nat.pow_succ] at bound
        exact (Nat.div_lt_iff_lt_mul (by decide)).mpr bound
      have more : 0 < turns := by
        rcases Nat.eq_zero_or_pos turns with rfl | more
        · simp at bound
          omega
        · exact more
      have low : n % 128 < 2 ^ 7 := Nat.mod_lt _ (by decide)
      have top : n % 128 ||| 0x80 = n % 128 + 128 := by
        rw [Nat.or_comm, Nat.add_comm]
        exact (Nat.two_pow_add_eq_or_of_lt low 1).symm
      have whole : encodeRemainingLength n = _ := encodeRemainingLength_large (by omega)
      rw [encodeLoop, if_pos (by omega), top, ih (n / 128) next more, whole]

theorem mqttEncodeLength_eq (length : UInt16) :
    mqttEncodeLength length = encodeRemainingLength length.toNat := by
  have bound := length.toNat_lt
  exact encodeLoop_eq 3 length.toNat (by omega) (by decide)

theorem mqttEncodeLength_length (length : UInt16) : (mqttEncodeLength length).length ≤ 3 := by
  have bound := length.toNat_lt
  rw [mqttEncodeLength_eq]
  exact encodeRemainingLength_length (by omega) (by decide)

def wholeFrame (remaining : Nat) : Nat := 1 + (encodeRemainingLength remaining).length + remaining

theorem wholeFrame_small {remaining : Nat} (small : remaining < 128) :
    wholeFrame remaining = 2 + remaining := by
  rw [wholeFrame, encodeRemainingLength_small small]
  rfl

/-- What the transmit buffer keeps of the bytes behind the remaining length. -/
def keptTail (total : UInt16) (tail : List UInt8) : List UInt8 :=
  tail.take (txBuffSize - 1 - (mqttEncodeLength total).length)

theorem parsePacket_buffer_iff (header : UInt8) (total : UInt16) (tail : List UInt8)
    (packet : Packet) :
    parsePacket ((header :: (mqttEncodeLength total ++ tail)).take txBuffSize) =
        some (packet, []) ↔
      total.toNat = (keptTail total tail).length ∧
        parseBody (header.toNat / 16) (header.toNat % 16) (keptTail total tail) =
          some packet := by
  have bound := total.toNat_lt
  have short := mqttEncodeLength_length total
  have front : (header :: (mqttEncodeLength total ++ tail)).take txBuffSize =
      header :: (encodeRemainingLength total.toNat ++ keptTail total tail) := by
    rw [List.take_succ_cons, List.take_append, List.take_of_length_le (by omega),
      ← mqttEncodeLength_eq, keptTail]
    rfl
  rw [front]
  exact parsePacket_frame_iff header total.toNat (by omega) _ packet

theorem keptTail_of_fits {total : UInt16} {tail : List UInt8} (exact' : total.toNat = tail.length)
    (fits : wholeFrame tail.length ≤ txBuffSize) : keptTail total tail = tail := by
  apply List.take_of_length_le
  rw [mqttEncodeLength_eq, exact']
  unfold wholeFrame at fits
  omega

theorem wholeFrame_keptTail {total : UInt16} {tail : List UInt8}
    (same : total.toNat = (keptTail total tail).length) :
    wholeFrame (keptTail total tail).length ≤ txBuffSize := by
  have short := mqttEncodeLength_length total
  have kept : (keptTail total tail).length ≤
      txBuffSize - 1 - (mqttEncodeLength total).length := List.length_take_le _ _
  have size : txBuffSize = 400 := rfl
  rw [wholeFrame, ← same, ← mqttEncodeLength_eq, same]
  omega

def ConnectRequest.supplied (request : ConnectRequest) : Bool :=
  0 < request.password.length || 0 < request.username.length

def ConnectRequest.remaining (request : ConnectRequest) : Nat :=
  12 + request.clientID.length +
    if request.supplied then
      (2 + request.username.length) + (2 + request.password.length)
    else 0

def ConnectRequest.meaning (request : ConnectRequest) : Connect where
  cleanSession := true
  keepAlive := request.keepAliveTimer
  clientId := request.clientID.bytes
  will := none
  username := if request.supplied then some request.username.bytes else none
  password := if request.supplied then some request.password.bytes else none

def ConnectRequest.tail (request : ConnectRequest) : List UInt8 :=
  bigEndian 4 ++ (protocolName ++ 4 :: (if request.supplied then 0xC2 else 0x02) ::
    (bigEndian request.keepAliveTimer ++ (bigEndian request.clientID.count ++
      (request.clientID.bytes ++
        if request.supplied then
          bigEndian request.username.count ++ (request.username.bytes ++
            (bigEndian request.password.count ++ request.password.bytes))
        else []))))

theorem ConnectRequest.tail_length (request : ConnectRequest) :
    request.tail.length = request.remaining := by
  cases supplied : request.supplied <;>
    simp [tail, remaining, supplied, protocolName, Bytes16.length] <;> omega

theorem count_pos_iff (data : Bytes16) : data.count > 0 ↔ 0 < data.length := by
  rw [gt_iff_lt, UInt16.lt_iff_toNat_lt, Bytes16.count_toNat]
  rfl

theorem connectPacketOf_packet (request : ConnectRequest) :
    connectPacketOf request.packet =
      { connectFixedHeaderFlags := ⟨false, 0, false, MqttControlPacketType.connect.code⟩
        protocolName := [0x00, 0x04, 77, 81, 84, 84]
        protocolLevel := 0x04
        connectFlagsByte := if request.supplied then 0xC2 else 0x02
        keepAliveTimer := swap16 request.keepAliveTimer
        clientIDLength := swap16 request.clientID.count
        clientID := request.clientID.bytes
        usernameLength := if request.supplied then swap16 request.username.count else 0
        username := if request.supplied then request.username.bytes else []
        passwordLength := if request.supplied then swap16 request.password.count else 0
        password := if request.supplied then request.password.bytes else []
        totalLength := UInt16.ofNat request.remaining } := by
  have flags : (request.password.count > 0 ∨ request.username.count > 0) ↔
      request.supplied = true := by
    rw [count_pos_iff, count_pos_iff]
    simp [ConnectRequest.supplied]
  have passwordFlag : (0xC2 : UInt8) &&& 0x40 ≠ 0 := by decide
  have usernameFlag : (0xC2 : UInt8) &&& 0x80 ≠ 0 := by decide
  have noPassword : (0x02 : UInt8) &&& 0x40 = 0 := by decide
  have noUsername : (0x02 : UInt8) &&& 0x80 = 0 := by decide
  -- The sum of the lengths in the sixteen bits of `totalLength`.
  have total : (if request.supplied then
        request.clientID.count + request.password.count + request.username.count + 4
      else request.clientID.count) + 12 = UInt16.ofNat request.remaining := by
    apply UInt16.toNat_inj.mp
    cases supplied : request.supplied <;>
      simp [ConnectRequest.remaining, supplied, UInt16.toNat_add, Bytes16.length] <;> omega
  have twelve : ∀ n : UInt16, 10 + 2 + n = n + 12 := fun n => by
    rw [UInt16.add_comm]
    rfl
  have counted : ∀ data : Bytes16, UInt16.ofNat data.bytes.length = data.count := fun _ => rfl
  unfold connectPacketOf ConnectRequest.packet
  simp only [flags]
  cases supplied : request.supplied with
  | true =>
    simp only [supplied, if_true] at total
    simp only [if_true, passwordFlag, usernameFlag, ne_eq, not_false_eq_true, true_or,
      counted, twelve, total]
  | false =>
    simp only [supplied, Bool.false_eq_true, if_false] at total
    simp only [Bool.false_eq_true, if_false, noPassword, noUsername, ne_eq, not_true,
      or_self, counted, twelve, total]

theorem connectFields_packet (request : ConnectRequest) :
    (connectFields (connectPacketOf request.packet)).flatten =
      0x10 :: (mqttEncodeLength (UInt16.ofNat request.remaining) ++ request.tail) := by
  have header : (⟨false, 0, false, MqttControlPacketType.connect.code⟩ : MqttHeaderFlags).all =
      0x10 := by decide
  have name : bigEndian 4 ++ protocolName = [0x00, 0x04, 77, 81, 84, 84] := by decide
  rw [connectPacketOf_packet, ConnectRequest.tail, ← List.append_assoc (bigEndian 4), name]
  cases supplied : request.supplied with
  | true =>
    have given : swap16 request.password.count > 0 ∨ swap16 request.username.count > 0 := by
      simp only [ConnectRequest.supplied, Bool.or_eq_true, decide_eq_true_eq] at supplied
      simp only [gt_iff_lt, UInt16.pos_iff_ne_zero, ne_eq, swap16_eq_zero] at *
      rcases supplied with password | username
      · exact .inl (UInt16.pos_iff_ne_zero.mp ((count_pos_iff _).mpr password))
      · exact .inr (UInt16.pos_iff_ne_zero.mp ((count_pos_iff _).mpr username))
    simp [connectFields, header, given]
  | false => simp [connectFields, header]

theorem parseConnect_tail (request : ConnectRequest) :
    parseConnect request.tail = some request.meaning := by
  have cid := parseString_encode request.clientID.count request.clientID.bytes
  have user := parseString_encode request.username.count request.username.bytes
  have pass := parseString_encode request.password.count request.password.bytes []
  have cidLast := parseString_encode request.clientID.count request.clientID.bytes []
  simp only [Bytes16.count_toNat, forall_const, List.append_nil] at cid user pass cidLast
  rw [parseConnect, ConnectRequest.tail, parseString_encode 4 protocolName _ (by decide)]
  cases supplied : request.supplied with
  | true =>
    have bits : Nat.testBit 194 1 = true ∧ Nat.testBit 194 2 = false ∧ Nat.testBit 194 5 = false ∧
        Nat.testBit 194 6 = true ∧ Nat.testBit 194 7 = true := by decide
    simp [ConnectRequest.meaning, supplied, cid, user, pass, parseWill, parseOptionalString, bits]
  | false =>
    have bits : Nat.testBit 2 1 = true ∧ Nat.testBit 2 2 = false ∧ Nat.testBit 2 5 = false ∧
        Nat.testBit 2 6 = false ∧ Nat.testBit 2 7 = false := by decide
    simp [ConnectRequest.meaning, supplied, cidLast, parseWill, parseOptionalString, bits]

def PublishRequest.flags (request : PublishRequest) : Nat :=
  -- DUP is dropped for quality of service zero.
  8 * (request.duplicate && request.qos ≠ 0).toNat + 2 * request.qos.val + request.retain.toNat

def PublishRequest.payload (request : PublishRequest) : List UInt8 :=
  request.data.bytes.take (request.data.length % 256)

def PublishRequest.identifier (request : PublishRequest) : List UInt8 :=
  if request.qos = 1 then [request.packetIdentifierMSB, request.packetIdentifierLSB] else []

def PublishRequest.tail (request : PublishRequest) : List UInt8 :=
  bigEndian request.topic.count ++
    (request.topic.bytes ++ (request.identifier ++ request.payload))

def PublishRequest.total (request : PublishRequest) : UInt16 :=
  -- The identifier counts for every quality of service but zero.
  (if request.qos > 0 then 2 else 0) +
    (2 + request.topic.count + (UInt8.ofNat request.data.length).toUInt16)

def PublishRequest.meaning (request : PublishRequest) : Publish where
  duplicate := request.duplicate && request.qos ≠ 0
  qos := request.qos.val
  retain := request.retain
  topic := request.topic.bytes
  packetIdentifier :=
    if request.qos = 0 then none
    else some (ofBigEndian request.packetIdentifierMSB request.packetIdentifierLSB)
  payload := request.data.bytes

def PublishRequest.remaining (request : PublishRequest) : Nat :=
  2 + request.topic.length + (if request.qos = 0 then 0 else 2) + request.data.length

theorem publishHeader_all (retain : Bool) (qos : Fin 4) (duplicate : Bool) :
    (⟨retain, qos, if qos = 0 ∧ duplicate = true then false else duplicate,
        MqttControlPacketType.publish.code⟩ : MqttHeaderFlags).all =
      UInt8.ofNat (48 + (8 * (duplicate && qos ≠ 0).toNat + 2 * qos.val + retain.toNat)) := by
  revert retain qos duplicate
  decide

theorem publishHeader_toNat (retain : Bool) (qos : Fin 4) (duplicate : Bool) :
    let flags := 8 * (duplicate && qos ≠ 0).toNat + 2 * qos.val + retain.toNat
    (UInt8.ofNat (48 + flags)).toNat / 16 = 3 ∧ (UInt8.ofNat (48 + flags)).toNat % 16 = flags := by
  revert retain qos duplicate
  decide

theorem publishPacketOf_packet (request : PublishRequest) :
    publishPacketOf request.packet =
      { publishHeaderFlags :=
          ⟨request.retain, request.qos,
            if request.qos = 0 ∧ request.duplicate = true then false else request.duplicate,
            MqttControlPacketType.publish.code⟩
        topicLength := swap16 request.topic.count
        topic := request.topic.bytes
        packetIdentifierLSB := if request.qos > 0 then request.packetIdentifierLSB else 0
        packetIdentifierMSB := if request.qos > 0 then request.packetIdentifierMSB else 0
        payloadLength := UInt8.ofNat request.data.length
        payload := request.data.bytes
        totalLength := request.total } := rfl

theorem publishFields_packet (request : PublishRequest) :
    (publishFields (publishPacketOf request.packet)).flatten =
      UInt8.ofNat (48 + request.flags) :: (mqttEncodeLength request.total ++ request.tail) := by
  have whole : request.topic.bytes.take request.topic.count.toNat = request.topic.bytes := by simp
  have kept : (UInt8.ofNat request.data.length).toNat = request.data.length % 256 :=
    UInt8.toNat_ofNat'
  rw [publishPacketOf_packet, publishFields, publishHeader_all]
  by_cases one : request.qos = 1
  · simp [one, PublishRequest.flags, PublishRequest.tail, PublishRequest.identifier,
      PublishRequest.payload, kept]
  · simp [one, PublishRequest.flags, PublishRequest.tail, PublishRequest.identifier,
      PublishRequest.payload, kept]

theorem PublishRequest.header_toNat (request : PublishRequest) :
    (UInt8.ofNat (48 + request.flags)).toNat / 16 = 3 ∧
      (UInt8.ofNat (48 + request.flags)).toNat % 16 = request.flags :=
  publishHeader_toNat request.retain request.qos request.duplicate

theorem PublishRequest.tail_length (request : PublishRequest) :
    request.tail.length = 2 + request.topic.length + (if request.qos = 1 then 2 else 0) +
      request.data.length % 256 := by
  have least : request.data.length % 256 ≤ request.data.bytes.length := Nat.mod_le _ _
  by_cases one : request.qos = 1 <;>
    simp [tail, identifier, payload, one, Bytes16.length] <;> omega

theorem publishFlags_bits (retain : Bool) (qos : Fin 4) (duplicate : Bool) :
    let flags := 8 * (duplicate && qos ≠ 0).toNat + 2 * qos.val + retain.toNat
    flags.testBit 3 = (duplicate && qos ≠ 0) ∧ flags / 2 % 4 = qos.val ∧
      flags.testBit 0 = retain := by
  revert retain qos duplicate
  decide

theorem parsePublish_tail (request : PublishRequest) (quality : request.qos.val ≤ 1)
    (small : request.data.length ≤ 255) :
    parsePublish request.flags request.tail = some request.meaning := by
  obtain ⟨third, first, last⟩ : request.flags.testBit 3 = (request.duplicate && request.qos ≠ 0) ∧
      request.flags / 2 % 4 = request.qos.val ∧ request.flags.testBit 0 = request.retain :=
    publishFlags_bits request.retain request.qos request.duplicate
  have whole : request.payload = request.data.bytes := by
    apply List.take_of_length_le
    rw [Nat.mod_eq_of_lt (by omega)]
    exact Nat.le_refl _
  have topic := parseString_encode request.topic.count request.topic.bytes
  simp only [Bytes16.count_toNat, forall_const] at topic
  rcases Nat.le_one_iff_eq_zero_or_eq_one.mp quality with none | one
  · have zero : request.qos = 0 := Fin.ext none
    simp [parsePublish, PublishRequest.tail, PublishRequest.meaning, third, first, last, topic,
      whole, zero, PublishRequest.identifier]
  · have single : request.qos = 1 := Fin.ext one
    simp [parsePublish, PublishRequest.tail, PublishRequest.meaning, third, first, last, topic,
      whole, single, PublishRequest.identifier, parseWord]

theorem PublishRequest.total_toNat (request : PublishRequest) :
    request.total.toNat =
      (2 + request.topic.length + (if request.qos = 0 then 0 else 2) +
        request.data.length % 256) % 65536 := by
  have positive : request.qos > 0 ↔ ¬ request.qos = 0 := Fin.pos_iff_ne_zero
  by_cases zero : request.qos = 0
  · simp [total, zero, UInt16.toNat_add, Bytes16.length]
  · simp [total, positive, zero, UInt16.toNat_add, Bytes16.length]
    omega

def SubscribeRequest.tail (request : SubscribeRequest) : List UInt8 :=
  request.packetIdentifierMSB :: request.packetIdentifierLSB ::
    (bigEndian request.first.1.count ++ (request.first.1.bytes ++ request.first.2 ::
      (bigEndian request.second.1.count ++ (request.second.1.bytes ++ [request.second.2]))))

def SubscribeRequest.remaining (request : SubscribeRequest) : Nat :=
  2 + (3 + request.first.1.length) + (3 + request.second.1.length)

def SubscribeRequest.meaning (request : SubscribeRequest) : Subscribe where
  packetIdentifier := ofBigEndian request.packetIdentifierMSB request.packetIdentifierLSB
  filters :=
    [(request.first.1.bytes, request.first.2), (request.second.1.bytes, request.second.2)]

theorem SubscribeRequest.tail_length (request : SubscribeRequest) :
    request.tail.length = request.remaining := by
  simp [tail, remaining, Bytes16.length]
  omega

theorem subscribePacketOf_packet (request : SubscribeRequest) :
    subscribePacketOf request.packet =
      { subscribeHeaderFlags := ⟨false, 1, false, MqttControlPacketType.subscribe.code⟩
        packetIdentifierLSB := request.packetIdentifierLSB
        packetIdentifierMSB := request.packetIdentifierMSB
        subscribePayload :=
          (⟨swap16 request.first.1.count, request.first.1.bytes, request.first.2⟩,
            ⟨swap16 request.second.1.count, request.second.1.bytes, request.second.2⟩)
        totalLength := UInt16.ofNat request.remaining } := by
  have total : (2 + request.first.1.count + 1) + (2 + request.second.1.count + 1) + 2 =
      UInt16.ofNat request.remaining := by
    apply UInt16.toNat_inj.mp
    simp [SubscribeRequest.remaining, UInt16.toNat_add, Bytes16.length]
    omega
  simp only [subscribePacketOf, subscribePayloadOf, SubscribeRequest.packet, swap16_swap16, total]

theorem subscribeFields_packet (request : SubscribeRequest) :
    (subscribeFields (subscribePacketOf request.packet)).flatten =
      0x82 :: (mqttEncodeLength (UInt16.ofNat request.remaining) ++ request.tail) := by
  have header : (⟨false, 1, false, MqttControlPacketType.subscribe.code⟩ : MqttHeaderFlags).all =
      0x82 := by decide
  rw [subscribePacketOf_packet]
  simp [subscribeFields, subscribePayloadFields, header, SubscribeRequest.tail]

theorem parseSubscribe_tail (request : SubscribeRequest) :
    parseSubscribe request.tail = some request.meaning := by
  have enough : ∃ limit, (request.tail.drop 2).length = limit + 2 := by
    refine ⟨request.remaining - 4, ?_⟩
    rw [List.length_drop, request.tail_length, SubscribeRequest.remaining]
    omega
  obtain ⟨limit, count⟩ := enough
  have filters : parseFilters (limit + 2) (request.tail.drop 2) =
      some request.meaning.filters := by
    have first := parseFilters_cons (limit + 1) request.first.1.count request.first.1.bytes
      request.first.2
    have second := parseFilters_cons limit request.second.1.count request.second.1.bytes
      request.second.2 []
    simp only [Bytes16.count_toNat, forall_const] at first second
    simp [SubscribeRequest.tail, first, second, parseFilters_nil, SubscribeRequest.meaning]
  have word : parseWord request.tail =
      some (request.meaning.packetIdentifier, request.tail.drop 2) := rfl
  rw [parseSubscribe, word]
  simp only [Option.bind_eq_bind, Option.bind_some, count, filters]
  rfl

end AvrVoiceControl
