import AvrVoiceControl.InboundPublish
import AvrVoiceControl.InboundStream

set_option autoImplicit false

namespace AvrVoiceControl

open ByteOrder MqttGrammar CString

namespace MqttCore

inductive Called
  | entry (index : Nat)
  | nobody
  -- NULL is followed, or the array of a topic is read behind its end.
  | invalid
  deriving DecidableEq

/-- `dispatch` with the index of the entry whose callback runs. -/
def called (topic : Pointer) (topicLength : Nat) : Nat -> List PublishReceptionHandler -> Called
  | _, [] => .nobody
  | _, none :: _ => .invalid
  | i, some registered :: rest =>
    match memcmpEqual registered topic topicLength with
    | none => .invalid
    | some true => .entry i
    | some false => called topic topicLength (i + 1) rest

def Called.events (topic payload : List UInt8) : Called -> List MqttEvent
  | .entry _ => [.published topic payload]
  | .nobody => []
  | .invalid => [.invalidAccess]

def calledEntry (core : MqttCore) : Called :=
  let packet := (readPublishPacket core.rxbuff).1
  match core.publishRecvInfo with
  | none => .invalid
  | some (first, second) =>
    called (intoArray topicSize packet.topic) packet.topicLength.toNat 0 [first, second]

/-- The first registered entry whose topic is the received one. -/
def wantedEntry (topic : List UInt8) : Nat -> List PublishReceptionHandler -> Called
  | _, [] => .nobody
  | i, entry :: rest =>
    if entry.bind CString.text = some topic then .entry i else wantedEntry topic (i + 1) rest

def Differs (topic registered : List UInt8) : Prop :=
  ¬ topic <+: registered ∧ ¬ registered <+: topic

/-- The topic is compared with registered entries only, and with none that it begins. -/
def Settled (topic : List UInt8) : List PublishReceptionHandler -> Prop
  | [] => True
  | none :: _ => False
  | some registered :: rest =>
    CString.text registered = some topic ∨ Differs topic registered ∧ Settled topic rest

theorem dispatch_called (topic payload : Pointer) (topicLength i : Nat)
    (table : List PublishReceptionHandler) :
    dispatch topic payload topicLength table =
      (called topic topicLength i table).events topic payload := by
  induction table generalizing i with
  | nil => rfl
  | cons entry rest ih =>
    cases entry with
    | none => rfl
    | some registered =>
      rw [dispatch, called]
      cases memcmpEqual registered topic topicLength with
      | none => rfl
      | some same =>
        cases same with
        | true => rfl
        | false => exact ih (i + 1)

theorem memcmpEqual_begins (registered topic rest : List UInt8) :
    memcmpEqual registered (topic ++ rest) topic.length =
      if topic <+: registered then some true
      else if registered <+: topic then none else some false := by
  induction topic generalizing registered with
  | nil => simp [memcmpEqual]
  | cons byte topic ih =>
    cases registered with
    | nil => simp [memcmpEqual]
    | cons first registered =>
      by_cases same : first = byte
      · subst same
        simp [memcmpEqual, ih, List.cons_prefix_cons]
      · have differ : ¬ byte = first := fun h => same h.symm
        simp [memcmpEqual, same, differ, List.cons_prefix_cons]

theorem wantedEntry_index (topic : List UInt8) (i : Nat) (table : List PublishReceptionHandler) :
    wantedEntry topic i table = .nobody ∨ ∃ j, i ≤ j ∧ wantedEntry topic i table = .entry j := by
  induction table generalizing i with
  | nil => exact .inl rfl
  | cons entry rest ih =>
    by_cases same : entry.bind CString.text = some topic
    · exact .inr ⟨i, Nat.le_refl i, by simp [wantedEntry, same]⟩
    · rcases ih (i + 1) with nobody | ⟨j, later, found⟩
      · exact .inl (by simp [wantedEntry, same, nobody])
      · exact .inr ⟨j, by omega, by simp [wantedEntry, same, found]⟩

theorem wantedEntry_ne_invalid (topic : List UInt8) (i : Nat)
    (table : List PublishReceptionHandler) : wantedEntry topic i table ≠ .invalid := by
  rcases wantedEntry_index topic i table with nobody | ⟨j, -, found⟩
  · simp [nobody]
  · simp [found]

theorem text_begins {registered topic : List UInt8}
    (string : CString.text registered = some topic) : topic <+: registered :=
  (List.prefix_append topic [0]).trans (CString.text_eq_some.mp string).2

theorem called_wanted_iff (topic rest : List UInt8) (i : Nat)
    (table : List PublishReceptionHandler) :
    called (topic ++ rest) topic.length i table = wantedEntry topic i table ↔
      Settled topic table := by
  induction table generalizing i with
  | nil => exact iff_of_true rfl trivial
  | cons entry others ih =>
    cases entry with
    | none =>
      simp [called, wantedEntry, Settled, (wantedEntry_ne_invalid topic (i + 1) others).symm]
    | some registered =>
      rw [called, memcmpEqual_begins, wantedEntry, Settled]
      by_cases begins : topic <+: registered
      · have notDiffers : ¬ Differs topic registered := fun differs => differs.1 begins
        by_cases same : CString.text registered = some topic
        · simp [begins, same]
        · have notHere : wantedEntry topic (i + 1) others ≠ .entry i := by
            rcases wantedEntry_index topic (i + 1) others with nobody | ⟨j, later, found⟩
            · simp [nobody]
            · rw [found]
              intro equal
              obtain rfl : j = i := by simpa using equal
              omega
          simp [begins, same, notDiffers, notHere.symm]
      · have other : ¬ CString.text registered = some topic := fun string =>
          begins (text_begins string)
        -- A registered topic that the received one begins with is compared beyond its end.
        by_cases short : registered <+: topic
        · have notDiffers : ¬ Differs topic registered := fun differs => differs.2 short
          simp [begins, short, other, notDiffers,
            (wantedEntry_ne_invalid topic (i + 1) others).symm]
        · have differs : Differs topic registered := ⟨begins, short⟩
          simpa [begins, short, other, differs] using ih (i + 1)

def overruns (packet : RxPublishPacket) : Bool :=
  packet.topic.length > topicSize || packet.payload.length > payloadArraySize

theorem deliver_called (core : MqttCore) :
    deliver core.publishRecvInfo (readPublishPacket core.rxbuff).1 =
      (if overruns (readPublishPacket core.rxbuff).1 then [.invalidAccess] else []) ++
        core.calledEntry.events (intoArray topicSize (readPublishPacket core.rxbuff).1.topic)
          (intoArray payloadArraySize (readPublishPacket core.rxbuff).1.payload) := by
  have overrun : (if (readPublishPacket core.rxbuff).1.topic.length > topicSize ∨
      (readPublishPacket core.rxbuff).1.payload.length > payloadArraySize then
        [MqttEvent.invalidAccess] else []) =
      if overruns (readPublishPacket core.rxbuff).1 then [.invalidAccess] else [] := by
    simp [overruns]
  cases table : core.publishRecvInfo with
  | none => simp only [deliver, calledEntry, table, overrun, Called.events]
  | some entries =>
    simp only [deliver, calledEntry, table, overrun, dispatch_called _ _ _ 0]

theorem intoArray_fits {size : Nat} {bytes : List UInt8} (fits : bytes.length ≤ size) :
    intoArray size bytes = bytes ++ List.replicate (size - bytes.length) 0 := by
  have whole : (bytes ++ List.replicate (size - bytes.length) 0).length = size := by
    rw [List.length_append, List.length_replicate]
    omega
  rw [intoArray, List.take_of_length_le (Nat.le_of_eq whole)]

theorem readPublishPacket_topicLength (rxbuff : Ring rxBuffSize) :
    (readPublishPacket rxbuff).1.topicLength = topicLengthOf rxbuff.contents := by
  simp [readPublishPacket, readRemainingLength_first, topicLengthOf]

theorem mqttCreatePublishPacket_created (core : MqttCore) (packet : MqttPublishPacket) :
    ∃ created : List MqttControlPacketType,
      (core.mqttCreatePublishPacket packet).2 = created.map MqttEvent.created := by
  by_cases on : core.mqttState = .connected
  · exact ⟨[.publish], by rw [mqttCreatePublishPacket, if_pos on]; rfl⟩
  · exact ⟨[], by rw [mqttCreatePublishPacket, if_neg on]; rfl⟩

theorem mqttProcessPublish_called (core : MqttCore)
    (callback : List UInt8 -> List UInt8 -> Option MqttPublishPacket) :
    ∃ created : List MqttControlPacketType, (core.mqttProcessPublish callback).2 =
      (if overruns (readPublishPacket core.rxbuff).1 then [.invalidAccess] else []) ++
        core.calledEntry.events (intoArray topicSize (readPublishPacket core.rxbuff).1.topic)
          (intoArray payloadArraySize (readPublishPacket core.rxbuff).1.payload) ++
        created.map MqttEvent.created := by
  rw [← deliver_called]
  cases answered : answer callback
      (deliver core.publishRecvInfo (readPublishPacket core.rxbuff).1) with
  | none => exact ⟨[], by simp [mqttProcessPublish, answered]⟩
  | some packet =>
    obtain ⟨created, events⟩ := mqttCreatePublishPacket_created
      { core with rxbuff := (readPublishPacket core.rxbuff).2 } packet
    exact ⟨created, by simp [mqttProcessPublish, answered, events]⟩

/-- What the call of the handler comes to: at most one callback, that of the entry. -/
def Dispatches (core : MqttCore)
    (callback : List UInt8 -> List UInt8 -> Option MqttPublishPacket) (entry : Called) : Prop :=
  core.calledEntry = entry ∧
    ∃ created : List MqttControlPacketType, (core.mqttProcessPublish callback).2 =
      (if overruns (readPublishPacket core.rxbuff).1 then [.invalidAccess] else []) ++
        entry.events (intoArray topicSize (readPublishPacket core.rxbuff).1.topic)
          (intoArray payloadArraySize (readPublishPacket core.rxbuff).1.payload) ++
        created.map MqttEvent.created

theorem dispatches_iff (core : MqttCore)
    (callback : List UInt8 -> List UInt8 -> Option MqttPublishPacket) (entry : Called) :
    core.Dispatches callback entry ↔ core.calledEntry = entry := by
  constructor
  · exact fun dispatches => dispatches.1
  · rintro rfl
    exact ⟨rfl, mqttProcessPublish_called core callback⟩

theorem topicDispatch_exact_iff (core : MqttCore)
    (callback : List UInt8 -> List UInt8 -> Option MqttPublishPacket)
    (first second : PublishReceptionHandler)
    (table : core.publishRecvInfo = some (first, second))
    (complete : (storedTopic core.rxbuff.contents).length =
      (topicLengthOf core.rxbuff.contents).toNat)
    (short : (storedTopic core.rxbuff.contents).length < topicSize) :
    core.Dispatches callback
        (wantedEntry (storedTopic core.rxbuff.contents) 0 [first, second]) ↔
      Settled (storedTopic core.rxbuff.contents) [first, second] := by
  have entry : core.calledEntry = called (storedTopic core.rxbuff.contents ++
      List.replicate (topicSize - (storedTopic core.rxbuff.contents).length) 0)
        (storedTopic core.rxbuff.contents).length 0 [first, second] := by
    simp only [calledEntry, table, readPublishPacket_topic, readPublishPacket_topicLength,
      intoArray_fits (Nat.le_of_lt short), complete]
  rw [dispatches_iff, entry]
  exact called_wanted_iff _ _ 0 [first, second]

def withPublish (topic payload : List UInt8) : MqttCore :=
  { boot with
    mqttState := .connected
    publishRecvInfo := some oneTopic
    rxbuff := boot.rxbuff.write (BrokerPacket.publish false topic payload).encode }

theorem topicDispatch_exact_topic :
    (withPublish [99, 47, 116] [111, 110]).Dispatches (fun _ _ => none)
      (wantedEntry (storedTopic (withPublish [99, 47, 116] [111, 110]).rxbuff.contents) 0
        [oneTopic.1, oneTopic.2]) :=
  (topicDispatch_exact_iff (withPublish [99, 47, 116] [111, 110]) (fun _ _ => none)
    oneTopic.1 oneTopic.2 rfl (by decide +kernel) (by decide +kernel)).mpr
      (.inl (by decide +kernel))

theorem topicDispatch_begun :
    ¬ (withPublish [99] [111, 110]).Dispatches (fun _ _ => none)
      (wantedEntry (storedTopic (withPublish [99] [111, 110]).rxbuff.contents) 0
        [oneTopic.1, oneTopic.2]) := by
  have called : (withPublish [99] [111, 110]).calledEntry = .entry 0 := by decide +kernel
  have wanted : wantedEntry (storedTopic (withPublish [99] [111, 110]).rxbuff.contents) 0
      [oneTopic.1, oneTopic.2] = .nobody := by decide +kernel
  rw [dispatches_iff, called, wanted]
  simp

theorem readPublishPacket_payload_eq (rxbuff : Ring rxBuffSize) :
    (readPublishPacket rxbuff).1.payload =
      (rxbuff.contents.drop (4 + (topicLengthOf rxbuff.contents).toNat)).take
        ((rxbuff.contents.getD 1 0 &&& 0x7f).toUInt32 - 2 -
          (topicLengthOf rxbuff.contents).toUInt32).toUInt16.toNat := by
  simp [readPublishPacket, readRemainingLength_first, mqttDecodeLength_first, topicLengthOf]

theorem text_intoArray {size : Nat} {bytes : List UInt8} (room : bytes.length < size)
    (nul : 0 ∉ bytes) : CString.text (intoArray size bytes) = some bytes := by
  obtain ⟨free, more⟩ : ∃ free, size - bytes.length = free + 1 := ⟨size - bytes.length - 1, by omega⟩
  rw [intoArray_fits (Nat.le_of_lt room), CString.text_eq_some, more, List.replicate_succ]
  exact ⟨nul, List.replicate free 0, by simp⟩

/-- The callback of the entry with this topic runs once, with the strings of the packet, and the
receive buffer is empty afterwards. -/
def Delivers (core : MqttCore) (callback : List UInt8 -> List UInt8 -> Option MqttPublishPacket)
    (table : List PublishReceptionHandler) (topic payload : List UInt8) : Prop :=
  (∃ i, core.calledEntry = .entry i ∧ wantedEntry topic 0 table = .entry i) ∧
    (∃ topicArray payloadArray, ∃ created : List MqttControlPacketType,
      (core.mqttProcessPublish callback).2 =
        .published topicArray payloadArray :: created.map MqttEvent.created ∧
      CString.text topicArray = some topic ∧ CString.text payloadArray = some payload) ∧
    (core.mqttProcessPublish callback).1.rxbuff.contents = []

theorem publish_encode (retain : Bool) (topic payload : List UInt8) :
    (BrokerPacket.publish retain topic payload).encode =
      (BrokerPacket.publish retain topic payload).header ::
        (encodeRemainingLength (2 + topic.length + payload.length) ++
          (bigEndian (UInt16.ofNat topic.length) ++ topic ++ payload)) := by
  simp [BrokerPacket.encode, BrokerPacket.body, Nat.add_assoc]

theorem readPublishPacket_short (rxbuff : Ring rxBuffSize) (retain : Bool)
    (topic payload : List UInt8) (short : 2 + topic.length + payload.length < 128)
    (received : rxbuff.contents = (BrokerPacket.publish retain topic payload).encode) :
    (readPublishPacket rxbuff).1.topic = topic ∧
      (readPublishPacket rxbuff).1.topicLength.toNat = topic.length ∧
      (readPublishPacket rxbuff).1.payload = payload := by
  rw [publish_encode, encodeRemainingLength_small short] at received
  have length : topicLengthOf rxbuff.contents = UInt16.ofNat topic.length := by
    simp only [topicLengthOf, received, bigEndian, List.cons_append, List.nil_append,
      List.getD_cons_succ, List.getD_cons_zero]
    exact ofBigEndian_bytes _
  have count : (UInt16.ofNat topic.length).toNat = topic.length := by
    rw [UInt16.toNat_ofNat']
    omega
  have first : rxbuff.contents.getD 1 0 = UInt8.ofNat (2 + topic.length + payload.length) := by
    simp [received]
  -- Below 128 the mask takes nothing from the length byte.
  have whole : (UInt8.ofNat (2 + topic.length + payload.length) &&& 0x7f).toUInt32.toNat =
      2 + topic.length + payload.length := by
    have mask : (0x7f : UInt8).toNat = 2 ^ 7 - 1 := rfl
    rw [UInt8.toNat_toUInt32, UInt8.toNat_and, UInt8.toNat_ofNat', mask,
      Nat.and_two_pow_sub_one_eq_mod]
    omega
  have remaining : ((UInt8.ofNat (2 + topic.length + payload.length) &&& 0x7f).toUInt32 - 2 -
      (UInt16.ofNat topic.length).toUInt32).toUInt16.toNat = payload.length := by
    have fits : 2 + (UInt16.ofNat topic.length).toNat ≤
        (UInt8.ofNat (2 + topic.length + payload.length) &&& 0x7f).toUInt32.toNat := by
      rw [whole, count]
      omega
    obtain ⟨enough, rest⟩ := (subtractions_iff _ _).mpr fits
    have two : (2 : UInt32).toNat = 2 := rfl
    rw [UInt32.toNat_toUInt16, UInt32.toNat_sub_of_le _ _ rest,
      UInt32.toNat_sub_of_le _ _ enough, whole, UInt16.toNat_toUInt32, count, two]
    omega
  refine ⟨?_, ?_, ?_⟩
  · rw [readPublishPacket_topic, storedTopic, length, count, received]
    simp [bigEndian]
  · rw [readPublishPacket_topicLength, length, count]
  · have split : rxbuff.contents = (BrokerPacket.publish retain topic payload).header ::
        UInt8.ofNat (2 + topic.length + payload.length) ::
          (bigEndian (UInt16.ofNat topic.length) ++ topic) ++ payload := by
      simp [received]
    rw [readPublishPacket_payload_eq, first, length, count, remaining, split, List.drop_left',
      List.take_of_length_le (Nat.le_refl _)]
    simp only [List.length_cons, List.length_append, bigEndian_length]
    omega

theorem readPublishPacket_long (rxbuff : Ring rxBuffSize) (retain : Bool)
    (topic payload : List UInt8) (long : 128 ≤ 2 + topic.length + payload.length)
    (small : 2 + topic.length + payload.length < 128 * 128)
    (received : rxbuff.contents = (BrokerPacket.publish retain topic payload).encode) :
    topicSize < (readPublishPacket rxbuff).1.topic.length := by
  have next : (2 + topic.length + payload.length) / 128 < 128 := by omega
  have size : topicSize = 100 := rfl
  rw [publish_encode, encodeRemainingLength_large long, encodeRemainingLength_small next]
    at received
  have length : 256 ≤ (topicLengthOf rxbuff.contents).toNat := by
    have high : (UInt8.ofNat ((2 + topic.length + payload.length) / 128)).toNat =
        (2 + topic.length + payload.length) / 128 := by
      rw [UInt8.toNat_ofNat']
      omega
    have bytes : topicLengthOf rxbuff.contents =
        ofBigEndian (UInt8.ofNat ((2 + topic.length + payload.length) / 128))
          ((UInt16.ofNat topic.length) >>> 8).toUInt8 := by
      simp [topicLengthOf, received, bigEndian]
    rw [bytes, ofBigEndian_toNat, high]
    omega
  have whole : rxbuff.contents.length = 5 + topic.length + payload.length := by
    rw [received]
    simp only [List.length_cons, List.length_append, bigEndian_length, List.length_nil]
    omega
  rw [readPublishPacket_topic, storedTopic, List.length_take, List.length_drop, whole]
  omega

theorem publish_delivers_iff (core : MqttCore)
    (callback : List UInt8 -> List UInt8 -> Option MqttPublishPacket)
    (first second : PublishReceptionHandler)
    (table : core.publishRecvInfo = some (first, second)) (retain : Bool)
    (topic payload : List UInt8) (topicShort : topic.length < topicSize)
    (payloadShort : payload.length < payloadArraySize) (payloadNul : 0 ∉ payload)
    (subscribed : first.bind CString.text = some topic ∨ second.bind CString.text = some topic)
    (received : core.rxbuff.contents = (BrokerPacket.publish retain topic payload).encode) :
    core.Delivers callback [first, second] topic payload ↔
      2 + topic.length + payload.length ≤ 127 ∧ Settled topic [first, second] := by
  have topicNul : 0 ∉ topic := by
    rcases subscribed with string | string
    · obtain ⟨array, -, string⟩ := Option.bind_eq_some_iff.mp string
      exact (CString.text_eq_some.mp string).1
    · obtain ⟨array, -, string⟩ := Option.bind_eq_some_iff.mp string
      exact (CString.text_eq_some.mp string).1
  have emptied : (core.mqttProcessPublish callback).1.rxbuff.contents = [] := rfl
  obtain ⟨created, events⟩ := mqttProcessPublish_called core callback
  have sizes : topicSize = 100 ∧ payloadArraySize = 200 := ⟨rfl, rfl⟩
  -- The reception code reads one length byte.
  by_cases short : 2 + topic.length + payload.length < 128
  · obtain ⟨sameTopic, sameLength, samePayload⟩ :=
      readPublishPacket_short core.rxbuff retain topic payload short received
    have fits : overruns (readPublishPacket core.rxbuff).1 = false := by
      simp only [overruns, sameTopic, samePayload, gt_iff_lt, Bool.or_eq_false_iff,
        decide_eq_false_iff_not, not_lt]
      omega
    have entry : core.calledEntry = wantedEntry topic 0 [first, second] ↔
        Settled topic [first, second] := by
      have called : core.calledEntry = called (topic ++
          List.replicate (topicSize - topic.length) 0) topic.length 0 [first, second] := by
        simp only [calledEntry, table, sameTopic, sameLength,
          intoArray_fits (Nat.le_of_lt topicShort)]
      rw [called]
      exact called_wanted_iff _ _ 0 [first, second]
    have within : 2 + topic.length + payload.length ≤ 127 := by omega
    rw [← entry]
    simp only [within, true_and]
    constructor
    · rintro ⟨⟨i, here, wanted⟩, -⟩
      rw [here, wanted]
    · intro right
      obtain ⟨i, wanted⟩ : ∃ i, wantedEntry topic 0 [first, second] = .entry i := by
        by_cases same : first.bind CString.text = some topic
        · exact ⟨0, by simp [wantedEntry, same]⟩
        · exact ⟨1, by simp [wantedEntry, same, subscribed.resolve_left same]⟩
      refine ⟨⟨i, right.trans wanted, wanted⟩, ⟨_, _, created, ?_, text_intoArray topicShort topicNul,
        text_intoArray payloadShort payloadNul⟩, emptied⟩
      rw [events, fits, right, wanted, sameTopic, samePayload]
      rfl
  · have beyond := readPublishPacket_long core.rxbuff retain topic payload (by omega) (by omega)
      received
    have overrun : overruns (readPublishPacket core.rxbuff).1 = true := by
      simp [overruns, beyond]
    refine iff_of_false ?_ fun condition => short (by omega)
    rintro ⟨-, ⟨topicArray, payloadArray, others, delivered, -⟩, -⟩
    rw [events, overrun] at delivered
    simp at delivered

theorem publish_delivers_on :
    (withPublish [99, 47, 116] [111, 110]).Delivers (fun _ _ => none) [oneTopic.1, oneTopic.2]
      [99, 47, 116] [111, 110] :=
  (publish_delivers_iff (withPublish [99, 47, 116] [111, 110]) (fun _ _ => none) oneTopic.1
    oneTopic.2 rfl false [99, 47, 116] [111, 110] (by decide) (by decide) (by decide)
    (.inl (by decide)) (by decide +kernel)).mpr ⟨by decide, .inl (by decide)⟩

theorem publish_two_length_bytes :
    ¬ (withPublish [99, 47, 116] (List.replicate 123 120)).Delivers (fun _ _ => none)
      [oneTopic.1, oneTopic.2] [99, 47, 116] (List.replicate 123 120) := by
  rintro ⟨⟨i, called, -⟩, -⟩
  have invalid : (withPublish [99, 47, 116] (List.replicate 123 120)).calledEntry = .invalid := by
    decide +kernel
  rw [invalid] at called
  simp at called

end MqttCore

end AvrVoiceControl
