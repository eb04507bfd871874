import AvrVoiceControl.InboundStream
import AvrVoiceControl.WincDelivery

set_option autoImplicit false

namespace AvrVoiceControl.Winc

open FlatMemory

/-- `BSD_SocketHandler`, as far as it calls socket.c, where the receive-handler table has one socket:
`BSD_close` closes it. -/
def bsdSocketHandler (mqttSocket : Option Sock) : App := fun past =>
  match past.getLast? with
  | some (.callback (.connect sock error)) =>
    if mqttSocket = some sock ∧ error < 0 then .call (.close (some sock)) fun _ => .done else .done
  | some (.callback (.recvStatus sock isFrom _ status)) =>
    -- The buffer is NULL, which only `SOCKET_MSG_RECVFROM` looks at.
    if mqttSocket = some sock ∧ (isFrom = true ∨ status ≤ 0) then
      .call (.close (some sock)) fun _ => .done
    else .done
  | _ => .done

def hear (null : Nat -> UInt8) (mqttSocket : Option Sock) (core : MqttCore) : Callback -> MqttCore
  | .recvData sock _ _ _ data _ _ =>
    if mqttSocket = some sock then core.mqttClientReceive data else core
  | .recvStatus sock false _ status =>
    if mqttSocket = some sock ∧ 0 < status then
      core.mqttClientReceive (block null 0 status.toInt.toNat)
    else core
  | _ => core

/-- The cloud service meets the condition on callbacks: its callbacks create no sockets. -/
theorem bsdSocketHandler_within (mqttSocket : Option Sock) (past : List Event) :
    (bsdSocketHandler mqttSocket past).Within false := by
  have closing (sock : Sock) :
      (Program.call (.close (some sock)) fun _ => .done).Within false := by
    constructor
    · intro opens
      cases opens
    · intro result
      trivial
  rw [bsdSocketHandler]
  split
  next =>
    split
    · exact closing _
    · trivial
  next =>
    split
    · exact closing _
    · trivial
  next => trivial

/-- Of data that come in pieces of the size of the receive buffer, the last piece is kept, as far as
eight bits count it. -/
def kept (data : List UInt8) : List UInt8 :=
  let lastPiece := data.drop (rxBuffSize * ((data.length - 1) / rxBuffSize))
  lastPiece.take (lastPiece.length % 256)

theorem kept_short {data : List UInt8} (short : data.length ≤ rxBuffSize) :
    kept data = data.take (data.length % 256) := by
  have first : (data.length - 1) / rxBuffSize = 0 :=
    Nat.div_eq_of_lt (Nat.lt_of_le_of_lt (Nat.sub_le_sub_right short 1) (by decide))
  rw [kept, first]
  rfl

theorem kept_append {front back : List UInt8} (whole : front.length = rxBuffSize)
    (some : back ≠ []) : kept (front ++ back) = kept back := by
  have positive : 0 < back.length := List.length_pos_of_ne_nil some
  have later : rxBuffSize * (((front ++ back).length - 1) / rxBuffSize) =
      front.length + rxBuffSize * ((back.length - 1) / rxBuffSize) := by
    rw [List.length_append, whole]
    unfold rxBuffSize
    omega
  rw [kept, later, List.drop_length_add_append]
  rfl

theorem kept_block (memory : Nat -> UInt8) {place length : Nat} (long : rxBuffSize < length) :
    kept (block memory place length) =
      kept (block memory (place + rxBuffSize) (length - rxBuffSize)) := by
  have split : block memory place length = block memory place rxBuffSize ++
      block memory (place + rxBuffSize) (length - rxBuffSize) := by
    rw [← block_add, Nat.add_sub_of_le (Nat.le_of_lt long)]
  rw [split, kept_append (block_length _ _ _)]
  intro none
  have empty := congrArg List.length none
  rw [block_length] at empty
  exact absurd empty (Nat.sub_ne_zero_of_lt long)

theorem kept_eq_iff (data : List UInt8) : kept data = data ↔ data.length ≤ 255 := by
  constructor
  · intro same
    have counted : (kept data).length ≤ 255 := by
      rw [kept, List.length_take]
      omega
    rwa [same] at counted
  · intro short
    rw [kept_short (Nat.le_trans short (by decide)), Nat.mod_eq_of_lt (by omega), List.take_length]

theorem received_contents (core : MqttCore) {data : List UInt8}
    (fits : data.length ≤ rxBuffSize) :
    (core.mqttClientReceive data).rxbuff.contents = kept data := by
  have count : (UInt8.ofNat data.length).toNat = data.length % 256 := rfl
  have counted : (data.take (data.length % 256)).length ≤ rxBuffSize := by
    rw [List.length_take]
    omega
  rw [kept_short fits]
  simp [MqttCore.mqttClientReceive, MqttCore.mqttGetReceivedData, BoundedQueue.push, count]
  omega

section Loop

variable {memory null : Nat -> UInt8} {sock : Sock} {isFrom : Bool} {addr : Peer}

theorem turned_bsdSocketHandler (mqttSocket : Option Sock) (address : UInt32)
    (n remainingSize : UInt16) (hif : Hif) (host : Host) :
    turned (bsdSocketHandler mqttSocket) memory sock isFrom addr address n remainingSize hif host =
      { host with
        hif := hif
        trace := host.trace ++ [.callback (.recvData sock isFrom addr (host.sockets sock).userBuffer
          (block memory address.toNat n.toNat) n.toInt16 remainingSize)] } := by
  rw [turned, Host.notify, bsdSocketHandler, List.getLast?_append, List.getLast?_singleton]
  rfl

theorem readLoop_heard {turns : Nat} {address : UInt32} {readCount : UInt16} {host : Host}
    (core : MqttCore) (enough : readCount.toNat < turns)
    (pending : Pending host.hif address readCount)
    (used : (host.sockets sock).isUsed = true) (given : (host.sockets sock).userBuffer ≠ 0)
    (size : (host.sockets sock).userBufferSize = 1000) :
    ∃ next chunks,
      Host.readLoop (bsdSocketHandler (some sock)) memory sock isFrom addr turns address readCount
        readCount host = some next ∧
      callbacks next.trace = callbacks host.trace ++ chunks ∧ next.hif.rxDone = false ∧
      (chunks.foldl (hear null (some sock)) core).rxbuff.contents =
        kept (block memory address.toNat readCount.toNat) ∧
      (readCount.toNat ≤ rxBuffSize -> chunks.foldl (hear null (some sock)) core =
        core.mqttClientReceive (block memory address.toNat readCount.toNat)) := by
  induction turns generalizing address readCount host core with
  | zero => omega
  | succ turns ih =>
    by_cases short : rxBuffSize < readCount.toNat
    -- What the client keeps of this piece, the next one replaces.
    next =>
      obtain ⟨rest, further, less⟩ := pending.next (n := 1000) short
        (host.hif.accesses ++ [.block address 1000])
      rw [readLoop_short pending given (by rw [size]; decide) size short
        (turned_bsdSocketHandler _ _ _ _ _ _)]
      generalize piece : Callback.recvData sock isFrom addr (host.sockets sock).userBuffer
        (block memory address.toNat (1000 : UInt16).toNat) (1000 : UInt16).toInt16
        (readCount - 1000) = callback
      obtain ⟨next, chunks, runs, told, done, left, _⟩ := @ih (address + (1000 : UInt16).toUInt32)
        (readCount - 1000) { host with
          hif.accesses := host.hif.accesses ++ [.block address 1000]
          trace := host.trace ++ [.callback callback] } (hear null (some sock) core callback)
        (by rw [rest]; change readCount.toNat - rxBuffSize < turns; unfold rxBuffSize; omega)
        less used given size
      rw [if_neg (by rw [used]; decide)]
      refine ⟨next, callback :: chunks, runs, ?_, done, ?_, ?_⟩
      · rw [told, callbacks, List.filterMap_append, List.append_assoc]
        rfl
      · rw [List.foldl_cons, left, kept_block memory short, further, rest]
        rfl
      · intro fits
        exact absurd fits (Nat.not_le_of_lt short)
    next =>
      have fits := Nat.not_lt.mp short
      rw [readLoop_last pending given (by rw [size]; exact fits)
          (by rw [size]; exact Nat.le_add_left_of_le (by decide)),
        turned_bsdSocketHandler]
      generalize piece : Callback.recvData sock isFrom addr (host.sockets sock).userBuffer
        (block memory address.toNat readCount.toNat) readCount.toInt16 0 = callback
      have heard : hear null (some sock) core callback =
          core.mqttClientReceive (block memory address.toNat readCount.toNat) := by
        rw [← piece]
        exact if_pos rfl
      refine ⟨_, [callback], rfl, ?_, rfl, ?_, ?_⟩
      · rw [callbacks, List.filterMap_append]
        rfl
      · rw [List.foldl_cons, heard]
        exact received_contents core (by rw [block_length]; exact fits)
      · intro _
        rw [List.foldl_cons, heard]
        rfl

end Loop

section Messages

variable {host : Host} {interrupt : Interrupt} {isFrom : Bool} {reply : RecvReply}

theorem data_heard (null : Nat -> UInt8) (core : MqttCore)
    (message : DataMessage interrupt isFrom reply)
    (session : reply.sessionId = (host.sockets reply.sock).sessionId)
    (faultless : host.hif.faults = []) (used : (host.sockets reply.sock).isUsed = true)
    (given : (host.sockets reply.sock).userBuffer ≠ 0)
    (size : (host.sockets reply.sock).userBufferSize = 1000) :
    ∃ next chunks data,
      host.hifIsr (bsdSocketHandler (some reply.sock)) interrupt = some (true, next) ∧
      callbacks next.trace = callbacks host.trace ++ chunks ∧
      data = block interrupt.memory (dataStart interrupt reply).toNat reply.recvStatus.toInt.toNat ∧
      (chunks.foldl (hear null (some reply.sock)) core).rxbuff.contents = kept data ∧
      ((chunks.foldl (hear null (some reply.sock)) core).rxbuff.contents = data ↔
        reply.recvStatus.toInt ≤ 255) ∧
      (reply.recvStatus.toInt ≤ rxBuffSize ->
        chunks.foldl (hear null (some reply.sock)) core = (core.inboundStep (.segment data)).1) := by
  have prepared : (host.sockets reply.sock).Prepared := by
    intro _
    refine ⟨given, ?_⟩
    rw [size]
    decide
  have status := (status_toNat message).2.2
  obtain ⟨next, chunks, loops, told, done, left, whole⟩ := @readLoop_heard interrupt.memory null
    reply.sock isFrom reply.remoteAddr (reply.recvStatus.toUInt16.toNat + 1)
    (dataStart interrupt reply) reply.recvStatus.toUInt16 (replied host interrupt reply) core
    (Nat.lt_succ_self _) (replied_pending message faultless) (by rw [replied_socket]; exact used)
    (by rw [replied_socket]; exact given) (by rw [replied_socket]; exact size)
  have isr := hifIsr_ipCb message faultless
    ((ipCb_loop message session faultless used prepared).trans loops)
  have finished : next.finishRx = (true, next) := by
    rw [Host.finishRx, done]
    rfl
  rw [finished] at isr
  rw [status, Int.toNat_natCast]
  refine ⟨next, chunks, _, isr, told, rfl, left, ?_, ?_⟩
  · rw [left, kept_eq_iff, block_length]
    omega
  · intro fits
    exact whole (by omega)

def listening : Host :=
  (((Host.init []).perform (.socket 2 1 0)).2.perform (.recv (some 0) 100 1000 0)).2

def longReply : RecvReply := ⟨⟨0, 0⟩, 1300, 16, 0, 1⟩

def longMessage : Interrupt :=
  ⟨5297, 0xd0000, .ip, 1324, .recv false longReply, fun place => UInt8.ofNat place, []⟩

theorem data_heard_long :
    ∃ next chunks data,
      listening.hifIsr (bsdSocketHandler (some 0)) longMessage = some (true, next) ∧
      callbacks next.trace = callbacks listening.trace ++ chunks ∧
      data = block longMessage.memory (dataStart longMessage longReply).toNat 1300 ∧
      (chunks.foldl (hear (fun _ => 0) (some 0)) .boot).rxbuff.contents = kept data ∧
      ((chunks.foldl (hear (fun _ => 0) (some 0)) .boot).rxbuff.contents = data ↔
        (1300 : Int) ≤ 255) ∧
      ((1300 : Int) ≤ rxBuffSize -> chunks.foldl (hear (fun _ => 0) (some 0)) .boot =
        (MqttCore.boot.inboundStep (.segment data)).1) :=
  @data_heard listening longMessage false longReply (fun _ => 0) .boot
    ⟨by decide, rfl, rfl, rfl, by decide, by decide, by decide, by decide, by decide⟩ rfl rfl rfl
    (by decide) rfl

example : kept (block longMessage.memory (dataStart longMessage longReply).toNat 1300) =
    block longMessage.memory ((dataStart longMessage longReply).toNat + 1000) 44 := by
  decide +kernel

example : kept (List.replicate 256 7) = [] := by decide +kernel

end Messages

end AvrVoiceControl.Winc
