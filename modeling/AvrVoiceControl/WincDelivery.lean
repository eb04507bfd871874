import AvrVoiceControl.WincSessions

set_option autoImplicit false

namespace AvrVoiceControl.Winc

open FlatMemory

def Event.callback? : Event -> Option Callback
  | .callback heard => some heard
  | _ => none

def callbacks (trace : List Event) : List Callback := trace.filterMap Event.callback?

/-- What happens for data from an address on: callbacks, each with as much as the socket's buffer
holds, and the calls of each, which may set another buffer; what is read for them, and how much is
left. -/
inductive Chunks (memory : Nat -> UInt8) (sock : Sock) (isFrom : Bool) (addr : Peer) :
    UInt16 × UInt16 -> UInt32 -> UInt16 -> List Event -> List Access -> UInt16 -> Prop
  | done (into : UInt16 × UInt16) (address : UInt32) (count : UInt16) :
    Chunks memory sock isFrom addr into address count [] [] count
  | chunk {buffer size : UInt16} {address : UInt32} {count left : UInt16} {calls events : List Event}
    {reads : List Access} (n : UInt16) (some : n ≠ 0) (fits : n.toNat = min size.toNat count.toNat)
    (called : ∀ event ∈ calls, event.Called false)
    (rest : Chunks memory sock isFrom addr (calls.foldl (setBuffer sock) (buffer, size))
      (address + n.toUInt32) (count - n) events reads left) :
    Chunks memory sock isFrom addr (buffer, size) address count
      (.callback (.recvData sock isFrom addr buffer (block memory address.toNat n.toNat) n.toInt16
        (count - n)) :: (calls ++ events)) (.block address n :: reads) left

theorem callbacks_called {opening : Bool} {calls : List Event}
    (called : ∀ event ∈ calls, event.Called opening) : callbacks calls = [] := by
  rw [callbacks, List.filterMap_eq_nil_iff]
  intro event member
  have allowed := called event member
  cases event with
  | callback | reinit => cases allowed
  | opened | closed | buffer | request => rfl

def Callback.data : Callback -> List UInt8
  | .recvData _ _ _ _ data _ _ => data
  | _ => []

section Chunks

variable {memory : Nat -> UInt8} {sock : Sock} {isFrom : Bool} {addr : Peer}
  {into : UInt16 × UInt16} {address : UInt32} {count left : UInt16} {events : List Event}
  {reads : List Access}

theorem Chunks.data (pieces : Chunks memory sock isFrom addr into address count events reads left)
    (inMemory : address.toNat + count.toNat < 2 ^ 32) : left.toNat ≤ count.toNat ∧
      (callbacks events).flatMap Callback.data =
        block memory address.toNat (count.toNat - left.toNat) := by
  induction pieces with
  | done into address count => exact ⟨le_rfl, by rw [Nat.sub_self]; rfl⟩
  | @chunk buffer size address count left calls events reads n some fits called rest ih =>
    have less : n.toNat ≤ count.toNat := by omega
    have shorter : (count - n).toNat = count.toNat - n.toNat := UInt16.toNat_sub_of_le _ _ less
    have further : (address + n.toUInt32).toNat = address.toNat + n.toNat := by
      rw [UInt32.toNat_add, UInt16.toNat_toUInt32, Nat.mod_eq_of_lt (by omega)]
    obtain ⟨less, data⟩ := ih (by omega)
    have total : count.toNat - left.toNat = n.toNat + ((count - n).toNat - left.toNat) := by omega
    have heard : callbacks (calls ++ events) = callbacks events := by
      rw [callbacks, List.filterMap_append, ← callbacks, callbacks_called called]
      rfl
    refine ⟨by omega, ?_⟩
    rw [callbacks, List.filterMap_cons]
    dsimp only [Event.callback?]
    rw [← callbacks, heard, List.flatMap_cons, data, further, total, block_add]
    rfl

end Chunks

def Socket.Prepared (socket : Socket) : Prop :=
  socket.isUsed = true -> socket.userBuffer ≠ 0 ∧ socket.userBufferSize ≠ 0

section Calls

variable {host other : Host} {sock : Sock} {app : App}

theorem withSocket_prepared (prepared : (host.sockets sock).Prepared) {caller : Sock}
    {socket : Socket} (set : socket.Prepared) :
    ((host.withSocket caller socket).sockets sock).Prepared := by
  dsimp only [Host.withSocket]
  by_cases same : sock = caller
  next =>
    rw [same, Function.update_self]
    exact set
  next =>
    rw [Function.update_of_ne same]
    exact prepared

theorem perform_prepared (prepared : (host.sockets sock).Prepared) {call : ApiCall}
    (calm : call.opens = false) : ((host.perform call).2.sockets sock).Prepared := by
  have performs := @perform_performs host call
  have set (caller : Sock) {buffer length : UInt16} (valid : buffer ≠ 0 ∧ length ≠ 0) :
      ((setting host caller buffer length).sockets sock).Prepared :=
    withSocket_prepared prepared fun _ => valid
  rw [calm] at performs
  generalize (host.perform call).2 = other at performs
  cases performs with
  | nothing => exact prepared
  | asks => exact prepared
  | sets _ _ valid => exact set _ valid
  | receives _ _ _ _ valid => exact set _ valid
  | @closes _ caller cmd used =>
    apply @withSocket_prepared (host.request _).2 sock prepared caller Socket.cleared
    intro used
    cases used

theorem run_prepared {program : Program} (prepared : (host.sockets sock).Prepared)
    (calm : program.Within false) : ((program.run host).sockets sock).Prepared := by
  induction program generalizing host with
  | done => exact prepared
  | call first next ih =>
    exact ih _ (perform_prepared prepared (by simpa using calm.1)) (calm.2 _)

theorem notify_spec (calm : ∀ past, (app past).Within false) (faultless : host.hif.faults = [])
    (prepared : (host.sockets sock).Prepared) (callback : Callback) :
    ∃ calls, (Host.notify app host callback).trace = host.trace ++ .callback callback :: calls ∧
      (∀ event ∈ calls, event.Called false) ∧
      (Host.notify app host callback).buffer sock =
        calls.foldl (setBuffer sock) (host.buffer sock) ∧
      (Host.notify app host callback).hif = host.hif ∧
      ((Host.notify app host callback).sockets sock).Prepared := by
  obtain ⟨calls, trace, called, _, same, buffers⟩ := notify_extends calm host callback
  refine ⟨calls, ?_, called, buffers rfl sock, same faultless, run_prepared prepared (calm _)⟩
  rw [trace, Host.note, List.append_assoc, List.singleton_append]

end Calls

section Loop

variable {memory : Nat -> UInt8} {sock : Sock} {isFrom : Bool} {addr : Peer} {app : App}

/-- How the loop ends: the WINC is told so, with everything read or the socket closed, or it is not,
and the buffer is longer than what is left by more than the difference of 16 bits can hold. -/
def Ended (host next : Host) (sock : Sock) (reads : List Access) (left : UInt16) : Prop :=
  next.hif = { host.hif with
      rxDone := false, accesses := host.hif.accesses ++ (reads ++ [.rxDone]) } ∧
    (left = 0 ∨ (next.sockets sock).isUsed = false) ∨
  next.hif = { host.hif with accesses := host.hif.accesses ++ reads } ∧
    left.toNat + 2 ^ 15 < (next.sockets sock).userBufferSize.toNat

theorem longer_iff {readCount size : UInt16} (small : readCount.toNat < 2 ^ 15) :
    decide (0 < (readCount - size).toInt16) = true ↔
      size.toNat < readCount.toNat ∨ readCount.toNat + 2 ^ 15 < size.toNat := by
  have bounded := size.toNat_lt
  have difference : (readCount - size).toNat = (65536 - size.toNat + readCount.toNat) % 65536 :=
    UInt16.toNat_sub _ _
  rw [decide_eq_true_eq, int16_positive, difference]
  omega

structure Pending (hif : Hif) (address : UInt32) (readCount : UInt16) : Prop where
  faultless : hif.faults = []
  positive : readCount ≠ 0
  place : address ≠ 0
  begins : hif.rxAddr.toNat ≤ address.toNat
  ends : address.toNat + readCount.toNat ≤ hif.rxAddr.toNat + hif.rxSize.toNat
  inMemory : hif.rxAddr.toNat + hif.rxSize.toNat < 2 ^ 32
  window : hif.rxSize.toNat < 2 ^ 15

theorem Pending.small {hif : Hif} {address : UInt32} {readCount : UInt16}
    (pending : Pending hif address readCount) : readCount.toNat < 2 ^ 15 := by
  have begins := pending.begins
  have ends := pending.ends
  have window := pending.window
  omega

theorem Pending.next {hif : Hif} {address : UInt32} {readCount n : UInt16}
    (pending : Pending hif address readCount) (short : n.toNat < readCount.toNat)
    (accesses : List Access) :
    (readCount - n).toNat = readCount.toNat - n.toNat ∧
      (address + n.toUInt32).toNat = address.toNat + n.toNat ∧
      Pending { hif with accesses := accesses } (address + n.toUInt32) (readCount - n) := by
  have begins := pending.begins
  have ends := pending.ends
  have inMemory := pending.inMemory
  have rest : (readCount - n).toNat = readCount.toNat - n.toNat :=
    UInt16.toNat_sub_of_le _ _ (Nat.le_of_lt short)
  have further : (address + n.toUInt32).toNat = address.toNat + n.toNat := by
    rw [UInt32.toNat_add, UInt16.toNat_toUInt32, Nat.mod_eq_of_lt (by omega)]
  have more : readCount - n ≠ 0 := by
    intro none
    rw [none] at rest
    change 0 = _ at rest
    omega
  have place : address + n.toUInt32 ≠ 0 := by
    intro zero
    have nonzero := mt UInt32.toNat_inj.mp pending.place
    rw [zero] at further
    change 0 = _ at further
    change address.toNat ≠ 0 at nonzero
    omega
  refine ⟨rest, further, pending.faultless, more, place, ?_, ?_, inMemory, pending.window⟩
  · rw [further]
    dsimp only
    omega
  · rw [further, rest]
    dsimp only
    omega

def turned (app : App) (memory : Nat -> UInt8) (sock : Sock) (isFrom : Bool) (addr : Peer)
    (address : UInt32) (n remainingSize : UInt16) (hif : Hif) (host : Host) : Host :=
  Host.notify app { host with hif := hif } (.recvData sock isFrom addr
    (host.sockets sock).userBuffer (block memory address.toNat n.toNat) n.toInt16 remainingSize)

theorem readLoop_short {turns : Nat} {address : UInt32} {readCount : UInt16} {host : Host}
    (pending : Pending host.hif address readCount) (given : (host.sockets sock).userBuffer ≠ 0)
    (room : (host.sockets sock).userBufferSize ≠ 0) {size : UInt16}
    (own : (host.sockets sock).userBufferSize = size) (short : size.toNat < readCount.toNat)
    {after : Host} (turn : turned app memory sock isFrom addr address size (readCount - size)
      { host.hif with accesses := host.hif.accesses ++ [.block address size] } host = after) :
    Host.readLoop app memory sock isFrom addr (turns + 1) address readCount readCount host =
      if (after.sockets sock).isUsed = false then some (after.receive ⟨0, true, 0, true⟩).2
      else Host.readLoop app memory sock isFrom addr turns (address + size.toUInt32)
        (readCount - size) (readCount - size) after := by
  have ends := pending.ends
  have longer := (@longer_iff readCount size pending.small).mpr (.inl short)
  have more := (pending.next short []).2.2.positive
  rw [own] at room
  have received := @Hif.receive_inside host.hif
    ⟨address, (host.sockets sock).userBuffer = 0, size, false⟩ pending.faultless pending.place
    (by simpa using given) room pending.begins (by dsimp only; omega) pending.inMemory
  rw [if_neg (by dsimp only; simp; omega)] at received
  subst turn
  rw [Host.readLoop]
  dsimp only
  rw [own]
  simp only [longer, if_true, Bool.not_true, Host.receive, received]
  by_cases unused :
      ((turned app memory sock isFrom addr address size (readCount - size)
        { host.hif with accesses := host.hif.accesses ++ [.block address size] } host).sockets
          sock).isUsed = false
  next =>
    rw [if_pos unused]
    exact if_pos ⟨unused, more⟩
  next =>
    rw [if_neg unused]
    exact (if_neg fun ended => unused ended.1).trans (if_neg more)

theorem readLoop_last {turns : Nat} {address : UInt32} {readCount : UInt16} {host : Host}
    (pending : Pending host.hif address readCount) (given : (host.sockets sock).userBuffer ≠ 0)
    (reaches : readCount.toNat ≤ (host.sockets sock).userBufferSize.toNat)
    (near : (host.sockets sock).userBufferSize.toNat ≤ readCount.toNat + 2 ^ 15) :
    Host.readLoop app memory sock isFrom addr (turns + 1) address readCount readCount host =
      some (turned app memory sock isFrom addr address readCount 0
        { host.hif with
          rxDone := false
          accesses := host.hif.accesses ++ [.block address readCount, .rxDone] } host) := by
  have shorter : decide (0 < (readCount - (host.sockets sock).userBufferSize).toInt16) = false := by
    apply Bool.eq_false_iff.mpr
    intro longer
    have compared := (longer_iff pending.small).mp longer
    omega
  have received := @Hif.receive_inside host.hif
    ⟨address, (host.sockets sock).userBuffer = 0, readCount, true⟩ pending.faultless pending.place
    (by simpa using given) pending.positive pending.begins pending.ends pending.inMemory
  rw [if_pos (.inr rfl)] at received
  have nothing : readCount - readCount = 0 := sub_self _
  rw [Host.readLoop]
  dsimp only
  simp only [shorter, Bool.false_eq_true, if_false, Bool.not_false, Host.receive, received, nothing]
  exact (if_neg fun ended => ended.2 rfl).trans (if_pos trivial)

theorem readLoop_refused {turns : Nat} {address : UInt32} {readCount : UInt16} {host : Host}
    (pending : Pending host.hif address readCount) (given : (host.sockets sock).userBuffer ≠ 0)
    (room : (host.sockets sock).userBufferSize ≠ 0)
    (long : readCount.toNat + 2 ^ 15 < (host.sockets sock).userBufferSize.toNat) :
    Host.readLoop app memory sock isFrom addr (turns + 1) address readCount readCount host =
      some host := by
  have window := pending.window
  have longer := (longer_iff pending.small).mpr (.inr long)
  have refused := @Hif.receive_large host.hif
    ⟨address, (host.sockets sock).userBuffer = 0, (host.sockets sock).userBufferSize, false⟩
    pending.place (by simpa using given) room (by dsimp only; omega)
  rw [Host.readLoop]
  dsimp only
  simp only [longer, if_true, Bool.not_true, Host.receive, refused]

theorem turned_spec (calm : ∀ past, (app past).Within false) {host : Host} {hif : Hif}
    (faultless : hif.faults = []) (prepared : (host.sockets sock).Prepared) (address : UInt32)
    (n remainingSize : UInt16) :
    ∃ calls,
      (turned app memory sock isFrom addr address n remainingSize hif host).trace = host.trace ++
        .callback (.recvData sock isFrom addr (host.sockets sock).userBuffer
          (block memory address.toNat n.toNat) n.toInt16 remainingSize) :: calls ∧
      (∀ event ∈ calls, event.Called false) ∧
      (turned app memory sock isFrom addr address n remainingSize hif host).buffer sock =
        calls.foldl (setBuffer sock) (host.buffer sock) ∧
      (turned app memory sock isFrom addr address n remainingSize hif host).hif = hif ∧
      ((turned app memory sock isFrom addr address n remainingSize hif host).sockets
        sock).Prepared :=
  @notify_spec { host with hif := hif } sock app calm faultless prepared _

theorem last_delivered (calm : ∀ past, (app past).Within false) {address : UInt32}
    {readCount : UInt16} {host : Host} (pending : Pending host.hif address readCount)
    (prepared : (host.sockets sock).Prepared)
    (reaches : readCount.toNat ≤ (host.sockets sock).userBufferSize.toNat) {next : Host}
    (turn : turned app memory sock isFrom addr address readCount 0
      { host.hif with
        rxDone := false
        accesses := host.hif.accesses ++ [.block address readCount, .rxDone] } host = next) :
    ∃ events reads left, next.trace = host.trace ++ events ∧
      Chunks memory sock isFrom addr (host.buffer sock) address readCount events reads left ∧
      Ended host next sock reads left := by
  have nothing : readCount - readCount = 0 := sub_self _
  obtain ⟨calls, heard, called, -, kept, -⟩ := @turned_spec memory sock isFrom addr app calm host
    { host.hif with
      rxDone := false
      accesses := host.hif.accesses ++ [.block address readCount, .rxDone] }
    pending.faultless prepared address readCount 0
  rw [turn] at heard kept
  rw [← nothing] at heard
  have pieces := @Chunks.chunk memory sock isFrom addr (host.sockets sock).userBuffer
    (host.sockets sock).userBufferSize address readCount _ calls [] _ readCount
    pending.positive (Nat.min_eq_right reaches).symm called (.done _ _ _)
  rw [List.append_nil] at pieces
  exact ⟨_, [.block address readCount], _, heard, pieces, .inl ⟨kept, .inl nothing⟩⟩

theorem readLoop_delivers (calm : ∀ past, (app past).Within false) {turns : Nat} {address : UInt32}
    {readCount : UInt16} {host : Host} (enough : readCount.toNat < turns)
    (pending : Pending host.hif address readCount)
    (used : (host.sockets sock).isUsed = true) (prepared : (host.sockets sock).Prepared) :
    ∃ next events reads left,
      Host.readLoop app memory sock isFrom addr turns address readCount readCount host = some next ∧
      next.trace = host.trace ++ events ∧
      Chunks memory sock isFrom addr (host.buffer sock) address readCount events reads left ∧
      Ended host next sock reads left := by
  induction turns generalizing address readCount host with
  | zero => omega
  | succ turns ih =>
    obtain ⟨given, room⟩ := prepared used
    have roomy : (host.sockets sock).userBufferSize.toNat ≠ 0 :=
      fun zero => room (UInt16.toNat_inj.mp zero)
    -- The buffer is shorter than what is left, or long enough, or so long that the difference of
    -- sixteen bits makes it a short one.
    by_cases short : (host.sockets sock).userBufferSize.toNat < readCount.toNat
    next =>
      generalize own : (host.sockets sock).userBufferSize = size at short room roomy
      obtain ⟨rest, _, less⟩ := pending.next short (host.hif.accesses ++ [.block address size])
      obtain ⟨calls, heard, called, sets, kept, ready⟩ := @turned_spec memory sock isFrom addr app
        calm host { host.hif with accesses := host.hif.accesses ++ [.block address size] }
        pending.faultless prepared address size (readCount - size)
      have into : host.buffer sock = ((host.sockets sock).userBuffer, size) := by
        rw [Host.buffer, own]
      rw [readLoop_short pending given (by rw [own]; exact room) own short rfl, into]
      generalize turned app memory sock isFrom addr address size (readCount - size) _ host = after
        at *
      by_cases unused : (after.sockets sock).isUsed = false
      next =>
        have closes := @Hif.receive_null after.hif (by rw [kept]; exact pending.faultless)
        have pieces := @Chunks.chunk memory sock isFrom addr (host.sockets sock).userBuffer size
          address readCount _ calls [] _ size room (Nat.min_eq_left (Nat.le_of_lt short)).symm called
          (.done _ _ _)
        rw [List.append_nil] at pieces
        rw [if_pos unused, Host.receive, closes]
        refine ⟨_, _, [.block address size], _, rfl, heard, pieces, .inl ⟨?_, .inr unused⟩⟩
        dsimp only
        rw [kept, List.append_assoc]
      next =>
        obtain ⟨next, events, reads, left, runs, told, pieces, ended⟩ :=
          @ih (address + size.toUInt32) (readCount - size) after (by omega)
            (by rw [kept]; exact less) (by simpa using unused) ready
        rw [sets, into] at pieces
        rw [if_neg unused]
        refine ⟨next, _ :: (calls ++ events), _ :: reads, left, runs, ?_,
          .chunk size room (Nat.min_eq_left (Nat.le_of_lt short)).symm called pieces, ?_⟩
        · rw [told, heard, List.append_assoc]
          rfl
        · rw [Ended, kept] at ended
          dsimp only at ended
          rw [List.append_assoc, List.append_assoc] at ended
          exact ended
    next =>
      have reaches := Nat.not_lt.mp short
      by_cases near : (host.sockets sock).userBufferSize.toNat ≤ readCount.toNat + 2 ^ 15
      next =>
        obtain ⟨events, reads, left, delivered⟩ := last_delivered calm pending prepared reaches rfl
        exact ⟨_, events, reads, left, readLoop_last pending given reaches near, delivered⟩
      next =>
        have long := Nat.not_le.mp near
        exact ⟨host, [], [], readCount, readLoop_refused pending given room long,
          (List.append_nil _).symm, .done _ _ _, .inr ⟨by rw [List.append_nil], long⟩⟩

end Loop

section Messages

variable {app : App} {host : Host}

structure DataMessage (interrupt : Interrupt) (isFrom : Bool) (reply : RecvReply) : Prop where
  signalled : interrupt.reg &&& 1 ≠ 0
  size : ((interrupt.reg >>> 2) &&& 0xfff).toUInt16 = interrupt.length
  gid : interrupt.gid = .ip
  message : interrupt.reply = .recv isFrom reply
  place : interrupt.address ≠ 0
  inMemory : interrupt.address.toNat + interrupt.length.toNat < 2 ^ 32
  positive : 0 < reply.recvStatus
  offset : 16 ≤ reply.dataOffset.toNat
  fits : 8 + reply.dataOffset.toNat + reply.recvStatus.toUInt16.toNat ≤ interrupt.length.toNat

def dataStart (interrupt : Interrupt) (reply : RecvReply) : UInt32 :=
  interrupt.address + 8 + reply.dataOffset.toUInt32

theorem attempt_faultless (faultless : host.hif.faults = []) : host.attempt = (true, host) := by
  rw [Host.attempt, (Hif.attempt_uses host.hif).2 faultless]

variable {interrupt : Interrupt} {isFrom : Bool} {reply : RecvReply}

theorem dataStart_toNat (message : DataMessage interrupt isFrom reply) :
    (interrupt.address + 8).toNat = interrupt.address.toNat + 8 ∧
      (dataStart interrupt reply).toNat =
        interrupt.address.toNat + 8 + reply.dataOffset.toNat := by
  have inMemory := message.inMemory
  have fits := message.fits
  have header : (interrupt.address + 8).toNat = interrupt.address.toNat + 8 := by
    rw [UInt32.toNat_add]
    exact Nat.mod_eq_of_lt (by change _ + 8 < _; omega)
  refine ⟨header, ?_⟩
  rw [dataStart, UInt32.toNat_add, header, UInt16.toNat_toUInt32, Nat.mod_eq_of_lt (by omega)]

theorem length_small (message : DataMessage interrupt isFrom reply) :
    interrupt.length.toNat < 2 ^ 15 := by
  have bounded : (interrupt.reg >>> 2).toNat &&& 4095 ≤ 4095 := Nat.and_le_right
  have masked : ((interrupt.reg >>> 2) &&& 0xfff).toNat = (interrupt.reg >>> 2).toNat &&& 4095 :=
    UInt32.toNat_and _ _
  rw [← message.size, UInt32.toNat_toUInt16, masked]
  omega

theorem status_toNat (message : DataMessage interrupt isFrom reply) :
    0 < reply.recvStatus.toUInt16.toNat ∧ reply.recvStatus.toUInt16.toNat < 2 ^ 15 ∧
      reply.recvStatus.toInt = reply.recvStatus.toUInt16.toNat := by
  have positive := (int16_positive reply.recvStatus.toUInt16).mp message.positive
  have value := BitVec.toInt_eq_toNat_cond reply.recvStatus.toUInt16.toBitVec
  rw [if_pos (by change 2 * reply.recvStatus.toUInt16.toNat < _; omega)] at value
  exact ⟨positive.1, positive.2, value⟩

def announced (host : Host) (interrupt : Interrupt) : Host :=
  { host with hif := { host.hif with
    rxDone := true, rxAddr := interrupt.address, rxSize := interrupt.length.toUInt32 } }

def replied (host : Host) (interrupt : Interrupt) (reply : RecvReply) : Host :=
  Host.setRecvPending { announced host interrupt with hif := { (announced host interrupt).hif with
    accesses := host.hif.accesses ++ [.block (interrupt.address + 8) 16] } } reply.sock false

theorem replied_socket (host : Host) (interrupt : Interrupt) (reply : RecvReply) :
    (replied host interrupt reply).sockets reply.sock =
      { host.sockets reply.sock with isRecvPending := false } :=
  Function.update_self _ _ _

theorem replied_pending (message : DataMessage interrupt isFrom reply)
    (faultless : host.hif.faults = []) :
    Pending (replied host interrupt reply).hif (dataStart interrupt reply)
      reply.recvStatus.toUInt16 := by
  have fits := message.fits
  have positive := (status_toNat message).1
  have start := (dataStart_toNat message).2
  refine ⟨faultless, ?_, ?_, ?_, ?_, message.inMemory, length_small message⟩
  · intro zero
    rw [zero] at positive
    exact absurd positive (Nat.lt_irrefl 0)
  · intro zero
    rw [zero] at start
    change 0 = _ at start
    omega
  · change interrupt.address.toNat ≤ _
    omega
  · change _ ≤ interrupt.address.toNat + interrupt.length.toNat
    omega

theorem reply_received (message : DataMessage interrupt isFrom reply)
    (faultless : host.hif.faults = []) :
    (announced host interrupt).hif.receive ⟨interrupt.address + 8, false, 16, false⟩ =
      (true, { (announced host interrupt).hif with
        accesses := host.hif.accesses ++ [.block (interrupt.address + 8) 16] }) := by
  have fits := message.fits
  have offset := message.offset
  have positive := (status_toNat message).1
  have header := (dataStart_toNat message).1
  have nonzero : interrupt.address + 8 ≠ 0 := by
    intro zero
    rw [zero] at header
    cases header
  have begins : interrupt.address.toNat ≤ (interrupt.address + 8).toNat := by omega
  have ends : (interrupt.address + 8).toNat + 16 <
      interrupt.address.toNat + interrupt.length.toNat := by omega
  have middle : ¬ ((interrupt.address + 8).toNat + (16 : UInt16).toNat =
      interrupt.address.toNat + interrupt.length.toUInt32.toNat ∨ false = true) := by
    rintro (last | last)
    · exact Nat.ne_of_lt ends last
    · cases last
  have read := @Hif.receive_inside (announced host interrupt).hif
    ⟨interrupt.address + 8, false, 16, false⟩ faultless nonzero rfl
    (fun zero : (16 : UInt16) = 0 => by cases zero) begins (Nat.le_of_lt ends) message.inMemory
  exact read.trans (congrArg (Prod.mk true) (if_neg middle))

theorem ipCb_data (message : DataMessage interrupt isFrom reply)
    (session : reply.sessionId = (host.sockets reply.sock).sessionId)
    (faultless : host.hif.faults = []) :
    (announced host interrupt).ipCb app interrupt.memory (interrupt.length - 8)
        (interrupt.address + 8) interrupt.reply =
      Host.readSocketData app interrupt.memory reply.sock isFrom reply.remoteAddr
        (dataStart interrupt reply) reply.recvStatus.toUInt16 (replied host interrupt reply) := by
  have fits := message.fits
  have offset := message.offset
  have status := (status_toNat message).2.2
  have bufferSize : (interrupt.length - 8).toNat = interrupt.length.toNat - 8 :=
    UInt16.toNat_sub_of_le _ _ (by change (8 : Nat) ≤ interrupt.length.toNat; omega)
  have ready : 0 < reply.recvStatus ∧ reply.recvStatus.toInt < (interrupt.length - 8).toNat := by
    refine ⟨message.positive, ?_⟩
    rw [status, bufferSize]
    omega
  rw [Host.ipCb, message.message]
  dsimp only [Reply.read, Host.receive]
  rw [reply_received message faultless]
  dsimp only [Host.handleReply]
  rw [Host.recvReply]
  change (if reply.sessionId = ((replied host interrupt reply).sockets reply.sock).sessionId then
    if 0 < reply.recvStatus ∧ reply.recvStatus.toInt < (interrupt.length - 8).toNat then
      Host.readSocketData app interrupt.memory reply.sock isFrom reply.remoteAddr
        (dataStart interrupt reply) reply.recvStatus.toUInt16 (replied host interrupt reply)
    else _ else _) = _
  rw [if_pos (by rw [replied_socket]; exact session), if_pos ready]

theorem ipCb_loop (message : DataMessage interrupt isFrom reply)
    (session : reply.sessionId = (host.sockets reply.sock).sessionId)
    (faultless : host.hif.faults = []) (used : (host.sockets reply.sock).isUsed = true)
    (prepared : (host.sockets reply.sock).Prepared) :
    (announced host interrupt).ipCb app interrupt.memory (interrupt.length - 8)
        (interrupt.address + 8) interrupt.reply =
      Host.readLoop app interrupt.memory reply.sock isFrom reply.remoteAddr
        (reply.recvStatus.toUInt16.toNat + 1) (dataStart interrupt reply)
        reply.recvStatus.toUInt16 reply.recvStatus.toUInt16 (replied host interrupt reply) := by
  have some := (replied_pending message faultless).positive
  obtain ⟨given, room⟩ := prepared used
  rw [ipCb_data message session faultless, Host.readSocketData,
    if_pos (by rw [replied_socket]; exact ⟨some, given, room, used⟩)]

theorem ipCb_unprepared (message : DataMessage interrupt isFrom reply)
    (session : reply.sessionId = (host.sockets reply.sock).sessionId)
    (faultless : host.hif.faults = []) (unprepared : ¬ (host.sockets reply.sock).Prepared) :
    (announced host interrupt).ipCb app interrupt.memory (interrupt.length - 8)
        (interrupt.address + 8) interrupt.reply = some (replied host interrupt reply) := by
  rw [ipCb_data message session faultless, Host.readSocketData, if_neg]
  rintro ⟨-, given, room, -⟩
  rw [replied_socket] at given room
  exact unprepared fun _ => ⟨given, room⟩

theorem loop_delivers (calm : ∀ past, (app past).Within false)
    (message : DataMessage interrupt isFrom reply) (faultless : host.hif.faults = [])
    (used : (host.sockets reply.sock).isUsed = true)
    (prepared : (host.sockets reply.sock).Prepared) :
    ∃ next events reads left,
      Host.readLoop app interrupt.memory reply.sock isFrom reply.remoteAddr
        (reply.recvStatus.toUInt16.toNat + 1) (dataStart interrupt reply)
        reply.recvStatus.toUInt16 reply.recvStatus.toUInt16 (replied host interrupt reply) =
          some next ∧
      next.trace = host.trace ++ events ∧
      Chunks interrupt.memory reply.sock isFrom reply.remoteAddr (host.buffer reply.sock)
        (dataStart interrupt reply) reply.recvStatus.toUInt16 events reads left ∧
      Ended (announced host interrupt) next reply.sock
        (.block (interrupt.address + 8) 16 :: reads) left := by
  obtain ⟨next, events, reads, left, runs, heard, pieces, ended⟩ := @readLoop_delivers
    interrupt.memory reply.sock isFrom reply.remoteAddr app calm
    (reply.recvStatus.toUInt16.toNat + 1) (dataStart interrupt reply) reply.recvStatus.toUInt16
    (replied host interrupt reply) (Nat.lt_succ_self _) (replied_pending message faultless)
    (by rw [replied_socket]; exact used) (by rw [replied_socket]; exact prepared)
  rw [Host.buffer, replied_socket] at pieces
  refine ⟨next, events, reads, left, runs, heard, pieces, ?_⟩
  rw [Ended] at ended
  dsimp only [replied, Host.setRecvPending, Host.withSocket] at ended
  rw [List.append_assoc, List.append_assoc] at ended
  exact ended

theorem hifIsr_ipCb (message : DataMessage interrupt isFrom reply)
    (faultless : host.hif.faults = []) {last : Host}
    (runs : (announced host interrupt).ipCb app interrupt.memory (interrupt.length - 8)
      (interrupt.address + 8) interrupt.reply = some last) :
    host.hifIsr app interrupt = some last.finishRx := by
  have fits := message.fits
  have sized : interrupt.length ≠ 0 := by
    intro zero
    rw [zero] at fits
    change _ ≤ 0 at fits
    omega
  have third := @attempt_faultless { host with hif.rxDone := true } faultless
  have fourth := @attempt_faultless (announced host interrupt) faultless
  rw [announced] at fourth runs
  rw [Host.hifIsr, attempt_faultless faultless]
  dsimp only
  rw [if_neg message.signalled, attempt_faultless faultless]
  dsimp only
  rw [message.size, if_neg sized, Host.takeMessage, third]
  dsimp only
  rw [fourth]
  dsimp only
  rw [if_neg (fun wrong => wrong.1 rfl), Host.dispatch, message.gid]
  dsimp only
  rw [runs]
  rfl

theorem finishRx_open (opened : host.hif.rxDone = true) (faultless : host.hif.faults = []) :
    host.finishRx = (true, { host with hif := { host.hif with
      rxDone := false, accesses := host.hif.accesses ++ [.rxDone] } }) := by
  rw [Host.finishRx, opened, if_pos rfl, Hif.setRxDone_faultless faultless]

theorem data_delivered (calm : ∀ past, (app past).Within false) {interrupt : Interrupt}
    {isFrom : Bool} {reply : RecvReply} (message : DataMessage interrupt isFrom reply)
    (session : reply.sessionId = (host.sockets reply.sock).sessionId)
    (faultless : host.hif.faults = []) (used : (host.sockets reply.sock).isUsed = true) :
    ∃ next events reads left, host.hifIsr app interrupt = some (true, next) ∧
      next.trace = host.trace ++ events ∧
      Chunks interrupt.memory reply.sock isFrom reply.remoteAddr (host.buffer reply.sock)
        (dataStart interrupt reply) reply.recvStatus.toUInt16 events reads left ∧
      (callbacks events).flatMap Callback.data =
        block interrupt.memory (dataStart interrupt reply).toNat
          (reply.recvStatus.toUInt16.toNat - left.toNat) ∧
      next.hif.rxDone = false ∧
      next.hif.accesses = host.hif.accesses ++
        .block (interrupt.address + 8) 16 :: (reads ++ [.rxDone]) ∧
      (left = 0 ∨ ¬ (next.sockets reply.sock).Prepared ∨ (next.sockets reply.sock).isUsed = false ∨
        left.toNat + 2 ^ 15 < (next.sockets reply.sock).userBufferSize.toNat) := by
  have inMemory := message.inMemory
  have fits := message.fits
  obtain ⟨_, start⟩ := dataStart_toNat message
  by_cases prepared : (host.sockets reply.sock).Prepared
  next =>
    obtain ⟨last, events, reads, left, loops, heard, pieces, ended⟩ :=
      loop_delivers calm message faultless used prepared
    obtain ⟨_, data⟩ := pieces.data (by rw [start]; omega)
    have isr := hifIsr_ipCb message faultless
      ((ipCb_loop message session faultless used prepared).trans loops)
    rcases ended with ⟨hif, stops⟩ | ⟨hif, long⟩
    next =>
      have done : last.hif.rxDone = false := by rw [hif]
      have finished : last.finishRx = (true, last) := by
        rw [Host.finishRx, done]
        rfl
      rw [finished] at isr
      refine ⟨last, events, reads, left, isr, heard, pieces, data, done, by rw [hif]; rfl, ?_⟩
      rcases stops with all | unused
      · exact .inl all
      · exact .inr (.inr (.inl unused))
    next =>
      rw [finishRx_open (by rw [hif]; rfl) (by rw [hif]; exact faultless)] at isr
      refine ⟨_, events, reads, left, isr, heard, pieces, data, rfl, ?_, .inr (.inr (.inr long))⟩
      dsimp only
      rw [hif, List.append_assoc]
      rfl
  next =>
    have isr := hifIsr_ipCb message faultless
      (@ipCb_unprepared app _ _ _ _ message session faultless prepared)
    rw [@finishRx_open (replied host interrupt reply) rfl faultless] at isr
    refine ⟨_, [], [], reply.recvStatus.toUInt16, isr, (List.append_nil _).symm, .done _ _ _, ?_, rfl,
      ?_, .inr (.inl ?_)⟩
    · rw [Nat.sub_self]
      rfl
    · exact List.append_assoc _ _ _
    · change ¬ ((replied host interrupt reply).sockets reply.sock).Prepared
      rw [replied_socket]
      exact prepared

def receiving : Host :=
  (((Host.init []).perform (.socket 2 1 0)).2.perform (.recv (some 0) 100 2 0)).2

def threeBytesReply : RecvReply := ⟨⟨0, 0⟩, 3, 16, 0, 1⟩

def threeBytes : Interrupt :=
  ⟨109, 0xd0000, .ip, 27, .recv false threeBytesReply, fun place => UInt8.ofNat place, []⟩

theorem data_delivered_three :
    ∃ next events reads left, receiving.hifIsr quietApp threeBytes = some (true, next) ∧
      next.trace = receiving.trace ++ events ∧
      Chunks threeBytes.memory 0 false ⟨0, 0⟩ (100, 2) (dataStart threeBytes threeBytesReply) 3
        events reads left ∧
      (callbacks events).flatMap Callback.data = block threeBytes.memory
        (dataStart threeBytes threeBytesReply).toNat (3 - left.toNat) ∧
      next.hif.rxDone = false ∧
      next.hif.accesses = receiving.hif.accesses ++
        .block 0xd0008 16 :: (reads ++ [.rxDone]) ∧
      (left = 0 ∨ ¬ (next.sockets 0).Prepared ∨ (next.sockets 0).isUsed = false ∨
        left.toNat + 2 ^ 15 < (next.sockets 0).userBufferSize.toNat) :=
  @data_delivered quietApp receiving (fun _ => trivial) threeBytes false threeBytesReply
    ⟨by decide, rfl, rfl, rfl, by decide, by decide, by decide, by decide, by decide⟩ rfl rfl rfl

example : (receiving.hifIsr quietApp threeBytes).map (fun handled => callbacks handled.2.trace) =
    some [.recvData 0 false ⟨0, 0⟩ 100 [24, 25] 2 1, .recvData 0 false ⟨0, 0⟩ 100 [26] 1 0] := by
  decide +kernel

theorem data_has_room (calm : ∀ past, (app past).Within false) (reachable : Reachable app host)
    {before after : List Event} {sock : Sock} {isFrom : Bool} {addr : Peer} {buffer : UInt16}
    {data : List UInt8} {bufferSize : Int16} {remainingSize : UInt16}
    (heard : host.trace = before ++
      .callback (.recvData sock isFrom addr buffer data bufferSize remainingSize) :: after) :
    (bufferOf sock before).1 = buffer ∧ buffer ≠ 0 ∧
      data.length ≤ (bufferOf sock before).2.toNat :=
  ((reachable_tracked calm reachable).justified before _ after heard).2

def received : Host := ((receiving.hifIsr quietApp threeBytes).getD (false, receiving)).2

theorem received_reachable : Reachable quietApp received := by
  have waits : Reachable quietApp receiving := .call _ (.call _ (.init []))
  apply waits.interrupt threeBytes
  · exact ⟨⟨.recv, 0, some 1, .timeout 0xFFFFFFFF⟩, by decide +kernel, rfl, rfl⟩
  · rfl

theorem data_has_room_three :
    (bufferOf 0 receiving.trace).1 = 100 ∧ (100 : UInt16) ≠ 0 ∧
      [24, 25].length ≤ (bufferOf 0 receiving.trace).2.toNat :=
  @data_has_room quietApp received (fun _ => trivial) received_reachable receiving.trace
    [.callback (.recvData 0 false ⟨0, 0⟩ 100 [26] 1 0)] 0 false ⟨0, 0⟩ 100 [24, 25] 2 1
    (by decide +kernel)

end Messages

end AvrVoiceControl.Winc
