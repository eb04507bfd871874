import AvrVoiceControl.Library.Machine
import AvrVoiceControl.WincSocket

set_option autoImplicit false

namespace AvrVoiceControl.Winc

open Generations Machine

def Event.note : Event -> Option (Note Sock)
  | .opened sock => some (.opened sock)
  | .closed sock => some (.closed sock)
  | _ => none

def noteEvent (notes : List (Note Sock)) (event : Event) : List (Note Sock) :=
  if event = .reinit then [] else notes ++ event.note.toList

/-- The openings and closings since the sockets have been initialised. -/
def notes (trace : List Event) : List (Note Sock) := trace.foldl noteEvent []

theorem notes_append_singleton (trace : List Event) (event : Event) :
    notes (trace ++ [event]) = noteEvent (notes trace) event := by
  simp [notes]

theorem notes_quiet {trace : List Event} {event : Event} (steady : event ≠ .reinit)
    (quiet : event.note = none) : notes (trace ++ [event]) = notes trace := by
  rw [notes_append_singleton, noteEvent, if_neg steady, quiet]
  exact List.append_nil _

theorem foldl_noteEvent {trace : List Event} (steady : Event.reinit ∉ trace)
    (early : List (Note Sock)) :
    trace.foldl noteEvent early = early ++ trace.filterMap Event.note := by
  induction trace generalizing early with
  | nil => exact (List.append_nil early).symm
  | cons event trace ih =>
    simp only [List.mem_cons, not_or] at steady
    rw [List.foldl_cons, ih steady.2, noteEvent, if_neg (Ne.symm steady.1), List.append_assoc,
      List.filterMap_cons]
    cases event.note <;> rfl

theorem notes_steady {trace : List Event} (steady : Event.reinit ∉ trace) :
    notes trace = trace.filterMap Event.note := foldl_noteEvent steady []

theorem notes_append (front : List Event) {back : List Event} (steady : Event.reinit ∉ back) :
    notes (front ++ back) = notes front ++ notes back := by
  rw [notes_steady steady, notes, List.foldl_append, foldl_noteEvent steady]
  rfl

def sessionOf (connection : Nat) : UInt16 := UInt16.ofNat (number 65536 connection)

theorem sessionOf_toNat (connection : Nat) :
    (sessionOf connection).toNat = number 65536 connection :=
  Nat.mod_eq_of_lt (number_lt (by decide) connection)

theorem sessionOf_inj {early late : Nat} (alike : sessionOf early = sessionOf late) :
    number 65536 early = number 65536 late := by
  rw [← sessionOf_toNat, alike, sessionOf_toNat]

def setBuffer (sock : Sock) (current : UInt16 × UInt16) : Event -> UInt16 × UInt16
  | .buffer other buffer size => if other = sock then (buffer, size) else current
  | .closed other => if other = sock then (0, 0) else current
  | .reinit => (0, 0)
  | _ => current

theorem setBuffer_buffer (sock other : Sock) (current : UInt16 × UInt16) (buffer size : UInt16) :
    setBuffer sock current (.buffer other buffer size) =
      if other = sock then (buffer, size) else current := rfl

theorem setBuffer_closed (sock other : Sock) (current : UInt16 × UInt16) :
    setBuffer sock current (.closed other) = if other = sock then (0, 0) else current := rfl

def bufferOf (sock : Sock) (trace : List Event) : UInt16 × UInt16 :=
  trace.foldl (setBuffer sock) (0, 0)

@[simp] theorem bufferOf_append_singleton (sock : Sock) (trace : List Event) (event : Event) :
    bufferOf sock (trace ++ [event]) = setBuffer sock (bufferOf sock trace) event := by
  simp [bufferOf]

/-- A request on the socket that names the session of its present connection. -/
def Answers (trace : List Event) (sock : Sock) : Prop :=
  ∃ request, Event.request request ∈ trace ∧ request.sock = sock ∧
    request.sessionId = some (sessionOf (holder sock (notes trace)))

/-- Why an event can happen: a request is of the socket's present connection, and so is what an answer
is about; data have room in the buffer of the last receiving call. -/
def Because (past : List Event) : Event -> Prop
  | .request request => ∀ sessionId, request.sessionId = some sessionId ->
    holder request.sock (notes past) ≠ 0 ∧
      sessionId = sessionOf (holder request.sock (notes past))
  | .callback (.recvData sock _ _ buffer data _ _) => Answers past sock ∧
    (bufferOf sock past).1 = buffer ∧ buffer ≠ 0 ∧ data.length ≤ (bufferOf sock past).2.toNat
  | .callback (.recvStatus sock _ _ _) => Answers past sock
  | .callback (.send sock _ _) => Answers past sock
  | _ => True

structure Tracked (host : Host) : Prop where
  counter : host.sessionId = sessionOf (opens (notes host.trace))
  sessions : ∀ sock, (host.sockets sock).sessionId = sessionOf (holder sock (notes host.trace))
  used : ∀ sock, (host.sockets sock).isUsed = true ↔ holder sock (notes host.trace) ≠ 0
  buffers : ∀ sock, ((host.sockets sock).userBuffer, (host.sockets sock).userBufferSize) =
    bufferOf sock host.trace
  idle : ∀ sock, (host.sockets sock).isUsed = false -> bufferOf sock host.trace = (0, 0)
  blank : ∀ sock, (host.sockets sock).userBuffer = 0 -> (host.sockets sock).userBufferSize = 0
  justified : Justified Because host.trace

def Socket.seen (socket : Socket) : UInt16 × Bool × UInt16 × UInt16 :=
  (socket.sessionId, socket.isUsed, socket.userBuffer, socket.userBufferSize)

variable {host other : Host}

theorem Tracked.congr (tracked : Tracked host) (counter : other.sessionId = host.sessionId)
    (sockets : ∀ sock, (other.sockets sock).seen = (host.sockets sock).seen)
    (trace : other.trace = host.trace) : Tracked other := by
  have same (sock : Sock) := sockets sock
  simp only [Socket.seen, Prod.mk.injEq] at same
  refine ⟨?_, ?_, ?_, ?_, ?_, ?_, ?_⟩
  · rw [counter, trace, tracked.counter]
  · intro sock
    rw [(same sock).1, trace, tracked.sessions]
  · intro sock
    rw [(same sock).2.1, trace, tracked.used]
  · intro sock
    rw [(same sock).2.2.1, (same sock).2.2.2, trace, tracked.buffers]
  · intro sock idle
    rw [(same sock).2.1] at idle
    rw [trace, tracked.idle sock idle]
  · intro sock
    rw [(same sock).2.2.1, (same sock).2.2.2]
    exact tracked.blank sock
  · rw [trace]
    exact tracked.justified

theorem Tracked.note (tracked : Tracked host) {event : Event} (steady : event ≠ .reinit)
    (quiet : event.note = none) (keeps : ∀ sock current, setBuffer sock current event = current)
    (because : Because host.trace event) : Tracked (host.note event) := by
  have unnoted : notes (host.note event).trace = notes host.trace := notes_quiet steady quiet
  have buffers (sock : Sock) : bufferOf sock (host.note event).trace = bufferOf sock host.trace := by
    rw [Host.note, bufferOf_append_singleton, keeps]
  refine ⟨?_, ?_, ?_, ?_, ?_, tracked.blank, ?_⟩
  · rw [unnoted]
    exact tracked.counter
  · rw [unnoted]
    exact tracked.sessions
  · rw [unnoted]
    exact tracked.used
  · intro sock
    rw [buffers]
    exact tracked.buffers sock
  · intro sock idle
    rw [buffers]
    exact tracked.idle sock idle
  · exact (justified_append_singleton _ _ _).mpr ⟨tracked.justified, because⟩

theorem Tracked.request (tracked : Tracked host) {request : Request}
    (because : Because host.trace (.request request)) : Tracked (host.request request).2 :=
  (tracked.note Event.noConfusion rfl (fun _ _ => rfl) because).congr rfl (fun _ => rfl) rfl

theorem newSession_eq (tracked : Tracked host) :
    host.newSession = sessionOf (opens (notes host.trace) + 1) := by
  have current : host.sessionId.toNat = number 65536 (opens (notes host.trace)) := by
    rw [tracked.counter, sessionOf_toNat]
  have next : (host.sessionId + 1).toNat = (number 65536 (opens (notes host.trace)) + 1) % 65536 := by
    rw [UInt16.toNat_add, current]
    rfl
  apply UInt16.toNat_inj.mp
  rw [sessionOf_toNat, number_next (by decide), ← next, Host.newSession]
  by_cases wraps : host.sessionId + 1 = 0
  next =>
    rw [if_pos wraps, wraps]
    rfl
  next =>
    have nonzero : (host.sessionId + 1).toNat ≠ 0 := fun zero => wraps (UInt16.toNat_inj.mp zero)
    rw [if_neg wraps, if_neg nonzero]

theorem Tracked.change (tracked : Tracked host) {sock : Sock} {socket : Socket} {event : Event}
    {counter : UInt16} (counted : counter = sessionOf (opens (notes (host.trace ++ [event]))))
    (session : socket.sessionId = sessionOf (holder sock (notes (host.trace ++ [event]))))
    (used : socket.isUsed = true ↔ holder sock (notes (host.trace ++ [event])) ≠ 0)
    (buffer : (socket.userBuffer, socket.userBufferSize) = bufferOf sock (host.trace ++ [event]))
    (idle : socket.isUsed = false -> bufferOf sock (host.trace ++ [event]) = (0, 0))
    (blank : socket.userBuffer = 0 -> socket.userBufferSize = 0)
    (elsewhere : ∀ other, other ≠ sock ->
      holder other (notes (host.trace ++ [event])) = holder other (notes host.trace) ∧
        bufferOf other (host.trace ++ [event]) = bufferOf other host.trace)
    (because : Because host.trace event) :
    Tracked { (host.withSocket sock socket).note event with sessionId := counter } := by
  refine ⟨counted, ?_, ?_, ?_, ?_, ?_, ?_⟩ <;> dsimp only [Host.note, Host.withSocket]
  · intro other
    by_cases same : other = sock
    next => rw [same, Function.update_self, session]
    next => rw [Function.update_of_ne same, tracked.sessions, (elsewhere other same).1]
  · intro other
    by_cases same : other = sock
    next => rw [same, Function.update_self, used]
    next => rw [Function.update_of_ne same, tracked.used, (elsewhere other same).1]
  · intro other
    by_cases same : other = sock
    next => rw [same, Function.update_self, buffer]
    next => rw [Function.update_of_ne same, tracked.buffers, (elsewhere other same).2]
  · intro other unused
    by_cases same : other = sock
    next =>
      rw [same, Function.update_self] at unused
      rw [same, idle unused]
    next =>
      rw [Function.update_of_ne same] at unused
      rw [(elsewhere other same).2, tracked.idle other unused]
  · intro other none
    by_cases same : other = sock
    next =>
      rw [same, Function.update_self] at none ⊢
      exact blank none
    next =>
      rw [Function.update_of_ne same] at none ⊢
      exact tracked.blank other none
  · exact (justified_append_singleton _ _ _).mpr ⟨tracked.justified, because⟩

theorem Tracked.claim (tracked : Tracked host) {sock : Sock} {socket : Socket}
    (buffer : (socket.userBuffer, socket.userBufferSize) = bufferOf sock host.trace)
    (blank : socket.userBuffer = 0 -> socket.userBufferSize = 0) :
    Tracked (host.claim sock socket) := by
  have opened : notes (host.trace ++ [.opened sock]) = notes host.trace ++ [.opened sock] :=
    notes_append_singleton _ _
  apply tracked.change
  · rw [opened, opens_append, opens_opened]
    exact newSession_eq tracked
  · rw [opened, holder_opened, if_pos rfl]
    exact newSession_eq tracked
  · rw [opened, holder_opened, if_pos rfl]
    simp
  · rw [bufferOf_append_singleton]
    exact buffer
  · intro unused
    cases unused
  · exact blank
  · intro other away
    rw [opened, holder_opened, if_neg (Ne.symm away), bufferOf_append_singleton]
    exact ⟨rfl, rfl⟩
  · trivial

def setting (host : Host) (sock : Sock) (buffer length : UInt16) : Host :=
  (host.withSocket sock { host.sockets sock with
    userBuffer := buffer, userBufferSize := length, isRecvPending := true }).note
      (.buffer sock buffer length)

theorem setting_socket (host : Host) (sock : Sock) (buffer length : UInt16) :
    (setting host sock buffer length).sockets sock = { host.sockets sock with
      userBuffer := buffer, userBufferSize := length, isRecvPending := true } :=
  Function.update_self _ _ _

theorem Tracked.setBuffer (tracked : Tracked host) {sock : Sock}
    (used : (host.sockets sock).isUsed = true) {buffer : UInt16} (given : buffer ≠ 0)
    (size : UInt16) : Tracked (setting host sock buffer size) := by
  have quiet : notes (host.trace ++ [.buffer sock buffer size]) = notes host.trace :=
    notes_quiet Event.noConfusion rfl
  apply tracked.change
  · rw [quiet]
    exact tracked.counter
  · rw [quiet]
    exact tracked.sessions sock
  · rw [quiet]
    exact tracked.used sock
  · rw [bufferOf_append_singleton, setBuffer_buffer, if_pos rfl]
  · intro unused
    rw [used] at unused
    cases unused
  · intro none
    exact absurd none given
  · intro other away
    rw [quiet, bufferOf_append_singleton, setBuffer_buffer, if_neg (Ne.symm away)]
    exact ⟨rfl, rfl⟩
  · trivial

theorem Tracked.closed (tracked : Tracked host) (sock : Sock) :
    Tracked ((host.withSocket sock Socket.cleared).note (.closed sock)) := by
  have closed : notes (host.trace ++ [.closed sock]) = notes host.trace ++ [.closed sock] :=
    notes_append_singleton _ _
  apply tracked.change
  · rw [closed, opens_append, opens_closed]
    exact tracked.counter
  · rw [closed, holder_closed, if_pos rfl]
    rfl
  · rw [closed, holder_closed, if_pos rfl]
    simp [Socket.cleared]
  · rw [bufferOf_append_singleton, setBuffer_closed, if_pos rfl]
    rfl
  · intro _
    rw [bufferOf_append_singleton, setBuffer_closed, if_pos rfl]
  · intro _
    rfl
  · intro other away
    rw [closed, holder_closed, if_neg (Ne.symm away), bufferOf_append_singleton, setBuffer_closed,
      if_neg (Ne.symm away)]
    exact ⟨rfl, rfl⟩
  · trivial

/-- What a call can do to the host, and whether it may be a call that creates a socket. -/
inductive Performs (host : Host) : Bool -> Host -> Prop
  | nothing (opens : Bool) : Performs host opens host
  | asks (opens : Bool) {sock : Sock} {request : Request}
    (used : (host.sockets sock).isUsed = true) (own : request.sock = sock)
    (session : request.sessionId = some (host.sockets sock).sessionId) :
    Performs host opens (host.request request).2
  | sets (opens : Bool) {sock : Sock} {buffer length : UInt16}
    (used : (host.sockets sock).isUsed = true) (valid : buffer ≠ 0 ∧ length ≠ 0) :
    Performs host opens (setting host sock buffer length)
  | receives (opens : Bool) {sock : Sock} {buffer length : UInt16} (cmd : SocketCmd)
    (details : Details) (used : (host.sockets sock).isUsed = true)
    (valid : buffer ≠ 0 ∧ length ≠ 0) :
    Performs host opens ((setting host sock buffer length).request
      ⟨cmd, sock, some (host.sockets sock).sessionId, details⟩).2
  | closes (opens : Bool) {sock : Sock} (cmd : SocketCmd)
    (used : (host.sockets sock).isUsed = true) :
    Performs host opens (((host.request ⟨cmd, sock, some (host.sockets sock).sessionId,
      .none⟩).2.withSocket sock Socket.cleared).note (.closed sock))
  | searches (nextTcpSock : Fin tcpSockMax) (nextUdpSock : Fin udpSockMax) {found : Option Sock}
    (free : ∀ sock, found = some sock -> (host.sockets sock).isUsed = false) (flags : UInt8) :
    Performs host true (({ host with
      nextTcpSock := nextTcpSock, nextUdpSock := nextUdpSock }).newSocket found flags).2

theorem Performs.onSocket {opens : Bool} {sock : Option Sock}
    {use : Sock -> Socket -> Int × Host}
    (uses : ∀ sock, (host.sockets sock).isUsed = true ->
      Performs host opens (use sock (host.sockets sock)).2) :
    Performs host opens (host.onSocket sock use).2 := by
  cases sock with
  | none => exact .nothing opens
  | some sock =>
    rw [Host.onSocket]
    by_cases used : (host.sockets sock).isUsed = true
    next =>
      simp only [used, if_true]
      exact uses sock used
    next =>
      simp only [used]
      exact .nothing opens

theorem Performs.requestOr {opens : Bool} {sock : Option Sock}
    {request : Sock -> Socket -> Request} {failed : Int}
    (own : ∀ sock socket, (request sock socket).sock = sock ∧
      (request sock socket).sessionId = some socket.sessionId) :
    Performs host opens (host.onSocket sock fun sock socket =>
      host.requestOr (request sock socket) failed).2 := by
  apply Performs.onSocket
  intro sock used
  obtain ⟨own, session⟩ := own sock (host.sockets sock)
  exact .asks opens used own session

theorem receiveWith_performs {opens : Bool} (cmd : Socket -> SocketCmd) (sock : Option Sock)
    (buffer length : UInt16) (timeout : UInt32) :
    Performs host opens (host.receiveWith cmd sock buffer length timeout).2 := by
  rw [Host.receiveWith]
  by_cases invalid : buffer = 0 ∨ length = 0
  next =>
    rw [if_pos invalid]
    exact .nothing opens
  next =>
    rw [if_neg invalid]
    rw [not_or] at invalid
    apply Performs.onSocket
    intro sock used
    by_cases pending : (host.sockets sock).isRecvPending = true
    next =>
      simp only [pending, if_true]
      exact .sets opens used invalid
    next =>
      simp only [pending]
      exact .receives opens _ _ used invalid

theorem findSocket_free {count : Nat} [NeZero count] {isUsed : Fin count -> Bool} {turns : Nat}
    {next found : Fin count} (finds : (Host.findSocket isUsed turns next).1 = some found) :
    isUsed found = false := by
  induction turns generalizing next with
  | zero => cases finds
  | succ turns ih =>
    rw [Host.findSocket] at finds
    by_cases used : isUsed next = true
    next =>
      rw [if_pos used] at finds
      exact ih finds
    next =>
      rw [if_neg used] at finds
      cases finds
      simpa using used

theorem socket_performs (domain : UInt16) (type flags : UInt8) :
    Performs host true (host.socket domain type flags).2 := by
  rw [Host.socket]
  by_cases inet : domain = 2
  next =>
    rw [if_pos inet]
    by_cases stream : type = 1
    next =>
      rw [if_pos stream]
      generalize search : Host.findSocket _ tcpSockMax host.nextTcpSock = result
      obtain ⟨found, next⟩ := result
      refine .searches next host.nextUdpSock ?_ flags
      intro sock finds
      obtain ⟨found, rfl, rfl⟩ := Option.map_eq_some_iff.mp finds
      exact findSocket_free (congrArg Prod.fst search)
    next =>
      rw [if_neg stream]
      by_cases dgram : type = 2
      next =>
        rw [if_pos dgram]
        generalize search : Host.findSocket _ udpSockMax host.nextUdpSock = result
        obtain ⟨found, next⟩ := result
        refine .searches host.nextTcpSock next ?_ flags
        intro sock finds
        obtain ⟨found, rfl, rfl⟩ := Option.map_eq_some_iff.mp finds
        exact findSocket_free (congrArg Prod.fst search)
      next =>
        rw [if_neg dgram]
        exact .nothing true
  next =>
    rw [if_neg inet]
    exact .nothing true

theorem perform_performs (call : ApiCall) : Performs host call.opens (host.perform call).2 := by
  cases call with
  | socket domain type flags => exact socket_performs domain type flags
  | bind sock addr addrLen =>
    dsimp only [Host.perform, Host.bind]
    split
    · exact .nothing _
    · split
      · exact .nothing _
      · exact .requestOr fun _ _ => ⟨rfl, rfl⟩
  | listen sock backlog => exact .requestOr fun _ _ => ⟨rfl, rfl⟩
  | accept sock => exact .onSocket fun _ _ => .nothing _
  | connect sock addr addrLen =>
    dsimp only [Host.perform, Host.connect]
    split
    · exact .nothing _
    · split
      · exact .nothing _
      · apply Performs.requestOr
        intro sock socket
        split <;> exact ⟨rfl, rfl⟩
  | send sock data =>
    dsimp only [Host.perform, Host.send]
    split
    · exact .nothing _
    · split
      · exact .nothing _
      · apply Performs.requestOr
        intro sock socket
        split <;> exact ⟨rfl, rfl⟩
  | sendTo sock data addr =>
    dsimp only [Host.perform, Host.sendTo]
    split
    · exact .nothing _
    · split
      · exact .nothing _
      · exact .requestOr fun _ _ => ⟨rfl, rfl⟩
  | recv sock buffer length timeout => exact receiveWith_performs _ sock buffer length timeout
  | recvFrom sock buffer length timeout => exact receiveWith_performs _ sock buffer length timeout
  | close sock => exact .onSocket fun _ used => .closes _ _ used

theorem because_current (tracked : Tracked host) {sock : Sock} {request : Request}
    (used : (host.sockets sock).isUsed = true) (own : request.sock = sock)
    (session : request.sessionId = some (host.sockets sock).sessionId) :
    Because host.trace (.request request) := by
  intro sessionId same
  rw [session] at same
  cases same
  rw [own]
  exact ⟨(tracked.used sock).mp used, tracked.sessions sock⟩

theorem Tracked.newSocket (tracked : Tracked host) {found : Option Sock}
    (free : ∀ sock, found = some sock -> (host.sockets sock).isUsed = false) (flags : UInt8) :
    Tracked (host.newSocket found flags).2 := by
  cases found with
  | none => exact tracked
  | some sock =>
    have empty : bufferOf sock host.trace = (0, 0) := tracked.idle sock (free sock rfl)
    rw [Host.newSocket]
    by_cases ssl : flags &&& 0x01 ≠ 0
    next =>
      rw [if_pos ssl]
      apply (tracked.claim empty.symm fun _ => rfl).request
      intro sessionId same
      cases same
    next =>
      rw [if_neg ssl]
      exact tracked.claim empty.symm fun _ => rfl

theorem Tracked.perform (tracked : Tracked host) (call : ApiCall) :
    Tracked (host.perform call).2 := by
  have performs := @perform_performs host call
  generalize (host.perform call).2 = other at performs
  generalize call.opens = opens at performs
  cases performs with
  | nothing => exact tracked
  | asks _ used own session => exact tracked.request (because_current tracked used own session)
  | sets _ used valid => exact tracked.setBuffer used valid.1 _
  | @receives _ sock buffer length cmd details used valid =>
    have set := tracked.setBuffer used valid.1 length
    apply set.request
    apply @because_current _ set sock
    · rw [setting_socket]
      exact used
    · rfl
    · rw [setting_socket]
  | closes _ cmd used =>
    exact (tracked.request (because_current tracked used rfl rfl)).closed _
  | searches nextTcpSock nextUdpSock free flags =>
    have moved : Tracked { host with
        nextTcpSock := nextTcpSock, nextUdpSock := nextUdpSock } :=
      tracked.congr rfl (fun _ => rfl) rfl
    exact moved.newSocket free flags

theorem Tracked.run (tracked : Tracked host) (program : Program) : Tracked (program.run host) := by
  induction program generalizing host with
  | done => exact tracked
  | call first next ih => exact ih _ (tracked.perform first)

def Event.Called (opening : Bool) : Event -> Prop
  | .opened _ => opening = true
  | .callback _ => False
  | .reinit => False
  | _ => True

def Host.buffer (host : Host) (sock : Sock) : UInt16 × UInt16 :=
  ((host.sockets sock).userBuffer, (host.sockets sock).userBufferSize)

/-- What calls can do to the host, besides the use of the sockets. -/
def Extends (opening : Bool) (host other : Host) : Prop :=
  ∃ more, other.trace = host.trace ++ more ∧ (∀ event ∈ more, event.Called opening) ∧
    other.hif.rest = host.hif.rest ∧ (host.hif.faults = [] -> other.hif = host.hif) ∧
    (opening = false -> ∀ sock, other.buffer sock = more.foldl (setBuffer sock) (host.buffer sock))

variable {opening : Bool}

theorem Extends.refl (host : Host) : Extends opening host host :=
  ⟨[], (List.append_nil _).symm, by simp, rfl, fun _ => rfl, fun _ _ => rfl⟩

theorem Extends.trans {last : Host} (first : Extends opening host other)
    (second : Extends opening other last) : Extends opening host last := by
  obtain ⟨early, trace, called, same, faultless, buffers⟩ := first
  obtain ⟨late, more, calls, alike, faultless', buffers'⟩ := second
  refine ⟨early ++ late, by rw [more, trace, List.append_assoc], ?_, alike.trans same, ?_, ?_⟩
  · intro event member
    rcases List.mem_append.mp member with member | member
    · exact called event member
    · exact calls event member
  · intro none
    have kept := faultless none
    exact (faultless' (by rwa [kept])).trans kept
  · intro calm sock
    rw [List.foldl_append, ← buffers calm, buffers' calm]

theorem Extends.event (event : Event) (called : event.Called opening)
    (trace : other.trace = host.trace ++ [event]) (same : other.hif = host.hif)
    (buffers : opening = false -> ∀ sock,
      other.buffer sock = setBuffer sock (host.buffer sock) event) :
    Extends opening host other :=
  ⟨[event], trace, by simpa using called, by rw [same], fun _ => same, buffers⟩

theorem Extends.change (event : Event) (called : event.Called opening) {sock : Sock}
    {socket : Socket} (buffer : ∀ current, setBuffer sock current event =
      (socket.userBuffer, socket.userBufferSize))
    (elsewhere : ∀ other, other ≠ sock -> ∀ current, setBuffer other current event = current) :
    Extends opening host ((host.withSocket sock socket).note event) := by
  refine .event event called rfl rfl ?_
  intro _ other
  dsimp only [Host.buffer, Host.note, Host.withSocket]
  by_cases same : other = sock
  next => rw [same, Function.update_self, buffer]
  next => rw [Function.update_of_ne same, elsewhere other same]

theorem Extends.request (host : Host) (request : Request) :
    Extends opening host (host.request request).2 := by
  obtain ⟨same, faultless⟩ := Hif.attempt_uses host.hif
  refine ⟨[.request request], rfl, ?_, same, ?_, fun _ _ => rfl⟩
  · intro event member
    cases List.mem_singleton.mp member
    trivial
  · intro none
    exact congrArg Prod.snd (faultless none)

theorem Extends.newSocket (may : opening = true) (found : Option Sock) (flags : UInt8) :
    Extends opening host (host.newSocket found flags).2 := by
  have claims (sock : Sock) (socket : Socket) : Extends opening host (host.claim sock socket) := by
    refine .event (.opened sock) may rfl rfl ?_
    intro calm
    rw [may] at calm
    cases calm
  cases found with
  | none => exact .refl host
  | some sock =>
    rw [Host.newSocket]
    split
    · exact (claims sock _).trans (.request _ _)
    · exact claims sock _

theorem Extends.perform (call : ApiCall) (may : call.opens = true -> opening = true) :
    Extends opening host (host.perform call).2 := by
  have performs := @perform_performs host call
  have set (sock : Sock) (buffer length : UInt16) :
      Extends opening host (setting host sock buffer length) := by
    apply Extends.change (.buffer sock buffer length) trivial
    · intro current
      exact if_pos rfl
    · intro other away current
      exact if_neg (Ne.symm away)
  generalize (host.perform call).2 = other at performs
  generalize call.opens = opens at performs may
  cases performs with
  | nothing => exact .refl host
  | asks => exact .request _ _
  | sets => exact set _ _ _
  | receives => exact (set _ _ _).trans (.request _ _)
  | @closes _ sock cmd used =>
    refine (Extends.request _ _).trans (.change (.closed sock) trivial ?_ ?_)
    · intro current
      exact if_pos rfl
    · intro other away current
      exact if_neg (Ne.symm away)
  | searches nextTcpSock nextUdpSock free flags => exact Extends.newSocket (may rfl) _ flags

theorem Extends.run {program : Program} (within : program.Within opening) :
    Extends opening host (program.run host) := by
  induction program generalizing host with
  | done => exact .refl host
  | call first next ih => exact (Extends.perform first within.1).trans (ih _ (within.2 _))

theorem answers_extend {trace more : List Event} {sock : Sock} (answers : Answers trace sock)
    (same : holder sock (notes (trace ++ more)) = holder sock (notes trace)) :
    Answers (trace ++ more) sock := by
  obtain ⟨request, member, about, named⟩ := answers
  refine ⟨request, List.mem_append_left more member, about, ?_⟩
  rw [same, named]

theorem Extends.holds (extended : Extends false host other) (sock : Sock) :
    holder sock (notes other.trace) = holder sock (notes host.trace) ∨
      holder sock (notes other.trace) = 0 := by
  obtain ⟨more, trace, called, _⟩ := extended
  have steady : Event.reinit ∉ more := called .reinit
  have none : opens (notes more) = 0 := by
    rw [notes_steady steady, opens, List.countP_eq_zero]
    intro note member
    obtain ⟨event, inside, noted⟩ := List.mem_filterMap.mp member
    have allowed := called event inside
    cases event with
    | opened other => cases allowed
    | closed other =>
      cases noted
      exact Bool.false_ne_true
    | buffer | request | callback | reinit => cases noted
  rw [trace, notes_append _ steady]
  exact holder_unopened none sock

theorem Extends.answers (extended : Extends false host other) {sock : Sock}
    (answers : Answers host.trace sock) (held : holder sock (notes other.trace) ≠ 0) :
    Answers other.trace sock := by
  have same := (extended.holds sock).resolve_right held
  obtain ⟨more, trace, _⟩ := extended
  rw [trace] at same ⊢
  exact answers_extend answers same

theorem answers_callback {trace : List Event} {sock : Sock} (answers : Answers trace sock)
    (callback : Callback) : Answers (trace ++ [.callback callback]) sock := by
  apply answers_extend answers
  rw [notes_quiet Event.noConfusion rfl]

theorem int16_positive (n : UInt16) : 0 < n.toInt16 ↔ 0 < n.toNat ∧ n.toNat < 2 ^ 15 := by
  have bounded := n.toNat_lt
  have value : n.toInt16.toInt = if 2 * n.toNat < 2 ^ 16 then (n.toNat : Int)
      else (n.toNat : Int) - (2 ^ 16 : Nat) := BitVec.toInt_eq_toNat_cond n.toBitVec
  rw [Int16.lt_iff_toInt_lt, value, Int16.toInt_zero]
  split <;> omega

theorem turn_fits {socket : Socket} (blank : socket.userBuffer = 0 -> socket.userBufferSize = 0)
    {hif : Hif} {address : UInt32} {readCount : UInt16} (small : readCount.toNat < 2 ^ 15)
    (positive : readCount ≠ 0) (window : hif.rxSize.toNat < 2 ^ 15) {isLonger : Bool} {read : UInt16}
    (longer : isLonger = decide (0 < (readCount - socket.userBufferSize).toInt16))
    (reads : read = if isLonger then socket.userBufferSize else readCount)
    (received : (hif.receive ⟨address, socket.userBuffer = 0, read, !isLonger⟩).1 = true) :
    socket.userBuffer ≠ 0 ∧ read.toNat ≤ readCount.toNat ∧
      read.toNat ≤ socket.userBufferSize.toNat := by
  have some : readCount.toNat ≠ 0 := fun zero => positive (UInt16.toNat_inj.mp zero)
  have bounded := socket.userBufferSize.toNat_lt
  have difference : (readCount - socket.userBufferSize).toNat =
      (65536 - socket.userBufferSize.toNat + readCount.toNat) % 65536 := UInt16.toNat_sub _ _
  cases isLonger with
  | true =>
    -- The difference may be that of a buffer longer by more than 32768; such a read is refused, as it
    -- is longer than the message.
    have more := (int16_positive _).mp (of_decide_eq_true longer.symm)
    have place : ¬ (address = 0 ∨ decide (socket.userBuffer = 0) = true ∨ read = 0) := by
      intro ends
      cases Hif.receive_ends received ends
    have fits := Hif.receive_size received place
    simp only [not_or, decide_eq_true_eq] at place
    rw [if_pos rfl] at reads
    refine ⟨place.2.1, ?_, by rw [reads]⟩
    dsimp only at fits
    rw [difference] at more
    rw [reads] at fits ⊢
    omega
  | false =>
    have less := mt (int16_positive _).mpr (of_decide_eq_false longer.symm)
    rw [difference] at less
    rw [if_neg Bool.false_ne_true] at reads
    rw [reads]
    have fits : readCount.toNat ≤ socket.userBufferSize.toNat := by omega
    refine ⟨?_, le_rfl, fits⟩
    intro none
    rw [blank none] at fits
    exact some (Nat.le_zero.mp fits)

section Messages

variable {app : App} {memory : Nat -> UInt8} {sock : Sock} {isFrom : Bool} {addr : Peer}

theorem Tracked.notify (tracked : Tracked host) (app : App) {callback : Callback}
    (because : Because host.trace (.callback callback)) : Tracked (Host.notify app host callback) :=
  (tracked.note Event.noConfusion rfl (fun _ _ => rfl) because).run _

theorem Tracked.receive (tracked : Tracked host) (call : Receive) :
    Tracked (host.receive call).2 :=
  tracked.congr rfl (fun _ => rfl) rfl

theorem receive_window (host : Host) (call : Receive) :
    (host.receive call).2.hif.window = host.hif.window :=
  Hif.window_receive host.hif call

theorem notify_extends (calm : ∀ past, (app past).Within opening) (host : Host)
    (callback : Callback) :
    Extends opening (host.note (.callback callback)) (Host.notify app host callback) :=
  Extends.run (calm _)

theorem Extends.window (extended : Extends opening host other) :
    other.hif.window = host.hif.window := by
  obtain ⟨more, _, _, same, _⟩ := extended
  rw [Hif.rest, Hif.rest, Hif.mk.injEq] at same
  rw [Hif.window, Hif.window, same.2.1, same.2.2.1]

theorem turn_tracked (calm : ∀ past, (app past).Within false) {address : UInt32}
    {readCount remainingSize : UInt16} {host middle : Host} (tracked : Tracked host)
    (window : host.hif.rxSize.toNat < 2 ^ 15) (small : readCount.toNat < 2 ^ 15)
    (positive : readCount ≠ 0) (answers : Answers host.trace sock) {isLonger : Bool} {read : UInt16}
    (longer : isLonger =
      decide (0 < (readCount - (host.sockets sock).userBufferSize).toInt16))
    (reads : read = if isLonger then (host.sockets sock).userBufferSize else readCount)
    (received : host.receive ⟨address, (host.sockets sock).userBuffer = 0, read, !isLonger⟩ =
      (true, middle)) {after : Host}
    (told : Host.notify app middle (.recvData sock isFrom addr (host.sockets sock).userBuffer
      (FlatMemory.block memory address.toNat read.toNat) read.toInt16 (remainingSize - read)) =
        after) :
    Tracked after ∧ after.hif.window = host.hif.window ∧ read.toNat ≤ readCount.toNat ∧
      ((after.sockets sock).isUsed = true -> Answers after.trace sock) := by
  have succeeds : (host.hif.receive ⟨address, (host.sockets sock).userBuffer = 0, read,
      !isLonger⟩).1 = true := congrArg Prod.fst received
  obtain ⟨given, shorter, room⟩ :=
    turn_fits (tracked.blank sock) small positive window longer reads succeeds
  have same : (host.receive ⟨address, (host.sockets sock).userBuffer = 0, read,
      !isLonger⟩).2 = middle := congrArg Prod.snd received
  have kept := tracked.receive ⟨address, (host.sockets sock).userBuffer = 0, read, !isLonger⟩
  have sized := receive_window host ⟨address, (host.sockets sock).userBuffer = 0, read, !isLonger⟩
  have trace : middle.trace = host.trace := by
    rw [← same]
    rfl
  rw [same] at kept sized
  have noted : Answers middle.trace sock := by rwa [trace]
  generalize heard : Callback.recvData sock isFrom addr (host.sockets sock).userBuffer
    (FlatMemory.block memory address.toNat read.toNat) read.toInt16 (remainingSize - read) =
    callback at told
  have because : Because middle.trace (.callback callback) := by
    have buffers := tracked.buffers sock
    subst heard
    refine ⟨noted, ?_, given, ?_⟩
    · rw [trace, ← buffers]
    · rw [trace, ← buffers, FlatMemory.block_length]
      exact room
  have next := kept.notify app because
  have calls := notify_extends calm middle callback
  rw [told] at next calls
  refine ⟨next, calls.window.trans sized, shorter, ?_⟩
  intro used
  exact calls.answers (answers_callback noted _) ((next.used sock).mp used)

-- What carries the induction: the data were asked for on the connection that the socket has. A turn
-- keeps that, as the loop goes on only with a socket in use and no callback opens one.
theorem readLoop_tracked (calm : ∀ past, (app past).Within false) {turns : Nat} {address : UInt32}
    {readCount remainingSize : UInt16} {host next : Host} (tracked : Tracked host)
    (window : host.hif.rxSize.toNat < 2 ^ 15) (small : readCount.toNat < 2 ^ 15)
    (positive : readCount ≠ 0) (answers : Answers host.trace sock)
    (runs : Host.readLoop app memory sock isFrom addr turns address readCount remainingSize host =
      some next) :
    Tracked next := by
  induction turns generalizing address readCount remainingSize host with
  | zero => cases runs
  | succ turns ih =>
    rw [Host.readLoop] at runs
    dsimp only at runs
    generalize longer : decide (0 < (readCount - (host.sockets sock).userBufferSize).toInt16) =
      isLonger at runs
    generalize reads : (if isLonger = true then (host.sockets sock).userBufferSize else readCount) =
      read at runs
    have kept := tracked.receive ⟨address, (host.sockets sock).userBuffer = 0, read, !isLonger⟩
    generalize result : host.receive ⟨address, (host.sockets sock).userBuffer = 0, read,
      !isLonger⟩ = reception at runs kept
    obtain ⟨received, middle⟩ := reception
    cases received with
    | false =>
      cases runs
      exact kept
    | true =>
      dsimp only at runs
      generalize told : Host.notify app middle (.recvData sock isFrom addr
        (host.sockets sock).userBuffer (FlatMemory.block memory address.toNat read.toNat)
        read.toInt16 (remainingSize - read)) = after at runs
      obtain ⟨turned, same, shorter, goesOn⟩ := turn_tracked calm tracked window small positive
        answers longer.symm reads.symm result told
      by_cases left : (after.sockets sock).isUsed = false ∧ readCount - read ≠ 0
      next =>
        rw [if_pos left] at runs
        cases runs
        exact turned.receive _
      next =>
        rw [if_neg left] at runs
        by_cases last : readCount - read = 0
        next =>
          rw [if_pos last] at runs
          cases runs
          exact turned
        next =>
          rw [if_neg last] at runs
          have used : (after.sockets sock).isUsed = true := by
            by_contra unused
            exact left ⟨by simpa using unused, last⟩
          have rest : (readCount - read).toNat = readCount.toNat - read.toNat :=
            UInt16.toNat_sub_of_le _ _ shorter
          have size : after.hif.rxSize = host.hif.rxSize := congrArg Prod.snd same
          exact ih turned (by rwa [size]) (by omega) last (goesOn used) runs

theorem readSocketData_tracked (calm : ∀ past, (app past).Within false) {startAddress : UInt32}
    {readCount : UInt16} {next : Host} (tracked : Tracked host)
    (window : host.hif.rxSize.toNat < 2 ^ 15) (small : readCount.toNat < 2 ^ 15)
    (answers : Answers host.trace sock)
    (runs : Host.readSocketData app memory sock isFrom addr startAddress readCount host =
      some next) : Tracked next := by
  rw [Host.readSocketData] at runs
  split at runs
  next ready =>
    exact readLoop_tracked calm tracked window small ready.1 answers runs
  next =>
    cases runs
    exact tracked

theorem answers_of_echo (tracked : Tracked host) {sessionId : UInt16}
    (echoes : ∃ request, Event.request request ∈ host.trace ∧ request.sock = sock ∧
      request.sessionId = some sessionId)
    (session : sessionId = (host.sockets sock).sessionId) : Answers host.trace sock := by
  obtain ⟨request, member, own, named⟩ := echoes
  exact ⟨request, member, own, by rw [named, session, tracked.sessions]⟩

theorem Tracked.unseen (tracked : Tracked host) {sock : Sock} {socket : Socket}
    (same : socket.seen = (host.sockets sock).seen) : Tracked (host.withSocket sock socket) := by
  refine tracked.congr rfl ?_ rfl
  intro other
  dsimp only [Host.withSocket]
  by_cases it : other = sock
  next => rw [it, Function.update_self, same]
  next => rw [Function.update_of_ne it]

theorem toUInt16_small {n : Int16} (positive : 0 < n) : n.toUInt16.toNat < 2 ^ 15 :=
  ((int16_positive n.toUInt16).mp positive).2

theorem recvReply_tracked (calm : ∀ past, (app past).Within false) {reply : RecvReply}
    {bufferSize : UInt16} {address : UInt32} {next : Host} (tracked : Tracked host)
    (window : host.hif.rxSize.toNat < 2 ^ 15)
    (echoes : ∃ request, Event.request request ∈ host.trace ∧ request.sock = reply.sock ∧
      request.sessionId = some reply.sessionId)
    (runs : Host.recvReply app memory isFrom reply bufferSize address host = some next) :
    Tracked next := by
  have waiting : Tracked (host.setRecvPending reply.sock false) := tracked.unseen rfl
  rw [Host.recvReply] at runs
  split at runs
  next session =>
    have answers := answers_of_echo waiting echoes session
    split at runs
    next sized =>
      exact readSocketData_tracked calm waiting window (toUInt16_small sized.1) answers runs
    next =>
      cases runs
      exact waiting.notify app answers
  next =>
    split at runs
    · cases runs
      exact waiting.receive _
    · cases runs
      exact waiting

theorem Tracked.acceptReply (tracked : Tracked host) (listenSock sock : Sock)
    (appDataOffset : UInt16) : Tracked (host.acceptReply listenSock sock appDataOffset) :=
  tracked.claim (tracked.buffers sock) (tracked.blank sock)

theorem handleReply_tracked (calm : ∀ past, (app past).Within false) {reply : Reply}
    {bufferSize : UInt16} {address : UInt32} {next : Host} (tracked : Tracked host)
    (window : host.hif.rxSize.toNat < 2 ^ 15) (echoes : Echoes host.trace reply)
    (runs : Host.handleReply app memory bufferSize address host reply = some next) :
    Tracked next := by
  cases reply with
  | recv isFrom reply => exact recvReply_tracked calm tracked window echoes runs
  | send isTo reply =>
    rw [Host.handleReply] at runs
    split at runs
    next session =>
      cases runs
      exact tracked.notify app (answers_of_echo tracked echoes session)
    next =>
      cases runs
      exact tracked
  | accept addr listenSock connectedSock appDataOffset =>
    cases runs
    cases connectedSock with
    | none => exact tracked.notify app trivial
    | some sock => exact (tracked.acceptReply listenSock sock appDataOffset).notify app trivial
  | connect sock error appDataOffset =>
    cases runs
    refine Tracked.notify ?_ app trivial
    split
    · exact tracked.unseen rfl
    · exact tracked
  | ping ipAddr callback rtt errorCode =>
    rw [Host.handleReply] at runs
    split at runs
    · cases runs
      exact tracked.notify app trivial
    · cases runs
      exact tracked
  | bind | listen | dnsResolve =>
    cases runs
    exact tracked.notify app trivial
  | other =>
    cases runs
    exact tracked

theorem ipCb_tracked (calm : ∀ past, (app past).Within false) {reply : Reply}
    {bufferSize : UInt16} {address : UInt32} {next : Host} (tracked : Tracked host)
    (window : host.hif.rxSize.toNat < 2 ^ 15) (echoes : Echoes host.trace reply)
    (runs : Host.ipCb app memory bufferSize address reply host = some next) : Tracked next := by
  rw [Host.ipCb] at runs
  split at runs
  next =>
    cases runs
    exact tracked
  next read _ =>
    have kept := tracked.receive read
    have same := receive_window host read
    have trace : (host.receive read).2.trace = host.trace := rfl
    generalize host.receive read = result at runs kept same trace
    obtain ⟨received, middle⟩ := result
    cases received with
    | false =>
      cases runs
      exact kept
    | true =>
      have size : middle.hif.rxSize = host.hif.rxSize := congrArg Prod.snd same
      exact handleReply_tracked calm kept (by rwa [size]) (by rwa [trace]) runs

end Messages

section Interrupts

variable {app : App}

theorem Tracked.withHif (tracked : Tracked host) (hif : Hif) : Tracked { host with hif := hif } :=
  tracked.congr rfl (fun _ => rfl) rfl

theorem Tracked.receiveAll (tracked : Tracked host) (reads : List Receive) :
    Tracked (host.receiveAll reads) := by
  induction reads generalizing host with
  | nil => exact tracked
  | cons read reads ih => exact ih (tracked.receive read)

theorem Tracked.finishRx (tracked : Tracked host) : Tracked host.finishRx.2 := by
  rw [Host.finishRx]
  split
  · exact tracked.withHif _
  · exact tracked

theorem dispatch_tracked (calm : ∀ past, (app past).Within false) {interrupt : Interrupt}
    {next : Host} {handled : Bool} (tracked : Tracked host)
    (window : host.hif.rxSize.toNat < 2 ^ 15) (echoes : Echoes host.trace interrupt.reply)
    (runs : host.dispatch app interrupt = some (handled, next)) : Tracked next := by
  rw [Host.dispatch] at runs
  split at runs
  next =>
    obtain ⟨last, calls, same⟩ := Option.map_eq_some_iff.mp runs
    cases same
    exact ipCb_tracked calm tracked window echoes calls
  next =>
    cases runs
    exact tracked
  next =>
    cases runs
    exact tracked.receiveAll _

theorem attempt_keeps (host : Host) : host.attempt.2.trace = host.trace ∧
    host.attempt.2.hif.window = host.hif.window ∧ (Tracked host -> Tracked host.attempt.2) :=
  ⟨rfl, Hif.window_attempt _, fun tracked => tracked.withHif _⟩

theorem takeMessage_tracked (calm : ∀ past, (app past).Within false) {interrupt : Interrupt}
    {size : UInt16} {next : Host} {handled : Bool} (tracked : Tracked host)
    (small : size.toNat < 2 ^ 15) (echoes : Echoes host.trace interrupt.reply)
    (runs : host.takeMessage app interrupt size = some (handled, next)) : Tracked next := by
  rw [Host.takeMessage] at runs
  have first := attempt_keeps host
  generalize host.attempt = result at runs first
  obtain ⟨succeeds, found⟩ := result
  obtain ⟨trace, _, keeps⟩ := first
  have kept := keeps tracked
  cases succeeds with
  | false =>
    cases runs
    exact kept
  | true =>
    dsimp only at runs
    have second := attempt_keeps { found with
      hif.rxAddr := interrupt.address, hif.rxSize := size.toUInt32 }
    generalize Host.attempt { found with
      hif.rxAddr := interrupt.address, hif.rxSize := size.toUInt32 } = result at runs second
    obtain ⟨succeeds, read⟩ := result
    obtain ⟨again, window, keeps⟩ := second
    have kept := keeps (kept.withHif _)
    have rxSize : read.hif.rxSize.toNat = size.toNat := congrArg UInt32.toNat (congrArg Prod.snd window)
    cases succeeds with
    | false =>
      cases runs
      exact kept
    | true =>
      dsimp only at runs
      split at runs
      next =>
        cases runs
        exact kept
      next =>
        have heard : Echoes read.trace interrupt.reply := by
          rw [again]
          change Echoes found.trace interrupt.reply
          rwa [trace]
        split at runs
        next dispatches =>
          have told := (dispatch_tracked calm kept (by rwa [rxSize]) heard dispatches).finishRx
          rwa [Option.some.inj runs] at told
        next => exact dispatch_tracked calm kept (by rwa [rxSize]) heard runs

theorem hifIsr_tracked (calm : ∀ past, (app past).Within false) {interrupt : Interrupt}
    {next : Host} {handled : Bool} (tracked : Tracked host)
    (echoes : Echoes host.trace interrupt.reply)
    (runs : host.hifIsr app interrupt = some (handled, next)) : Tracked next := by
  have small : ((interrupt.reg >>> 2) &&& 0xfff).toUInt16.toNat < 2 ^ 15 := by
    have bounded : (interrupt.reg >>> 2).toNat &&& 4095 ≤ 4095 := Nat.and_le_right
    have masked : ((interrupt.reg >>> 2) &&& 0xfff).toNat = (interrupt.reg >>> 2).toNat &&& 4095 :=
      UInt32.toNat_and _ _
    rw [UInt32.toNat_toUInt16, masked]
    omega
  rw [Host.hifIsr] at runs
  have first := attempt_keeps host
  generalize host.attempt = result at runs first
  obtain ⟨succeeds, asked⟩ := result
  obtain ⟨trace, _, keeps⟩ := first
  have kept := keeps tracked
  cases succeeds with
  | false =>
    cases runs
    exact kept
  | true =>
    dsimp only at runs
    split at runs
    next =>
      cases runs
      exact kept
    next =>
      have second := attempt_keeps asked
      generalize asked.attempt = result at runs second
      obtain ⟨succeeds, cleared⟩ := result
      obtain ⟨again, _, keeps⟩ := second
      have kept := keeps kept
      cases succeeds with
      | false =>
        cases runs
        exact kept
      | true =>
        dsimp only at runs
        split at runs
        next =>
          cases runs
          exact kept.withHif _
        next =>
          refine takeMessage_tracked calm (kept.withHif _) small ?_ runs
          change Echoes cleared.trace interrupt.reply
          rwa [again, trace]

theorem Tracked.reinit (tracked : Tracked host) : Tracked host.reinit := by
  have noted : notes host.reinit.trace = [] := notes_append_singleton _ _
  have buffers (sock : Sock) : bufferOf sock host.reinit.trace = (0, 0) :=
    bufferOf_append_singleton _ _ _
  refine ⟨?_, ?_, ?_, ?_, ?_, fun _ _ => rfl, ?_⟩
  · rw [noted]
    rfl
  · intro sock
    rw [noted]
    rfl
  · intro sock
    rw [noted]
    simp [Host.reinit, Socket.cleared]
  · intro sock
    rw [buffers]
    rfl
  · intro sock _
    exact buffers sock
  · exact (justified_append_singleton _ _ _).mpr ⟨tracked.justified, trivial⟩

theorem init_tracked (faults : List Bool) : Tracked (.init faults) := by
  refine ⟨rfl, fun _ => rfl, ?_, fun _ => rfl, fun _ _ => rfl, fun _ _ => rfl, justified_nil _⟩
  intro sock
  simp [Host.init, Socket.cleared, notes]

theorem reachable_tracked (calm : ∀ past, (app past).Within false) (reachable : Reachable app host) :
    Tracked host := by
  induction reachable with
  | init faults => exact init_tracked faults
  | call call _ ih => exact ih.perform call
  | reinit _ ih => exact ih.reinit
  | faults faults _ ih => exact ih.withHif _
  | interrupt interrupt _ echoes runs ih => exact hifIsr_tracked calm ih echoes runs

def Callback.answers : Callback -> Option Sock
  | .recvData sock .. => some sock
  | .recvStatus sock .. => some sock
  | .send sock .. => some sock
  | _ => none

theorem answer_reaches_asker (calm : ∀ past, (app past).Within false)
    (reachable : Reachable app host) {before after : List Event} {callback : Callback} {sock : Sock}
    (heard : host.trace = before ++ .callback callback :: after)
    (about : callback.answers = some sock) :
    (∃ request, Event.request request ∈ before ∧ request.sock = sock ∧
      request.sessionId = some (sessionOf (holder sock (notes before)))) ∧
    ∀ front request back, before = front ++ Event.request request :: back ->
      request.sock = sock ->
      request.sessionId = some (sessionOf (holder sock (notes before))) ->
      Event.reinit ∉ back ->
      holder sock (notes front) ≠ 0 ∧
        (opens (notes before) < holder sock (notes front) + 65535 ->
          holder sock (notes before) = holder sock (notes front) ∧
            ∀ note ∈ notes back, note.slot ≠ sock) := by
  have justified := (reachable_tracked calm reachable).justified
  have because := justified before _ after heard
  have answers : Answers before sock := by
    cases callback with
    | recvData => cases about; exact because.1
    | recvStatus | send => cases about; exact because
    | _ => cases about
  refine ⟨answers, ?_⟩
  intro front request back split own named steady
  have asked : host.trace = front ++ .request request :: (back ++ .callback callback :: after) := by
    rw [heard, split, List.append_assoc, List.cons_append]
  obtain ⟨held, session⟩ := justified front _ _ asked _ named
  rw [own] at held session
  refine ⟨held, ?_⟩
  intro few
  have noted : notes before = notes front ++ notes back := by
    rw [split, ← List.singleton_append, ← List.append_assoc, notes_append _ steady,
      notes_quiet Event.noConfusion rfl]
  rw [noted] at session few ⊢
  exact same_holder (sessionOf_inj session).symm held few

def quietApp : App := fun _ => .done

def Host.performAll (host : Host) (calls : List ApiCall) : Host :=
  calls.foldl (fun host call => (host.perform call).2) host

theorem Reachable.performAll (reachable : Reachable app host) (calls : List ApiCall) :
    Reachable app (host.performAll calls) := by
  induction calls generalizing host with
  | nil => exact reachable
  | cons call calls ih => exact ih (reachable.call call)

def sentReply (sessionId : UInt16) : Interrupt :=
  ⟨65, 0xd0000, .ip, 16, .send false ⟨0, 1, sessionId⟩, fun _ => 0, []⟩

def asked : Host := (Host.init []).performAll
  ([.socket 2 1 0, .send (some 0) (some [1]), .close (some 0)] ++
    List.replicate 7 (.socket 2 1 0) ++ [.send (some 0) (some [2])])

def heardLate : Host := ((asked.hifIsr quietApp (sentReply 1)).getD (false, asked)).2

def answered : Host := ((heardLate.hifIsr quietApp (sentReply 8)).getD (false, heardLate)).2

theorem answered_reachable : Reachable quietApp answered := by
  have sent : Reachable quietApp asked := Reachable.performAll (.init []) _
  have late : Reachable quietApp heardLate := by
    apply sent.interrupt (sentReply 1)
    · exact ⟨⟨.send, 0, some 1, .data [1] none 80⟩, by decide +kernel, rfl, rfl⟩
    · rfl
  apply late.interrupt (sentReply 8)
  · exact ⟨⟨.send, 0, some 8, .data [2] none 80⟩, by decide +kernel, rfl, rfl⟩
  · rfl

theorem answered_trace : answered.trace = asked.trace ++ [.callback (.send 0 false 1)] := by
  decide +kernel

theorem answer_reaches_asker_late :
    (∃ request, Event.request request ∈ asked.trace ∧ request.sock = 0 ∧
      request.sessionId = some (sessionOf (holder (0 : Sock) (notes asked.trace)))) ∧
    ∀ front request back, asked.trace = front ++ Event.request request :: back ->
      request.sock = 0 ->
      request.sessionId = some (sessionOf (holder (0 : Sock) (notes asked.trace))) ->
      Event.reinit ∉ back ->
      holder (0 : Sock) (notes front) ≠ 0 ∧
        (opens (notes asked.trace) < holder (0 : Sock) (notes front) + 65535 ->
          holder (0 : Sock) (notes asked.trace) = holder (0 : Sock) (notes front) ∧
            ∀ note ∈ notes back, note.slot ≠ 0) :=
  @answer_reaches_asker answered quietApp (fun _ => trivial) answered_reachable asked.trace []
    (.send 0 false 1) 0 answered_trace rfl

/-- Initialising the sockets again takes the numbers back to their start, but not the search for a
socket: the eighth one hears what the first one has sent. -/
example :
    let host := (((Host.init []).performAll (.replicate 7 (.socket 2 1 0) ++
      [.send (some 0) (some [1])])).reinit.performAll [.socket 2 1 0])
    (host.hifIsr quietApp (sentReply 1)).map (fun handled => handled.2.trace.getLast?) =
      some (some (.callback (.send 0 false 1))) := by
  decide +kernel

end Interrupts

end AvrVoiceControl.Winc
