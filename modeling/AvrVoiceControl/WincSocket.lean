import AvrVoiceControl.Library.FlatMemory
import AvrVoiceControl.Library.Generations
import AvrVoiceControl.WincHif

set_option autoImplicit false

namespace AvrVoiceControl.Winc

open FlatMemory Generations

abbrev tcpSockMax : Nat := 7
abbrev udpSockMax : Nat := 4

instance neZeroTcp : NeZero tcpSockMax := ⟨by decide⟩

instance neZeroUdp : NeZero udpSockMax := ⟨by decide⟩

instance neZeroSock : NeZero (tcpSockMax + udpSockMax) := ⟨by decide⟩

/-- A `SOCKET` that is an index of `gastrSockets`. -/
abbrev Sock := Fin (tcpSockMax + udpSockMax)

structure Socket where
  userBuffer : UInt16
  userBufferSize : UInt16
  sessionId : UInt16
  dataOffset : UInt16
  isUsed : Bool
  sslFlags : UInt8
  isRecvPending : Bool
  deriving DecidableEq

def Socket.cleared : Socket := ⟨0, 0, 0, 0, false, 0, false⟩

def Socket.sslActive (socket : Socket) : Bool := socket.sslFlags &&& 0x01 ≠ 0

structure SockAddr where
  family : UInt16
  port : UInt16
  ipAddr : UInt32
  deriving DecidableEq

structure Peer where
  port : UInt16
  ipAddr : UInt32
  deriving DecidableEq

inductive SocketCmd
  | bind
  | listen
  | connect
  | send
  | recv
  | sendTo
  | recvFrom
  | close
  | sslConnect
  | sslSend
  | sslRecv
  | sslClose
  | sslCreate
  | sslBind
  deriving DecidableEq

inductive Details
  | none
  | address (addr : SockAddr) (sslFlags : Option UInt8)
  | backlog (backlog : UInt8)
  | data (data : List UInt8) (addr : Option SockAddr) (offset : UInt16)
  | timeout (msec : UInt32)
  deriving DecidableEq

/-- A `SOCKET_REQUEST`; the command that makes a socket a TLS socket carries no session. -/
structure Request where
  cmd : SocketCmd
  sock : Sock
  sessionId : Option UInt16
  details : Details
  deriving DecidableEq

inductive Callback
  | bind (sock : Sock) (status : Int8)
  | listen (sock : Sock) (status : Int8)
  | accept (listenSock : Sock) (sock : Option Sock) (addr : SockAddr)
  | connect (sock : Sock) (error : Int8)
  | resolve (hostName : List UInt8) (hostIp : UInt32)
  | recvData (sock : Sock) (isFrom : Bool) (addr : Peer) (buffer : UInt16) (data : List UInt8)
    (bufferSize : Int16) (remainingSize : UInt16)
  | recvStatus (sock : Sock) (isFrom : Bool) (addr : Peer) (status : Int16)
  | send (sock : Sock) (isTo : Bool) (sentBytes : Int16)
  | ping (ipAddr rtt : UInt32) (errorCode : UInt8)
  deriving DecidableEq

inductive Event
  | opened (sock : Sock)
  | closed (sock : Sock)
  | buffer (sock : Sock) (buffer size : UInt16)
  | request (request : Request)
  | callback (callback : Callback)
  | reinit
  deriving DecidableEq

/-- `gastrSockets` and the other globals, and what has happened. -/
structure Host where
  sockets : Sock -> Socket
  sessionId : UInt16
  nextTcpSock : Fin tcpSockMax
  nextUdpSock : Fin udpSockMax
  hif : Hif
  trace : List Event

inductive ApiCall
  | socket (domain : UInt16) (type flags : UInt8)
  | bind (sock : Option Sock) (addr : Option SockAddr) (addrLen : UInt8)
  | listen (sock : Option Sock) (backlog : UInt8)
  | accept (sock : Option Sock)
  | connect (sock : Option Sock) (addr : Option SockAddr) (addrLen : UInt8)
  | send (sock : Option Sock) (data : Option (List UInt8))
  | sendTo (sock : Option Sock) (data : Option (List UInt8)) (addr : Option SockAddr)
  | recv (sock : Option Sock) (buffer length : UInt16) (timeout : UInt32)
  | recvFrom (sock : Option Sock) (buffer length : UInt16) (timeout : UInt32)
  | close (sock : Option Sock)

/-- What a callback does: calls, each depending on the results of those before. -/
inductive Program
  | done
  | call (call : ApiCall) (next : Int -> Program)

/-- What the callbacks of the application do after what has happened. -/
abbrev App := List Event -> Program

namespace Host

variable (host : Host)

def note (event : Event) : Host := { host with trace := host.trace ++ [event] }

def withSocket (sock : Sock) (socket : Socket) : Host :=
  { host with sockets := Function.update host.sockets sock socket }

def request (request : Request) : Bool × Host :=
  let (sent, hif) := host.hif.attempt
  (sent, { host.note (.request request) with hif := hif })

def newSession : UInt16 :=
  if host.sessionId + 1 = 0 then host.sessionId + 1 + 1 else host.sessionId + 1

def claim (sock : Sock) (socket : Socket) : Host :=
  { (host.withSocket sock { socket with isUsed := true, sessionId := host.newSession }).note
      (.opened sock) with
    sessionId := host.newSession }

/-- The loop of `socket` over one kind of sockets: the first free one, and where the next search
starts. -/
def findSocket {count : Nat} [NeZero count] (isUsed : Fin count -> Bool) :
    Nat -> Fin count -> Option (Fin count) × Fin count
  | 0, next => (none, next)
  | turns + 1, next =>
    if isUsed next then findSocket isUsed turns (next + 1) else (some next, next + 1)

def newSocket (found : Option Sock) (flags : UInt8) : Int × Host :=
  match found with
  | none => (-1, host)
  | some sock =>
    if flags &&& 0x01 ≠ 0 then
      (sock.val,
        ((host.claim sock { Socket.cleared with sslFlags := 0x21 }).request
          ⟨.sslCreate, sock, none, .none⟩).2)
    else (sock.val, host.claim sock Socket.cleared)

def socket (domain : UInt16) (type flags : UInt8) : Int × Host :=
  if domain = 2 then
    if type = 1 then
      let (found, next) := findSocket (fun sock => (host.sockets (Fin.castAdd udpSockMax sock)).isUsed)
        tcpSockMax host.nextTcpSock
      { host with nextTcpSock := next }.newSocket (found.map (Fin.castAdd udpSockMax)) flags
    else if type = 2 then
      let (found, next) := findSocket (fun sock => (host.sockets (Fin.natAdd tcpSockMax sock)).isUsed)
        udpSockMax host.nextUdpSock
      { host with nextUdpSock := next }.newSocket (found.map (Fin.natAdd tcpSockMax)) flags
    else (-1, host)
  else (-1, host)

abbrev errInvalidArg : Int := -6
abbrev errInvalid : Int := -9
abbrev errBufferFull : Int := -14
abbrev socketBufferMaxLength : Nat := 1400

def onSocket (sock : Option Sock) (use : Sock -> Socket -> Int × Host) : Int × Host :=
  match sock with
  | none => (errInvalidArg, host)
  | some sock =>
    if (host.sockets sock).isUsed then use sock (host.sockets sock) else (errInvalidArg, host)

def requestOr (request : Request) (failed : Int) : Int × Host :=
  let (sent, host) := host.request request
  (if sent then 0 else failed, host)

def bind (sock : Option Sock) (addr : Option SockAddr) (addrLen : UInt8) : Int × Host :=
  match addr with
  | none => (errInvalidArg, host)
  | some addr =>
    if addrLen = 0 then (errInvalidArg, host)
    else host.onSocket sock fun sock socket =>
      host.requestOr ⟨if socket.sslActive then .sslBind else .bind, sock, some socket.sessionId,
        .address addr none⟩ errInvalid

def listen (sock : Option Sock) (backlog : UInt8) : Int × Host :=
  host.onSocket sock fun sock socket =>
    host.requestOr ⟨.listen, sock, some socket.sessionId, .backlog backlog⟩ errInvalid

def accept (sock : Option Sock) : Int × Host := host.onSocket sock fun _ _ => (0, host)

def connect (sock : Option Sock) (addr : Option SockAddr) (addrLen : UInt8) : Int × Host :=
  match addr with
  | none => (errInvalidArg, host)
  | some addr =>
    if addrLen = 0 then (errInvalidArg, host)
    else host.onSocket sock fun sock socket =>
      host.requestOr
        (if socket.sslActive then
          ⟨.sslConnect, sock, some socket.sessionId, .address addr (some socket.sslFlags)⟩
        else ⟨.connect, sock, some socket.sessionId, .address addr none⟩) errInvalid

def txPacketOffset (sock : Sock) : UInt16 := if tcpSockMax ≤ sock.val then 68 else 80

def send (sock : Option Sock) (data : Option (List UInt8)) : Int × Host :=
  match data with
  | none => (errInvalidArg, host)
  | some data =>
    if socketBufferMaxLength < data.length then (errInvalidArg, host)
    else host.onSocket sock fun sock socket =>
      host.requestOr
        (if socket.sslActive then
          ⟨.sslSend, sock, some socket.sessionId, .data data none socket.dataOffset⟩
        else ⟨.send, sock, some socket.sessionId, .data data none (txPacketOffset sock)⟩)
        errBufferFull

def sendTo (sock : Option Sock) (data : Option (List UInt8)) (addr : Option SockAddr) :
    Int × Host :=
  match data with
  | none => (errInvalidArg, host)
  | some data =>
    if socketBufferMaxLength < data.length then (errInvalidArg, host)
    else host.onSocket sock fun sock socket =>
      host.requestOr ⟨.sendTo, sock, some socket.sessionId, .data data addr 68⟩ errBufferFull

def receiveWith (cmd : Socket -> SocketCmd) (sock : Option Sock) (buffer length : UInt16)
    (timeout : UInt32) : Int × Host :=
  if buffer = 0 ∨ length = 0 then (errInvalidArg, host)
  else host.onSocket sock fun sock socket =>
    let set := (host.withSocket sock
      { socket with userBuffer := buffer, userBufferSize := length, isRecvPending := true }).note
        (.buffer sock buffer length)
    -- With a request under way only the buffer is another one.
    if socket.isRecvPending then (0, set)
    else set.requestOr ⟨cmd socket, sock, some socket.sessionId,
      .timeout (if timeout = 0 then 0xFFFFFFFF else timeout)⟩ errBufferFull

def recv : Option Sock -> UInt16 -> UInt16 -> UInt32 -> Int × Host :=
  host.receiveWith fun socket => if socket.sslActive then .sslRecv else .recv

def recvFrom : Option Sock -> UInt16 -> UInt16 -> UInt32 -> Int × Host :=
  host.receiveWith fun _ => .recvFrom

def close (sock : Option Sock) : Int × Host :=
  host.onSocket sock fun sock socket =>
    -- The socket is free in the end, also where the WINC is not told.
    let (result, host) := host.requestOr
      ⟨if socket.sslActive then .sslClose else .close, sock, some socket.sessionId, .none⟩ errInvalid
    (result, (host.withSocket sock Socket.cleared).note (.closed sock))

def perform : ApiCall -> Int × Host
  | .socket domain type flags => host.socket domain type flags
  | .bind sock addr addrLen => host.bind sock addr addrLen
  | .listen sock backlog => host.listen sock backlog
  | .accept sock => host.accept sock
  | .connect sock addr addrLen => host.connect sock addr addrLen
  | .send sock data => host.send sock data
  | .sendTo sock data addr => host.sendTo sock data addr
  | .recv sock buffer length timeout => host.recv sock buffer length timeout
  | .recvFrom sock buffer length timeout => host.recvFrom sock buffer length timeout
  | .close sock => host.close sock

end Host

def Program.run : Program -> Host -> Host
  | .done, host => host
  | .call first next, host => (next (host.perform first).1).run (host.perform first).2

structure RecvReply where
  remoteAddr : Peer
  recvStatus : Int16
  dataOffset : UInt16
  sock : Sock
  sessionId : UInt16

structure SendReply where
  sock : Sock
  sentBytes : Int16
  sessionId : UInt16

/-- The messages of the WINC to `m2m_ip_cb`, by their opcodes. -/
inductive Reply
  | bind (sock : Sock) (status : Int8)
  | listen (sock : Sock) (status : Int8)
  | accept (addr : Peer) (listenSock : Sock) (connectedSock : Option Sock)
    (appDataOffset : UInt16)
  | connect (sock : Sock) (error : Int8) (appDataOffset : UInt16)
  | dnsResolve (hostName : List UInt8) (hostIp : UInt32)
  | recv (isFrom : Bool) (reply : RecvReply)
  | send (isTo : Bool) (reply : SendReply)
  | ping (ipAddr : UInt32) (callback : Bool) (rtt : UInt32) (errorCode : UInt8)
  | other

def Reply.read (address : UInt32) : Reply -> Option Receive
  | .bind .. => some ⟨address, false, 4, false⟩
  | .listen .. => some ⟨address, false, 4, false⟩
  | .accept .. => some ⟨address, false, 12, false⟩
  | .connect .. => some ⟨address, false, 4, false⟩
  | .dnsResolve .. => some ⟨address, false, 68, false⟩
  | .recv .. => some ⟨address, false, 16, false⟩
  | .send .. => some ⟨address, false, 8, false⟩
  | .ping .. => some ⟨address, false, 18, true⟩
  | .other => none

def ApiCall.opens : ApiCall -> Bool
  | .socket .. => true
  | _ => false

def Program.Within (opening : Bool) : Program -> Prop
  | .done => True
  | .call first next =>
    (first.opens = true -> opening = true) ∧ ∀ result, (next result).Within opening

namespace Host

variable (app : App)

def notify (host : Host) (callback : Callback) : Host :=
  (app (host.trace ++ [.callback callback])).run (host.note (.callback callback))

def receive (host : Host) (call : Receive) : Bool × Host :=
  let (received, hif) := host.hif.receive call
  (received, { host with hif := hif })

/-- The loop of `Socket_ReadSocketData`, for so many turns at most. -/
def readLoop (memory : Nat -> UInt8) (sock : Sock) (isFrom : Bool) (addr : Peer) :
    Nat -> UInt32 -> UInt16 -> UInt16 -> Host -> Option Host
  | 0, _, _, _, _ => none
  | turns + 1, address, readCount, remainingSize, host =>
    let socket := host.sockets sock
    let isLonger := decide (0 < (readCount - socket.userBufferSize).toInt16)
    let read := if isLonger then socket.userBufferSize else readCount
    match host.receive ⟨address, socket.userBuffer = 0, read, !isLonger⟩ with
    | (false, host) => some host
    | (true, host) =>
      let host := notify app host (.recvData sock isFrom addr socket.userBuffer
        (block memory address.toNat read.toNat) read.toInt16 (remainingSize - read))
      -- The application has closed the socket in its callback.
      if (host.sockets sock).isUsed = false ∧ readCount - read ≠ 0 then
        some (host.receive ⟨0, true, 0, true⟩).2
      else if readCount - read = 0 then some host
      else readLoop memory sock isFrom addr turns (address + read.toUInt32) (readCount - read)
        (remainingSize - read) host

def readSocketData (memory : Nat -> UInt8) (sock : Sock) (isFrom : Bool) (addr : Peer)
    (startAddress : UInt32) (readCount : UInt16) (host : Host) : Option Host :=
  let socket := host.sockets sock
  if readCount ≠ 0 ∧ socket.userBuffer ≠ 0 ∧ socket.userBufferSize ≠ 0 ∧ socket.isUsed = true then
    readLoop app memory sock isFrom addr (readCount.toNat + 1) startAddress readCount readCount host
  else some host

def setRecvPending (host : Host) (sock : Sock) (pending : Bool) : Host :=
  host.withSocket sock { host.sockets sock with isRecvPending := pending }

/-- The branch of `m2m_ip_cb` for received data, after the reply itself has been read. -/
def recvReply (memory : Nat -> UInt8) (isFrom : Bool) (reply : RecvReply) (bufferSize : UInt16)
    (address : UInt32) (host : Host) : Option Host :=
  let host := host.setRecvPending reply.sock false
  if reply.sessionId = (host.sockets reply.sock).sessionId then
    if 0 < reply.recvStatus ∧ reply.recvStatus.toInt < bufferSize.toNat then
      readSocketData app memory reply.sock isFrom reply.remoteAddr
        (address + reply.dataOffset.toUInt32) reply.recvStatus.toUInt16 host
    else
      some (notify app host (.recvStatus reply.sock isFrom reply.remoteAddr reply.recvStatus))
  -- The answer is to an earlier session: what has not been read of it is dropped.
  else if 16 < bufferSize then some (host.receive ⟨0, true, 0, true⟩).2
  else some host

def acceptReply (host : Host) (listenSock sock : Sock) (appDataOffset : UInt16) : Host :=
  -- The other fields of the socket are kept, its buffer and its pending flag among them.
  host.claim sock { host.sockets sock with
    sslFlags := (host.sockets listenSock).sslFlags
    dataOffset := appDataOffset - 8 }

def handleReply (memory : Nat -> UInt8) (bufferSize : UInt16) (address : UInt32) (host : Host) :
    Reply -> Option Host
  | .bind sock status => some (notify app host (.bind sock status))
  | .listen sock status => some (notify app host (.listen sock status))
  | .accept addr listenSock connectedSock appDataOffset =>
    let accepted := match connectedSock with
      | none => host
      | some sock => host.acceptReply listenSock sock appDataOffset
    some (notify app accepted
      (.accept listenSock connectedSock ⟨2, addr.port, addr.ipAddr⟩))
  | .connect sock error appDataOffset =>
    let connected :=
      if error = 0 then
        host.withSocket sock { host.sockets sock with dataOffset := appDataOffset - 8 }
      else host
    some (notify app connected (.connect sock error))
  | .dnsResolve hostName hostIp => some (notify app host (.resolve hostName hostIp))
  | .recv isFrom reply => recvReply app memory isFrom reply bufferSize address host
  | .send isTo reply =>
    if reply.sessionId = (host.sockets reply.sock).sessionId then
      some (notify app host (.send reply.sock isTo reply.sentBytes))
    else some host
  | .ping ipAddr callback rtt errorCode =>
    if callback then some (notify app host (.ping ipAddr rtt errorCode)) else some host
  | .other => some host

def ipCb (memory : Nat -> UInt8) (bufferSize : UInt16) (address : UInt32) (reply : Reply)
    (host : Host) : Option Host :=
  match reply.read address with
  | none => some host
  | some read =>
    match host.receive read with
    | (false, host) => some host
    | (true, host) => handleReply app memory bufferSize address host reply

end Host

inductive Group
  | wifi
  | ip
  | ota
  | crypto
  | sigma
  | ssl
  | invalid
  deriving DecidableEq

structure Interrupt where
  reg : UInt32
  address : UInt32
  gid : Group
  length : UInt16
  reply : Reply
  memory : Nat -> UInt8
  reads : List Receive

namespace Host

variable (app : App)

def attempt (host : Host) : Bool × Host :=
  let (succeeds, hif) := host.hif.attempt
  (succeeds, { host with hif := hif })

def receiveAll (host : Host) (reads : List Receive) : Host :=
  reads.foldl (fun host read => (host.receive read).2) host

/-- The callback of the message's group; `false` for a group that there is not. -/
def dispatch (interrupt : Interrupt) (host : Host) : Option (Bool × Host) :=
  match interrupt.gid with
  | .ip =>
    (ipCb app interrupt.memory (interrupt.length - 8) (interrupt.address + 8) interrupt.reply
      host).map (true, ·)
  | .invalid => some (false, host)
  | _ => some (true, host.receiveAll interrupt.reads)

def finishRx (host : Host) : Bool × Host :=
  if host.hif.rxDone then
    let (done, hif) := host.hif.setRxDone
    (done, { host with hif := hif })
  else (true, host)

/-- `hif_isr` from the moment that the size of the message is known to be positive. -/
def takeMessage (interrupt : Interrupt) (size : UInt16) (host : Host) : Option (Bool × Host) :=
  match host.attempt with
  | (false, host) => some (false, host)
  | (true, host) =>
    match attempt { host with
        hif.rxAddr := interrupt.address, hif.rxSize := size.toUInt32 } with
    | (false, host) => some (false, host)
    | (true, host) =>
      -- The difference is unsigned: a header that says more than the register is refused, too.
      if interrupt.length ≠ size ∧ 4 < size - interrupt.length then some (false, host)
      else
        match dispatch app interrupt host with
        | some (true, host) => some host.finishRx
        | failed => failed

def hifIsr (interrupt : Interrupt) (host : Host) : Option (Bool × Host) :=
  match host.attempt with
  | (false, host) => some (false, host)
  | (true, host) =>
    if interrupt.reg &&& 1 = 0 then some (false, host)
    else
      match host.attempt with
      | (false, host) => some (false, host)
      | (true, host) =>
        let size := ((interrupt.reg >>> 2) &&& 0xfff).toUInt16
        if size = 0 then some (false, { host with hif.rxDone := true })
        else takeMessage app interrupt size { host with hif.rxDone := true }

def init (faults : List Bool) : Host :=
  { sockets := fun _ => Socket.cleared
    sessionId := 0
    nextTcpSock := 0
    nextUdpSock := 0
    hif := ⟨false, 0, 0, faults, []⟩
    trace := [] }

/-- `wifi_reinit` and the registration of the callbacks after it: `socketDeinit`, `hif_deinit`,
`hif_init` and `socketInit`. Where the next search for a socket starts is static in `socket`. -/
def reinit (host : Host) : Host :=
  { host.note .reinit with
    sockets := fun _ => Socket.cleared
    sessionId := 0
    hif := ⟨false, 0, 0, host.hif.faults, host.hif.accesses⟩ }

end Host

def Echoes (trace : List Event) : Reply -> Prop
  | .recv _ reply => ∃ request, Event.request request ∈ trace ∧ request.sock = reply.sock ∧
    request.sessionId = some reply.sessionId
  | .send _ reply => ∃ request, Event.request request ∈ trace ∧ request.sock = reply.sock ∧
    request.sessionId = some reply.sessionId
  | _ => True

/-- Calls of the program and messages of the WINC in any order, with any faults of the bus. -/
inductive Reachable (app : App) : Host -> Prop
  | init (faults : List Bool) : Reachable app (.init faults)
  | call {host : Host} (call : ApiCall) : Reachable app host -> Reachable app (host.perform call).2
  | reinit {host : Host} : Reachable app host -> Reachable app host.reinit
  | faults {host : Host} (faults : List Bool) :
    Reachable app host -> Reachable app { host with hif.faults := faults }
  | interrupt {host next : Host} {handled : Bool} (interrupt : Interrupt) :
    Reachable app host -> Echoes host.trace interrupt.reply ->
      host.hifIsr app interrupt = some (handled, next) -> Reachable app next

end AvrVoiceControl.Winc
