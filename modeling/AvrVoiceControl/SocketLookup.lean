import AvrVoiceControl.Cloud

set_option autoImplicit false

namespace AvrVoiceControl

/-- An entry of the table: what its `socket` points to, `none` where that pointer is NULL. -/
structure PacketReceptionHandler where
  socket : Option Int8
  socketState : SocketState
  deriving DecidableEq

/-- A `packetReceptionHandler_t *`, as a number of entries behind NULL or behind the table. -/
structure HandlerPointer where
  fromNull : Bool
  index : Nat
  deriving DecidableEq

/-- `packetRecvInfo` with the two entries it points to (`none` before one is set), and what is read
where there is no registered entry. -/
structure SocketTable where
  packetRecvInfo : Option (Vector PacketReceptionHandler 2)
  stray : HandlerPointer -> PacketReceptionHandler
  strayByte : Int8

/-- What the WINC driver hands to the socket callback; `none` for a NULL `pMsg`. -/
inductive SocketCallback
  | connect (s8Error : Option Int8)
  | send
  | recv (s16BufferSize : Option Int16)
  | recvFrom (pu8BufferAndSize : Option (Bool × Int16))
  | other

namespace SocketTable

def maxSupportedSockets : Nat := 2

def entry (table : SocketTable) (pointer : HandlerPointer) : Option PacketReceptionHandler :=
  if pointer.fromNull then none
  else table.packetRecvInfo.bind fun entries => entries[pointer.index]?

def fields (table : SocketTable) (pointer : HandlerPointer) : PacketReceptionHandler :=
  (table.entry pointer).getD (table.stray pointer)

def Registered (table : SocketTable) (pointer : HandlerPointer) : Prop :=
  ((table.entry pointer).bind (·.socket)).isSome

instance (table : SocketTable) (pointer : HandlerPointer) : Decidable (table.Registered pointer) :=
  inferInstanceAs (Decidable (_ = true))

def socketValue (table : SocketTable) (pointer : HandlerPointer) : Int8 :=
  (table.fields pointer).socket.getD table.strayByte

def isNull (pointer : HandlerPointer) : Bool := pointer.fromNull && pointer.index == 0

def findSocket (table : SocketTable) (sock : UInt8) :
    HandlerPointer -> Nat -> Option HandlerPointer × List HandlerPointer
  -- The loop with so many turns to go: its result, and the pointers it read through.
  | _, 0 => (none, [])
  | bsdSocketInfo, turns + 1 =>
    let next := { bsdSocketInfo with index := bsdSocketInfo.index + 1 }
    if isNull bsdSocketInfo then findSocket table sock next turns
    else if (table.socketValue bsdSocketInfo).toInt = sock.toNat then
      (some bsdSocketInfo, [bsdSocketInfo])
    else
      let (found, read) := findSocket table sock next turns
      (found, bsdSocketInfo :: read)

def getSocketInfo (table : SocketTable) (sock : UInt8) :
    Option HandlerPointer × List HandlerPointer :=
  -- The test `sock >= 0` always holds of a `uint8_t`.
  table.findSocket sock ⟨table.packetRecvInfo.isNone, 0⟩ maxSupportedSockets

def setSocketState (table : SocketTable) (pointer : HandlerPointer) (state : SocketState) :
    SocketTable :=
  -- A write outside the table goes to memory that the table does not show.
  if pointer.fromNull then table
  else { table with
    packetRecvInfo := table.packetRecvInfo.map fun entries =>
      entries.setIfInBounds pointer.index { table.fields pointer with socketState := state } }

def bsdGetSocketState (table : SocketTable) (sock : Int) : SocketState × List HandlerPointer :=
  let (found, read) := table.getSocketInfo (UInt8.ofInt sock)
  match found with
  | some bsdSocketInfo => ((table.fields bsdSocketInfo).socketState, read ++ [bsdSocketInfo])
  | none => (.notASocket, read)

def bsdClose (table : SocketTable) (socket : Int) : SocketTable × List HandlerPointer :=
  let (found, read) := table.getSocketInfo (UInt8.ofInt socket)
  match found with
  | some sock => (table.setSocketState sock .notASocket, read ++ [sock])
  | none => (table, read)

def bsdConnect (table : SocketTable) (socket : Int) (connects : Bool) :
    SocketTable × List HandlerPointer :=
  -- `connects`: the address family is `PF_INET` and the driver's `connect` reports no error.
  let (found, read) := table.getSocketInfo (UInt8.ofInt socket)
  match found with
  | some bsdSocket =>
    if connects then (table.setSocketState bsdSocket .socketInProgress, read ++ [bsdSocket])
    else (table, read)
  | none => (table, read)

def bsdSocketHandler (table : SocketTable) (sock : Int8) (message : SocketCallback) :
    SocketTable × List HandlerPointer :=
  let (found, read) := table.getSocketInfo sock.toUInt8
  let closed := ((table.bsdClose sock.toInt).1, read ++ (table.bsdClose sock.toInt).2)
  match found with
  | none => (table, read)
  | some bsdSocketInfo =>
    let connected :=
      (table.setSocketState bsdSocketInfo .socketConnected, read ++ [bsdSocketInfo])
    match message with
    | .connect none => (table, read)
    | .connect (some s8Error) => if s8Error ≥ 0 then connected else closed
    | .send => connected
    | .recv none => (table, read)
    | .recv (some s16BufferSize) => if s16BufferSize > 0 then connected else closed
    | .recvFrom none => (table, read)
    | .recvFrom (some (pu8Buffer, s16BufferSize)) =>
      if pu8Buffer ∧ s16BufferSize ≠ 0 then connected else closed
    | .other => (table, read)

theorem findSocket_found_read {table : SocketTable} {sock : UInt8}
    {bsdSocketInfo found : HandlerPointer} {turns : Nat}
    (result : (table.findSocket sock bsdSocketInfo turns).1 = some found) :
    found ∈ (table.findSocket sock bsdSocketInfo turns).2 := by
  induction turns generalizing bsdSocketInfo with
  | zero => cases result
  | succ turns ih =>
    unfold findSocket at result ⊢
    by_cases null : isNull bsdSocketInfo = true
    next =>
      simp only [null, if_true] at result ⊢
      exact ih result
    next =>
      by_cases same : (table.socketValue bsdSocketInfo).toInt = sock.toNat
      next =>
        simp only [null, same, if_true] at result ⊢
        simp_all
      next =>
        simp only [null, same, if_false] at result ⊢
        exact List.mem_cons_of_mem _ (ih result)

theorem mem_read_of_touched {table : SocketTable} {sock : UInt8} {found pointer : HandlerPointer}
    (result : (table.getSocketInfo sock).1 = some found)
    (touched : pointer ∈ (table.getSocketInfo sock).2 ++ [found]) :
    pointer ∈ (table.getSocketInfo sock).2 := by
  rcases List.mem_append.mp touched with read | own
  next => exact read
  next =>
    rw [List.mem_singleton.mp own]
    exact findSocket_found_read result

theorem bsdGetSocketState_touched {table : SocketTable} {socket : Int} {pointer : HandlerPointer}
    (touched : pointer ∈ (table.bsdGetSocketState socket).2) :
    pointer ∈ (table.getSocketInfo (UInt8.ofInt socket)).2 := by
  unfold bsdGetSocketState at touched
  cases found : (table.getSocketInfo (UInt8.ofInt socket)).1 with
  | none => simpa [found] using touched
  | some own => exact mem_read_of_touched found (by simpa [found] using touched)

theorem bsdClose_touched {table : SocketTable} {socket : Int} {pointer : HandlerPointer}
    (touched : pointer ∈ (table.bsdClose socket).2) :
    pointer ∈ (table.getSocketInfo (UInt8.ofInt socket)).2 := by
  unfold bsdClose at touched
  cases found : (table.getSocketInfo (UInt8.ofInt socket)).1 with
  | none => simpa [found] using touched
  | some own => exact mem_read_of_touched found (by simpa [found] using touched)

theorem bsdConnect_touched {table : SocketTable} {socket : Int} {connects : Bool}
    {pointer : HandlerPointer} (touched : pointer ∈ (table.bsdConnect socket connects).2) :
    pointer ∈ (table.getSocketInfo (UInt8.ofInt socket)).2 := by
  unfold bsdConnect at touched
  cases found : (table.getSocketInfo (UInt8.ofInt socket)).1 with
  | none => simpa [found] using touched
  | some own =>
    cases connects with
    | false => simpa [found] using touched
    | true => exact mem_read_of_touched found (by simpa [found] using touched)

theorem uint8_ofInt_toInt (socket : Int8) : UInt8.ofInt socket.toInt = socket.toUInt8 := by
  have cases := Cloud.int8_cases socket
  have bound := socket.toUInt8.toNat_lt
  apply UInt8.toNat_inj.mp
  rw [UInt8.ofInt]
  simp
  omega

theorem bsdSocketHandler_touched {table : SocketTable} {sock : Int8} {message : SocketCallback}
    {pointer : HandlerPointer} (touched : pointer ∈ (table.bsdSocketHandler sock message).2) :
    pointer ∈ (table.getSocketInfo sock.toUInt8).2 := by
  have closed : ∀ other, other ∈ (table.getSocketInfo sock.toUInt8).2 ++
      (table.bsdClose sock.toInt).2 -> other ∈ (table.getSocketInfo sock.toUInt8).2 := by
    intro other either
    rcases List.mem_append.mp either with read | later
    next => exact read
    next =>
      have again := bsdClose_touched later
      rwa [uint8_ofInt_toInt] at again
  unfold bsdSocketHandler at touched
  cases found : (table.getSocketInfo sock.toUInt8).1 with
  | none => simpa [found] using touched
  | some own =>
    have connected := @mem_read_of_touched table sock.toUInt8 own pointer found
    simp only [found] at touched
    split at touched
    all_goals try split at touched
    all_goals first
      | exact touched
      | exact connected touched
      | exact closed _ touched

def firstRegistered (table : SocketTable) (sock : UInt8) : Option HandlerPointer :=
  [⟨false, 0⟩, ⟨false, 1⟩].find? fun pointer =>
    decide (table.Registered pointer) && (table.socketValue pointer).toInt == sock.toNat

/-- The lookup of this argument, and every call of the adapter that makes it, keep to registered
entries. -/
structure KeepsToRegistered (table : SocketTable) (sock : UInt8) : Prop where
  reads : ∀ pointer ∈ (table.getSocketInfo sock).2, table.Registered pointer
  finds : (table.getSocketInfo sock).1 = table.firstRegistered sock
  getSocketState : ∀ socket : Int, UInt8.ofInt socket = sock ->
    ∀ pointer ∈ (table.bsdGetSocketState socket).2, table.Registered pointer
  close : ∀ socket : Int, UInt8.ofInt socket = sock ->
    ∀ pointer ∈ (table.bsdClose socket).2, table.Registered pointer
  connect : ∀ (socket : Int) (connects : Bool), UInt8.ofInt socket = sock ->
    ∀ pointer ∈ (table.bsdConnect socket connects).2, table.Registered pointer
  handler : ∀ (socket : Int8) (message : SocketCallback), socket.toUInt8 = sock ->
    ∀ pointer ∈ (table.bsdSocketHandler socket message).2, table.Registered pointer

def Answers (table : SocketTable) (sock : UInt8) : Prop :=
  table.Registered ⟨false, 0⟩ ∧
    ((table.socketValue ⟨false, 0⟩).toInt = sock.toNat ∨ table.Registered ⟨false, 1⟩)

theorem getSocketInfo_eq {table : SocketTable} {sock : UInt8}
    (set : table.packetRecvInfo.isSome) :
    table.getSocketInfo sock =
      if (table.socketValue ⟨false, 0⟩).toInt = sock.toNat then
        (some ⟨false, 0⟩, [⟨false, 0⟩])
      else if (table.socketValue ⟨false, 1⟩).toInt = sock.toNat then
        (some ⟨false, 1⟩, [⟨false, 0⟩, ⟨false, 1⟩])
      else (none, [⟨false, 0⟩, ⟨false, 1⟩]) := by
  have table_set : table.packetRecvInfo.isNone = false := by simpa using set
  simp only [getSocketInfo, maxSupportedSockets, findSocket, isNull, table_set, Bool.false_and,
    Bool.false_eq_true, if_false]
  by_cases first : (table.socketValue ⟨false, 0⟩).toInt = sock.toNat
  next => simp [first]
  next =>
    by_cases second : (table.socketValue ⟨false, 1⟩).toInt = sock.toNat <;> simp [first, second]

theorem getSocketInfo_unset {table : SocketTable} (unset : table.packetRecvInfo = none)
    (sock : UInt8) : ⟨true, 1⟩ ∈ (table.getSocketInfo sock).2 := by
  simp only [getSocketInfo, maxSupportedSockets, findSocket, isNull, unset]
  simp
  split <;> simp

theorem set_of_registered {table : SocketTable} {pointer : HandlerPointer}
    (registered : table.Registered pointer) : table.packetRecvInfo.isSome := by
  cases set : table.packetRecvInfo with
  | none => simp [Registered, entry, set] at registered
  | some entries => rfl

theorem reads_and_finds {table : SocketTable} {sock : UInt8} (answers : table.Answers sock) :
    (∀ pointer ∈ (table.getSocketInfo sock).2, table.Registered pointer) ∧
      (table.getSocketInfo sock).1 = table.firstRegistered sock := by
  obtain ⟨first, rest⟩ := answers
  rw [getSocketInfo_eq (set_of_registered first)]
  by_cases here : (table.socketValue ⟨false, 0⟩).toInt = sock.toNat
  next => simp [here, first, firstRegistered]
  next =>
    have second := rest.resolve_left here
    by_cases there : (table.socketValue ⟨false, 1⟩).toInt = sock.toNat <;>
      simp [here, there, first, second, firstRegistered]

theorem answers_of_reads {table : SocketTable} {sock : UInt8}
    (reads : ∀ pointer ∈ (table.getSocketInfo sock).2, table.Registered pointer) :
    table.Answers sock := by
  cases set : table.packetRecvInfo with
  | none =>
    have behind := reads ⟨true, 1⟩ (getSocketInfo_unset set sock)
    simp [Registered, entry] at behind
  | some entries =>
    rw [getSocketInfo_eq (by rw [set]; rfl)] at reads
    by_cases here : (table.socketValue ⟨false, 0⟩).toInt = sock.toNat
    next => exact ⟨reads ⟨false, 0⟩ (by simp [here]), Or.inl here⟩
    next =>
      by_cases there : (table.socketValue ⟨false, 1⟩).toInt = sock.toNat <;>
        exact ⟨reads ⟨false, 0⟩ (by simp [here, there]),
          Or.inr (reads ⟨false, 1⟩ (by simp [here, there]))⟩

/-- `sock` is the argument as the function receives it: a socket number of -1 arrives as 255, which
is the value of no socket. -/
theorem keepsToRegistered_iff (table : SocketTable) (sock : UInt8) :
    table.KeepsToRegistered sock ↔ table.Answers sock := by
  constructor
  next =>
    intro keeps
    exact answers_of_reads keeps.reads
  next =>
    intro answers
    obtain ⟨reads, finds⟩ := reads_and_finds answers
    constructor
    case reads => exact reads
    case finds => exact finds
    case getSocketState =>
      rintro socket rfl pointer touched
      exact reads pointer (bsdGetSocketState_touched touched)
    case close =>
      rintro socket rfl pointer touched
      exact reads pointer (bsdClose_touched touched)
    case connect =>
      rintro socket connects rfl pointer touched
      exact reads pointer (bsdConnect_touched touched)
    case handler =>
      rintro socket message rfl pointer touched
      exact reads pointer (bsdSocketHandler_touched touched)

def afterReInit (mqqtSocket : Int8) : SocketTable where
  packetRecvInfo := some #v[⟨some mqqtSocket, .notASocket⟩, ⟨none, .notASocket⟩]
  stray := fun _ => ⟨none, .notASocket⟩
  strayByte := 0

theorem notASocket_reads_spareEntry : ¬(afterReInit (-1)).KeepsToRegistered (UInt8.ofInt (-1)) := by
  intro keeps
  have spare := keeps.reads ⟨false, 1⟩ (by decide)
  revert spare
  decide

/-- Once the table is registered, this lookup is the one of the cloud service. -/
theorem getSocketInfo_cloud {cloud : Cloud} (registered : cloud.registered = true) (sock : UInt8) :
    cloud.getSocketInfo sock =
      (getSocketInfo
        { packetRecvInfo :=
            some #v[⟨some cloud.mqqtSocket, cloud.socketState⟩, ⟨none, cloud.spareState⟩]
          stray := fun _ => ⟨none, .notASocket⟩
          strayByte := cloud.zeroByte } sock).1.map
        fun pointer => if pointer.index = 0 then .mqtt else .spare := by
  rw [getSocketInfo_eq rfl]
  simp only [Cloud.getSocketInfo, registered, if_true]
  by_cases first : cloud.mqqtSocket.toInt = sock.toNat
  next => simp [first, socketValue, fields, entry]
  next =>
    by_cases second : cloud.zeroByte.toInt = sock.toNat <;>
      simp [first, second, socketValue, fields, entry]

end SocketTable

end AvrVoiceControl
