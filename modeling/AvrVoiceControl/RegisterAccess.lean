import AvrVoiceControl.TwiTransfer

set_option autoImplicit false

namespace AvrVoiceControl.I2c

open BusTransfer FlatMemory

/-- The frame of the blocking functions: take the bus, set the transfer up, start it and wait. The
first call of the interrupt handler is the one that `I2C_0_master_operation` makes. -/
def blocking (driver : Driver) (address : UInt8) (read : Bool) (prepare : Driver -> Driver)
    (status : Status) (happenings : List Happening) : Waiting × List Register :=
  let (opened, flushed) := driver.sitUntilOpen address
  let (_, started, commands) := (prepare opened).masterOperation status read
  let (waiting, later) := Machine.run waitStep ⟨started, none⟩ happenings
  (waiting, flushed ++ commands ++ later)

def Driver.withByte (driver : Driver) (place : Nat) (value : UInt8) : Driver :=
  { driver with memory := Function.update driver.memory place value }

def Driver.withWord (driver : Driver) (place : Nat) (value : UInt16) : Driver :=
  (driver.withByte place value.toUInt8).withByte (place + 1) (value >>> 8).toUInt8

def wordAt (memory : Nat -> UInt8) (place : Nat) : UInt16 :=
  (memory place).toUInt16 ||| (memory (place + 1)).toUInt16 <<< 8

def write1ByteRegister (driver : Driver) (address reg data : UInt8) (regAt dataAt : Nat) :
    Status -> List Happening -> Waiting × List Register :=
  blocking ((driver.withByte regAt reg).withByte dataAt data) address false fun opened =>
    ((opened.setDataCompleteCallback (some (.wr1RegCompleteHandler dataAt))).setBuffer
      regAt 1).setAddressNackCallback (some .cbRestartWrite)

def writeNBytes (driver : Driver) (address : UInt8) (data : Nat) (len : UInt16) :
    Status -> List Happening -> Waiting × List Register :=
  blocking driver address false fun opened =>
    (opened.setBuffer data len).setAddressNackCallback (some .cbRestartWrite)

def write2ByteRegister (driver : Driver) (address reg : UInt8) (data : UInt16)
    (regAt dataAt : Nat) : Status -> List Happening -> Waiting × List Register :=
  blocking ((driver.withByte regAt reg).withWord dataAt data) address false fun opened =>
    ((opened.setDataCompleteCallback (some (.wr2RegCompleteHandler dataAt))).setBuffer
      regAt 1).setAddressNackCallback (some .cbRestartWrite)

def read1Attempt (driver : Driver) (address : UInt8) (regAt d2At : Nat) :
    Status -> List Happening -> Waiting × List Register :=
  blocking driver address false fun opened =>
    ((opened.setDataCompleteCallback (some (.rd1RegCompleteHandler d2At))).setBuffer
      regAt 1).setAddressNackCallback (some .cbRestartWrite)

/-- The passes left, each with what happens in it, and the value once the function returns. -/
def read1Passes (driver : Driver) (address : UInt8) (regAt d2At : Nat) :
    List (Status × List Happening) -> Option UInt8 × Driver × List Register
  | [] => (some (driver.memory d2At), driver, [])
  | (status, happenings) :: passes =>
    let (waiting, registers) := read1Attempt driver address regAt d2At status happenings
    match waiting.returned with
    | none => (none, waiting.driver, registers)
    | some .noErr => (some (waiting.driver.memory d2At), waiting.driver, registers)
    | some _ =>
      let (value, last, later) := read1Passes waiting.driver address regAt d2At passes
      (value, last, registers ++ later)

def read1ByteRegister (driver : Driver) (address reg : UInt8) (regAt d2At : Nat)
    (first second : Status × List Happening) : Option UInt8 × Driver × List Register :=
  read1Passes ((driver.withByte regAt reg).withByte d2At 42) address regAt d2At [first, second]

/-- The wait of `i2c_read2ByteRegister`, whose variable `result` lies at `resultAt`. -/
def read2Wait (driver : Driver) (address reg : UInt8) (regAt resultAt : Nat) :
    Status -> List Happening -> Waiting × List Register :=
  blocking (driver.withByte regAt reg) address false fun opened =>
    ((opened.setDataCompleteCallback (some (.rd2RegCompleteHandler resultAt))).setBuffer
      regAt 1).setAddressNackCallback (some .cbRestartWrite)

def read2ByteRegister (driver : Driver) (address reg : UInt8) (regAt resultAt : Nat)
    (status : Status) (happenings : List Happening) : Option UInt16 × Driver × List Register :=
  let (waiting, registers) := read2Wait driver address reg regAt resultAt status happenings
  let result := wordAt waiting.driver.memory resultAt
  (waiting.returned.map fun _ => result <<< 8 ||| result >>> 8, waiting.driver, registers)

def readDataBlock (driver : Driver) (address reg : UInt8) (data : Nat) (len : UInt16)
    (regAt : Nat) : Status -> List Happening -> Waiting × List Register :=
  blocking (driver.withByte regAt reg) address false fun opened =>
    ((opened.setDataCompleteCallback (some (.rdBlkRegCompleteHandler data len))).setBuffer
      regAt 1).setAddressNackCallback (some .cbRestartWrite)

def readNBytes (driver : Driver) (address : UInt8) (data : Nat) (len : UInt16) :
    Status -> List Happening -> Waiting × List Register :=
  blocking driver address true fun opened => opened.setBuffer data len

section Starting

variable {driver : Driver} {address : UInt8} {memory : Nat -> UInt8} {buffer : Nat}

def Driver.prepared (driver : Driver) (address : UInt8) (insists : Bool) (dataComplete : Callback)
    (data : Nat) (length : UInt16) : Driver :=
  { (driver.openBus address).2.1 with
      dataComplete := dataComplete
      dataPtr := data
      dataLength := length
      bufferFree := false
      addressNACK := onRefusal insists }

/-- The loop that opens the bus calls `I2C_0_open` twice, and the second call changes nothing. -/
theorem sitUntilOpen_free (free : driver.inUse = false) :
    driver.sitUntilOpen address = ((driver.openBus address).2.1, [.flush]) := by
  simp [Driver.sitUntilOpen, Driver.openBus, free]

theorem prepared_free (free : driver.inUse = false) (insists : Bool) (dataComplete : Callback)
    (data : Nat) (length : UInt16) :
    driver.prepared address insists dataComplete data length =
      { driver with
          address := address, busy := false, inUse := true, addressNACKCheck := false,
          state := .reset, timeoutValue := 500, bufferFree := false, dataPtr := data,
          dataLength := length, dataComplete := dataComplete, writeCollision := .returnStop,
          addressNACK := onRefusal insists, dataNACK := .returnStop, timeOut := .returnReset,
          interruptsEnabled := true, pending := false } := by
  simp [Driver.prepared, Driver.openBus, free]

theorem starts_lost {insists : Bool} {dataComplete : Callback} {data : Nat} {length : UInt16}
    (free : driver.inUse = false) {status : Status} (lost : status.busErr || status.arbLost)
    (read : Bool) :
    let result := (driver.prepared address insists dataComplete data length).masterOperation
      status read
    Represents address insists driver.memory buffer ⟨result.2.1, none⟩ (.done []) ∧
      result.2.2 = [.flush] := by
  rw [prepared_free free]
  cases fault : status.busErr with
  | true =>
    simp [Driver.masterOperation, Driver.masterIsr, Driver.overridden, fault, Driver.dispatch,
      Driver.doBusError, Represents, fill]
  | false =>
    have collision : status.arbLost = true := by simpa [fault] using lost
    simp [Driver.masterOperation, Driver.masterIsr, Driver.overridden, fault, collision,
      Driver.dispatch, Driver.doBusCollision, Driver.invoke, Driver.doReset, Represents, fill]

theorem starts_kept {insists : Bool} {dataComplete : Callback} {data : Nat} {length : UInt16}
    (free : driver.inUse = false) {status : Status}
    (kept : (status.busErr || status.arbLost) = false) (read : Bool) :
    (driver.prepared address insists dataComplete data length).masterOperation status read =
      (.noErr, { driver.prepared address insists dataComplete data length with
          busy := true, pending := true, addressNACKCheck := true,
          state := if read then .rx else .tx },
        shown address (.call read)) := by
  obtain ⟨noFault, noCollision⟩ := Bool.or_eq_false_iff.mp kept
  rw [prepared_free free]
  cases read <;>
  simp [Driver.masterOperation, Driver.masterIsr, Driver.overridden, noFault, noCollision,
    Driver.dispatch, Driver.doSendAdrRead, Driver.doSendAdrWrite, shown]

theorem engaged_of_prepared {insists : Bool} {dataComplete : Callback} {data : Nat}
    {length : UInt16} (free : driver.inUse = false) (state : FsmState) :
    Engaged address insists { driver.prepared address insists dataComplete data length with
      busy := true, pending := true, addressNACKCheck := true, state := state } := by
  rw [prepared_free free]
  exact ⟨rfl, rfl, rfl, rfl, rfl, rfl, rfl⟩

end Starting

section Outcomes

variable {driver : Driver} {address : UInt8} {buffer : Nat} {insists : Bool}
  {dataComplete : Callback} {data : Nat} {length : UInt16}

def Outcome (address : UInt8) (insists : Bool) (memory : Nat -> UInt8) (buffer : Nat)
    (phase : Phase UInt8) (read : Bool) (status : Status) (happenings : List Happening)
    (outcome : Waiting × List Register) : Prop :=
  if status.busErr || status.arbLost then
    Represents address insists memory buffer outcome.1 (.done []) ∧ outcome.2 = [.flush, .flush]
  else
    Represents address insists memory buffer outcome.1
        (Machine.run (Phase.step insists) phase (happenings.flatMap heard)).1 ∧
      outcome.2 = .flush :: (shown address (.call read) ++
        (transcript insists phase (happenings.flatMap heard)).flatMap (shown address))

theorem blocking_outcome {prepare : Driver -> Driver} (free : driver.inUse = false) {read : Bool}
    (prepares : prepare (driver.openBus address).2.1 =
      driver.prepared address insists dataComplete data length) {phase : Phase UInt8}
    {status : Status}
    (begins : Represents address insists driver.memory buffer
      ⟨{ driver.prepared address insists dataComplete data length with
          busy := true, pending := true, addressNACKCheck := true,
          state := if read then .rx else .tx }, none⟩ phase) (happenings : List Happening) :
    Outcome address insists driver.memory buffer phase read status happenings
      (blocking driver address read prepare status happenings) := by
  simp only [Outcome, blocking, sitUntilOpen_free free, prepares]
  by_cases lost : status.busErr || status.arbLost
  next =>
    obtain ⟨ended, flushed⟩ := @starts_lost driver address buffer insists dataComplete data length
      free status lost read
    obtain ⟨still, registers⟩ := wait_transfers ended happenings
    rw [if_pos lost]
    rw [run_done] at still
    exact ⟨still, by simp [flushed, registers]⟩
  next =>
    have kept : (status.busErr || status.arbLost) = false := by simpa using lost
    obtain ⟨reached, registers⟩ := wait_transfers begins happenings
    rw [if_neg lost, starts_kept free kept]
    exact ⟨reached, by simp [registers]⟩

end Outcomes

section Errors

theorem invoke_busy (driver : Driver) (callback : Callback) :
    (driver.invoke callback).2.busy = driver.busy := by
  cases callback <;>
  simp only [Driver.invoke, Driver.setBuffer, Driver.setDataCompleteCallback] <;>
  split <;> rfl

structure Settled (result : Result) : Prop where
  state : result.1 ≠ .busError
  calm : result.2.1.busy = true ∨
    (result.2.1.busy = false ∧ result.2.1.pending = false ∧ result.2.1.error = .noErr)

theorem sendAdr_settles {driver : Driver} (busy : driver.busy = true) :
    Settled driver.doSendAdrRead ∧ Settled driver.doSendAdrWrite :=
  ⟨⟨by simp [Driver.doSendAdrRead], .inl busy⟩, ⟨by simp [Driver.doSendAdrWrite], .inl busy⟩⟩

theorem sendStop_settles (driver : Driver) : Settled driver.doSendStop :=
  ⟨by simp [Driver.doSendStop, Driver.doIdle], .inr ⟨rfl, rfl, rfl⟩⟩

theorem dataNack_settles {driver : Driver} (busy : driver.busy = true) :
    Settled driver.doDataNack := by
  have called := (invoke_busy driver driver.dataNACK).trans busy
  rw [Driver.doDataNack]
  dsimp only
  split
  next => exact (sendAdr_settles called).1
  next => exact (sendAdr_settles called).2
  next => exact sendStop_settles _

theorem tx_settles {driver : Driver} (busy : driver.busy = true) (status : Status) :
    Settled (driver.doTx status) := by
  rw [Driver.doTx]
  split
  next => exact dataNack_settles busy
  next => exact ⟨by dsimp only; split <;> simp, .inl busy⟩

theorem rx_settles {driver : Driver} (busy : driver.busy = true) (status : Status) :
    Settled (driver.doRx status) := by
  rw [Driver.doRx]
  dsimp only
  split
  next =>
    have called := fun stored : Driver => invoke_busy stored driver.dataComplete
    split
    next => exact ⟨by simp [Driver.doNackRestart], .inl ((called _).trans busy)⟩
    next => exact ⟨by simp [Driver.doNackRestart], .inl ((called _).trans busy)⟩
    next => exact ⟨by simp [Driver.doNackStop, Driver.doIdle], .inr ⟨rfl, rfl, rfl⟩⟩
  next => exact ⟨by simp, .inl busy⟩

theorem txEmpty_settles {driver : Driver} (busy : driver.busy = true) (status : Status) :
    Settled (driver.doTxEmpty status) := by
  have called := (invoke_busy { driver with bufferFree := true } driver.dataComplete).trans busy
  rw [Driver.doTxEmpty]
  split
  next => exact dataNack_settles busy
  next =>
    dsimp only
    split
    next => exact (sendAdr_settles called).1
    next => exact (sendAdr_settles called).2
    next => exact tx_settles called status
    next => exact sendStop_settles _

theorem addressNack_settles {driver : Driver} (busy : driver.busy = true) :
    Settled driver.doAddressNack := by
  have called := (invoke_busy { driver with addressNACKCheck := false, error := .fail }
    driver.addressNACK).trans busy
  rw [Driver.doAddressNack]
  dsimp only
  split
  next => exact (sendAdr_settles called).1
  next => exact (sendAdr_settles called).2
  next => exact sendStop_settles _

theorem busCollision_settles {driver : Driver} (busy : driver.busy = true) :
    Settled driver.doBusCollision := by
  have called := (invoke_busy { driver with error := .fail } driver.writeCollision).trans busy
  rw [Driver.doBusCollision]
  dsimp only
  split
  next => exact (sendAdr_settles called).1
  next => exact (sendAdr_settles called).2
  next => exact ⟨by simp [Driver.doReset], .inr ⟨rfl, rfl, rfl⟩⟩

theorem dispatch_settles {driver : Driver} (busy : driver.busy = true)
    (quiet : driver.pending = false) (status : Status) {state : FsmState}
    (sound : state ≠ .busError) : Settled (driver.dispatch status state) := by
  cases state with
  | idle => exact ⟨by simp [Driver.dispatch, Driver.doIdle], .inr ⟨rfl, quiet, rfl⟩⟩
  | reset => exact ⟨by simp [Driver.dispatch, Driver.doReset], .inr ⟨rfl, rfl, rfl⟩⟩
  | tx => exact tx_settles busy status
  | rx => exact rx_settles busy status
  | txEmpty => exact txEmpty_settles busy status
  | sendAdrRead => exact (sendAdr_settles busy).1
  | sendRestartRead => exact (sendAdr_settles busy).1
  | sendRestart => exact (sendAdr_settles busy).1
  | sendAdrWrite => exact (sendAdr_settles busy).2
  | sendRestartWrite => exact (sendAdr_settles busy).2
  | sendStop => exact sendStop_settles driver
  | rxDoAck => exact ⟨by simp [Driver.dispatch, Driver.rxDoAck], .inl busy⟩
  | txDoAck => exact ⟨by simp [Driver.dispatch, Driver.txDoAck], .inl busy⟩
  | rxDoNackStop =>
    exact ⟨by simp [Driver.dispatch, Driver.doNackStop, Driver.doIdle], .inr ⟨rfl, rfl, rfl⟩⟩
  | rxDoNackRestart => exact ⟨by simp [Driver.dispatch, Driver.doNackRestart], .inl busy⟩
  | addressNack => exact addressNack_settles busy
  | busCollision => exact busCollision_settles busy
  | busError => exact absurd rfl sound

/-- The invariant of a wait in which no bus error flag is ever read. -/
structure Faultless (waiting : Waiting) : Prop where
  returned : waiting.returned = none ∨ waiting.returned = some .noErr
  state : waiting.driver.state ≠ .busError
  calm : waiting.returned = none -> waiting.driver.busy = true ∨
    (waiting.driver.busy = false ∧ waiting.driver.pending = false ∧ waiting.driver.error = .noErr)

def Happening.busErr : Happening -> Bool
  | .interrupt status => status.busErr
  | .poll busErr => busErr

theorem isr_settles {driver : Driver} (busy : driver.busy = true)
    (sound : driver.state ≠ .busError) {status : Status} (good : status.busErr = false) :
    Settled ({ driver with pending := false }.dispatch status (driver.overridden status)) := by
  have kept : driver.overridden status ≠ .busError := by
    rw [Driver.overridden, if_neg (by simp [good])]
    split
    next => simp
    next =>
      split
      next => simp
      next => exact sound
  exact @dispatch_settles { driver with pending := false } busy rfl status _ kept

theorem waitStep_faultless (waiting : Waiting) (happening : Happening)
    (faultless : Faultless waiting) (good : happening.busErr = false) :
    Faultless (waitStep waiting happening).1 := by
  obtain ⟨driver, returned⟩ := waiting
  obtain ⟨result, sound, calm⟩ := faultless
  rcases result with rfl | rfl
  next =>
    cases happening with
    | interrupt status =>
      rw [waitStep]
      by_cases taken : (driver.interruptsEnabled && driver.pending) = true
      next =>
        have pending : driver.pending = true := by simp at taken; exact taken.2
        have busy : driver.busy = true := by
          rcases calm rfl with busy | ⟨_, quiet, _⟩
          · exact busy
          · exact absurd pending (by simp [show driver.pending = false from quiet])
        have settled := isr_settles busy sound good
        simp only [Option.isSome_none, Bool.false_eq_true, if_false, taken, if_true]
        exact ⟨.inl rfl, settled.state, fun _ => settled.calm⟩
      next =>
        simp only [Option.isSome_none, Bool.false_eq_true, if_false, taken]
        exact ⟨.inl rfl, sound, calm⟩
    | poll busErr =>
      obtain rfl : busErr = false := good
      rcases calm rfl with busy | ⟨idle, quiet, error⟩
      next =>
        have busy : driver.busy = true := busy
        simp only [waitStep, Driver.close, busy, Option.isSome_none, Bool.false_eq_true, if_false,
          if_true]
        exact ⟨.inl rfl, sound, fun _ => .inl busy⟩
      next =>
        have idle : driver.busy = false := idle
        have error : driver.error = .noErr := error
        simp only [waitStep, Driver.close, idle, error, Option.isSome_none, Bool.false_eq_true,
          if_false, reduceCtorEq]
        refine ⟨.inr rfl, sound, ?_⟩
        intro waits
        cases waits
  next =>
    refine ⟨.inr rfl, sound, ?_⟩
    intro waits
    cases waits

theorem wait_faultless {waiting : Waiting} (faultless : Faultless waiting)
    {happenings : List Happening} (good : ∀ happening ∈ happenings, happening.busErr = false) :
    Faultless (Machine.run waitStep waiting happenings).1 := by
  induction happenings generalizing waiting with
  | nil => exact faultless
  | cons happening rest ih =>
    have first := waitStep_faultless waiting happening faultless (good happening (by simp))
    exact ih first fun later member => good later (List.mem_cons_of_mem _ member)

end Errors

end AvrVoiceControl.I2c
