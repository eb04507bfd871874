import AvrVoiceControl.Library.BusTransfer
import AvrVoiceControl.Library.FlatMemory
import Mathlib.Data.UInt

set_option autoImplicit false

namespace AvrVoiceControl.I2c

inductive FsmState
  | idle
  | sendAdrRead
  | sendAdrWrite
  | tx
  | rx
  | txEmpty
  | sendRestartRead
  | sendRestartWrite
  | sendRestart
  | sendStop
  | rxDoAck
  | txDoAck
  | rxDoNackStop
  | rxDoNackRestart
  | reset
  | addressNack
  | busCollision
  | busError
  deriving DecidableEq

inductive Error
  | noErr
  | busy
  | fail
  deriving DecidableEq

inductive Operation
  | stop
  | restartRead
  | restartWrite
  | continue
  | resetLink
  deriving DecidableEq

/-- The functions that the callback table ever holds, each with its payload. -/
inductive Callback
  | returnStop
  | returnReset
  | cbReturnStop
  | cbReturnReset
  | cbRestartWrite
  | cbRestartRead
  | wr1RegCompleteHandler (p : Nat)
  | rd1RegCompleteHandler (p : Nat)
  | rd2RegCompleteHandler (p : Nat)
  | wr2RegCompleteHandler (p : Nat)
  | rdBlkRegCompleteHandler (data : Nat) (len : UInt16)
  deriving DecidableEq

inductive Register
  | maddr (value : UInt8)
  | mdata (value : UInt8)
  | fetched (value : UInt8)
  | ackAct (nack : Bool)
  | recvTrans
  | stop
  | flush
  deriving DecidableEq

structure Status where
  rxAck : Bool
  arbLost : Bool
  busErr : Bool
  data : UInt8

structure Driver where
  busy : Bool
  inUse : Bool
  bufferFree : Bool
  addressNACKCheck : Bool
  address : UInt8
  dataPtr : Nat
  dataLength : UInt16
  timeoutValue : UInt16
  state : FsmState
  error : Error
  dataComplete : Callback
  writeCollision : Callback
  addressNACK : Callback
  dataNACK : Callback
  timeOut : Callback
  -- `RIEN` and `WIEN`, and whether the peripheral still works on what it was last told.
  interruptsEnabled : Bool
  pending : Bool
  memory : Nat -> UInt8

def Driver.init (memory : Nat -> UInt8) : Driver where
  busy := false
  inUse := false
  bufferFree := false
  addressNACKCheck := false
  address := 0
  dataPtr := 0
  dataLength := 0
  timeoutValue := 0
  state := .idle
  error := .noErr
  dataComplete := .returnStop
  writeCollision := .returnStop
  addressNACK := .returnStop
  dataNACK := .returnStop
  timeOut := .returnStop
  interruptsEnabled := false
  pending := false
  memory := memory

abbrev Result := FsmState × Driver × List Register

namespace Driver

def setDataCompleteCallback (driver : Driver) (cb : Option Callback) : Driver :=
  { driver with dataComplete := cb.getD .returnStop }

def setAddressNackCallback (driver : Driver) (cb : Option Callback) : Driver :=
  { driver with addressNACK := cb.getD .returnStop }

def setBuffer (driver : Driver) (buffer : Nat) (bufferSize : UInt16) : Driver :=
  if driver.bufferFree then
    { driver with dataPtr := buffer, dataLength := bufferSize, bufferFree := false }
  else driver

/-- `I2C_0_open`. The value of success, `I2C_NOERR`, is zero. -/
def openBus (driver : Driver) (address : UInt8) : Error × Driver × List Register :=
  if driver.inUse then (.busy, driver, [])
  else
    (.noErr,
      { driver with
          address := address
          busy := false
          inUse := true
          addressNACKCheck := false
          state := .reset
          timeoutValue := 500
          bufferFree := true
          dataComplete := .returnStop
          writeCollision := .returnStop
          addressNACK := .returnStop
          dataNACK := .returnStop
          timeOut := .returnReset
          interruptsEnabled := true
          pending := false },
      [.flush])

/-- `while(!I2C_0_open(address));`, which a call that takes the bus does not leave but the next. -/
def sitUntilOpen (driver : Driver) (address : UInt8) : Driver × List Register :=
  match driver.openBus address with
  | (.noErr, opened, registers) => ((opened.openBus address).2.1, registers)
  | (_, opened, registers) => (opened, registers)

def close (driver : Driver) (busErr : Bool) : Error × Driver :=
  let read := if busErr then { driver with busy := false, error := .fail } else driver
  if read.busy then (.busy, read)
  else (read.error, { read with inUse := false, address := 0xff, interruptsEnabled := false })

def doReset (driver : Driver) : Result :=
  (.reset, { driver with busy := false, error := .noErr, pending := false }, [.flush])

def doIdle (driver : Driver) : Result :=
  (.idle, { driver with busy := false, error := .noErr }, [])

def doSendAdrRead (driver : Driver) : Result :=
  (.rx, { driver with addressNACKCheck := true, pending := true },
    [.maddr (driver.address <<< 1 ||| 1)])

def doSendAdrWrite (driver : Driver) : Result :=
  (.tx, { driver with addressNACKCheck := true, pending := true }, [.maddr (driver.address <<< 1)])

def doSendStop (driver : Driver) : Result :=
  let (state, next, registers) := doIdle { driver with pending := false }
  (state, next, .stop :: registers)

def rxDoAck (driver : Driver) : Result := (.rx, driver, [.ackAct false])

def txDoAck (driver : Driver) : Result := (.tx, driver, [.ackAct false])

def doNackStop (driver : Driver) : Result :=
  let (state, next, registers) := doIdle { driver with pending := false }
  (state, next, .ackAct true :: .stop :: registers)

def doNackRestart (driver : Driver) : Result := (.sendRestart, driver, [.ackAct true])

def invoke (driver : Driver) : Callback -> Operation × Driver
  | .returnStop => (.stop, driver)
  | .returnReset => (.resetLink, driver)
  | .cbReturnStop => (.stop, driver)
  | .cbReturnReset => (.resetLink, driver)
  | .cbRestartWrite => (.restartWrite, driver)
  | .cbRestartRead => (.restartRead, driver)
  | .wr1RegCompleteHandler p => (.continue, (driver.setBuffer p 1).setDataCompleteCallback none)
  | .rd1RegCompleteHandler p => (.restartRead, (driver.setBuffer p 1).setDataCompleteCallback none)
  | .rd2RegCompleteHandler p => (.restartRead, (driver.setBuffer p 2).setDataCompleteCallback none)
  | .wr2RegCompleteHandler p => (.continue, (driver.setBuffer p 2).setDataCompleteCallback none)
  | .rdBlkRegCompleteHandler data len =>
    (.restartRead, (driver.setBuffer data len).setDataCompleteCallback none)

def doAddressNack (driver : Driver) : Result :=
  let (operation, called) :=
    { driver with addressNACKCheck := false, error := .fail }.invoke driver.addressNACK
  match operation with
  | .restartRead => called.doSendAdrRead
  | .restartWrite => called.doSendAdrWrite
  | _ => called.doSendStop

def doDataNack (driver : Driver) : Result :=
  let (operation, called) := driver.invoke driver.dataNACK
  match operation with
  | .restartRead => called.doSendAdrRead
  | .restartWrite => called.doSendAdrWrite
  | _ => called.doSendStop

def doTx (driver : Driver) (status : Status) : Result :=
  if status.rxAck then driver.doDataNack
  else
    let left := driver.dataLength - 1
    (if left = 0 then .txEmpty else .tx,
      { driver with
          addressNACKCheck := false
          dataPtr := driver.dataPtr + 1
          dataLength := left
          pending := true },
      [.mdata (driver.memory driver.dataPtr)])

def doRx (driver : Driver) (status : Status) : Result :=
  let left := driver.dataLength - 1
  let stored :=
    { driver with
        addressNACKCheck := false
        dataLength := left
        memory := Function.update driver.memory driver.dataPtr status.data
        dataPtr := driver.dataPtr + 1 }
  let fetched := [.ackAct (decide (driver.dataLength = 1)), .fetched status.data]
  if left = 0 then
    let (operation, called) := { stored with bufferFree := true }.invoke driver.dataComplete
    let (state, next, registers) :=
      match operation with
      | .restartWrite => called.doNackRestart
      | .restartRead => called.doNackRestart
      | _ => called.doNackStop
    (state, next, fetched ++ registers)
  else (.rx, { stored with pending := true }, fetched ++ [.recvTrans])

def doTxEmpty (driver : Driver) (status : Status) : Result :=
  if status.rxAck then driver.doDataNack
  else
    let (operation, called) := { driver with bufferFree := true }.invoke driver.dataComplete
    match operation with
    | .restartRead => called.doSendAdrRead
    | .restartWrite => called.doSendAdrWrite
    | .continue => called.doTx status
    | _ => called.doSendStop

def doBusCollision (driver : Driver) : Result :=
  let (operation, called) := { driver with error := .fail }.invoke driver.writeCollision
  match operation with
  | .restartRead => called.doSendAdrRead
  | .restartWrite => called.doSendAdrWrite
  | _ => called.doReset

def doBusError (driver : Driver) : Result :=
  (.reset, { driver with busy := false, error := .fail, pending := false }, [.flush])

def dispatch (driver : Driver) (status : Status) : FsmState -> Result
  | .idle => driver.doIdle
  | .sendAdrRead => driver.doSendAdrRead
  | .sendAdrWrite => driver.doSendAdrWrite
  | .tx => driver.doTx status
  | .rx => driver.doRx status
  | .txEmpty => driver.doTxEmpty status
  | .sendRestartRead => driver.doSendAdrRead
  | .sendRestartWrite => driver.doSendAdrWrite
  | .sendRestart => driver.doSendAdrRead
  | .sendStop => driver.doSendStop
  | .rxDoAck => driver.rxDoAck
  | .txDoAck => driver.txDoAck
  | .rxDoNackStop => driver.doNackStop
  | .rxDoNackRestart => driver.doNackRestart
  | .reset => driver.doReset
  | .addressNack => driver.doAddressNack
  | .busCollision => driver.doBusCollision
  | .busError => driver.doBusError

/-- The state that the handler dispatches on, after its overrides. -/
def overridden (driver : Driver) (status : Status) : FsmState :=
  if status.busErr then .busError
  else if status.arbLost then .busCollision
  else if driver.addressNACKCheck && status.rxAck then .addressNack
  else driver.state

def masterIsr (driver : Driver) (status : Status) : Driver × List Register :=
  let (state, next, registers) :=
    { driver with pending := false }.dispatch status (driver.overridden status)
  ({ next with state := state }, registers)

def masterOperation (driver : Driver) (status : Status) (read : Bool) :
    Error × Driver × List Register :=
  if driver.busy then (.busy, driver, [])
  else
    let started := { driver with
      busy := true, state := if read then .sendAdrRead else .sendAdrWrite }
    let (next, registers) := started.masterIsr status
    (.noErr, next, registers)

end Driver

end AvrVoiceControl.I2c
