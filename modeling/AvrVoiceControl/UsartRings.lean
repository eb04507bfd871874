import AvrVoiceControl.Library.Machine
import AvrVoiceControl.Library.SlotRing

set_option autoImplicit false

namespace AvrVoiceControl.Usart

open SlotRing

abbrev rxBufferSize : Nat := 64
abbrev txBufferSize : Nat := 32

inductive UsartEvent
  -- The receive interrupt has put the byte into the ring, or has lost it.
  | accepted (data : UInt8)
  | dropped (data : UInt8)
  | returned (data : UInt8)
  -- The argument of a call of `USART_2_write`, and a byte written to `TXDATAL`.
  | passed (data : UInt8)
  | sent (data : UInt8)
  -- An element counter has left the range of its type.
  | wrapped
  deriving DecidableEq

/-- `elements++` and `elements--`, with a report where the byte wraps. -/
def increment (elements : UInt8) : UInt8 × List UsartEvent :=
  (elements + 1, if elements = 255 then [.wrapped] else [])

def decrement (elements : UInt8) : UInt8 × List UsartEvent :=
  (elements - 1, if elements = 0 then [.wrapped] else [])

inductive Reading
  | idle
  | waiting
  | nextIndex
  | storeTail (tmptail : Fin rxBufferSize)
  | leaveRing (tmptail : Fin rxBufferSize)
  | returnData (tmptail : Fin rxBufferSize)
  deriving DecidableEq

structure Receiver where
  rxbuf : Fin rxBufferSize -> UInt8
  rxHead : Fin rxBufferSize
  rxTail : Fin rxBufferSize
  rxElements : UInt8
  main : Reading

inductive ReceiverAction
  -- The receive interrupt with what it reads from `RXDATAL`.
  | interrupt (data : UInt8)
  | read
  | execute

namespace Receiver

def init : Receiver := ⟨fun _ => 0, 0, 0, 0, .idle⟩

/-- `USART_2_default_rx_isr_cb`, which no statement of the main program interrupts. -/
def defaultRxIsrCb (receiver : Receiver) (data : UInt8) : Receiver × List UsartEvent :=
  let tmphead := next receiver.rxHead
  if tmphead = receiver.rxTail then (receiver, [.dropped data])
  else
    let (elements, events) := increment receiver.rxElements
    ({ receiver with
        rxHead := tmphead
        rxbuf := Function.update receiver.rxbuf tmphead data
        rxElements := elements }, .accepted data :: events)

def execute (receiver : Receiver) : Receiver × List UsartEvent :=
  match receiver.main with
  | .idle => (receiver, [])
  | .waiting =>
    if receiver.rxElements = 0 then (receiver, []) else ({ receiver with main := .nextIndex }, [])
  | .nextIndex => ({ receiver with main := .storeTail (next receiver.rxTail) }, [])
  | .storeTail tmptail => ({ receiver with rxTail := tmptail, main := .leaveRing tmptail }, [])
  | .leaveRing tmptail =>
    -- The critical section.
    let (elements, events) := decrement receiver.rxElements
    ({ receiver with rxElements := elements, main := .returnData tmptail }, events)
  | .returnData tmptail => ({ receiver with main := .idle }, [.returned (receiver.rxbuf tmptail)])

def step : Machine.Step Receiver ReceiverAction UsartEvent
  | receiver, .interrupt data => receiver.defaultRxIsrCb data
  | receiver, .read =>
    if receiver.main = .idle then ({ receiver with main := .waiting }, []) else (receiver, [])
  | receiver, .execute => receiver.execute

end Receiver

inductive Writing
  | idle
  | nextIndex (data : UInt8)
  | waiting (data : UInt8) (tmphead : Fin txBufferSize)
  | storeData (data : UInt8) (tmphead : Fin txBufferSize)
  | storeHead (data : UInt8) (tmphead : Fin txBufferSize)
  | enterRing (data : UInt8)
  | enableDre
  deriving DecidableEq

structure Transmitter where
  txbuf : Fin txBufferSize -> UInt8
  txHead : Fin txBufferSize
  txTail : Fin txBufferSize
  txElements : UInt8
  dreie : Bool
  main : Writing

inductive TransmitterAction
  | interrupt
  | write (data : UInt8)
  | execute

namespace Transmitter

def init : Transmitter := ⟨fun _ => 0, 0, 0, 0, false, .idle⟩

def defaultUdreIsrCb (transmitter : Transmitter) : Transmitter × List UsartEvent :=
  let (transmitter, events) :=
    if transmitter.txElements ≠ 0 then
      let tmptail := next transmitter.txTail
      let (elements, events) := decrement transmitter.txElements
      ({ transmitter with txTail := tmptail, txElements := elements },
        .sent (transmitter.txbuf tmptail) :: events)
    else (transmitter, [])
  (if transmitter.txElements = 0 then { transmitter with dreie := false } else transmitter, events)

def execute (transmitter : Transmitter) : Transmitter × List UsartEvent :=
  match transmitter.main with
  | .idle => (transmitter, [])
  | .nextIndex data => ({ transmitter with main := .waiting data (next transmitter.txHead) }, [])
  | .waiting data tmphead =>
    if transmitter.txElements.toNat = txBufferSize then (transmitter, [])
    else ({ transmitter with main := .storeData data tmphead }, [])
  | .storeData data tmphead =>
    ({ transmitter with
        txbuf := Function.update transmitter.txbuf tmphead data
        main := .storeHead data tmphead }, [])
  | .storeHead data tmphead =>
    ({ transmitter with txHead := tmphead, main := .enterRing data }, [])
  | .enterRing _ =>
    -- The critical section.
    let (elements, events) := increment transmitter.txElements
    ({ transmitter with txElements := elements, main := .enableDre }, events)
  | .enableDre => ({ transmitter with dreie := true, main := .idle }, [])

def step : Machine.Step Transmitter TransmitterAction UsartEvent
  | transmitter, .interrupt => transmitter.defaultUdreIsrCb
  | transmitter, .write data =>
    if transmitter.main = .idle then
      ({ transmitter with main := .nextIndex data }, [.passed data])
    else (transmitter, [])
  | transmitter, .execute => transmitter.execute

end Transmitter

def acceptedBytes (trace : List UsartEvent) : List UInt8 :=
  trace.filterMap fun event => match event with | .accepted data => some data | _ => none

def returnedBytes (trace : List UsartEvent) : List UInt8 :=
  trace.filterMap fun event => match event with | .returned data => some data | _ => none

def passedBytes (trace : List UsartEvent) : List UInt8 :=
  trace.filterMap fun event => match event with | .passed data => some data | _ => none

def sentBytes (trace : List UsartEvent) : List UInt8 :=
  trace.filterMap fun event => match event with | .sent data => some data | _ => none

/-- A byte is lost only when 63 accepted ones have not been returned. -/
def DropsWhenFull (before : List UsartEvent) : UsartEvent -> Prop
  | .dropped _ => (returnedBytes before).length + 63 ≤ (acceptedBytes before).length
  | _ => True

namespace Receiver

def inHand (receiver : Receiver) : List UInt8 :=
  match receiver.main with
  | .leaveRing tmptail | .returnData tmptail => [receiver.rxbuf tmptail]
  | _ => []

/-- `rxElements` still counts a slot that `rxTail` has released. -/
def released : Reading -> Nat
  | .leaveRing _ => 1
  | _ => 0

/-- The accepted bytes that no read has returned; the ring holds `count` of them. -/
def unread (receiver : Receiver) (count : Nat) : List UInt8 :=
  receiver.inHand ++ stored receiver.rxbuf receiver.rxTail count

def MainAt (receiver : Receiver) (count : Nat) : Prop :=
  match receiver.main with
  | .idle | .waiting => True
  | .nextIndex => 0 < count
  | .storeTail tmptail => 0 < count ∧ tmptail = next receiver.rxTail
  | .leaveRing tmptail | .returnData tmptail => tmptail = receiver.rxTail

structure Holds (count : Nat) (trace : List UsartEvent) (receiver : Receiver) : Prop where
  few : count < rxBufferSize
  head : receiver.rxHead = next^[count] receiver.rxTail
  elements : receiver.rxElements.toNat = count + released receiver.main
  bytes : acceptedBytes trace = returnedBytes trace ++ receiver.unread count
  main : receiver.MainAt count
  counted : .wrapped ∉ trace
  drops : Machine.Justified DropsWhenFull trace

end Receiver

namespace Transmitter

def inHand (transmitter : Transmitter) : List UInt8 :=
  match transmitter.main with
  | .idle | .enableDre => []
  | .nextIndex data | .waiting data _ | .storeData data _ | .storeHead data _ | .enterRing data =>
    [data]

def queued (transmitter : Transmitter) : List UInt8 :=
  stored transmitter.txbuf transmitter.txTail transmitter.txElements.toNat

def MainAt (transmitter : Transmitter) : Prop :=
  match transmitter.main with
  | .idle | .nextIndex _ | .enableDre => True
  | .waiting _ tmphead => tmphead = next transmitter.txHead
  | .storeData _ tmphead =>
    tmphead = next transmitter.txHead ∧ transmitter.txElements.toNat < txBufferSize
  | .storeHead data tmphead =>
    tmphead = next transmitter.txHead ∧ transmitter.txElements.toNat < txBufferSize ∧
      transmitter.txbuf tmphead = data
  | .enterRing data =>
    transmitter.txElements.toNat < txBufferSize ∧ transmitter.txbuf transmitter.txHead = data

/-- `txHead` is one slot ahead of what `txElements` counts. -/
def ahead : Writing -> Nat
  | .enterRing _ => 1
  | _ => 0

structure Holds (trace : List UsartEvent) (transmitter : Transmitter) : Prop where
  few : transmitter.txElements.toNat ≤ txBufferSize
  head : transmitter.txHead =
    next^[transmitter.txElements.toNat + ahead transmitter.main] transmitter.txTail
  bytes : passedBytes trace = sentBytes trace ++ transmitter.queued ++ transmitter.inHand
  main : transmitter.MainAt
  enabled : transmitter.main ≠ .enableDre -> transmitter.txElements ≠ 0 -> transmitter.dreie = true
  counted : .wrapped ∉ trace

theorem MainAt.fewer {transmitter after : Transmitter} (main : transmitter.MainAt)
    (statement : after.main = transmitter.main) (head : after.txHead = transmitter.txHead)
    (bytes : after.txbuf = transmitter.txbuf) (few : after.txElements.toNat < txBufferSize) :
    after.MainAt := by
  unfold MainAt at main ⊢
  rw [statement, head, bytes]
  cases at' : transmitter.main with
  | idle | nextIndex | enableDre => trivial
  | waiting data tmphead => simpa only [at'] using main
  | storeData data tmphead =>
    simp only [at'] at main
    exact ⟨main.1, few⟩
  | storeHead data tmphead =>
    simp only [at'] at main
    exact ⟨main.1, few, main.2.2⟩
  | enterRing data =>
    simp only [at'] at main
    exact ⟨few, main.2⟩

end Transmitter

end AvrVoiceControl.Usart
