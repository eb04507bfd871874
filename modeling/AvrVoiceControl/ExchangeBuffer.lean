import AvrVoiceControl.Library.BoundedQueue
import AvrVoiceControl.Library.CString
import Mathlib.Data.List.GetD
import Mathlib.Algebra.Group.Nat.Defs

set_option autoImplicit false

namespace AvrVoiceControl

open CString

/-- An `exchangeBuffer` and the array behind it; `currentLocation` counts from `start`. -/
structure ExchangeBuffer where
  memory : List UInt8
  currentLocation : Nat
  bufferLength : Nat
  dataLength : Nat
  deriving DecidableEq

namespace ExchangeBuffer

def store (memory : List UInt8) (index : Nat) (byte : UInt8) : Option (List UInt8) :=
  -- `*(start + index) = byte`, `none` outside the array.
  if index < memory.length then some (memory.set index byte) else none

def mqttExchangeBufferInit (buffer : ExchangeBuffer) : ExchangeBuffer :=
  { buffer with currentLocation := 0, dataLength := 0 }

def writeLoop (buffer : ExchangeBuffer) (dend : Nat) (data : Pointer) :
    Nat -> Option ExchangeBuffer
  -- The `for` loop of the write, with `length` bytes to go and the pointer `dend`.
  | 0 => some buffer
  | length + 1 =>
    let dend := if dend > buffer.bufferLength - 1 then 0 else dend
    if buffer.dataLength ≠ 0 ∧ dend = buffer.currentLocation then some buffer
    else do
      let byte ← load data
      let memory ← store buffer.memory dend byte
      let data ← advance data
      writeLoop { buffer with memory := memory, dataLength := buffer.dataLength + 1 } (dend + 1)
        data length

def mqttExchangeBufferWrite (buffer : ExchangeBuffer) (data : Pointer) (length : Nat) :
    Option ExchangeBuffer :=
  writeLoop buffer ((buffer.currentLocation + buffer.dataLength) % buffer.bufferLength) data length

def peekLoop (buffer : ExchangeBuffer) (ptr i : Nat) : Nat -> Option (List UInt8)
  -- Only a pointer past the end is set back.
  | 0 => some []
  | length + 1 =>
    if i < buffer.dataLength then do
      let byte ← buffer.memory[ptr + i]?
      let ptr := if ptr > buffer.bufferLength - 1 then 0 else ptr
      return byte :: (← peekLoop buffer ptr (i + 1) length)
    else some []

def mqttExchangeBufferPeek (buffer : ExchangeBuffer) (length : Nat) : Option (List UInt8) :=
  peekLoop buffer buffer.currentLocation 0 length

def mqttExchangeBufferRead (buffer : ExchangeBuffer) : Nat -> Option (List UInt8 × ExchangeBuffer)
  | 0 => some ([], buffer)
  | length + 1 =>
    if buffer.dataLength > 0 then do
      let byte ← buffer.memory[buffer.currentLocation]?
      let next := buffer.currentLocation + 1
      let next := if next > buffer.bufferLength - 1 then 0 else next
      let (bytes, after) ← mqttExchangeBufferRead
        { buffer with currentLocation := next, dataLength := buffer.dataLength - 1 } length
      return (byte :: bytes, after)
    else some ([], buffer)

def contents (buffer : ExchangeBuffer) : List UInt8 :=
  (List.range buffer.dataLength).map fun i =>
    buffer.memory.getD ((buffer.currentLocation + i) % buffer.bufferLength) 0

structure WellFormed (buffer : ExchangeBuffer) : Prop where
  size : buffer.memory.length = buffer.bufferLength
  inside : buffer.currentLocation < buffer.bufferLength
  bound : buffer.dataLength ≤ buffer.bufferLength

@[simp] theorem contents_length (buffer : ExchangeBuffer) :
    buffer.contents.length = buffer.dataLength := by
  simp [contents]

theorem init_wellFormed {buffer : ExchangeBuffer} (well : buffer.WellFormed) :
    buffer.mqttExchangeBufferInit.WellFormed where
  size := well.size
  inside := Nat.lt_of_le_of_lt (Nat.zero_le _) well.inside
  bound := Nat.zero_le _

@[simp] theorem contents_init (buffer : ExchangeBuffer) :
    buffer.mqttExchangeBufferInit.contents = [] := rfl

def cell (buffer : ExchangeBuffer) (i : Nat) : Nat :=
  (buffer.currentLocation + i) % buffer.bufferLength

theorem cell_cases {buffer : ExchangeBuffer} (well : buffer.WellFormed) {i : Nat}
    (bound : i ≤ buffer.bufferLength) :
    buffer.cell i =
      if buffer.currentLocation + i < buffer.bufferLength then buffer.currentLocation + i
      else buffer.currentLocation + i - buffer.bufferLength := by
  have inside := well.inside
  split
  case isTrue small => exact Nat.mod_eq_of_lt small
  case isFalse wrap =>
    rw [cell, Nat.mod_eq_sub_mod (by omega), Nat.mod_eq_of_lt (by omega)]

theorem cell_lt {buffer : ExchangeBuffer} (well : buffer.WellFormed) (i : Nat) :
    buffer.cell i < buffer.bufferLength :=
  Nat.mod_lt _ (Nat.lt_of_le_of_lt (Nat.zero_le _) well.inside)

theorem cell_eq_current_iff {buffer : ExchangeBuffer} (well : buffer.WellFormed) :
    (buffer.dataLength ≠ 0 ∧ buffer.cell buffer.dataLength = buffer.currentLocation) ↔
      buffer.dataLength = buffer.bufferLength := by
  have inside := well.inside
  have bound := well.bound
  rw [cell_cases well bound]
  split <;> omega

def append (buffer : ExchangeBuffer) (byte : UInt8) : ExchangeBuffer :=
  { buffer with
    memory := buffer.memory.set (buffer.cell buffer.dataLength) byte
    dataLength := buffer.dataLength + 1 }

theorem append_wellFormed {buffer : ExchangeBuffer} (well : buffer.WellFormed)
    (room : buffer.dataLength < buffer.bufferLength) (byte : UInt8) :
    (buffer.append byte).WellFormed where
  size := by simp [append, well.size]
  inside := well.inside
  bound := room

theorem contents_append {buffer : ExchangeBuffer} (well : buffer.WellFormed)
    (room : buffer.dataLength < buffer.bufferLength) (byte : UInt8) :
    (buffer.append byte).contents = buffer.contents ++ [byte] := by
  have lastInside : buffer.cell buffer.dataLength < buffer.memory.length := by
    rw [well.size]
    exact cell_lt well _
  have old : ∀ i ∈ List.range buffer.dataLength,
      (buffer.memory.set (buffer.cell buffer.dataLength) byte).getD (buffer.cell i) 0 =
        buffer.memory.getD (buffer.cell i) 0 := by
    intro i member
    have before := List.mem_range.mp member
    have differ : buffer.cell buffer.dataLength ≠ buffer.cell i := by
      rw [cell_cases well well.bound, cell_cases well (by omega)]
      split <;> split <;> omega
    simp [List.getD_eq_getElem?_getD, List.getElem?_set_ne differ]
  have new : (buffer.memory.set (buffer.cell buffer.dataLength) byte).getD
      (buffer.cell buffer.dataLength) 0 = byte := by
    simp [List.getD_eq_getElem?_getD, List.getElem?_set_self lastInside]
  change (List.range (buffer.dataLength + 1)).map
      (fun i => (buffer.memory.set (buffer.cell buffer.dataLength) byte).getD (buffer.cell i) 0) =
    (List.range buffer.dataLength).map (fun i => buffer.memory.getD (buffer.cell i) 0) ++ [byte]
  rw [List.range_succ, List.map_append, List.map_congr_left old]
  simp only [List.map_cons, List.map_nil, new]

theorem writeLoop_correct {buffer : ExchangeBuffer} (well : buffer.WellFormed) {dend : Nat}
    (inArray : dend ≤ buffer.bufferLength)
    (free : dend % buffer.bufferLength = buffer.cell buffer.dataLength) {data : Pointer}
    {length : Nat} (enough : length ≤ data.length) :
    ∃ after, writeLoop buffer dend data length = some after ∧ after.WellFormed ∧
      after.bufferLength = buffer.bufferLength ∧
      after.currentLocation = buffer.currentLocation ∧
      after.contents =
        BoundedQueue.push buffer.bufferLength buffer.contents (data.take length) := by
  -- The pointer of the write, set back when it stands behind the array, is the free cell.
  induction length generalizing buffer dend data with
  | zero =>
    refine ⟨buffer, rfl, well, rfl, rfl, ?_⟩
    rw [List.take_zero, BoundedQueue.push_nil (by simpa using well.bound)]
  | succ length ih =>
    have positive : 0 < buffer.bufferLength := Nat.lt_of_le_of_lt (Nat.zero_le _) well.inside
    have wrapped : (if dend > buffer.bufferLength - 1 then 0 else dend) =
        buffer.cell buffer.dataLength := by
      rw [← free]
      split
      case isTrue past =>
        obtain rfl : dend = buffer.bufferLength := by omega
        rw [Nat.mod_self]
      case isFalse inside => exact (Nat.mod_eq_of_lt (by omega)).symm
    simp only [writeLoop, wrapped, cell_eq_current_iff well]
    by_cases full : buffer.dataLength = buffer.bufferLength
    · refine ⟨buffer, if_pos full, well, rfl, rfl, ?_⟩
      rw [BoundedQueue.push_of_full (by simpa using full)]
    · have room : buffer.dataLength < buffer.bufferLength := by
        have bound := well.bound
        omega
      obtain ⟨byte, rest, rfl⟩ : ∃ byte rest, data = byte :: rest :=
        List.exists_cons_of_length_pos (by omega)
      have inside := cell_lt well buffer.dataLength
      have next : (buffer.cell buffer.dataLength + 1) % buffer.bufferLength =
          (buffer.append byte).cell (buffer.append byte).dataLength := by
        simp [cell, append, Nat.add_assoc]
      obtain ⟨after, ran, afterWell, sameLength, sameCurrent, stored⟩ :=
        @ih (buffer.append byte) (append_wellFormed well room byte)
          (buffer.cell buffer.dataLength + 1) (Nat.succ_le_of_lt inside) next rest
          (by simpa using enough)
      refine ⟨after, ?_, afterWell, sameLength, sameCurrent, ?_⟩
      · simpa [full, store, well.size, inside, append] using ran
      · rw [stored, contents_append well room, List.take_succ_cons]
        have fits : BoundedQueue.push buffer.bufferLength buffer.contents [byte] =
            buffer.contents ++ [byte] := by
          apply List.take_of_length_le
          simpa using Nat.succ_le_of_lt room
        change BoundedQueue.push buffer.bufferLength (buffer.contents ++ [byte])
            (rest.take length) = _
        rw [← fits, BoundedQueue.push_push, List.singleton_append]

theorem mqttExchangeBufferWrite_correct {buffer : ExchangeBuffer} (well : buffer.WellFormed)
    {data : Pointer} {length : Nat} (enough : length ≤ data.length) :
    ∃ after, buffer.mqttExchangeBufferWrite data length = some after ∧ after.WellFormed ∧
      after.bufferLength = buffer.bufferLength ∧
      after.currentLocation = buffer.currentLocation ∧
      after.contents =
        BoundedQueue.push buffer.bufferLength buffer.contents (data.take length) :=
  writeLoop_correct well (Nat.le_of_lt (cell_lt well _)) (Nat.mod_mod _ _) enough

theorem contents_pop {buffer : ExchangeBuffer} (well : buffer.WellFormed) {count : Nat}
    (stored : buffer.dataLength = count + 1) :
    buffer.contents = buffer.memory.getD buffer.currentLocation 0 ::
      { buffer with currentLocation := buffer.cell 1, dataLength := count }.contents := by
  have first : buffer.cell 0 = buffer.currentLocation := Nat.mod_eq_of_lt well.inside
  have shifted : ∀ i, (buffer.cell 1 + i) % buffer.bufferLength = buffer.cell (i + 1) := by
    intro i
    simp [cell, Nat.add_comm, Nat.add_left_comm]
  change (List.range buffer.dataLength).map (fun i => buffer.memory.getD (buffer.cell i) 0) =
    buffer.memory.getD buffer.currentLocation 0 :: (List.range count).map
      (fun i => buffer.memory.getD ((buffer.cell 1 + i) % buffer.bufferLength) 0)
  rw [stored, List.range_succ_eq_map]
  simp [first, shifted]

theorem mqttExchangeBufferRead_correct {buffer : ExchangeBuffer} (well : buffer.WellFormed)
    (length : Nat) :
    ∃ after, buffer.mqttExchangeBufferRead length =
        some (buffer.contents.take length, after) ∧ after.WellFormed ∧
      after.bufferLength = buffer.bufferLength ∧
      after.contents = buffer.contents.drop length := by
  induction length generalizing buffer with
  | zero => exact ⟨buffer, rfl, well, rfl, rfl⟩
  | succ length ih =>
    have inside := well.inside
    have bound := well.bound
    by_cases empty : buffer.dataLength = 0
    · have none : buffer.contents = [] := List.eq_nil_of_length_eq_zero (by simpa using empty)
      exact ⟨buffer, by simp [mqttExchangeBufferRead, empty, none], well, rfl, by simp [none]⟩
    · obtain ⟨count, stored⟩ := Nat.exists_eq_succ_of_ne_zero empty
      have wrapped : (if buffer.currentLocation + 1 > buffer.bufferLength - 1 then 0
          else buffer.currentLocation + 1) = buffer.cell 1 := by
        rw [cell_cases well (by omega)]
        split <;> split <;> omega
      have byte : buffer.memory[buffer.currentLocation]? =
          some (buffer.memory.getD buffer.currentLocation 0) := by
        have here : buffer.currentLocation < buffer.memory.length := by
          rw [well.size]
          exact inside
        simp [List.getD_eq_getElem?_getD, List.getElem?_eq_getElem here]
      have restWell :
          { buffer with currentLocation := buffer.cell 1, dataLength := count }.WellFormed :=
        ⟨well.size, cell_lt well 1, by change count ≤ buffer.bufferLength; omega⟩
      obtain ⟨after, ran, afterWell, sameLength, left⟩ := ih restWell
      refine ⟨after, ?_, afterWell, sameLength, ?_⟩
      · simp only [mqttExchangeBufferRead, wrapped, byte, stored]
        simp [ran, contents_pop well stored]
      · rw [left, contents_pop well stored, List.drop_succ_cons]

/-- The bytes from `start` on, as `MQTT_Send` hands them to the socket layer. -/
def frame (buffer : ExchangeBuffer) : List UInt8 := buffer.memory.take buffer.dataLength

theorem frame_eq_contents {buffer : ExchangeBuffer} (well : buffer.WellFormed)
    (atStart : buffer.currentLocation = 0) : buffer.frame = buffer.contents := by
  have bound := well.bound
  have size := well.size
  apply List.ext_getElem?
  intro i
  rw [frame, contents, List.getElem?_take, List.getElem?_map, atStart]
  by_cases inside : i < buffer.dataLength
  · have here : i < buffer.memory.length := by omega
    have index : i % buffer.bufferLength = i := Nat.mod_eq_of_lt (by omega)
    simp [inside, List.getElem?_eq_getElem here, List.getD_eq_getElem?_getD, index]
  · simp [inside]

theorem mqttExchangeBufferPeek_one {buffer : ExchangeBuffer} (well : buffer.WellFormed) :
    buffer.mqttExchangeBufferPeek 1 = some (buffer.contents.take 1) := by
  cases stored : buffer.dataLength with
  | zero =>
    have none : buffer.contents = [] := List.eq_nil_of_length_eq_zero (by simpa using stored)
    simp [mqttExchangeBufferPeek, peekLoop, stored, none]
  | succ count =>
    have here : buffer.currentLocation < buffer.memory.length := by
      rw [well.size]
      exact well.inside
    rw [contents_pop well stored]
    simp [mqttExchangeBufferPeek, peekLoop, stored, List.getElem?_eq_getElem here,
      List.getD_eq_getElem?_getD]

/-- One call of the interface, with what it stores for the caller; `data` is what the caller's
pointer and length name. -/
def call (buffer : ExchangeBuffer) :
    BoundedQueue.Operation UInt8 -> Option (List UInt8 × ExchangeBuffer)
  | .clear => some ([], buffer.mqttExchangeBufferInit)
  | .push data => (buffer.mqttExchangeBufferWrite data data.length).map fun after => ([], after)
  | .pop length => buffer.mqttExchangeBufferRead length

def callAll (buffer : ExchangeBuffer) :
    List (BoundedQueue.Operation UInt8) -> Option (List (List UInt8) × ExchangeBuffer)
  | [] => some ([], buffer)
  | operation :: rest => do
    let (result, next) ← buffer.call operation
    let (results, after) ← next.callAll rest
    return (result :: results, after)

theorem call_correct {buffer : ExchangeBuffer} (well : buffer.WellFormed)
    (operation : BoundedQueue.Operation UInt8) :
    ∃ result after, buffer.call operation = some (result, after) ∧ after.WellFormed ∧
      after.bufferLength = buffer.bufferLength ∧
      BoundedQueue.step buffer.bufferLength buffer.contents operation =
        (after.contents, [result]) := by
  cases operation with
  | clear => exact ⟨[], _, rfl, init_wellFormed well, rfl, rfl⟩
  | push data =>
    obtain ⟨after, written, afterWell, sameLength, -, stored⟩ :=
      mqttExchangeBufferWrite_correct well (Nat.le_refl data.length)
    have bound : buffer.contents.length ≤ buffer.bufferLength := by simpa using well.bound
    refine ⟨[], after, by simp [call, written], afterWell, sameLength, ?_⟩
    rw [BoundedQueue.step, stored, List.take_length, BoundedQueue.push_eq bound]
  | pop length =>
    obtain ⟨after, got, afterWell, sameLength, left⟩ := mqttExchangeBufferRead_correct well length
    exact ⟨_, after, got, afterWell, sameLength, by rw [BoundedQueue.step, left]⟩

theorem callAll_correct {buffer : ExchangeBuffer} (well : buffer.WellFormed)
    (operations : List (BoundedQueue.Operation UInt8)) :
    ∃ results after, buffer.callAll operations = some (results, after) ∧ after.WellFormed ∧
      after.bufferLength = buffer.bufferLength ∧
      Machine.run (BoundedQueue.step buffer.bufferLength) buffer.contents operations =
        (after.contents, results) := by
  induction operations generalizing buffer with
  | nil => exact ⟨[], buffer, rfl, well, rfl, rfl⟩
  | cons operation rest ih =>
    obtain ⟨result, next, called, nextWell, nextLength, stepped⟩ := call_correct well operation
    obtain ⟨results, after, ran, afterWell, afterLength, later⟩ := ih nextWell
    refine ⟨result :: results, after, ?_, afterWell, afterLength.trans nextLength, ?_⟩
    · simp [callAll, called, ran]
    · rw [nextLength] at later
      rw [Machine.run_cons, stepped, later]
      rfl

theorem exchangeBuffer_refines (buffer : ExchangeBuffer)
    (array : buffer.memory.length = buffer.bufferLength) (positive : 1 ≤ buffer.bufferLength)
    (bound : buffer.bufferLength ≤ 1000) (operations : List (BoundedQueue.Operation UInt8)) :
    ∃ results after, buffer.mqttExchangeBufferInit.callAll operations = some (results, after) ∧
      after.bufferLength = buffer.bufferLength ∧
      after.currentLocation ≤ after.bufferLength - 1 ∧
      after.dataLength ≤ after.bufferLength ∧
      after.currentLocation + after.dataLength < 2 ^ 15 ∧
      Machine.run (BoundedQueue.step buffer.bufferLength) [] operations =
        (after.contents, results) := by
  have well : buffer.mqttExchangeBufferInit.WellFormed := ⟨array, positive, Nat.zero_le _⟩
  obtain ⟨results, after, ran, afterWell, sameLength, queue⟩ := callAll_correct well operations
  have inside := afterWell.inside
  have fits := afterWell.bound
  have length : after.bufferLength = buffer.bufferLength := sameLength
  exact ⟨results, after, ran, length, by omega, fits, by omega, queue⟩

theorem exchangeBuffer_refines_three :
    ∃ results after,
      (mqttExchangeBufferInit ⟨[7, 7, 7], 2, 3, 9⟩).callAll
        [.push [1, 2], .pop 1, .push [3, 4, 5], .pop 9] = some (results, after) ∧
      after.bufferLength = 3 ∧ after.currentLocation ≤ after.bufferLength - 1 ∧
      after.dataLength ≤ after.bufferLength ∧
      after.currentLocation + after.dataLength < 2 ^ 15 ∧
      Machine.run (BoundedQueue.step 3) []
          [.push [1, 2], .pop 1, .push [3, 4, 5], .pop 9] = (after.contents, results) :=
  exchangeBuffer_refines ⟨[7, 7, 7], 2, 3, 9⟩ rfl (by decide) (by decide)
    [.push [1, 2], .pop 1, .push [3, 4, 5], .pop 9]

/-- A peek gives what a read would give, all of it from inside the array. -/
def PeekAgrees (buffer : ExchangeBuffer) (length : Nat) : Prop :=
  ∃ bytes after, buffer.mqttExchangeBufferRead length = some (bytes, after) ∧
    buffer.mqttExchangeBufferPeek length = some bytes

theorem peekLoop_fits {buffer : ExchangeBuffer} (well : buffer.WellFormed) {i length : Nat}
    (fits : buffer.currentLocation + min (i + length) buffer.dataLength ≤ buffer.bufferLength) :
    peekLoop buffer buffer.currentLocation i length =
      some ((buffer.contents.drop i).take length) := by
  induction length generalizing i with
  | zero => simp [peekLoop]
  | succ length ih =>
    by_cases more : i < buffer.dataLength
    next =>
      have small : buffer.currentLocation + i < buffer.bufferLength := by omega
      have inside : buffer.currentLocation + i < buffer.memory.length := by
        rw [well.size]
        exact small
      have kept : ¬buffer.currentLocation > buffer.bufferLength - 1 := by omega
      have byte : buffer.contents[i]? = some (buffer.memory[buffer.currentLocation + i]) := by
        simp [contents, more, Nat.mod_eq_of_lt small, List.getD_eq_getElem?_getD,
          List.getElem?_eq_getElem inside]
      have rest := @ih (i + 1) (by omega)
      have here : i < buffer.contents.length := by simpa using more
      have first : buffer.contents[i] = buffer.memory[buffer.currentLocation + i] := by
        simpa [List.getElem?_eq_getElem here] using byte
      rw [List.drop_eq_getElem_cons here, List.take_succ_cons, first]
      simp [peekLoop, more, kept, List.getElem?_eq_getElem inside, rest]
    next =>
      have none : buffer.contents.drop i = [] := by
        rw [List.drop_eq_nil_iff, contents_length]
        omega
      simp [peekLoop, more, none]

theorem peekLoop_beyond {buffer : ExchangeBuffer} (well : buffer.WellFormed) {i length : Nat}
    (here : buffer.currentLocation + i ≤ buffer.bufferLength)
    (beyond : buffer.bufferLength < buffer.currentLocation + min (i + length) buffer.dataLength) :
    peekLoop buffer buffer.currentLocation i length = none := by
  -- The pointer itself stays inside, so the index alone runs to the end of the array.
  induction length generalizing i with
  | zero => omega
  | succ length ih =>
    have inside := well.inside
    have more : i < buffer.dataLength := by omega
    have kept : ¬buffer.currentLocation > buffer.bufferLength - 1 := by omega
    by_cases last : buffer.currentLocation + i = buffer.bufferLength
    next =>
      have outside : buffer.memory[buffer.currentLocation + i]? = none := by
        rw [last, ← well.size]
        exact List.getElem?_eq_none (Nat.le_refl _)
      simp [peekLoop, more, outside]
    next =>
      have rest := @ih (i + 1) (by omega) (by omega)
      simp [peekLoop, more, kept, rest]

theorem peekAgrees_iff {buffer : ExchangeBuffer} (well : buffer.WellFormed) (length : Nat) :
    buffer.PeekAgrees length ↔
      buffer.currentLocation + min length buffer.dataLength ≤ buffer.bufferLength := by
  obtain ⟨after, read, -⟩ := mqttExchangeBufferRead_correct well length
  have inside := well.inside
  constructor
  next =>
    rintro ⟨bytes, left, -, peeked⟩
    by_contra beyond
    have none := @peekLoop_beyond buffer well 0 length (by omega) (by omega)
    rw [mqttExchangeBufferPeek, none] at peeked
    cases peeked
  next =>
    intro fits
    refine ⟨buffer.contents.take length, after, read, ?_⟩
    simpa [mqttExchangeBufferPeek] using @peekLoop_fits buffer well 0 length (by simpa using fits)

theorem peek_agrees_iff_unwrapped (buffer : ExchangeBuffer)
    (array : buffer.memory.length = buffer.bufferLength) (positive : 1 ≤ buffer.bufferLength)
    (operations : List (BoundedQueue.Operation UInt8)) :
    ∃ results after, buffer.mqttExchangeBufferInit.callAll operations = some (results, after) ∧
      ∀ length, after.PeekAgrees length ↔
        after.currentLocation + min length after.dataLength ≤ after.bufferLength := by
  have well : buffer.mqttExchangeBufferInit.WellFormed := ⟨array, positive, Nat.zero_le _⟩
  obtain ⟨results, after, ran, afterWell, -⟩ := callAll_correct well operations
  exact ⟨results, after, ran, peekAgrees_iff afterWell⟩

theorem peek_agrees_iff_unwrapped_three :
    ∃ results after,
      (mqttExchangeBufferInit ⟨[7, 7, 7], 2, 3, 9⟩).callAll
        [.push [1, 2, 3], .pop 2, .push [4, 5]] = some (results, after) ∧
      ∀ length, after.PeekAgrees length ↔
        after.currentLocation + min length after.dataLength ≤ after.bufferLength :=
  peek_agrees_iff_unwrapped ⟨[7, 7, 7], 2, 3, 9⟩ rfl (by decide)
    [.push [1, 2, 3], .pop 2, .push [4, 5]]

theorem peek_reads_behind_array :
    ¬∀ (buffer : ExchangeBuffer) (operations : List (BoundedQueue.Operation UInt8))
      (results : List (List UInt8)) (after : ExchangeBuffer) (length : Nat),
      buffer.memory.length = buffer.bufferLength -> 1 ≤ buffer.bufferLength ->
      buffer.mqttExchangeBufferInit.callAll operations = some (results, after) ->
        after.PeekAgrees length := by
  intro always
  obtain ⟨bytes, left, -, peeked⟩ := always ⟨[7, 7, 7], 2, 3, 9⟩
    [.push [1, 2, 3], .pop 2, .push [4, 5]] [[], [1, 2], []] ⟨[4, 5, 3], 2, 3, 3⟩ 2 rfl
    (by decide) (by decide)
  have behind : mqttExchangeBufferPeek ⟨[4, 5, 3], 2, 3, 3⟩ 2 = none := by decide
  rw [behind] at peeked
  cases peeked

end ExchangeBuffer

open ExchangeBuffer

structure Ring (size : Nat) where
  buffer : ExchangeBuffer
  well : buffer.WellFormed
  length : buffer.bufferLength = size

namespace Ring

variable {size : Nat}

def contents (ring : Ring size) : List UInt8 := ring.buffer.contents

def dataLength (ring : Ring size) : Nat := ring.buffer.dataLength

def frame (ring : Ring size) : List UInt8 := ring.buffer.frame

def zeroed (positive : 0 < size) : Ring size where
  buffer := ⟨List.replicate size 0, 0, size, 0⟩
  well := ⟨List.length_replicate, positive, Nat.zero_le _⟩
  length := rfl

def init (ring : Ring size) : Ring size where
  buffer := ring.buffer.mqttExchangeBufferInit
  well := init_wellFormed ring.well
  length := ring.length

def clientInitialise (ring : Ring size) (count : Nat) : Ring size where
  -- `memset(array, 0, count)` and the fields `MQTT_ClientInitialise` sets.
  buffer :=
    { ring.buffer.mqttExchangeBufferInit with
      memory := List.replicate (min count size) 0 ++ ring.buffer.memory.drop (min count size) }
  well := {
    size := by
      have bound : min count size ≤ size := Nat.min_le_right _ _
      simp only [mqttExchangeBufferInit, List.length_append, List.length_replicate,
        List.length_drop, ring.well.size, ring.length]
      omega
    inside := (init_wellFormed ring.well).inside
    bound := Nat.zero_le _ }
  length := ring.length

theorem write_isSome (ring : Ring size) (data : List UInt8) :
    (ring.buffer.mqttExchangeBufferWrite data data.length).isSome := by
  obtain ⟨after, written, -⟩ :=
    mqttExchangeBufferWrite_correct ring.well (Nat.le_refl data.length)
  simp [written]

theorem write_keeps (ring : Ring size) (data : List UInt8) :
    ((ring.buffer.mqttExchangeBufferWrite data data.length).get (ring.write_isSome data)).WellFormed ∧
      ((ring.buffer.mqttExchangeBufferWrite data data.length).get
        (ring.write_isSome data)).bufferLength = size := by
  obtain ⟨after, written, well, length, -⟩ :=
    mqttExchangeBufferWrite_correct ring.well (Nat.le_refl data.length)
  simp only [written, Option.get_some]
  exact ⟨well, length.trans ring.length⟩

def write (ring : Ring size) (data : List UInt8) : Ring size where
  buffer := (ring.buffer.mqttExchangeBufferWrite data data.length).get (ring.write_isSome data)
  well := (ring.write_keeps data).1
  length := (ring.write_keeps data).2

theorem read_isSome (ring : Ring size) (count : Nat) :
    (ring.buffer.mqttExchangeBufferRead count).isSome := by
  obtain ⟨after, got, -⟩ := mqttExchangeBufferRead_correct ring.well count
  simp [got]

theorem read_keeps (ring : Ring size) (count : Nat) :
    ((ring.buffer.mqttExchangeBufferRead count).get (ring.read_isSome count)).2.WellFormed ∧
      ((ring.buffer.mqttExchangeBufferRead count).get
        (ring.read_isSome count)).2.bufferLength = size := by
  obtain ⟨after, got, well, length, -⟩ := mqttExchangeBufferRead_correct ring.well count
  simp only [got, Option.get_some]
  exact ⟨well, length.trans ring.length⟩

def read (ring : Ring size) (count : Nat) : List UInt8 × Ring size :=
  let result := (ring.buffer.mqttExchangeBufferRead count).get (ring.read_isSome count)
  (result.1,
    { buffer := result.2
      well := (ring.read_keeps count).1
      length := (ring.read_keeps count).2 })

def peekByte (ring : Ring size) : UInt8 :=
  -- The first stored byte, or the zero the header variable starts with.
  ((ring.buffer.mqttExchangeBufferPeek 1).getD []).headD 0

@[simp] theorem contents_init (ring : Ring size) : ring.init.contents = [] := rfl

@[simp] theorem contents_length (ring : Ring size) : ring.contents.length = ring.dataLength :=
  ExchangeBuffer.contents_length ring.buffer

theorem write_correct (ring : Ring size) (data : List UInt8) :
    (ring.write data).contents = BoundedQueue.push size ring.contents data ∧
      (ring.write data).buffer.currentLocation = ring.buffer.currentLocation := by
  obtain ⟨after, written, -, length, current, stored⟩ :=
    mqttExchangeBufferWrite_correct ring.well (Nat.le_refl data.length)
  simp only [contents, write, written, Option.get_some]
  rw [List.take_length, ring.length] at stored
  exact ⟨stored, current⟩

@[simp] theorem contents_write (ring : Ring size) (data : List UInt8) :
    (ring.write data).contents = BoundedQueue.push size ring.contents data :=
  (ring.write_correct data).1

theorem read_correct (ring : Ring size) (count : Nat) :
    (ring.read count).1 = ring.contents.take count ∧
      (ring.read count).2.contents = ring.contents.drop count := by
  obtain ⟨after, got, -, -, left⟩ := mqttExchangeBufferRead_correct ring.well count
  simp only [contents, read, got, Option.get_some]
  exact ⟨trivial, left⟩

@[simp] theorem read_bytes (ring : Ring size) (count : Nat) :
    (ring.read count).1 = ring.contents.take count := (ring.read_correct count).1

@[simp] theorem contents_read (ring : Ring size) (count : Nat) :
    (ring.read count).2.contents = ring.contents.drop count := (ring.read_correct count).2

@[simp] theorem peekByte_eq (ring : Ring size) : ring.peekByte = ring.contents.headD 0 := by
  rw [peekByte, mqttExchangeBufferPeek_one ring.well, contents]
  cases ring.buffer.contents <;> rfl

/-- A sequence of writes into a freshly initialised buffer, and what is sent of it. -/
def writeAll (ring : Ring size) (fields : List (List UInt8)) : Ring size :=
  fields.foldl write ring.init

theorem writeAll_correct (ring : Ring size) (fields : List (List UInt8)) :
    (ring.writeAll fields).frame = fields.flatten.take size ∧
      (ring.writeAll fields).contents = fields.flatten.take size := by
  have written : ∀ (fields : List (List UInt8)) (start : Ring size),
      start.buffer.currentLocation = 0 ->
      (fields.foldl write start).buffer.currentLocation = 0 ∧
        (fields.foldl write start).contents =
          BoundedQueue.push size start.contents fields.flatten := by
    intro fields
    induction fields with
    | nil =>
      intro start atStart
      have bound : start.contents.length ≤ size := by
        simpa [dataLength, start.length] using start.well.bound
      exact ⟨atStart, by simp [BoundedQueue.push_nil bound]⟩
    | cons field rest ih =>
      intro start atStart
      obtain ⟨current, stored⟩ := ih (start.write field) ((start.write_correct field).2.trans atStart)
      refine ⟨current, ?_⟩
      simp only [List.foldl_cons, stored, contents_write, BoundedQueue.push_push,
        List.flatten_cons]
  obtain ⟨atStart, stored⟩ := written fields ring.init rfl
  have same : (ring.writeAll fields).contents = fields.flatten.take size := by
    simp [writeAll, stored, BoundedQueue.push]
  exact ⟨(frame_eq_contents (ring.writeAll fields).well atStart).trans same, same⟩

end Ring

end AvrVoiceControl
