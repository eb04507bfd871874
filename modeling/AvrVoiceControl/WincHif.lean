import Mathlib.Data.UInt
import Mathlib.Tactic.Common

set_option autoImplicit false

namespace AvrVoiceControl.Winc

/-- What the WINC sees of the host while a message is received. -/
inductive Access
  | block (address : UInt32) (size : UInt16)
  | rxDone
  deriving DecidableEq

/-- `gstrHifCxt` without its callbacks, the accesses so far, and which of the accesses to come will
fail. -/
structure Hif where
  rxDone : Bool
  rxAddr : UInt32
  rxSize : UInt32
  faults : List Bool
  accesses : List Access

/-- An argument list of `hif_receive`; `pu8Buf` matters only for being NULL or not. -/
structure Receive where
  address : UInt32
  isNull : Bool
  size : UInt16
  isDone : Bool

namespace Hif

def attempt (hif : Hif) : Bool × Hif :=
  match hif.faults with
  | [] => (true, hif)
  | fault :: faults => (!fault, { hif with faults := faults })

def setRxDone (hif : Hif) : Bool × Hif :=
  match Hif.attempt { hif with rxDone := false } with
  | (false, hif) => (false, hif)
  | (true, hif) =>
    match hif.attempt with
    | (false, hif) => (false, hif)
    | (true, hif) => (true, { hif with accesses := hif.accesses ++ [.rxDone] })

def receive (hif : Hif) (call : Receive) : Bool × Hif :=
  if call.address = 0 ∨ call.isNull = true ∨ call.size = 0 then
    if call.isDone then hif.setRxDone else (false, hif)
  else if hif.rxSize < call.size.toUInt32 then (false, hif)
  else if call.address < hif.rxAddr ∨
      hif.rxAddr + hif.rxSize < call.address + call.size.toUInt32 then (false, hif)
  else
    match Hif.attempt { hif with accesses := hif.accesses ++ [.block call.address call.size] } with
    | (false, hif) => (false, hif)
    | (true, hif) =>
      -- The difference is unsigned, so that `<= 0` is a test for zero.
      if hif.rxAddr + hif.rxSize - (call.address + call.size.toUInt32) = 0 ∨
          call.isDone = true then hif.setRxDone
      else (true, hif)

/-- What a failed or a successful access does not change. -/
def rest (hif : Hif) : Hif := { hif with faults := [] }

/-- A bus without faults is one whose accesses leave everything as it was. -/
theorem attempt_uses (hif : Hif) :
    hif.attempt.2.rest = hif.rest ∧ (hif.faults = [] -> hif.attempt = (true, hif)) := by
  rw [attempt]
  split
  next none => exact ⟨rfl, fun _ => rfl⟩
  next fault faults some =>
    refine ⟨rfl, ?_⟩
    intro none
    rw [none] at some
    cases some

def window (hif : Hif) : UInt32 × UInt32 := (hif.rxAddr, hif.rxSize)

@[simp] theorem window_attempt (hif : Hif) : hif.attempt.2.window = hif.window := by
  rw [attempt]
  split <;> rfl

@[simp] theorem window_setRxDone (hif : Hif) : hif.setRxDone.2.window = hif.window := by
  have first := window_attempt { hif with rxDone := false }
  rw [setRxDone]
  generalize attempt { hif with rxDone := false } = read at first
  obtain ⟨succeeds, next⟩ := read
  cases succeeds with
  | false => exact first
  | true =>
    have second := window_attempt next
    dsimp only
    generalize next.attempt = written at second
    obtain ⟨succeeds, last⟩ := written
    cases succeeds <;> exact second.trans first

@[simp] theorem window_receive (hif : Hif) (call : Receive) :
    (hif.receive call).2.window = hif.window := by
  rw [receive]
  split
  · split
    · exact window_setRxDone hif
    · rfl
  · split
    · rfl
    · split
      · rfl
      · have read := window_attempt { hif with
          accesses := hif.accesses ++ [.block call.address call.size] }
        generalize attempt { hif with
          accesses := hif.accesses ++ [.block call.address call.size] } = block at read
        obtain ⟨succeeds, next⟩ := block
        cases succeeds with
        | false => exact read
        | true =>
          dsimp only
          split
          · exact (window_setRxDone next).trans read
          · exact read

theorem receive_size {hif : Hif} {call : Receive} (received : (hif.receive call).1 = true)
    (place : ¬ (call.address = 0 ∨ call.isNull = true ∨ call.size = 0)) :
    call.size.toNat ≤ hif.rxSize.toNat := by
  rw [receive, if_neg place] at received
  by_cases large : hif.rxSize < call.size.toUInt32
  next => simp [large] at received
  next =>
    have fits := UInt32.not_lt.mp large
    exact fits

theorem receive_ends {hif : Hif} {call : Receive} (received : (hif.receive call).1 = true)
    (place : call.address = 0 ∨ call.isNull = true ∨ call.size = 0) : call.isDone = true := by
  rw [receive, if_pos place] at received
  by_cases done : call.isDone = true
  next => exact done
  next => simp [done] at received

theorem setRxDone_faultless {hif : Hif} (faultless : hif.faults = []) :
    hif.setRxDone =
      (true, { hif with rxDone := false, accesses := hif.accesses ++ [.rxDone] }) := by
  have first := (attempt_uses { hif with rxDone := false }).2 faultless
  have second := first
  rw [setRxDone, first]
  dsimp only
  rw [second]

theorem receive_null {hif : Hif} (faultless : hif.faults = []) :
    hif.receive ⟨0, true, 0, true⟩ =
      (true, { hif with rxDone := false, accesses := hif.accesses ++ [.rxDone] }) := by
  rw [receive, if_pos (.inl rfl), if_pos rfl, setRxDone_faultless faultless]

theorem receive_large {hif : Hif} {call : Receive} (place : call.address ≠ 0)
    (given : call.isNull = false) (some : call.size ≠ 0)
    (large : hif.rxSize.toNat < call.size.toNat) : hif.receive call = (false, hif) := by
  have beyond : hif.rxSize < call.size.toUInt32 := UInt32.lt_iff_toNat_lt.mpr large
  rw [receive, if_neg (by simp [place, given, some]), if_pos beyond]

theorem receive_inside {hif : Hif} {call : Receive} (faultless : hif.faults = [])
    (place : call.address ≠ 0) (given : call.isNull = false) (some : call.size ≠ 0)
    (begins : hif.rxAddr.toNat ≤ call.address.toNat)
    (ends : call.address.toNat + call.size.toNat ≤ hif.rxAddr.toNat + hif.rxSize.toNat)
    (inMemory : hif.rxAddr.toNat + hif.rxSize.toNat < 2 ^ 32) :
    hif.receive call = (true,
      if call.address.toNat + call.size.toNat = hif.rxAddr.toNat + hif.rxSize.toNat ∨
          call.isDone = true then
        { hif with
          rxDone := false
          accesses := hif.accesses ++ [.block call.address call.size, .rxDone] }
      else { hif with accesses := hif.accesses ++ [.block call.address call.size] }) := by
  have messageEnd : (hif.rxAddr + hif.rxSize).toNat = hif.rxAddr.toNat + hif.rxSize.toNat := by
    rw [UInt32.toNat_add, Nat.mod_eq_of_lt inMemory]
  have callEnd : (call.address + call.size.toUInt32).toNat =
      call.address.toNat + call.size.toNat := by
    rw [UInt32.toNat_add, UInt16.toNat_toUInt32, Nat.mod_eq_of_lt (by omega)]
  have fits : ¬ hif.rxSize < call.size.toUInt32 := by
    rw [UInt32.lt_iff_toNat_lt, UInt16.toNat_toUInt32]
    omega
  have inside : ¬ (call.address < hif.rxAddr ∨
      hif.rxAddr + hif.rxSize < call.address + call.size.toUInt32) := by
    rw [UInt32.lt_iff_toNat_lt, UInt32.lt_iff_toNat_lt, messageEnd, callEnd]
    omega
  have last : hif.rxAddr + hif.rxSize - (call.address + call.size.toUInt32) = 0 ↔
      call.address.toNat + call.size.toNat = hif.rxAddr.toNat + hif.rxSize.toNat := by
    rw [← messageEnd, ← callEnd, UInt32.toNat_inj, sub_eq_zero, eq_comm]
  have read := (attempt_uses { hif with
    accesses := hif.accesses ++ [.block call.address call.size] }).2 faultless
  rw [receive, if_neg (by simp [place, given, some]), if_neg fits, if_neg inside, read]
  dsimp only
  by_cases whole : call.address.toNat + call.size.toNat = hif.rxAddr.toNat + hif.rxSize.toNat ∨
      call.isDone = true
  next =>
    have done := @setRxDone_faultless { hif with
      accesses := hif.accesses ++ [.block call.address call.size] } faultless
    rw [if_pos whole, if_pos ((or_congr_left last).mpr whole), done, List.append_assoc]
    rfl
  next => rw [if_neg whole, if_neg (mt (or_congr_left last).mp whole)]

end Hif

end AvrVoiceControl.Winc
