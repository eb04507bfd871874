import AvrVoiceControl.Library.Machine

set_option autoImplicit false

namespace AvrVoiceControl

abbrev maxCommandSize : Nat := 100

abbrev carriageReturn : UInt8 := 13
abbrev newline : UInt8 := 10

@[simp] theorem carriageReturn_ne_newline : carriageReturn ≠ newline := by decide

@[simp] theorem newline_ne_carriageReturn : newline ≠ carriageReturn := by decide

inductive CliEvent
  -- `command_received` with what `command` holds up to `command[index]`.
  | commandReceived (text : List UInt8)
  | commandTooLong
  -- `command[index] = 0` behind the end of the array.
  | outOfBounds
  deriving DecidableEq

/-- The static variables of `CLI_task` and `endOfLineTest`. -/
structure Cli where
  command : Vector UInt8 maxCommandSize
  index : UInt8
  commandTooLongFlag : Bool
  test : UInt8

namespace Cli

def boot : Cli := ⟨Vector.replicate maxCommandSize 0, 0, false, 0⟩

def endOfLineTest (cli : Cli) (c : UInt8) : Bool × Cli :=
  let retvalue :=
    if c = newline then
      if cli.test = carriageReturn then false else true
    else true
  (retvalue, { cli with test := c })

/-- The body of the loop in `CLI_task`, without the read. What the command handlers leave in the
array is `handlers`. -/
def readByte (handlers : Vector UInt8 maxCommandSize -> Vector UInt8 maxCommandSize) (cli : Cli)
    (c : UInt8) : Cli × List CliEvent :=
  if c = carriageReturn ∨ c = newline then
    let (cli, overrun) :=
      if h : cli.index.toNat < maxCommandSize then
        ({ cli with command := cli.command.set cli.index.toNat 0 h }, [])
      else (cli, [.outOfBounds])
    let (cli, received) :=
      if ¬ cli.commandTooLongFlag then
        let (endOfLine, cli) := cli.endOfLineTest c
        if endOfLine then
          ({ cli with command := handlers cli.command },
            [.commandReceived (cli.command.toList.take (cli.index.toNat + 1))])
        else (cli, [])
      else (cli, [])
    let tooLong := if cli.commandTooLongFlag then [.commandTooLong] else []
    ({ cli with index := 0, commandTooLongFlag := false }, overrun ++ received ++ tooLong)
  else if h : cli.index.toNat < maxCommandSize then
    ({ cli with command := cli.command.set cli.index.toNat c h, index := cli.index + 1 }, [])
  else ({ cli with commandTooLongFlag := true }, [])

/-- One run of `CLI_task` with the bytes that it reads; nothing sets `isCommandReceived`. -/
def cliTask (handlers : Vector UInt8 maxCommandSize -> Vector UInt8 maxCommandSize) (cli : Cli)
    (bytes : List UInt8) : Cli × List CliEvent :=
  Machine.run (readByte handlers) cli bytes

end Cli

structure Framing where
  line : List UInt8
  afterReturn : Bool

namespace Framing

def start : Framing := ⟨[], false⟩

def ended (line : List UInt8) : CliEvent :=
  if line.length < maxCommandSize then .commandReceived (line ++ [0]) else .commandTooLong

def frame (framing : Framing) (c : UInt8) : Framing × List CliEvent :=
  if c = carriageReturn then (⟨[], true⟩, [ended framing.line])
  else if c = newline then
    if framing.afterReturn then (⟨framing.line, false⟩, []) else (⟨[], false⟩, [ended framing.line])
  else (⟨framing.line ++ [c], false⟩, [])

/-- The last terminator byte that did not end a line of more than 100 bytes. -/
def remember (framing : Framing) (c : UInt8) (last : UInt8) : UInt8 :=
  if (c = carriageReturn ∨ c = newline) ∧ framing.line.length ≤ maxCommandSize then c else last

/-- No line of 100 bytes ends here, and an LF that ends no longer one directly follows a CR exactly
when that CR is the last terminator byte of these. -/
def Framed (state : Framing × UInt8) (c : UInt8) : Prop :=
  (c = carriageReturn ∨ c = newline -> state.1.line.length ≠ maxCommandSize) ∧
    (c = newline -> state.1.line.length ≤ maxCommandSize ->
      (state.2 = carriageReturn ↔ state.1.afterReturn = true))

instance (state : Framing × UInt8) (c : UInt8) : Decidable (Framed state c) := by
  unfold Framed
  infer_instance

def WellFramed (stream : List UInt8) : Prop :=
  Machine.Guarded (Machine.noting frame remember) Framed (start, 0) stream

end Framing

def calls (events : List CliEvent) : List CliEvent :=
  events.filter fun event => event != .outOfBounds

theorem calls_append (events later : List CliEvent) :
    calls (events ++ later) = calls events ++ calls later := List.filter_append ..

namespace Cli

variable {handlers : Vector UInt8 maxCommandSize -> Vector UInt8 maxCommandSize}

/-- At every moment of the stream, however it is spread over the runs of `CLI_task`, its lines so far
have been handed over. -/
def FramesLines (handlers : Vector UInt8 maxCommandSize -> Vector UInt8 maxCommandSize)
    (stream : List UInt8) : Prop :=
  ∀ runs : List (List UInt8), runs.flatten <+: stream ->
    calls (Machine.run (cliTask handlers) boot runs).2 =
      (Machine.run Framing.frame Framing.start runs.flatten).2

structure Tracks (cli : Cli) (state : Framing × UInt8) : Prop where
  index : cli.index.toNat = min state.1.line.length maxCommandSize
  tooLong : cli.commandTooLongFlag = true ↔ maxCommandSize < state.1.line.length
  command : cli.command.toList.take cli.index.toNat = state.1.line.take maxCommandSize
  test : cli.test = state.2
  fresh : state.1.afterReturn = true -> state.1.line = []

theorem run_cliTask (cli : Cli) (runs : List (List UInt8)) :
    Machine.run (cliTask handlers) cli runs = Machine.run (readByte handlers) cli runs.flatten := by
  induction runs generalizing cli with
  | nil => rfl
  | cons bytes rest ih =>
    rw [Machine.run_cons, ih, List.flatten_cons, Machine.run_append]
    rfl

theorem tracks_boot : Tracks boot (Framing.start, 0) := by
  constructor <;> simp [boot, Framing.start]

def received (cli : Cli) : List UInt8 :=
  if cli.index.toNat < maxCommandSize then cli.command.toList.take cli.index.toNat ++ [0]
  else cli.command.toList

theorem set_take {bytes : List UInt8} {position : Nat} (inside : position < bytes.length)
    (byte : UInt8) : (bytes.set position byte).take (position + 1) = bytes.take position ++ [byte] := by
  induction bytes generalizing position with
  | nil => simp at inside
  | cons first rest ih =>
    cases position with
    | zero => simp
    | succ position => simp [ih (Nat.lt_of_succ_lt_succ inside)]

theorem readByte_terminator (cli : Cli) {c : UInt8} (terminator : c = carriageReturn ∨ c = newline) :
    (∃ command, (readByte handlers cli c).1 =
        ⟨command, 0, false, if cli.commandTooLongFlag then cli.test else c⟩) ∧
      calls (readByte handlers cli c).2 =
        if cli.commandTooLongFlag then [.commandTooLong]
        else if c = newline ∧ cli.test = carriageReturn then []
        else [.commandReceived cli.received] := by
  unfold readByte
  rw [if_pos terminator]
  by_cases inside : cli.index.toNat < maxCommandSize
  · have stored : (cli.command.set cli.index.toNat 0 inside).toList.take (cli.index.toNat + 1) =
        cli.received := by
      rw [Vector.toList_set, set_take (by simpa using inside), received, if_pos inside]
    cases tooLong : cli.commandTooLongFlag <;> by_cases newlineC : c = newline <;>
      by_cases swallowed : cli.test = carriageReturn <;>
      simp [inside, newlineC, swallowed, endOfLineTest, calls, stored]
  · have stored : cli.command.toList.take (cli.index.toNat + 1) = cli.received := by
      rw [received, if_neg inside, List.take_of_length_le]
      simp
      omega
    cases tooLong : cli.commandTooLongFlag <;> by_cases newlineC : c = newline <;>
      by_cases swallowed : cli.test = carriageReturn <;>
      simp [inside, tooLong, newlineC, swallowed, endOfLineTest, calls, stored]

section Tracks

variable {cli : Cli} {state : Framing × UInt8} {c : UInt8}

theorem frame_terminator (tracks : Tracks cli state)
    (terminator : c = carriageReturn ∨ c = newline) : (Framing.frame state.1 c).1.line = [] := by
  unfold Framing.frame
  split
  · rfl
  · split
    · split
      case isTrue after => exact tracks.fresh after
      case isFalse => rfl
    · simp_all

theorem tracks_terminator (tracks : Tracks cli state) (terminator : c = carriageReturn ∨ c = newline) :
    Tracks (readByte handlers cli c).1 (Machine.noting Framing.frame Framing.remember state c).1 := by
  obtain ⟨⟨command, next⟩, -⟩ := @readByte_terminator handlers cli c terminator
  have ended := frame_terminator tracks terminator
  rw [next]
  constructor
  · simp [Machine.noting, ended]
  · simp [Machine.noting, ended]
  · simp [Machine.noting, ended]
  · have short : cli.commandTooLongFlag = true ↔ ¬ state.1.line.length ≤ maxCommandSize := by
      rw [tracks.tooLong, Nat.not_le]
    simp only [Machine.noting, Framing.remember, terminator, true_and, short, tracks.test, ite_not]
  · exact fun _ => ended

theorem tracks_stored (tracks : Tracks cli state)
    (ordinary : ¬ (c = carriageReturn ∨ c = newline)) :
    Tracks (readByte handlers cli c).1 (Machine.noting Framing.frame Framing.remember state c).1 := by
  have index := tracks.index
  have tooLong := tracks.tooLong
  have framed : Framing.frame state.1 c = (⟨state.1.line ++ [c], false⟩, []) := by
    simp only [not_or] at ordinary
    simp [Framing.frame, ordinary]
  have last : Framing.remember state.1 c state.2 = state.2 := by simp [Framing.remember, ordinary]
  simp only [Machine.noting, framed, last]
  unfold readByte
  rw [if_neg ordinary]
  split
  case isTrue inside =>
    have room : state.1.line.length < maxCommandSize := by omega
    -- The index is a byte, which does not wrap below 100.
    have next : (cli.index + 1).toNat = cli.index.toNat + 1 := by
      rw [UInt8.toNat_add, Nat.mod_eq_of_lt]
      · rfl
      · have size : maxCommandSize = 100 := rfl
        simp
        omega
    have whole := tracks.command
    rw [List.take_of_length_le (Nat.le_of_lt room)] at whole
    constructor
    · simp [next]
      omega
    · simp [tooLong]
      omega
    · rw [next, Vector.toList_set, set_take (by simpa using inside), whole,
        List.take_of_length_le (by simpa using Nat.succ_le_of_lt room)]
    · exact tracks.test
    · simp
  case isFalse full =>
    have long : maxCommandSize ≤ state.1.line.length := by omega
    constructor
    · simp
      omega
    · simp
      omega
    · rw [List.take_append_of_le_length long]
      exact tracks.command
    · exact tracks.test
    · simp

theorem received_eq (tracks : Tracks cli state) (short : state.1.line.length < maxCommandSize) :
    cli.received = state.1.line ++ [0] := by
  have index := tracks.index
  rw [received, if_pos (by omega), tracks.command, List.take_of_length_le (Nat.le_of_lt short)]

theorem readByte_agrees (tracks : Tracks cli state) :
    calls (readByte handlers cli c).2 = (Framing.frame state.1 c).2 ↔ Framing.Framed state c := by
  by_cases terminator : c = carriageReturn ∨ c = newline
  case neg =>
    have stays : (readByte handlers cli c).2 = [] := by
      unfold readByte
      rw [if_neg terminator]
      split <;> rfl
    simp only [not_or] at terminator
    simp [stays, Framing.frame, terminator, Framing.Framed, calls]
  case pos =>
    rw [(@readByte_terminator handlers cli c terminator).2, tracks.test]
    -- The line is shorter than the array, fills it, or is longer.
    rcases Nat.lt_trichotomy state.1.line.length maxCommandSize with short | whole | long
    · have flag : cli.commandTooLongFlag = false := by
        rw [← Bool.not_eq_true, tracks.tooLong]
        omega
      rw [received_eq tracks short]
      rcases terminator with rfl | rfl
      · simp [flag, Framing.frame, Framing.ended, short, Framing.Framed, Nat.ne_of_lt short]
      · by_cases swallowed : state.2 = carriageReturn <;>
          cases after : state.1.afterReturn <;>
          simp [flag, Framing.frame, Framing.ended, short, Framing.Framed, Nat.ne_of_lt short,
            Nat.le_of_lt short, swallowed, after]
    · have flag : cli.commandTooLongFlag = false := by
        rw [← Bool.not_eq_true, tracks.tooLong]
        omega
      have open' : state.1.afterReturn = false := by
        rw [← Bool.not_eq_true]
        intro after
        rw [tracks.fresh after] at whole
        simp at whole
      rcases terminator with rfl | rfl <;> by_cases swallowed : state.2 = carriageReturn <;>
        simp [flag, Framing.frame, Framing.ended, whole, Framing.Framed, swallowed, open']
    · have flag : cli.commandTooLongFlag = true := tracks.tooLong.mpr long
      have open' : state.1.afterReturn = false := by
        rw [← Bool.not_eq_true]
        intro after
        rw [tracks.fresh after] at long
        simp at long
      have notShort : ¬ state.1.line.length < maxCommandSize := by omega
      have notWhole : state.1.line.length ≠ maxCommandSize := by omega
      rcases terminator with rfl | rfl <;>
        simp [flag, Framing.frame, Framing.ended, notShort, notWhole, Framing.Framed, open',
          Nat.not_le.mpr long]

end Tracks

def callByte (handlers : Vector UInt8 maxCommandSize -> Vector UInt8 maxCommandSize) (cli : Cli)
    (c : UInt8) : Cli × List CliEvent :=
  ((readByte handlers cli c).1, calls (readByte handlers cli c).2)

theorem tracks_callByte {cli : Cli} {state : Framing × UInt8} {c : UInt8} (tracks : Tracks cli state) :
    Tracks (callByte handlers cli c).1 (Machine.noting Framing.frame Framing.remember state c).1 := by
  by_cases terminator : c = carriageReturn ∨ c = newline
  · exact tracks_terminator tracks terminator
  · exact tracks_stored tracks terminator

theorem run_callByte (cli : Cli) (bytes : List UInt8) :
    (Machine.run (callByte handlers) cli bytes).2 =
      calls (Machine.run (readByte handlers) cli bytes).2 := by
  induction bytes generalizing cli with
  | nil => rfl
  | cons c rest ih =>
    rw [Machine.run_cons, Machine.run_cons, calls_append, ← ih]
    rfl

theorem framesLines_prefixes (stream : List UInt8) :
    FramesLines handlers stream ↔
      ∀ front, front <+: stream ->
        (Machine.run (callByte handlers) boot front).2 =
          (Machine.run (Machine.noting Framing.frame Framing.remember) (Framing.start, 0) front).2 := by
  simp only [FramesLines, run_cliTask, run_callByte, (Machine.run_noting _ _ _ _).2]
  constructor
  · intro frames front first
    have whole := frames [front] (by simpa using first)
    simpa using whole
  · exact fun frames runs first => frames runs.flatten first

theorem framesLines_iff
    (handlers : Vector UInt8 maxCommandSize -> Vector UInt8 maxCommandSize) (stream : List UInt8) :
    FramesLines handlers stream ↔ Framing.WellFramed stream := by
  rw [framesLines_prefixes, Machine.run_agrees_iff]
  have byGuard :
      Machine.Guarded (Machine.pair (callByte handlers) (Machine.noting Framing.frame Framing.remember))
          (fun states c => calls (readByte handlers states.1 c).2 = (Framing.frame states.2.1 c).2)
          (boot, Framing.start, 0) stream ↔
        Machine.Guarded
          (Machine.pair (callByte handlers) (Machine.noting Framing.frame Framing.remember))
          (fun states => Framing.Framed states.2) (boot, Framing.start, 0) stream :=
    Machine.guarded_iff (fun states : Cli × (Framing × UInt8) => Tracks states.1 states.2)
      (fun _ _ tracks _ => tracks_callByte tracks) (fun _ _ tracks => readByte_agrees tracks)
      tracks_boot stream
  exact byGuard.trans Machine.guarded_pair_right_iff

theorem framesLines_lineFeed : ¬ FramesLines id [13, 98, 10] := by
  intro frames
  have whole := frames [[13, 98, 10]] (by simp)
  revert whole
  decide

def Sound : CliEvent -> Prop
  | .commandReceived text => 0 ∈ text
  | .commandTooLong => True
  | .outOfBounds => False

def BufferSafe (handlers : Vector UInt8 maxCommandSize -> Vector UInt8 maxCommandSize)
    (stream : List UInt8) : Prop :=
  ∀ runs : List (List UInt8), runs.flatten <+: stream ->
    ∀ event ∈ (Machine.run (cliTask handlers) boot runs).2, Sound event

def Terminator (c : UInt8) : Prop := c = carriageReturn ∨ c = newline

instance (c : UInt8) : Decidable (Terminator c) := inferInstanceAs (Decidable (_ ∨ _))

/-- No CR or LF comes directly behind 100 bytes without either. -/
def LinesShort (stream : List UInt8) : Prop :=
  ∀ (line : List UInt8) (c : UInt8), (∀ byte ∈ line, ¬Terminator byte) -> Terminator c ->
    line ++ [c] <:+: stream -> line.length < maxCommandSize

def unfinished (line : List UInt8) (stream : List UInt8) : List UInt8 :=
  stream.foldl (fun line c => if Terminator c then [] else line ++ [c]) line

theorem unfinished_append (line front back : List UInt8) :
    unfinished line (front ++ back) = unfinished (unfinished line front) back := by
  rw [unfinished, List.foldl_append]
  rfl

theorem unfinished_ordinary (line : List UInt8) {more : List UInt8}
    (ordinary : ∀ byte ∈ more, ¬Terminator byte) : unfinished line more = line ++ more := by
  induction more generalizing line with
  | nil => simp [unfinished]
  | cons byte more ih =>
    have rest := ih (line ++ [byte]) fun other member => ordinary other (by simp [member])
    simpa [unfinished, ordinary byte (by simp)] using rest

theorem unfinished_spec (stream : List UInt8) :
    unfinished [] stream <:+ stream ∧ ∀ byte ∈ unfinished [] stream, ¬Terminator byte := by
  induction stream using List.reverseRecOn with
  | nil => simp [unfinished]
  | append_singleton stream c ih =>
    rw [unfinished_append]
    by_cases terminator : Terminator c
    next => simp [unfinished, terminator]
    next =>
      obtain ⟨⟨before, whole⟩, ordinary⟩ := ih
      simp only [unfinished, List.foldl_cons, List.foldl_nil, terminator, if_false]
      constructor
      next => exact ⟨before, by rw [← List.append_assoc, ← unfinished, whole]⟩
      next =>
        intro byte member
        rcases List.mem_append.mp member with earlier | last
        next => exact ordinary byte earlier
        next => rwa [List.mem_singleton.mp last]

theorem linesShort_iff (stream : List UInt8) :
    LinesShort stream ↔ ∀ front c back, stream = front ++ c :: back -> Terminator c ->
      (unfinished [] front).length < maxCommandSize := by
  constructor
  next =>
    rintro short front c back rfl terminator
    obtain ⟨⟨before, whole⟩, ordinary⟩ := unfinished_spec front
    exact short _ c ordinary terminator ⟨before, back, by rw [← List.append_assoc, whole]; simp⟩
  next =>
    rintro short line c ordinary terminator ⟨before, back, whole⟩
    have bound := short (before ++ line) c back (by simp [← whole]) terminator
    rw [unfinished_append, unfinished_ordinary _ ordinary, List.length_append] at bound
    omega

theorem readByte_index (cli : Cli) (c : UInt8) (inside : cli.index.toNat ≤ maxCommandSize) :
    (readByte handlers cli c).1.index.toNat =
      if Terminator c then 0 else min (cli.index.toNat + 1) maxCommandSize := by
  by_cases terminator : c = carriageReturn ∨ c = newline
  next =>
    obtain ⟨⟨command, next⟩, -⟩ := @readByte_terminator handlers cli c terminator
    simp [next, Terminator, terminator]
  next =>
    have ordinary : ¬Terminator c := terminator
    have size : maxCommandSize = 100 := rfl
    unfold readByte
    rw [if_neg terminator, if_neg ordinary]
    split
    case isTrue room =>
      have next : (cli.index + 1).toNat = cli.index.toNat + 1 := by
        have one : (1 : UInt8).toNat = 1 := rfl
        rw [UInt8.toNat_add, one, Nat.mod_eq_of_lt (by omega)]
      simp only [next]
      omega
    case isFalse full =>
      simp only
      omega

theorem run_readByte_index (front : List UInt8) :
    (Machine.run (readByte handlers) boot front).1.index.toNat =
      min (unfinished [] front).length maxCommandSize := by
  induction front using List.reverseRecOn with
  | nil => rfl
  | append_singleton front c ih =>
    rw [Machine.run_append, unfinished_append]
    have bound : (Machine.run (readByte handlers) boot front).1.index.toNat ≤ maxCommandSize := by
      omega
    have next := @readByte_index handlers _ c bound
    rw [ih] at next
    simp only [Machine.run_cons, Machine.run_nil, next]
    by_cases terminator : Terminator c
    next => simp [unfinished, terminator]
    next =>
      simp [unfinished, terminator]
      omega

theorem readByte_sound (cli : Cli) (c : UInt8) :
    (∀ event ∈ (readByte handlers cli c).2, Sound event) ↔
      (Terminator c -> cli.index.toNat < maxCommandSize) := by
  by_cases terminator : c = carriageReturn ∨ c = newline
  next =>
    have ends : Terminator c := terminator
    unfold readByte
    rw [if_pos terminator]
    by_cases inside : cli.index.toNat < maxCommandSize
    next =>
      have nul : 0 ∈ (cli.command.set cli.index.toNat 0 inside).toList.take (cli.index.toNat + 1) := by
        rw [Vector.toList_set, set_take (by simpa using inside)]
        simp
      cases tooLong : cli.commandTooLongFlag <;> cases endOfLine : (endOfLineTest
          { cli with command := cli.command.set cli.index.toNat 0 inside } c).1 <;>
        simp_all [Sound, endOfLineTest]
    next => simp [inside, ends, Sound]
  next =>
    have ordinary : ¬Terminator c := terminator
    unfold readByte
    rw [if_neg terminator]
    split <;> simp [ordinary]

theorem linesShort_of_bufferSafe {stream : List UInt8} (safe : BufferSafe handlers stream) :
    LinesShort stream := by
  rw [linesShort_iff]
  rintro front c back rfl terminator
  have sound : ∀ event ∈ (readByte handlers (Machine.run (readByte handlers) boot front).1 c).2,
      Sound event := by
    intro event emitted
    apply safe [front ++ [c]] (by simp)
    rw [run_cliTask, List.flatten_cons, List.flatten_nil, List.append_nil, Machine.mem_run_iff]
    exact ⟨front, c, [], rfl, emitted⟩
  have inside := (readByte_sound _ c).mp sound terminator
  rw [run_readByte_index] at inside
  omega

theorem bufferSafe_of_linesShort {stream : List UInt8} (short : LinesShort stream) :
    BufferSafe handlers stream := by
  intro runs first event emitted
  rw [run_cliTask, Machine.mem_run_iff] at emitted
  obtain ⟨front, c, back, whole, emitted⟩ := emitted
  obtain ⟨rest, rfl⟩ := first
  apply (readByte_sound _ c).mpr _ event emitted
  intro terminator
  have bound := (linesShort_iff _).mp short front c (back ++ rest) (by simp [whole]) terminator
  rw [run_readByte_index]
  omega

theorem bufferSafe_iff
    (handlers : Vector UInt8 maxCommandSize -> Vector UInt8 maxCommandSize) (stream : List UInt8) :
    BufferSafe handlers stream ↔ LinesShort stream :=
  ⟨linesShort_of_bufferSafe, bufferSafe_of_linesShort⟩

theorem bufferSafe_fullLine : ¬BufferSafe id (List.replicate 100 97 ++ [13]) := by
  intro safe
  have letters : ∀ byte ∈ List.replicate 100 (97 : UInt8), ¬Terminator byte := by
    intro byte member
    rw [List.eq_of_mem_replicate member]
    decide
  have short := linesShort_of_bufferSafe safe (List.replicate 100 97) 13 letters (Or.inl rfl)
    (List.infix_refl _)
  simp at short

end Cli

end AvrVoiceControl
