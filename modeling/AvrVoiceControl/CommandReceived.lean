import AvrVoiceControl.CommandLine
import AvrVoiceControl.CredentialsStorage

set_option autoImplicit false

namespace AvrVoiceControl

open CString

abbrev space : UInt8 := 32

abbrev CommandBuffer := Vector UInt8 maxCommandSize

def stringAt (command : CommandBuffer) (index : Nat) : List UInt8 :=
  (command.toList.drop index).takeWhile (· ≠ 0)

/-- `strtok` in the buffer: the token, the buffer with the delimiter behind the token overwritten,
and where a call with NULL goes on, `none` where no token is left. -/
def strtokIn (delimiters : List UInt8) (command : CommandBuffer) :
    Option Nat -> Option Nat × CommandBuffer × Option Nat
  | none => (none, command, none)
  | some index =>
    let string := stringAt command index
    let start := index + (string.takeWhile (· ∈ delimiters)).length
    let rest := string.dropWhile (· ∈ delimiters)
    let stop := start + (rest.takeWhile (· ∉ delimiters)).length
    if rest = [] then (none, command, none)
    else if stop < start + rest.length then
      (some start, command.setIfInBounds stop 0, some (stop + 1))
    else (some start, command, none)

inductive CommandEvent
  | printed (text : String)
  -- A handler reads through its argument, which is NULL.
  | nullDereference
  -- `CREDENTIALS_STORAGE_save` finds no NUL in an array.
  | readBehindArray
  | mqttDisconnect
  -- The wait for the watchdog; what follows is a new history.
  | watchdogReset
  deriving DecidableEq

structure Settings where
  credentials : WifiCredentials
  eeprom : Eeprom
  debugSeverity : UInt8

/-- What lies under `command_received`: the buffer, and the pointer that `strtok` keeps into it. -/
structure CommandState where
  command : CommandBuffer
  strtokNext : Option Nat
  settings : Settings

structure CommandEnvironment where
  ateccsn : Option String
  publicKey : Option String
  zeroByte : UInt8

inductive CliCommand
  | reset
  | reconnect
  | wifi
  | key
  | device
  | cliVersion
  | version
  | debug
  deriving DecidableEq

def commands : List (List UInt8 × CliCommand) :=
  [(ascii "reset".toList, .reset),
    (ascii "reconnect".toList, .reconnect),
    (ascii "wifi".toList, .wifi),
    (ascii "key".toList, .key),
    (ascii "device".toList, .device),
    (ascii "cli_version".toList, .cliVersion),
    (ascii "version".toList, .version),
    (ascii "debug".toList, .debug)]

def unknownCmdMsg : String :=
  "--------------------------------------------\r\nUnknown command. List of available commands:\r\n" ++
  "reset\r\ndevice\r\nkey\r\nreconnect\r\nversion\r\ncli_version\r\n" ++
  "wifi <ssid>[,<pass>,[authType]]\r\ndebug\r\n" ++
  "--------------------------------------------\r\n\x04"

@[simp] theorem copyCredential_length (array : Vector UInt8 maxWifiCredentialsLength)
    (credential : List UInt8) :
    (copyCredential array credential).length = maxWifiCredentialsLength := by
  have size : maxWifiCredentialsLength = 31 := rfl
  simp [copyCredential, strncpy]
  omega

def storeCredential (array : Vector UInt8 maxWifiCredentialsLength) (credential : List UInt8) :
    Vector UInt8 maxWifiCredentialsLength :=
  ⟨(copyCredential array credential).toArray, by simp⟩

namespace Settings

def save (settings : Settings) : Settings × List CommandEvent :=
  match credentialsStorageSave settings.credentials.ssid.toList settings.credentials.pass.toList
    settings.credentials.authType[0] settings.eeprom with
  | some eeprom => ({ settings with eeprom := eeprom }, [.printed "OK\r\n\x04"])
  | none => (settings, [.readBehindArray, .printed "OK\r\n\x04"])

def storeWifi (settings : Settings) (credentials : List (List UInt8)) :
    Settings × List CommandEvent :=
  match credentials with
  | [ssid] =>
    save { settings with
      credentials :=
        { ssid := storeCredential settings.credentials.ssid ssid
          pass := settings.credentials.pass.set 0 0
          authType := #v[49, 0] } }
  | ssid :: pass :: _ =>
    save { settings with
      credentials :=
        { ssid := storeCredential settings.credentials.ssid ssid
          pass := storeCredential settings.credentials.pass pass
          authType := #v[50, 0] } }
  | [] =>
    (settings, [.printed "Error. Wi-Fi command format is wifi <ssid>[,<pass>].\r\n\x04"])

def setDebugLevel (settings : Settings) (byte : UInt8) : Settings × List CommandEvent :=
  if 48 ≤ byte ∧ byte ≤ 52 then
    let level := byte - 48
    ({ settings with eeprom := settings.eeprom.writeByte eepromDbg level, debugSeverity := level },
      [.printed "OK\r\n"])
  else (settings, [.printed "debug parameter must be between 0 (Least) and 4 (Most) \r\n"])

end Settings

def resetCmd : List CommandEvent := [.watchdogReset]

def reconnectCmd : List CommandEvent := [.mqttDisconnect, .printed "OK\r\n"]

def CommandEnvironment.getPublicKey (environment : CommandEnvironment) : List CommandEvent :=
  [.printed (environment.publicKey.getD "Error getting key.\r\n\x04")]

def CommandEnvironment.getDeviceId (environment : CommandEnvironment) : List CommandEvent :=
  [.printed ((environment.ateccsn.map (· ++ "\r\n\x04")).getD "Unknown.\r\n\x04")]

def getCliVersion : List CommandEvent := [.printed "v2.0\r\n\x04"]

def getFirmwareVersion : List CommandEvent := [.printed "AVR Voice Control\r\n\x04"]

namespace CommandState

def wifiTokens : Nat -> Option Nat -> CommandBuffer -> Option Nat ->
    List Nat × CommandBuffer × Option Nat
  -- The loop of `set_wifi_auth`, which takes at most so many parameters.
  | 0, _, command, next => ([], command, next)
  | _ + 1, none, command, next => ([], command, next)
  | count + 1, some pch, command, next =>
    let (later, command, next) := strtokIn [44, 32] command next
    let (rest, command, next) := wifiTokens count later command next
    (pch :: rest, command, next)

def setWifiAuth (state : CommandState) (ssidPwdAuth : Option Nat) :
    CommandState × List CommandEvent :=
  -- `strtok(NULL, ",")` goes on where an earlier command stopped.
  let (pch, command, next) := strtokIn [44] state.command (ssidPwdAuth.or state.strtokNext)
  let (tokens, command, next) := wifiTokens (wifiParamsPskCnt + 1) pch command next
  let (settings, events) := state.settings.storeWifi (tokens.map (stringAt command))
  ({ command := command, strtokNext := next, settings := settings }, events)

def setDebugLevel (environment : CommandEnvironment) (state : CommandState) (pArg : Option Nat) :
    CommandState × List CommandEvent :=
  let (byte, read) :=
    match pArg with
    | some index => (state.command.toList.getD index 0, [])
    | none => (environment.zeroByte, [CommandEvent.nullDereference])
  let (settings, events) := state.settings.setDebugLevel byte
  ({ state with settings := settings }, read ++ events)

def handler (environment : CommandEnvironment) (state : CommandState) (argument : Option Nat) :
    CliCommand -> CommandState × List CommandEvent
  | .reset => (state, resetCmd)
  | .reconnect => (state, reconnectCmd)
  | .wifi => state.setWifiAuth argument
  | .key => (state, environment.getPublicKey)
  | .device => (state, environment.getDeviceId)
  | .cliVersion => (state, getCliVersion)
  | .version => (state, getFirmwareVersion)
  | .debug => state.setDebugLevel environment argument

def dispatch (environment : CommandEnvironment) (state : CommandState) (argument : Option Nat) :
    CommandState × List CommandEvent :=
  match commands.find? fun entry => entry.1 == stringAt state.command 0 with
  | some (_, command) => state.handler environment argument command
  | none => (state, [.printed unknownCmdMsg])

def commandReceived (environment : CommandEnvironment) (state : CommandState) :
    CommandState × List CommandEvent :=
  let text := stringAt state.command 0
  let position := (text.takeWhile (· ≠ space)).length
  if position < text.length then
    dispatch environment { state with command := state.command.setIfInBounds position 0 }
      (some (position + 1))
  else dispatch environment state none

end CommandState

def storeFrom (command : CommandBuffer) : Nat -> List UInt8 -> CommandBuffer
  | _, [] => command
  | index, byte :: rest => storeFrom (command.setIfInBounds index byte) (index + 1) rest

def wifiWord : List UInt8 := ascii ['w', 'i', 'f', 'i']

abbrev ShortLine := { line : List UInt8 // line.length < maxCommandSize ∧ 0 ∉ line }

namespace CommandState

def processLine (environment : CommandEnvironment) (state : CommandState) (line : ShortLine) :
    CommandState × List CommandEvent :=
  commandReceived environment
    { state with command := storeFrom state.command 0 (line.val ++ [0]) }

def boot (settings : Settings) : CommandState where
  command := Vector.replicate maxCommandSize 0
  strtokNext := none
  settings := settings

end CommandState

def Holds (command : CommandBuffer) (index : Nat) (string : List UInt8) : Prop :=
  0 ∉ string ∧ ∃ before behind, before.length = index ∧
    command.toList = before ++ string ++ 0 :: behind

theorem Holds.stringAt_eq {command : CommandBuffer} {index : Nat} {string : List UInt8}
    (holds : Holds command index string) : stringAt command index = string := by
  obtain ⟨nulFree, before, behind, rfl, whole⟩ := holds
  have letters : ∀ byte ∈ string, decide (byte ≠ 0) = true := by
    intro byte member
    simpa using ne_of_mem_of_not_mem member nulFree
  rw [stringAt, whole, List.append_assoc, List.drop_left, List.takeWhile_append_of_pos letters]
  simp

theorem Holds.drop {command : CommandBuffer} {index : Nat} {string : List UInt8}
    (holds : Holds command index string) {count : Nat} (inside : count ≤ string.length) :
    Holds command (index + count) (string.drop count) := by
  obtain ⟨nulFree, before, behind, rfl, whole⟩ := holds
  refine ⟨fun member => nulFree (List.mem_of_mem_drop member), before ++ string.take count, behind,
    by simp [inside], ?_⟩
  rw [whole, List.append_assoc before (string.take count), List.take_append_drop]

theorem Holds.cut {command : CommandBuffer} {index : Nat} {string : List UInt8}
    (holds : Holds command index string) {count : Nat} (inside : count < string.length) :
    Holds (command.setIfInBounds (index + count) 0) index (string.take count) ∧
      Holds (command.setIfInBounds (index + count) 0) (index + count + 1)
        (string.drop (count + 1)) := by
  obtain ⟨nulFree, before, behind, rfl, whole⟩ := holds
  have split : string = string.take count ++ string[count] :: string.drop (count + 1) := by
    rw [← List.drop_eq_getElem_cons inside, List.take_append_drop]
  have position : before.length + count = (before ++ string.take count).length := by
    simp [Nat.le_of_lt inside]
  have stored : (command.setIfInBounds (before.length + count) 0).toList =
      before ++ string.take count ++ 0 :: (string.drop (count + 1) ++ 0 :: behind) := by
    have parts : command.toList =
        (before ++ string.take count) ++ string[count] :: (string.drop (count + 1) ++ 0 :: behind) := by
      calc command.toList = before ++ string ++ 0 :: behind := whole
        _ = before ++ (string.take count ++ string[count] :: string.drop (count + 1)) ++
            0 :: behind := by rw [← split]
        _ = _ := by simp only [List.append_assoc, List.cons_append]
    rw [Vector.toList_setIfInBounds, parts, position, List.set_append_right _ _ (Nat.le_refl _)]
    simp
  constructor
  next => exact ⟨fun member => nulFree (List.mem_of_mem_take member), before, _, rfl, stored⟩
  next =>
    refine ⟨fun member => nulFree (List.mem_of_mem_drop member), before ++ string.take count ++ [0],
      behind, by simp [Nat.le_of_lt inside]; omega, ?_⟩
    rw [stored]
    simp

theorem Holds.behind {command : CommandBuffer} {index : Nat} {string : List UInt8}
    (holds : Holds command index string) {position : Nat}
    (later : index + string.length < position) :
    Holds (command.setIfInBounds position 0) index string := by
  obtain ⟨nulFree, before, behind, rfl, whole⟩ := holds
  refine ⟨nulFree, before, behind.set (position - (before.length + string.length + 1)) 0, rfl, ?_⟩
  have count : position - (before ++ string).length =
      position - (before.length + string.length + 1) + 1 := by
    simp
    omega
  rw [Vector.toList_setIfInBounds, whole, List.set_append_right _ _ (by simp; omega), count,
    List.set_cons_succ]

theorem toList_storeFrom {command : CommandBuffer} {index : Nat} {bytes : List UInt8}
    (inside : index + bytes.length ≤ maxCommandSize) :
    (storeFrom command index bytes).toList =
      command.toList.take index ++ bytes ++ command.toList.drop (index + bytes.length) := by
  induction bytes generalizing command index with
  | nil => simp [storeFrom]
  | cons byte rest ih =>
    have room : index < command.toList.length := by
      simp only [List.length_cons, Vector.length_toList] at inside ⊢
      omega
    have stored := @ih (command.setIfInBounds index byte) (index + 1)
      (by simp only [List.length_cons] at inside; omega)
    have behind : index < index + 1 + rest.length := by omega
    rw [storeFrom, stored, Vector.toList_setIfInBounds, Cli.set_take room,
      List.drop_set_of_lt behind]
    simp [Nat.add_assoc, Nat.add_comm 1]

theorem holds_storeFrom (command : CommandBuffer) (line : ShortLine) :
    Holds (storeFrom command 0 (line.val ++ [0])) 0 line.val := by
  obtain ⟨line, short, nulFree⟩ := line
  refine ⟨nulFree, [], command.toList.drop (line.length + 1), rfl, ?_⟩
  rw [toList_storeFrom (by simpa using Nat.succ_le_of_lt short)]
  simp

def Continues (command : CommandBuffer) (limit : Nat) (later : List UInt8) : Option Nat -> Prop
  | none => later = []
  | some next => limit < next ∧ Holds command next later

theorem strtokIn_none {delimiters : List UInt8} {command : CommandBuffer} {index : Nat}
    {string : List UInt8} (holds : Holds command index string)
    (none : strtok delimiters string = none) :
    strtokIn delimiters command (some index) = (Option.none, command, Option.none) := by
  unfold strtok at none
  split at none
  case h_1 empty => simp [strtokIn, holds.stringAt_eq, empty]
  case h_2 => cases none

theorem strtokIn_some {delimiters : List UInt8} {command : CommandBuffer} {index : Nat}
    {string token later : List UInt8} (holds : Holds command index string)
    (takes : strtok delimiters string = some (token, later)) :
    ∃ start after next, strtokIn delimiters command (some index) = (some start, after, next) ∧
      index ≤ start ∧ Holds after start token ∧ Continues after (start + token.length) later next ∧
      ∀ other text, Holds command other text -> other + text.length < index ->
        Holds after other text := by
  unfold strtok at takes
  split at takes
  case h_1 => cases takes
  case h_2 byte bytes rest =>
    obtain ⟨rfl, rfl⟩ := Prod.mk.inj (Option.some.inj takes)
    have nonempty : byte :: bytes ≠ [] := List.cons_ne_nil byte bytes
    rw [← rest] at nonempty ⊢
    have skipped : (string.takeWhile (· ∈ delimiters)).length ≤ string.length :=
      (List.takeWhile_sublist _).length_le
    have here := holds.drop skipped
    rw [drop_takeWhile_length] at here
    have forward : index ≤ index + (string.takeWhile (· ∈ delimiters)).length :=
      Nat.le_add_right _ _
    simp only [strtokIn, holds.stringAt_eq, if_neg nonempty]
    generalize index + (string.takeWhile (· ∈ delimiters)).length = start at here forward ⊢
    generalize string.dropWhile (· ∈ delimiters) = remains at here ⊢
    by_cases delimited : (remains.takeWhile (· ∉ delimiters)).length < remains.length
    next =>
      obtain ⟨front, back⟩ := here.cut delimited
      rw [take_takeWhile_length] at front
      have same : (remains.dropWhile (· ∉ delimiters)).drop 1 =
          remains.drop ((remains.takeWhile (· ∉ delimiters)).length + 1) := by
        rw [← drop_takeWhile_length, List.drop_drop]
      rw [if_pos (by omega), same]
      refine ⟨start, _, _, rfl, forward, front, ⟨Nat.lt_succ_self _, back⟩, ?_⟩
      intro other text held before
      exact held.behind (by omega)
    next =>
      have whole : remains.takeWhile (· ∉ delimiters) = remains := by
        apply List.IsPrefix.eq_of_length_le (List.takeWhile_prefix _)
        omega
      have last : remains.dropWhile (· ∉ delimiters) = [] := by
        rw [← drop_takeWhile_length, whole, List.drop_length]
      rw [if_neg (by omega), last, whole]
      exact ⟨start, command, none, rfl, forward, here, rfl, fun _ _ held _ => held⟩

namespace CommandState

theorem strtokIn_next {command : CommandBuffer} {limit : Nat} {later : List UInt8}
    {next : Option Nat} (continues : Continues command limit later next)
    (delimiters : List UInt8) :
    ∃ found after left, strtokIn delimiters command next = (found, after, left) ∧
      (∀ other text, Holds command other text -> other + text.length ≤ limit ->
        Holds after other text) ∧
      match strtok delimiters later with
      | none => found = none
      | some (token, rest) =>
        ∃ start, found = some start ∧ limit < start ∧ Holds after start token ∧
          Continues after (start + token.length) rest left := by
  cases next with
  | none =>
    obtain rfl : later = [] := continues
    exact ⟨none, command, none, rfl, fun _ _ held _ => held, rfl⟩
  | some index =>
    obtain ⟨beyond, held⟩ := continues
    cases takes : strtok delimiters later with
    | none => exact ⟨none, command, none, strtokIn_none held takes, fun _ _ old _ => old, rfl⟩
    | some taken =>
      obtain ⟨start, after, left, found, forward, token, rest, frame⟩ := strtokIn_some held takes
      refine ⟨some start, after, left, found, ?_, start, rfl, by omega, token, rest⟩
      intro other text old before
      exact frame other text old (by omega)

theorem wifiTokens_spec {count : Nat} {pch : Nat} {command : CommandBuffer} {token later : List UInt8}
    {next : Option Nat} (held : Holds command pch token)
    (continues : Continues command (pch + token.length) later next) :
    ∃ indices after left, wifiTokens (count + 1) (some pch) command next =
        (pch :: indices, after, left) ∧
      (pch :: indices).map (stringAt after) = token :: wifiParams count later ∧
      ∀ other text, Holds command other text -> other + text.length ≤ pch + token.length ->
        Holds after other text := by
  induction count generalizing pch command token later next with
  | zero =>
    obtain ⟨found, after, left, called, frame, -⟩ := strtokIn_next continues [44, 32]
    refine ⟨[], after, left, by simp [wifiTokens, called], ?_, frame⟩
    simp [wifiParams, (frame pch token held (Nat.le_refl _)).stringAt_eq]
  | succ count ih =>
    obtain ⟨found, after, left, called, frame, taken⟩ := strtokIn_next continues [44, 32]
    have kept := frame pch token held (Nat.le_refl _)
    cases takes : strtok [44, 32] later with
    | none =>
      rw [takes] at taken
      obtain rfl : found = none := taken
      refine ⟨[], after, left, by simp [wifiTokens, called], ?_, frame⟩
      simp [wifiParams, takes, kept.stringAt_eq]
    | some pair =>
      obtain ⟨second, rest⟩ := pair
      rw [takes] at taken
      obtain ⟨start, rfl, beyond, secondHeld, further⟩ := taken
      obtain ⟨indices, last, left', looped, strings, lastFrame⟩ := ih secondHeld further
      have first := lastFrame pch token kept (by omega)
      refine ⟨start :: indices, last, left', ?_, ?_, ?_⟩
      · rw [wifiTokens, called]
        simp only [looped]
      · rw [List.map_cons, first.stringAt_eq, strings, wifiParams, takes]
      · intro other text old before
        exact lastFrame other text (frame other text old before) (by omega)

theorem setWifiAuth_argument {state : CommandState} {index : Nat} {argument : List UInt8}
    (held : Holds state.command index argument) :
    (state.setWifiAuth (some index)).1.settings =
        (state.settings.storeWifi (credentialsOf argument)).1 ∧
      (state.setWifiAuth (some index)).2 =
        (state.settings.storeWifi (credentialsOf argument)).2 := by
  have string : argument.takeWhile (· ≠ 0) = argument := by
    rw [List.takeWhile_eq_self_iff]
    intro byte member
    simpa using ne_of_mem_of_not_mem member held.1
  rw [credentialsOf, string]
  unfold setWifiAuth
  cases takes : strtok [44] argument with
  | none =>
    have called := strtokIn_none held takes
    simp [called, wifiTokens]
  | some pair =>
    obtain ⟨token, later⟩ := pair
    obtain ⟨start, after, next, called, -, tokenHeld, continues, -⟩ := strtokIn_some held takes
    obtain ⟨indices, last, left, looped, strings, -⟩ :=
      @wifiTokens_spec wifiParamsPskCnt start after token later next tokenHeld continues
    simp only [Option.some_or, called, looped, strings]
    exact ⟨trivial, trivial⟩

def word (line : ShortLine) : List UInt8 := line.val.takeWhile (· ≠ space)

def argumentOf (line : ShortLine) : List UInt8 := (line.val.dropWhile (· ≠ space)).drop 1

theorem takeWhile_eq_self_of_length {p : UInt8 -> Bool} {bytes : List UInt8}
    (whole : ¬(bytes.takeWhile p).length < bytes.length) : bytes.takeWhile p = bytes :=
  (List.takeWhile_prefix p).eq_of_length_le (Nat.le_of_not_lt whole)

theorem processLine_argument (state : CommandState) {line : ShortLine}
    (spaced : space ∈ line.val) :
    ∃ command, Holds command 0 (word line) ∧
      Holds command ((word line).length + 1) (argumentOf line) ∧
      ∀ environment, processLine environment state line =
        dispatch environment { state with command := command } (some ((word line).length + 1)) := by
  have stored := holds_storeFrom state.command line
  have shorter : (line.val.takeWhile (· ≠ space)).length < line.val.length := by
    by_contra whole
    have same := takeWhile_eq_self_of_length whole
    rw [← same] at spaced
    simpa using List.mem_takeWhile_imp spaced
  obtain ⟨front, back⟩ := stored.cut shorter
  rw [take_takeWhile_length, Nat.zero_add] at front
  rw [Nat.zero_add] at back
  refine ⟨_, front, ?_, ?_⟩
  · rw [argumentOf, ← drop_takeWhile_length, List.drop_drop]
    exact back
  · intro environment
    rw [processLine, commandReceived]
    simp only [stored.stringAt_eq, if_pos shorter]
    rfl

theorem processLine_bare (state : CommandState) {line : ShortLine} (bare : space ∉ line.val) :
    ∃ command, Holds command 0 (word line) ∧ word line = line.val ∧
      ∀ environment, processLine environment state line =
        dispatch environment { state with command := command } none := by
  have stored := holds_storeFrom state.command line
  have whole : line.val.takeWhile (· ≠ space) = line.val := by
    rw [List.takeWhile_eq_self_iff]
    intro byte member
    simpa using ne_of_mem_of_not_mem member bare
  refine ⟨_, by rwa [word, whole], whole, ?_⟩
  intro environment
  rw [processLine, commandReceived]
  simp only [stored.stringAt_eq, whole, Nat.lt_irrefl, if_false]

theorem setDebugLevel_argument (environment : CommandEnvironment) {state : CommandState}
    {index : Nat} {argument : List UInt8} (held : Holds state.command index argument) :
    (state.setDebugLevel environment (some index)).1.settings =
        (state.settings.setDebugLevel (argument.headD 0)).1 ∧
      (state.setDebugLevel environment (some index)).2 =
        (state.settings.setDebugLevel (argument.headD 0)).2 := by
  obtain ⟨-, before, behind, rfl, whole⟩ := held
  have byte : state.command.toList.getD before.length 0 = argument.headD 0 := by
    rw [whole, List.append_assoc, List.getD_eq_getElem?_getD,
      List.getElem?_append_right (Nat.le_refl _), Nat.sub_self]
    cases argument <;> rfl
  rw [setDebugLevel, byte]
  exact ⟨rfl, by simp⟩

end CommandState

end AvrVoiceControl
