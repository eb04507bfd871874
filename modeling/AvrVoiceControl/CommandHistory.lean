import AvrVoiceControl.WifiCommand

set_option autoImplicit false

namespace AvrVoiceControl

open CString

namespace Settings

def effect (settings : Settings) (environment : CommandEnvironment) (argument : List UInt8) :
    CliCommand -> Settings × List CommandEvent
  | .reset => (settings, resetCmd)
  | .reconnect => (settings, reconnectCmd)
  | .wifi => settings.storeWifi (credentialsOf argument)
  | .key => (settings, environment.getPublicKey)
  | .device => (settings, environment.getDeviceId)
  | .cliVersion => (settings, getCliVersion)
  | .version => (settings, getFirmwareVersion)
  | .debug => settings.setDebugLevel (argument.headD 0)

def lineEffect (settings : Settings) (environment : CommandEnvironment) (line : ShortLine) :
    Settings × List CommandEvent :=
  match commands.find? fun entry => entry.1 == CommandState.word line with
  | some (_, command) => settings.effect environment (CommandState.argumentOf line) command
  | none => (settings, [.printed unknownCmdMsg])

theorem nullDereference_not_mem_save (settings : Settings) :
    CommandEvent.nullDereference ∉ settings.save.2 := by
  unfold save
  split <;> simp

theorem nullDereference_not_mem_effect (settings : Settings) (environment : CommandEnvironment)
    (argument : List UInt8) (command : CliCommand) :
    CommandEvent.nullDereference ∉ (settings.effect environment argument command).2 := by
  cases command with
  | wifi =>
    simp only [effect, storeWifi]
    split
    case h_1 => exact nullDereference_not_mem_save _
    case h_2 => exact nullDereference_not_mem_save _
    case h_3 => simp
  | debug =>
    simp only [effect, setDebugLevel]
    split <;> simp
  | reset | reconnect | key | device | cliVersion | version =>
    simp [effect, resetCmd, reconnectCmd, CommandEnvironment.getPublicKey,
      CommandEnvironment.getDeviceId, getCliVersion, getFirmwareVersion]

theorem nullDereference_not_mem_lineEffect (settings : Settings) (environment : CommandEnvironment)
    (line : ShortLine) :
    CommandEvent.nullDereference ∉ (settings.lineEffect environment line).2 := by
  unfold lineEffect
  split
  case h_1 => exact nullDereference_not_mem_effect settings environment _ _
  case h_2 => simp

end Settings

namespace CommandState

def debugWord : List UInt8 := ascii ['d', 'e', 'b', 'u', 'g']

theorem handler_argument (environment : CommandEnvironment) {state : CommandState} {index : Nat}
    {argument : List UInt8} (held : Holds state.command index argument) (command : CliCommand) :
    (state.handler environment (some index) command).1.settings =
        (state.settings.effect environment argument command).1 ∧
      (state.handler environment (some index) command).2 =
        (state.settings.effect environment argument command).2 := by
  cases command with
  | wifi => exact setWifiAuth_argument held
  | debug => exact setDebugLevel_argument environment held
  | reset | reconnect | key | device | cliVersion | version => exact ⟨rfl, rfl⟩

theorem commands_find {name : List UInt8} {entry : List UInt8 × CliCommand}
    (found : commands.find? (fun entry => entry.1 == name) = some entry) :
    entry.1 = name ∧ entry ∈ commands := by
  have same := List.find?_some found
  exact ⟨by simpa using same, List.mem_of_find?_eq_some found⟩

theorem processLine_effect (environment : CommandEnvironment) (state : CommandState)
    {line : ShortLine} (argued : line.val ≠ wifiWord ∧ line.val ≠ debugWord) :
    (state.processLine environment line).1.settings =
        (state.settings.lineEffect environment line).1 ∧
      (state.processLine environment line).2 = (state.settings.lineEffect environment line).2 := by
  by_cases spaced : space ∈ line.val
  next =>
    obtain ⟨command, wordHeld, held, processed⟩ := processLine_argument state spaced
    rw [processed, dispatch, Settings.lineEffect, wordHeld.stringAt_eq]
    cases commands.find? fun entry => entry.1 == word line with
    | none => exact ⟨rfl, rfl⟩
    | some entry => exact handler_argument environment held entry.2
  next =>
    obtain ⟨command, wordHeld, whole, processed⟩ := processLine_bare state spaced
    rw [processed, dispatch, Settings.lineEffect, wordHeld.stringAt_eq]
    cases known : commands.find? fun entry => entry.1 == word line with
    | none => exact ⟨rfl, rfl⟩
    | some entry =>
      obtain ⟨name, found⟩ := entry
      obtain ⟨same, member⟩ := commands_find known
      rw [whole] at same
      cases found with
      | wifi =>
        have bare : name = wifiWord := by
          revert member
          simp [commands, wifiWord]
        exact absurd (same.symm.trans bare) argued.1
      | debug =>
        have bare : name = debugWord := by
          revert member
          simp [commands, debugWord]
        exact absurd (same.symm.trans bare) argued.2
      | reset | reconnect | key | device | cliVersion | version => exact ⟨rfl, rfl⟩

def after (environment : CommandEnvironment) (start : Settings) (history : List ShortLine) :
    CommandState :=
  (Machine.run (processLine environment) (boot start) history).1

/-- The line does the same after any two histories that left the same settings, and its handler has
the argument it reads. -/
structure OwnLine (environment : CommandEnvironment) (line : ShortLine) : Prop where
  same : ∀ (start otherStart : Settings) (history otherHistory : List ShortLine),
    (after environment start history).settings = (after environment otherStart otherHistory).settings ->
      ((after environment start history).processLine environment line).1.settings =
          ((after environment otherStart otherHistory).processLine environment line).1.settings ∧
        ((after environment start history).processLine environment line).2 =
          ((after environment otherStart otherHistory).processLine environment line).2
  argued : ∀ (start : Settings) (history : List ShortLine), CommandEvent.nullDereference ∉
    ((after environment start history).processLine environment line).2

def twoParameters : ShortLine := ⟨wifiWord ++ [32, 97, 44, 98], by decide⟩

def fiveParameters : ShortLine :=
  ⟨wifiWord ++ [32, 97, 44, 98, 44, 99, 44, 100, 44, 101], by decide⟩

def bareWifi : ShortLine := ⟨wifiWord, by decide⟩

theorem dispatch_wifi {state : CommandState} {argument : Option Nat}
    (word : stringAt state.command 0 = wifiWord) (environment : CommandEnvironment) :
    dispatch environment state argument = state.setWifiAuth argument := by
  have known : commands.find? (fun entry => entry.1 == wifiWord) = some (wifiWord, .wifi) := by
    decide
  rw [dispatch, word]
  simp only [known, handler]

theorem processLine_wifi (state : CommandState) {line : ShortLine} (wifi : word line = wifiWord)
    (environment other : CommandEnvironment) :
    processLine environment state line = processLine other state line := by
  by_cases spaced : space ∈ line.val
  next =>
    obtain ⟨command, wordHeld, -, processed⟩ := processLine_argument state spaced
    have string := wordHeld.stringAt_eq.trans wifi
    rw [processed environment, processed other, dispatch_wifi string, dispatch_wifi string]
  next =>
    obtain ⟨command, wordHeld, -, processed⟩ := processLine_bare state spaced
    have string := wordHeld.stringAt_eq.trans wifi
    rw [processed environment, processed other, dispatch_wifi string, dispatch_wifi string]

theorem after_single (environment : CommandEnvironment) {line : ShortLine}
    (wifi : word line = wifiWord) :
    after environment cleared [line] = after bareEnvironment cleared [line] := by
  simp only [after, Machine.run_cons, Machine.run_nil,
    processLine_wifi (boot cleared) wifi environment bareEnvironment]

theorem same_settings (environment : CommandEnvironment) :
    (after environment cleared [twoParameters]).settings =
      (after environment cleared [fiveParameters]).settings := by
  have two := (@processLine_effect environment (boot cleared) twoParameters (by decide)).1
  have five := (@processLine_effect environment (boot cleared) fiveParameters (by decide)).1
  have known : commands.find? (fun entry => entry.1 == wifiWord) = some (wifiWord, .wifi) := by
    decide
  have twoTokens : credentialsOf (argumentOf twoParameters) = [[97], [98]] := by decide
  have fiveTokens : credentialsOf (argumentOf fiveParameters) = [[97], [98], [99]] := by decide
  have twoWord : word twoParameters = wifiWord := by decide
  have fiveWord : word fiveParameters = wifiWord := by decide
  simp only [Settings.lineEffect, twoWord, known, Settings.effect, twoTokens] at two
  simp only [Settings.lineEffect, fiveWord, known, Settings.effect, fiveTokens] at five
  simp only [after, Machine.run_cons, Machine.run_nil, two, five]
  rfl

theorem bareWifi_not_ownLine (environment : CommandEnvironment) :
    ¬OwnLine environment bareWifi := by
  intro own
  have events := (own.same cleared cleared [twoParameters] [fiveParameters]
    (same_settings environment)).2
  have bare : word bareWifi = wifiWord := by decide
  rw [after_single environment (by decide : word twoParameters = wifiWord),
    after_single environment (by decide : word fiveParameters = wifiWord),
    processLine_wifi _ bare environment bareEnvironment,
    processLine_wifi _ bare environment bareEnvironment] at events
  have refused : ((after bareEnvironment cleared [twoParameters]).processLine bareEnvironment
      bareWifi).2 =
        [.printed "Error. Wi-Fi command format is wifi <ssid>[,<pass>].\r\n\x04"] := by
    decide +kernel
  have stored : ((after bareEnvironment cleared [fiveParameters]).processLine bareEnvironment
      bareWifi).2 = [.printed "OK\r\n\x04"] := by
    decide +kernel
  rw [refused, stored] at events
  revert events
  decide

theorem bareDebug_not_ownLine (environment : CommandEnvironment) {line : ShortLine}
    (debug : line.val = debugWord) : ¬OwnLine environment line := by
  intro own
  have bare : space ∉ line.val := by
    rw [debug]
    decide
  obtain ⟨command, wordHeld, whole, processed⟩ :=
    processLine_bare (after environment cleared []) bare
  have known : commands.find? (fun entry => entry.1 == debugWord) = some (debugWord, .debug) := by
    decide
  apply own.argued cleared []
  rw [processed, dispatch]
  simp only [wordHeld.stringAt_eq, whole, debug, known, handler, setDebugLevel]
  simp

theorem ownLine_iff (environment : CommandEnvironment) (line : ShortLine) :
    OwnLine environment line ↔ line.val ≠ wifiWord ∧ line.val ≠ debugWord := by
  constructor
  next =>
    intro own
    constructor
    next =>
      intro wifi
      obtain rfl : line = bareWifi := Subtype.ext wifi
      exact bareWifi_not_ownLine environment own
    next =>
      intro debug
      exact bareDebug_not_ownLine environment debug own
  next =>
    intro argued
    constructor
    case same =>
      intro start otherStart history otherHistory settings
      obtain ⟨first, firstEvents⟩ :=
        processLine_effect environment (after environment start history) argued
      obtain ⟨second, secondEvents⟩ :=
        processLine_effect environment (after environment otherStart otherHistory) argued
      rw [first, second, firstEvents, secondEvents, settings]
      exact ⟨rfl, rfl⟩
    case argued =>
      intro start history
      rw [(processLine_effect environment (after environment start history) argued).2]
      exact Settings.nullDereference_not_mem_lineEffect _ environment line

theorem bareWifi_takes_leftover : ¬OwnLine bareEnvironment bareWifi :=
  bareWifi_not_ownLine bareEnvironment

end CommandState

end AvrVoiceControl
