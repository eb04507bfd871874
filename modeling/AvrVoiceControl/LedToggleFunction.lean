import AvrVoiceControl.ReceivedFromCloud

set_option autoImplicit false

namespace AvrVoiceControl

open CString FlatJson Json

inductive Color where
  -- `customData.color` of the two devices that `on_sync` announces.
  | red | yellow
  deriving DecidableEq

def Color.name : Color -> List UInt8
  | .red => redKey
  | .yellow => yellowKey

structure Device where
  id : List UInt8
  color : Color

inductive Execution where
  | onOff (on : Bool)
  | unrecognized

structure Command where
  devices : List Device
  execution : List Execution

inductive Result where
  | success (id : List UInt8) (on : Bool)
  | error (id : List UInt8)
  deriving DecidableEq

def executeOne (device : Device) (state : List UInt8 × List Result) (execution : Execution) :
    List UInt8 × List Result :=
  match execution with
  | .onOff on =>
    (state.1 ++ (quoted device.color.name ++ [colon] ++ boolText on ++ [comma]),
      state.2 ++ [.success device.id on])
  | .unrecognized => (state.1, state.2 ++ [.error device.id])

def executeDevice (executions : List Execution) (state : List UInt8 × List Result)
    (device : Device) : List UInt8 × List Result :=
  executions.foldl (executeOne device) state

/-- The string handed to `send_config` and the reported results. The loop over the commands returns
at the end of its first turn; without a command nothing is sent. -/
def onExecute : List Command -> Option (List UInt8 × List Result)
  | [] => none
  | command :: _ =>
    let (config, results) := command.devices.foldl (executeDevice command.execution) ([], [])
    some ([openBrace] ++ config ++ [closeBrace], results)

def Execution.on? : Execution -> Option Bool
  | .onOff on => some on
  | .unrecognized => none

def pairs (command : Command) : List (Color × Bool) :=
  command.devices.flatMap fun device =>
    (command.execution.filterMap Execution.on?).map fun on => (device.color, on)

def pairText (pair : Color × Bool) : List UInt8 :=
  quoted pair.1.name ++ [colon] ++ boolText pair.2 ++ [comma]

def configText (command : Command) : List UInt8 :=
  [openBrace] ++ (pairs command).flatMap pairText ++ [closeBrace]

theorem executeDevice_config (executions : List Execution) (state : List UInt8 × List Result)
    (device : Device) :
    (executeDevice executions state device).1 =
      state.1 ++ ((executions.filterMap Execution.on?).map fun on =>
        (device.color, on)).flatMap pairText := by
  induction executions generalizing state with
  | nil => simp [executeDevice]
  | cons execution rest ih =>
    have step := ih (executeOne device state execution)
    simp only [executeDevice, List.foldl_cons] at step ⊢
    rw [step]
    cases execution with
    | onOff on => simp [executeOne, Execution.on?, pairText]
    | unrecognized => simp [executeOne, List.filterMap_cons, Execution.on?]

theorem onExecute_config (command : Command) (others : List Command) :
    ∃ results, onExecute (command :: others) = some (configText command, results) := by
  have devices (ds : List Device) (state : List UInt8 × List Result) :
      (ds.foldl (executeDevice command.execution) state).1 =
        state.1 ++ (ds.flatMap fun device =>
          (command.execution.filterMap Execution.on?).map fun on =>
            (device.color, on)).flatMap pairText := by
    induction ds generalizing state with
    | nil => simp
    | cons device rest ih =>
      rw [List.foldl_cons, ih, executeDevice_config, List.flatMap_cons, List.flatMap_append,
        List.append_assoc]
  refine ⟨(command.devices.foldl (executeDevice command.execution) ([], [])).2, ?_⟩
  simp only [onExecute, devices, List.nil_append]
  rfl

def payloadSize : Nat := 200

def mqttPayload (text : List UInt8) : Pointer :=
  text ++ List.replicate (payloadSize - text.length) 0

theorem color_plain (color : Color) : ∀ b ∈ color.name, Plain b := by
  cases color <;> exact plain_of_all _ (by decide)

theorem color_name_ne_nil (color : Color) : ∃ first rest, color.name = first :: rest := by
  cases color <;> exact ⟨_, _, rfl⟩

def pairMember (pair : Color × Bool) : Member where
  key := plainBytes pair.1.name (color_plain pair.1)
  value := .bool pair.2

theorem pairMember_key (pair : Color × Bool) (color : Color) :
    (pairMember pair).keyText = color.name ↔ pair.1 = color := by
  have names : ∀ a b : Color, a.name = b.name → a = b := by
    intro a b
    cases a <;> cases b <;> decide
  have key : (pairMember pair).keyText = pair.1.name := by simp [pairMember, Member.keyText]
  rw [key]
  exact ⟨names _ _, congrArg Color.name⟩

theorem pairText_eq (pair : Color × Bool) : pairText pair = (pairMember pair).text ++ [comma] := by
  simp [pairText, pairMember, Member.text, Member.keyText, Scalar.text, whites, quoted]

def firstOn (color : Color) (ps : List (Color × Bool)) : Option Bool :=
  (ps.find? fun p => p.1 = color).map Prod.snd

def lastOn (color : Color) (ps : List (Color × Bool)) : Option Bool :=
  firstOn color ps.reverse

theorem searchPair_end (key : List UInt8) (k : UInt8) (kNotNul : k ≠ 0) (separator : UInt8)
    (plain : Plain separator) (zeros : Pointer) :
    searchPair (k :: key) (separator :: closeBrace :: 0 :: 0 :: zeros) = some (.done none) := by
  -- Past the trailing comma the scanner runs onto the NUL and looks at the byte after it.
  have braced : Plain closeBrace := by decide
  have differ : ¬ (0 : UInt8) = k := fun same => kNotNul same.symm
  simp [searchPair, nextPair, jsonFindQuote_plain _ _ plain, jsonFindQuote_plain _ _ braced,
    startsWith, differ]

theorem searchPairs_config (color : Color) (ps : List (Color × Bool)) (separator : UInt8)
    (plain : Plain separator) (zeros : Pointer) (fuel : Nat) (enough : ps.length < fuel) :
    ∃ found, searchPairs color.name fuel
        (separator :: (ps.flatMap pairText ++ closeBrace :: 0 :: 0 :: zeros)) = some found ∧
      match firstOn color ps with
      | none => found = none
      | some on => ∃ after, found = some (boolText on ++ after) := by
  induction ps generalizing separator fuel with
  | nil =>
    obtain ⟨fuel, rfl⟩ : ∃ n, fuel = n + 1 := ⟨fuel - 1, by omega⟩
    obtain ⟨k, key, name⟩ := color_name_ne_nil color
    have kNotNul : k ≠ 0 := (color_plain color k (by simp [name])).1
    refine ⟨none, ?_, rfl⟩
    simp [searchPairs, name, searchPair_end key k kNotNul separator plain zeros]
  | cons p ps ih =>
    obtain ⟨fuel, rfl⟩ : ∃ n, fuel = n + 1 := ⟨fuel - 1, by omega⟩
    have turn := searchPair_member color.name (color_plain color) (pairMember p) [separator]
      (by simpa using plain) comma (ps.flatMap pairText ++ closeBrace :: 0 :: 0 :: zeros)
      (by decide) (by decide)
    obtain ⟨found, run, value⟩ := ih comma (by decide) fuel (by simpa using enough)
    have shape : separator :: ((p :: ps).flatMap pairText ++ closeBrace :: 0 :: 0 :: zeros) =
        [separator] ++ ((pairMember p).text ++
          comma :: (ps.flatMap pairText ++ closeBrace :: 0 :: 0 :: zeros)) := by
      simp [pairText_eq]
    rw [shape]
    simp only [List.cons_append, List.nil_append] at turn ⊢
    simp only [searchPairs, load_cons, Option.bind_eq_bind, Option.bind_some, plain.1, if_false,
      turn, pairMember_key, if_true]
    by_cases same : p.1 = color
    · simp only [same, if_true, firstOn, List.find?_cons, decide_true, Option.map_some]
      exact ⟨_, rfl, _, rfl⟩
    · simp only [same, if_false, firstOn, List.find?_cons, decide_false]
      exact ⟨found, run, value⟩

theorem jsonGetBool_config (color : Color) (ps : List (Color × Bool)) (zeros : Pointer) :
    jsonGetBool (openBrace :: (ps.flatMap pairText ++ closeBrace :: 0 :: 0 :: zeros)) color.name =
      some (firstOn color ps) := by
  have counted : ps.length ≤ (ps.flatMap pairText).length := by
    induction ps with
    | nil => simp
    | cons p ps ih =>
      simp only [List.length_cons, List.flatMap_cons, List.length_append, pairText, quoted] at ih ⊢
      omega
  obtain ⟨found, run, value⟩ := searchPairs_config color ps openBrace (by decide) zeros
    ((openBrace :: (ps.flatMap pairText ++ closeBrace :: 0 :: 0 :: zeros)).length + 1) (by
      simp only [List.length_cons, List.length_append]
      omega)
  simp only [jsonGetBool, jsonGetValue, run, Option.bind_eq_bind, Option.bind_some]
  cases first : firstOn color ps with
  | none =>
    rw [first] at value
    rw [value]
    rfl
  | some on =>
    rw [first] at value
    obtain ⟨after, rfl⟩ := value
    exact startsWith_value (.bool on) after

def Leds.level (leds : Leds) : Color -> Bool
  | .red => leds.red
  | .yellow => leds.yel

theorem mqttPayload_config (command : Command)
    (fits : (configText command).length < payloadSize - 1) :
    ∃ zeros, mqttPayload (configText command) =
      openBrace :: ((pairs command).flatMap pairText ++ closeBrace :: 0 :: 0 :: zeros) := by
  obtain ⟨n, room⟩ : ∃ n, payloadSize - (configText command).length = n + 2 :=
    ⟨payloadSize - (configText command).length - 2, by omega⟩
  refine ⟨List.replicate n 0, ?_⟩
  rw [mqttPayload, room]
  simp [configText, List.replicate_succ]

theorem receivedFromCloud_config (leds : Leds) (command : Command)
    (fits : (configText command).length < payloadSize - 1) :
    ∃ after text, receivedFromCloud leds (mqttPayload (configText command)) = some (after, text) ∧
      ∀ color, after.level color = (firstOn color (pairs command)).getD (leds.level color) := by
  obtain ⟨zeros, memory⟩ := mqttPayload_config command fits
  have red := jsonGetBool_config .red (pairs command) zeros
  have yellow := jsonGetBool_config .yellow (pairs command) zeros
  simp only [Color.name] at red yellow
  let after : Leds :=
    { red := (firstOn .red (pairs command)).getD leds.red
      yel := (firstOn .yellow (pairs command)).getD leds.yel }
  refine ⟨after, reportText after, ?_, ?_⟩
  · simp only [receivedFromCloud, memory, red, yellow, Option.bind_eq_bind, Option.bind_some,
      Option.pure_def]
    rfl
  · intro color
    cases color <;> rfl

theorem firstOn_flatMap (color : Color) (ds : List Device) (ons : List Bool) :
    firstOn color (ds.flatMap fun device => ons.map fun on => (device.color, on)) =
      if ∃ device ∈ ds, device.color = color then ons.head? else none := by
  induction ds with
  | nil => simp [firstOn]
  | cons device ds ih =>
    cases ons with
    | nil => simp [firstOn]
    | cons on ons =>
      by_cases same : device.color = color
      · simp [firstOn, same]
      · have skipped : (ons.map fun on => (device.color, on)).find? (fun p => p.1 = color) = none := by
          simp [same]
        simp only [firstOn, List.flatMap_cons, List.map_cons, List.cons_append, List.find?_cons,
          same, decide_false, List.find?_append, skipped, Option.none_or, List.mem_cons,
          exists_eq_or_imp, false_or] at ih ⊢
        exact ih

theorem lastOn_pairs (color : Color) (command : Command) :
    lastOn color (pairs command) =
      if ∃ device ∈ command.devices, device.color = color then
        (command.execution.filterMap Execution.on?).getLast? else none := by
  have backwards := firstOn_flatMap color command.devices.reverse
    (command.execution.filterMap Execution.on?).reverse
  simp only [List.mem_reverse, List.head?_reverse] at backwards
  rw [← backwards, lastOn, pairs, List.reverse_flatMap]
  simp only [Function.comp_def, List.map_reverse]

/-- What the results that `on_execute` reports promise: each LED has the value of the last pair
that names its colour, and an LED that no pair names keeps its value. -/
def LastPairWins (command : Command) (leds : Leds) : Prop :=
  ∃ config results, onExecute [command] = some (config, results) ∧
    ∃ after text, receivedFromCloud leds (mqttPayload config) = some (after, text) ∧
      ∀ color, after.level color = (lastOn color (pairs command)).getD (leds.level color)

def SameEnds (command : Command) : Prop :=
  command.devices = [] ∨ (command.execution.filterMap Execution.on?).head? =
    (command.execution.filterMap Execution.on?).getLast?

theorem lastPairWins_iff (command : Command) (leds : Leds)
    (fits : (configText command).length < payloadSize - 1) :
    LastPairWins command leds ↔ SameEnds command := by
  obtain ⟨results, executed⟩ := onExecute_config command []
  obtain ⟨after, text, received, levels⟩ := receivedFromCloud_config leds command fits
  have first (color : Color) := firstOn_flatMap color command.devices
    (command.execution.filterMap Execution.on?)
  constructor
  · rintro ⟨config, results', executed', after', text', received', last⟩
    obtain ⟨rfl, -⟩ : configText command = config ∧ results = results' := by
      simpa [executed] using executed'
    obtain ⟨rfl, -⟩ : after = after' ∧ text = text' := by simpa [received] using received'
    cases devices : command.devices with
    | nil => exact .inl devices
    | cons device rest =>
      right
      have named : ∃ d ∈ command.devices, d.color = device.color := ⟨device, by simp [devices], rfl⟩
      have agree := (levels device.color).symm.trans (last device.color)
      rw [lastOn_pairs, if_pos named, pairs, first, if_pos named] at agree
      cases ons : command.execution.filterMap Execution.on? with
      | nil => rfl
      | cons on ons =>
        rw [ons] at agree
        simpa [List.getLast?_cons] using agree
  · intro ends
    refine ⟨_, _, executed, after, text, received, ?_⟩
    intro color
    rw [levels color, lastOn_pairs, pairs, first]
    rcases ends with none | same
    · simp [none]
    · rw [same]

def onThenOff : Command where
  devices := [{ id := ascii ['1'], color := .red }]
  execution := [.onOff true, .onOff false]

theorem onThenOff_not_lastPairWins :
    (configText onThenOff).length < payloadSize - 1 ∧
      ¬ LastPairWins onThenOff { red := false, yel := false } := by
  have fits : (configText onThenOff).length < payloadSize - 1 := by decide
  obtain ⟨after, text, received, levels⟩ :=
    receivedFromCloud_config { red := false, yel := false } onThenOff fits
  obtain ⟨results, executed⟩ := onExecute_config onThenOff []
  refine ⟨fits, ?_⟩
  rintro ⟨config, results', executed', after', text', received', last⟩
  obtain ⟨rfl, -⟩ : configText onThenOff = config ∧ results = results' := by
    simpa [executed] using executed'
  obtain ⟨rfl, -⟩ : after = after' ∧ text = text' := by simpa [received] using received'
  have lit := levels .red
  have dark := last .red
  rw [lit] at dark
  exact absurd dark (by decide)

theorem lastPairWins_iff_onThenOff :
    (configText onThenOff).length < payloadSize - 1 ∧
      (LastPairWins onThenOff { red := false, yel := false } ↔ SameEnds onThenOff) :=
  ⟨by decide, lastPairWins_iff onThenOff _ (by decide)⟩

end AvrVoiceControl
