import AvrVoiceControl.CommandReceived

set_option autoImplicit false

namespace AvrVoiceControl

open CString

variable {array : Vector UInt8 maxWifiCredentialsLength}

theorem toList_storeCredential (array : Vector UInt8 maxWifiCredentialsLength)
    (credential : List UInt8) :
    (storeCredential array credential).toList = copyCredential array credential := by
  simp [storeCredential, Vector.toList]

theorem text_copyCredential {credential string : List UInt8} (nulFree : 0 ∉ credential)
    (short : credential.length < maxWifiCredentialsLength) :
    text (copyCredential array credential) = some string ↔
      string = credential ∧ LeavesNul array credential := by
  have size : maxWifiCredentialsLength = 31 := rfl
  have last : array.toList.drop (maxWifiCredentialsLength - 1) =
      [array[maxWifiCredentialsLength - 1]] := by
    rw [List.drop_eq_getElem_cons (by simp)]
    simp
  have whole : copyCredential array credential =
      credential ++ (List.replicate (30 - credential.length) 0 ++
        [array[maxWifiCredentialsLength - 1]]) := by
    rw [copyCredential, strncpy, last, List.take_append,
      List.take_of_length_le (by omega), List.take_replicate, List.append_assoc]
    congr 3
    omega
  have terminated : LeavesNul array credential ->
      text (copyCredential array credential) = some credential := by
    intro leaves
    rw [text_eq_some, whole, List.prefix_append_right_inj]
    refine ⟨nulFree, ?_⟩
    by_cases padded : credential.length < 30
    next =>
      obtain ⟨more, count⟩ := Nat.exists_eq_add_of_lt padded
      have positive : 30 - credential.length = more + 1 := by omega
      simp [positive, List.replicate_succ]
    next =>
      have full : 30 - credential.length = 0 := by omega
      have final := leaves.resolve_left padded
      rw [full, final]
      simp
  constructor
  next =>
    intro string_eq
    have leaves : LeavesNul array credential := by
      rw [← copyCredential_fits nulFree]
      refine ⟨string, string_eq, ?_⟩
      simpa using text_length string_eq
    rw [terminated leaves] at string_eq
    exact ⟨(Option.some.inj string_eq).symm, leaves⟩
  next =>
    rintro ⟨rfl, leaves⟩
    exact terminated leaves

structure Typed (credential : List UInt8) : Prop where
  nonempty : credential ≠ []
  fits : credential.length < maxWifiCredentialsLength
  characters : ∀ byte ∈ credential, byte ≠ 0 ∧ byte ≠ comma ∧ byte ≠ carriageReturn ∧ byte ≠ newline
  unspaced : credential.head? ≠ some space

theorem Typed.nulFree {credential : List UInt8} (typed : Typed credential) : 0 ∉ credential :=
  fun member => (typed.characters 0 member).1 rfl

abbrev TypedCredential := { credential : List UInt8 // Typed credential }

def typedParameters (ssid : TypedCredential) (pass : Option TypedCredential) : List UInt8 :=
  ssid.val ++ match pass with
    | some pass => comma :: pass.val
    | none => []

theorem typedParameters_fit (ssid : TypedCredential) (pass : Option TypedCredential) :
    (typedParameters ssid pass).length ≤ 61 ∧ 0 ∉ typedParameters ssid pass := by
  have size : maxWifiCredentialsLength = 31 := rfl
  have ssidFits := ssid.property.fits
  have ssidNul := ssid.property.nulFree
  cases pass with
  | none =>
    simp only [typedParameters, List.append_nil]
    exact ⟨by omega, ssidNul⟩
  | some pass =>
    have passFits := pass.property.fits
    have passNul := pass.property.nulFree
    have comma_ne : (0 : UInt8) ≠ comma := by decide
    simp only [typedParameters, List.length_append, List.length_cons, List.mem_append,
      List.mem_cons, ssidNul, passNul, comma_ne, or_self, not_false_eq_true, and_true]
    omega

/-- `wifi <s>` or `wifi <s>,<p>` -/
def wifiLine (ssid : TypedCredential) (pass : Option TypedCredential) : ShortLine :=
  ⟨wifiWord ++ space :: typedParameters ssid pass, by
    obtain ⟨fits, nulFree⟩ := typedParameters_fit ssid pass
    have wordLength : wifiWord.length = 4 := rfl
    have wordNul : 0 ∉ wifiWord := by decide
    have space_ne : (0 : UInt8) ≠ space := by decide
    have room : maxCommandSize = 100 := rfl
    simp only [List.length_append, List.length_cons, List.mem_append, List.mem_cons, wordNul,
      space_ne, nulFree, or_self, not_false_eq_true, and_true, wordLength]
    omega⟩

def StoresTyped (credentials : WifiCredentials) (ssid : TypedCredential)
    (pass : Option TypedCredential) : Prop :=
  text credentials.ssid.toList = some ssid.val ∧
    text credentials.pass.toList = some ((pass.map (·.val)).getD []) ∧
    text credentials.authType.toList = some (if pass.isSome then ascii ['2'] else ascii ['1'])

/-- The parameters have no NUL to find behind 30 characters, and the password has no space. -/
def TypedFits (credentials : WifiCredentials) (ssid : TypedCredential)
    (pass : Option TypedCredential) : Prop :=
  LeavesNul credentials.ssid ssid.val ∧
    ∀ typed, pass = some typed -> space ∉ typed.val ∧ LeavesNul credentials.pass typed.val

theorem strtok_eq {delimiters : List UInt8} {token rest : List UInt8} (nonempty : token ≠ [])
    (plain : ∀ byte ∈ token, byte ∉ delimiters)
    (ends : rest = [] ∨ ∃ delimiter later, rest = delimiter :: later ∧ delimiter ∈ delimiters) :
    strtok delimiters (token ++ rest) = some (token, rest.drop 1) := by
  obtain ⟨first, more, rfl⟩ := List.exists_cons_of_ne_nil nonempty
  have stays : (first :: more ++ rest).dropWhile (· ∈ delimiters) = first :: (more ++ rest) := by
    simp [plain first (by simp)]
  have letters : ∀ byte ∈ first :: more, decide (byte ∉ delimiters) = true := by
    intro byte member
    simpa using plain byte member
  have stops : rest.takeWhile (· ∉ delimiters) = [] ∧ rest.dropWhile (· ∉ delimiters) = rest := by
    rcases ends with rfl | ⟨delimiter, later, rfl, known⟩
    next => exact ⟨rfl, rfl⟩
    next => simp [known]
  simp only [strtok, stays]
  rw [← List.cons_append, List.takeWhile_append_of_pos letters,
    List.dropWhile_append_of_pos letters, stops.1, stops.2, List.append_nil]

theorem credentialsOf_open (ssid : TypedCredential) :
    credentialsOf (typedParameters ssid none) = [ssid.val] := by
  have plain : ∀ byte ∈ ssid.val, byte ∉ [comma] := by
    intro byte member
    simpa using (ssid.property.characters byte member).2.1
  have token := strtok_eq ssid.property.nonempty plain (Or.inl rfl)
  have nulFree : ssid.val.takeWhile (· ≠ 0) = ssid.val := by
    rw [List.takeWhile_eq_self_iff]
    intro byte member
    simpa using ne_of_mem_of_not_mem member ssid.property.nulFree
  rw [List.append_nil] at token
  simp only [credentialsOf, typedParameters, List.append_nil, nulFree, token]
  rfl

theorem credentialsOf_psk (ssid pass : TypedCredential) :
    ∃ more, credentialsOf (typedParameters ssid (some pass)) =
      ssid.val :: pass.val.takeWhile (· ≠ space) :: more := by
  have plain : ∀ byte ∈ ssid.val, byte ∉ [comma] := by
    intro byte member
    simpa using (ssid.property.characters byte member).2.1
  have token := strtok_eq ssid.property.nonempty plain
    (Or.inr ⟨comma, pass.val, rfl, List.mem_singleton_self comma⟩)
  have nulFree : (typedParameters ssid (some pass)).takeWhile (· ≠ 0) =
      typedParameters ssid (some pass) := by
    rw [List.takeWhile_eq_self_iff]
    intro byte member
    simpa using ne_of_mem_of_not_mem member (typedParameters_fit ssid (some pass)).2
  have nonempty : pass.val.takeWhile (· ≠ space) ≠ [] := by
    obtain ⟨first, more, whole⟩ := List.exists_cons_of_ne_nil pass.property.nonempty
    have unspaced := pass.property.unspaced
    rw [whole] at unspaced ⊢
    have other : first ≠ space := by simpa using unspaced
    simp [other]
  have passPlain : ∀ byte ∈ pass.val.takeWhile (· ≠ space), byte ∉ [comma, space] := by
    intro byte member
    have unspaced : byte ≠ space := by simpa using List.mem_takeWhile_imp member
    have uncomma := (pass.property.characters byte (List.takeWhile_subset _ member)).2.1
    simp [uncomma, unspaced]
  have ends : pass.val.dropWhile (· ≠ space) = [] ∨ ∃ delimiter later,
      pass.val.dropWhile (· ≠ space) = delimiter :: later ∧ delimiter ∈ [comma, space] := by
    cases rest : pass.val.dropWhile (· ≠ space) with
    | nil => exact Or.inl rfl
    | cons byte later =>
      have stopped := List.head?_dropWhile_not (· ≠ space) pass.val
      rw [rest] at stopped
      have last : byte = space := by simpa using stopped
      exact Or.inr ⟨byte, later, rfl, by simp [last]⟩
  have second := strtok_eq nonempty passPlain ends
  rw [List.takeWhile_append_dropWhile] at second
  rw [credentialsOf, nulFree, typedParameters, token]
  simp only [List.drop_one, List.tail_cons, wifiParams, second]
  exact ⟨_, rfl⟩

theorem save_credentials (settings : Settings) :
    settings.save.1.credentials = settings.credentials := by
  unfold Settings.save
  split <;> rfl

theorem word_wifiLine (ssid : TypedCredential) (pass : Option TypedCredential) :
    space ∈ (wifiLine ssid pass).val ∧ CommandState.word (wifiLine ssid pass) = wifiWord ∧
      CommandState.argumentOf (wifiLine ssid pass) = typedParameters ssid pass := by
  have letters : ∀ byte ∈ wifiWord, decide (byte ≠ space) = true :=
    List.all_eq_true.mp (by decide : wifiWord.all (fun byte => byte ≠ space) = true)
  refine ⟨by simp [wifiLine], ?_, ?_⟩
  · rw [CommandState.word, wifiLine, List.takeWhile_append_of_pos letters]
    simp
  · rw [CommandState.argumentOf, wifiLine, List.dropWhile_append_of_pos letters]
    simp

theorem processLine_wifiLine (environment : CommandEnvironment) (state : CommandState)
    (ssid : TypedCredential) (pass : Option TypedCredential) :
    (state.processLine environment (wifiLine ssid pass)).1.settings =
      (state.settings.storeWifi (credentialsOf (typedParameters ssid pass))).1 := by
  obtain ⟨spaced, word, argument⟩ := word_wifiLine ssid pass
  obtain ⟨command, wordHeld, held, processed⟩ :=
    CommandState.processLine_argument state spaced
  rw [word] at wordHeld held processed
  rw [argument] at held
  have known : commands.find? (fun entry => entry.1 == wifiWord) = some (wifiWord, .wifi) := by
    decide
  rw [processed, CommandState.dispatch]
  simp only [wordHeld.stringAt_eq, known, CommandState.handler]
  exact (CommandState.setWifiAuth_argument held).1

theorem wifiCommand_stores_iff (environment : CommandEnvironment) (state : CommandState)
    (ssid : TypedCredential) (pass : Option TypedCredential) :
    StoresTyped (state.processLine environment (wifiLine ssid pass)).1.settings.credentials ssid
        pass ↔
      TypedFits state.settings.credentials ssid pass := by
  rw [processLine_wifiLine]
  have first := @text_copyCredential state.settings.credentials.ssid ssid.val ssid.val
    ssid.property.nulFree ssid.property.fits
  cases pass with
  | none =>
    have emptied : text (state.settings.credentials.pass.set 0 0).toList = some [] := by
      rw [Vector.toList_set, text_eq_some]
      cases whole : state.settings.credentials.pass.toList with
      | nil => simpa using congrArg List.length whole
      | cons byte rest => simp
    have digit : text (#v[49, 0] : Vector UInt8 2).toList = some (ascii ['1']) := by decide
    simp only [credentialsOf_open, Settings.storeWifi, save_credentials, StoresTyped, TypedFits,
      toList_storeCredential, first, emptied, digit]
    simp
  | some pass =>
    obtain ⟨more, parameters⟩ := credentialsOf_psk ssid pass
    have digit : text (#v[50, 0] : Vector UInt8 2).toList = some (ascii ['2']) := by decide
    have partFree : 0 ∉ pass.val.takeWhile (· ≠ space) :=
      fun member => pass.property.nulFree (List.takeWhile_subset _ member)
    have partFits : (pass.val.takeWhile (· ≠ space)).length < maxWifiCredentialsLength :=
      Nat.lt_of_le_of_lt (List.takeWhile_sublist _).length_le pass.property.fits
    have second := @text_copyCredential state.settings.credentials.pass _ pass.val partFree partFits
    have whole : pass.val = pass.val.takeWhile (· ≠ space) ↔ space ∉ pass.val := by
      rw [eq_comm, List.takeWhile_eq_self_iff]
      constructor
      next =>
        intro letters member
        simpa using letters space member
      next =>
        intro unspaced byte member
        simpa using ne_of_mem_of_not_mem member unspaced
    have leaves : pass.val = pass.val.takeWhile (· ≠ space) ->
        (LeavesNul state.settings.credentials.pass (pass.val.takeWhile (· ≠ space)) ↔
          LeavesNul state.settings.credentials.pass pass.val) := by
      intro same
      rw [← same]
    simp only [parameters, Settings.storeWifi, save_credentials, StoresTyped, TypedFits,
      toList_storeCredential, first, digit, Option.map_some, Option.getD_some, second]
    simp only [Option.isSome_some, if_true, and_true, true_and, Option.some.injEq, forall_eq']
    rw [← whole]
    exact and_congr_right fun _ => and_congr_right leaves

def cleared : Settings where
  credentials := ⟨Vector.replicate _ 0, Vector.replicate _ 0, Vector.replicate _ 0⟩
  eeprom := fun _ => 0
  debugSeverity := 0

def bareEnvironment : CommandEnvironment := ⟨none, none, 0⟩

def shortSsid : TypedCredential :=
  ⟨[97], by decide, by decide, List.forall_iff_forall_mem.mp (by decide), by decide⟩

def spacedPassword : TypedCredential :=
  ⟨[98, space, 99], by decide, by decide, List.forall_iff_forall_mem.mp (by decide), by decide⟩

theorem wifiCommand_cutsPassword :
    ¬StoresTyped ((CommandState.boot cleared).processLine bareEnvironment
      (wifiLine shortSsid (some spacedPassword))).1.settings.credentials shortSsid
        (some spacedPassword) := by
  unfold StoresTyped
  decide +kernel

end AvrVoiceControl
