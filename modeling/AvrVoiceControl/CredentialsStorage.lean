import AvrVoiceControl.Library.CString
import Mathlib.Data.List.TakeWhile

set_option autoImplicit false

namespace AvrVoiceControl

open CString

abbrev maxWifiCredentialsLength : Nat := 31

abbrev eepromSsid : Nat := 0
abbrev eepromPsw : Nat := eepromSsid + maxWifiCredentialsLength
abbrev eepromSec : Nat := eepromPsw + maxWifiCredentialsLength
abbrev eepromDbg : Nat := eepromSec + 1

abbrev Eeprom := Nat -> UInt8

namespace Eeprom

def writeByte (eeprom : Eeprom) (addr : Nat) (byte : UInt8) : Eeprom :=
  fun a => if a = addr then byte else eeprom a

/-- `while (i--) eeprom_write_byte(addr++, *buf++)`; reading behind the array is `none`. -/
def writeBytes : Nat -> Nat -> Pointer -> Eeprom -> Option Eeprom
  | 0, _, _, eeprom => some eeprom
  | i + 1, addr, buf, eeprom =>
    match buf with
    | [] => none
    | byte :: rest => writeBytes i (addr + 1) rest (eeprom.writeByte addr byte)

def readBytes (eeprom : Eeprom) : Nat -> Nat -> List UInt8
  | 0, _ => []
  | i + 1, addr => eeprom addr :: readBytes eeprom i (addr + 1)

end Eeprom

def credentialsStorageRead (eeprom : Eeprom) : List UInt8 × List UInt8 × UInt8 :=
  (eeprom.readBytes maxWifiCredentialsLength eepromSsid,
    eeprom.readBytes maxWifiCredentialsLength eepromPsw, eeprom eepromSec)

/-- `i = strlen(buf) + 1` is a byte. -/
def writeString (addr : Nat) (buf : Pointer) (eeprom : Eeprom) : Option Eeprom := do
  let string ← text buf
  eeprom.writeBytes (UInt8.ofNat (string.length + 1)).toNat addr buf

def credentialsStorageSave (ssidbuf passwordbuf : Pointer) (sec : UInt8) (eeprom : Eeprom) :
    Option Eeprom := do
  let eeprom ← writeString eepromSsid ssidbuf eeprom
  let eeprom ← writeString eepromPsw passwordbuf eeprom
  some (eeprom.writeByte eepromSec sec)

/-- What a caller of `CREDENTIALS_STORAGE_save` passes. -/
structure Credentials where
  ssidbuf : Pointer
  passwordbuf : Pointer
  sec : UInt8

structure WifiCredentials where
  ssid : Vector UInt8 maxWifiCredentialsLength
  pass : Vector UInt8 maxWifiCredentialsLength
  authType : Vector UInt8 2

abbrev wifiParamsPskCnt : Nat := 2

/-- The loop over `strtok` in `set_wifi_auth`, which takes at most `count` more parameters. -/
def wifiParams : Nat -> List UInt8 -> List (List UInt8)
  | 0, _ => []
  | count + 1, from' =>
    -- `strtok(NULL, ", ")`
    match strtok [44, 32] from' with
    | none => []
    | some (pch, later) => pch :: wifiParams count later

def credentialsOf (argument : Pointer) : List (List UInt8) :=
  match strtok [44] (argument.takeWhile (· ≠ 0)) with
  | none => []
  | some (pch, later) => pch :: wifiParams wifiParamsPskCnt later

def copyCredential (array : Vector UInt8 maxWifiCredentialsLength) (credential : List UInt8) :
    List UInt8 :=
  strncpy array.toList credential (maxWifiCredentialsLength - 1)

def setWifiAuth (credentials : WifiCredentials) (argument : Pointer) : Option Credentials :=
  match credentialsOf argument with
  | [ssid] =>
    -- `strcpy(pass, "\0")` and `strcpy(authType, "1")`
    some ⟨copyCredential credentials.ssid ssid, 0 :: credentials.pass.toList.drop 1, 49⟩
  | ssid :: pass :: _ =>
    some ⟨copyCredential credentials.ssid ssid, copyCredential credentials.pass pass, 50⟩
  | [] => none

abbrev m2mMaxSsidLen : Nat := 33
abbrev m2mMaxPskLen : Nat := 65
abbrev m2mSuccess : UInt8 := 0

structure ProvisionInfo where
  au8SSID : Vector UInt8 m2mMaxSsidLen
  au8Password : Vector UInt8 m2mMaxPskLen
  u8SecType : UInt8
  u8Status : UInt8

def itoa (value : UInt8) : List UInt8 :=
  ascii (Nat.toDigits 10 value.toNat)

/-- What `wifiCallback` saves of M2M_WIFI_RESP_PROVISION_INFO. -/
def provisionInfo (info : ProvisionInfo) : Option Credentials :=
  if info.u8Status = m2mSuccess then
    some ⟨info.au8SSID.toList, info.au8Password.toList, (itoa info.u8SecType).headD 0⟩
  else none

inductive CredentialsCaller
  | setWifiAuth (credentials : WifiCredentials) (argument : Pointer)
  | wifiCallback (info : ProvisionInfo)

namespace CredentialsCaller

def passes : CredentialsCaller -> Option Credentials
  | .setWifiAuth credentials argument => AvrVoiceControl.setWifiAuth credentials argument
  | .wifiCallback info => provisionInfo info

end CredentialsCaller

/-- A read after the save gives back the strings and the digit, and the save leaves the stored debug
severity as it was. -/
def Survives (eeprom : Eeprom) (credentials : Credentials) : Prop :=
  match credentialsStorageSave credentials.ssidbuf credentials.passwordbuf credentials.sec eeprom with
  | none => False
  | some saved =>
    let (ssidbuf, passwordbuf, sec) := credentialsStorageRead saved
    (text ssidbuf).isSome ∧ text ssidbuf = text credentials.ssidbuf ∧
      (text passwordbuf).isSome ∧ text passwordbuf = text credentials.passwordbuf ∧
      sec = credentials.sec ∧ saved eepromDbg = eeprom eepromDbg

instance (eeprom : Eeprom) (credentials : Credentials) : Decidable (Survives eeprom credentials) := by
  unfold Survives
  split <;> infer_instance

namespace Eeprom

variable {eeprom saved : Eeprom}

@[simp] theorem readBytes_length (eeprom : Eeprom) (i addr : Nat) :
    (eeprom.readBytes i addr).length = i := by
  induction i generalizing addr with
  | zero => rfl
  | succ i ih => simp [readBytes, ih]

theorem readBytes_add (eeprom : Eeprom) (i j addr : Nat) :
    eeprom.readBytes (i + j) addr = eeprom.readBytes i addr ++ eeprom.readBytes j (addr + i) := by
  induction i generalizing addr with
  | zero => simp [readBytes]
  | succ i ih => simp [readBytes, Nat.succ_add, ih, ← Nat.add_assoc]

theorem readBytes_congr (i : Nat) {addr : Nat}
    (same : ∀ a, addr ≤ a -> a < addr + i -> saved a = eeprom a) :
    saved.readBytes i addr = eeprom.readBytes i addr := by
  induction i generalizing addr with
  | zero => rfl
  | succ i ih =>
    have first := same addr (Nat.le_refl _) (by omega)
    have later := @ih (addr + 1) fun a low high => same a (by omega) (by omega)
    simp [readBytes, first, later]

theorem writeBytes_append (bytes rest : List UInt8) (addr : Nat) (eeprom : Eeprom) :
    ∃ saved, eeprom.writeBytes bytes.length addr (bytes ++ rest) = some saved ∧
      saved.readBytes bytes.length addr = bytes ∧
      ∀ a, a < addr ∨ addr + bytes.length ≤ a -> saved a = eeprom a := by
  induction bytes generalizing addr eeprom with
  | nil => exact ⟨eeprom, rfl, rfl, fun _ _ => rfl⟩
  | cons byte bytes ih =>
    obtain ⟨saved, written, read, frame⟩ := ih (addr + 1) (eeprom.writeByte addr byte)
    have first : saved addr = byte := by
      rw [frame addr (by omega)]
      simp [writeByte]
    refine ⟨saved, written, ?_, fun a outside => ?_⟩
    · simp [readBytes, first, read]
    · simp only [List.length_cons] at outside
      rw [frame a (by omega), writeByte, if_neg (by omega)]

end Eeprom

theorem writeString_text {buf : Pointer} {string : List UInt8} (points : text buf = some string)
    (short : string.length < maxWifiCredentialsLength) (addr : Nat) (eeprom : Eeprom) :
    ∃ saved, writeString addr buf eeprom = some saved ∧
      text (saved.readBytes maxWifiCredentialsLength addr) = some string ∧
      ∀ a, a < addr ∨ addr + maxWifiCredentialsLength ≤ a -> saved a = eeprom a := by
  obtain ⟨nulFree, rest, rfl⟩ := text_eq_some.mp points
  obtain ⟨saved, written, read, frame⟩ := eeprom.writeBytes_append (string ++ [0]) rest addr
  have size : maxWifiCredentialsLength = 31 := rfl
  have count : (UInt8.ofNat (string.length + 1)).toNat = (string ++ [0]).length := by
    rw [UInt8.toNat_ofNat', Nat.mod_eq_of_lt (by omega), List.length_append]
    rfl
  refine ⟨saved, ?_, ?_, fun a outside => frame a (by simp; omega)⟩
  · rw [writeString, points, Option.bind_eq_bind, Option.bind_some, count, written]
  · have whole : maxWifiCredentialsLength =
        (string ++ [0]).length + (maxWifiCredentialsLength - (string ++ [0]).length) := by
      simp
      omega
    rw [whole, Eeprom.readBytes_add, read, text_eq_some]
    exact ⟨nulFree, List.prefix_append _ _⟩

def Fits (credentials : Credentials) : Prop :=
  (∃ ssid, text credentials.ssidbuf = some ssid ∧ ssid.length < maxWifiCredentialsLength) ∧
    ∃ password, text credentials.passwordbuf = some password ∧
      password.length < maxWifiCredentialsLength

theorem survives_of_fits (eeprom : Eeprom) {credentials : Credentials} (fits : Fits credentials) :
    Survives eeprom credentials := by
  obtain ⟨⟨ssid, ssidPoints, ssidShort⟩, password, passwordPoints, passwordShort⟩ := fits
  obtain ⟨first, ssidWritten, ssidRead, firstFrame⟩ :=
    writeString_text ssidPoints ssidShort eepromSsid eeprom
  obtain ⟨second, passwordWritten, passwordRead, secondFrame⟩ :=
    writeString_text passwordPoints passwordShort eepromPsw first
  have saves : credentialsStorageSave credentials.ssidbuf credentials.passwordbuf credentials.sec
      eeprom = some (second.writeByte eepromSec credentials.sec) := by
    simp only [credentialsStorageSave, ssidWritten, passwordWritten, Option.bind_eq_bind,
      Option.bind_some]
  have size : maxWifiCredentialsLength = 31 := rfl
  have first' : eepromSsid = 0 := rfl
  have psw : eepromPsw = 31 := rfl
  have sec : eepromSec = 62 := rfl
  have dbg : eepromDbg = 63 := rfl
  have below (a : Nat) (low : a < eepromSec) :
      second.writeByte eepromSec credentials.sec a = second a := if_neg (Nat.ne_of_lt low)
  -- The later writes stay behind the SSID and the password.
  have ssidKept : (second.writeByte eepromSec credentials.sec).readBytes maxWifiCredentialsLength
      eepromSsid = first.readBytes maxWifiCredentialsLength eepromSsid := by
    apply Eeprom.readBytes_congr
    intro a _ high
    rw [below a (by omega), secondFrame a (by omega)]
  have passwordKept : (second.writeByte eepromSec credentials.sec).readBytes
      maxWifiCredentialsLength eepromPsw = second.readBytes maxWifiCredentialsLength eepromPsw := by
    apply Eeprom.readBytes_congr
    intro a _ high
    exact below a high
  have debugKept : second.writeByte eepromSec credentials.sec eepromDbg = eeprom eepromDbg := by
    rw [Eeprom.writeByte, if_neg (by omega), secondFrame _ (by omega), firstFrame _ (by omega)]
  have digit : second.writeByte eepromSec credentials.sec eepromSec = credentials.sec :=
    if_pos rfl
  simp only [Survives, saves, credentialsStorageRead, ssidKept, passwordKept, ssidRead,
    passwordRead, ssidPoints, passwordPoints, debugKept, digit]
  simp

theorem fits_of_survives {eeprom : Eeprom} {credentials : Credentials}
    (survives : Survives eeprom credentials) : Fits credentials := by
  unfold Survives at survives
  split at survives
  case h_1 => exact survives.elim
  case h_2 saved _ =>
    obtain ⟨ssidString, ssidSame, passwordString, passwordSame, -⟩ := survives
    obtain ⟨ssid, points⟩ := Option.isSome_iff_exists.mp ssidString
    obtain ⟨password, passwordPoints⟩ := Option.isSome_iff_exists.mp passwordString
    have short := text_length points
    have passwordShort := text_length passwordPoints
    simp only [Eeprom.readBytes_length] at short passwordShort
    exact ⟨⟨ssid, ssidSame.symm.trans points, short⟩,
      password, passwordSame.symm.trans passwordPoints, passwordShort⟩

theorem survives_iff_fits (eeprom : Eeprom) (credentials : Credentials) :
    Survives eeprom credentials ↔ Fits credentials :=
  ⟨fits_of_survives, survives_of_fits eeprom⟩

def LeavesNul (array : Vector UInt8 maxWifiCredentialsLength) (credential : List UInt8) : Prop :=
  credential.length < maxWifiCredentialsLength - 1 ∨ array[maxWifiCredentialsLength - 1] = 0

namespace CredentialsCaller

/-- The strings that the caller passes have at most 30 characters: those of the command line have
unless an array is left without NUL. -/
def Short : CredentialsCaller -> Prop
  | .setWifiAuth credentials argument =>
    match credentialsOf argument with
    | [] => True
    | [ssid] => LeavesNul credentials.ssid ssid
    | ssid :: pass :: _ => LeavesNul credentials.ssid ssid ∧ LeavesNul credentials.pass pass
  | .wifiCallback info =>
    info.u8Status = m2mSuccess ->
      (info.au8SSID.toList.takeWhile (· ≠ 0)).length < maxWifiCredentialsLength ∧
        (info.au8Password.toList.takeWhile (· ≠ 0)).length < maxWifiCredentialsLength

def Survives (eeprom : Eeprom) (caller : CredentialsCaller) : Prop :=
  ∀ credentials, caller.passes = some credentials ->
    AvrVoiceControl.Survives eeprom credentials

end CredentialsCaller

theorem text_isSome_iff {pointer : Pointer} :
    (∃ string, text pointer = some string) ↔ 0 ∈ pointer := by
  by_cases ends : 0 ∈ pointer <;> simp [text, ends]

theorem copyCredential_fits {array : Vector UInt8 maxWifiCredentialsLength} {credential : List UInt8}
    (nulFree : 0 ∉ credential) :
    (∃ string, text (copyCredential array credential) = some string ∧
      string.length < maxWifiCredentialsLength) ↔ LeavesNul array credential := by
  have last : array.toList.drop (maxWifiCredentialsLength - 1) =
      [array[maxWifiCredentialsLength - 1]] := by
    rw [List.drop_eq_getElem_cons (by simp)]
    simp
  have whole : (copyCredential array credential).length = maxWifiCredentialsLength := by
    have size : maxWifiCredentialsLength = 31 := rfl
    simp [copyCredential, strncpy]
    omega
  have ends : 0 ∈ copyCredential array credential ↔ LeavesNul array credential := by
    rw [copyCredential, strncpy, last, LeavesNul, List.take_append, List.take_replicate]
    have padded : 0 ∉ credential.take (maxWifiCredentialsLength - 1) :=
      fun member => nulFree (List.mem_of_mem_take member)
    simp only [List.mem_append, padded, List.mem_replicate, List.mem_singleton, false_or, and_true]
    exact or_congr (by omega) eq_comm
  rw [← ends, ← text_isSome_iff]
  apply exists_congr
  intro string
  apply and_iff_left_of_imp
  intro points
  rw [← whole]
  exact text_length points

theorem takeWhile_fits {pointer : Pointer} (long : maxWifiCredentialsLength ≤ pointer.length) :
    (∃ string, text pointer = some string ∧ string.length < maxWifiCredentialsLength) ↔
      (pointer.takeWhile (· ≠ 0)).length < maxWifiCredentialsLength := by
  by_cases ends : 0 ∈ pointer
  · simp [text, ends]
  · have whole : pointer.takeWhile (· ≠ 0) = pointer := by
      rw [List.takeWhile_eq_self_iff]
      intro byte member
      simp only [decide_eq_true_eq]
      exact ne_of_mem_of_not_mem member ends
    rw [whole]
    simp [text, ends, long]

theorem strtok_nulFree {delimiters from' token later : List UInt8}
    (takes : strtok delimiters from' = some (token, later)) (nulFree : 0 ∉ from') :
    0 ∉ token ∧ 0 ∉ later := by
  have rest : 0 ∉ from'.dropWhile (· ∈ delimiters) :=
    fun member => nulFree ((List.dropWhile_sublist _).subset member)
  unfold strtok at takes
  split at takes
  case h_1 => cases takes
  case h_2 byte bytes split =>
    obtain ⟨rfl, rfl⟩ := Prod.mk.inj (Option.some.inj takes)
    rw [split] at rest
    constructor
    · exact fun member => rest (List.takeWhile_subset _ member)
    · exact fun member => rest ((List.dropWhile_sublist _).subset (List.mem_of_mem_drop member))

theorem wifiParams_nulFree (count : Nat) {from' : List UInt8} (nulFree : 0 ∉ from') :
    ∀ credential ∈ wifiParams count from', 0 ∉ credential := by
  induction count generalizing from' with
  | zero => simp [wifiParams]
  | succ count ih =>
    unfold wifiParams
    split
    case h_1 => simp
    case h_2 takes =>
      obtain ⟨first, later⟩ := strtok_nulFree takes nulFree
      exact List.forall_mem_cons.mpr ⟨first, ih later⟩

theorem credentialsOf_nulFree {argument : Pointer} :
    ∀ credential ∈ credentialsOf argument, 0 ∉ credential := by
  have nulFree : 0 ∉ argument.takeWhile (· ≠ 0) := by
    intro member
    simpa using List.mem_takeWhile_imp member
  unfold credentialsOf
  split
  case h_1 => simp
  case h_2 takes =>
    obtain ⟨first, later⟩ := strtok_nulFree takes nulFree
    exact List.forall_mem_cons.mpr ⟨first, wifiParams_nulFree wifiParamsPskCnt later⟩

theorem credentialsSurvive_iff (eeprom : Eeprom) (caller : CredentialsCaller) :
    caller.Survives eeprom ↔ caller.Short := by
  unfold CredentialsCaller.Survives CredentialsCaller.Short
  simp only [survives_iff_fits, Fits]
  cases caller with
  | setWifiAuth credentials argument =>
    have nulFree := @credentialsOf_nulFree argument
    simp only [CredentialsCaller.passes, setWifiAuth]
    cases params : credentialsOf argument with
    | nil => simp
    | cons ssid later =>
      rw [params] at nulFree
      have ssidFits := @copyCredential_fits credentials.ssid ssid (nulFree ssid (by simp))
      cases later with
      | nil => simp [ssidFits]
      | cons pass later =>
        have passFits := @copyCredential_fits credentials.pass pass (nulFree pass (by simp))
        simp [ssidFits, passFits]
  | wifiCallback info =>
    have ssidFits := @takeWhile_fits info.au8SSID.toList (by rw [Vector.length_toList]; decide)
    have passFits := @takeWhile_fits info.au8Password.toList (by rw [Vector.length_toList]; decide)
    simp only [CredentialsCaller.passes, provisionInfo]
    split
    case isTrue success =>
      rw [← ssidFits, ← passFits]
      simp [success]
    case isFalse failed => simp [failed]

def longSsid : ProvisionInfo where
  au8SSID := (Vector.replicate 32 97).push 0
  au8Password := (Vector.replicate 64 0).push 0
  u8SecType := 2
  u8Status := m2mSuccess

theorem longSsid_lost : ¬ (CredentialsCaller.wifiCallback longSsid).Survives fun _ => 0xff := by
  intro survives
  have lost := survives _ rfl
  revert lost
  decide

end AvrVoiceControl
