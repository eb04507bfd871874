import AvrVoiceControl.JsonLookup

set_option autoImplicit false

namespace AvrVoiceControl

open CString FlatJson Json

structure Leds where
  red : Bool
  yel : Bool
  deriving DecidableEq

def redKey : List UInt8 := ascii ['r', 'e', 'd']

def yellowKey : List UInt8 := ascii ['y', 'e', 'l', 'l', 'o', 'w']

def quoted (text : List UInt8) : List UInt8 := quote :: text ++ [quote]

def reportText (leds : Leds) : List UInt8 :=
  [openBrace] ++ quoted redKey ++ [colon] ++ boolText leds.red ++ [comma] ++
    quoted yellowKey ++ [colon] ++ boolText leds.yel ++ [closeBrace]

/-- The LED variables after the call, and the text handed to `CLOUD_publishData`. -/
def receivedFromCloud (leds : Leds) (payload : Pointer) : Option (Leds × List UInt8) := do
  let red ← jsonGetBool payload redKey
  let yellow ← jsonGetBool payload yellowKey
  let leds := { red := red.getD leds.red, yel := yellow.getD leds.yel }
  return (leds, reportText leds)

def receivedAll : Leds -> List Pointer -> Option (List (Leds × List UInt8))
  | _, [] => some []
  | leds, payload :: rest => do
    let after ← receivedFromCloud leds payload
    return after :: (← receivedAll after.1 rest)

def lastLeds (leds : Leds) (calls : List (Leds × List UInt8)) : Leds :=
  (calls.getLast?.map Prod.fst).getD leds

theorem redKey_plain : ∀ b ∈ redKey, Plain b := plain_of_all _ (by decide)

theorem yellowKey_plain : ∀ b ∈ yellowKey, Plain b := plain_of_all _ (by decide)

def reportObject (leds : Leds) : Object where
  first := { key := plainBytes redKey redKey_plain, value := .bool leds.red }
  rest := [{ key := plainBytes yellowKey yellowKey_plain, value := .bool leds.yel }]

theorem reportObject_boolAt (leds : Leds) :
    (reportObject leds).boolAt redKey = some leds.red ∧
      (reportObject leds).boolAt yellowKey = some leds.yel := by
  have differ : ¬ redKey = yellowKey := by decide
  constructor <;>
    simp [reportObject, Object.boolAt, Object.members, valueAt, Member.keyText, Scalar.bool?,
      differ]

theorem reportObject_text (leds : Leds) : (reportObject leds).text = reportText leds := by
  simp [reportObject, reportText, Object.text, membersText, Member.text, Member.keyText,
    Scalar.text, whites, quoted]

theorem report_reads_back (leds : Leds) (stale : List UInt8) :
    jsonGetBool (reportText leds ++ 0 :: stale) redKey = some (some leds.red) ∧
      jsonGetBool (reportText leds ++ 0 :: stale) yellowKey = some (some leds.yel) := by
  rw [← reportObject_text, jsonGetBool_object _ redKey_plain, jsonGetBool_object _ yellowKey_plain]
  exact ⟨congrArg some (reportObject_boolAt leds).1, congrArg some (reportObject_boolAt leds).2⟩

/-- A NUL-terminated flat object with distinct keys, and what the array holds after it. -/
structure Payload where
  object : Object
  distinct : (object.members.map Member.keyText).Nodup
  stale : List UInt8

def Payload.memory (p : Payload) : Pointer := p.object.text ++ 0 :: p.stale

def Payload.settings (p : Payload) : Option Bool × Option Bool :=
  (p.object.boolAt redKey, p.object.boolAt yellowKey)

theorem receivedFromCloud_payload (leds : Leds) (p : Payload) :
    receivedFromCloud leds p.memory =
      let after : Leds := { red := p.settings.1.getD leds.red, yel := p.settings.2.getD leds.yel }
      some (after, reportText after) := by
  simp only [receivedFromCloud, Payload.memory, jsonGetBool_object _ redKey_plain,
    jsonGetBool_object _ yellowKey_plain, Option.bind_eq_bind, Option.bind_some, Option.pure_def,
    Payload.settings]

def lastBool (key : List UInt8) (payloads : List Payload) (initial : Bool) : Bool :=
  ((payloads.filterMap fun p => p.object.boolAt key).getLast?).getD initial

theorem lastBool_cons (key : List UInt8) (p : Payload) (rest : List Payload) (initial : Bool) :
    lastBool key (p :: rest) initial = lastBool key rest ((p.object.boolAt key).getD initial) := by
  cases value : p.object.boolAt key with
  | none => simp [lastBool, value]
  | some b =>
    cases later : rest.filterMap fun p => p.object.boolAt key with
    | nil => simp [lastBool, value, later]
    | cons c more => simp [lastBool, value, later, List.getLast?_cons]

theorem lastLeds_cons (leds : Leds) (call : Leds × List UInt8) (calls : List (Leds × List UInt8)) :
    lastLeds leds (call :: calls) = lastLeds call.1 calls := by
  cases calls with
  | nil => rfl
  | cons next calls => simp [lastLeds, List.getLast?_cons]

theorem receivedFromCloud_sequence (leds : Leds) (payloads : List Payload) :
    ∃ calls, receivedAll leds (payloads.map Payload.memory) = some calls ∧
      calls.length = payloads.length ∧
      (lastLeds leds calls).red = lastBool redKey payloads leds.red ∧
      (lastLeds leds calls).yel = lastBool yellowKey payloads leds.yel ∧
      (∀ call ∈ calls, ∀ stale,
        jsonGetBool (call.2 ++ 0 :: stale) redKey = some (some call.1.red) ∧
          jsonGetBool (call.2 ++ 0 :: stale) yellowKey = some (some call.1.yel)) ∧
      ∀ others : List Payload, others.map Payload.settings = payloads.map Payload.settings →
        receivedAll leds (others.map Payload.memory) = some calls := by
  induction payloads generalizing leds with
  | nil =>
    refine ⟨[], rfl, rfl, rfl, rfl, by simp, ?_⟩
    intro others same
    have none : others = [] := by simpa using same
    subst none
    rfl
  | cons p rest ih =>
    let after : Leds := { red := p.settings.1.getD leds.red, yel := p.settings.2.getD leds.yel }
    obtain ⟨calls, run, counted, lastRed, lastYel, reads, frame⟩ := ih after
    refine ⟨(after, reportText after) :: calls, ?_, by simp [counted], ?_, ?_, ?_, ?_⟩
    · simp only [List.map_cons, receivedAll, receivedFromCloud_payload, Option.bind_eq_bind,
        Option.bind_some, Option.pure_def]
      rw [run]
      rfl
    · rw [lastLeds_cons, lastRed, lastBool_cons]
      rfl
    · rw [lastLeds_cons, lastYel, lastBool_cons]
      rfl
    · intro call member
      rcases List.mem_cons.mp member with rfl | member
      · exact report_reads_back after
      · exact reads call member
    · intro others same
      obtain ⟨q, others, rfl⟩ : ∃ q more, others = q :: more := by
        cases others with
        | nil => simp at same
        | cons q more => exact ⟨q, more, rfl⟩
      obtain ⟨sameHead, sameRest⟩ := List.cons_eq_cons.mp same
      simp only [List.map_cons, receivedAll, receivedFromCloud_payload, sameHead,
        Option.bind_eq_bind, Option.bind_some, Option.pure_def]
      rw [frame others sameRest]
      rfl

end AvrVoiceControl
