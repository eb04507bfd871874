import AvrVoiceControl.TokenCreation

set_option autoImplicit false

namespace AvrVoiceControl.Atca

open Base64 CString FlatMemory

theorem mem_breakLines {line at' : Nat} {text : List UInt8} {c : UInt8}
    (member : c ∈ breakLines line at' text) : c = 13 ∨ c = 10 ∨ c ∈ text := by
  induction text generalizing at' with
  | nil => simp [breakLines] at member
  | cons first rest ih =>
    rw [breakLines, List.mem_append, List.mem_cons] at member
    rcases member with feed | rfl | later
    · split at feed <;> simp at feed
      rcases feed with rfl | rfl <;> simp
    · simp
    · rcases ih later with cr | lf | inside
      · exact .inl cr
      · exact .inr (.inl lf)
      · exact .inr (.inr (List.mem_cons_of_mem _ inside))

theorem base64Text_default {bytes : List UInt8} {c : UInt8}
    (member : c ∈ base64Text b64rulesDefault bytes) : c ≠ 0 ∧ c ≠ 37 := by
  have all : ∀ digit : Fin 64, charOf b64rulesDefault digit ≠ 0 ∧ charOf b64rulesDefault digit ≠ 37 := by
    decide +kernel
  rcases mem_breakLines member with rfl | rfl | inside
  · decide
  · decide
  · rw [padded, List.mem_append] at inside
    rcases inside with char | pad
    · obtain ⟨digit, place, rfl⟩ := List.mem_map.mp char
      exact all ⟨digit, digits_bytes_lt bytes digit place⟩
    · rw [List.eq_of_mem_replicate pad]
      decide

theorem visible_default (bytes : List UInt8) :
    visible (base64Text b64rulesDefault bytes) = base64Text b64rulesDefault bytes := by
  apply List.rdropWhile_eq_self_iff.mpr
  intro some
  simpa using (base64Text_default (List.getLast_mem some)).1

def x509Key (point : List UInt8) : List UInt8 := publicKeyX509Header ++ point

section Print

variable (device : Device) (initialized : Bool) (memory : Nat -> UInt8) (buf : Nat)

theorem x509Text_length {point : List UInt8} (whole : point.length = 64) :
    (base64Text b64rulesDefault (x509Key point)).length ≤ 126 := by
  have bound := @base64Text_length b64rulesDefault (fill (fun _ => 0) 0 (x509Key point)) 0
    (x509Key point).length
  have length : (x509Key point).length = 91 := by
    rw [x509Key, List.length_append, whole]
    rfl
  rw [block_fill, length] at bound
  have short := bound (by decide) (by decide)
  have most : base64Length b64rulesDefault 91 = 127 := by decide
  omega

theorem encode_x509 {point : List UInt8} (whole : point.length = 64) :
    base64encode b64rulesDefault (buf + 37) 91 buf (fill memory (buf + 37) (x509Key point)) 128 =
      (.success, ended (fill memory (buf + 37) (x509Key point)) buf
          (base64Text b64rulesDefault (x509Key point)),
        (base64Text b64rulesDefault (x509Key point)).length) := by
  have length : (x509Key point).length = 91 := by
    rw [x509Key, List.length_append, whole]
    rfl
  have clear : StaysClear b64rulesDefault (fill memory (buf + 37) (x509Key point)) (buf + 37) 91
      buf := by
    apply staysClear_ahead
    change buf + 30 + 4 + 2 * (123 / 64) ≤ buf + 37
    omega
  have stored := block_fill memory (buf + 37) (x509Key point)
  rw [length] at stored
  have encodes := @base64encode_text _ _ _ _ _ default_sound clear 128 (by decide)
  rw [stored, visible_default] at encodes
  exact encodes

theorem ended_text {text : List UInt8} (memory : Nat -> UInt8) (plain : ∀ c ∈ text, c ≠ 0)
    (kept : visible text = text) {size : Nat} (room : text.length < size) :
    (block (ended memory buf text) buf size).takeWhile (· ≠ 0) = text := by
  have split := block_add (ended memory buf text) buf text.length (size - text.length)
  have front := block_ended memory buf text
  have null : ended memory buf text (buf + text.length) = 0 := by
    rw [ended, kept]
    exact Function.update_self _ _ _
  rw [kept] at front
  rw [Nat.add_sub_of_le (Nat.le_of_lt room), front] at split
  obtain ⟨more, rest⟩ : ∃ more, size - text.length = more + 1 := ⟨size - text.length - 1, by omega⟩
  rw [split, rest, block, null, List.takeWhile_append_of_pos (by simpa using plain),
    List.takeWhile_cons_of_neg (by simp), List.append_nil]

theorem printPublicKey_eq {point : List UInt8} (answers : device.pubkey 0 = some point) :
    printPublicKey device true memory buf =
      (some (pemText (base64Text b64rulesDefault (x509Key point))),
        ended (fill memory (buf + 37) (x509Key point)) buf
          (base64Text b64rulesDefault (x509Key point))) := by
  have whole := device.pubkey_length 0 point answers
  have plain : ∀ c ∈ base64Text b64rulesDefault (x509Key point), c ≠ 0 :=
    fun c member => (base64Text_default member).1
  have keyed : fill (fill memory (buf + 37) publicKeyX509Header) (buf + 37 + 27) point =
      fill memory (buf + 37) (x509Key point) := (fill_append memory (buf + 37) _ _).symm
  have place : buf + 128 - 64 - publicKeyX509Header.length = buf + 37 := by
    change buf + 128 - 64 - 27 = buf + 37
    omega
  have short := x509Text_length whole
  have same : Function.update (ended (fill memory (buf + 37) (x509Key point)) buf
      (base64Text b64rulesDefault (x509Key point)))
      (buf + (base64Text b64rulesDefault (x509Key point)).length) 0 =
      ended (fill memory (buf + 37) (x509Key point)) buf
        (base64Text b64rulesDefault (x509Key point)) := by
    rw [ended, visible_default, Function.update_idem]
  have text := ended_text buf (fill memory (buf + 37) (x509Key point)) plain (visible_default _)
    (show _ < 128 by omega)
  rw [printPublicKey, if_neg (by simp)]
  dsimp only
  rw [place, answers]
  dsimp only
  have header : publicKeyX509Header.length = 27 := rfl
  have size : 64 + 27 = 91 := rfl
  rw [header, keyed, size, encode_x509 memory buf whole]
  dsimp only
  rw [same, text]

theorem printPublicKey_pem :
    ((printPublicKey device initialized memory buf).1.isSome = true ↔
      initialized = true ∧ (device.pubkey 0).isSome = true) ∧
    (∀ text ∈ (printPublicKey device initialized memory buf).1,
      ∃ point body, device.pubkey 0 = some point ∧ text = pemText body ∧
        base64decode b64rulesDefault body 91 = (.success, x509Key point) ∧
        text.length < 200 ∧ ∀ c ∈ text, c ≠ 0 ∧ c ≠ 37) ∧
    Confined memory buf 128 (printPublicKey device initialized memory buf).2 := by
  cases initialized with
  | false => exact ⟨by simp [printPublicKey], by simp [printPublicKey], fun _ _ => rfl⟩
  | true =>
    cases answers : device.pubkey 0 with
    | none =>
      have place : buf + 128 - 64 - publicKeyX509Header.length = buf + 37 := by
        change buf + 128 - 64 - 27 = buf + 37
        omega
      have refused : printPublicKey device true memory buf =
          (none, fill memory (buf + 37) publicKeyX509Header) := by
        rw [printPublicKey, if_neg (by simp)]
        dsimp only
        rw [place, answers]
      rw [refused]
      refine ⟨by simp, by simp, ?_⟩
      intro at' outside
      exact fill_outside _ _ _ (by change _ ∨ buf + 37 + 27 ≤ at'; omega)
    | some point =>
      have whole := device.pubkey_length 0 point answers
      have length : (x509Key point).length = 91 := by
        rw [x509Key, List.length_append, whole]
        rfl
      have short := x509Text_length whole
      rw [printPublicKey_eq device memory buf answers]
      refine ⟨by simp, ?_, ?_⟩
      · rintro text ⟨⟩
        refine ⟨point, _, rfl, rfl, ?_, ?_, ?_⟩
        · have decoded := base64decode_visible default_sound default_readable default_distinct
            (x509Key point) (Nat.le_of_eq length)
          rwa [visible_default] at decoded
        · rw [pemText, List.length_append, List.length_append]
          change 28 + _ + 29 < 200
          omega
        · have frame : ∀ c ∈ pemText [], c ≠ 0 ∧ c ≠ 37 := by decide +kernel
          intro c member
          rw [pemText, List.mem_append, List.mem_append] at member
          rcases member with (begins | body) | ends
          · exact frame c (List.mem_append_left _ (List.mem_append_left _ begins))
          · exact base64Text_default body
          · exact frame c (List.mem_append_right _ ends)
      · intro at' outside
        dsimp only
        rw [ended, visible_default, Function.update_of_ne (by omega), fill_outside _ _ _ (by omega),
          fill_outside _ _ _ (by omega)]

end Print

end AvrVoiceControl.Atca
