import AvrVoiceControl.Library.Interpolation
import Mathlib.Logic.Function.Basic
import Mathlib.Tactic.IntervalCases

set_option autoImplicit false

namespace AvrVoiceControl.NeoPixel

open Interpolation

def rows : Nat := 4

def ledsPerRow : Nat := 4

def steps : Nat := 100

abbrev Matrix := Vector UInt8 (rows * ledsPerRow * 3)

/-- `array` (green, red and blue of each LED, row after row) and `threshold`, with what was assigned
to the matrix before its conversion to a byte and what `NEO_display` sent. -/
structure Panel where
  array : Matrix
  threshold : Vector Int rows
  assigned : List (Nat × Int)
  displayed : List Matrix

structure Fade where
  fcr : Rat
  fcg : Rat
  fcb : Rat
  fr : Rat
  fg : Rat
  fb : Rat

def assign (panel : Panel) (index : Nat) (value : Int) : Panel :=
  { panel with
    array := panel.array.setIfInBounds index (UInt8.ofInt value)
    assigned := panel.assigned ++ [(index, value)] }

def updateLed (fade : Fade) (ratio : Rat) (pi : Nat) (panel : Panel) : Panel :=
  assign (assign (assign panel pi ⌊fade.fcg + fade.fg * ratio⌋)
    (pi + 1) ⌊fade.fcr + fade.fr * ratio⌋)
    (pi + 2) ⌊fade.fcb + fade.fb * ratio⌋

def updateRow (fade : Fade) (ratio : Rat) : Nat -> Nat -> Panel -> Panel
  -- The loop over the LEDs of a row, with its pointer and `p` LEDs to go.
  | _, 0, panel => panel
  | pi, p + 1, panel => updateRow fade ratio (pi + 3) p (updateLed fade ratio pi panel)

def int16 (value : Int) : Int := value.bmod 65536

def advanceRow (fade : Fade) (row : Nat) (inside : row < rows) (panel : Panel) : Panel :=
  let reached : Int := int16 (panel.threshold[row] + 1)
  let panel := { panel with threshold := panel.threshold.set row reached inside }
  if reached > 0 ∧ reached ≤ steps then
    updateRow fade (reached * 1 / steps) (row * ledsPerRow * 3) ledsPerRow panel
  else panel

def neoDisplay (panel : Panel) : Panel :=
  { panel with displayed := panel.displayed ++ [panel.array] }

def migrationStep (fade : Fade) (panel : Panel) : Panel :=
  neoDisplay (Nat.fold rows (advanceRow fade) panel)

def startThreshold (x : Nat) : Int :=
  -- `-STEPS / ROWS * x`: the quotient is signed, its product with `x` is taken modulo 2^16.
  int16 ((Int.tdiv (-steps) rows % 65536 * x) % 65536)

def computeThresholds (panel : Panel) : Panel :=
  Nat.fold rows (fun x inside panel =>
    { panel with threshold := panel.threshold.set x (startThreshold x) inside }) panel

def fadeFrom (array : Matrix) (r g b : UInt8) : Fade where
  fcr := array[1].toNat
  fcg := array[0].toNat
  fcb := array[2].toNat
  fr := r.toNat - array[1].toNat
  fg := g.toNat - array[0].toNat
  fb := b.toNat - array[2].toNat

def neoMigrate (r g b : UInt8) (panel : Panel) : Panel :=
  Nat.fold (steps * 2) (fun _ _ => migrationStep (fadeFrom panel.array r g b))
    (computeThresholds panel)

theorem fold_invariant {A : Type} {inv : Nat -> A -> Prop} {count : Nat}
    {body : (i : Nat) -> i < count -> A -> A} {start : A} (begins : inv 0 start)
    (keeps : ∀ i inside state, inv i state -> inv (i + 1) (body i inside state)) :
    inv count (Nat.fold count body start) := by
  induction count with
  | zero => simpa using begins
  | succ count ih =>
    rw [Nat.fold_succ]
    exact keeps count _ _ (ih fun i inside state => keeps i (Nat.lt_succ_of_lt inside) state)

def Fade.value (fade : Fade) (channel : Nat) (ratio : Rat) : Int :=
  match channel with
  | 0 => ⌊fade.fcg + fade.fg * ratio⌋
  | 1 => ⌊fade.fcr + fade.fr * ratio⌋
  | _ => ⌊fade.fcb + fade.fb * ratio⌋

@[simp] theorem updateLed_threshold (fade : Fade) (ratio : Rat) (pi : Nat) (panel : Panel) :
    (updateLed fade ratio pi panel).threshold = panel.threshold := rfl

@[simp] theorem updateLed_displayed (fade : Fade) (ratio : Rat) (pi : Nat) (panel : Panel) :
    (updateLed fade ratio pi panel).displayed = panel.displayed := rfl

theorem updateLed_array (fade : Fade) (ratio : Rat) (pi : Nat) (panel : Panel) (i : Nat)
    (inside : i < rows * ledsPerRow * 3) :
    (updateLed fade ratio pi panel).array[i] =
      if pi ≤ i ∧ i < pi + 3 then UInt8.ofInt (fade.value (i - pi) ratio)
      else panel.array[i] := by
  simp only [updateLed, assign, Vector.getElem_setIfInBounds]
  by_cases green : i = pi
  next => simp [green, Fade.value]
  next =>
    by_cases red : i = pi + 1
    next => simp [red, Fade.value]
    next =>
      by_cases blue : i = pi + 2
      next => simp [blue, Fade.value]
      next =>
        have other : ¬(pi ≤ i ∧ i < pi + 3) := by omega
        simp [Ne.symm green, Ne.symm red, Ne.symm blue, other]

theorem updateLed_assigned (fade : Fade) (ratio : Rat) (pi : Nat) (panel : Panel) :
    (updateLed fade ratio pi panel).assigned =
      panel.assigned ++ [(pi, fade.value 0 ratio), (pi + 1, fade.value 1 ratio),
        (pi + 2, fade.value 2 ratio)] := by
  simp [updateLed, assign, Fade.value]

@[simp] theorem updateRow_threshold (fade : Fade) (ratio : Rat) (pi p : Nat) (panel : Panel) :
    (updateRow fade ratio pi p panel).threshold = panel.threshold := by
  induction p generalizing pi panel with
  | zero => rfl
  | succ p ih => rw [updateRow, ih, updateLed_threshold]

@[simp] theorem updateRow_displayed (fade : Fade) (ratio : Rat) (pi p : Nat) (panel : Panel) :
    (updateRow fade ratio pi p panel).displayed = panel.displayed := by
  induction p generalizing pi panel with
  | zero => rfl
  | succ p ih => rw [updateRow, ih, updateLed_displayed]

theorem updateRow_array (fade : Fade) (ratio : Rat) (pi p : Nat) (panel : Panel) (i : Nat)
    (inside : i < rows * ledsPerRow * 3) :
    (updateRow fade ratio pi p panel).array[i] =
      if pi ≤ i ∧ i < pi + 3 * p then UInt8.ofInt (fade.value ((i - pi) % 3) ratio)
      else panel.array[i] := by
  induction p generalizing pi panel with
  | zero =>
    have nowhere : ¬(pi ≤ i ∧ i < pi) := by omega
    simp [updateRow, nowhere]
  | succ p ih =>
    rw [updateRow, ih, updateLed_array]
    by_cases here : pi ≤ i ∧ i < pi + 3
    next =>
      have first : ¬(pi + 3 ≤ i ∧ i < pi + 3 + 3 * p) := by omega
      have within : pi ≤ i ∧ i < pi + 3 * (p + 1) := by omega
      have channel : (i - pi) % 3 = i - pi := by omega
      rw [if_neg first, if_pos here, if_pos within, channel]
    next =>
      have same : (pi + 3 ≤ i ∧ i < pi + 3 + 3 * p) ↔ (pi ≤ i ∧ i < pi + 3 * (p + 1)) := by omega
      simp only [same, if_neg here]
      by_cases later : pi ≤ i ∧ i < pi + 3 * (p + 1)
      next =>
        have channel : (i - (pi + 3)) % 3 = (i - pi) % 3 := by omega
        rw [if_pos later, if_pos later, channel]
      next => rw [if_neg later, if_neg later]

theorem updateRow_assigned (fade : Fade) (ratio : Rat) {pi : Nat} (aligned : pi % 3 = 0) (p : Nat)
    (panel : Panel) (entry : Nat × Int)
    (member : entry ∈ (updateRow fade ratio pi p panel).assigned) :
    entry ∈ panel.assigned ∨ entry.2 = fade.value (entry.1 % 3) ratio := by
  induction p generalizing pi panel with
  | zero => exact Or.inl member
  | succ p ih =>
    rcases @ih (pi + 3) (by omega) _ member with earlier | own
    next =>
      rw [updateLed_assigned, List.mem_append] at earlier
      have second : (pi + 1) % 3 = 1 := by omega
      have third : (pi + 2) % 3 = 2 := by omega
      rcases earlier with old | new
      next => exact Or.inl old
      next =>
        right
        simp only [List.mem_cons, List.not_mem_nil, or_false] at new
        rcases new with rfl | rfl | rfl <;> simp [aligned, second, third]
    next => exact Or.inr own

def target (r g b : UInt8) (channel : Nat) : UInt8 :=
  match channel with
  | 0 => g
  | 1 => r
  | _ => b

def Uniform (array : Matrix) : Prop :=
  ∀ (i j : Nat) (first : i < rows * ledsPerRow * 3) (second : j < rows * ledsPerRow * 3),
    i % 3 = j % 3 -> array[i] = array[j]

/-- How many steps of the way a row has gone after `count` increments of its threshold. -/
def reached (row count : Nat) : Nat := min (count - 25 * row) steps

def shade (start : Matrix) (fade : Fade) (i : Nat) (inside : i < rows * ledsPerRow * 3)
    (gone : Nat) : UInt8 :=
  if gone = 0 then start[i] else UInt8.ofInt (fade.value (i % 3) (gone / steps))

structure Shown (start : Matrix) (fade : Fade) (counts : Nat -> Nat) (panel : Panel) : Prop where
  threshold : ∀ (row : Nat) (inside : row < rows),
    panel.threshold[row] = (counts row : Int) - 25 * row
  array : ∀ (i : Nat) (inside : i < rows * ledsPerRow * 3),
    panel.array[i] = shade start fade i inside (reached (i / 12) (counts (i / 12)))
  assigned : ∀ entry ∈ panel.assigned, ∃ gone : Nat, gone ≤ steps ∧
    entry.2 = fade.value (entry.1 % 3) (gone / steps)

theorem int16_of_small {value : Int} (least : -32768 ≤ value) (most : value < 32768) :
    int16 value = value := by
  rw [int16, Int.bmod_def]
  omega

theorem startThreshold_eq {x : Nat} (inside : x < rows) : startThreshold x = -25 * (x : Int) := by
  rw [rows] at inside
  interval_cases x <;> rfl

theorem shown_computeThresholds (panel : Panel) (fade : Fade) (fresh : panel.assigned = []) :
    Shown panel.array fade (fun _ => 0) (computeThresholds panel) ∧
      (computeThresholds panel).displayed = panel.displayed := by
  have set := @fold_invariant Panel
    (fun count state => state.array = panel.array ∧ state.assigned = panel.assigned ∧
      state.displayed = panel.displayed ∧
      ∀ (row : Nat) (inside : row < rows), row < count ->
        state.threshold[row] = -25 * (row : Int))
    rows (fun x inside state =>
      { state with threshold := state.threshold.set x (startThreshold x) inside })
    panel ⟨rfl, rfl, rfl, fun row inside never => absurd never (Nat.not_lt_zero row)⟩
    (by
      rintro x inside state ⟨sameArray, sameAssigned, sameDisplayed, before⟩
      refine ⟨sameArray, sameAssigned, sameDisplayed, ?_⟩
      intro row within earlier
      by_cases own : row = x
      next =>
        subst own
        simpa using startThreshold_eq within
      next =>
        have value := before row within (by omega)
        simpa [Vector.getElem_set, Ne.symm own] using value)
  obtain ⟨sameArray, sameAssigned, sameDisplayed, thresholds⟩ := set
  refine ⟨?_, sameDisplayed⟩
  constructor
  case threshold =>
    intro row inside
    rw [computeThresholds, thresholds row inside inside]
    simp
  case array =>
    intro i inside
    simp [computeThresholds, sameArray, shade, reached]
  case assigned =>
    intro entry member
    rw [computeThresholds, sameAssigned, fresh] at member
    cases member

theorem Shown.threshold_next {start : Matrix} {fade : Fade} {counts : Nat -> Nat} {panel : Panel}
    (shown : Shown start fade counts panel) {row : Nat} (inside : row < rows)
    (early : counts row < steps * 2) :
    int16 (panel.threshold[row] + 1) = ((counts row + 1 : Nat) : Int) - 25 * row := by
  have fourth : row < 4 := inside
  have few : counts row < 200 := early
  rw [shown.threshold row inside, int16_of_small (by omega) (by omega)]
  omega

theorem Shown.threshold_set {start : Matrix} {fade : Fade} {counts : Nat -> Nat} {panel : Panel}
    (shown : Shown start fade counts panel) {row : Nat} (inside : row < rows) {other : Nat}
    (within : other < rows) :
    (panel.threshold.set row (((counts row + 1 : Nat) : Int) - 25 * row) inside)[other] =
      (Function.update counts row (counts row + 1) other : Int) - 25 * other := by
  by_cases own : other = row
  next =>
    subst own
    simp
  next => simp [Ne.symm own, Function.update_of_ne own, shown.threshold other within]

theorem ratio_reached {row count : Nat} (begun : 25 * row < count)
    (inside : count ≤ 25 * row + 100) :
    ((((count : Int) - 25 * row : Int) : Rat) * 1 / (steps : Nat)) =
      ((reached row count : Nat) : Rat) / (steps : Nat) := by
  have gone : reached row count = count - 25 * row := by
    simp only [reached, steps]
    omega
  rw [gone, mul_one]
  congr 1
  rw [Nat.cast_sub (by omega)]
  push_cast
  ring

theorem Shown.moved {start : Matrix} {fade : Fade} {counts : Nat -> Nat} {panel : Panel}
    (shown : Shown start fade counts panel) {row : Nat} (inside : row < rows)
    (begun : 25 * row < counts row + 1) :
    Shown start fade (Function.update counts row (counts row + 1))
      (updateRow fade (reached row (counts row + 1) / (steps : Nat)) (row * ledsPerRow * 3)
        ledsPerRow
        { panel with
          threshold := panel.threshold.set row (((counts row + 1 : Nat) : Int) - 25 * row) inside
        }) := by
  constructor
  case threshold =>
    intro other within
    simpa using shown.threshold_set inside within
  case array =>
    intro i within
    have bound : i < 48 := within
    have own_iff : (row * ledsPerRow * 3 ≤ i ∧ i < row * ledsPerRow * 3 + 3 * ledsPerRow) ↔
        i / 12 = row := by
      simp only [ledsPerRow]
      omega
    rw [updateRow_array]
    by_cases own : i / 12 = row
    next =>
      have channel : (i - row * ledsPerRow * 3) % 3 = i % 3 := by
        simp only [ledsPerRow]
        omega
      have started : reached row (counts row + 1) ≠ 0 := by
        simp only [reached, steps]
        omega
      rw [if_pos (own_iff.mpr own), channel, own, Function.update_self, shade, if_neg started]
    next =>
      rw [if_neg (mt own_iff.mp own), Function.update_of_ne own]
      exact shown.array i within
  case assigned =>
    intro entry member
    have aligned : row * ledsPerRow * 3 % 3 = 0 := Nat.mul_mod_left _ 3
    rcases updateRow_assigned fade _ aligned ledsPerRow _ entry member with old | new
    next => exact shown.assigned entry old
    next => exact ⟨_, Nat.min_le_right _ _, new⟩

theorem Shown.waited {start : Matrix} {fade : Fade} {counts : Nat -> Nat} {panel : Panel}
    (shown : Shown start fade counts panel) {row : Nat} (inside : row < rows)
    (same : reached row (counts row + 1) = reached row (counts row)) :
    Shown start fade (Function.update counts row (counts row + 1))
      { panel with
        threshold := panel.threshold.set row (((counts row + 1 : Nat) : Int) - 25 * row) inside
      } := by
  constructor
  case threshold =>
    intro other within
    exact shown.threshold_set inside within
  case array =>
    intro i within
    rw [shown.array i within]
    by_cases own : i / 12 = row
    next => rw [own, Function.update_self, same]
    next => rw [Function.update_of_ne own]
  case assigned => exact shown.assigned

theorem shown_advanceRow {start : Matrix} {fade : Fade} {counts : Nat -> Nat} {panel : Panel}
    (shown : Shown start fade counts panel) {row : Nat} (inside : row < rows)
    (early : counts row < steps * 2) :
    Shown start fade (Function.update counts row (counts row + 1))
        (advanceRow fade row inside panel) ∧
      (advanceRow fade row inside panel).displayed = panel.displayed := by
  simp only [advanceRow, shown.threshold_next inside early]
  by_cases moving : counts row + 1 > 25 * row ∧ counts row + 1 ≤ 25 * row + 100
  next =>
    have steady : ((counts row + 1 : Nat) : Int) - 25 * row > 0 ∧
        ((counts row + 1 : Nat) : Int) - 25 * row ≤ (steps : Nat) := by
      simp only [steps]
      omega
    rw [if_pos steady, ratio_reached moving.1 moving.2]
    exact ⟨shown.moved inside moving.1, by simp⟩
  next =>
    have still : ¬(((counts row + 1 : Nat) : Int) - 25 * row > 0 ∧
        ((counts row + 1 : Nat) : Int) - 25 * row ≤ (steps : Nat)) := by
      simp only [steps]
      omega
    have same : reached row (counts row + 1) = reached row (counts row) := by
      simp only [reached, steps]
      omega
    rw [if_neg still]
    exact ⟨shown.waited inside same, rfl⟩

theorem Shown.congr {start : Matrix} {fade : Fade} {counts others : Nat -> Nat} {panel : Panel}
    (shown : Shown start fade counts panel) (same : ∀ row, row < rows -> counts row = others row) :
    Shown start fade others panel := by
  constructor
  case threshold =>
    intro row inside
    rw [← same row inside]
    exact shown.threshold row inside
  case array =>
    intro i inside
    have row : i / 12 < rows := Nat.div_lt_of_lt_mul inside
    rw [← same _ row]
    exact shown.array i inside
  case assigned => exact shown.assigned

theorem Shown.display {start : Matrix} {fade : Fade} {counts : Nat -> Nat} {panel : Panel}
    (shown : Shown start fade counts panel) : Shown start fade counts (neoDisplay panel) :=
  ⟨shown.threshold, shown.array, shown.assigned⟩

def frameAfter (start : Matrix) (fade : Fade) (count : Nat) : Matrix :=
  Vector.ofFn fun i => shade start fade i.val i.isLt (reached (i.val / 12) count)

theorem getElem_frameAfter (start : Matrix) (fade : Fade) (count i : Nat)
    (inside : i < rows * ledsPerRow * 3) :
    (frameAfter start fade count)[i] = shade start fade i inside (reached (i / 12) count) := by
  rw [frameAfter, Vector.getElem_ofFn]

theorem reached_le (row count : Nat) : reached row count ≤ steps := Nat.min_le_right _ _

theorem shown_migrationStep {start : Matrix} {fade : Fade} {count : Nat} {panel : Panel}
    (shown : Shown start fade (fun _ => count) panel) (early : count < steps * 2) :
    Shown start fade (fun _ => count + 1) (migrationStep fade panel) ∧
      (migrationStep fade panel).displayed =
        panel.displayed ++ [frameAfter start fade (count + 1)] := by
  have advanced := @fold_invariant Panel
    (fun ahead state =>
      Shown start fade (fun row => if row < ahead then count + 1 else count) state ∧
        state.displayed = panel.displayed)
    rows (advanceRow fade) panel ⟨by simpa using shown, rfl⟩
    (by
      rintro row inside state ⟨before, sameDisplayed⟩
      have behind : (if row < row then count + 1 else count) = count := if_neg (Nat.lt_irrefl row)
      obtain ⟨after, kept⟩ := shown_advanceRow before inside (by simpa using early)
      refine ⟨after.congr ?_, kept.trans sameDisplayed⟩
      intro other _
      by_cases own : other = row
      next => simp [own]
      next =>
        have order : other < row + 1 ↔ other < row := by omega
        simp [Function.update_of_ne own, order])
  obtain ⟨all, sameDisplayed⟩ := advanced
  have every : Shown start fade (fun _ => count + 1) (Nat.fold rows (advanceRow fade) panel) :=
    all.congr fun row inside => if_pos inside
  have shownArray : (Nat.fold rows (advanceRow fade) panel).array =
      frameAfter start fade (count + 1) := by
    ext i inside
    rw [every.array i inside, getElem_frameAfter]
  rw [migrationStep]
  exact ⟨every.display, by rw [neoDisplay, sameDisplayed, shownArray]⟩

theorem shown_neoMigrate (r g b : UInt8) (panel : Panel) (fresh : panel.assigned = []) :
    Shown panel.array (fadeFrom panel.array r g b) (fun _ => steps * 2) (neoMigrate r g b panel) ∧
      (neoMigrate r g b panel).displayed = panel.displayed ++ (List.range (steps * 2)).map
        (fun count => frameAfter panel.array (fadeFrom panel.array r g b) (count + 1)) := by
  obtain ⟨begins, sameDisplayed⟩ :=
    shown_computeThresholds panel (fadeFrom panel.array r g b) fresh
  rw [neoMigrate]
  exact @fold_invariant Panel
    (fun count state => Shown panel.array (fadeFrom panel.array r g b) (fun _ => count) state ∧
      state.displayed = panel.displayed ++ (List.range count).map
        (fun count => frameAfter panel.array (fadeFrom panel.array r g b) (count + 1)))
    (steps * 2) (fun _ _ => migrationStep (fadeFrom panel.array r g b)) (computeThresholds panel)
    ⟨begins, by rw [sameDisplayed, List.range_zero, List.map_nil, List.append_nil]⟩
    (by
      rintro count early state ⟨shown, frames⟩
      obtain ⟨next, added⟩ := shown_migrationStep shown early
      refine ⟨next, ?_⟩
      rw [added, frames, List.range_succ, List.map_append, List.append_assoc, List.map_singleton])

theorem value_fadeFrom (array : Matrix) (r g b : UInt8) {i : Nat}
    (inside : i < rows * ledsPerRow * 3) (channel : i < 3) (part : Rat) :
    (fadeFrom array r g b).value i part =
      level array[i].toNat (target r g b i).toNat part := by
  interval_cases i <;> simp [Fade.value, fadeFrom, level, target]

theorem toNat_ofInt {value : Int} (least : 0 ≤ value) (most : value < 256) :
    ((UInt8.ofInt value).toNat : Int) = value := by
  rw [UInt8.ofInt]
  simp
  omega

theorem gone_fraction {gone : Nat} (most : gone ≤ steps) :
    (0 : Rat) ≤ (gone : Rat) / (steps : Nat) ∧ (gone : Rat) / (steps : Nat) ≤ 1 := by
  have width : (0 : Rat) < (steps : Nat) := by norm_num [steps]
  exact ⟨by positivity, (div_le_one width).mpr (by exact_mod_cast most)⟩

theorem toNat_shade {start : Matrix} (uniform : Uniform start) (r g b : UInt8) {i : Nat}
    (inside : i < rows * ledsPerRow * 3) {gone : Nat} (most : gone ≤ steps) :
    ((shade start (fadeFrom start r g b) i inside gone).toNat : Int) =
      level start[i].toNat (target r g b (i % 3)).toNat (gone / steps) := by
  rw [shade]
  split
  case isTrue none => simp [none]
  case isFalse some =>
    have third : i % 3 < 3 := Nat.mod_lt i (by decide)
    have first : i % 3 < rows * ledsPerRow * 3 := Nat.lt_of_lt_of_le third (by decide)
    obtain ⟨least, atMost⟩ := gone_fraction most
    obtain ⟨low, high⟩ := @between_level start[i].toNat (target r g b (i % 3)).toNat _ least atMost
    have startByte := start[i].toNat_lt
    have targetByte := (target r g b (i % 3)).toNat_lt
    rw [value_fadeFrom start r g b first third,
      uniform (i % 3) i first inside (Nat.mod_mod i 3), toNat_ofInt (by omega) (by omega)]

theorem shade_full (start : Matrix) (r g b : UInt8) {i : Nat}
    (inside : i < rows * ledsPerRow * 3) :
    shade start (fadeFrom start r g b) i inside steps = target r g b (i % 3) := by
  have third : i % 3 < 3 := Nat.mod_lt i (by decide)
  have first : i % 3 < rows * ledsPerRow * 3 := Nat.lt_of_lt_of_le third (by decide)
  have whole : ((steps : Nat) : Rat) / (steps : Nat) = 1 := div_self (by norm_num [steps])
  rw [shade, if_neg (by decide), whole, value_fadeFrom start r g b first third, level_one]
  have byte := (target r g b (i % 3)).toNat_lt
  have same := @toNat_ofInt (target r g b (i % 3)).toNat (by omega) (by omega)
  exact UInt8.toNat_inj.mp (Int.ofNat_inj.mp same)

/-- The matrix before and after each of the frames, and the values assigned on the way. -/
structure Smooth (start : Matrix) (r g b : UInt8) (after : Panel) : Prop where
  frames : after.displayed.length = steps * 2
  between : ∀ entry ∈ after.assigned, ∀ (i : Nat) (inside : i < rows * ledsPerRow * 3),
    i % 3 = entry.1 % 3 -> Between start[i].toNat (target r g b (i % 3)).toNat entry.2
  monotone : (start :: after.displayed).Pairwise fun earlier later =>
    ∀ (i : Nat) (inside : i < rows * ledsPerRow * 3),
      Toward start[i].toNat (target r g b (i % 3)).toNat earlier[i].toNat later[i].toNat
  ordered : ∀ frame ∈ after.displayed,
    ∀ (i below : Nat) (first : i < rows * ledsPerRow * 3) (second : below < rows * ledsPerRow * 3),
      below / 12 = i / 12 + 1 -> below % 3 = i % 3 ->
      fraction start[below].toNat (target r g b (below % 3)).toNat frame[below].toNat ≤
        fraction start[i].toNat (target r g b (i % 3)).toNat frame[i].toNat

theorem toward_frames {start : Matrix} (uniform : Uniform start) (r g b : UInt8) {i j : Nat}
    (first : i < rows * ledsPerRow * 3) (second : j < rows * ledsPerRow * 3)
    (channel : j % 3 = i % 3) {before later : Nat}
    (farther : reached (i / 12) before ≤ reached (j / 12) later) :
    Toward start[i].toNat (target r g b (i % 3)).toNat
      (frameAfter start (fadeFrom start r g b) before)[i].toNat
      (frameAfter start (fadeFrom start r g b) later)[j].toNat := by
  have part : ((reached (i / 12) before : Nat) : Rat) / (steps : Nat) ≤
      ((reached (j / 12) later : Nat) : Rat) / (steps : Nat) :=
    div_le_div_of_nonneg_right (by exact_mod_cast farther) (by positivity)
  rw [getElem_frameAfter, getElem_frameAfter, toNat_shade uniform r g b first (reached_le _ _),
    toNat_shade uniform r g b second (reached_le _ _), channel,
    uniform j i second first channel]
  exact level_toward part

theorem frameAfter_zero (start : Matrix) (fade : Fade) : frameAfter start fade 0 = start := by
  ext i inside
  simp [getElem_frameAfter, shade, reached]

theorem neoMigrate_smooth (panel : Panel) (r g b : UInt8) :
    (∀ (i : Nat) (inside : i < rows * ledsPerRow * 3),
      (neoMigrate r g b { panel with assigned := [], displayed := [] }).array[i] =
        target r g b (i % 3)) ∧
    (Uniform panel.array ->
      Smooth panel.array r g b
        (neoMigrate r g b { panel with assigned := [], displayed := [] })) := by
  obtain ⟨shown, frames⟩ :=
    shown_neoMigrate r g b { panel with assigned := [], displayed := [] } rfl
  simp only [List.nil_append] at shown frames
  constructor
  next =>
    intro i inside
    have bound : i < 48 := inside
    have saturated : reached (i / 12) (steps * 2) = steps := by
      simp only [reached, steps]
      omega
    rw [shown.array i inside, saturated, shade_full]
  next =>
    intro uniform
    constructor
    case frames => rw [frames, List.length_map, List.length_range]
    case between =>
      intro entry member i inside channel
      obtain ⟨gone, most, value⟩ := shown.assigned entry member
      have third : i % 3 < 3 := Nat.mod_lt i (by decide)
      have first : i % 3 < rows * ledsPerRow * 3 := Nat.lt_of_lt_of_le third (by decide)
      obtain ⟨least, atMost⟩ := gone_fraction most
      rw [value, ← channel, value_fadeFrom panel.array r g b first third,
        uniform (i % 3) i first inside (Nat.mod_mod i 3)]
      exact between_level least atMost
    case monotone =>
      -- The matrix at the start is the frame after no step at all.
      have all : panel.array :: (neoMigrate r g b
            { panel with assigned := [], displayed := [] }).displayed =
          (List.range (steps * 2 + 1)).map
            (frameAfter panel.array (fadeFrom panel.array r g b)) := by
        rw [frames, List.range_succ_eq_map, List.map_cons, List.map_map, frameAfter_zero]
        rfl
      rw [all, List.pairwise_map]
      apply List.pairwise_lt_range.imp
      intro earlier later order i inside
      apply toward_frames uniform r g b inside inside rfl
      simp only [reached]
      omega
    case ordered =>
      intro frame member i below first second next channel
      rw [frames, List.mem_map] at member
      obtain ⟨count, -, rfl⟩ := member
      rw [channel, uniform below i second first channel]
      apply fraction_le
      have order : reached (below / 12) (count + 1) ≤ reached (i / 12) (count + 1) := by
        simp only [reached]
        omega
      have toward := toward_frames uniform r g b second first channel.symm order
      rwa [channel, uniform below i second first channel] at toward

def dark : Panel :=
  { array := Vector.replicate _ 0, threshold := Vector.replicate _ 0, assigned := [], displayed := [] }

theorem neoMigrate_smooth_dark : Smooth dark.array 64 0 0 (neoMigrate 64 0 0 dark) :=
  (neoMigrate_smooth dark 64 0 0).2 fun i j first second _ => by simp [dark]

end AvrVoiceControl.NeoPixel
