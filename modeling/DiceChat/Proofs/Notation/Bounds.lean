import DiceChat.Proofs.Notation.Parse

/-! Settings that are parsed are small: four digits bound every number, and a label has something visible. -/

namespace DiceChat

/-- Settings as dice notation can describe them. -/
structure Settings.IsNotated (settings : Settings) : Prop where
  /-- The number of dice has at most four digits and is not zero. -/
  number : 1 ≤ settings.number ∧ settings.number ≤ 9999
  /-- The number of sides has at most four digits and is not zero. -/
  sides : 1 ≤ settings.sides ∧ settings.sides ≤ 9999
  /-- A modifier has at most four digits and is not zero. -/
  modifier : ∀ value ∈ settings.modifier, value ≠ 0 ∧ -9999 ≤ value ∧ value ≤ 9999
  /-- A label starts and ends with a visible character. -/
  label : ∀ label ∈ settings.label, label ≠ [] ∧ IsTrimmed label

namespace Notation

/-- Spaced digits are digits. -/
theorem SpacedDigits.isDigit {row digits : Text} (spaced : SpacedDigits row digits) :
    ∀ c ∈ digits, c.isDigit = true := by
  -- Every digit is checked where it joins the others.
  induction spaced with
  | none => simp
  | digit _ decimal _ ih =>
    intro c member
    rcases List.mem_cons.mp member with rfl | member
    · exact decimal
    · exact ih c member

/-- A number of four digits is below ten thousand. -/
theorem IsNumber.le {text : Text} {value : Nat} (number : IsNumber text value) : value ≤ 9999 := by
  -- So many digits bound the value by a power of ten.
  obtain ⟨digits, spaced, -, short, rfl⟩ := number
  have below := asciiValue_lt spaced.isDigit
  have most : 10 ^ digits.length ≤ 10 ^ 4 := Nat.pow_le_pow_right (by decide) short
  rw [asciiValue_eq] at below
  omega

/-- A modifier is not zero, and its magnitude is below ten thousand. -/
theorem IsModifier.le {text : Text} {modifier : Option Int} (given : IsModifier text modifier) :
    ∀ value ∈ modifier, value ≠ 0 ∧ -9999 ≤ value ∧ value ≤ 9999 := by
  -- A zero means no modifier, and a minus sign turns the value around.
  cases given with
  | missing => simp
  | @given blanks number sign magnitude blank sign_ok number_ok =>
    have most := number_ok.le
    intro value member
    rw [signed] at member
    split at member
    · cases member
    · split at member
      all_goals
        obtain rfl := Option.some.inj member
        omega

/-- Settings that are parsed are small. -/
theorem isNotated_of_parse {text : Text} {settings : Settings}
    (parsed : parse text = .ok settings) : settings.IsNotated := by
  -- The grammar tells where every part of the settings comes from.
  obtain ⟨phrase, -, describes⟩ := readSettings_eq_ok_iff.mp (mapError_eq_ok_iff.mp parsed)
  obtain ⟨number, number_ok, number_pos, number_eq⟩ := describes.number
  obtain ⟨sides, sides_ok, sides_pos, sides_eq⟩ := describes.sides
  have number_le := number_ok.le
  have sides_le := sides_ok.le
  refine ⟨by omega, by omega, describes.modifier.le, ?_⟩
  -- The label stands between blanks.
  have labelled := describes.label
  generalize phrase.rest = rest, settings.label = label at labelled ⊢
  cases labelled with
  | missing => simp
  | given _ _ visible trimmed =>
    rintro _ ⟨⟩
    exact ⟨visible, trimmed⟩

end Notation

end DiceChat
