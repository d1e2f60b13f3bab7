import DiceChat.Proofs.Notation.Grammar

/-! Parsing accepts exactly the grammar of dice notation, and every accepted text has one reading. -/

namespace DiceChat

namespace Notation

/-- The parts of a text in dice notation, in the order in which they stand. -/
structure Phrase where
  /-- The number of dice, with the blanks before and between its digits. -/
  number : Text
  /-- The blanks before the separator. -/
  gap : Text
  /-- The separator. -/
  letter : Char
  /-- The number of sides, with the blanks before and between its digits. -/
  sides : Text
  /-- The sign and the digits of the modifier with the blanks before them, or nothing. -/
  modifier : Text
  /-- What is left for the label. -/
  rest : Text
deriving DecidableEq

namespace Phrase

/-- The parts written one after the other. -/
def text (phrase : Phrase) : Text :=
  phrase.number ++ (phrase.gap ++ phrase.letter ::
    (phrase.sides ++ (phrase.modifier ++ phrase.rest)))

/-- The parts follow the grammar and describe the given settings. -/
structure Describes (phrase : Phrase) (settings : Settings) : Prop where
  /-- There is a number of dice, and it is not zero. -/
  number : ∃ value, IsNumber phrase.number value ∧ value ≠ 0 ∧ settings.number = value
  /-- Only blanks stand before the separator. -/
  gap : AllBlank phrase.gap
  /-- The separator is the letter in either case. -/
  letter : phrase.letter = 'd' ∨ phrase.letter = 'D'
  /-- There is a number of sides, and it is not zero. -/
  sides : ∃ value, IsNumber phrase.sides value ∧ value ≠ 0 ∧ settings.sides = value
  /-- The modifier is the one that the text means. -/
  modifier : IsModifier phrase.modifier settings.modifier
  /-- The last number ends before the first visible character behind it. -/
  ended : NoDigitAhead phrase.rest
  /-- A sign never starts the label unless a modifier stands before it. -/
  unsigned : phrase.modifier = [] → NoSignAhead phrase.rest
  /-- The label is what is left, between its blanks. -/
  label : IsLabel phrase.rest settings.label

/-- What follows the number of dice. -/
def behindNumber (phrase : Phrase) : Text :=
  phrase.gap ++ phrase.letter :: (phrase.sides ++ (phrase.modifier ++ phrase.rest))

variable {phrase : Phrase} {settings : Settings}

/-- The separator ends the number of dice. -/
theorem Describes.noDigit_behindNumber (describes : phrase.Describes settings) :
    NoDigitAhead phrase.behindNumber := by
  -- The first visible character is the separator.
  have letter := describes.letter
  have visible : isBlank phrase.letter = false := by
    rcases letter with same | same <;> rw [same] <;> decide
  intro c first
  rw [behindNumber, firstVisible_append describes.gap, firstVisible_cons visible,
    Option.some.injEq] at first
  subst first
  rcases letter with same | same <;> rw [same] <;> decide

/-- A sign, or else the end of the last number, ends the number of sides. -/
theorem Describes.noDigit_behindSides (describes : phrase.Describes settings) :
    NoDigitAhead (phrase.modifier ++ phrase.rest) := by
  -- What comes behind the sides is the modifier, if there is one, or else the rest.
  have modifier := describes.modifier
  have ended := describes.ended
  generalize phrase.modifier = row, settings.modifier = meant at modifier ⊢
  cases modifier with
  | missing => exact ended
  | @given blanks number sign value blank sign_ok number_ok =>
    intro c first
    -- The sign is visible, so it is the first visible character, and it is no digit.
    have visible : isBlank sign = false := by rcases sign_ok with rfl | rfl <;> decide
    rw [List.append_assoc, firstVisible_append blank, List.cons_append, firstVisible_cons visible,
      Option.some.injEq] at first
    subst first
    rcases sign_ok with rfl | rfl <;> decide

/-- The readers take a described text apart into exactly the parts it was made of. -/
theorem Describes.reads (describes : phrase.Describes settings) :
    ∃ number sides : Nat,
      (number ≠ 0 ∧ settings.number = number ∧ sides ≠ 0 ∧ settings.sides = sides) ∧
      readNumber phrase.text = .ok (number, phrase.behindNumber) ∧
      readSeparator phrase.behindNumber =
        .ok (phrase.sides ++ (phrase.modifier ++ phrase.rest)) ∧
      readNumber (phrase.sides ++ (phrase.modifier ++ phrase.rest)) =
        .ok (sides, phrase.modifier ++ phrase.rest) ∧
      readModifier (phrase.modifier ++ phrase.rest) = .ok (settings.modifier, phrase.rest) := by
  -- Each part of the phrase is read by its own reader, which stops where the next part starts.
  obtain ⟨number, number_ok, number_pos, number_eq⟩ := describes.number
  obtain ⟨sides, sides_ok, sides_pos, sides_eq⟩ := describes.sides
  refine ⟨number, sides, ⟨number_pos, number_eq, sides_pos, sides_eq⟩, ?_, ?_, ?_, ?_⟩
  · exact readNumber_eq_ok_iff.mpr
      ⟨phrase.number, rfl, number_ok, describes.noDigit_behindNumber⟩
  · exact readSeparator_eq_ok_iff.mpr
      ⟨phrase.gap, phrase.letter, rfl, describes.gap, describes.letter⟩
  · exact readNumber_eq_ok_iff.mpr
      ⟨phrase.sides, rfl, sides_ok, describes.noDigit_behindSides⟩
  · exact readModifier_eq_ok_iff.mpr
      ⟨phrase.modifier, rfl, describes.modifier, describes.unsigned, fun _ => describes.ended⟩

/-- A text has at most one division into parts that follow the grammar. -/
theorem Describes.unique {other : Phrase} {others : Settings}
    (describes : phrase.Describes settings) (otherwise : other.Describes others)
    (same : phrase.text = other.text) : phrase = other := by
  obtain ⟨number, sides, -, number_read, separator_read, sides_read, modifier_read⟩ :=
    describes.reads
  obtain ⟨number', sides', -, number_read', separator_read', sides_read', modifier_read'⟩ :=
    otherwise.reads
  -- Each reader leaves one rest, so the parts before the rests agree as well, from left to right.
  have behind : phrase.behindNumber = other.behindNumber := by
    rw [same, number_read'] at number_read
    exact (Prod.mk.inj (Except.ok.inj number_read)).2.symm
  have number_same : phrase.number = other.number := by
    have whole : phrase.number ++ phrase.behindNumber = other.number ++ other.behindNumber := same
    rw [behind] at whole
    exact List.append_cancel_right whole
  have behind_letter := separator_read
  rw [behind, separator_read', Except.ok.injEq] at behind_letter
  have letters : phrase.gap ++ [phrase.letter] = other.gap ++ [other.letter] := by
    have whole : phrase.gap ++ [phrase.letter] ++ (phrase.sides ++ (phrase.modifier ++ phrase.rest)) =
        other.gap ++ [other.letter] ++ (other.sides ++ (other.modifier ++ other.rest)) := by
      simpa [behindNumber] using behind
    rw [← behind_letter] at whole
    exact List.append_cancel_right whole
  obtain ⟨gap_same, letter_same⟩ := List.append_inj' letters rfl
  have behind_sides : phrase.modifier ++ phrase.rest = other.modifier ++ other.rest := by
    rw [← behind_letter, sides_read'] at sides_read
    exact (Prod.mk.inj (Except.ok.inj sides_read)).2.symm
  have sides_same : phrase.sides = other.sides := by
    rw [behind_sides] at behind_letter
    exact (List.append_cancel_right behind_letter).symm
  have rest_same : phrase.rest = other.rest := by
    rw [behind_sides, modifier_read'] at modifier_read
    exact (Prod.mk.inj (Except.ok.inj modifier_read)).2.symm
  have modifier_same : phrase.modifier = other.modifier := by
    rw [rest_same] at behind_sides
    exact List.append_cancel_right behind_sides
  cases phrase
  cases other
  simp_all

end Phrase

/-- Settings are read exactly if some parts that follow the grammar make up the text. -/
theorem readSettings_eq_ok_iff {text : Text} {settings : Settings} :
    readSettings text = .ok settings ↔
      ∃ phrase : Phrase, phrase.text = text ∧ phrase.Describes settings := by
  simp only [readSettings, bind_eq_ok_iff, Prod.exists]
  constructor
  · -- Each reader takes its row, and the zero check is passed at the end.
    rintro ⟨number, rest₁, number_read, rest₂, separator_read, sides, rest₃, sides_read, modifier,
      rest₄, modifier_read, last⟩
    obtain ⟨row, rfl, number_ok, -⟩ := readNumber_eq_ok_iff.mp number_read
    obtain ⟨gap, letter, rfl, blank, separates⟩ := readSeparator_eq_ok_iff.mp separator_read
    obtain ⟨side_row, rfl, sides_ok, sides_ended⟩ := readNumber_eq_ok_iff.mp sides_read
    obtain ⟨modifier_row, rfl, modifier_ok, unsigned, ended⟩ :=
      readModifier_eq_ok_iff.mp modifier_read
    by_cases zero : number = 0 ∨ sides = 0
    · simp [zero] at last
    rw [if_neg zero, Except.ok.injEq] at last
    subst last
    obtain ⟨number_pos, sides_pos⟩ := not_or.mp zero
    refine ⟨⟨row, gap, letter, side_row, modifier_row, rest₄⟩, rfl, ?_⟩
    exact {
      number := ⟨number, number_ok, number_pos, rfl⟩
      gap := blank
      letter := separates
      sides := ⟨sides, sides_ok, sides_pos, rfl⟩
      modifier := modifier_ok
      -- Without a modifier the digits of the sides end directly before the label.
      ended := by
        by_cases missing : modifier_row = []
        · simpa [missing] using sides_ended
        · exact ended missing
      unsigned := unsigned
      label := readLabel_eq_iff.mp rfl }
  · -- The readers are run over the parts, from left to right.
    rintro ⟨phrase, rfl, describes⟩
    obtain ⟨number, sides, ⟨number_pos, number_eq, sides_pos, sides_eq⟩, number_read,
      separator_read, sides_read, modifier_read⟩ := describes.reads
    have label_eq : readLabel phrase.rest = settings.label := readLabel_eq_iff.mpr describes.label
    refine ⟨number, _, number_read, _, separator_read, sides, _, sides_read, _, _,
      modifier_read, ?_⟩
    rw [if_neg (by simp [number_pos, sides_pos]), label_eq, ← number_eq, ← sides_eq]

/-- Parsing returns settings exactly for the texts that the grammar describes them by, in one way. -/
theorem parse_eq_ok_iff :
    (∀ text settings, parse text = .ok settings ↔
      ∃ phrase : Phrase, phrase.text = text ∧ phrase.Describes settings) ∧
    (∀ (phrase other : Phrase) (settings others : Settings), phrase.Describes settings →
      other.Describes others → phrase.text = other.text → phrase = other) := by
  constructor
  · -- Reading is describing, as every reader is.
    intro text settings
    rw [parse, mapError_eq_ok_iff]
    exact readSettings_eq_ok_iff
  · -- Two phrases of one text are split at the same places.
    intro phrase other settings others describes otherwise same
    exact describes.unique otherwise same

/-- Blanks inside numbers, a leading zero and a label behind the digits are read in one way. -/
theorem parse_eq_ok_iff_spaced :
    ∃ phrase : Phrase, phrase.text = " 2 0d6 - 03 nd".toList ∧
      phrase.Describes ⟨20, 6, some (-3), some "nd".toList⟩ ∧
      ∀ other others, other.Describes others → phrase.text = other.text → phrase = other := by
  -- The text is parsed by evaluation, and the theorem gives the parts and their uniqueness.
  obtain ⟨phrase, same, describes⟩ :=
    (parse_eq_ok_iff.1 " 2 0d6 - 03 nd".toList ⟨20, 6, some (-3), some "nd".toList⟩).mp rfl
  exact ⟨phrase, same, describes, fun other others => parse_eq_ok_iff.2 _ _ _ _ describes⟩

end Notation

end DiceChat
