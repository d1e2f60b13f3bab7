import DiceChat.Proofs.Notation.Parameters

/-! What dice notation can say: the settings that some text is read as, and a text for each of them. -/

namespace DiceChat

/-- Settings that some text is read as: small ones, with a label that does not start with a digit. -/
structure Settings.IsSpelled (settings : Settings) : Prop extends Settings.IsNotated settings where
  /-- A digit before the label would belong to the number before it. -/
  digit : ∀ label ∈ settings.label, ∀ c ∈ label.head?, c.isDigit = false

/-- The label of settings starts with a sign. -/
def Settings.HasSignedLabel (settings : Settings) : Prop :=
  ∃ sign rest, (sign = '+' ∨ sign = '-') ∧ settings.label = some (sign :: rest)

/-- A text that is read as the settings. -/
def Settings.spelling (settings : Settings) : Text :=
  match settings.label with
  | none => settings.parameters
  | some label =>
    -- Behind a modifier of zero, a sign at the start of the label is not taken for a modifier.
    settings.parameters ++ (if settings.modifier = none then " + 0".toList else []) ++ ' ' :: label

namespace Notation

/-- The modifier of a text is written out, and its value is zero. -/
def Phrase.HasZeroModifier (phrase : Phrase) : Prop :=
  ∃ blanks sign number, phrase.modifier = blanks ++ sign :: number ∧ AllBlank blanks ∧
    (sign = '+' ∨ sign = '-') ∧ IsNumber number 0

variable {settings : Settings} {text : Text}

/-- Settings that are read are among those that have a spelling. -/
theorem isSpelled_of_parse (parsed : parse text = .ok settings) : settings.IsSpelled := by
  refine ⟨isNotated_of_parse parsed, ?_⟩
  obtain ⟨phrase, -, describes⟩ := readSettings_eq_ok_iff.mp (mapError_eq_ok_iff.mp parsed)
  intro label labelled c head
  -- The label starts with the first visible character behind the last number.
  have first : firstVisible phrase.rest = label.head? :=
    IsLabel.firstVisible_eq (Option.mem_def.mp labelled ▸ describes.label)
  exact describes.ended c (first.trans head)

/-- A zero written out in front keeps a label apart that starts with no digit. -/
theorem parse_parameters_zero (notated : settings.IsNotated) (missing : settings.modifier = none)
    {rest : Text} (ended : NoDigitAhead rest) :
    parse (settings.parameters ++ " + 0".toList ++ rest) =
      .ok { settings with label := readLabel rest } := by
  rw [parse, mapError_eq_ok_iff, readSettings_eq_ok_iff]
  -- The parts are those of the parameters alone, with the zero for a modifier.
  have alone := describes_writtenPhrase notated noDigitAhead_nil fun _ => noSignAhead_nil
  refine ⟨{ writtenPhrase settings rest with modifier := " + 0".toList }, ?_, ?_⟩
  · have hidden : settings.modifierText = [] := by rw [Settings.modifierText, missing]
    simp [writtenPhrase, Phrase.text, Settings.parameters, hidden]
  -- A zero with its sign is a modifier that means none.
  · have zero : IsModifier " + 0".toList none :=
      .given allBlank_space (.inl rfl) ((isNumber_writeNat (Nat.zero_le _)).behind allBlank_space)
    have given : " + 0".toList ≠ [] := by decide
    exact {
      number := alone.number
      gap := alone.gap
      letter := alone.letter
      sides := alone.sides
      modifier := missing ▸ zero
      ended := ended
      unsigned := fun hidden => absurd hidden given
      label := readLabel_eq_iff.mp rfl }

/-- A spelling is read as the settings it was made for. -/
theorem parse_spelling (spelled : settings.IsSpelled) : parse settings.spelling = .ok settings := by
  have notated := spelled.toIsNotated
  rw [Settings.spelling]
  cases labelled : settings.label with
  -- Without a label the parameters are the whole text.
  | none =>
    have same : settings.unlabelled = settings := by rw [Settings.unlabelled, ← labelled]
    rw [parse_parameters_nil notated, same]
  | some label =>
    obtain ⟨visible, trimmed⟩ := notated.label label labelled
    have digit := spelled.digit label labelled
    cases given : settings.modifier with
    -- A modifier stands between the dice and the label, so nothing has to keep them apart.
    | some value =>
      rw [if_neg (by simp), List.append_nil, parse_parameters_label_iff notated labelled]
      exact ⟨digit, fun missing => nomatch given.symm.trans missing⟩
    | none =>
      -- The zero modifier keeps apart whatever sign the label starts with.
      have first := firstVisible_space trimmed
      have read := parse_parameters_zero notated given fun c head => digit c (first ▸ head)
      rw [if_pos rfl, read, readLabel_space visible trimmed, ← labelled]

/-- Where a label starts with a sign and there is no modifier, the text has a modifier of zero before the label. -/
theorem hasZeroModifier_of_signed (signed_label : settings.HasSignedLabel)
    (missing : settings.modifier = none) {phrase : Phrase} (describes : phrase.Describes settings) :
    phrase.HasZeroModifier := by
  obtain ⟨sign, rest, sign_ok, labelled⟩ := signed_label
  have first : firstVisible phrase.rest = some sign :=
    IsLabel.firstVisible_eq (labelled ▸ describes.label)
  have modifier := describes.modifier
  have unsigned := describes.unsigned
  rw [Phrase.HasZeroModifier]
  generalize phrase.modifier = row, settings.modifier = meant at modifier unsigned missing ⊢
  cases modifier with
  | missing =>
    -- Without a modifier before it, the sign would have been taken for one.
    exact absurd sign_ok (not_or.mpr (unsigned rfl sign first))
  | @given blanks number sign value blank sign_ok number_ok =>
    -- A sign before a number that is not zero is a modifier.
    have zero : value = 0 := by
      by_contra positive
      rw [signed, if_neg positive] at missing
      split at missing
      all_goals exact Option.some_ne_none _ missing
    exact ⟨blanks, sign, number, rfl, blank, sign_ok, zero ▸ number_ok⟩

/-- Exactly the settings that have a spelling are read from some text; a label may start with a sign, and where there is
no modifier the text then has one of zero written out before it. -/
theorem exists_parse_iff :
    (∀ settings, (∃ text, parse text = .ok settings) ↔ settings.IsSpelled) ∧
    (∀ sign, sign = '+' ∨ sign = '-' → ∃ text settings rest, parse text = .ok settings ∧
      settings.modifier = none ∧ settings.label = some (sign :: rest)) ∧
    ∀ text settings, parse text = .ok settings → settings.HasSignedLabel →
      settings.modifier = none → ∃ phrase : Phrase, phrase.text = text ∧
        phrase.Describes settings ∧ phrase.HasZeroModifier := by
  refine ⟨fun settings => ⟨?_, fun spelled => ⟨_, parse_spelling spelled⟩⟩, ?_, ?_⟩
  · rintro ⟨text, parsed⟩
    exact isSpelled_of_parse parsed
  · intro sign sign_ok
    -- The sign alone is a label.
    have spelled : Settings.IsSpelled ⟨1, 1, none, some [sign]⟩ := by
      refine ⟨⟨by simp, by simp, nofun, ?_⟩, ?_⟩
      · rintro _ ⟨⟩
        have visible : isBlank sign = false := by rcases sign_ok with rfl | rfl <;> decide
        exact ⟨by simp, ⟨by simpa using visible, by simpa using visible⟩⟩
      · rintro _ ⟨⟩ _ ⟨⟩
        rcases sign_ok with rfl | rfl <;> decide
    exact ⟨_, _, [], parse_spelling spelled, rfl, rfl⟩
  · intro text settings parsed signed_label missing
    -- The text is parsed, so a phrase describes it.
    obtain ⟨phrase, whole, describes⟩ :=
      readSettings_eq_ok_iff.mp (mapError_eq_ok_iff.mp parsed)
    exact ⟨phrase, whole, describes, hasZeroModifier_of_signed signed_label missing describes⟩

/-- A label that looks like a modifier is read behind a modifier of zero, and only there. -/
theorem exists_parse_iff_signed :
    let settings : Settings := ⟨2, 6, none, some "-5 cold".toList⟩
    let text := "2d6 - 00 -5 cold".toList
    settings.IsSpelled ∧ settings.HasSignedLabel ∧ settings.modifier = none ∧
      parse text = .ok settings ∧ ∃ phrase : Phrase, phrase.text = text ∧
        phrase.Describes settings ∧ phrase.HasZeroModifier := by
  intro settings text
  obtain ⟨image, -, written⟩ := exists_parse_iff
  -- A signed label is read where a zero modifier stands before it.
  have parsed : parse text = .ok settings := by decide
  have signed_label : settings.HasSignedLabel := ⟨'-', "5 cold".toList, .inr rfl, rfl⟩
  exact ⟨(image settings).mp ⟨text, parsed⟩, signed_label, rfl, parsed,
    written text settings parsed signed_label rfl⟩

end Notation

end DiceChat
