import DiceChat.Proofs.Notation.Bounds

/-! Parameters are parsed as the settings they were written from, and so is a label that stays apart from them. -/

namespace DiceChat

/-- The settings without what they are for. -/
def Settings.unlabelled (settings : Settings) : Settings :=
  { settings with label := none }

/-- A label behind the parameters joins neither their last number nor, as a modifier, their dice. -/
structure Settings.StaysApart (settings : Settings) (label : Text) : Prop where
  /-- The label does not start with a digit. -/
  digit : ∀ c ∈ label.head?, c.isDigit = false
  /-- Where there is no modifier, the label does not start with a sign. -/
  sign : settings.modifier = none → ∀ c ∈ label.head?, c ≠ '+' ∧ c ≠ '-'

/-- The numeral of an integer that is not negative has no sign. -/
theorem writeInt_of_nonneg {value : Int} (nonneg : 0 ≤ value) :
    writeInt value = writeNat value.toNat := by
  -- Only a negative number has a sign.
  cases value with
  | ofNat n => rfl
  | negSucc n => exact absurd nonneg (Int.not_le.mpr (Int.negSucc_lt_zero n))

/-- The first visible character of a trimmed text is its first character. -/
theorem IsTrimmed.firstVisible_eq {text : Text} (trimmed : IsTrimmed text) :
    firstVisible text = text.head? := by
  -- A trimmed text does not start with a blank.
  cases text with
  | nil => rfl
  | cons c rest => exact Notation.firstVisible_cons (trimmed.start c rfl) rest

/-- Blanks behind a visible ending are no blanks at all if a text ends so without them as well. -/
theorem AllBlank.eq_nil_of_append {after ending first second : Text} (blank : AllBlank after)
    (visible : ending ≠ []) (trimmed : IsTrimmed ending)
    (same : first ++ ending ++ after = second ++ ending) : after = [] := by
  -- The last character would be blank on one side and visible on the other.
  by_contra some_blank
  have last := congrArg List.getLast? same
  simp only [List.getLast?_append, List.getLast?_eq_some_getLast some_blank,
    List.getLast?_eq_some_getLast visible, Option.some_or, Option.some.injEq] at last
  have clear := trimmed.ending _ (List.getLast?_eq_some_getLast visible)
  rw [← last, blank _ (List.getLast_mem some_blank)] at clear
  exact nomatch clear

namespace Notation

/-- A space is blank. -/
theorem allBlank_space : AllBlank [' '] := by
  simp [AllBlank, isBlank]

/-- Behind a space, a trimmed text starts with its own first character. -/
theorem firstVisible_space {text : Text} (trimmed : IsTrimmed text) :
    firstVisible (' ' :: text) = text.head? :=
  (firstVisible_append allBlank_space text).trans trimmed.firstVisible_eq

/-- A label is read behind a space as it is. -/
theorem readLabel_space {label : Text} (visible : label ≠ []) (trimmed : IsTrimmed label) :
    readLabel (' ' :: label) = some label := by
  -- The blank before the label is not part of it.
  have given := IsLabel.given allBlank_space allBlank_nil visible trimmed
  rw [List.append_nil] at given
  exact readLabel_eq_iff.mpr given

/-- A row of digits is spaced without any blanks. -/
theorem spacedDigits_of_isDigit {row : Text} (decimal : ∀ c ∈ row, c.isDigit = true) :
    SpacedDigits row row := by
  -- Every digit stands behind no blanks at all.
  induction row with
  | nil => exact .none
  | cons c row ih =>
    have others := ih fun other member => decimal other (List.mem_cons_of_mem c member)
    exact .digit allBlank_nil (decimal c List.mem_cons_self) others

/-- Blanks before a number belong to the number. -/
theorem IsNumber.behind {blanks text : Text} {value : Nat} (number : IsNumber text value)
    (blank : AllBlank blanks) : IsNumber (blanks ++ text) value := by
  obtain ⟨digits, spaced, some_digit, short, value_eq⟩ := number
  refine ⟨digits, ?_, some_digit, short, value_eq⟩
  -- The blanks join those before the first digit.
  cases spaced with
  | none => exact absurd rfl some_digit
  | digit before decimal others =>
    rw [← List.append_assoc]
    exact .digit (blank.append before) decimal others

/-- The numeral of a small number is a number with this value. -/
theorem isNumber_writeNat {n : Nat} (small : n ≤ 9999) : IsNumber (writeNat n) n := by
  -- The digits as they are written are a row of at most four.
  refine ⟨writeNat n, spacedDigits_of_isDigit fun c => isDigit_of_mem_writeNat,
    writeNat_ne_nil n, ?_, ?_⟩
  · rw [length_writeNat_le_iff (by decide)]
    omega
  · rw [← asciiValue_eq, asciiValue_writeNat]

/-- The modifier of small settings is shown as what it is read from. -/
theorem isModifier_modifierText {settings : Settings} (notated : settings.IsNotated) :
    IsModifier settings.modifierText settings.modifier := by
  rw [Settings.modifierText]
  cases given : settings.modifier with
  | none => exact .missing
  | some value =>
    obtain ⟨nonzero, least, most⟩ := notated.modifier value given
    -- A sign stands between two spaces, and the magnitude behind them.
    have magnitude : ∀ n : Nat, n ≤ 9999 → IsNumber ([' '] ++ writeNat n) n := fun n within =>
      (isNumber_writeNat within).behind allBlank_space
    -- The sign tells a positive modifier from a negative one.
    by_cases positive : 0 < value
    · have plus := IsModifier.given allBlank_space (.inl rfl) (magnitude value.toNat (by omega))
      have meant : signed '+' value.toNat = some value := by
        rw [signed, if_neg (by omega), if_neg (by decide), Int.toNat_of_nonneg (by omega)]
      rw [meant] at plus
      simp only [if_pos positive, writeInt_of_nonneg (Int.le_of_lt positive)]
      exact plus
    · have minus := IsModifier.given allBlank_space (.inr rfl) (magnitude (-value).toNat (by omega))
      have meant : signed '-' (-value).toNat = some value := by
        rw [signed, if_neg (by omega), if_pos rfl, Int.toNat_of_nonneg (by omega), Int.neg_neg]
      rw [meant] at minus
      simp only [if_neg positive, writeInt_of_nonneg (show 0 ≤ -value by omega)]
      exact minus

/-- Parameters with a text behind them, part by part. -/
def writtenPhrase (settings : Settings) (rest : Text) : Phrase :=
  { number := writeInt settings.number
    gap := []
    letter := 'd'
    sides := writeInt settings.sides
    modifier := settings.modifierText
    rest := rest }

/-- The parts are the parameters and the text behind them. -/
theorem text_writtenPhrase (settings : Settings) (rest : Text) :
    (writtenPhrase settings rest).text = settings.parameters ++ rest := by
  simp [writtenPhrase, Phrase.text, Settings.parameters]

variable {settings : Settings} {rest : Text}

/-- Only a missing modifier is not shown. -/
theorem modifier_eq_none_of_modifierText (hidden : settings.modifierText = []) :
    settings.modifier = none := by
  -- A modifier that is there is written with its sign, so the text would not be empty.
  rw [Settings.modifierText] at hidden
  cases given : settings.modifier with
  | none => rfl
  | some value =>
    simp only [given] at hidden
    split at hidden <;> simp at hidden

/-- Small settings are described by their parameters, and their label by a text behind that stays apart. -/
theorem describes_writtenPhrase (notated : settings.IsNotated) (ended : NoDigitAhead rest)
    (unsigned : settings.modifier = none → NoSignAhead rest) :
    (writtenPhrase settings rest).Describes { settings with label := readLabel rest } := by
  -- Both numbers are positive and short, so each is written as a row that is read back.
  have small : ∀ value : Int, 1 ≤ value ∧ value ≤ 9999 →
      ∃ n : Nat, IsNumber (writeInt value) n ∧ n ≠ 0 ∧ value = n := by
    intro value bounds
    have nonneg : 0 ≤ value := by omega
    refine ⟨value.toNat, ?_, by omega, (Int.toNat_of_nonneg nonneg).symm⟩
    rw [writeInt_of_nonneg nonneg]
    exact isNumber_writeNat (by omega)
  exact {
    number := small _ notated.number
    gap := allBlank_nil
    letter := .inl rfl
    sides := small _ notated.sides
    modifier := isModifier_modifierText notated
    ended := ended
    unsigned := fun hidden => unsigned (modifier_eq_none_of_modifierText hidden)
    label := readLabel_eq_iff.mp rfl }

/-- Parameters are read with a text behind them that stays apart, and the text is left for the label. -/
theorem parse_parameters_append (notated : settings.IsNotated) (ended : NoDigitAhead rest)
    (unsigned : settings.modifier = none → NoSignAhead rest) :
    parse (settings.parameters ++ rest) = .ok { settings with label := readLabel rest } := by
  rw [parse, mapError_eq_ok_iff, readSettings_eq_ok_iff]
  exact ⟨_, text_writtenPhrase settings rest, describes_writtenPhrase notated ended unsigned⟩

/-- Parameters alone are read as the settings without a label. -/
theorem parse_parameters_nil (notated : settings.IsNotated) :
    parse settings.parameters = .ok settings.unlabelled := by
  -- Nothing stands behind the parameters, so nothing can be taken for a part of them.
  have read := parse_parameters_append notated noDigitAhead_nil fun _ => noSignAhead_nil
  rw [List.append_nil] at read
  exact read

/-- A label between blanks is what the text starts with visibly. -/
theorem firstVisible_label {before label : Text} (left : AllBlank before) (visible : label ≠ [])
    (trimmed : IsTrimmed label) (after : Text) :
    firstVisible (before ++ label ++ after) = label.head? := by
  -- The blanks are skipped, and the label starts with no blank.
  rw [List.append_assoc, firstVisible_append left]
  cases label with
  | nil => exact absurd rfl visible
  | cons c label => exact firstVisible_cons (trimmed.start c rfl) _

/-- A text with a label starts visibly with the label. -/
theorem IsLabel.firstVisible_eq {text label : Text} (is_label : IsLabel text (some label)) :
    firstVisible text = label.head? := by
  cases is_label with
  | given left _ visible trimmed => exact firstVisible_label left visible trimmed _

/-- No sign is in parameters without a modifier. -/
theorem notMem_parameters (notated : settings.IsNotated) (missing : settings.modifier = none)
    {sign : Char} (sign_ok : sign = '+' ∨ sign = '-') : sign ∉ settings.parameters ++ [' '] := by
  have number : 0 ≤ settings.number := by have := notated.number; omega
  have sides : 0 ≤ settings.sides := by have := notated.sides; omega
  have digits : ∀ n : Nat, sign ∉ writeNat n := by
    intro n member
    have decimal := isDigit_of_mem_writeNat member
    rcases sign_ok with rfl | rfl <;> exact absurd decimal (by decide)
  -- All that is left are two numerals, a letter and a space.
  simp only [Settings.parameters, Settings.modifierText, missing, writeInt_of_nonneg number,
    writeInt_of_nonneg sides, List.append_nil, List.mem_append, digits, false_or, or_false,
    List.mem_singleton]
  rcases sign_ok with rfl | rfl <;> decide

/-- A label that is read behind a space starts with no sign if no modifier is read. -/
theorem noSignAhead_of_describes (notated : settings.IsNotated) (missing : settings.modifier = none)
    {label : Text} (labelled : settings.label = some label) {phrase : Phrase}
    (whole : phrase.text = settings.parameters ++ ' ' :: label)
    (describes : phrase.Describes settings) : NoSignAhead phrase.rest := by
  -- Only the row of the modifier is looked at, so the other parts are hidden.
  have modifier := describes.modifier
  have unsigned := describes.unsigned
  have given := describes.label
  rw [missing] at modifier
  rw [labelled] at given
  rw [Phrase.text] at whole
  generalize phrase.modifier = row, phrase.rest = rest, (none : Option Int) = meant
    at modifier unsigned given whole ⊢
  cases modifier with
  -- Without a modifier no sign may stand before the label.
  | missing => exact unsigned rfl
  | @given blanks number sign value blank sign_ok number_ok =>
    -- A sign that is read as a zero modifier stands before the label, where the parameters have none.
    cases given with
    | @given before _ after left right visible trimmed =>
      have split : phrase.number ++ (phrase.gap ++ phrase.letter :: (phrase.sides ++
          (blanks ++ sign :: (number ++ before)))) ++ label ++ after =
            settings.parameters ++ [' '] ++ label := by
        simpa using whole
      -- The label stands last in both, so it can be taken off.
      obtain rfl := right.eq_nil_of_append visible trimmed split
      rw [List.append_nil] at split
      have start := List.append_cancel_right split
      refine absurd ?_ (notMem_parameters notated missing sign_ok)
      rw [← start]
      simp

/-- With a label behind a space, parameters are read as the settings exactly if the label stays apart. -/
theorem parse_parameters_label_iff (notated : settings.IsNotated) {label : Text}
    (labelled : settings.label = some label) :
    parse (settings.parameters ++ ' ' :: label) = .ok settings ↔ settings.StaysApart label := by
  obtain ⟨visible, trimmed⟩ := notated.label label labelled
  constructor
  · intro read
    rw [parse, mapError_eq_ok_iff, readSettings_eq_ok_iff] at read
    obtain ⟨phrase, whole, describes⟩ := read
    -- The label is read from what is left, so it starts with the first visible character of that.
    have first : firstVisible phrase.rest = label.head? :=
      IsLabel.firstVisible_eq (labelled ▸ describes.label)
    refine ⟨fun c head => describes.ended c (first.trans head), fun missing c head => ?_⟩
    exact noSignAhead_of_describes notated missing labelled whole describes c (first.trans head)
  · intro apart
    -- Behind the space, what the label starts with is what is ahead.
    have first := firstVisible_space trimmed
    have ended : NoDigitAhead (' ' :: label) := fun c head => apart.digit c (first ▸ head)
    have read := parse_parameters_append notated ended fun missing c head =>
      apart.sign missing c (first ▸ head)
    rw [read, readLabel_space visible trimmed, ← labelled]

/-- Parameters are parsed as the settings that they show, and with the label exactly if it stays apart. -/
theorem parse_parameters :
    (∀ settings : Settings, settings.IsNotated →
      parse settings.parameters = .ok settings.unlabelled ∧
      ∀ label, settings.label = some label →
        (parse (settings.parameters ++ ' ' :: label) = .ok settings ↔ settings.StaysApart label)) ∧
    ∀ text settings, parse text = .ok settings →
      parse settings.parameters = .ok settings.unlabelled := by
  -- Texts that are accepted give notated settings, so the first part covers them.
  refine ⟨fun settings notated => ⟨parse_parameters_nil notated, ?_⟩, ?_⟩
  · exact fun label labelled => parse_parameters_label_iff notated labelled
  · exact fun text settings parsed => parse_parameters_nil (isNotated_of_parse parsed)

/-- A label that starts with a sign stays apart behind a modifier, and is taken for one without it. -/
theorem parse_parameters_sign :
    let settings : Settings := ⟨2, 6, some (-30), some "+0 fire".toList⟩
    let plain : Settings := { settings with modifier := none }
    settings.IsNotated ∧ plain.IsNotated ∧
      parse "2d6 - 30 +0 fire".toList = .ok settings ∧
      parse "2d6 +0 fire".toList ≠ .ok plain ∧
      parse plain.parameters = .ok plain.unlabelled := by
  intro settings plain
  -- The label is the same in both settings; only the modifier before it differs.
  have label : ∀ label ∈ settings.label, label ≠ [] ∧ IsTrimmed label := by
    rintro _ ⟨⟩
    exact ⟨by decide, ⟨by simp [isBlank], by simp [isBlank]⟩⟩
  have notated : settings.IsNotated := ⟨by decide, by decide, by rintro _ ⟨⟩; decide, label⟩
  have plain_notated : plain.IsNotated := ⟨by decide, by decide, by rintro _ ⟨⟩, label⟩
  obtain ⟨-, labelled⟩ := parse_parameters.1 settings notated
  obtain ⟨bare, plain_labelled⟩ := parse_parameters.1 plain plain_notated
  refine ⟨notated, plain_notated, ?_, ?_, bare⟩
  · -- Behind a modifier, the sign of the label is not taken for another one.
    exact (labelled _ rfl).mpr ⟨by simp, by rintro ⟨⟩⟩
  · -- Without one it is, so the label does not stay apart.
    intro read
    exact absurd rfl ((plain_labelled _ rfl).mp read |>.sign rfl '+' rfl).1

end Notation

end DiceChat
