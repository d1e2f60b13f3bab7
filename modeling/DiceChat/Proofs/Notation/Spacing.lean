import DiceChat.Proofs.Notation.Grammar
import DiceChat.Session

/-! Blanks mean nothing in dice notation: wherever they stand, the same dice are rolled. -/

namespace DiceChat

/-- A text without any of its blanks. -/
def withoutBlanks (text : Text) : Text :=
  text.filter fun c => !isBlank c

/-- A change of texts that touches blanks only: the first visible character stays, and what follows it is changed in
the same way. -/
def KeepsVisible (change : Text → Text) : Prop :=
  ∀ text, skipBlanks (change text) =
    match skipBlanks text with
    | [] => []
    | c :: rest => c :: change rest

/-- Two settings ask for the same dice and the same modifier; what they are for may differ. -/
structure Settings.SameDice (settings others : Settings) : Prop where
  /-- There are as many dice. -/
  number : others.number = settings.number
  /-- The dice have as many sides. -/
  sides : others.sides = settings.sides
  /-- The same is added to their sum. -/
  modifier : others.modifier = settings.modifier

/-- What came up in a session: the faces and the total of each attempt, and which attempt counts. -/
def Session.outcome (session : Session) : List (List Int × Int) × Nat :=
  (session.rolls.map fun roll => (roll.values, roll.total), session.winner)

/-- Settings that ask for the same dice make the same come up, and leave the die alike. -/
theorem Settings.SameDice.roll {settings others : Settings} (same : settings.SameDice others)
    (mode : Mode) (die : Die) :
    (others.roll mode die).1.outcome = (settings.roll mode die).1.outcome ∧
      (others.roll mode die).2 = (settings.roll mode die).2 := by
  -- Throwing never looks at the label.
  obtain ⟨number, sides, modifier, label⟩ := settings
  obtain ⟨number', sides', modifier', label'⟩ := others
  obtain ⟨rfl, rfl, rfl⟩ := same
  cases mode <;> exact ⟨rfl, rfl⟩

/-- Nothing is left without blanks exactly if all is blank. -/
theorem withoutBlanks_eq_nil_iff {text : Text} : withoutBlanks text = [] ↔ AllBlank text := by
  simp [withoutBlanks, AllBlank]

/-- A text without blanks is trimmed. -/
theorem isTrimmed_withoutBlanks (text : Text) : IsTrimmed (withoutBlanks text) := by
  -- None of its characters is blank, at the ends or elsewhere.
  have visible : ∀ c ∈ withoutBlanks text, isBlank c = false := by simp [withoutBlanks]
  exact ⟨fun c first => visible c (List.mem_of_mem_head? first),
    fun c last => visible c (List.mem_of_mem_getLast? last)⟩

/-- Taking all blanks out takes those at the ends as well. -/
theorem withoutBlanks_trim (text : Text) : withoutBlanks (trim text) = withoutBlanks text := by
  -- What is trimmed are blanks, so nothing visible is lost.
  obtain ⟨before, after, left, right, split, -⟩ := exists_trim text
  conv_rhs => rw [split, withoutBlanks, List.filter_append, List.filter_append]
  rw [← withoutBlanks, ← withoutBlanks, ← withoutBlanks, withoutBlanks_eq_nil_iff.mpr left,
    withoutBlanks_eq_nil_iff.mpr right, List.nil_append, List.append_nil]

/-- Taking all blanks out keeps what is visible. -/
theorem keepsVisible_withoutBlanks : KeepsVisible withoutBlanks := by
  intro text
  cases skipped : skipBlanks text with
  | nil => rw [withoutBlanks_eq_nil_iff.mpr (skipBlanks_eq_nil_iff.mp skipped)]; rfl
  | cons c rest =>
    -- The blanks before the first visible character are taken out, and it becomes the first one.
    obtain ⟨blanks, blank, visible, rfl⟩ := skipBlanks_eq_cons_iff.mp skipped
    have bare : withoutBlanks (blanks ++ c :: rest) = c :: withoutBlanks rest := by
      rw [withoutBlanks, List.filter_append, ← withoutBlanks, withoutBlanks_eq_nil_iff.mpr blank,
        List.nil_append, List.filter_cons_of_pos (by simp [visible])]
      rfl
    rw [bare, skipBlanks_cons visible]

namespace Notation

section Change

variable {change : Text → Text} (keeps : KeepsVisible change)

include keeps

/-- The next digit is the same in a changed text, and what follows it is changed. -/
theorem nextDigit?_change (text : Text) :
    nextDigit? (change text) = (nextDigit? text).map fun found => (found.1, change found.2) := by
  -- The first visible character decides.
  rw [nextDigit?, nextDigit?, keeps text]
  cases skipBlanks text with
  | nil => rfl
  | cons c rest =>
    dsimp only
    split <;> rfl

/-- The same digits are taken from a changed text. -/
theorem takeDigits_change (limit : Nat) (text : Text) :
    takeDigits limit (change text) =
      ((takeDigits limit text).1, change (takeDigits limit text).2) := by
  -- Behind each digit that is taken the text is changed as before.
  induction limit generalizing text with
  | zero => rfl
  | succ limit ih =>
    rw [takeDigits, takeDigits, nextDigit?_change keeps]
    cases nextDigit? text with
    | none => rfl
    | some found => simp [ih]

/-- The same number is read from a changed text. -/
theorem readNumber_change (text : Text) :
    readNumber (change text) = (readNumber text).map fun read => (read.1, change read.2) := by
  -- Whether the digits are too many or missing is seen from the digits alone.
  simp only [readNumber, takeDigits_change keeps]
  split
  · rfl
  · split <;> rfl

/-- The separator is read from a changed text if it is read from the text. -/
theorem readSeparator_change (text : Text) :
    readSeparator (change text) = (readSeparator text).map change := by
  -- Both texts are skipped to the same visible character, so both are refused or read on alike.
  rw [readSeparator, readSeparator, keeps text]
  cases skipBlanks text with
  | nil => rfl
  | cons c rest =>
    dsimp only
    split <;> rfl

/-- The same modifier is read from a changed text. -/
theorem readModifier_change (text : Text) :
    readModifier (change text) =
      (readModifier text).map fun read => (read.1, change read.2) := by
  -- Skipping is all that looks at blanks here; behind it both readers see the same.
  have skipped := keeps text
  cases visible : skipBlanks text with
  | nil => simp [readModifier, skipped, visible, Except.map]
  | cons c rest =>
    rw [visible] at skipped
    have number := readNumber_change keeps rest
    by_cases plus : c = '+'
    · subst plus
      simp only [readModifier, skipped, visible, number]
      cases readNumber rest <;> rfl
    by_cases minus : c = '-'
    · subst minus
      simp only [readModifier, skipped, visible, number]
      cases readNumber rest <;> rfl
    · -- Without a sign the whole text is handed on.
      simp [readModifier, skipped, visible, plus, minus, Except.map]

/-- The same settings are read from a changed text, but for a label that is changed with it. -/
theorem readSettings_change {rename : Text → Text}
    (relabels : ∀ text, readLabel (change text) = (readLabel text).map rename) (text : Text) :
    readSettings (change text) =
      (readSettings text).map fun settings =>
        { settings with label := settings.label.map rename } := by
  -- Every reader hands on the changed text, up to the label.
  simp only [readSettings, readNumber_change keeps]
  -- A fault ends both runs alike; otherwise they go on behind what was read.
  cases readNumber text with
  | error fault => rfl
  | ok number =>
    simp only [Except.map, Bind.bind, Except.bind, readSeparator_change keeps]
    cases readSeparator number.2 with
    | error fault => rfl
    | ok behind =>
      simp only [Except.map, readNumber_change keeps]
      cases readNumber behind with
      | error fault => rfl
      | ok sides =>
        simp only [Except.map, readModifier_change keeps]
        cases readModifier sides.2 with
        | error fault => rfl
        | ok modifier =>
          simp only [relabels]
          split <;> rfl

end Change

/-- Without blanks a text has the same label, without its blanks. -/
theorem readLabel_withoutBlanks (text : Text) :
    readLabel (withoutBlanks text) = (readLabel text).map withoutBlanks := by
  rw [readLabel, readLabel, (isTrimmed_withoutBlanks text).trim_eq]
  by_cases blank : AllBlank text
  · -- Blanks are no label.
    simp [withoutBlanks_eq_nil_iff.mpr blank, trim_eq_nil_iff.mpr blank]
  · have some_label := mt trim_eq_nil_iff.mp blank
    have some_bare := mt withoutBlanks_eq_nil_iff.mp blank
    simp [some_label, some_bare, withoutBlanks_trim]

/-- Without blanks a text is accepted as with them, and read as the same settings but for the label. -/
theorem parse_withoutBlanks_eq_ok_iff {text : Text} {bare : Settings} :
    parse (withoutBlanks text) = .ok bare ↔
      ∃ settings, parse text = .ok settings ∧
        { settings with label := settings.label.map withoutBlanks } = bare := by
  simp only [parse, mapError_eq_ok_iff, map_eq_ok_iff,
    readSettings_change keepsVisible_withoutBlanks readLabel_withoutBlanks]

/-- Without blanks a text is refused as with them, and for the same reason. -/
theorem fault_parse_withoutBlanks (text : Text) (fault : NotationFault) :
    (∃ refusal, parse (withoutBlanks text) = .error refusal ∧ refusal.fault = fault) ↔
      ∃ error, parse text = .error error ∧ error.fault = fault := by
  -- Only the text that is told with the error may differ.
  rw [parse, parse, readSettings_change keepsVisible_withoutBlanks readLabel_withoutBlanks]
  cases readSettings text <;> simp [Except.map, Except.mapError]

/-- Texts with the same visible characters ask for the same dice if one of them is accepted. -/
theorem exists_parse_of_withoutBlanks_eq {text other : Text} {settings : Settings}
    (same : withoutBlanks other = withoutBlanks text) (parsed : parse text = .ok settings) :
    ∃ others, parse other = .ok others ∧ settings.SameDice others := by
  -- Both are read as what is left of either without blanks.
  have bare := parse_withoutBlanks_eq_ok_iff.mpr ⟨settings, parsed, rfl⟩
  rw [← same] at bare
  obtain ⟨others, parsed', relabelled⟩ := parse_withoutBlanks_eq_ok_iff.mp bare
  injection relabelled with number sides modifier
  exact ⟨others, parsed', number, sides, modifier⟩

/-- A text is read without its blanks as with them, so texts with the same visible characters roll the same dice or are
refused for the same reason. -/
theorem parse_withoutBlanks (text : Text) :
    (∀ bare, parse (withoutBlanks text) = .ok bare ↔
      ∃ settings, parse text = .ok settings ∧
        { settings with label := settings.label.map withoutBlanks } = bare) ∧
    (∀ fault, (∃ refusal, parse (withoutBlanks text) = .error refusal ∧ refusal.fault = fault) ↔
      ∃ error, parse text = .error error ∧ error.fault = fault) ∧
    ∀ other, withoutBlanks other = withoutBlanks text →
      (∀ settings, parse text = .ok settings → ∃ others, parse other = .ok others ∧
        ∀ mode die, (others.roll mode die).1.outcome = (settings.roll mode die).1.outcome ∧
          (others.roll mode die).2 = (settings.roll mode die).2) ∧
      ∀ fault, (∃ refusal, parse other = .error refusal ∧ refusal.fault = fault) ↔
        ∃ error, parse text = .error error ∧ error.fault = fault := by
  -- The first two parts are known; the third compares two texts through their common bare form.
  refine ⟨fun bare => parse_withoutBlanks_eq_ok_iff, fault_parse_withoutBlanks text, ?_⟩
  intro other same
  constructor
  · intro settings parsed
    obtain ⟨others, parsed', alike⟩ := exists_parse_of_withoutBlanks_eq same parsed
    exact ⟨others, parsed', fun mode die => alike.roll mode die⟩
  · -- Both texts have the fault that their bare form has.
    intro fault
    rw [← fault_parse_withoutBlanks other, same, fault_parse_withoutBlanks text]

/-- Blanks between the digits, around the separator and the sign, and within the label roll the same dice. -/
theorem parse_withoutBlanks_spread :
    let text := " 1 2 D\t2 0 -\n0 3  two handed ".toList
    let other := "12 D20-0\u30003 twohand ed".toList
    withoutBlanks other = withoutBlanks text ∧
      parse text = .ok ⟨12, 20, some (-3), some "two handed".toList⟩ ∧
      parse "12D20-03twohanded".toList = .ok ⟨12, 20, some (-3), some "twohanded".toList⟩ ∧
      ∃ others, parse other = .ok others ∧ ∀ mode die,
        (others.roll mode die).1.outcome =
          (Settings.roll ⟨12, 20, some (-3), some "two handed".toList⟩ mode die).1.outcome := by
  intro text other
  -- The three texts differ in their blanks only.
  have same : withoutBlanks other = withoutBlanks text := by decide
  have parsed : parse text = .ok ⟨12, 20, some (-3), some "two handed".toList⟩ := by decide
  obtain ⟨accepted, -, alike⟩ := parse_withoutBlanks text
  -- The bare text keeps its visible characters, so its label has none of the blanks.
  have bare := (accepted _).mpr ⟨_, parsed, rfl⟩
  obtain ⟨others, parsed', rolled⟩ := (alike other same).1 _ parsed
  exact ⟨same, parsed, bare, others, parsed', fun mode die => (rolled mode die).1⟩

end Notation

end DiceChat
