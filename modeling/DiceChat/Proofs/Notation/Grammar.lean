import DiceChat.Notation.Reader
import DiceChat.Proofs.Numeral
import DiceChat.Proofs.Outcome
import DiceChat.Proofs.Text.Blank

/-! The grammar of dice notation as relations between texts and what they say, and its readers as their deciders. -/

namespace DiceChat

namespace Notation

/-- Digits with blanks before and between them, and the digits without the blanks. -/
inductive SpacedDigits : Text → Text → Prop where
  /-- No digits. -/
  | none : SpacedDigits [] []
  /-- One more digit in front, perhaps behind blanks. -/
  | digit {blanks row digits : Text} {c : Char} (blank : AllBlank blanks)
      (decimal : c.isDigit = true) (others : SpacedDigits row digits) :
      SpacedDigits (blanks ++ c :: row) (c :: digits)

/-- A text is a number of at most four digits with the given value. -/
def IsNumber (text : Text) (value : Nat) : Prop :=
  ∃ digits, SpacedDigits text digits ∧ digits ≠ [] ∧ digits.length ≤ 4 ∧
    value = Nat.ofDigitChars 10 digits 0

/-- The modifier that a sign and a value mean: none if the value is zero. -/
def signed (sign : Char) (value : Nat) : Option Int :=
  if value = 0 then none else if sign = '-' then some (-(value : Int)) else some value

/-- A text is empty, or a sign and a number, and means the given modifier. -/
inductive IsModifier : Text → Option Int → Prop where
  /-- Nothing means no modifier. -/
  | missing : IsModifier [] none
  /-- A sign, perhaps behind blanks, is followed by a number. -/
  | given {blanks number : Text} {sign : Char} {value : Nat} (blank : AllBlank blanks)
      (sign_ok : sign = '+' ∨ sign = '-') (number_ok : IsNumber number value) :
      IsModifier (blanks ++ sign :: number) (signed sign value)

/-- A text between blanks is the given label; without a visible character there is none. -/
inductive IsLabel : Text → Option Text → Prop where
  /-- Blanks are no label. -/
  | missing {blanks : Text} (blank : AllBlank blanks) : IsLabel blanks none
  /-- The label starts with the first visible character and ends with the last one. -/
  | given {before label after : Text} (left : AllBlank before) (right : AllBlank after)
      (visible : label ≠ []) (trimmed : IsTrimmed label) :
      IsLabel (before ++ label ++ after) (some label)

/-- The first visible character of a text, if there is one, is no digit. -/
def NoDigitAhead (text : Text) : Prop :=
  ∀ c, firstVisible text = some c → c.isDigit = false

/-- The first visible character of a text, if there is one, is no sign. -/
def NoSignAhead (text : Text) : Prop :=
  ∀ c, firstVisible text = some c → c ≠ '+' ∧ c ≠ '-'

/-- No digit is ahead of an empty text. -/
theorem noDigitAhead_nil : NoDigitAhead [] :=
  fun _ first => nomatch first

/-- No sign is ahead of an empty text. -/
theorem noSignAhead_nil : NoSignAhead [] :=
  fun _ first => nomatch first

/-- A digit is not blank. -/
theorem isBlank_of_isDigit {c : Char} (decimal : c.isDigit = true) : isBlank c = false := by
  -- The ten digits lie behind the space and before the next blank.
  obtain ⟨low, high⟩ := isDigit_iff.mp decimal
  simp only [isBlank, Bool.or_eq_false_iff, Bool.and_eq_false_iff, decide_eq_false_iff_not,
    beq_eq_false_iff_ne]
  omega

/-- Behind blanks, the first visible character is that of what follows them. -/
theorem firstVisible_append {blanks : Text} (blank : AllBlank blanks) (rest : Text) :
    firstVisible (blanks ++ rest) = firstVisible rest := by
  rw [← head?_skipBlanks, skipBlanks_append blank, head?_skipBlanks]

/-- A visible character at the start is the first one. -/
theorem firstVisible_cons {c : Char} (visible : isBlank c = false) (rest : Text) :
    firstVisible (c :: rest) = some c := by
  rw [← head?_skipBlanks, skipBlanks_cons visible, List.head?_cons]

/-- The next digit is found exactly behind blanks. -/
theorem nextDigit?_eq_some_iff {text rest : Text} {c : Char} :
    nextDigit? text = some (c, rest) ↔
      ∃ blanks, AllBlank blanks ∧ c.isDigit = true ∧ text = blanks ++ c :: rest := by
  constructor
  · -- What is skipped are blanks, and the character behind them is looked at.
    intro found
    cases skipped : skipBlanks text with
    | nil => simp [nextDigit?, skipped] at found
    | cons first others =>
      simp only [nextDigit?, skipped, Option.ite_none_right_eq_some, Option.some.injEq,
        Prod.mk.injEq] at found
      obtain ⟨decimal, rfl, rfl⟩ := found
      obtain ⟨blanks, blank, -, split⟩ := skipBlanks_eq_cons_iff.mp skipped
      exact ⟨blanks, blank, decimal, split⟩
  · -- No digit is a blank, so skipping ends right before it.
    rintro ⟨blanks, blank, decimal, rfl⟩
    rw [nextDigit?, skipBlanks_append blank, skipBlanks_cons (isBlank_of_isDigit decimal)]
    exact if_pos decimal

/-- No digit is found exactly where none is ahead. -/
theorem nextDigit?_eq_none_iff {text : Text} : nextDigit? text = none ↔ NoDigitAhead text := by
  -- Both look at the first character behind the blanks.
  simp only [NoDigitAhead, ← head?_skipBlanks, nextDigit?]
  cases skipBlanks text <;> simp

/-- Taking digits splits a text behind the last digit taken, and leaves one only at the limit. -/
theorem takeDigits_split (limit : Nat) (text : Text) :
    ∃ row, text = row ++ (takeDigits limit text).2 ∧ SpacedDigits row (takeDigits limit text).1 ∧
      (takeDigits limit text).1.length ≤ limit ∧
      ((takeDigits limit text).1.length < limit → NoDigitAhead (takeDigits limit text).2) := by
  -- The induction follows the reader: each round takes one digit and the blanks before it.
  induction limit generalizing text with
  | zero => exact ⟨[], rfl, .none, Nat.le_refl 0, fun below => absurd below (Nat.lt_irrefl 0)⟩
  | succ limit ih =>
    cases found : nextDigit? text with
    | none =>
      -- No digit is ahead, so nothing is taken.
      have stopped : takeDigits (limit + 1) text = ([], text) := by simp [takeDigits, found]
      rw [stopped]
      exact ⟨[], rfl, .none, Nat.zero_le _, fun _ => nextDigit?_eq_none_iff.mp found⟩
    | some pair =>
      obtain ⟨c, rest⟩ := pair
      -- One digit is taken with its blanks, and the next round goes on behind it.
      obtain ⟨blanks, blank, decimal, rfl⟩ := nextDigit?_eq_some_iff.mp found
      obtain ⟨row, split, spaced, bounded, maximal⟩ := ih rest
      have taken : takeDigits (limit + 1) (blanks ++ c :: rest) =
          (c :: (takeDigits limit rest).1, (takeDigits limit rest).2) := by
        simp [takeDigits, found]
      rw [taken]
      refine ⟨blanks ++ c :: row, ?_, .digit blank decimal spaced, Nat.succ_le_succ bounded, ?_⟩
      · simpa using split
      · exact fun below => maximal (Nat.lt_of_succ_lt_succ below)

/-- Spaced digits are all taken if the limit allows, and no others if none is ahead. -/
theorem takeDigits_append {row digits rest : Text} (spaced : SpacedDigits row digits)
    {limit : Nat} (within : digits.length ≤ limit) (ended : NoDigitAhead rest) :
    takeDigits limit (row ++ rest) = (digits, rest) := by
  -- Each digit of the row uses up one unit of the limit.
  induction spaced generalizing limit with
  | none =>
    cases limit with
    | zero => rfl
    -- The row has ended, and no digit follows.
    | succ limit => simp [takeDigits, nextDigit?_eq_none_iff.mpr ended]
  | @digit blanks row digits c blank decimal others ih =>
    cases limit with
    | zero => simp at within
    | succ limit =>
      -- The next digit of the row is the one that is found.
      have found : nextDigit? (blanks ++ c :: row ++ rest) = some (c, row ++ rest) :=
        nextDigit?_eq_some_iff.mpr ⟨blanks, blank, decimal, by simp⟩
      rw [takeDigits, found]
      simp [ih (Nat.le_of_succ_le_succ within)]

/-- A number is read exactly where the text starts with one and no further digit is ahead. -/
theorem readNumber_eq_ok_iff {text rest : Text} {value : Nat} :
    readNumber text = .ok (value, rest) ↔
      ∃ row, text = row ++ rest ∧ IsNumber row value ∧ NoDigitAhead rest := by
  constructor
  · intro read
    obtain ⟨row, split, spaced, bounded, maximal⟩ := takeDigits_split (maxDigits + 1) text
    generalize taken : takeDigits (maxDigits + 1) text = pair at split spaced bounded maximal
    obtain ⟨digits, after⟩ := pair
    simp only [readNumber, taken] at read
    -- A row that is too long or empty is refused.
    by_cases long : maxDigits < digits.length
    · simp [long] at read
    by_cases empty : digits = []
    · simp [empty] at read
    -- With at most four digits the reader stopped because no digit was ahead.
    have short : digits.length ≤ maxDigits := Nat.le_of_not_lt long
    simp only [if_neg long, List.isEmpty_iff, if_neg empty, Except.ok.injEq, Prod.mk.injEq] at read
    obtain ⟨rfl, rfl⟩ := read
    exact ⟨row, split, ⟨digits, spaced, empty, short, asciiValue_eq digits⟩,
      maximal (Nat.lt_succ_of_le short)⟩
  · rintro ⟨row, rfl, ⟨digits, spaced, some_digit, short, rfl⟩, ended⟩
    -- A row that is no longer than allowed is taken as a whole.
    have taken := takeDigits_append spaced (Nat.le_succ_of_le short) ended
    simp only [readNumber, maxDigits, taken]
    rw [if_neg (Nat.not_lt.mpr short), if_neg (by simpa using some_digit), asciiValue_eq]

/-- A separator is read exactly where the letter stands behind blanks. -/
theorem readSeparator_eq_ok_iff {text rest : Text} :
    readSeparator text = .ok rest ↔
      ∃ gap letter, text = gap ++ letter :: rest ∧ AllBlank gap ∧
        (letter = 'd' ∨ letter = 'D') := by
  constructor
  · -- The letter is the first character that is not skipped.
    intro read
    cases skipped : skipBlanks text with
    | nil => simp [readSeparator, skipped] at read
    | cons letter others =>
      obtain ⟨gap, blank, -, split⟩ := skipBlanks_eq_cons_iff.mp skipped
      by_cases separates : letter = 'd' ∨ letter = 'D'
      · simp only [readSeparator, skipped, if_pos separates, Except.ok.injEq] at read
        exact ⟨gap, letter, read ▸ split, blank, separates⟩
      · simp [readSeparator, skipped, if_neg separates] at read
  · -- The letter is visible, so exactly the gap before it is skipped.
    rintro ⟨gap, letter, rfl, blank, separates⟩
    have visible : isBlank letter = false := by rcases separates with rfl | rfl <;> decide
    rw [readSeparator, skipBlanks_append blank, skipBlanks_cons visible]
    exact if_pos separates

/-- A sign that stands behind blanks is what skipping stops at. -/
theorem skipBlanks_sign {blanks : Text} (blank : AllBlank blanks) {sign : Char}
    (sign_ok : sign = '+' ∨ sign = '-') (rest : Text) :
    skipBlanks (blanks ++ sign :: rest) = sign :: rest := by
  have visible : isBlank sign = false := by rcases sign_ok with rfl | rfl <;> decide
  rw [skipBlanks_append blank, skipBlanks_cons visible]

/-- Behind a sign a number is read, and the sign is put before its value. -/
theorem readModifier_sign {blanks : Text} (blank : AllBlank blanks) {sign : Char}
    (sign_ok : sign = '+' ∨ sign = '-') (rest : Text) :
    readModifier (blanks ++ sign :: rest) =
      (readNumber rest).map fun read => (signed sign read.1, read.2) := by
  -- The two signs differ only in what becomes of the value.
  have skipped := skipBlanks_sign blank sign_ok rest
  rcases sign_ok with rfl | rfl <;> simp [readModifier, skipped, signed]

/-- Without a sign ahead there is no modifier, and nothing is read. -/
theorem readModifier_missing {text : Text} (missing : NoSignAhead text) :
    readModifier text = .ok (none, text) := by
  -- Both signs would be the first visible character.
  unfold readModifier
  split
  · rename_i skipped
    exact absurd rfl (missing '+' (by rw [← head?_skipBlanks, skipped]; rfl)).1
  · rename_i skipped
    exact absurd rfl (missing '-' (by rw [← head?_skipBlanks, skipped]; rfl)).2
  · rfl

/-- A modifier is read exactly where the grammar allows one, and a sign is never left behind. -/
theorem readModifier_eq_ok_iff {text rest : Text} {modifier : Option Int} :
    readModifier text = .ok (modifier, rest) ↔
      ∃ row, text = row ++ rest ∧ IsModifier row modifier ∧ (row = [] → NoSignAhead rest) ∧
        (row ≠ [] → NoDigitAhead rest) := by
  constructor
  · intro read
    by_cases missing : NoSignAhead text
    · -- Without a sign the row is empty.
      rw [readModifier_missing missing, Except.ok.injEq, Prod.mk.injEq] at read
      obtain ⟨rfl, rfl⟩ := read
      exact ⟨[], rfl, .missing, fun _ => missing, fun some_row => absurd rfl some_row⟩
    · -- The sign is the first visible character, and a number stands behind it.
      simp only [NoSignAhead, not_forall, not_and_or, not_not] at missing
      obtain ⟨sign, first, sign_ok⟩ := missing
      obtain ⟨blanks, others, blank, rfl⟩ := exists_of_firstVisible first
      rw [readModifier_sign blank sign_ok, map_eq_ok_iff] at read
      obtain ⟨⟨value, after⟩, number_read, same⟩ := read
      obtain ⟨rfl, rfl⟩ := Prod.mk.inj same
      obtain ⟨row, rfl, number_ok, ended⟩ := readNumber_eq_ok_iff.mp number_read
      exact ⟨blanks ++ sign :: row, by simp, .given blank sign_ok number_ok, by simp,
        fun _ => ended⟩
  -- The other way round, the row tells which of the two cases it is.
  · rintro ⟨row, rfl, is_modifier, unsigned, ended⟩
    cases is_modifier with
    | missing => exact readModifier_missing (unsigned rfl)
    | @given blanks number sign value blank sign_ok number_ok =>
      have read : readNumber (number ++ rest) = .ok (value, rest) :=
        readNumber_eq_ok_iff.mpr ⟨number, rfl, number_ok, ended (by simp)⟩
      rw [List.append_assoc, List.cons_append, readModifier_sign blank sign_ok, read]
      rfl

/-- The label that is read is the one that the grammar tells. -/
theorem readLabel_eq_iff {text : Text} {label : Option Text} :
    readLabel text = label ↔ IsLabel text label := by
  constructor
  · rintro rfl
    -- A text that trims to nothing holds blanks only; any other one has its label in the middle.
    by_cases empty : trim text = []
    · have none_read : readLabel text = none := by simp [readLabel, empty]
      rw [none_read]
      exact .missing (trim_eq_nil_iff.mp empty)
    · have some_read : readLabel text = some (trim text) := by simp [readLabel, empty]
      obtain ⟨before, after, left, right, split, trimmed⟩ := exists_trim text
      have given := IsLabel.given left right empty trimmed
      rwa [some_read, split, trim_append left right trimmed]
  -- Trimming a row of the grammar gives back its label.
  · intro is_label
    cases is_label with
    | missing blank => simp [readLabel, trim_eq_nil_iff.mpr blank]
    | given left right visible trimmed =>
      rw [readLabel, trim_append left right trimmed]
      simp [visible]

end Notation

end DiceChat
