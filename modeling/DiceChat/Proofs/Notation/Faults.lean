import DiceChat.Proofs.Notation.Grammar
import DiceChat.Text.Template

/-! Faults of dice notation: a text is scanned into fields, and the first field that is at fault decides. -/

namespace DiceChat

namespace Notation

/-- A text starts with digits, blanks before and between them, and no further digit is ahead of the rest. -/
structure DigitRun (text digits rest : Text) : Prop where
  /-- The digits and the blanks among them are the start of the text. -/
  start : ∃ row, text = row ++ rest ∧ SpacedDigits row digits
  /-- The run is as long as it can be. -/
  ended : NoDigitAhead rest

/-- Whether the separator stands ahead of a text, and what follows it; without one nothing is passed over. -/
inductive Separation : Text → Bool → Text → Prop where
  /-- The letter stands behind blanks. -/
  | present {text gap rest : Text} {letter : Char} (split : text = gap ++ letter :: rest)
      (blank : AllBlank gap) (separates : letter = 'd' ∨ letter = 'D') : Separation text true rest
  /-- The first visible character, if there is one, is another one. -/
  | missing {text : Text} (other : ∀ c, firstVisible text = some c → c ≠ 'd' ∧ c ≠ 'D') :
      Separation text false text

/-- The sign ahead of a text with the digits behind it, if there is a sign, and what follows. -/
inductive SignedRun : Text → Option (Char × Text) → Text → Prop where
  /-- A sign stands behind blanks, and then come the digits. -/
  | present {text gap behind digits rest : Text} {sign : Char} (split : text = gap ++ sign :: behind)
      (blank : AllBlank gap) (sign_ok : sign = '+' ∨ sign = '-')
      (run : DigitRun behind digits rest) : SignedRun text (some (sign, digits)) rest
  /-- The first visible character, if there is one, is no sign. -/
  | missing {text : Text} (unsigned : NoSignAhead text) : SignedRun text none text

/-- The fields of a text; a fault in one of them does not keep the others from being scanned. -/
structure Fields where
  /-- The digits of the number of dice. -/
  number : Text
  /-- Whether the separator stands behind them. -/
  separated : Bool
  /-- The digits of the number of sides. -/
  sides : Text
  /-- The sign of the modifier and the digits behind it, if there is a sign. -/
  modifier : Option (Char × Text)
  /-- What is left. -/
  rest : Text
deriving DecidableEq

/-- What is wrong with the digits of a number: they are too many, or there are none. -/
def digitFault? (digits : Text) : Option NotationFault :=
  if 4 < digits.length then some .tooBig
  else if digits = [] then some .invalidFormat
  else none

namespace Fields

/-- The fields are those of a text, scanned from left to right. -/
def Scans (fields : Fields) (text : Text) : Prop :=
  ∃ behindNumber behindSeparator behindSides,
    DigitRun text fields.number behindNumber ∧
    Separation behindNumber fields.separated behindSeparator ∧
    DigitRun behindSeparator fields.sides behindSides ∧
    SignedRun behindSides fields.modifier fields.rest

/-- What is wrong with each field, in the order in which they stand. -/
def faults (fields : Fields) : List (Option NotationFault) :=
  [digitFault? fields.number,
    if fields.separated then none else some .invalidFormat,
    digitFault? fields.sides,
    fields.modifier.bind fun signed => digitFault? signed.2]

/-- What is wrong with the first field that is at fault. -/
def firstFault? (fields : Fields) : Option NotationFault :=
  fields.faults.findSome? id

/-- There are no dice, or the dice have no sides. -/
def HasZero (fields : Fields) : Prop :=
  Nat.ofDigitChars 10 fields.number 0 = 0 ∨ Nat.ofDigitChars 10 fields.sides 0 = 0

instance (fields : Fields) : Decidable fields.HasZero :=
  inferInstanceAs (Decidable (_ ∨ _))

/-- The settings that fields describe if nothing is wrong with them. -/
def settings (fields : Fields) : Settings :=
  { number := Nat.ofDigitChars 10 fields.number 0
    sides := Nat.ofDigitChars 10 fields.sides 0
    modifier := fields.modifier.bind fun given => signed given.1 (Nat.ofDigitChars 10 given.2 0)
    label := readLabel fields.rest }

end Fields

/-- Spaced digits are no more than the characters among which they stand. -/
theorem SpacedDigits.length_le {row digits : Text} (spaced : SpacedDigits row digits) :
    digits.length ≤ row.length := by
  -- Each digit is one character of the row.
  induction spaced with
  | none => exact Nat.le_refl 0
  | digit _ _ _ ih =>
    simp only [List.length_cons, List.length_append]
    omega

/-- Every text starts with a run of digits, which may be empty. -/
theorem exists_digitRun (text : Text) : ∃ digits rest, DigitRun text digits rest := by
  -- A limit beyond the length of the text is never reached.
  obtain ⟨row, split, spaced, -, maximal⟩ := takeDigits_split (text.length + 1) text
  have whole := congrArg List.length split
  have short := spaced.length_le
  rw [List.length_append] at whole
  exact ⟨_, _, ⟨row, split, spaced⟩, maximal (by omega)⟩

namespace DigitRun

variable {text digits rest : Text}

/-- As many digits as there are in a run, or more, are taken from a text by taking the run. -/
theorem takeDigits_eq (run : DigitRun text digits rest) {limit : Nat}
    (within : digits.length ≤ limit) : takeDigits limit text = (digits, rest) := by
  obtain ⟨⟨row, rfl, spaced⟩, ended⟩ := run
  exact takeDigits_append spaced within ended

/-- A text starts with one run of digits only. -/
theorem unique {others after : Text} (run : DigitRun text digits rest)
    (other : DigitRun text others after) : others = digits ∧ after = rest := by
  -- Both runs are what is taken with a limit that is wide enough for either.
  have one := run.takeDigits_eq (Nat.le_max_left digits.length others.length)
  have two := other.takeDigits_eq (Nat.le_max_right digits.length others.length)
  exact Prod.mk.inj (two.symm.trans one)

/-- If a run has more digits than may be taken, all that may be taken are. -/
theorem length_takeDigits (run : DigitRun text digits rest) {limit : Nat}
    (beyond : limit < digits.length) : (takeDigits limit text).1.length = limit := by
  -- Digits that stop short of the limit would be the whole run.
  obtain ⟨row, split, spaced, within, maximal⟩ := takeDigits_split limit text
  by_contra short
  have taken : DigitRun text (takeDigits limit text).1 (takeDigits limit text).2 :=
    ⟨⟨row, split, spaced⟩, maximal (by omega)⟩
  have same := congrArg List.length (run.unique taken).1
  omega

/-- Whether a number is read, and which, depends on the whole run of digits. -/
theorem readNumber_eq (run : DigitRun text digits rest) :
    readNumber text =
      match digitFault? digits with
      | some fault => .error fault
      | none => .ok (Nat.ofDigitChars 10 digits 0, rest) := by
  -- One digit more than allowed is taken at most, which tells a long run from a short one.
  by_cases long : 4 < digits.length
  -- The reader stops with one digit too many.
  · have many : maxDigits < (takeDigits (maxDigits + 1) text).1.length := by
      by_cases beyond : maxDigits + 1 < digits.length
      · rw [run.length_takeDigits beyond]
        exact Nat.lt_succ_self maxDigits
      · rw [run.takeDigits_eq (Nat.not_lt.mp beyond)]
        exact long
    simp only [readNumber, digitFault?, if_pos long, if_pos many]
  -- The reader takes the whole run.
  · have taken : takeDigits (maxDigits + 1) text = (digits, rest) :=
      run.takeDigits_eq (Nat.le_succ_of_le (Nat.not_lt.mp long))
    have short : ¬maxDigits < digits.length := long
    simp only [readNumber, taken, digitFault?, if_neg long, if_neg short, List.isEmpty_iff,
      asciiValue_eq]
    split <;> rfl

end DigitRun

/-- Every text has the separator ahead or not. -/
theorem exists_separation (text : Text) : ∃ separated rest, Separation text separated rest := by
  -- Either the first visible character is another one, or it is the letter.
  by_cases other : ∀ c, firstVisible text = some c → c ≠ 'd' ∧ c ≠ 'D'
  · exact ⟨false, text, .missing other⟩
  · -- The first visible character is the letter, and blanks stand before it.
    simp only [not_forall, not_and_or, not_not] at other
    obtain ⟨letter, first, separates⟩ := other
    obtain ⟨gap, rest, blank, split⟩ := exists_of_firstVisible first
    exact ⟨true, rest, .present split blank separates⟩

namespace Separation

variable {text rest : Text} {separated : Bool}

/-- The separator is read if it is there, and else it is missed. -/
theorem readSeparator_eq (separation : Separation text separated rest) :
    readSeparator text = if separated then .ok rest else .error .invalidFormat := by
  cases separation with
  | present split blank separates =>
    exact readSeparator_eq_ok_iff.mpr ⟨_, _, split, blank, separates⟩
  | missing other =>
    -- Whatever the first visible character is, it is not the letter.
    rw [← head?_skipBlanks] at other
    rw [readSeparator]
    split
    · rename_i skipped
      rw [if_neg (not_or.mpr (other _ (congrArg List.head? skipped)))]
      rfl
    · rfl

/-- A text is separated in one way only. -/
theorem unique {again : Bool} {after : Text} (separation : Separation text separated rest)
    (other : Separation text again after) : again = separated ∧ after = rest := by
  -- The separator is read in one way, and where it is missing nothing is passed over.
  have same := separation.readSeparator_eq.symm.trans other.readSeparator_eq
  cases separation with
  | present =>
    cases other with
    | present => exact ⟨rfl, (Except.ok.inj same).symm⟩
    | missing => exact nomatch same
  | missing =>
    cases other with
    | present => exact nomatch same
    | missing => exact ⟨rfl, rfl⟩

end Separation

/-- Every text has a sign ahead or not. -/
theorem exists_signedRun (text : Text) : ∃ modifier rest, SignedRun text modifier rest := by
  -- What follows a sign is a run of digits, even if it is an empty one.
  by_cases unsigned : NoSignAhead text
  · exact ⟨none, text, .missing unsigned⟩
  · -- A sign is ahead, and blanks may stand before it.
    simp only [NoSignAhead, not_forall, not_and_or, not_not] at unsigned
    obtain ⟨sign, first, sign_ok⟩ := unsigned
    obtain ⟨gap, behind, blank, split⟩ := exists_of_firstVisible first
    obtain ⟨digits, rest, run⟩ := exists_digitRun behind
    exact ⟨some (sign, digits), rest, .present split blank sign_ok run⟩

/-- Where no sign is ahead, skipping does not stop at one. -/
theorem NoSignAhead.ne {text behind : Text} {sign : Char} (unsigned : NoSignAhead text)
    (skipped : skipBlanks text = sign :: behind) : ¬(sign = '+' ∨ sign = '-') := by
  -- The sign that is skipped to is the first visible character.
  refine not_or.mpr (unsigned sign ?_)
  rw [← head?_skipBlanks, skipped]
  rfl

namespace SignedRun

variable {text rest : Text} {modifier : Option (Char × Text)}

/-- Without a sign there is no modifier, and behind one the digits decide. -/
theorem readModifier_eq (run : SignedRun text modifier rest) :
    readModifier text =
      match modifier.bind fun given => digitFault? given.2 with
      | some fault => .error fault
      | none =>
        .ok (modifier.bind fun given => signed given.1 (Nat.ofDigitChars 10 given.2 0), rest) := by
  -- Without a sign nothing is read; behind one, the reader of numbers decides.
  cases run with
  | missing unsigned => exact readModifier_missing unsigned
  | present split blank sign_ok run =>
    rw [split, readModifier_sign blank sign_ok, run.readNumber_eq, Option.bind_some,
      Option.bind_some]
    cases digitFault? _ <;> rfl

/-- A text has one sign ahead at most, with one run of digits behind it. -/
theorem unique {again : Option (Char × Text)} {after : Text} (run : SignedRun text modifier rest)
    (other : SignedRun text again after) : again = modifier ∧ after = rest := by
  -- A sign that is ahead is where skipping stops, so either both have it or neither has.
  cases run with
  -- Neither has a sign, or the other one has a sign where there is none.
  | missing unsigned =>
    cases other with
    | missing => exact ⟨rfl, rfl⟩
    | present split blank sign_ok =>
      exact absurd sign_ok (unsigned.ne (split ▸ skipBlanks_sign blank sign_ok _))
  | @present _ behind _ _ _ split blank sign_ok run =>
    -- Both signs stand where skipping stops, so they are one, with one run behind it.
    have skipped := skipBlanks_sign blank sign_ok behind
    rw [← split] at skipped
    cases other with
    | missing unsigned => exact absurd sign_ok (unsigned.ne skipped)
    | present split' blank' sign_ok' run' =>
      rw [split', skipBlanks_sign blank' sign_ok'] at skipped
      obtain ⟨rfl, rfl⟩ := List.cons.inj skipped
      obtain ⟨rfl, rfl⟩ := run.unique run'
      exact ⟨rfl, rfl⟩

end SignedRun

namespace Fields

variable {fields : Fields} {text : Text}

/-- Every text has fields. -/
theorem exists_scans (text : Text) : ∃ fields : Fields, fields.Scans text := by
  -- Each field is scanned where the one before it ended.
  obtain ⟨number, behindNumber, number_run⟩ := exists_digitRun text
  obtain ⟨separated, behindSeparator, separation⟩ := exists_separation behindNumber
  obtain ⟨sides, behindSides, sides_run⟩ := exists_digitRun behindSeparator
  obtain ⟨modifier, rest, modifier_run⟩ := exists_signedRun behindSides
  exact ⟨⟨number, separated, sides, modifier, rest⟩, _, _, _, number_run, separation, sides_run,
    modifier_run⟩

/-- A text has one row of fields only. -/
theorem Scans.unique {other : Fields} (scans : fields.Scans text) (again : other.Scans text) :
    other = fields := by
  obtain ⟨number, separated, sides, modifier, rest⟩ := fields
  obtain ⟨number', separated', sides', modifier', rest'⟩ := other
  obtain ⟨_, _, _, number_run, separation, sides_run, modifier_run⟩ := scans
  obtain ⟨_, _, _, number_run', separation', sides_run', modifier_run'⟩ := again
  -- Equal fields leave equal rests, in which the next fields are equal.
  obtain ⟨rfl, rfl⟩ := number_run.unique number_run'
  obtain ⟨rfl, rfl⟩ := separation.unique separation'
  obtain ⟨rfl, rfl⟩ := sides_run.unique sides_run'
  obtain ⟨rfl, rfl⟩ := modifier_run.unique modifier_run'
  rfl

/-- Whether settings are read, and which, depends on the fields: first on their faults, then on zeros. -/
theorem Scans.readSettings_eq (scans : fields.Scans text) :
    readSettings text =
      match fields.firstFault? with
      | some fault => .error fault
      | none => if fields.HasZero then .error .cannotBeZero else .ok fields.settings := by
  obtain ⟨number, separated, sides, modifier, rest⟩ := fields
  obtain ⟨behindNumber, behindSeparator, behindSides, number_run, separation, sides_run,
    modifier_run⟩ := scans
  -- The readers stop at the first field that is at fault, which is where the search stops.
  simp only [firstFault?, faults, readSettings, number_run.readNumber_eq]
  cases number_fault : digitFault? number with
  | some fault => rfl
  | none =>
    simp only [Bind.bind, Except.bind, separation.readSeparator_eq]
    cases separated with
    | false => rfl
    | true =>
      simp only [if_true, sides_run.readNumber_eq]
      cases sides_fault : digitFault? sides with
      | some fault => rfl
      | none =>
        simp only [modifier_run.readModifier_eq]
        cases modifier_fault : modifier.bind fun given => digitFault? given.2 with
        | some fault => rfl
        | none => rfl

/-- A zero is never what is wrong with a single field. -/
theorem firstFault?_ne_cannotBeZero (fields : Fields) :
    fields.firstFault? ≠ some .cannotBeZero := by
  -- Digits are too many or missing, and a separator can only be missing.
  have digits : ∀ digits, digitFault? digits ≠ some .cannotBeZero := by
    intro digits
    rw [digitFault?]
    repeat' split
    all_goals simp
  intro first
  obtain ⟨fault, member, found⟩ := List.exists_of_findSome?_eq_some first
  subst found
  simp only [faults, List.mem_cons, List.not_mem_nil, or_false] at member
  rcases member with number | separated | sides | modifier
  · -- The two runs of digits.
    exact digits _ number.symm
  · split at separated <;> simp at separated
  · exact digits _ sides.symm
  · -- A modifier is at fault only for its run of digits.
    obtain ⟨given, -, fault⟩ := Option.bind_eq_some_iff.mp modifier.symm
    exact digits _ fault

/-- Parsing a text depends on its fields, and every error tells the trimmed text. -/
theorem Scans.parse_eq (scans : fields.Scans text) :
    parse text =
      match fields.firstFault? with
      | some fault => .error ⟨fault, trim text⟩
      | none =>
        if fields.HasZero then .error ⟨.cannotBeZero, trim text⟩ else .ok fields.settings := by
  -- The readers stop at the first fault, and the zero is looked for once they are done.
  rw [parse, scans.readSettings_eq]
  cases fields.firstFault? with
  | some fault => rfl
  | none => by_cases zero : fields.HasZero <;> simp [zero, Except.mapError]

/-- What a text is refused for is its first fault, or a zero among fields that are in order. -/
theorem Scans.refused_iff (scans : fields.Scans text) {error : NotationError} :
    parse text = .error error ↔ error.fragment = trim text ∧
      (fields.firstFault? = some error.fault ∨
        fields.firstFault? = none ∧ fields.HasZero ∧ error.fault = .cannotBeZero) := by
  obtain ⟨fault, fragment⟩ := error
  -- The text is quoted in the message as it is trimmed, whichever fault it is.
  rw [scans.parse_eq]
  cases fields.firstFault? with
  | some first => simp [and_comm, eq_comm]
  | none =>
    by_cases zero : fields.HasZero
    · simp [zero, and_comm, eq_comm]
    · simp [zero]

/-- A text is accepted exactly if its fields are in order and none of them is zero. -/
theorem Scans.accepted_iff (scans : fields.Scans text) {settings : Settings} :
    parse text = .ok settings ↔
      fields.firstFault? = none ∧ ¬fields.HasZero ∧ settings = fields.settings := by
  -- No fault and no zero is what is left.
  rw [scans.parse_eq]
  cases fields.firstFault? with
  | some first => simp
  | none =>
    by_cases zero : fields.HasZero
    · simp [zero]
    · simp [zero, eq_comm]

end Fields

/-- The report of an error is its template filled with the text, whose own braces mean nothing. -/
theorem fill_heading (error : NotationError) :
    (Template.ofText (error.fault.heading ++ "\x7b\x7d".toList)).fill (.text error.fragment) =
      .ok error.message := by
  rcases error with ⟨_ | _ | _, fragment⟩ <;> rfl

/-- A text has one row of fields, the first fault of which decides why it is refused, before any zero does. -/
theorem parse_classifies (text : Text) :
    ∃ fields : Fields, fields.Scans text ∧ (∀ other : Fields, other.Scans text → other = fields) ∧
      (∀ fault, fault ≠ .cannotBeZero →
        ((∃ error, parse text = .error error ∧ error.fault = fault) ↔
          fields.firstFault? = some fault)) ∧
      ((∃ error, parse text = .error error ∧ error.fault = .cannotBeZero) ↔
        fields.firstFault? = none ∧ fields.HasZero) ∧
      ((∃ settings, parse text = .ok settings) ↔ fields.firstFault? = none ∧ ¬fields.HasZero) ∧
      ∀ error, parse text = .error error →
        (∃ before after, AllBlank before ∧ AllBlank after ∧
          text = before ++ error.fragment ++ after ∧ IsTrimmed error.fragment) ∧
        error.message = error.fault.heading ++ error.fragment ∧
        (Template.ofText (error.fault.heading ++ "\x7b\x7d".toList)).fill (.text error.fragment) =
          .ok error.message := by
  obtain ⟨fields, scans⟩ := Fields.exists_scans text
  -- What the readers find of the one way to scan the text decides every part.
  refine ⟨fields, scans, fun other => scans.unique, ?_, ?_, ?_, ?_⟩
  · -- A fault other than the zero is met while reading, so it is the first one.
    intro fault other
    constructor
    · rintro ⟨error, refused, rfl⟩
      obtain ⟨-, first | ⟨-, -, zero⟩⟩ := scans.refused_iff.mp refused
      · exact first
      · exact absurd zero other
    · intro first
      exact ⟨⟨fault, trim text⟩, scans.refused_iff.mpr ⟨rfl, .inl first⟩, rfl⟩
  · -- The zero is looked for last, so there was no fault before it.
    constructor
    · rintro ⟨error, refused, zero⟩
      obtain ⟨-, first | ⟨sound, has_zero, -⟩⟩ := scans.refused_iff.mp refused
      · exact absurd (zero ▸ first) fields.firstFault?_ne_cannotBeZero
      · exact ⟨sound, has_zero⟩
    · rintro ⟨sound, has_zero⟩
      exact ⟨⟨.cannotBeZero, trim text⟩,
        scans.refused_iff.mpr ⟨rfl, .inr ⟨sound, has_zero, rfl⟩⟩, rfl⟩
  · -- What is accepted has neither, and nothing else keeps a text from being accepted.
    constructor
    · rintro ⟨settings, accepted⟩
      obtain ⟨sound, nonzero, -⟩ := scans.accepted_iff.mp accepted
      exact ⟨sound, nonzero⟩
    · rintro ⟨sound, nonzero⟩
      exact ⟨fields.settings, scans.accepted_iff.mpr ⟨sound, nonzero, rfl⟩⟩
  · -- The text that is quoted is the given one without the blanks around it.
    intro error refused
    obtain ⟨before, after, left, right, split, trimmed⟩ := exists_trim text
    rw [← (scans.refused_iff.mp refused).1] at split trimmed
    exact ⟨⟨before, after, left, right, split, trimmed⟩, rfl, fill_heading error⟩

/-- A text is too big on account of its second number, although the first one is zero and a brace follows. -/
theorem parse_classifies_tooBig :
    let fields : Fields := ⟨"0".toList, true, "99999".toList, none, " \x7b".toList⟩
    fields.Scans "0d99999 \x7b".toList ∧ fields.HasZero ∧ fields.firstFault? = some .tooBig ∧
      ∃ error, parse "0d99999 \x7b".toList = .error error ∧ error.fault = .tooBig ∧
        error.message = "Number too big, at most 4 digits allowed: 0d99999 \x7b".toList := by
  intro fields
  -- The digits of each run are counted off one by one.
  have scans : fields.Scans "0d99999 \x7b".toList := by
    have digit : ∀ {c row digits}, c.isDigit = true → SpacedDigits row digits →
        SpacedDigits (c :: row) (c :: digits) := fun decimal => .digit allBlank_nil decimal
    have separation : ∀ rest, Separation ('d' :: rest) true rest := fun rest =>
      .present (List.nil_append ('d' :: rest)).symm allBlank_nil (.inl rfl)
    refine ⟨_, _, _, ⟨⟨"0".toList, rfl, ?_⟩, ?_⟩, separation _, ⟨⟨"99999".toList, rfl, ?_⟩, ?_⟩,
      .missing ?_⟩
    · exact digit rfl .none
    · rintro c ⟨⟩
      rfl
    · exact digit rfl (digit rfl (digit rfl (digit rfl (digit rfl .none))))
    · rintro c ⟨⟩
      rfl
    · rintro c ⟨⟩
      decide
  -- The fields of a text are unique, so the law speaks about these.
  obtain ⟨others, -, only, classified, -, -, told⟩ := parse_classifies "0d99999 \x7b".toList
  obtain rfl := only fields scans
  have first : fields.firstFault? = some .tooBig := by decide
  -- The first fault is the error of the reader, and its message names the whole text.
  obtain ⟨error, refused, fault⟩ := (classified .tooBig (by decide)).mpr first
  obtain ⟨-, message, -⟩ := told error refused
  have fragment := congrArg NotationError.fragment (Except.error.inj refused)
  refine ⟨scans, by decide, first, error, refused, fault, ?_⟩
  rw [message, fault, ← fragment]
  rfl

end Notation

end DiceChat
