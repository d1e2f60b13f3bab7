import DiceChat.Settings

/-! Dice notation read from the left: number, separator, sides, an optional modifier, and the label. -/

namespace DiceChat

/-- Why a text is not dice notation. -/
inductive NotationFault where
  /-- A number or the separator is missing. -/
  | invalidFormat
  /-- A number has more than four digits. -/
  | tooBig
  /-- There are no dice, or the dice have no sides. -/
  | cannotBeZero
deriving DecidableEq

/-- A fault together with the trimmed text it was found in. -/
structure NotationError where
  /-- The reason. -/
  fault : NotationFault
  /-- The text without the blanks around it. -/
  fragment : Text
deriving DecidableEq

/-- What a fault is reported as, up to the text it was found in. -/
def NotationFault.heading : NotationFault → Text
  | .invalidFormat => "Invalid roll format: ".toList
  | .tooBig => "Number too big, at most 4 digits allowed: ".toList
  | .cannotBeZero => "Number of dices and dice sides cannot be zero: ".toList

/-- The report of an error: its heading and the text itself, unchanged. -/
def NotationError.message (error : NotationError) : Text :=
  error.fault.heading ++ error.fragment

namespace Notation

/-- The most digits a number may have. -/
def maxDigits : Nat := 4

/-- The next digit, behind any number of blanks, and what follows it. -/
def nextDigit? (text : Text) : Option (Char × Text) :=
  -- The blanks are skipped only if a digit follows them.
  match skipBlanks text with
  | c :: rest => if c.isDigit then some (c, rest) else none
  | [] => none

/-- At most so many digits with blanks before and between them, and what follows the last one. -/
def takeDigits : Nat → Text → Text × Text
  -- Blanks behind the last digit are left for what follows.
  | 0, text => ([], text)
  | limit + 1, text =>
    match nextDigit? text with
    | some (digit, rest) =>
      let (digits, rest) := takeDigits limit rest
      (digit :: digits, rest)
    | none => ([], text)

/-- The number a text starts with, and what follows it. -/
def readNumber (text : Text) : Except NotationFault (Nat × Text) :=
  -- One digit more than allowed is enough to refuse the number.
  let (digits, rest) := takeDigits (maxDigits + 1) text
  if maxDigits < digits.length then .error .tooBig
  else if digits.isEmpty then .error .invalidFormat
  else .ok (asciiValue digits, rest)

/-- What follows the separator between number and sides. -/
def readSeparator (text : Text) : Except NotationFault Text :=
  -- Blanks may stand before the letter.
  match skipBlanks text with
  | c :: rest => if c = 'd' ∨ c = 'D' then .ok rest else .error .invalidFormat
  | [] => .error .invalidFormat

/-- The modifier a text starts with, if it starts with a sign, and what follows it. -/
def readModifier (text : Text) : Except NotationFault (Option Int × Text) :=
  -- A sign must be followed by a number; a modifier of zero is no modifier.
  match skipBlanks text with
  | '+' :: rest => (readNumber rest).map fun (value, rest) =>
    (if value = 0 then none else some (value : Int), rest)
  | '-' :: rest => (readNumber rest).map fun (value, rest) =>
    (if value = 0 then none else some (-(value : Int)), rest)
  | _ => .ok (none, text)

/-- The label: what is left, trimmed, unless it is blank. -/
def readLabel (text : Text) : Option Text :=
  let label := trim text
  if label.isEmpty then none else some label

/-- The settings a text describes, or its first fault. -/
def readSettings (text : Text) : Except NotationFault Settings := do
  -- Zeros are noticed last, when everything else is in order.
  let (number, rest) ← readNumber text
  let rest ← readSeparator rest
  let (sides, rest) ← readNumber rest
  let (modifier, rest) ← readModifier rest
  if number = 0 ∨ sides = 0 then .error .cannotBeZero
  else .ok { number := number, sides := sides, modifier := modifier, label := readLabel rest }

/-- The settings a text describes, or the error to report. -/
def parse (text : Text) : Except NotationError Settings :=
  -- Every fault is reported with the whole text.
  (readSettings text).mapError fun fault => ⟨fault, trim text⟩

end Notation

end DiceChat
