import DiceChat.Numeral

/-! Formats tell how a value is laid out: padding, sign, width, grouping, precision, and the kind of digits. -/

namespace DiceChat

/-- Where padding goes. -/
inductive Alignment where
  /-- Behind the value. -/
  | left
  /-- Before the value. -/
  | right
  /-- On both sides, any odd character behind. -/
  | center
  /-- Between the sign and the digits. -/
  | inner
deriving DecidableEq

/-- The alignment that a character stands for. -/
def Alignment.ofChar? : Char → Option Alignment
  | '<' => some left
  | '>' => some right
  | '^' => some center
  | '=' => some inner
  | _ => none

/-- What a format says. -/
structure Format where
  /-- The character of the padding. -/
  fill : Char
  /-- Where the padding goes. -/
  alignment : Alignment
  /-- How numbers that are not negative are marked, if the format says so. -/
  sign : Option Char
  /-- Whether a negative zero is to lose its sign. -/
  unsignedZero : Bool
  /-- Whether the other form of the digits is asked for. -/
  alternate : Bool
  /-- The least width. -/
  width : Option Nat
  /-- What separates groups of digits. -/
  separator : Option Char
  /-- How many digits or characters are shown. -/
  precision : Option Nat
  /-- The kind of digits or text. -/
  type : Char
deriving DecidableEq

/-- What formats of one kind of value start from. -/
structure FormatKind where
  /-- The name of the kind of value in reports. -/
  name : Text
  /-- The type where none is given. -/
  type : Char
  /-- The alignment where none is given. -/
  alignment : Alignment
deriving DecidableEq

/-- Whole numbers stand to the right and are written in tens. -/
def FormatKind.whole : FormatKind := ⟨"int".toList, 'd', .right⟩

/-- Truth values are laid out as whole numbers. -/
def FormatKind.truth : FormatKind := ⟨"bool".toList, 'd', .right⟩

/-- Texts stand to the left. -/
def FormatKind.text : FormatKind := ⟨"str".toList, 's', .left⟩

/-- Why a value cannot be formatted. -/
inductive FormatError where
  /-- A number in the format is too great. -/
  | tooManyDigits
  /-- There is no number behind the point of the precision. -/
  | missingPrecision
  /-- The format does not have the form of one. -/
  | unreadable (format : Text) (kind : FormatKind)
  /-- Both separators are given. -/
  | bothSeparators
  /-- Digits of this type are not grouped so. -/
  | ungrouped (separator type : Char)
  /-- There is no such type for the value. -/
  | unknownType (type : Char) (kind : FormatKind)
  /-- A whole number is given a precision. -/
  | wholePrecision
  /-- The sign of a zero is asked about where there is none. -/
  | unsignedZero (kind : FormatKind)
  /-- A character is given a sign. -/
  | characterSign
  /-- A character is given another form. -/
  | characterAlternate
  /-- A number stands for no character. -/
  | noCharacter
  /-- A number is beyond those that fractions reach. -/
  | tooGreat
  /-- A number has too many digits. -/
  | tooLong
  /-- A precision is beyond all use. -/
  | precisionTooBig
  /-- A text is given a sign. -/
  | textSign (sign : Char)
  /-- A text is given another form. -/
  | textAlternate
  /-- A text is padded inside. -/
  | textInner
deriving DecidableEq

/-- A character as reports name it: itself, or its code where it does not show. -/
def codeName (least most : Nat) (c : Char) : Text :=
  -- The digits of the code have no leading zeros.
  if least < c.toNat ∧ c.toNat < most then [c]
  else "\\x".toList ++ Nat.toDigits 16 c.toNat

/-- What a format for the wrong kind of value is called. -/
def FormatKind.place (kind : FormatKind) : Text :=
  if kind.type = FormatKind.whole.type then "integer format specifier".toList
  else "string format specifier".toList

/-- The end of a report that names a kind of value. -/
def FormatKind.objectOf (kind : FormatKind) : Text :=
  " for object of type '".toList ++ kind.name ++ "'".toList

/-- What an error is reported as. -/
def FormatError.message : FormatError → Text
  | .tooManyDigits => "Too many decimal digits in format string".toList
  | .missingPrecision => "Format specifier missing precision".toList
  | .unreadable format kind =>
    "Invalid format specifier '".toList ++ format ++ "'".toList ++ kind.objectOf
  | .bothSeparators => "Cannot specify both ',' and '_'.".toList
  | .ungrouped separator type =>
    "Cannot specify '".toList ++ [separator] ++ "' with '".toList ++ codeName 32 128 type ++
      "'.".toList
  | .unknownType type kind =>
    "Unknown format code '".toList ++ codeName 32 128 type ++ "'".toList ++ kind.objectOf
  | .wholePrecision => "Precision not allowed in ".toList ++ FormatKind.whole.place
  | .unsignedZero kind => "Negative zero coercion (z) not allowed in ".toList ++ kind.place
  | .characterSign => "Sign not allowed with integer format specifier 'c'".toList
  | .characterAlternate =>
    "Alternate form (#) not allowed with integer format specifier 'c'".toList
  | .noCharacter => "%c arg not in range(0x110000)".toList
  | .tooGreat => "int too large to convert to float".toList
  | .tooLong => longNumberMessage
  | .precisionTooBig => "precision too big".toList
  | .textSign sign =>
    (if sign = ' ' then "Space".toList else "Sign".toList) ++ " not allowed in ".toList ++
      FormatKind.text.place
  | .textAlternate => "Alternate form (#) not allowed in ".toList ++ FormatKind.text.place
  | .textInner => "'=' alignment not allowed in ".toList ++ FormatKind.text.place

namespace Format

/-- The greatest number that a format may hold. -/
def maxNumber : Nat := Nat.pow 2 63 - 1

/-- The number that a format goes on with, if it does, and what follows it. -/
def readNumber (text : Text) : Except FormatError (Option Nat × Text) :=
  -- Digits of every script count.
  let digits := text.takeWhile fun c => (digitValue? c).isSome
  let value := digitsValue (digits.filterMap digitValue?)
  if digits.isEmpty then .ok (none, text)
  else if maxNumber < value then .error .tooManyDigits
  else .ok (some value, text.drop digits.length)

/-- The padding character and the alignment that a format starts with, and what follows them. -/
def readAlignment (text : Text) : Option Char × Option Alignment × Text :=
  -- A character before a mark of alignment is the padding, even if it is such a mark itself.
  match text with
  | [] => (none, none, [])
  | [mark] =>
    match Alignment.ofChar? mark with
    | some alignment => (none, some alignment, [])
    | none => (none, none, [mark])
  | first :: second :: rest =>
    match Alignment.ofChar? second, Alignment.ofChar? first with
    | some alignment, _ => (some first, some alignment, rest)
    | none, some alignment => (none, some alignment, second :: rest)
    | none, none => (none, none, first :: second :: rest)

/-- The character a text starts with if it is one of those given, and what follows it. -/
def readMark (marks : List Char) : Text → Option Char × Text
  | c :: rest => if marks.contains c then (some c, rest) else (none, c :: rest)
  | [] => (none, [])

/-- The separator that a format goes on with, if it does, and what follows it. -/
def readSeparator (text : Text) : Except FormatError (Option Char × Text) :=
  match text with
  | ',' :: '_' :: _ | '_' :: ',' :: _ => .error .bothSeparators
  | text => .ok (readMark [',', '_'] text)

/-- The precision that a format goes on with, if it does, and what follows it. -/
def readPrecision : Text → Except FormatError (Option Nat × Text)
  | '.' :: rest => do
    match ← readNumber rest with
    | (some precision, rest) => .ok (some precision, rest)
    | (none, _) => .error .missingPrecision
  | text => .ok (none, text)

/-- How many digits stand in a group, if digits of the given type are grouped so. -/
def groupSize? (separator type : Char) : Option Nat :=
  -- Digits in twos, eights and sixteens are only grouped by underscores, in fours.
  if "deEfFgG%".toList.contains type then some 3
  else if separator = '_' ∧ "boxX".toList.contains type then some 4
  else none

/-- What separates digits of a type that are not grouped so, if they are to be. -/
def ungrouped? (separator : Option Char) (type : Char) : Option Char :=
  -- The first character of all is never the type of any digits, which is found out later.
  separator.filter fun mark => type ≠ '\x00' ∧ (groupSize? mark type).isNone

/-- The format that a text describes for a kind of value. -/
def read (kind : FormatKind) (text : Text) : Except FormatError Format := do
  -- The parts come in a fixed order, and each may be missing.
  let (fill, alignment, rest) := readAlignment text
  let (sign, rest) := readMark ['+', '-', ' '] rest
  let (unsignedZero, rest) := readMark ['z'] rest
  let (alternate, rest) := readMark ['#'] rest
  let (zero, rest) := if fill.isSome then (none, rest) else readMark ['0'] rest
  let (width, rest) ← readNumber rest
  let (separator, rest) ← readSeparator rest
  let (precision, rest) ← readPrecision rest
  let type ← match rest with
    | [] => .ok kind.type
    | [type] => .ok type
    | _ => .error (.unreadable text kind)
  match ungrouped? separator type with
  | some mark => .error (.ungrouped mark type)
  | none => pure ()
  let usual := if zero.isSome ∧ kind.alignment = .right then .inner else kind.alignment
  pure
    { fill := if zero.isSome then '0' else fill.getD ' '
      alignment := alignment.getD usual
      sign, unsignedZero := unsignedZero.isSome, alternate := alternate.isSome
      width, separator, precision, type }

end Format

end DiceChat
