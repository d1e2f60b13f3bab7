import DiceChat.Text.Blank
import DiceChat.Text.Digit
import DiceChat.Text.Quoted

/-! Numerals are decimal texts of integers: one way to write them and a more tolerant way to read them. -/

namespace DiceChat

/-- The decimal digits of a natural number, without leading zeros. -/
def writeNat (n : Nat) : Text :=
  Nat.toDigits 10 n

/-- The decimal digits of an integer, with a minus sign when it is negative. -/
def writeInt : Int → Text
  -- The sign stands before the digits of the magnitude.
  | .ofNat n => writeNat n
  | .negSucc n => '-' :: writeNat (n + 1)

/-- The value of a sequence of digit values, the highest place first. -/
def digitsValue (digits : List Nat) : Nat :=
  -- Each further digit shifts what stands before it by one place.
  digits.foldl (fun value digit => 10 * value + digit) 0

/-- The value of a text of ASCII digits. -/
def asciiValue (digits : Text) : Nat :=
  digitsValue (digits.map fun c => c.toNat - '0'.toNat)

/-- Blanks that a numeral may be surrounded with: all but the four separator controls. -/
def isNumeralBlank (c : Char) : Bool :=
  isBlank c && !(0x1C ≤ c.toNat && c.toNat ≤ 0x1F)

/-- A text without the blanks that may surround a numeral. -/
def trimNumeral (text : Text) : Text :=
  ((text.dropWhile isNumeralBlank).reverse.dropWhile isNumeralBlank).reverse

/-- The digit values of digits that are separated by at most one underscore each. -/
def readDigits? : Text → Option (List Nat)
  -- An underscore stands between two digits only.
  | [] => none
  | [c] => (digitValue? c).map ([·])
  | c :: '_' :: rest => do
    let digit ← digitValue? c
    let digits ← readDigits? rest
    pure (digit :: digits)
  | c :: rest => do
    let digit ← digitValue? c
    let digits ← readDigits? rest
    pure (digit :: digits)

/-- The most digits that a numeral may have, leading zeros included. -/
def maxNumeralDigits : Nat := 4300

/-- Why a text is no numeral. -/
inductive NumeralFault where
  /-- It does not have the form of one. -/
  | malformed
  /-- It has more digits than a numeral may have. -/
  | tooLong (digits : Nat)
deriving DecidableEq

/-- Whether a character may belong to the row of digits of a numeral. -/
def isNumeralSign (c : Char) : Bool :=
  c == '_' || (digitValue? c).isSome

/-- The natural number that a row of digits stands for. -/
def readNatural (text : Text) : Except NumeralFault Nat :=
  -- The length of the row is noticed before anything that follows it.
  let row := text.takeWhile isNumeralSign
  match readDigits? row with
  | none => .error .malformed
  | some digits =>
    if maxNumeralDigits < digits.length then .error (.tooLong digits.length)
    else if row.length < text.length then .error .malformed
    else .ok (digitsValue digits)

/-- The integer that a numeral stands for, if the text is one. -/
def readInt (text : Text) : Except NumeralFault Int :=
  -- One sign may stand directly before the digits.
  match trimNumeral text with
  | '-' :: rest => (readNatural rest).map fun value => -(value : Int)
  | '+' :: rest => (readNatural rest).map fun value => (value : Int)
  | rest => (readNatural rest).map fun value => (value : Int)

/-- How many digits an integer has. -/
def digitCount (value : Int) : Nat :=
  (writeNat value.natAbs).length

/-- The numeral of an integer, unless it has more digits than a numeral may have. -/
def numeral? (value : Int) : Option Text :=
  if digitCount value ≤ maxNumeralDigits then some (writeInt value) else none

/-- The rule that a numeral of too many digits breaks. -/
def digitLimitText : Text :=
  "Exceeds the limit (".toList ++ writeNat maxNumeralDigits ++
    " digits) for integer string conversion".toList

/-- What can be done about a numeral of too many digits. -/
def digitLimitAdvice : Text :=
  "; use sys.set_int_max_str_digits() to increase the limit".toList

/-- The report of an integer that has too many digits to be written. -/
def longNumberMessage : Text :=
  digitLimitText ++ digitLimitAdvice

/-- The report of a numeral that has too many digits to be read. -/
def longNumeralMessage (digits : Nat) : Text :=
  digitLimitText ++ ": value has ".toList ++ writeNat digits ++ " digits".toList ++ digitLimitAdvice

/-- How many characters of a quoted text are shown in the report that it is no numeral. -/
def shownOfNumeral : Nat := 200

/-- The report of a text that is no numeral, given the text between quote marks. -/
def NumeralFault.message (quoted : Text) : NumeralFault → Text
  -- A long text is shown only in part, and then without the closing quote mark.
  | .malformed => "invalid literal for int() with base 10: ".toList ++ quoted.take shownOfNumeral
  | .tooLong digits => longNumeralMessage digits

end DiceChat
