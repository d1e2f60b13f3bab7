import DiceChat.Binary64
import DiceChat.Text.Format.Layout

/-! Whole numbers laid out as formats ask: in several bases, as a character, or as the nearest fraction. -/

namespace DiceChat

namespace Format

/-- Digits with a point before the last so many, or behind all if the point is to be kept. -/
def withPoint (keep : Bool) (places : Text) : Text :=
  if places.isEmpty ∧ !keep then [] else '.' :: places

/-- The leading digits of a number, so many of them, and the power of ten of the first one. -/
def leadingDigits (count value : Nat) : Text × Nat :=
  -- Rounding up may lead to one digit more, whose last one is zero.
  let digits := writeNat value
  if digits.length ≤ count then
    (digits ++ List.replicate (count - digits.length) '0', digits.length - 1)
  else
    let rounded := writeNat (Binary64.roundDiv value (Nat.pow 10 (digits.length - count)))
    if count < rounded.length then (rounded.dropLast, digits.length)
    else (rounded, digits.length - 1)

/-- The mark of an exponent and the exponent in at least two digits. -/
def exponentText (mark : Char) (exponent : Nat) : Text :=
  [mark, '+'] ++ zeroFill 2 (writeNat exponent)

/-- A number with all its digits and so many zeros behind the point. -/
def fixedParts (keep : Bool) (precision value : Nat) : Text × Text :=
  (writeNat value, withPoint keep (List.replicate precision '0'))

/-- A number with one digit before the point, so many behind it, and an exponent. -/
def scientificParts (keep : Bool) (mark : Char) (precision value : Nat) : Text × Text :=
  let (digits, exponent) := leadingDigits (precision + 1) value
  (digits.take 1, withPoint keep (digits.drop 1) ++ exponentText mark exponent)

/-- Digits without the zeros at their end. -/
def withoutEndZeros (digits : Text) : Text :=
  (digits.reverse.dropWhile (· = '0')).reverse

/-- A number with so many digits in all, with an exponent if it needs more. -/
def generalParts (keep : Bool) (mark : Char) (precision value : Nat) : Text × Text :=
  -- Zeros at the end are dropped unless they are to be kept.
  let count := max precision 1
  let (digits, exponent) := leadingDigits count value
  let before := if exponent < count then exponent + 1 else 1
  let places := digits.drop before
  let part := withPoint keep (if keep then places else withoutEndZeros places)
  (digits.take before, part ++ if exponent < count then [] else exponentText mark exponent)

/-- The fraction nearest to a number and a hundred times as great where a share is shown. -/
def nearest (hundredfold : Bool) (value : Nat) : Except FormatError (Option Nat) :=
  -- A hundred times the number may be beyond all fractions, and then has no digits.
  match (Binary64.ofQuotient false value 1).whole? with
  | none => .error .tooGreat
  | some whole =>
    if hundredfold then
      .ok ((Binary64.ofQuotient false (100 * whole.toNat) 1).whole?.map Int.toNat)
    else .ok (some whole.toNat)

/-- The digits of a fraction, and what stands behind them. -/
def fractionParts (format : Format) (value : Nat) : Text × Text :=
  -- Six digits are shown where the format does not tell.
  let precision := format.precision.getD 6
  match format.type with
  | 'e' | 'E' => scientificParts format.alternate format.type precision value
  | 'g' => generalParts format.alternate 'e' precision value
  | 'G' => generalParts format.alternate 'E' precision value
  | _ => fixedParts format.alternate precision value

/-- The greatest precision of fractions. -/
def maxPrecision : Nat := Nat.pow 2 31 - 1

/-- A whole number as a fraction, laid out as a format asks. -/
def showFraction (format : Format) (value : Int) : Except FormatError Text := do
  let share := format.type = '%'
  -- The number is found before the precision is looked at.
  let number ← nearest false value.natAbs
  if maxPrecision < format.precision.getD 0 then .error .precisionTooBig
  let number ← if share then nearest true value.natAbs else pure number
  let (digits, tail) := match number with
    | some number => format.fractionParts number
    | none => ([], "inf".toList)
  pure (format.arrange ⟨value < 0, [], digits, tail ++ if share then ['%'] else []⟩)

/-- The number of code points. -/
def codePoints : Nat := 0x110000

/-- The character with the number as its code, laid out as a format asks. -/
def showCharacter (format : Format) (value : Int) : Except FormatError Text :=
  -- A character is nothing to group.
  if format.sign.isSome then .error .characterSign
  else if format.alternate then .error .characterAlternate
  else if value < 0 ∨ (codePoints : Int) ≤ value then .error .noCharacter
  else .ok (format.arrange ⟨false, [], [], [Char.ofNat value.toNat]⟩)

/-- The base of a type of digits. -/
def baseOf : Char → Nat
  | 'b' => 2
  | 'o' => 8
  | 'x' | 'X' => 16
  | _ => 10

/-- The digits of a number in the base of a type, if they are not too many. -/
def digitsIn (type : Char) (value : Nat) : Except FormatError Text :=
  -- Only digits in tens have a limit.
  if baseOf type = 10 then
    match numeral? value with
    | some digits => .ok digits
    | none => .error .tooLong
  else
    let digits := Nat.toDigits (baseOf type) value
    .ok (if type = 'X' then digits.map Char.toUpper else digits)

/-- What stands before digits of a type where the format asks for it. -/
def baseMark (type : Char) : Text :=
  if baseOf type = 10 then [] else ['0', type]

/-- A whole number in digits, laid out as a format asks. -/
def showDigits (format : Format) (value : Int) : Except FormatError Text := do
  let digits ← digitsIn format.type value.natAbs
  let mark := if format.alternate then baseMark format.type else []
  pure (format.arrange ⟨value < 0, mark, digits, []⟩)

/-- A whole number, or a value of a kind that is laid out like one, laid out as a format asks. -/
def showWhole (format : Format) (kind : FormatKind) (value : Int) : Except FormatError Text :=
  -- The type tells the way, and digits and characters have neither precision nor negative zero.
  if "eEfFgG%".toList.contains format.type then format.showFraction value
  else if !"bcdoxXn".toList.contains format.type then .error (.unknownType format.type kind)
  else if format.precision.isSome then .error .wholePrecision
  else if format.unsignedZero then .error (.unsignedZero kind)
  else if format.type = 'c' then format.showCharacter value
  else format.showDigits value

end Format

/-- A whole number laid out as the text of a format asks; without a format it is a numeral. -/
def formatWhole (format : Text) (value : Int) : Except FormatError Text :=
  if format.isEmpty then (numeral? value).elim (.error .tooLong) .ok
  else do (← Format.read .whole format).showWhole .whole value

/-- A truth value laid out as the text of a format asks; without a format it is a word. -/
def formatTruth (format : Text) (value : Bool) : Except FormatError Text :=
  if format.isEmpty then .ok (if value then "True".toList else "False".toList)
  else do (← Format.read .truth format).showWhole .truth (if value then 1 else 0)

end DiceChat
