import DiceChat.Text.Format.Basic

/-! The layout of formatted values: digits in groups, and padding up to the least width. -/

namespace DiceChat

/-- Digits, the lowest first, in groups of a size, with zeros where the least width asks for more. -/
def groupReversed (separator : Char) (size : Nat) : Nat → Text → Int → Text
  -- A separator that the width asks for is never the first character: a zero goes before it.
  | 0, digits, _ => digits
  | fuel + 1, digits, width =>
    let count := min size (max (max digits.length width.toNat) 1)
    let group := digits.take count ++ List.replicate (count - digits.length) '0'
    let rest := digits.drop count
    let width := width - count
    if rest.isEmpty ∧ width ≤ 0 then group
    else group ++ separator :: groupReversed separator size fuel rest (width - 1)

/-- Digits in groups, with as many zeros before them as the least width asks for. -/
def groupDigits (separator : Char) (size width : Nat) (digits : Text) : Text :=
  -- Every group takes at least one place.
  (groupReversed separator size (digits.length + width + 1) digits.reverse width).reverse

/-- Digits with zeros before them up to a least width. -/
def zeroFill (width : Nat) (digits : Text) : Text :=
  List.replicate (width - digits.length) '0' ++ digits

/-- The parts of a number as it is laid out. -/
structure NumberParts where
  /-- Whether it is negative. -/
  negative : Bool
  /-- What stands between the sign and the digits. -/
  mark : Text
  /-- The digits that may be grouped; none where there is nothing to group. -/
  digits : Text
  /-- What stands behind them. -/
  tail : Text
deriving DecidableEq

namespace Format

/-- The sign of a number. -/
def signOf (format : Format) (negative : Bool) : Text :=
  -- A plus or a space marks the numbers that are not negative.
  if negative then ['-']
  else
    match format.sign with
    | some '+' => ['+']
    | some ' ' => [' ']
    | _ => []

/-- The digits of a number, grouped and filled with zeros as the format asks. -/
def arrangeDigits (format : Format) (width : Nat) (digits : Text) : Text :=
  if digits.isEmpty then []
  else
    match format.separator with
    | none => zeroFill width digits
    | some separator =>
      groupDigits separator ((groupSize? separator format.type).getD 3) width digits

/-- A text between padding on the side that the format tells; inner padding goes before it. -/
def pad (format : Format) (text : Text) (missing : Nat) : Text :=
  match format.alignment with
  | .left => text ++ List.replicate missing format.fill
  | .right | .inner => List.replicate missing format.fill ++ text
  | .center =>
    List.replicate (missing / 2) format.fill ++ text ++
      List.replicate (missing - missing / 2) format.fill

/-- A number laid out as the format asks. -/
def arrange (format : Format) (parts : NumberParts) : Text :=
  -- Inner padding with zeros belongs to the digits; other inner padding follows the sign.
  let lead := format.signOf parts.negative ++ parts.mark
  let room := format.width.getD 0 - (lead.length + parts.tail.length)
  let zeros := if format.fill = '0' ∧ format.alignment = .inner then room else 0
  let body := format.arrangeDigits zeros parts.digits ++ parts.tail
  let missing := format.width.getD 0 - (lead.length + body.length)
  if format.alignment = .inner then lead ++ format.pad body missing
  else format.pad (lead ++ body) missing

end Format

end DiceChat
