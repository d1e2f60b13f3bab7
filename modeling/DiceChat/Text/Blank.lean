import DiceChat.Text.Basic

/-! Blank characters are the twenty-nine that Unicode counts as white space or as line and unit separators. -/

namespace DiceChat

/-- Whether a character is blank. -/
def isBlank (c : Char) : Bool :=
  -- The control blanks, the space, and the Unicode spaces and line separators.
  let code := c.toNat
  (0x09 ≤ code && code ≤ 0x0D) || (0x1C ≤ code && code ≤ 0x20) || code == 0x85 || code == 0xA0
    || code == 0x1680 || (0x2000 ≤ code && code ≤ 0x200A) || code == 0x2028 || code == 0x2029
    || code == 0x202F || code == 0x205F || code == 0x3000

/-- A text without the blanks it starts with. -/
def skipBlanks (text : Text) : Text :=
  text.dropWhile isBlank

/-- A text without the blanks at either end. -/
def trim (text : Text) : Text :=
  -- The end is trimmed by skipping blanks of the reversed text.
  (skipBlanks (skipBlanks text).reverse).reverse

end DiceChat
