import DiceChat.Text.Printable

/-! Quoted texts show every character of a text visibly between quote marks, on one line. -/

namespace DiceChat

/-- The mark around a text that holds no single quote, or holds both kinds. -/
def singleQuote : Char := '\x27'

/-- The mark around a text that holds a single quote and no double quote. -/
def doubleQuote : Char := '\x22'

/-- The mark a text is quoted with, chosen so that as few characters as possible need a backslash. -/
def quoteMark (text : Text) : Char :=
  -- Double quotes are used only where they save the single quotes inside from a backslash.
  if text.contains singleQuote && !text.contains doubleQuote then doubleQuote else singleQuote

/-- The last digits of a number in base sixteen, as many as asked for. -/
def hexDigits : Nat → Nat → Text
  -- The lowest digit is written last.
  | 0, _ => []
  | width + 1, value => hexDigits width (value / 16) ++ [Nat.digitChar (value % 16)]

/-- A character written by its code point, in the narrowest of three widths. -/
def escapeCode (c : Char) : Text :=
  -- Two digits reach the first block, four the first plane, eight everything.
  if c.toNat < 0x100 then "\\x".toList ++ hexDigits 2 c.toNat
  else if c.toNat < 0x10000 then "\\u".toList ++ hexDigits 4 c.toNat
  else "\\U".toList ++ hexDigits 8 c.toNat

/-- One character as it stands between the given quote marks. -/
def quoteChar (mark c : Char) : Text :=
  -- The mark and the backslash are guarded, and what does not show is written by name or code.
  if c = mark || c = '\\' then ['\\', c]
  else if c = '\n' then "\\n".toList
  else if c = '\r' then "\\r".toList
  else if c = '\t' then "\\t".toList
  else if isPrintable c then [c]
  else escapeCode c

/-- A text between quote marks. -/
def quote (text : Text) : Text :=
  -- The same mark opens and closes the quotation.
  quoteMark text :: text.flatMap (quoteChar (quoteMark text)) ++ [quoteMark text]

end DiceChat
