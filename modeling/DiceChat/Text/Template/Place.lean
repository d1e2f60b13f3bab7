import DiceChat.Text.Format.Basic

/-! Places of a template: braces around the name of what goes there, how it is converted, and its format. -/

namespace DiceChat

/-- What is wrong with a template or with what it asks for. -/
inductive TemplateError where
  /-- An opening brace that is neither doubled nor closed. -/
  | loneOpen
  /-- A closing brace that is neither doubled nor opened. -/
  | loneClose
  /-- An opening brace with a name after it and no closing brace. -/
  | unclosed
  /-- An opening brace inside a name. -/
  | nested
  /-- Nothing behind the mark of a conversion. -/
  | noConversion
  /-- A conversion of more than one character. -/
  | longConversion
  /-- A format without its closing brace. -/
  | unclosedFormat
  /-- A place in the format of a place in a format. -/
  | tooDeep
  /-- A place numbered past the only inserted value. -/
  | noSuchPlace
  /-- A place that asks for a value by name. -/
  | noSuchName (name : Text)
  /-- An item of a table under a number. -/
  | noSuchNumber (number : Nat)
  /-- A numbered place after an unnumbered one. -/
  | numberedAfterPlain
  /-- An unnumbered place after a numbered one. -/
  | plainAfterNumbered
  /-- A place or an item with too great a number. -/
  | tooManyDigits
  /-- A part or an item without a name. -/
  | emptyStep
  /-- An item without its closing bracket. -/
  | unclosedItem
  /-- Something other than a part or an item behind an item. -/
  | strayStep
  /-- A part that the value does not have. -/
  | noSuchPart
  /-- An item of a value that has none, or none by that name. -/
  | noItems
  /-- An item that is to be an expression and is none. -/
  | noExpression
  /-- An item past the end of a text. -/
  | pastEnd
  /-- A conversion that does not exist. -/
  | unknownConversion (conversion : Char)
  /-- A format of a value that takes none. -/
  | unformatted
  /-- A format that does not fit the value. -/
  | format (error : FormatError)
deriving DecidableEq

/-- What a fault of a template is reported as. -/
def TemplateError.message : TemplateError → Text
  -- Braces are named by their own character.
  | .loneOpen => "Single '\x7b' encountered in format string".toList
  | .loneClose => "Single '\x7d' encountered in format string".toList
  | .unclosed => "expected '\x7d' before end of string".toList
  | .nested => "unexpected '\x7b' in field name".toList
  | .noConversion => "end of string while looking for conversion specifier".toList
  | .longConversion => "expected ':' after conversion specifier".toList
  | .unclosedFormat => "unmatched '\x7b' in format spec".toList
  | .tooDeep => "Max string recursion exceeded".toList
  | .noSuchPlace => "Replacement index out of range for positional args tuple".toList
  | .noSuchName name => name
  | .noSuchNumber number => writeNat number
  | .numberedAfterPlain =>
    "cannot switch from automatic field numbering to manual field specification".toList
  | .plainAfterNumbered =>
    "cannot switch from manual field specification to automatic field numbering".toList
  | .tooManyDigits => FormatError.message .tooManyDigits
  | .emptyStep => "Empty attribute in format string".toList
  | .unclosedItem => "Missing ']' in format string".toList
  | .strayStep => "Only '.' or '[' may follow ']' in format field specifier".toList
  | .noSuchPart => "the value has no such part".toList
  | .noItems => "the value has no such items".toList
  | .noExpression => "the item is no expression".toList
  | .pastEnd => "string index out of range".toList
  | .unknownConversion conversion =>
    "Unknown conversion specifier ".toList ++ codeName 32 127 conversion
  | .unformatted => "the value takes no format".toList
  | .format error => error.message

/-- The number that a name is, if it is one. -/
def readIndex (name : Text) : Except TemplateError (Option Nat) :=
  -- Too great a number is noticed even where it does not end the name.
  let digits := name.takeWhile fun c => (digitValue? c).isSome
  let value := digitsValue (digits.filterMap digitValue?)
  if Format.maxNumber < value then .error .tooManyDigits
  else .ok (if digits.isEmpty ∨ digits.length < name.length then none else some value)

/-- The brace that opens a place. -/
def openBrace : Char := '\x7b'

/-- The brace that closes a place. -/
def closeBrace : Char := '\x7d'

/-- A place of a template. -/
structure Place where
  /-- The name of what goes there. -/
  name : Text
  /-- How it is converted before it is formatted. -/
  conversion : Option Char
  /-- The text of its format, which may hold places itself. -/
  format : Text
deriving DecidableEq

namespace Place

/-- The place between two braces with nothing in between. -/
def bare : Place := ⟨[], none, []⟩

/-- The name a text starts with, the mark that ends it, and what follows the mark. -/
def readName (bracketed : Bool) : Text → Except TemplateError (Text × Char × Text)
  -- Between brackets no mark ends the name.
  | [] => .error .unclosed
  | c :: rest =>
    if bracketed then (readName (c ≠ ']') rest).map fun (name, next) => (c :: name, next)
    else if c = openBrace then .error .nested
    else if c = closeBrace ∨ c = ':' ∨ c = '!' then .ok ([], c, rest)
    else (readName (c = '[') rest).map fun (name, next) => (c :: name, next)

/-- The format a text starts with behind so many open braces, and what follows its closing brace. -/
def readFormat : Nat → Text → Except TemplateError (Text × Text)
  | _, [] => .error .unclosedFormat
  | opened, c :: rest =>
    if c = closeBrace then
      match opened with
      | 0 => .ok ([], rest)
      | opened + 1 => (readFormat opened rest).map fun (format, next) => (c :: format, next)
    else
      (readFormat (if c = openBrace then opened + 1 else opened) rest).map fun (format, next) =>
        (c :: format, next)

/-- The place with the given name and conversion whose format a text starts with. -/
def withFormat (name : Text) (conversion : Option Char) (text : Text) :
    Except TemplateError (Place × Text) :=
  (readFormat 0 text).map fun (format, rest) => (⟨name, conversion, format⟩, rest)

/-- The conversion that a character stands for; the first character of all stands for none. -/
def conversionOf (c : Char) : Option Char :=
  if c = '\x00' then none else some c

/-- The place with the given name whose conversion a text starts with. -/
def withConversion (name : Text) : Text → Except TemplateError (Place × Text)
  -- A single character is the conversion; behind it the place ends or its format starts.
  | [] => .error .noConversion
  | [_] => .error .unclosedFormat
  | c :: mark :: rest =>
    if mark = closeBrace then .ok (⟨name, conversionOf c, []⟩, rest)
    else if mark = ':' then withFormat name (conversionOf c) rest
    else .error .longConversion

/-- The place that a text starts with behind an opening brace, and what follows it. -/
def read (text : Text) : Except TemplateError (Place × Text) := do
  let (name, mark, rest) ← readName false text
  if mark = ':' then withFormat name none rest
  else if mark = '!' then withConversion name rest
  else .ok (⟨name, none, []⟩, rest)

end Place

end DiceChat
