import DiceChat.Json.Basic
import DiceChat.Text.Quoted

/-! JSON values written as text: indented documents, and the inline form that messages quote values in. -/

namespace DiceChat

namespace Json

/-- One character inside a JSON string. -/
def writeChar (c : Char) : Text :=
  -- Only the quote, the backslash and the controls are escaped.
  if c = '"' then "\\\"".toList
  else if c = '\\' then "\\\\".toList
  else if c = '\n' then "\\n".toList
  else if c = '\r' then "\\r".toList
  else if c = '\t' then "\\t".toList
  else if c = '\x08' then "\\b".toList
  else if c = '\x0c' then "\\f".toList
  else if c.toNat < 0x20 then "\\u".toList ++ hexDigits 4 c.toNat
  else [c]

/-- A JSON string. -/
def writeString (text : Text) : Text :=
  '"' :: text.flatMap writeChar ++ ['"']

/-- A text as it stands in a JSON document, where halves of characters are escaped. -/
def writeText : JsonText → Text
  | .whole text => writeString text
  | .torn points =>
    '"' :: points.flatMap (fun point =>
      if isHalf point then JsonText.escapeHalf point else writeChar (Char.ofNat point)) ++ ['"']

/-- A fractional number in a JSON text. -/
def writeFraction (x : Binary64) : Text :=
  x.write "Infinity".toList "NaN".toList

/-- A new line that starts at the given depth, two spaces a level. -/
def newLine (depth : Nat) : Text :=
  '\n' :: List.replicate (2 * depth) ' '

mutual

/-- A value as it stands at a depth of an indented document. -/
def writeAt (depth : Nat) : Json → Text
  -- Nothing is broken into lines that holds nothing.
  | .null => "null".toList
  | .bool true => "true".toList
  | .bool false => "false".toList
  | .whole value => writeInt value
  | .fraction value => writeFraction value
  | .string value => writeText value
  | .array [] => "[]".toList
  | .array (item :: items) =>
    '[' :: newLine (depth + 1) ++ writeAt (depth + 1) item ++ writeItems (depth + 1) items
      ++ newLine depth ++ [']']
  | .object [] => ['\x7b', '\x7d']
  | .object ((name, value) :: fields) =>
    '\x7b' :: newLine (depth + 1) ++ writeText name ++ [':', ' '] ++ writeAt (depth + 1) value
      ++ writeFields (depth + 1) fields ++ newLine depth ++ ['\x7d']

/-- The items after the first one. -/
def writeItems (depth : Nat) : List Json → Text
  | [] => []
  | item :: items => ',' :: newLine depth ++ writeAt depth item ++ writeItems depth items

/-- The fields after the first one. -/
def writeFields (depth : Nat) : List (JsonText × Json) → Text
  | [] => []
  | (name, value) :: fields =>
    ',' :: newLine depth ++ writeText name ++ [':', ' '] ++ writeAt depth value
      ++ writeFields depth fields

end

/-- A value as an indented document. -/
def write (value : Json) : Text :=
  value.writeAt 0

mutual

/-- A value as a message quotes it, on one line. -/
def inline : Json → Text
  -- Constants have capital words of their own here, and texts stand in quotation marks.
  | .null => "None".toList
  | .bool true => "True".toList
  | .bool false => "False".toList
  | .whole value => writeInt value
  | .fraction value => value.write "inf".toList "nan".toList
  | .string value => value.quoted
  | .array [] => "[]".toList
  | .array (item :: items) => '[' :: inline item ++ inlineItems items ++ [']']
  | .object [] => ['\x7b', '\x7d']
  | .object ((name, value) :: fields) =>
    '\x7b' :: name.quoted ++ [':', ' '] ++ inline value ++ inlineFields fields ++ ['\x7d']

/-- The quoted items after the first one. -/
def inlineItems : List Json → Text
  | [] => []
  | item :: items => [',', ' '] ++ inline item ++ inlineItems items

/-- The quoted fields after the first one. -/
def inlineFields : List (JsonText × Json) → Text
  | [] => []
  | (name, value) :: fields =>
    [',', ' '] ++ name.quoted ++ [':', ' '] ++ inline value ++ inlineFields fields

end

/-- A value as running text shows it: a text as it is, anything else as it would be quoted. -/
def plain : Json → Text
  | .string value => value.plain
  | value => value.inline

end Json

end DiceChat
