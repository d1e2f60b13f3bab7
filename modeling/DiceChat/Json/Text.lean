import DiceChat.Text.Quoted

/-! Texts as JSON spells them: escapes may spell halves of characters, which no other text holds. -/

namespace DiceChat

/-- Whether a code point is the first half of a character. -/
def isHighHalf (point : Nat) : Bool :=
  0xD800 ≤ point && point < 0xDC00

/-- Whether a code point is the second half of a character. -/
def isLowHalf (point : Nat) : Bool :=
  0xDC00 ≤ point && point < 0xE000

/-- Whether a code point is half of a character. -/
def isHalf (point : Nat) : Bool :=
  isHighHalf point || isLowHalf point

/-- The code point that a first and a second half stand for together. -/
def joinHalves? (high low : Nat) : Option Nat :=
  -- Each half holds ten bits of the code point above the first plane.
  if isHighHalf high && isLowHalf low then
    some (0x10000 + (high - 0xD800) * 1024 + (low - 0xDC00))
  else none

/-- A text in a JSON document. -/
inductive JsonText where
  /-- One of whole characters. -/
  | whole (text : Text)
  /-- Code points of which some are halves of characters. -/
  | torn (points : List Nat)
deriving DecidableEq

/-- Every text is one of whole characters. -/
instance : Coe Text JsonText := ⟨.whole⟩

namespace JsonText

/-- The text of the given code points. -/
def ofPoints (points : List Nat) : JsonText :=
  if points.any isHalf then .torn points else .whole (points.map Char.ofNat)

/-- The code points of a text. -/
def points : JsonText → List Nat
  | .whole text => text.map Char.toNat
  | .torn points => points

/-- The text itself, if all its characters are whole. -/
def text? : JsonText → Option Text
  | .whole text => some text
  | .torn _ => none

/-- Whether a text has no characters. -/
def isEmpty : JsonText → Bool
  | .whole text => text.isEmpty
  | .torn points => points.isEmpty

/-- The mark that stands for half of a character where there is no way to show it. -/
def halfMark : Char := '\ufffd'

/-- The characters of a text, with a mark for each half. -/
def plain : JsonText → Text
  | .whole text => text
  | .torn points => points.map fun point => if isHalf point then halfMark else Char.ofNat point

/-- Half of a character as it is escaped. -/
def escapeHalf (point : Nat) : Text :=
  "\\u".toList ++ hexDigits 4 point

/-- A text between quote marks. -/
def quoted : JsonText → Text
  -- Halves never show, so they are written by their codes.
  | .whole text => quote text
  | .torn points =>
    let mark := quoteMark (JsonText.torn points).plain
    let shown := points.flatMap fun point =>
      if isHalf point then escapeHalf point else quoteChar mark (Char.ofNat point)
    mark :: shown ++ [mark]

/-- The characters of a text, each as a text. -/
def characters : JsonText → List JsonText
  | .whole text => text.map fun c => .whole [c]
  | .torn points => points.map fun point => .ofPoints [point]

end JsonText

end DiceChat
