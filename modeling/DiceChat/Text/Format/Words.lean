import DiceChat.Text.Format.Layout

/-! Texts laid out as formats ask: cut to the precision and padded to the width. -/

namespace DiceChat

namespace Format

/-- What a format asks of a kind of text that no text has. -/
def textFault? (format : Format) (kind : FormatKind) : Option FormatError :=
  -- The type comes first, then the parts in the order in which formats are written.
  if format.type ≠ 's' then some (.unknownType format.type kind)
  else
    match format.sign with
    | some sign => some (.textSign sign)
    | none =>
      if format.unsignedZero then some (.unsignedZero .text)
      else if format.alternate then some .textAlternate
      else if format.alignment = .inner then some .textInner
      else none

/-- A text of a kind laid out as a format asks. -/
def showText (format : Format) (kind : FormatKind) (text : Text) : Except FormatError Text :=
  match format.textFault? kind with
  | some error => .error error
  | none =>
    let shown := text.take (format.precision.getD text.length)
    .ok (format.pad shown (format.width.getD 0 - shown.length))

end Format

/-- A text of a kind laid out as the text of a format asks; without a format it stays as it is. -/
def formatTextAs (kind : FormatKind) (format text : Text) : Except FormatError Text :=
  if format.isEmpty then .ok text
  else do (← Format.read kind format).showText kind text

/-- A text laid out as the text of a format asks. -/
def formatText (format text : Text) : Except FormatError Text :=
  formatTextAs .text format text

end DiceChat
