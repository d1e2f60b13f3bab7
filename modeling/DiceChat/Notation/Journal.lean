import DiceChat.Log.Record
import DiceChat.Notation.Reader
import DiceChat.Record.Encode

/-! What is logged about reading notation: the text before, and the settings or the error after. -/

namespace DiceChat

namespace Notation

/-- The record of how reading a text ended. -/
def outcomeRecord (text : Text) : Except NotationError Settings → LogRecord
  -- The text itself is quoted, the error tells it as it is.
  | .ok settings => .plain .debug
      ("Parsed ".toList ++ quote text ++ " as ".toList ++ settings.inline)
  | .error error => .plain .warning
      ("無法解析骰子表達式 ".toList ++ quote text ++ ": ".toList ++ error.message)

/-- The records of reading a text, in order. -/
def journal (text : Text) : List LogRecord :=
  [.plain .debug ("Parsing input ".toList ++ quote text), outcomeRecord text (parse text)]

end Notation

end DiceChat
