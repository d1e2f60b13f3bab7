import DiceChat.Json.Text
import DiceChat.Log.Record

/-! Names of thresholds: every name is accepted but those of the two settings that are no severity. -/

namespace DiceChat

/-- Why a name sets no threshold. -/
inductive ThresholdError where
  /-- The name belongs to the layout of records. -/
  | layout
  /-- The name belongs to the table of layouts. -/
  | layoutTable
deriving DecidableEq

/-- The layout that a threshold cannot be. -/
def basicLayout : Text := "%(levelname)s:%(name)s:%(message)s".toList

/-- What an error is reported as. -/
def ThresholdError.message : ThresholdError → Text
  | .layout => "Unknown level: ".toList ++ quote basicLayout
  | .layoutTable => "Level not an integer or a valid string".toList

/-- A character in capitals, as far as its capitals are ASCII; any other character is kept. -/
def capital (c : Char) : Text :=
  -- Beside the ASCII letters there are a dotless letter, a long one, and joined ones.
  let code := c.toNat
  if 'a' ≤ c ∧ c ≤ 'z' then [c.toUpper]
  else if code = 0xDF then "SS".toList
  else if code = 0x131 then "I".toList
  else if code = 0x17F then "S".toList
  else if code = 0xFB00 then "FF".toList
  else if code = 0xFB01 then "FI".toList
  else if code = 0xFB02 then "FL".toList
  else if code = 0xFB03 then "FFI".toList
  else if code = 0xFB04 then "FFL".toList
  else if code = 0xFB05 ∨ code = 0xFB06 then "ST".toList
  else [c]

/-- The thresholds that have names; one that is not set lets warnings pass. -/
def thresholdNames : List (Text × Severity) :=
  [("DEBUG".toList, .debug), ("INFO".toList, .info),
    ("WARNING".toList, .warning), ("WARN".toList, .warning), ("NOTSET".toList, .warning),
    ("ERROR".toList, .error), ("CRITICAL".toList, .critical), ("FATAL".toList, .critical)]

/-- The threshold that a name sets; an unknown name sets the usual one. -/
def Severity.ofName (name : Text) : Except ThresholdError Severity :=
  -- Names are compared in capitals.
  let capitals := name.flatMap capital
  if capitals = "BASIC_FORMAT".toList then .error .layout
  else if capitals = "_STYLES".toList then .error .layoutTable
  else
    match thresholdNames.find? fun named => named.1 = capitals with
    | some (_, severity) => .ok severity
    | none => .ok .info

/-- The threshold that a name in a document sets; no threshold is named with half of a character. -/
def Severity.ofJsonText (name : JsonText) : Except ThresholdError Severity :=
  match name.text? with
  | some name => ofName name
  | none => .ok .info

end DiceChat
