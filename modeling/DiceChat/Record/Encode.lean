import DiceChat.Json.Writer
import DiceChat.Session

/-! Records of settings, rolls and sessions as JSON values; nothing is ever cut from a record. -/

namespace DiceChat

/-- The fields of settings other than the label. -/
def Settings.bareFields (settings : Settings) : List (JsonText × Json) :=
  [("number".toList, .whole settings.number),
    ("sides".toList, .whole settings.sides),
    ("modifier".toList, .ofInt? settings.modifier)]

/-- The record of settings, with or without the label. -/
def Settings.record (settings : Settings) (labelled : Bool) : Json :=
  -- The label comes last.
  if labelled then
    .object (settings.bareFields ++ [(.whole "label".toList, .ofText? settings.label)])
  else .object settings.bareFields

/-- The record of a roll, with or without the label in its settings. -/
def Roll.record (roll : Roll) (labelled : Bool) : Json :=
  .object [("rolls".toList, .array (roll.values.map .whole)),
    ("total".toList, .whole roll.total),
    ("settings".toList, roll.settings.record labelled)]

/-- The record of the second attempt, null if there is none. -/
def Attempts.secondRecord : Attempts → Json
  | .one _ => .null
  | .two _ _ second => second.record true

/-- The first attempt. -/
def Attempts.first : Attempts → Roll
  | .one only => only
  | .two _ first _ => first

/-- The record of a whole session. -/
def Session.record (session : Session) : Json :=
  .object [("roll_type".toList, .string session.mode.name),
    ("try_one".toList, session.attempts.first.record true),
    ("try_two".toList, session.attempts.secondRecord),
    ("settings".toList, session.settings.record true)]

/-- What of a session is recorded. -/
inductive RecordView where
  /-- Everything. -/
  | session
  /-- The attempt that counts, without its label. -/
  | legacy
deriving DecidableEq

/-- The view of the given name. -/
def RecordView.ofName? (name : Text) : Option RecordView :=
  if name = "session".toList then some session
  else if name = "legacy".toList then some legacy
  else none

/-- The record of a session in a view. -/
def Session.recordIn (session : Session) : RecordView → Json
  | .session => session.record
  | .legacy => session.adopted.record false

/-- The report of a view that does not exist. -/
def unknownViewMessage (name : Text) : Text :=
  "Unknown record view: ".toList ++ name

/-- How a log shows a text that may be missing. -/
def inlineText? (text : Option Text) : Text :=
  (Json.ofText? text).inline

/-- How a log shows settings. -/
def Settings.inline (settings : Settings) : Text :=
  "RollSettings(number=".toList ++ writeInt settings.number
    ++ ", sides=".toList ++ writeInt settings.sides
    ++ ", modifier=".toList ++ (Json.ofInt? settings.modifier).inline
    ++ ", label=".toList ++ inlineText? settings.label ++ ")".toList

/-- How a log shows the faces of a roll; a single face is followed by a comma. -/
def inlineFaces : List Int → Text
  | [only] => "(".toList ++ writeInt only ++ ",)".toList
  | faces => "(".toList ++ joinWith ", ".toList (faces.map writeInt) ++ ")".toList

/-- How a log shows a roll. -/
def Roll.inline (roll : Roll) : Text :=
  "Roll(rolls=".toList ++ inlineFaces roll.values
    ++ ", total=".toList ++ writeInt roll.total
    ++ ", settings=".toList ++ roll.settings.inline ++ ")".toList

/-- How a log shows the second attempt. -/
def Attempts.inlineSecond : Attempts → Text
  | .one _ => "None".toList
  | .two _ _ second => second.inline

/-- How a log shows a session. -/
def Session.inline (session : Session) : Text :=
  "RollResults(roll_type=".toList ++ Mode.family.inline session.mode.member
    ++ ", try_one=".toList ++ session.attempts.first.inline
    ++ ", try_two=".toList ++ session.attempts.inlineSecond
    ++ ", settings=".toList ++ session.settings.inline ++ ")".toList

end DiceChat
