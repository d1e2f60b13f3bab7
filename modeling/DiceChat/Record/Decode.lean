import DiceChat.Json.Writer
import DiceChat.Ordered
import DiceChat.Session

/-! Records read back: fields are taken in a fixed order, and the first fault is reported. -/

namespace DiceChat

/-- Why a value is not a record. -/
inductive RecordError where
  /-- A field is missing. -/
  | missing (name : Text)
  /-- A value has no fields, or is of a kind that its field does not hold. -/
  | wrongKind
  /-- The value that should hold a session has no fields. -/
  | notFields
  /-- A text is no numeral. -/
  | notNumeral (text : JsonText) (fault : NumeralFault)
  /-- A number is not a number. -/
  | notNumber
  /-- A number is infinite. -/
  | endless
  /-- A value names no mode. -/
  | unknownMode (value : Json)
  /-- A straight session has two attempts. -/
  | oneTooMany
  /-- A session of two attempts has only one. -/
  | oneTooFew (keep : Keep)

/-- What an error is reported as. -/
def RecordError.message : RecordError → Text
  -- A missing field is reported by its name alone.
  | .missing name => name
  | .wrongKind => "a value is of the wrong kind".toList
  | .notFields => "a value has no fields".toList
  | .notNumeral text fault => fault.message text.quoted
  | .notNumber => "cannot convert float NaN to integer".toList
  | .endless => "cannot convert float infinity to integer".toList
  | .unknownMode value => value.inline ++ " is not a valid RollType".toList
  | .oneTooMany => "Straight rolls have exactly one attempt".toList
  | .oneTooFew keep => keep.mode.title ++ " rolls need two attempts".toList

namespace Json

/-- The integer a value stands for: fractions lose their places, numerals are read. -/
def toInt : Json → Except RecordError Int
  -- Truth values count as one and zero.
  | .whole value => .ok value
  | .bool true => .ok 1
  | .bool false => .ok 0
  | .fraction .nan => .error .notNumber
  | .fraction value =>
    match value.whole? with
    | some integer => .ok integer
    | none => .error .endless
  | .string text =>
    (readInt text.plain).mapError (.notNumeral text)
  | _ => .error .wrongKind

/-- The value of a required field. -/
def require (record : Json) (name : Text) : Except RecordError Json :=
  match record with
  | .object fields =>
    match Ordered.find? fields (.whole name) with
    | some value => .ok value
    | none => .error (.missing name)
  | _ => .error .wrongKind

/-- The value of an optional field of a record; a missing one is null. -/
def optional (record : Json) (name : Text) : Json :=
  match record with
  | .object fields => (Ordered.find? fields (.whole name)).getD .null
  | _ => .null

/-- The values that can be taken from a value one by one: items, characters, or names. -/
def elements : Json → Except RecordError (List Json)
  | .array items => .ok items
  | .string text => .ok (text.characters.map .string)
  | .object fields => .ok (fields.map fun field => .string field.1)
  | _ => .error .wrongKind

/-- An integer that may be null. -/
def toInt? : Json → Except RecordError (Option Int)
  | .null => .ok none
  | .whole value => .ok (some value)
  | _ => .error .wrongKind

/-- A text that may be null. -/
def toText? : Json → Except RecordError (Option Text)
  | .null => .ok none
  | .string (.whole text) => .ok (some text)
  | _ => .error .wrongKind

/-- The integers that values stand for, up to the first that stands for none. -/
def toInts : List Json → Except RecordError (List Int)
  | [] => .ok []
  | item :: items => do
    let value ← item.toInt
    let values ← toInts items
    pure (value :: values)

end Json

/-- The settings that a record holds. -/
def Settings.ofRecord (record : Json) : Except RecordError Settings := do
  -- Number and sides are required, modifier and label are not.
  let number ← (← record.require "number".toList).toInt
  let sides ← (← record.require "sides".toList).toInt
  let modifier ← (record.optional "modifier".toList).toInt?
  let label ← (record.optional "label".toList).toText?
  pure { number, sides, modifier, label }

/-- The roll that a record holds; its total is taken as it stands. -/
def Roll.ofRecord (record : Json) : Except RecordError Roll := do
  let values ← Json.toInts (← (← record.require "rolls".toList).elements)
  let total ← (← record.require "total".toList).toInt
  let settings ← Settings.ofRecord (← record.require "settings".toList)
  pure { values, total, settings }

/-- The mode that a value names. -/
def Mode.ofJson (value : Json) : Except RecordError Mode :=
  -- Only texts name modes.
  match value with
  | .string (.whole name) =>
    match Mode.ofName? name with
    | some mode => .ok mode
    | none => .error (.unknownMode value)
  | _ => .error (.unknownMode value)

/-- The attempts of a mode, if there are as many as it needs. -/
def Attempts.ofMode (mode : Mode) (first : Roll) (second : Option Roll) :
    Except RecordError Attempts :=
  match mode, second with
  | .straight, none => .ok (.one first)
  | .straight, some _ => .error .oneTooMany
  | .advantage, some second => .ok (.two .higher first second)
  | .advantage, none => .error (.oneTooFew .higher)
  | .disadvantage, some second => .ok (.two .lower first second)
  | .disadvantage, none => .error (.oneTooFew .lower)

/-- The second attempt that a value holds; an empty value holds none. -/
def Roll.ofRecord? (value : Json) : Except RecordError (Option Roll) :=
  if value.isEmpty then .ok none else (Roll.ofRecord value).map some

/-- The session that a record holds. -/
def Session.ofRecord (record : Json) : Except RecordError Session :=
  -- The number of attempts is checked last.
  match record with
  | .object _ => do
    let mode ← Mode.ofJson (← record.require "roll_type".toList)
    let first ← Roll.ofRecord (← record.require "try_one".toList)
    let second ← Roll.ofRecord? (record.optional "try_two".toList)
    let settings ← Settings.ofRecord (← record.require "settings".toList)
    let attempts ← Attempts.ofMode mode first second
    pure { attempts, settings }
  | _ => .error .notFields

end DiceChat
