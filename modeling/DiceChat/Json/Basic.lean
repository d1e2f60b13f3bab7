import DiceChat.Binary64
import DiceChat.Json.Text

/-! JSON values, with whole and fractional numbers apart and the fields of an object in order. -/

namespace DiceChat

/-- A JSON value. -/
inductive Json where
  /-- No value. -/
  | null
  /-- A truth value. -/
  | bool (value : Bool)
  /-- A number written without point and exponent. -/
  | whole (value : Int)
  /-- Any other number. -/
  | fraction (value : Binary64)
  /-- A text. -/
  | string (value : JsonText)
  /-- Values in order. -/
  | array (items : List Json)
  /-- Named values in order. -/
  | object (fields : List (JsonText × Json))

namespace Json

/-- Whether a value counts as absent where a value is optional. -/
def isEmpty : Json → Bool
  -- Null, false, zero and everything of no length are empty.
  | null => true
  | bool value => !value
  | whole value => value == 0
  | fraction value => value.isZero
  | string value => value.isEmpty
  | array items => items.isEmpty
  | object fields => fields.isEmpty

/-- A JSON text that may be missing. -/
def ofText? : Option Text → Json
  | some text => .string text
  | none => .null

/-- A JSON integer that may be missing. -/
def ofInt? : Option Int → Json
  | some value => .whole value
  | none => .null

end Json

end DiceChat
