import DiceChat.Json.Writer

/-! Drafts of documents: what of a value is written before the first part of it that cannot be written. -/

namespace DiceChat

/-- Why a part of a value cannot be written. -/
inductive JsonFlaw where
  /-- A text holds half of a character. -/
  | torn
  /-- A whole number has too many digits. -/
  | tooLong
deriving DecidableEq

namespace JsonText

/-- What keeps a text from being written. -/
def flaw? : JsonText → Option JsonFlaw
  | .whole _ => none
  | .torn _ => some .torn

end JsonText

namespace Json

mutual

/-- What keeps a value from being written, the first flaw if there are several. -/
def flaw? : Json → Option JsonFlaw
  | .whole value => if (numeral? value).isSome then none else some .tooLong
  | .string value => value.flaw?
  | .array items => flawOfItems? items
  | .object fields => flawOfFields? fields
  | _ => none

/-- The first flaw of several values. -/
def flawOfItems? : List Json → Option JsonFlaw
  | [] => none
  | item :: items => (flaw? item).or (flawOfItems? items)

/-- The first flaw of several fields. -/
def flawOfFields? : List (JsonText × Json) → Option JsonFlaw
  -- The name of a field is written before its value.
  | [] => none
  | (name, value) :: fields => name.flaw?.or ((flaw? value).or (flawOfFields? fields))

end

mutual

/-- A value at a depth of an indented document, up to its first flaw. -/
def draftAt (depth : Nat) : Json → Text
  -- The text before an item of an array is written together with the item.
  | .array (item :: items) =>
    draftItems (depth + 1) ('[' :: newLine (depth + 1)) (newLine depth ++ [']']) (item :: items)
  | .object (field :: fields) =>
    '\x7b' :: newLine (depth + 1) ++
      draftFields (depth + 1) (newLine depth ++ ['\x7d']) (field :: fields)
  | value => if value.flaw?.isNone then value.writeAt depth else []

/-- Items up to the first flaw, with a text before the first item and a text at the end. -/
def draftItems (depth : Nat) (before close : Text) : List Json → Text
  -- A flawed item that holds other values is begun, any other is not.
  | [] => close
  | item :: items =>
    if item.flaw?.isNone then
      before ++ draftAt depth item ++ draftItems depth (',' :: newLine depth) close items
    else
      match item with
      | .array _ | .object _ => before ++ draftAt depth item
      | _ => []

/-- Fields up to the first flaw, with a text at the end. -/
def draftFields (depth : Nat) (close : Text) : List (JsonText × Json) → Text
  -- Names and values are written one by one.
  | [] => close
  | (name, value) :: fields =>
    if name.flaw?.isSome then []
    else
      let separator := if fields.isEmpty then [] else ',' :: newLine depth
      writeText name ++ [':', ' '] ++ draftAt depth value ++
        (if value.flaw?.isNone then separator ++ draftFields depth close fields else [])

end

/-- A value as an indented document, up to its first flaw. -/
def draft (value : Json) : Text :=
  value.draftAt 0

/-- A value as an indented document, unless a part of it cannot be written. -/
def dump (value : Json) : Except JsonFlaw Text :=
  match value.flaw? with
  | some flaw => .error flaw
  | none => .ok value.write

mutual

/-- How many values around each other a value holds, itself included. -/
def depth : Json → Nat
  -- A value that cannot hold others has no depth.
  | .array items => depthOfItems items + 1
  | .object fields => depthOfFields fields + 1
  | _ => 0

/-- The greatest depth of several values. -/
def depthOfItems : List Json → Nat
  | [] => 0
  | item :: items => max (depth item) (depthOfItems items)

/-- The greatest depth of the values of several fields. -/
def depthOfFields : List (JsonText × Json) → Nat
  | [] => 0
  | (_, value) :: fields => max (depth value) (depthOfFields fields)

end

end Json

end DiceChat
