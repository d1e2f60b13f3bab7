import DiceChat.Json.Basic
import DiceChat.Ordered

/-! JSON texts read as values, within limits on the digits of numbers and the depth of nesting. -/

namespace DiceChat

/-- Why a text is not read as JSON. -/
inductive JsonFault where
  /-- It is not JSON. -/
  | notJson
  /-- A whole number has too many digits. -/
  | tooLong (digits : Nat)
  /-- Values are nested too deep. -/
  | tooDeep
deriving DecidableEq

/-- How much a reader of JSON takes; nothing is limited where there is no number. -/
structure JsonLimits where
  /-- The most digits of a whole number. -/
  digits : Option Nat
  /-- The most values around a value. -/
  depth : Option Nat
deriving DecidableEq

/-- The limits inside a value that holds others, unless there are already as many around it. -/
def JsonLimits.inside (limits : JsonLimits) : Except JsonFault JsonLimits :=
  match limits.depth with
  | none => .ok limits
  | some 0 => .error .tooDeep
  | some (depth + 1) => .ok { limits with depth := some depth }

namespace Json

/-- Whether a character may stand between the tokens of a JSON text. -/
def isSpace (c : Char) : Bool :=
  c == ' ' || c == '\t' || c == '\n' || c == '\r'

/-- A text without the space it starts with. -/
def skipSpace (text : Text) : Text :=
  text.dropWhile isSpace

/-- The value of a digit in base sixteen. -/
def hexValue? (c : Char) : Option Nat :=
  -- Letters count in either case.
  if '0' ≤ c ∧ c ≤ '9' then some (c.toNat - '0'.toNat)
  else if 'a' ≤ c ∧ c ≤ 'f' then some (c.toNat - 'a'.toNat + 10)
  else if 'A' ≤ c ∧ c ≤ 'F' then some (c.toNat - 'A'.toNat + 10)
  else none

/-- The value of four digits in base sixteen. -/
def hexQuad? (a b c d : Char) : Option Nat := do
  pure (((← hexValue? a) * 16 + (← hexValue? b)) * 256 + (← hexValue? c) * 16 + (← hexValue? d))

/-- The character behind a backslash, if it names one. -/
def escaped? : Char → Option Char
  -- Eight characters have short names.
  | '"' => some '"'
  | '\\' => some '\\'
  | '/' => some '/'
  | 'b' => some '\x08'
  | 'f' => some '\x0c'
  | 'n' => some '\n'
  | 'r' => some '\r'
  | 't' => some '\t'
  | _ => none

/-- The code points up to the closing quote, and what follows it. -/
def readPoints : Text → Option (List Nat × Text)
  -- Two escapes side by side may stand for one character together.
  | '"' :: rest => some ([], rest)
  | '\\' :: 'u' :: a :: b :: c :: d :: '\\' :: 'u' :: e :: f :: g :: h :: rest =>
    match hexQuad? a b c d with
    | none => none
    | some unit =>
      match (hexQuad? e f g h).bind (joinHalves? unit) with
      | some point => (readPoints rest).map fun (points, rest) => (point :: points, rest)
      | none =>
        (readPoints ('\\' :: 'u' :: e :: f :: g :: h :: rest)).map fun (points, rest) =>
          (unit :: points, rest)
  | '\\' :: 'u' :: a :: b :: c :: d :: rest => do
    let unit ← hexQuad? a b c d
    (readPoints rest).map fun (points, rest) => (unit :: points, rest)
  | '\\' :: c :: rest => do
    let char ← escaped? c
    (readPoints rest).map fun (points, rest) => (char.toNat :: points, rest)
  | c :: rest =>
    if c.toNat < 0x20 then none
    else if c = '\\' then none
    else (readPoints rest).map fun (points, rest) => (c.toNat :: points, rest)
  | [] => none

/-- The text up to the closing quote, and what follows it. -/
def readText (text : Text) : Except JsonFault (JsonText × Text) :=
  match readPoints text with
  | some (points, rest) => .ok (.ofPoints points, rest)
  | none => .error .notJson

/-- The digits a text starts with, and what follows them. -/
def spanDigits (text : Text) : Text × Text :=
  (text.takeWhile Char.isDigit, text.dropWhile Char.isDigit)

/-- The digits behind a point, and what follows them; nothing is taken without a digit. -/
def readPart : Text → Option Text × Text
  -- A point without a digit behind it does not belong to the number.
  | '.' :: rest =>
    match spanDigits rest with
    | ([], _) => (none, '.' :: rest)
    | (digits, after) => (some digits, after)
  | text => (none, text)

/-- The exponent behind its letter, and what follows it; nothing is taken without a digit. -/
def readExponent (text : Text) : Option Int × Text :=
  -- The letter may be large or small and the sign may be missing.
  match text with
  | c :: rest =>
    if c = 'e' ∨ c = 'E' then
      let (negative, digits) := match rest with
        | '-' :: digits => (true, digits)
        | '+' :: digits => (false, digits)
        | digits => (false, digits)
      match spanDigits digits with
      | ([], _) => (none, text)
      | (digits, after) =>
        (some (if negative then -(asciiValue digits : Int) else asciiValue digits), after)
    else (none, text)
  | [] => (none, [])

/-- The whole number with the given sign and digits, if these are not too many. -/
def wholeOf (limits : JsonLimits) (negative : Bool) (digits : Text) : Except JsonFault Json :=
  -- Leading zeros never come before other digits, so all digits count.
  let value : Int := asciiValue digits
  let whole := Json.whole (if negative then -value else value)
  match limits.digits with
  | some most => if most < digits.length then .error (.tooLong digits.length) else .ok whole
  | none => .ok whole

/-- The number a text starts with after its sign, and what follows it. -/
def readMagnitude (limits : JsonLimits) (negative : Bool) (text : Text) :
    Except JsonFault (Json × Text) :=
  -- A leading zero stands alone before the point.
  let (digits, rest) := match text with
    | '0' :: rest => (['0'], rest)
    | _ => spanDigits text
  if digits.isEmpty then .error .notJson
  else
    let (part, rest) := readPart rest
    let (exponent, rest) := readExponent rest
    match part, exponent with
    | none, none => (wholeOf limits negative digits).map (·, rest)
    | _, _ =>
      let places := part.getD []
      let scale := exponent.getD 0 - places.length
      .ok (.fraction (.ofDecimal negative (asciiValue (digits ++ places)) scale), rest)

/-- A constant or a number a text starts with, and what follows it. -/
def readScalar (limits : JsonLimits) : Text → Except JsonFault (Json × Text)
  -- Besides the three constants there are words for the numbers that have no digits.
  | 'n' :: 'u' :: 'l' :: 'l' :: rest => .ok (.null, rest)
  | 't' :: 'r' :: 'u' :: 'e' :: rest => .ok (.bool true, rest)
  | 'f' :: 'a' :: 'l' :: 's' :: 'e' :: rest => .ok (.bool false, rest)
  | 'N' :: 'a' :: 'N' :: rest => .ok (.fraction .nan, rest)
  | 'I' :: 'n' :: 'f' :: 'i' :: 'n' :: 'i' :: 't' :: 'y' :: rest =>
    .ok (.fraction (.infinite false), rest)
  | '-' :: 'I' :: 'n' :: 'f' :: 'i' :: 'n' :: 'i' :: 't' :: 'y' :: rest =>
    .ok (.fraction (.infinite true), rest)
  | '-' :: rest => readMagnitude limits true rest
  | text => readMagnitude limits false text

mutual

/-- The value a text starts with, and what follows it, read with so much fuel. -/
def readValue : Nat → JsonLimits → Text → Except JsonFault (Json × Text)
  -- The first character tells the kind of value.
  | 0, _, _ => .error .notJson
  | fuel + 1, limits, text =>
    match text with
    | '"' :: rest => (readText rest).map fun (value, rest) => (.string value, rest)
    | '[' :: rest => do
      let limits ← limits.inside
      match skipSpace rest with
      | ']' :: rest => .ok (.array [], rest)
      | rest => (readItems fuel limits rest).map fun (items, rest) => (.array items, rest)
    | '\x7b' :: rest => do
      let limits ← limits.inside
      match skipSpace rest with
      | '\x7d' :: rest => .ok (.object [], rest)
      | rest => (readFields fuel limits [] rest).map fun (fields, rest) => (.object fields, rest)
    | _ => readScalar limits text

/-- At least one item up to the closing bracket, and what follows it. -/
def readItems : Nat → JsonLimits → Text → Except JsonFault (List Json × Text)
  -- A comma promises another item.
  | 0, _, _ => .error .notJson
  | fuel + 1, limits, text => do
    let (item, rest) ← readValue fuel limits text
    match skipSpace rest with
    | ']' :: rest => .ok ([item], rest)
    | ',' :: rest =>
      (readItems fuel limits (skipSpace rest)).map fun (items, rest) => (item :: items, rest)
    | _ => .error .notJson

/-- At least one field up to the closing brace, added to those before it, and what follows it. -/
def readFields :
    Nat → JsonLimits → List (JsonText × Json) → Text →
      Except JsonFault (List (JsonText × Json) × Text)
  -- A name that comes again replaces the value of its first place.
  | 0, _, _, _ => .error .notJson
  | fuel + 1, limits, before, text =>
    match text with
    | '"' :: rest => do
      let (name, rest) ← readText rest
      match skipSpace rest with
      | ':' :: rest => do
        let (value, rest) ← readValue fuel limits (skipSpace rest)
        let fields := Ordered.put before name value
        match skipSpace rest with
        | '\x7d' :: rest => .ok (fields, rest)
        | ',' :: rest => readFields fuel limits fields (skipSpace rest)
        | _ => .error .notJson
      | _ => .error .notJson
    | _ => .error .notJson

end

/-- The value that a whole text describes, read within limits. -/
def readWithin (limits : JsonLimits) (text : Text) : Except JsonFault Json := do
  -- Every level takes at least one character, so the length bounds the fuel.
  let (value, rest) ← readValue (text.length + 1) limits (skipSpace text)
  if (skipSpace rest).isEmpty then .ok value else .error .notJson

end Json

end DiceChat
