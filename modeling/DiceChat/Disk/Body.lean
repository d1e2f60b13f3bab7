import DiceChat.Text.Utf8

/-! What a file holds: text, or bytes that may not be text. -/

namespace DiceChat

/-- What a file holds. -/
inductive Body where
  /-- Text, stored as UTF-8. -/
  | text (content : Text)
  /-- Bytes of any kind. -/
  | bytes (content : List UInt8)
deriving DecidableEq

namespace Body

/-- How many bytes a file takes. -/
def size : Body → Nat
  | text content => utf8Size content
  | bytes content => content.length

/-- What a file holds after a text was added at its end. -/
def append (body : Body) (added : Text) : Body :=
  match body with
  | text content => text (content ++ added)
  | bytes content => bytes (content ++ encodeUtf8 added)

/-- The text of a file, character by character. -/
def decoded : Body → Except Utf8Error Text
  | text content => .ok content
  | bytes content => decodeUtf8 content

/-- The text of a file with its line ends unified. -/
def read (body : Body) : Except Utf8Error Text :=
  body.decoded.map unifyLineEnds

end Body

end DiceChat
