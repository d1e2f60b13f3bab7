import DiceChat.Numeral
import DiceChat.Text.Quoted

/-! UTF-8 bytes read as text, with the place and the reason where they are not UTF-8. -/

namespace DiceChat

/-- Why bytes are not UTF-8. -/
inductive Utf8Fault where
  /-- A byte that starts no character. -/
  | start
  /-- A byte that does not continue the character before it. -/
  | continuation
  /-- The bytes end inside a character. -/
  | ended
deriving DecidableEq

/-- Where bytes stop being UTF-8: the fault, its first byte, its position and how many bytes it spans. -/
structure Utf8Error where
  /-- The reason. -/
  fault : Utf8Fault
  /-- The byte at the position of the fault. -/
  byte : UInt8
  /-- The number of bytes before the fault. -/
  position : Nat
  /-- The number of bytes the fault spans. -/
  span : Nat
deriving DecidableEq

/-- How many bytes continue a character after its first byte. -/
def continuationCount? (lead : UInt8) : Option Nat :=
  -- Bytes 80 to C1 and F5 to FF start no character.
  if lead < 0x80 then some 0
  else if lead < 0xC2 then none
  else if lead < 0xE0 then some 1
  else if lead < 0xF0 then some 2
  else if lead < 0xF5 then some 3
  else none

/-- The part of the code point that the first byte holds. -/
def leadBits (lead : UInt8) : Nat :=
  -- The more bytes follow, the fewer bits are left in the first one.
  if lead < 0x80 then lead.toNat
  else if lead < 0xE0 then lead.toNat - 0xC0
  else if lead < 0xF0 then lead.toNat - 0xE0
  else lead.toNat - 0xF0

/-- Whether a byte may follow the first byte directly, which excludes overlong forms and surrogates. -/
def isSecondByte (lead byte : UInt8) : Bool :=
  -- Four first bytes narrow the range of the second byte.
  let low : UInt8 := if lead = 0xE0 then 0xA0 else if lead = 0xF0 then 0x90 else 0x80
  let high : UInt8 := if lead = 0xED then 0x9F else if lead = 0xF4 then 0x8F else 0xBF
  low ≤ byte && byte ≤ high

/-- Whether a byte may continue a character after its second byte. -/
def isLaterByte (byte : UInt8) : Bool :=
  0x80 ≤ byte && byte ≤ 0xBF

/-- The bytes that continue a character: the code point and the rest, or the fault and its span. -/
def takeContinuation (fits : UInt8 → Bool) :
    Nat → Nat → Nat → List UInt8 → Except (Utf8Fault × Nat) (Nat × List UInt8)
  -- Each byte adds six bits; the span counts the bytes accepted so far.
  | 0, _, code, bytes => .ok (code, bytes)
  | _ + 1, span, _, [] => .error (.ended, span)
  | count + 1, span, code, byte :: rest =>
    if fits byte then
      takeContinuation isLaterByte count (span + 1) (64 * code + (byte.toNat - 0x80)) rest
    else .error (.continuation, span)

/-- The characters that bytes encode, read with so much fuel from the given position on. -/
def decodeFrom : Nat → Nat → List UInt8 → Except Utf8Error Text
  -- A character is taken off the front until no byte is left.
  | 0, _, _ => .ok []
  | _ + 1, _, [] => .ok []
  | fuel + 1, position, lead :: rest =>
    match continuationCount? lead with
    | none => .error ⟨.start, lead, position, 1⟩
    | some count =>
      match takeContinuation (isSecondByte lead) count 1 (leadBits lead) rest with
      | .error (fault, span) => .error ⟨fault, lead, position, span⟩
      | .ok (code, remaining) =>
        (decodeFrom fuel (position + count + 1) remaining).map (Char.ofNat code :: ·)

/-- The text that bytes encode. -/
def decodeUtf8 (bytes : List UInt8) : Except Utf8Error Text :=
  -- Every step takes at least one byte, so their number is fuel enough.
  decodeFrom bytes.length 0 bytes

/-- The bytes that encode a text. -/
def encodeUtf8 (text : Text) : List UInt8 :=
  text.flatMap String.utf8EncodeChar

/-- How many bytes a text takes. -/
def utf8Size (text : Text) : Nat :=
  text.foldl (fun size c => size + c.utf8Size) 0

/-- The reason as it is told. -/
def Utf8Fault.message : Utf8Fault → Text
  -- The three reasons that a reader of UTF-8 can give.
  | .start => "invalid start byte".toList
  | .continuation => "invalid continuation byte".toList
  | .ended => "unexpected end of data".toList

/-- The report of bytes that are not UTF-8. -/
def Utf8Error.message (error : Utf8Error) : Text :=
  -- A single byte is shown, several are located by their first and last position.
  let place :=
    if error.span = 1 then
      "byte 0x".toList ++ hexDigits 2 error.byte.toNat ++ " in position ".toList
        ++ writeNat error.position
    else
      "bytes in position ".toList ++ writeNat error.position ++ "-".toList
        ++ writeNat (error.position + error.span - 1)
  "'utf-8' codec can't decode ".toList ++ place ++ ": ".toList ++ error.fault.message

/-- A text whose line ends are all written as one line feed. -/
def unifyLineEnds : Text → Text
  -- A carriage return ends a line alone or together with the line feed behind it.
  | [] => []
  | '\r' :: '\n' :: rest => '\n' :: unifyLineEnds rest
  | '\r' :: rest => '\n' :: unifyLineEnds rest
  | c :: rest => c :: unifyLineEnds rest

end DiceChat
