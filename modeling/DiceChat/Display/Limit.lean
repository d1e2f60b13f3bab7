import DiceChat.Json.Basic

/-! Limits on the length of a text: whole ones cut it, fractional ones can only let it pass. -/

namespace DiceChat

/-- The mark that a text was cut. -/
def ellipsis : Text := "...".toList

/-- The most characters a text may have. -/
inductive Limit where
  /-- A whole number of characters; a negative one counts from the end. -/
  | whole (count : Int)
  /-- A number of characters that is no place to cut at. -/
  | fraction (count : Binary64)
deriving DecidableEq

/-- The beginning of a text up to a place, which counts from the end if it is negative. -/
def cutAt (text : Text) (place : Int) : Text :=
  if 0 ≤ place then text.take place.toNat else text.take (text.length - (-place).toNat)

/-- A text with no more characters than a whole limit, marked if it was cut. -/
def truncate (text : Text) (limit : Int) : Text :=
  -- Every text is longer than a negative limit.
  if limit < text.length then cutAt text limit ++ ellipsis else text

namespace Limit

/-- Whether a text has more characters than a limit. -/
def exceededBy (limit : Limit) (text : Text) : Bool :=
  match limit with
  | whole count => count < text.length
  | fraction count => count.below text.length

/-- The text within a limit, unless it would have to be cut at a fraction. -/
def cut? (limit : Limit) (text : Text) : Option Text :=
  match limit with
  | whole count => some (truncate text count)
  | fraction _ => if limit.exceededBy text then none else some text

/-- A limit lowered to a whole one, if that is less. -/
def atMost (limit : Limit) (most : Int) : Limit :=
  -- An equal limit stays as it was.
  match limit with
  | whole count => whole (if most < count then most else count)
  | fraction count => if count.above most then whole most else fraction count

/-- The limit that a stored value sets, if it is a number; truth values count as one and zero. -/
def ofJson? : Json → Option Limit
  | .whole count => some (whole count)
  | .bool true => some (whole 1)
  | .bool false => some (whole 0)
  | .fraction count => some (fraction count)
  | _ => none

end Limit

end DiceChat
