/-! A text is a list of characters, so every length, cut and search counts code points. -/

namespace DiceChat

/-- A text is its characters in reading order. -/
abbrev Text := List Char

/-- Texts written one after the other, with a separator between neighbours. -/
def joinWith (separator : Text) : List Text → Text
  -- The separator stands between texts only, never at either end.
  | [] => []
  | [last] => last
  | first :: rest => first ++ separator ++ joinWith separator rest

/-- The order of texts that compares code points from the left. -/
def Text.precedes : Text → Text → Bool
  -- A proper beginning comes before what it begins.
  | [], _ => true
  | _ :: _, [] => false
  | a :: left, b :: right =>
    if a.toNat < b.toNat then true
    else if b.toNat < a.toNat then false
    else Text.precedes left right

/-- The pieces of a text between occurrences of a separating character. -/
def splitOnChar (separator : Char) : Text → List Text
  -- A text without the separator is one piece, so the result is never empty.
  | [] => [[]]
  | c :: rest =>
    match splitOnChar separator rest with
    | [] => [[c]]
    | piece :: pieces =>
      if c = separator then [] :: piece :: pieces else (c :: piece) :: pieces

end DiceChat
