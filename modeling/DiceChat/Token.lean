import DiceChat.Disk

/-! The token of the bot, given directly or in a file. -/

namespace DiceChat

/-- The value that a flag or the surroundings of the program give. -/
inductive Given where
  /-- A text. -/
  | text (value : Text)
  /-- No text, where the separator of the command line stands for one. -/
  | blank
deriving DecidableEq

/-- The text of a value that may be missing, empty where there is none. -/
def Given.orEmpty : Option Given → Text
  | some (.text value) => value
  | _ => []

/-- Why there is no token. -/
inductive TokenError where
  /-- Neither a token nor a file was given. -/
  | notGiven
  /-- The file cannot be opened. -/
  | file (error : FileError)
  /-- The file is not UTF-8. -/
  | encoding (error : Utf8Error)
deriving DecidableEq

/-- What an error is reported as. -/
def TokenError.message : TokenError → Text
  | .notGiven => "No API Key provided".toList
  | .file error => error.message
  | .encoding error => error.message

/-- The token in a file, without the blanks around it. -/
def readToken (disk : Disk) (path : Text) : Except TokenError Text := do
  let body ← (disk.open? (tidyPath path)).mapError .file
  let text ← body.read.mapError .encoding
  pure (trim text)

/-- The token: the given one if it is not empty, else that of the given file. -/
def findToken (disk : Disk) (token file : Option Given) : Except TokenError Text :=
  -- An empty token or path counts as not given.
  if Given.orEmpty token ≠ [] then .ok (Given.orEmpty token)
  else if Given.orEmpty file ≠ [] then readToken disk (Given.orEmpty file)
  else .error .notGiven

end DiceChat
