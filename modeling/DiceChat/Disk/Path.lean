import DiceChat.Json.Text
import DiceChat.Text.Utf8

/-! Paths: what they are made of, how they are tidied and told to the system, and why one cannot be opened. -/

namespace DiceChat

/-- Why the system refuses to open a file or to read it. -/
structure FileFault where
  /-- The number of the reason. -/
  number : Nat
  /-- The reason in words. -/
  reason : Text
  /-- Whether the path is told with it; what fails once the file is open has no path. -/
  named : Bool := true
deriving DecidableEq

namespace FileFault

/-- Nothing is there. -/
def missing : FileFault := { number := 2, reason := "No such file or directory".toList }

/-- A file stands where a folder is needed. -/
def notFolder : FileFault := { number := 20, reason := "Not a directory".toList }

/-- A folder is there. -/
def isFolder : FileFault := { number := 21, reason := "Is a directory".toList }

end FileFault

/-- Why a file cannot be opened or read. -/
inductive FileError where
  /-- The system refuses the path. -/
  | refused (fault : FileFault) (path : JsonText)
  /-- The path holds the character that ends texts for the system. -/
  | nullByte
  /-- The path holds half of a character that stands for no byte. -/
  | torn
deriving DecidableEq

/-- What an error is reported as. -/
def FileError.message : FileError → Text
  -- What is never told to the system has no number.
  | .refused fault path =>
    let told := "[Errno ".toList ++ writeNat fault.number ++ "] ".toList ++ fault.reason
    if fault.named then told ++ ": ".toList ++ path.quoted else told
  | .nullByte => "embedded null byte".toList
  | .torn => "the path holds half of a character".toList

/-- The bytes that a code point stands for in a path. -/
def pathBytes? (point : Nat) : Option (List UInt8) :=
  -- A second half that holds the bits of a byte beyond ASCII stands for that byte.
  if !isHalf point then some (encodeUtf8 [Char.ofNat point])
  else if 0xDC80 ≤ point ∧ point < 0xDD00 then some [(point - 0xDC00).toUInt8]
  else none

/-- A path in the bytes that it is told to the system in. -/
def tellPath (path : JsonText) : Except FileError (List UInt8) :=
  match path.points.mapM pathBytes? with
  | none => .error .torn
  | some bytes => if path.points.contains 0 then .error .nullByte else .ok bytes.flatten

/-- The code point between the steps of a path. -/
def slashPoint : Nat := '/'.toNat

/-- The step that leads nowhere. -/
def inPlace : List Nat := ['.'.toNat]

/-- The step that leads to the folder above. -/
def upward : List Nat := ['.'.toNat, '.'.toNat]

/-- The steps of a path, without those that lead nowhere. -/
def pathSteps (points : List Nat) : List (List Nat) :=
  -- Any number of slashes stands between two steps.
  let pieces := points.foldr (fun point steps =>
    if point = slashPoint then [] :: steps
    else match steps with
      | [] => [[point]]
      | step :: rest => (point :: step) :: rest) [[]]
  pieces.filter fun step => step ≠ [] ∧ step ≠ inPlace

/-- The slashes that a path from the root keeps at its start: two stay two, any other number is one. -/
def rootSlashes (points : List Nat) : List Nat :=
  let slashes := points.takeWhile (· = slashPoint)
  if slashes.length = 2 then slashes else slashes.take 1

/-- A path with its steps made plain, the way paths in messages are written. -/
def tidyPath (path : JsonText) : JsonText :=
  -- A path that leads nowhere is the folder itself.
  let tidy := rootSlashes path.points ++ [slashPoint].intercalate (pathSteps path.points)
  .ofPoints (if tidy.isEmpty then inPlace else tidy)

/-- Steps with those that lead upward taken back, as far as there is something to take back. -/
def takeBack (steps : List (List Nat)) : List (List Nat) :=
  -- The latest step stands in front until all are taken.
  (steps.foldl (fun taken step =>
    if step = upward then taken.tail else step :: taken) []).reverse

/-- A path from the root, without steps that are taken back, for a path from a working folder or from the root. -/
def absolutePath (working : List Nat) (path : JsonText) : JsonText :=
  let points :=
    if path.points.head? = some slashPoint then path.points
    else if working.getLast? = some slashPoint then working ++ path.points
    else working ++ slashPoint :: path.points
  .ofPoints (rootSlashes points ++ [slashPoint].intercalate (takeBack (pathSteps points)))

end DiceChat
