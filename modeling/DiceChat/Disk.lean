import DiceChat.Disk.Body
import DiceChat.Disk.Path
import DiceChat.Ordered

/-! The disk: what paths lead to on the system that the program runs on, and what the files there hold. -/

namespace DiceChat

/-- The place of a file, which is there or can be made there. -/
structure FilePlace where
  /-- The name that the file is kept under, whichever path leads to it. -/
  slot : Text
  /-- Why the file cannot be read, if it cannot. -/
  reading : Option FileFault := none
  /-- Why the file cannot be written or made, if it cannot. -/
  writing : Option FileFault := none
deriving DecidableEq

/-- What a path leads to. -/
inductive Spot where
  /-- A folder. -/
  | folder
  /-- The place of a file. -/
  | file (place : FilePlace)
  /-- A place behind that of a file, and whether only a folder could have the path. -/
  | behind (slot : Text) (folderOnly : Bool)
  /-- Nothing, and nothing can be made there; why nothing can be read, and why nothing can be written. -/
  | blocked (reading writing : FileFault)
deriving DecidableEq

/-- A system with its folders, links and rights, which the program finds and never changes. -/
structure System where
  /-- The path of the working folder, from the root. -/
  working : List Nat
  /-- What a path leads to once it is told to the system. -/
  find : List UInt8 → Spot

/-- The system with a working folder on which no path leads anywhere but those of a table. -/
def System.ofTable (working : List Nat) (table : List (List UInt8 × Spot)) : System where
  working := working
  find told :=
    ((table.find? fun row => row.1 = told).map Prod.snd).getD (.blocked .missing .missing)

/-- A system and what its files hold. -/
structure Disk where
  /-- The system. -/
  system : System
  /-- The files by their names, in the order in which they were first made. -/
  files : List (Text × Body)

/-- What a path leads to. -/
def System.follow (system : System) (path : JsonText) : Except FileError Spot :=
  (tellPath path).map system.find

namespace Disk

/-- What the file of a name holds. -/
def file? (disk : Disk) (slot : Text) : Option Body :=
  Ordered.find? disk.files slot

/-- The disk with something stored in a file. -/
def store (disk : Disk) (slot : Text) (body : Body) : Disk :=
  { disk with files := Ordered.put disk.files slot body }

/-- The disk without a file. -/
def remove (disk : Disk) (slot : Text) : Disk :=
  { disk with files := Ordered.erase disk.files slot }

/-- The disk with a file under a new name, in place of any file that had it. -/
def rename (disk : Disk) (old new : Text) : Disk :=
  match disk.file? old with
  | none => disk
  | some body => ((disk.remove new).remove old).store new body

/-- Whether a path leads to something that exists. -/
def has (disk : Disk) (path : JsonText) : Bool :=
  match disk.system.follow path with
  | .ok .folder => true
  | .ok (.file place) => (disk.file? place.slot).isSome
  | .ok (.behind _ _) | .ok (.blocked _ _) | .error _ => false

/-- What the file that a path leads to holds. -/
def open? (disk : Disk) (path : JsonText) : Except FileError Body := do
  match ← disk.system.follow path with
  | .folder => .error (.refused .isFolder path)
  | .behind slot _ =>
    .error (.refused (if (disk.file? slot).isSome then .notFolder else .missing) path)
  | .blocked reading _ => .error (.refused reading path)
  | .file place =>
    -- A file that is missing is told of first.
    match disk.file? place.slot, place.reading with
    | none, _ => .error (.refused .missing path)
    | some _, some fault => .error (.refused fault path)
    | some body, none => .ok body

/-- The name of the file that is written at a path, whether it is there or is made. -/
def target (disk : Disk) (path : JsonText) : Except FileError Text := do
  match ← disk.system.follow path with
  | .folder => .error (.refused .isFolder path)
  | .behind slot folderOnly =>
    -- That the path ends like that of a folder is told of first.
    .error (.refused
      (if folderOnly then .isFolder
        else if (disk.file? slot).isSome then .notFolder else .missing) path)
  | .blocked _ writing => .error (.refused writing path)
  | .file place =>
    match place.writing with
    | some fault => .error (.refused fault path)
    | none => .ok place.slot

/-- The disk after a text was written to the file that a path leads to. -/
def write (disk : Disk) (path : JsonText) (text : Text) : Except FileError Disk :=
  (disk.target path).map fun slot => disk.store slot (.text text)

/-- The disk with the file at a path opened to be added to, and the name of the file. -/
def openLog (disk : Disk) (path : JsonText) : Except FileError (Disk × Text) :=
  -- The path is made absolute first; a file that is missing is made.
  (disk.target (absolutePath disk.system.working path)).map fun slot =>
    (disk.store slot ((disk.file? slot).getD (.text [])), slot)

end Disk

end DiceChat
