import DiceChat.Disk
import DiceChat.Json.Basic
import DiceChat.Log.Record
import DiceChat.Log.Threshold

/-! The logger writes records to the console and to a file that is rotated before it grows too large. -/

namespace DiceChat

/-- Where records go, and from which severity on. -/
structure Logger where
  /-- The least severity that is written. -/
  threshold : Severity
  /-- The file that records are added to, if there is one. -/
  file : Option Text
deriving DecidableEq

/-- The logger used where none is configured. -/
def Logger.standard : Logger := ⟨.info, none⟩

/-- The logging of the whole program. -/
structure Logging where
  /-- The logger that is set up. -/
  logger : Logger
  /-- Whether some logger was chosen; if not, the first record sets up the standard one. -/
  chosen : Bool
deriving DecidableEq

/-- Why a logger cannot be configured. -/
inductive LoggingError where
  /-- The name of the threshold is no text. -/
  | thresholdKind
  /-- The name sets no threshold. -/
  | threshold (error : ThresholdError)
  /-- The path of the file is no text. -/
  | pathKind
  /-- The file cannot be opened. -/
  | file (error : FileError)
deriving DecidableEq

/-- What an error is reported as. -/
def LoggingError.message : LoggingError → Text
  | .thresholdKind => "the level of the log is no text".toList
  | .threshold error => error.message
  | .pathKind => "the path of the log is no text".toList
  | .file error => error.message

/-- The size at which a file is rotated. -/
def maxFileSize : Nat := 1024 * 1024

/-- How many earlier files are kept. -/
def backupCount : Nat := 5

/-- The name of an earlier file; the higher the number, the earlier. -/
def backupName (name : Text) (number : Nat) : Text :=
  name ++ '.' :: writeNat number

namespace Disk

/-- The disk with the earlier files below a number moved one number on, the highest first. -/
def shiftBackups (disk : Disk) (name : Text) : Nat → Disk
  -- What moves on replaces what was there.
  | 0 => disk
  | number + 1 =>
    (disk.rename (backupName name (number + 1)) (backupName name (number + 2))).shiftBackups name
      number

/-- The disk with a file moved to the first earlier one, and an empty file in its place. -/
def rotate (disk : Disk) (name : Text) : Disk :=
  ((disk.shiftBackups name (backupCount - 1)).rename name (backupName name 1)).store name
    (.text [])

/-- The disk with a line added to a log file, which is rotated first if the line has no room. -/
def log (disk : Disk) (name line : Text) : Disk :=
  -- The size counts bytes and the line characters; an empty file is rotated too.
  let held := (disk.file? name).getD (.text [])
  if held.size + line.length < maxFileSize then disk.store name (held.append line)
  else (disk.rotate name).store name (.text line)

end Disk

namespace Logging

/-- The logging before anything was logged or configured. -/
def fresh : Logging := ⟨.standard, false⟩

/-- The disk with the log file opened at the path that a value names, and the name of the file. -/
def openLogAt (disk : Disk) (path : Json) : Except LoggingError (Disk × Text) :=
  match path with
  | .string path => (disk.openLog path).mapError .file
  | _ => .error .pathKind

/-- Sets up a logger with a threshold and perhaps a file. -/
def configure (logging : Logging) (disk : Disk) (file threshold : Json) :
    Logging × Disk × Option LoggingError :=
  -- A bad threshold changes nothing; after it the console is set up, and the file last.
  match threshold with
  | .string name =>
    match Severity.ofJsonText name with
    | .error error => (logging, disk, some (.threshold error))
    | .ok severity =>
      let console : Logger := ⟨severity, none⟩
      if file.isEmpty then (⟨console, true⟩, disk, none)
      else
        match openLogAt disk file with
        | .error error => ({ logging with logger := console }, disk, some error)
        | .ok (disk, name) => (⟨⟨severity, some name⟩, true⟩, disk, none)
  | _ => (logging, disk, some .thresholdKind)

/-- The logging once a logger is needed. -/
def ready (logging : Logging) : Logging :=
  if logging.chosen then logging else ⟨.standard, true⟩

/-- Writes a record at a time: to the console, and to the file if there is one. -/
def write (logging : Logging) (disk : Disk) (time : Text) (record : LogRecord) :
    Logging × Disk × Text :=
  -- Both get the same line.
  let logging := logging.ready
  if record.severity.passes logging.logger.threshold then
    let line := record.line time
    match logging.logger.file with
    | none => (logging, disk, line)
    | some name => (logging, disk.log name line, line)
  else (logging, disk, [])

/-- Writes records in order: the logging, the disk, and what came to the console. -/
def writeAll (logging : Logging) (disk : Disk) (time : Text) :
    List LogRecord → Logging × Disk × Text
  | [] => (logging, disk, [])
  | record :: rest =>
    let (logging, disk, line) := logging.write disk time record
    let (logging, disk, lines) := logging.writeAll disk time rest
    (logging, disk, line ++ lines)

end Logging

end DiceChat
