import DiceChat.CommandLine.Program
import DiceChat.CommandLine.Usage
import Std.Time.Format

/-! The command line: the files that are needed are read, the program does what is asked, and the files are written. -/

namespace DiceChat

/-- What the outside says of a path: how it is told to the system, where it leads, and the file there. -/
structure Finding where
  /-- The path as it is told. -/
  told : List UInt8
  /-- What it leads to. -/
  spot : Spot
  /-- The file, if there is one. -/
  file : Option (Text × Body)

/-- Why the system refuses something, from the error that it gives. -/
def refusalOf : IO.Error → FileFault
  | .permissionDenied _ code details => { number := code.toNat, reason := details.toList }
  | .noFileOrDirectory .. => .missing
  | error => { number := 5, reason := error.toString.toList, named := false }

/-- Finds out where a path leads, from a working folder. -/
def explore (working : List Nat) (path : JsonText) : IO Finding := do
  let told := (tellPath path).toOption.getD []
  let place := (← IO.currentDir) / String.ofList path.plain
  let parent := place.parent.getD place
  if ← place.isDir then return ⟨told, .folder, none⟩
  else if ← place.pathExists then
    -- Whichever path leads to the file, it is kept under one name.
    let slot := (← IO.FS.realPath place).toString.toList
    try
      let content ← IO.FS.readBinFile place
      return ⟨told, .file { slot := slot }, some (slot, .bytes content.toList)⟩
    catch error =>
      return ⟨told, .file { slot := slot, reading := some (refusalOf error) }, some (slot, .text [])⟩
  else if ← parent.isDir then
    return ⟨told, .file { slot := (absolutePath working path).plain }, none⟩
  else if ← parent.pathExists then return ⟨told, .blocked .notFolder .notFolder, none⟩
  else return ⟨told, .blocked .missing .missing, none⟩

/-- The disk as far as paths were explored. -/
def diskOf (working : List Nat) (findings : List Finding) : Disk :=
  { system := .ofTable working (findings.map fun finding => (finding.told, finding.spot))
    files := findings.filterMap Finding.file }

/-- The paths that a bot is given by its options. -/
def givenPaths (options : BotOptions) : List JsonText :=
  let config : List JsonText := match options.config with
    | .text path => [path]
    | .blank => []
  config ++ [tidyPath (Given.orEmpty options.tokenFile)]

/-- What is left of the call stack when the program starts: more than any document in use needs. -/
def freshStack : Stack := .ofLevels 1000 1000

/-- The paths of the log and of its earlier files, as far as a configuration names a log. -/
def logPaths (options : BotOptions) (disk : Disk) : List JsonText :=
  match (Program.openConfig freshStack options.config disk).2 with
  | .ok store =>
    match store.globals.logFile with
    | .string path =>
      let log := absolutePath disk.system.working path
      log :: (List.range backupCount).map fun number => backupName log.plain (number + 1)
    | _ => []
  | .error _ => []

/-- The disk that an invocation needs; a roll needs none. -/
def neededDisk (invocation : Invocation) : IO Disk := do
  let working := (← IO.currentDir).toString.toList.map Char.toNat
  match invocation.command with
  | .roll _ => return diskOf working []
  | _ =>
    -- The configuration tells where the log is.
    let given ← (givenPaths invocation.options).mapM (explore working)
    let logs ← (logPaths invocation.options (diskOf working given)).mapM (explore working)
    return diskOf working (given ++ logs)

/-- Writes a file. -/
def saveFile (name : Text) : Body → IO Unit
  | .text content => IO.FS.writeFile (String.ofList name) (String.ofList content)
  | .bytes content => IO.FS.writeBinFile (String.ofList name) (ByteArray.mk content.toArray)

/-- Writes the files that changed, and removes those that are gone. -/
def saveDisk (before after : Disk) : IO Unit := do
  after.files.forM fun (name, body) =>
    if before.file? name = some body then pure () else saveFile name body
  before.files.forM fun (name, _) =>
    if (after.file? name).isSome then pure () else IO.FS.removeFile (String.ofList name)

/-- The local time as it is written into the log. -/
def currentTime : IO Text := do
  let now ← Std.Time.PlainDateTime.now
  return (now.format "uuuu-MM-dd HH:mm:ss,SSS").toList

/-- A die whose sequence starts anywhere. -/
def freshDie : IO Die := do
  return .seeded (← IO.rand 0 (Step.modulus - 1))

/-- What the surroundings of the program say. -/
def currentEnvironment : IO Environment := do
  let token ← IO.getEnv "DISCORD_TOKEN"
  let tokenFile ← IO.getEnv "DISCORD_TOKEN_FILE"
  return ⟨token.map String.toList, tokenFile.map String.toList⟩

/-- Does what an invocation asks, and tells the number to exit with. -/
def perform (invocation : Invocation) : IO Nat := do
  -- Nobody connects a started bot from here, so its work is over at once.
  let disk ← neededDisk invocation
  let program := Program.start disk (← freshDie) (← currentTime)
  let (program, result) := program.perform invocation ⟨freshStack, .finished⟩
  saveDisk disk program.disk
  IO.print (String.ofList program.output)
  IO.eprint (String.ofList program.errors)
  match result with
  | .ok exit => return exit.code
  | .error error =>
    IO.eprintln (String.ofList error.message)
    return Exit.failure.code

end DiceChat

/-- Reads the command line and does what it asks. -/
def main (arguments : List String) : IO UInt32 := do
  let environment ← DiceChat.currentEnvironment
  match DiceChat.Invocation.read environment (arguments.map String.toList) with
  | .error .help =>
    IO.print (String.ofList DiceChat.usageText)
    return DiceChat.Exit.success.code.toUInt32
  | .error (.usage error) =>
    IO.eprint (String.ofList (DiceChat.refusalLine error))
    return DiceChat.Exit.refused.code.toUInt32
  | .ok invocation => return (← DiceChat.perform invocation).toUInt32
