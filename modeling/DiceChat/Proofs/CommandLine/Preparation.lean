import DiceChat.Proofs.CommandLine.Start
import DiceChat.Proofs.Log.Console
import DiceChat.Proofs.Log.Pages

/-! What the program writes before it looks for the token: the configuration and the log. A path that leads to another
file is read as before. -/

namespace DiceChat

/-- The file that decides what is read at a path, if there is one: the file there, or the one in the way. -/
def System.slot? (system : System) (path : JsonText) : Option Text :=
  match system.follow path with
  | .ok (.file place) => some place.slot
  | .ok (.behind slot _) => some slot
  | _ => none

namespace Disk

variable {disk other : Disk}

/-- What is read at a path depends on the system and on the file that decides there. -/
theorem open?_congr {path : JsonText} (same : other.system = disk.system)
    (held : ∀ slot, disk.system.slot? path = some slot → other.file? slot = disk.file? slot) :
    other.open? path = disk.open? path := by
  rw [System.slot?] at held
  simp only [open?, same]
  -- Both disks are led to the same spot, and only some spots ask for a file.
  cases reached : disk.system.follow path with
  | error fault => rfl
  | ok spot =>
    rw [reached] at held
    cases spot with
    | file place => simp only [bind, Except.bind, held place.slot rfl]
    | behind slot folderOnly => simp only [bind, Except.bind, held slot rfl]
    | folder | blocked => rfl

/-- Writing at a path changes no file but the one that is written there. -/
theorem file?_write {path : JsonText} {text name : Text} {after : Disk}
    (written : disk.write path text = .ok after) (apart : disk.system.written? path ≠ some name) :
    after.file? name = disk.file? name := by
  -- A path at which nothing can be written fails; any other one leads to its own file.
  rcases disk.target_eq path with ⟨slot, leads, target⟩ | ⟨-, error, target⟩
  · rw [write, target] at written
    obtain rfl := Except.ok.inj written
    have differ : slot ≠ name := fun same => apart (by rw [leads, same])
    exact (disk.file?_store slot name _).trans (if_neg differ)
  · rw [write, target] at written
    cases written

end Disk

namespace Store

variable {disk : Disk} {stack : Stack} {name : Text}

/-- Saving a store changes no file but its own. -/
theorem file?_save {store : Store} (apart : disk.system.written? store.path ≠ some name) :
    (store.save stack disk).1.file? name = disk.file? name := by
  -- Nothing is written by a store that cannot be saved, or where the file cannot be opened.
  rw [save]
  cases store.fault? stack with
  | some error => rfl
  | none =>
    cases written : disk.write store.path store.document.draft with
    | error error => rfl
    | ok after => exact Disk.file?_write written apart

/-- Opening a store loads the standard one. -/
theorem openAt_fst (stack : Stack) (path : Text) (disk : Disk) :
    (openAt stack path disk).1 = ((standard path).load stack disk).2.1 := by
  rcases loaded : (standard path).load stack disk with ⟨store, after, _ | error⟩ <;>
    simp only [openAt, loaded]

/-- Opening a store changes no file but its own, and that one only if it is missing. -/
theorem file?_openAt {path : Text}
    (apart : disk.system.written? path = some name → disk.file? name ≠ none) :
    (openAt stack path disk).1.file? name = disk.file? name := by
  rw [openAt_fst, load]
  -- A file that exists is only read.
  split
  · cases (standard path).readDocument stack disk <;> rfl
  · rename_i absent
    exact file?_save fun written => absent (Disk.has_of_written written (apart written))

end Store

namespace Program

/-- A file that is written before the token is looked for: a missing configuration, or a page of the log. -/
inductive Writes (program : Program) (config : Given) (store : Store) (name : Text) : Prop where
  /-- It is where the configuration is written, as it is missing. -/
  | config {path : Text} (given : config = .text path)
      (target : program.disk.system.written? path = some name)
      (absent : program.disk.file? name = none) : Writes program config store name
  /-- It is the log file, or an earlier one. -/
  | log {log : Text} {number : Nat}
      (opened : Logging.fileOf program.disk.system store.globals.logFile = some log)
      (within : number ≤ backupCount) (page : pageName log number = name) :
      Writes program config store name

/-- Opening the configuration changes no file but the one it is written to. -/
theorem file?_openConfig {stack : Stack} {config : Given} {disk : Disk} {name : Text}
    (apart : ∀ path, config = .text path → disk.system.written? path = some name →
      disk.file? name ≠ none) :
    (openConfig stack config disk).1.file? name = disk.file? name := by
  -- Without a path there is nothing to open.
  cases config with
  | blank => rfl
  | text path => exact Store.file?_openAt (apart path rfl)

/-- Opening the configuration does not touch the system. -/
theorem system_openConfig (stack : Stack) (config : Given) (disk : Disk) :
    (openConfig stack config disk).1.system = disk.system := by
  cases config with
  -- Without a path nothing is opened at all.
  | blank => rfl
  | text path =>
    rw [openConfig, Store.openAt_fst]
    exact Store.system_load ..

/-- A prepared program has opened the configuration, set up the logger, and logged one record. -/
theorem prepare_eq {program : Program} {stack : Stack} {config : Given} {store : Store}
    (prepared : (program.prepare stack config).2 = .ok store) :
    ∃ severity, Severity.ofJson? store.globals.logLevel = some severity ∧
      (program.prepare stack config).1 = Program.log
        { program with
          logging := ⟨⟨severity, Logging.fileOf program.disk.system store.globals.logFile⟩, true⟩
          disk := (openConfig stack config program.disk).1.opened
            (Logging.fileOf program.disk.system store.globals.logFile) } [tokenRecord] := by
  have system := system_openConfig stack config program.disk
  rw [prepare] at prepared ⊢
  -- Each stage before the record would have ended the preparation with an error.
  rcases opened : openConfig stack config program.disk with ⟨disk, error | found⟩
  · rw [opened] at prepared
    cases prepared
  · rw [opened] at prepared system
    simp only [configureLogging] at prepared ⊢
    cases accepted : Severity.ofJson? found.globals.logLevel with
    | none =>
      obtain ⟨error, configured⟩ :=
        Logging.configure_of_rejected program.logging disk found.globals.logFile accepted
      rw [configured] at prepared
      cases prepared
    | some severity =>
      obtain ⟨error, configured, -⟩ :=
        Logging.configure_of_severity program.logging disk found.globals.logFile accepted
      rw [configured] at prepared ⊢
      cases error with
      | some error => cases prepared
      | none =>
        obtain rfl := Except.ok.inj prepared
        -- The log file is the one of the system as the program found it.
        rw [← system]
        exact ⟨severity, accepted, rfl⟩

/-- A prepared program finds the system as it was. -/
theorem system_prepare {program : Program} {stack : Stack} {config : Given} {store : Store}
    (prepared : (program.prepare stack config).2 = .ok store) :
    (program.prepare stack config).1.disk.system = program.disk.system := by
  obtain ⟨severity, -, ready⟩ := prepare_eq prepared
  rw [ready]
  -- Opening the log file and writing the line about it both leave the system as it was.
  refine (Logging.system_write ..).trans ?_
  rw [Disk.system_opened, system_openConfig]

/-- A file that is not written before the token is looked for holds what it held. -/
theorem file?_prepare {program : Program} {stack : Stack} {config : Given} {store : Store}
    (prepared : (program.prepare stack config).2 = .ok store) {name : Text}
    (apart : ¬program.Writes config store name) :
    (program.prepare stack config).1.disk.file? name = program.disk.file? name := by
  obtain ⟨severity, -, ready⟩ := prepare_eq prepared
  -- A configuration that is there is read only, and one that is missing is another file.
  have config_apart : ∀ path, config = .text path →
      program.disk.system.written? path = some name → program.disk.file? name ≠ none :=
    fun path given target absent => apart (.config given target absent)
  have log_apart : ∀ log, Logging.fileOf program.disk.system store.globals.logFile = some log →
      ∀ number ≤ backupCount, pageName log number ≠ name :=
    fun log opened number within page => apart (.log opened within page)
  -- Opening the log file may make it, and the record goes to its pages.
  have opened_apart : Logging.fileOf program.disk.system store.globals.logFile ≠ some name :=
    fun opened => log_apart name opened 0 (Nat.zero_le _) rfl
  let logging : Logging :=
    ⟨⟨severity, Logging.fileOf program.disk.system store.globals.logFile⟩, true⟩
  rw [ready]
  refine (@Logging.file?_write logging _ _ _ _ log_apart).trans ?_
  rw [Disk.file?_opened, if_neg opened_apart, file?_openConfig config_apart]

/-- A path that leads to no file that is written before the token is looked for is read as before. -/
theorem open?_prepare {program : Program} {stack : Stack} {config : Given} {store : Store}
    (prepared : (program.prepare stack config).2 = .ok store) {path : JsonText}
    (apart : ∀ slot, program.disk.system.slot? path = some slot →
      ¬program.Writes config store slot) :
    (program.prepare stack config).1.disk.open? path = program.disk.open? path :=
  Disk.open?_congr (system_prepare prepared) fun slot leads =>
    file?_prepare prepared (apart slot leads)

/-- A prepared program logs as its configuration says. -/
theorem logging_prepare {program : Program} {stack : Stack} {config : Given} {store : Store}
    (prepared : (program.prepare stack config).2 = .ok store) :
    ∃ severity, Severity.ofJson? store.globals.logLevel = some severity ∧
      (program.prepare stack config).1.logging =
        ⟨⟨severity, Logging.fileOf program.disk.system store.globals.logFile⟩, true⟩ := by
  obtain ⟨severity, accepted, ready⟩ := prepare_eq prepared
  refine ⟨severity, accepted, ?_⟩
  -- The start line is written by handlers that are already in place.
  rw [ready]
  exact Logging.write_fst _ _ _ _

/-- The time that is written into the log is not touched by preparing the program. -/
theorem time_prepare {program : Program} {stack : Stack} {config : Given} {store : Store}
    (prepared : (program.prepare stack config).2 = .ok store) :
    (program.prepare stack config).1.time = program.time := by
  obtain ⟨severity, -, ready⟩ := prepare_eq prepared
  -- Nothing between the two touches the clock.
  rw [ready]
  rfl

end Program

end DiceChat
