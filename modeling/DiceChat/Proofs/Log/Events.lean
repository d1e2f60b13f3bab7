import DiceChat.Proofs.Log.Console
import DiceChat.Proofs.Log.Opening
import Mathlib

/-! What happens to a log, event by event: which logger is in force, what is written by it, and where. -/

namespace DiceChat

/-- Something that happens to a log. -/
inductive LogEvent where
  /-- The logger is set up with a file and a threshold. -/
  | configure (file threshold : Json)
  /-- A record is logged at a time. -/
  | message (time : Text) (record : LogRecord)

/-- A line that is written to the console, and the log file that it is written to as well. -/
structure LogLine where
  /-- What it says. -/
  text : Text
  /-- The log file, if there is one. -/
  file : Option Text

namespace LogEvent

/-- The logger that an event sets up on a system, if it is a set-up with a threshold that is a severity. -/
def logger? (system : System) : LogEvent → Option Logger
  -- A file that cannot be opened leaves a logger without one.
  | configure file threshold =>
    (Severity.ofJson? threshold).map fun severity => ⟨severity, Logging.fileOf system file⟩
  | message _ _ => none

/-- The log file that an event opens, if it opens one. -/
def file? (system : System) (event : LogEvent) : Option Text :=
  (event.logger? system).bind Logger.file

/-- What is written for an event where a logger is in force. -/
def line? (logger : Logger) : LogEvent → Option LogLine
  | configure _ _ => none
  | message time record =>
    if record.severity.passes logger.threshold then some ⟨record.line time, logger.file⟩ else none

end LogEvent

namespace Logger

/-- The logger in force after an event. -/
def next (system : System) (logger : Logger) (event : LogEvent) : Logger :=
  (event.logger? system).getD logger

/-- The logger in force after several events, the latest one that was set up. -/
def after (system : System) (logger : Logger) (events : List LogEvent) : Logger :=
  events.foldl (next system) logger

/-- What is written for events, each by the logger in force when it happens. -/
def lines (system : System) (logger : Logger) : List LogEvent → List LogLine
  | [] => []
  | event :: rest => (event.line? logger).toList ++ (logger.next system event).lines system rest

/-- The log files that are open at first or opened by events. -/
def openings (system : System) (logger : Logger) (events : List LogEvent) : List Text :=
  logger.file.toList ++ events.filterMap (LogEvent.file? system)

/-- The lines that are written to a log file. -/
def linesTo (system : System) (logger : Logger) (events : List LogEvent) (name : Text) : List Text :=
  ((logger.lines system events).filter fun line => line.file = some name).map LogLine.text

variable (system : System) (logger : Logger) (events : List LogEvent) (event : LogEvent)

/-- One more event may set up another logger. -/
@[simp] theorem after_append_singleton :
    logger.after system (events ++ [event]) = (logger.after system events).next system event := by
  simp [after]

/-- One more event is written by the logger in force. -/
@[simp] theorem lines_append_singleton :
    logger.lines system (events ++ [event]) =
      logger.lines system events ++ (event.line? (logger.after system events)).toList := by
  -- The first event decides which logger the others start from.
  induction events generalizing logger with
  | nil => simp [lines, after]
  | cons first rest ih =>
    rw [List.cons_append, lines, ih, lines, List.append_assoc]
    rfl

/-- One more event may open another log file. -/
@[simp] theorem openings_append_singleton :
    logger.openings system (events ++ [event]) = logger.openings system events ++ (event.file? system).toList := by
  rw [openings, openings, List.filterMap_append, List.append_assoc]
  cases opened : event.file? system <;> simp [opened]

/-- One more event may add a line to a log file. -/
theorem linesTo_append_singleton (name : Text) :
    logger.linesTo system (events ++ [event]) name = logger.linesTo system events name ++
      ((event.line? (logger.after system events)).toList.filter fun line =>
        line.file = some name).map LogLine.text := by
  rw [linesTo, lines_append_singleton, List.filter_append, List.map_append, linesTo]

variable {system logger events event}

/-- The file of the logger in force was opened. -/
theorem mem_openings_of_after {name : Text} (file : (logger.after system events).file = some name) :
    name ∈ logger.openings system events := by
  -- Either the last event opened the file, or it was in force before.
  induction events using List.reverseRecOn with
  | nil => exact List.mem_append_left _ (Option.mem_toList.mpr file)
  | append_singleton events event ih =>
    rw [openings_append_singleton]
    rw [after_append_singleton, next] at file
    cases anew : event.logger? system with
    -- No file was opened by the event, so the one before is in force.
    | none =>
      rw [anew] at file
      exact List.mem_append_left _ (ih file)
    | some other =>
      -- The event opened the file itself.
      rw [anew] at file
      have opened : event.file? system = some name := by rw [LogEvent.file?, anew]; exact file
      exact List.mem_append_right _ (Option.mem_toList.mpr opened)

/-- A file that was not opened gets no lines. -/
theorem linesTo_of_not_mem {name : Text} (unopened : name ∉ logger.openings system events) :
    logger.linesTo system events name = [] := by
  induction events using List.reverseRecOn with
  | nil => rfl
  | append_singleton events event ih =>
    rw [openings_append_singleton, List.mem_append, not_or] at unopened
    rw [linesTo_append_singleton, ih unopened.1, List.nil_append]
    -- The last event is written to the file in force, which is another one.
    have elsewhere : (logger.after system events).file ≠ some name := fun file =>
      unopened.1 (mem_openings_of_after file)
    cases event with
    | configure file threshold => rfl
    | message time record =>
      rw [LogEvent.line?]
      split <;> simp [elsewhere]

end Logger

/-- A log at some moment: the logging, the disk with its files, and what the console has shown. -/
structure Logbook where
  /-- The logging. -/
  logging : Logging
  /-- The disk. -/
  disk : Disk
  /-- What was shown. -/
  console : Text

namespace Logbook

/-- The log after an event. -/
def next (book : Logbook) : LogEvent → Logbook
  | .configure file threshold =>
    let (logging, disk, _) := book.logging.configure book.disk file threshold
    ⟨logging, disk, book.console⟩
  | .message time record =>
    let (logging, disk, line) := book.logging.write book.disk time record
    ⟨logging, disk, book.console ++ line⟩

/-- The log after several events. -/
def after (book : Logbook) (events : List LogEvent) : Logbook :=
  events.foldl next book

/-- One more event happens to the log that the others lead to. -/
theorem after_append_singleton (book : Logbook) (events : List LogEvent) (event : LogEvent) :
    book.after (events ++ [event]) = (book.after events).next event := by
  simp [after]

variable {book : Logbook}

/-- A set-up whose threshold is refused changes nothing. -/
theorem next_of_rejected (book : Logbook) (file : Json) {threshold : Json}
    (rejected : Severity.ofJson? threshold = none) :
    book.next (.configure file threshold) = book := by
  obtain ⟨error, refused⟩ := book.logging.configure_of_rejected book.disk file rejected
  rw [next, refused]

/-- A set-up with a severity sets it in any case, and opens the file if it can be opened. -/
theorem next_of_severity (chosen : book.logging.chosen = true) (file : Json) {threshold : Json}
    {severity : Severity} (accepted : Severity.ofJson? threshold = some severity) :
    book.next (.configure file threshold) =
      ⟨⟨⟨severity, Logging.fileOf book.disk.system file⟩, true⟩, book.disk.opened (Logging.fileOf book.disk.system file),
        book.console⟩ := by
  -- A logger was chosen before, so it stays chosen even if the file fails.
  obtain ⟨error, configured, -⟩ :=
    book.logging.configure_of_severity book.disk file accepted
  rw [next, configured, chosen, Bool.or_true]

/-- A record that does not pass changes nothing. -/
theorem next_of_silent (chosen : book.logging.chosen = true) {time : Text} {record : LogRecord}
    (silent : (LogEvent.message time record).line? book.logging.logger = none) :
    book.next (.message time record) = book := by
  -- A record below the threshold is neither shown nor written.
  have ready := Logging.ready_of_chosen chosen
  rw [LogEvent.line?] at silent
  split at silent
  · cases silent
  · rename_i below
    simp [next, Logging.write, ready, below]

/-- A record that passes is one more line of the console and of the file, if there is one. -/
theorem next_of_line (chosen : book.logging.chosen = true) {time : Text} {record : LogRecord}
    {line : LogLine}
    (written : (LogEvent.message time record).line? book.logging.logger = some line) :
    book.next (.message time record) =
      ⟨book.logging,
        match line.file with
        | none => book.disk
        | some name => book.disk.log name line.text,
        book.console ++ line.text⟩ := by
  have ready := Logging.ready_of_chosen chosen
  rw [LogEvent.line?] at written
  split at written
  -- The console and the file get the same line.
  · rename_i passing
    obtain rfl := Option.some.inj written
    simp only [next, Logging.write, ready, passing, if_true]
    cases book.logging.logger.file <;> rfl
  · cases written

/-- A set-up that fails leaves the old logger, or the new threshold without a file. -/
theorem next_of_failed (chosen : book.logging.chosen = true) {file threshold : Json}
    {error : LoggingError}
    (failed : (book.logging.configure book.disk file threshold).2.2 = some error) :
    book.next (.configure file threshold) =
      match Severity.ofJson? threshold with
      | none => book
      | some severity => ⟨⟨⟨severity, none⟩, true⟩, book.disk, book.console⟩ := by
  cases read : Severity.ofJson? threshold with
  -- A threshold that is no level leaves the logger as it was.
  | none => exact next_of_rejected book file read
  | some severity =>
    obtain ⟨told, configured, success⟩ := book.logging.configure_of_severity book.disk file read
    rw [configured] at failed
    -- It can only have failed because there is a file, and it cannot be opened.
    have unsuccessful : ¬(file.isEmpty = true ∨ (Logging.opening? book.disk.system file).isSome = true) :=
      fun opens => by cases failed.symm.trans (success.mpr opens)
    have no_file : Logging.fileOf book.disk.system file = none := by
      rw [not_or, Option.not_isSome_iff_eq_none] at unsuccessful
      rw [Logging.fileOf, if_neg unsuccessful.1, unsuccessful.2]
    rw [next_of_severity chosen file read, no_file]
    rfl

/-- The logger stays chosen. -/
theorem chosen_next (chosen : book.logging.chosen = true) (event : LogEvent) :
    (book.next event).logging.chosen = true := by
  -- A set-up chooses a logger unless it is rejected, and a record uses the one that was chosen.
  cases event with
  | configure file threshold =>
    cases read : Severity.ofJson? threshold with
    | none => rw [next_of_rejected book file read, chosen]
    | some severity => rw [next_of_severity chosen file read]
  | message time record =>
    rw [next]
    dsimp only
    rw [Logging.write_fst, Logging.ready_of_chosen chosen, chosen]

end Logbook

end DiceChat
