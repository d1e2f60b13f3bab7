import DiceChat.Proofs.Log.Handlers
import DiceChat.Proofs.Log.Pages
import Mathlib

/-! Runs of a log: however often the logger is set up anew, a record goes to the console and the current file once. -/

namespace DiceChat

namespace Logbook

variable {book : Logbook} {events : List LogEvent} {event : LogEvent}

/-- An event does not touch the system. -/
theorem system_next (book : Logbook) (event : LogEvent) :
    (book.next event).disk.system = book.disk.system := by
  -- A message only writes pages; a configuration opens a file and lets go of another.
  cases event with
  | configure file threshold =>
    cases read : Severity.ofJson? threshold with
    | none => rw [next_of_rejected book file read]
    | some severity =>
      obtain ⟨error, configured, -⟩ :=
        book.logging.configure_of_severity book.disk file read
      rw [next, configured]
      exact Disk.system_opened ..
  | message time record => exact Logging.system_write ..

/-- No events touch the system. -/
theorem system_after (book : Logbook) (events : List LogEvent) :
    (book.after events).disk.system = book.disk.system := by
  induction events generalizing book with
  | nil => rfl
  | cons event rest ih => exact (ih (book.next event)).trans (book.system_next event)

/-- The pages of a log file after events: what it held at first, or nothing, and then the lines for it. -/
def pages (book : Logbook) (events : List LogEvent) (name : Text) : List Body :=
  pagesAfter ((book.disk.file? name).getD (.text [])) (book.logging.logger.linesTo book.disk.system events name)

/-- A logger was set up, and its file is there if it has one. -/
structure IsOpen (book : Logbook) : Prop where
  /-- The logger was chosen. -/
  chosen : book.logging.chosen = true
  /-- The file was made when it was opened. -/
  file : ∀ name, book.logging.logger.file = some name → (book.disk.file? name).isSome = true

/-- What a run leads to: the logger in force, its lines on the console, and the pages of every log file. -/
structure Follows (book : Logbook) (events : List LogEvent) : Prop where
  /-- The logger in force is the one that logs. -/
  logging : (book.after events).logging = ⟨book.logging.logger.after book.disk.system events, true⟩
  /-- Every line that passes is shown once, in order. -/
  console : (book.after events).console =
    book.console ++ (book.logging.logger.lines book.disk.system events).flatMap LogLine.text
  /-- Every log file has its lines and no others, and no other file is touched. -/
  archives : book.disk.Archives (book.after events).disk (book.logging.logger.openings book.disk.system events)
    (book.pages events)

/-- No event, no change. -/
theorem Follows.nil (ready : book.IsOpen) : book.Follows [] where
  logging := by
    rcases book with ⟨⟨logger, chosen⟩, disk, console⟩
    exact congrArg (Logging.mk logger) ready.chosen
  console := (List.append_nil _).symm
  archives :=
    { shelves := fun name member => by
        -- The file of the first logger is the only one, and what it holds is its page.
        have file : book.logging.logger.file = some name := by
          simpa [Logger.openings] using member
        obtain ⟨held, found⟩ := Option.isSome_iff_exists.mp (ready.file name file)
        have page : book.pages [] name = [held] := by rw [pages, found]; rfl
        rw [page]
        exact .start found fun _ _ _ => rfl
      elsewhere := fun _ _ => rfl }

/-- An event that sets up no logger and is not written leaves everything as it is. -/
theorem Follows.idle (follows : book.Follows events)
    (same : (book.after events).next event = book.after events) (no_logger : event.logger? book.disk.system = none)
    (no_line : event.line? (book.logging.logger.after book.disk.system events) = none) :
    book.Follows (events ++ [event]) := by
  have unchanged : book.after (events ++ [event]) = book.after events :=
    (book.after_append_singleton events event).trans same
  have no_file : event.file? book.disk.system = none := by rw [LogEvent.file?, no_logger]; rfl
  -- Both the log and what is told about it stay the same.
  have pages : book.pages (events ++ [event]) = book.pages events := by
    funext name
    simp [Logbook.pages, Logger.linesTo_append_singleton, no_line]
  -- So each part is what it was before the event.
  constructor
  · rw [unchanged, Logger.after_append_singleton, Logger.next, no_logger]
    exact follows.logging
  · rw [unchanged, Logger.lines_append_singleton, no_line]
    simpa using follows.console
  · rw [unchanged, Logger.openings_append_singleton, no_file, pages]
    simpa using follows.archives

/-- A set-up with a severity puts another logger in force, whose file has its pages. -/
theorem Follows.configured (follows : book.Follows events) (file : Json) {threshold : Json}
    {severity : Severity} (accepted : Severity.ofJson? threshold = some severity)
    (apart : NoBackups (book.logging.logger.openings book.disk.system (events ++ [.configure file threshold]))) :
    book.Follows (events ++ [.configure file threshold]) := by
  let logger : Logger := ⟨severity, Logging.fileOf book.disk.system file⟩
  have set_up : (LogEvent.configure file threshold).logger? book.disk.system = some logger := by
    rw [LogEvent.logger?, accepted]
    rfl
  have opened : (LogEvent.configure file threshold).file? book.disk.system =
      Logging.fileOf book.disk.system file := by
    rw [LogEvent.file?, set_up]
    rfl
  have chosen : (book.after events).logging.chosen = true := by rw [follows.logging]
  have set_up_then := next_of_severity chosen file accepted
  rw [system_after] at set_up_then
  -- The event is accepted: the file is opened, and the logger is the new one.
  have reached : book.after (events ++ [.configure file threshold]) =
      ⟨⟨logger, true⟩, (book.after events).disk.opened (Logging.fileOf book.disk.system file),
        (book.after events).console⟩ :=
    (book.after_append_singleton events _).trans set_up_then
  -- A set-up writes no line, so it turns no page.
  have pages : book.pages (events ++ [.configure file threshold]) = book.pages events := by
    funext name
    rw [Logbook.pages, Logger.linesTo_append_singleton]
    simp [LogEvent.line?, Logbook.pages]
  rw [Logger.openings_append_singleton, opened] at apart
  -- The logger and the console are told by the event, the pages by the file it opened.
  constructor
  · rw [reached, Logger.after_append_singleton, Logger.next, set_up]
    rfl
  · rw [reached, Logger.lines_append_singleton]
    simpa [LogEvent.line?] using follows.console
  · rw [reached, Logger.openings_append_singleton, opened, pages]
    cases named : Logging.fileOf book.disk.system file with
    | none => simpa [Disk.opened] using follows.archives
    | some name =>
      rw [named] at apart
      -- A file that is opened for the first time was given no line yet.
      refine follows.archives.opened apart (pagesAfter_ne_nil _ _) fun fresh => ?_
      rw [Logbook.pages, Logger.linesTo_of_not_mem fresh]
      rfl

/-- A record that passes is written by the logger in force. -/
theorem Follows.written (follows : book.Follows events) {time : Text} {record : LogRecord}
    {line : LogLine}
    (written : (LogEvent.message time record).line? (book.logging.logger.after book.disk.system events) =
      some line)
    (apart : NoBackups (book.logging.logger.openings book.disk.system events)) :
    book.Follows (events ++ [.message time record]) := by
  have chosen : (book.after events).logging.chosen = true := by rw [follows.logging]
  -- The logger in force is the one that the events before have left.
  have in_force : (LogEvent.message time record).line? (book.after events).logging.logger =
      some line := by rw [follows.logging]; exact written
  have reached := (book.after_append_singleton events _).trans (next_of_line chosen in_force)
  -- The line is one more for the file in force, and for no other one.
  have lines : ∀ name, book.logging.logger.linesTo book.disk.system (events ++ [.message time record]) name =
      book.logging.logger.linesTo book.disk.system events name ++
        if line.file = some name then [line.text] else [] := by
    intro name
    rw [Logger.linesTo_append_singleton, written]
    by_cases here : line.file = some name <;> simp [here]
  -- A message opens no file.
  have openings : book.logging.logger.openings book.disk.system (events ++ [.message time record]) =
      book.logging.logger.openings book.disk.system events := by
    rw [Logger.openings_append_singleton]
    exact List.append_nil _
  constructor
  · rw [reached, Logger.after_append_singleton]
    exact follows.logging
  · rw [reached, Logger.lines_append_singleton, written]
    simp [follows.console]
  · rw [reached, openings]
    dsimp only
    cases file : line.file with
    | none =>
      -- Without a file there is no page to turn.
      have pages : book.pages (events ++ [.message time record]) = book.pages events := by
        funext name
        rw [Logbook.pages, lines name, file]
        simp [Logbook.pages]
      rw [pages]
      exact follows.archives
    | some name =>
      -- The file in force was opened by one of the events.
      have member : name ∈ book.logging.logger.openings book.disk.system events := by
        rw [LogEvent.line?] at written
        split at written
        · obtain rfl := Option.some.inj written
          exact Logger.mem_openings_of_after file
        · cases written
      -- Its page is turned for the line; the pages of any other file stay.
      refine follows.archives.log apart member (pagesAfter_ne_nil _ _) line.text ?_ ?_
      · rw [Logbook.pages, lines name, if_pos file, pagesAfter, List.foldl_append]
        rfl
      · intro other differs
        rw [Logbook.pages, lines other, file, if_neg fun same => differs (Option.some.inj same).symm,
          List.append_nil]
        rfl

/-- One more event leads on, whatever it is. -/
theorem Follows.append_singleton (follows : book.Follows events) (event : LogEvent)
    (apart : NoBackups (book.logging.logger.openings book.disk.system (events ++ [event]))) :
    book.Follows (events ++ [event]) := by
  have chosen : (book.after events).logging.chosen = true := by rw [follows.logging]
  -- The last event either configures, and then perhaps opens a file, or says something.
  cases event with
  | configure file threshold =>
    cases read : Severity.ofJson? threshold with
    | none =>
      -- A threshold that is no level changes nothing.
      refine follows.idle (next_of_rejected _ file read) ?_ rfl
      rw [LogEvent.logger?, read]
      rfl
    | some severity => exact follows.configured file read apart
  | message time record =>
    -- A message leaves a line, or it is below the threshold or meant for no file.
    cases written : (LogEvent.message time record).line? (book.logging.logger.after book.disk.system events) with
    | none =>
      refine follows.idle (next_of_silent chosen ?_) rfl written
      rw [follows.logging]
      exact written
    | some line =>
      rw [Logger.openings_append_singleton] at apart
      exact follows.written written (apart.of_append_left)

/-- A run of events keeps the lines of every file apart. -/
theorem follows_of_apart (ready : book.IsOpen)
    (apart : NoBackups (book.logging.logger.openings book.disk.system events)) : book.Follows events := by
  -- Files that are apart in the end were apart all the time.
  induction events using List.reverseRecOn with
  | nil => exact .nil ready
  | append_singleton events event ih =>
    have earlier : NoBackups (book.logging.logger.openings book.disk.system events) := by
      rw [Logger.openings_append_singleton] at apart
      exact apart.of_append_left
    exact (ih earlier).append_singleton event apart

/-- The file of the logger in force is one of those whose pages are kept. -/
theorem Follows.isOpen (follows : book.Follows events) : (book.after events).IsOpen where
  chosen := by rw [follows.logging]
  -- A file that the logger writes to has been opened, so it has a page to go on with.
  file name file := by
    rw [follows.logging] at file
    obtain ⟨latest, held⟩ := follows.archives.exists_latest (Logger.mem_openings_of_after file)
      (pagesAfter_ne_nil _ _)
    exact Option.isSome_of_eq_some held

/-- Setting up succeeds exactly with a threshold that is a severity, and without a file or with one that can be written. -/
theorem configure_eq_none_iff (book : Logbook) (file threshold : Json) :
    (book.logging.configure book.disk file threshold).2.2 = none ↔
      (∃ severity, Severity.ofJson? threshold = some severity) ∧
        (file.isEmpty = true ∨ ∃ name, Logging.opening? book.disk.system file = some name) := by
  -- A bad threshold fails whatever the file; with a good one only the file can fail.
  cases accepted : Severity.ofJson? threshold with
  | none =>
    obtain ⟨error, refused⟩ := book.logging.configure_of_rejected book.disk file accepted
    simp [refused]
  | some severity =>
    obtain ⟨error, configured, success⟩ :=
      book.logging.configure_of_severity book.disk file accepted
    simp [configured, success, Option.isSome_iff_exists]

/-- A run of set-ups and records: where every record is found, what it reads like, and what a set-up does. -/
structure Routes (book : Logbook) (events : List LogEvent) : Prop extends Follows book events where
  /-- The logger is in place as it was before. -/
  still_open : (book.after events).IsOpen
  /-- The handlers that the set-ups install and take away are always those of the logger in force. -/
  handlers : ∀ process : Process, process.Shows book → (process.after events).Shows (book.after events)
  /-- The line of a record tells the time, the severity and the message, and behind them a failure if there is one. -/
  reading : ∀ time record, .message time record ∈ events →
    record.line time = time ++ " - DiceBot - ".toList ++ record.severity.name ++ " - ".toList ++
      record.message ++ record.behind ++ "\n".toList
  /-- The pages of a log file hold what it held at first, and then its lines, each once and in order. -/
  contents : ∀ name, (book.pages events name).reverse.flatMap Body.content =
    ((book.disk.file? name).getD (.text [])).content ++
      (book.logging.logger.linesTo book.disk.system events name).flatMap encodeUtf8
  /-- A set-up succeeds exactly if the threshold is a severity and the file, if one is given, is one that can be written. -/
  succeeded : ∀ file threshold,
    ((book.after events).logging.configure (book.after events).disk file threshold).2.2 = none ↔
      (∃ severity, Severity.ofJson? threshold = some severity) ∧
        (file.isEmpty = true ∨ ∃ name, Logging.opening? book.disk.system file = some name)
  /-- A set-up that fails changes nothing before the threshold is set, and after it keeps the console only. -/
  failed : ∀ file threshold error,
    ((book.after events).logging.configure (book.after events).disk file threshold).2.2 = some error →
    (book.after events).next (.configure file threshold) =
      match Severity.ofJson? threshold with
      | none => book.after events
      | some severity =>
        ⟨⟨⟨severity, none⟩, true⟩, (book.after events).disk, (book.after events).console⟩

/-- However a logger that is in place is set up again, with files or without and successfully or not, every record that
passes the latest threshold is shown once and added once to the latest file, and to no other one. -/
theorem run_routes (ready : book.IsOpen)
    (apart : NoBackups (book.logging.logger.openings book.disk.system events)) :
    book.Routes events := by
  -- The logbook follows the events; the rest is read off it.
  have follows := follows_of_apart ready apart
  have chosen : (book.after events).logging.chosen = true := by rw [follows.logging]
  exact {
    follows with
    still_open := follows.isOpen
    handlers := fun process shows => shows.after ready.chosen events
    reading := fun time record _ => record.line_eq time
    contents := fun name => content_pagesAfter _ _
    succeeded := fun file threshold => by
      rw [configure_eq_none_iff, system_after]
    failed := fun file threshold error failed => next_of_failed chosen failed }

/-- Two files in turn, one of them in a folder, a file that cannot be written, and a threshold that is none. -/
theorem run_routes_turns :
    let first : Text := "a.log".toList
    let second : Text := "logs/b.log".toList
    let barred : Text := "secret.log".toList
    let denied : FileFault := { number := 13, reason := "Permission denied".toList }
    let place := fun name : Text => encodeUtf8 ("/work/".toList ++ name)
    let system : System := .ofTable ("/work".toList.map Char.toNat)
      [(place first, .file { slot := first }), (place second, .file { slot := second }),
        (place barred, .file { slot := barred, writing := some denied })]
    let say := fun severity text => LogEvent.message [] (.plain severity (String.toList text))
    let set := fun (name : Text) threshold =>
      LogEvent.configure (.string (.whole name)) (.string (.whole (String.toList threshold)))
    let book : Logbook :=
      ⟨⟨⟨.info, some first⟩, true⟩, ⟨system, [(first, .text "old".toList)]⟩, []⟩
    let events := [say .debug "0", say .info "1", set second "notset", say .info "2",
      say .warning "3", set first "BASIC_FORMAT", say .error "4",
      set barred "error", say .warning "5", say .error "6",
      set first "debug", say .debug "7"]
    let lines := book.logging.logger.linesTo system events
    book.IsOpen ∧ NoBackups (book.logging.logger.openings system events) ∧ book.Routes events ∧
      lines first = [" - DiceBot - INFO - 1\n".toList, " - DiceBot - DEBUG - 7\n".toList] ∧
      lines second =
        [" - DiceBot - WARNING - 3\n".toList, " - DiceBot - ERROR - 4\n".toList] := by
  intro first second barred denied place system say set book events lines
  -- The book starts with its first file open.
  have ready : book.IsOpen := by
    refine ⟨rfl, fun name file => ?_⟩
    rw [← Option.some.inj file]
    rfl
  -- No name is the backup of another one.
  have apart : NoBackups (book.logging.logger.openings system events) := by
    unfold NoBackups
    decide
  exact ⟨ready, apart, run_routes ready apart, by decide, by decide⟩

end Logbook

end DiceChat
