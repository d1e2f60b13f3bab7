import DiceChat.Proofs.Log.Events
import Mathlib

/-! The handlers behind a logger: one list that the whole program shares, taken down and built up again by every set-up. -/

namespace DiceChat

/-- What a record is handed to. -/
inductive Handler where
  /-- The console. -/
  | console
  /-- A log file. -/
  | file (name : Text)
deriving DecidableEq

/-- The disk and the console once a handler wrote a line. -/
def Handler.emit (line : Text) : Disk × Text → Handler → Disk × Text
  | (disk, shown), console => (disk, shown ++ line)
  | (disk, shown), file name => (disk.log name line, shown)

/-- What the whole program logs to: the least severity that passes, and the handlers in order. -/
structure Channel where
  /-- The least severity that is handed on. -/
  threshold : Severity
  /-- Who gets the records. -/
  handlers : List Handler
deriving DecidableEq

namespace Channel

/-- The channel with one more handler. -/
def add (channel : Channel) (handler : Handler) : Channel :=
  { channel with handlers := channel.handlers ++ [handler] }

/-- The channel without a handler. -/
def drop (channel : Channel) (handler : Handler) : Channel :=
  { channel with handlers := channel.handlers.erase handler }

/-- The channel without its handlers, each of them dropped. -/
def clear (channel : Channel) : Channel :=
  -- The walk is along the list as it was, not along the one that becomes shorter.
  channel.handlers.foldl drop channel

/-- Sets up the channel with a threshold, the console and perhaps a file. -/
def configure (channel : Channel) (disk : Disk) (file threshold : Json) :
    Channel × Disk × Option LoggingError :=
  match threshold with
  | .string name =>
    match Severity.ofJsonText name with
    | .error error => (channel, disk, some (.threshold error))
    | .ok severity =>
      -- When the file fails, everything before it has happened.
      let channel := (clear { channel with threshold := severity }).add .console
      if file.isEmpty then (channel, disk, none)
      else
        match Logging.openLogAt disk file with
        | .error error => (channel, disk, some error)
        | .ok (disk, name) => (channel.add (.file name), disk, none)
  | _ => (channel, disk, some .thresholdKind)

/-- Hands a record to every handler: the disk, and what came to the console. -/
def write (channel : Channel) (disk : Disk) (time : Text) (record : LogRecord) : Disk × Text :=
  if record.severity.passes channel.threshold then
    channel.handlers.foldl (Handler.emit (record.line time)) (disk, [])
  else (disk, [])

/-- Dropping every handler leaves none, however often one is there. -/
theorem clear_eq (channel : Channel) : channel.clear = ⟨channel.threshold, []⟩ := by
  rcases channel with ⟨threshold, handlers⟩
  rw [clear]
  -- The copy and the list lose their first handler together.
  induction handlers with
  | nil => rfl
  | cons handler rest ih =>
    have first : drop ⟨threshold, handler :: rest⟩ handler = ⟨threshold, rest⟩ := by
      rw [drop, List.erase_cons_head]
    rw [List.foldl_cons, first]
    exact ih

/-- The channel of a logger: its threshold, the console once, and its file if it has one. -/
def Serves (channel : Channel) (logger : Logger) : Prop :=
  channel.threshold = logger.threshold ∧
    ((logger.file = none ∧ channel.handlers = [.console]) ∨
      ∃ name, logger.file = some name ∧ channel.handlers = [.console, .file name])

variable {channel : Channel} {logging : Logging}

/-- The handlers write what the logger writes. -/
theorem Serves.write (serves : channel.Serves logging.logger) (chosen : logging.chosen = true)
    (disk : Disk) (time : Text) (record : LogRecord) :
    channel.write disk time record = (logging.write disk time record).2 := by
  have ready := Logging.ready_of_chosen chosen
  obtain ⟨threshold, handlers⟩ := serves
  rw [Channel.write, Logging.write, threshold]
  simp only [ready]
  -- A record that passes is handed to the console first and then to the file.
  split
  · rcases handlers with ⟨no_file, handlers⟩ | ⟨name, file, handlers⟩
    · simp [handlers, no_file, Handler.emit]
    · simp [handlers, file, Handler.emit]
  · rfl

/-- Whatever handlers were left, a set-up that gets past the threshold installs those of the logger that is set up. -/
theorem serves_configure (channel : Channel) (logging : Logging) (disk : Disk) (file : Json)
    {threshold : Json} {severity : Severity}
    (accepted : Severity.ofJson? threshold = some severity) :
    (channel.configure disk file threshold).1.Serves
        (logging.configure disk file threshold).1.logger ∧
      (channel.configure disk file threshold).2 = (logging.configure disk file threshold).2 := by
  cases threshold with
  | string name =>
    have read : Severity.ofJsonText name = .ok severity := Severity.ofJson?_string.mp accepted
    rw [configure, Logging.configure]
    -- The old handlers are gone before the console is added, so they do not matter.
    simp only [read, clear_eq, add, List.nil_append]
    split
    · exact ⟨⟨rfl, .inl ⟨rfl, rfl⟩⟩, rfl⟩
    · cases Logging.openLogAt disk file with
      | error error => exact ⟨⟨rfl, .inl ⟨rfl, rfl⟩⟩, rfl⟩
      | ok opened => exact ⟨⟨rfl, .inr ⟨_, rfl, rfl⟩⟩, rfl⟩
  | _ => cases accepted

/-- The handlers stay those of the logger, whether a set-up succeeds or fails early or late. -/
theorem Serves.configure (serves : channel.Serves logging.logger) (disk : Disk)
    (file threshold : Json) :
    (channel.configure disk file threshold).1.Serves
        (logging.configure disk file threshold).1.logger ∧
      (channel.configure disk file threshold).2 = (logging.configure disk file threshold).2 := by
  cases accepted : Severity.ofJson? threshold with
  | some severity => exact serves_configure channel logging disk file accepted
  | none =>
    -- A threshold that is refused is refused before any handler is dropped.
    cases threshold with
    | string name =>
      obtain ⟨error, read⟩ := Severity.ofJson?_string_eq_none.mp accepted
      rw [Channel.configure, Logging.configure, read]
      exact ⟨serves, rfl⟩
    | _ => exact ⟨serves, rfl⟩

end Channel

/-- A log at some moment, with the handlers that the records are handed to. -/
structure Process where
  /-- The threshold and the handlers. -/
  channel : Channel
  /-- The disk. -/
  disk : Disk
  /-- What was shown. -/
  console : Text

namespace Process

/-- The log after an event. -/
def next (process : Process) : LogEvent → Process
  | .configure file threshold =>
    let (channel, disk, _) := process.channel.configure process.disk file threshold
    ⟨channel, disk, process.console⟩
  | .message time record =>
    let (disk, line) := process.channel.write process.disk time record
    ⟨process.channel, disk, process.console ++ line⟩

/-- The log after several events. -/
def after (process : Process) (events : List LogEvent) : Process :=
  events.foldl next process

/-- The handlers are those of the logger: the console once, and at most one file, which is the one in force. -/
structure Shows (process : Process) (book : Logbook) : Prop where
  /-- The channel is that of the logger. -/
  serves : process.channel.Serves book.logging.logger
  /-- The files are the same. -/
  disk : process.disk = book.disk
  /-- The console is the same. -/
  console : process.console = book.console

variable {process : Process} {book : Logbook}

/-- An event leaves the handlers of the logger. -/
theorem Shows.next (shows : process.Shows book) (chosen : book.logging.chosen = true)
    (event : LogEvent) : (process.next event).Shows (book.next event) := by
  obtain ⟨channel, disk, console⟩ := process
  obtain ⟨serves, rfl, rfl⟩ := shows
  cases event with
  | configure file threshold =>
    -- The handlers are made anew, and they serve the new logger.
    obtain ⟨still, rest⟩ := serves.configure book.disk file threshold
    exact ⟨still, congrArg Prod.fst rest, rfl⟩
  | message time record =>
    -- A record changes neither the handlers nor the logger.
    have written := serves.write chosen book.disk time record
    refine ⟨?_, congrArg Prod.fst written, congrArg (fun result : Disk × Text => book.console ++ result.2) written⟩
    have logging : (book.next (.message time record)).logging = book.logging :=
      (book.logging.write_fst book.disk time record).trans (Logging.ready_of_chosen chosen)
    rw [logging]
    exact serves

/-- A run of events leaves the handlers of the logger. -/
theorem Shows.after (shows : process.Shows book) (chosen : book.logging.chosen = true)
    (events : List LogEvent) : (process.after events).Shows (book.after events) := by
  -- The events are taken from the front, so both logs vary.
  induction events generalizing process book with
  | nil => exact shows
  | cons event rest ih => exact ih (shows.next chosen event) (Logbook.chosen_next chosen event)

end Process

end DiceChat
