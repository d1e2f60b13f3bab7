import DiceChat.Log.Logger
import DiceChat.Notation.Journal
import Mathlib

/-! The console shows the lines of the records that pass the threshold, in the order in which they were logged. -/

namespace DiceChat

/-- A record tells of an error. -/
def LogRecord.isError (record : LogRecord) : Bool :=
  record.severity = .error

/-- What stands behind the message of a record: the failure in full, on lines of its own, if the record tells of one. -/
def LogRecord.behind (record : LogRecord) : Text :=
  match record.cause with
  | none => []
  | some failure =>
    -- A message that ends its line itself is not given a second end.
    (if record.message.getLast? = some '\n' then [] else ['\n']) ++ failure.text

/-- A record is written as the time, the name of the log, the severity, the message, and the failure if there is one. -/
theorem LogRecord.line_eq (record : LogRecord) (time : Text) :
    record.line time = time ++ " - DiceBot - ".toList ++ record.severity.name ++ " - ".toList ++
      record.message ++ record.behind ++ "\n".toList := by
  rcases record with ⟨severity, message, _ | failure⟩
  · simp [line, text, behind]
  · -- What stands before the message does not end a line, so only the message can.
    have last : ("DiceBot - ".toList ++ severity.name ++ " - ".toList ++ message).getLast? = some '\n' ↔
        message.getLast? = some '\n' := by
      have opening : ("DiceBot - ".toList ++ severity.name ++ " - ".toList).getLast? = some ' ' := by
        rw [List.getLast?_append]
        rfl
      rw [List.getLast?_append, opening]
      cases message.getLast? <;> simp
    simp only [line, text, withCause, behind, last]
    split <;> simp

namespace Logging

/-- The records that pass the threshold. -/
def shown (logging : Logging) (records : List LogRecord) : List LogRecord :=
  records.filter fun record => record.severity.passes logging.ready.logger.threshold

/-- A logger that was chosen is ready. -/
theorem ready_of_chosen {logging : Logging} (chosen : logging.chosen = true) :
    logging.ready = logging :=
  if_pos chosen

/-- A logger that was chosen stays the chosen one. -/
@[simp] theorem ready_ready (logging : Logging) : logging.ready.ready = logging.ready := by
  rw [ready, ready]
  split <;> simp_all

/-- Writing a record needs a logger and changes nothing else about the logging. -/
theorem write_fst (logging : Logging) (disk : Disk) (time : Text) (record : LogRecord) :
    (logging.write disk time record).1 = logging.ready := by
  -- The logger is the same whether the record passes or not, and with a file or without one.
  rw [write]
  split
  · dsimp only
    split <;> rfl
  · rfl

/-- A record is a line of the console exactly if it passes. -/
theorem console_write (logging : Logging) (disk : Disk) (time : Text) (record : LogRecord) :
    (logging.write disk time record).2.2 =
      if record.severity.passes logging.ready.logger.threshold then record.line time else [] := by
  -- Whether there is a file makes no difference to the console.
  rw [write]
  split
  · dsimp only
    split <;> rfl
  · rfl

/-- The console shows the records that pass, line by line. -/
theorem console_writeAll (logging : Logging) (disk : Disk) (time : Text)
    (records : List LogRecord) :
    (logging.writeAll disk time records).2.2 =
      (logging.shown records).flatMap fun record => record.line time := by
  -- Each record is written by the logger that the one before it left, which is the same one.
  induction records generalizing logging disk with
  | nil => rfl
  | cons record rest ih =>
    have later : logging.ready.shown rest = logging.shown rest := by
      rw [shown, shown, ready_ready]
    simp only [writeAll]
    rw [ih, write_fst, later, console_write, shown, shown, List.filter_cons]
    split <;> rfl

/-- Where errors pass, all errors are shown. -/
theorem filter_isError_shown {logging : Logging}
    (passing : Severity.error.passes logging.ready.logger.threshold = true)
    (records : List LogRecord) :
    (logging.shown records).filter LogRecord.isError = records.filter LogRecord.isError := by
  rw [shown, List.filter_filter]
  refine List.filter_congr fun record _ => ?_
  -- A record that tells of an error has the severity that passes.
  cases error : record.isError with
  | false => rfl
  | true =>
    rw [LogRecord.isError, decide_eq_true_eq] at error
    rw [error, passing]
    rfl

end Logging

/-- Reading notation is never logged as an error. -/
theorem Notation.isError_of_mem_journal {text : Text} {record : LogRecord}
    (logged : record ∈ journal text) : record.isError = false := by
  -- There is one detail before, and behind it another one or a warning.
  rw [journal, List.mem_cons, List.mem_singleton] at logged
  rcases logged with rfl | rfl
  · rfl
  · cases parse text <;> rfl

end DiceChat
