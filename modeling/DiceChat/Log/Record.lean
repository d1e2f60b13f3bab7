import DiceChat.Failure

/-! Log records: a severity, a message, and the failure behind it if there was one. -/

namespace DiceChat

/-- How severe a record is, and from which severity on records are written. -/
inductive Severity where
  /-- Details. -/
  | debug
  /-- What happens. -/
  | info
  /-- What may be wrong. -/
  | warning
  /-- What went wrong. -/
  | error
  /-- What stops everything. -/
  | critical
deriving DecidableEq

namespace Severity

/-- The place of a severity among all, the least severe first. -/
def rank : Severity → Nat
  | debug => 0
  | info => 1
  | warning => 2
  | error => 3
  | critical => 4

/-- The name of a severity in the log. -/
def name : Severity → Text
  | debug => "DEBUG".toList
  | info => "INFO".toList
  | warning => "WARNING".toList
  | error => "ERROR".toList
  | critical => "CRITICAL".toList

/-- Whether records of a severity are written from a threshold on. -/
def passes (severity threshold : Severity) : Bool :=
  threshold.rank ≤ severity.rank

end Severity

/-- An entry of the log. -/
structure LogRecord where
  /-- How severe it is. -/
  severity : Severity
  /-- What is told. -/
  message : Text
  /-- The failure it tells of, if it tells of one. -/
  cause : Option Failure
deriving DecidableEq

namespace LogRecord

/-- A record without a failure. -/
def plain (severity : Severity) (message : Text) : LogRecord :=
  ⟨severity, message, none⟩

/-- A line followed by a failure on lines of its own. -/
def withCause (line : Text) (cause : Failure) : Text :=
  -- A line that has its end is not given a second one.
  if line.getLast? = some '\n' then line ++ cause.text else line ++ '\n' :: cause.text

/-- A record as it is written behind the time. -/
def text (record : LogRecord) : Text :=
  -- The name of the log and the severity stand before the message.
  let line := "DiceBot - ".toList ++ record.severity.name ++ " - ".toList ++ record.message
  match record.cause with
  | none => line
  | some cause => withCause line cause

/-- A record as it is written in full: the time, the record, and the end of the line. -/
def line (record : LogRecord) (time : Text) : Text :=
  time ++ " - ".toList ++ record.text ++ ['\n']

end LogRecord

end DiceChat
