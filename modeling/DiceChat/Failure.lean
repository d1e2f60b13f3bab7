import DiceChat.Text.Basic

/-! Failures that reach the program from outside, as they are told in the log. -/

namespace DiceChat

/-- A failure that reaches the program from outside. -/
structure Failure where
  /-- The lines that tell how it was reached. -/
  trace : List Text
  /-- What kind of failure it is. -/
  kind : Text
  /-- What it says, if it says anything. -/
  message : Text
deriving DecidableEq

namespace Failure

/-- What a failure is reported as. -/
def report (failure : Failure) : Text :=
  if failure.message.isEmpty then failure.kind
  else failure.kind ++ ": ".toList ++ failure.message

/-- A failure in full: how it was reached, line by line, and its report. -/
def text (failure : Failure) : Text :=
  joinWith ['\n'] (failure.trace ++ [failure.report])

end Failure

end DiceChat
