import DiceChat.Mode
import DiceChat.Roll

/-! A session answers one request to roll: one attempt, or two of which the higher or the lower counts. -/

namespace DiceChat

/-- Which of two attempts counts. -/
inductive Keep where
  /-- The one with the higher total. -/
  | higher
  /-- The one with the lower total. -/
  | lower
deriving DecidableEq

/-- The mode that keeps so. -/
def Keep.mode : Keep → Mode
  | higher => .advantage
  | lower => .disadvantage

/-- The attempts of a session. -/
inductive Attempts where
  /-- One attempt, which counts. -/
  | one (only : Roll)
  /-- Two attempts, of which one counts. -/
  | two (keep : Keep) (first second : Roll)
deriving DecidableEq

/-- An answered request: its attempts and the settings that were asked for. -/
structure Session where
  /-- The attempts. -/
  attempts : Attempts
  /-- What was asked for. -/
  settings : Settings
deriving DecidableEq

namespace Session

/-- How the session was rolled. -/
def mode (session : Session) : Mode :=
  match session.attempts with
  | .one _ => .straight
  | .two keep _ _ => keep.mode

/-- The attempts in order. -/
def rolls (session : Session) : List Roll :=
  match session.attempts with
  | .one only => [only]
  | .two _ first second => [first, second]

/-- The number of the attempt that counts, one or two; the first counts on a tie. -/
def winner (session : Session) : Nat :=
  -- The second attempt has to be strictly better.
  match session.attempts with
  | .one _ => 1
  | .two .higher first second => if second > first then 2 else 1
  | .two .lower first second => if second < first then 2 else 1

/-- The attempt that counts. -/
def adopted (session : Session) : Roll :=
  match session.attempts with
  | .one only => only
  | .two .higher first second => first.higher second
  | .two .lower first second => first.lower second

end Session

/-- Rolls settings in a mode: the first attempt is thrown before the second. -/
def Settings.roll (settings : Settings) (mode : Mode) (die : Die) : Session × Die :=
  -- Every attempt throws its own dice.
  let (first, die) := settings.throw die
  match mode with
  | .straight => (⟨.one first, settings⟩, die)
  | .advantage =>
    let (second, die) := settings.throw die
    (⟨.two .higher first second, settings⟩, die)
  | .disadvantage =>
    let (second, die) := settings.throw die
    (⟨.two .lower first second, settings⟩, die)

end DiceChat
