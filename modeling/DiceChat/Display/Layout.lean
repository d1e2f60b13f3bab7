import DiceChat.Display.Limit
import DiceChat.Display.Markup
import DiceChat.Session

/-! The display of a session: a line of parameters, a line for each attempt, and a line with the total. -/

namespace DiceChat

/-- Why a session cannot be displayed. -/
inductive DisplayError where
  /-- A value cannot be put into a text, or a template of the markup is faulty. -/
  | template (error : TemplateError)
  /-- A text is longer than a limit at which it cannot be cut. -/
  | uncuttable
deriving DecidableEq

/-- How many characters of dice are shown. -/
structure Display where
  /-- The limit for a single attempt. -/
  single : Limit
  /-- The limit for each of two attempts. -/
  double : Limit
deriving DecidableEq

namespace Display

/-- A display with whole limits. -/
def ofWhole (single double : Int) : Display :=
  ⟨.whole single, .whole double⟩

/-- The display used where none is given. -/
def standard : Display := ofWhole 4000 2000

/-- The display that shows no dice at all. -/
def bare : Display := ofWhole 0 0

end Display

/-- A subject put into a template of the markup. -/
def emphasise (template : Template) (subject : Subject) : Except DisplayError Text :=
  (template.fill subject).mapError .template

/-- What is told with numbers, unless one of them has more digits than a numeral may have. -/
def spelled {α : Type} (numbers : List Int) (told : α) : Except DisplayError α :=
  if numbers.all fun number => (numeral? number).isSome then .ok told
  else .error (.template (.format .tooLong))

/-- An attempt: its dice in parentheses, within the limit, and the modifier. -/
def Roll.display (roll : Roll) (limit : Limit) : Except DisplayError Text := do
  -- Only the dice are cut, never the parentheses or the modifier.
  let sum ← spelled roll.values roll.sumText
  match limit.cut? sum with
  | some dice =>
    let modifier ← spelled roll.settings.modifier.toList roll.settings.modifierText
    pure ("(".toList ++ dice ++ ")".toList ++ modifier)
  | none => .error .uncuttable

/-- The line that announces a total. -/
def finalLine (total : Int) (markup : Markup) : Except DisplayError Text := do
  let shown ← emphasise markup.bold (.whole total)
  pure ("Your final roll is: 🎲 ".toList ++ shown ++ " 🎲".toList)

/-- The line of one of two attempts, struck out unless it counts. -/
def attemptLine (name : Text) (roll : Roll) (counts : Bool) (limit : Limit) (markup : Markup) :
    Except DisplayError Text := do
  let dice ← roll.display limit
  let line := "Attempt ".toList ++ name ++ ": ".toList ++ dice
  if counts then pure line else emphasise markup.strike (.text line)

namespace Session

/-- The lines of a display, in order. -/
def lines (session : Session) (display : Display) (markup : Markup) :
    Except DisplayError (List Text) := do
  -- What is met first from the top decides which fault is reported.
  let settings ← spelled session.settings.integers session.settings.parameters
  let parameters := "Parameters: ".toList ++ settings
  match session.attempts with
  | .one only => do
    let dice ← only.display display.single
    let final ← finalLine session.adopted.total markup
    pure [parameters, "Roll: ".toList ++ dice, final]
  | .two _ first second => do
    let mode ← emphasise markup.underline (.member Mode.family session.mode.member)
    let one ← attemptLine "one".toList first (session.winner = 1) display.double markup
    let two ← attemptLine "two".toList second (session.winner = 2) display.double markup
    let final ← finalLine session.adopted.total markup
    pure [parameters ++ " with ".toList ++ mode, one, two, final]

/-- The display of a session. -/
def display (session : Session) (display : Display) (markup : Markup) : Except DisplayError Text :=
  (session.lines display markup).map (joinWith "\n".toList)

/-- The display whose text has at most so many characters, or shows no dice. -/
def fit (session : Session) (limit : Int) (display : Display) (markup : Markup) :
    Except DisplayError Display := do
  -- What is not dice has a fixed length, so the rest is room for dice; two attempts share it.
  let bare ← session.display .bare markup
  let room := (limit - bare.length).toNat
  pure ⟨display.single.atMost room, display.double.atMost (room / 2 : Nat)⟩

end Session

end DiceChat
