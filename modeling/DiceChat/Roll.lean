import DiceChat.Die
import DiceChat.Settings

/-! A roll: the faces that came up, their total with the modifier, and the settings behind them. -/

namespace DiceChat

/-- The outcome of throwing all dice once. -/
structure Roll where
  /-- The faces in the order they came up. -/
  values : List Int
  /-- The sum of the faces and the modifier. -/
  total : Int
  /-- What was thrown. -/
  settings : Settings
deriving DecidableEq

/-- The roll that so many faces make. -/
def Settings.rollOf (settings : Settings) (values : List Int) : Roll :=
  ⟨values, values.foldr (· + ·) 0 + settings.modifier.getD 0, settings⟩

/-- How many dice are thrown: none for a number that is not positive. -/
def Settings.diceCount (settings : Settings) : Nat :=
  settings.number.toNat

/-- Throws all dice once. -/
def Settings.throw (settings : Settings) (die : Die) : Roll × Die :=
  -- The faces stand in the order of the draws.
  let (values, die) := die.draw settings.sides settings.diceCount
  (settings.rollOf values, die)

namespace Roll

/-- The faces as a sum. -/
def sumText (roll : Roll) : Text :=
  joinWith " + ".toList (roll.values.map writeInt)

/-- Rolls are compared by their totals. -/
instance : LT Roll := ⟨fun roll other => roll.total < other.total⟩

/-- Rolls are compared by their totals. -/
instance : LE Roll := ⟨fun roll other => roll.total ≤ other.total⟩

/-- One roll is less than another one if its total is. -/
@[simp] theorem lt_iff {roll other : Roll} : roll < other ↔ roll.total < other.total :=
  Iff.rfl

/-- One roll is at most another one if its total is. -/
@[simp] theorem le_iff {roll other : Roll} : roll ≤ other ↔ roll.total ≤ other.total :=
  Iff.rfl

/-- Totals can be compared. -/
instance (roll other : Roll) : Decidable (roll < other) :=
  inferInstanceAs (Decidable (roll.total < other.total))

/-- Totals can be compared. -/
instance (roll other : Roll) : Decidable (roll ≤ other) :=
  inferInstanceAs (Decidable (roll.total ≤ other.total))

/-- The first of two rolls unless the second is greater. -/
def higher (first second : Roll) : Roll :=
  if second > first then second else first

/-- The first of two rolls unless the second is less. -/
def lower (first second : Roll) : Roll :=
  if second < first then second else first

end Roll

end DiceChat
