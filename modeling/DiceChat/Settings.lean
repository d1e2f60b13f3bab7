import DiceChat.Numeral

/-! Settings of a roll: how many dice of how many sides, what is added to their sum, and what it is for. -/

namespace DiceChat

/-- What a roll throws and what it is called. -/
structure Settings where
  /-- The number of dice. -/
  number : Int
  /-- The number of sides of each die. -/
  sides : Int
  /-- What is added to the sum of the dice. -/
  modifier : Option Int
  /-- What the roll is for. -/
  label : Option Text
deriving DecidableEq

namespace Settings

/-- The modifier behind the dice: its sign between spaces and its magnitude. -/
def modifierText (settings : Settings) : Text :=
  -- Zero is shown with a minus sign, and a missing modifier is not shown.
  match settings.modifier with
  | none => []
  | some value =>
    if 0 < value then " + ".toList ++ writeInt value else " - ".toList ++ writeInt (-value)

/-- The settings in dice notation, without the label. -/
def parameters (settings : Settings) : Text :=
  writeInt settings.number ++ ['d'] ++ writeInt settings.sides ++ settings.modifierText

/-- The numbers of settings. -/
def integers (settings : Settings) : List Int :=
  settings.number :: settings.sides :: settings.modifier.toList

end Settings

end DiceChat
