import DiceChat.Text.Member

/-! Modes of a roll: one attempt, or two of which the higher or the lower counts. -/

namespace DiceChat

/-- How a request is rolled. -/
inductive Mode where
  /-- One attempt. -/
  | straight
  /-- Two attempts, the higher counts. -/
  | advantage
  /-- Two attempts, the lower counts. -/
  | disadvantage
deriving DecidableEq

namespace Mode

/-- The name of a mode in records. -/
def name : Mode → Text
  | straight => "straight".toList
  | advantage => "advantage".toList
  | disadvantage => "disadvantage".toList

/-- The name of a mode in running text. -/
def title : Mode → Text
  | straight => "Straight".toList
  | advantage => "Advantage".toList
  | disadvantage => "Disadvantage".toList

/-- The name of a mode in capitals. -/
def capitals : Mode → Text
  | straight => "STRAIGHT".toList
  | advantage => "ADVANTAGE".toList
  | disadvantage => "DISADVANTAGE".toList

/-- A mode as a member of the list of modes. -/
def member (mode : Mode) : Member :=
  ⟨mode.capitals, mode.name, mode.title⟩

/-- The list of modes. -/
def family : Family :=
  { name := "RollType".toList
    home := "models.types".toList
    about := "擲骰模式".toList
    members := [straight, advantage, disadvantage].map member }

/-- The mode with the given name. -/
def ofName? (name : Text) : Option Mode :=
  [straight, advantage, disadvantage].find? fun mode => mode.name = name

end Mode

end DiceChat
