import DiceChat.Session

/-! The commands of the chat: eight that roll dice, one that helps, and one that sets the budget of a guild. -/

namespace DiceChat

/-- The commands that roll dice. -/
inductive DiceCommand where
  /-- One attempt. -/
  | roll
  /-- One attempt, with its record. -/
  | data
  /-- The higher of two attempts, by its short name. -/
  | adv
  /-- The higher of two attempts. -/
  | advantage
  /-- The higher of two attempts, with the record. -/
  | advantageData
  /-- The lower of two attempts, by its short name. -/
  | dis
  /-- The lower of two attempts. -/
  | disadvantage
  /-- The lower of two attempts, with the record. -/
  | disadvantageData
deriving DecidableEq

namespace DiceCommand

/-- How a command rolls. -/
def mode : DiceCommand → Mode
  | roll | data => .straight
  | adv | advantage | advantageData => .advantage
  | dis | disadvantage | disadvantageData => .disadvantage

/-- Whether a command sends the record of the session. -/
def withRecord : DiceCommand → Bool
  | data | advantageData | disadvantageData => true
  | _ => false

/-- The name of a command. -/
def name : DiceCommand → Text
  | roll => "roll".toList
  | data => "data".toList
  | adv => "adv".toList
  | advantage => "advantage".toList
  | advantageData => "advantage_data".toList
  | dis => "dis".toList
  | disadvantage => "disadvantage".toList
  | disadvantageData => "disadvantage_data".toList

/-- What the help says of a command. -/
def description : DiceCommand → Text
  | roll => "Roll die".toList
  | data => "Roll die, and send data output".toList
  | adv | advantage => "Roll with advantage".toList
  | advantageData => "Roll with advantage, and send data output".toList
  | dis | disadvantage => "Roll with disadvantage".toList
  | disadvantageData => "Roll with disadvantage, and send data output".toList

/-- All commands that roll dice. -/
def all : List DiceCommand :=
  [roll, data, adv, advantage, advantageData, dis, disadvantage, disadvantageData]

/-- The command of the given name. -/
def ofName? (name : Text) : Option DiceCommand :=
  all.find? fun command => command.name = name

end DiceCommand

/-- What is listed about a command. -/
structure CommandInfo where
  /-- The name that calls it. -/
  name : Text
  /-- What it does. -/
  description : Text
  /-- The group it belongs to. -/
  group : Text
deriving DecidableEq

/-- All commands. -/
def commandInfos : List CommandInfo :=
  DiceCommand.all.map (fun command => ⟨command.name, command.description, "Dice".toList⟩) ++
    [⟨"roll_budget".toList, "Set how many characters of dice results are shown".toList,
        "Settings".toList⟩,
      ⟨"help".toList, "Display help text".toList, "Help".toList⟩]

/-- Commands in the order of their names. -/
def sortCommands (commands : List CommandInfo) : List CommandInfo :=
  commands.mergeSort fun a b => a.name.precedes b.name

/-- The line of the help about a command. -/
def helpLine (commandPrefix : Text) (command : CommandInfo) : Text :=
  "`".toList ++ commandPrefix ++ command.name ++ "` - ".toList ++ command.description

/-- The help: a line for each command. -/
def helpText (commandPrefix : Text) (commands : List CommandInfo) : Text :=
  joinWith ['\n'] ((sortCommands commands).map (helpLine commandPrefix))

end DiceChat
