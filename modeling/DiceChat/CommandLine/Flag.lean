import DiceChat.Text.Quoted

/-! The flags of the command line, how each is spelled, and what is wrong with a command line. -/

namespace DiceChat

/-- A flag of the command line. -/
inductive Flag where
  /-- To be told how the program is used. -/
  | help
  /-- The token of the bot. -/
  | botToken
  /-- The file with the token of the bot. -/
  | botTokenFile
  /-- To announce the commands at the start. -/
  | setMyCommands
  /-- The file with the configuration. -/
  | config
  /-- To keep the higher of two attempts. -/
  | advantage
  /-- To keep the lower of two attempts. -/
  | disadvantage
  /-- To print the record as well. -/
  | json
deriving DecidableEq

namespace Flag

/-- The long spelling of a flag. -/
def spelling : Flag → Text
  | help => "--help".toList
  | botToken => "--bot-token".toList
  | botTokenFile => "--bot-token-file".toList
  | setMyCommands => "--set-my-commands".toList
  | config => "--config".toList
  | advantage => "--advantage".toList
  | disadvantage => "--disadvantage".toList
  | json => "--json".toList

/-- The short spelling of the flag for help, the only one that has any. -/
def shortHelp : Text := "-h".toList

/-- How a flag is named in reports: by all its spellings. -/
def label : Flag → Text
  | help => shortHelp ++ '/' :: help.spelling
  | flag => flag.spelling

/-- Whether a flag comes with a value. -/
def takesValue : Flag → Bool
  | botToken | botTokenFile | config => true
  | _ => false

/-- The flag that must not be given beside a flag. -/
def rival? : Flag → Option Flag
  | botToken => some botTokenFile
  | botTokenFile => some botToken
  | advantage => some disadvantage
  | disadvantage => some advantage
  | _ => none

/-- The flags about the bot, in the order in which they are listed. -/
def ofBot : List Flag := [help, botToken, botTokenFile, setMyCommands, config]

/-- The flags about a roll, in the order in which they are listed. -/
def ofRoll : List Flag := [help, advantage, disadvantage, json]

/-- The spellings of flags in the order in which the flags are listed. -/
def spellings (flags : List Flag) : List (Text × Flag) :=
  -- The short spelling comes first.
  (shortHelp, help) :: flags.map fun flag => (flag.spelling, flag)

end Flag

/-- The names of the commands of the program. -/
def commandNames : List Text := ["run".toList, "roll".toList]

/-- What is wrong with a command line. -/
inductive UsageError where
  /-- An abbreviation fits several spellings. -/
  | ambiguous (argument : Text) (spellings : List Text)
  /-- A flag lacks its value. -/
  | missingValue (flag : Flag)
  /-- A flag without a value was given one. -/
  | needlessValue (flag : Flag) (value : Text)
  /-- Two flags exclude each other. -/
  | rivals (flag earlier : Flag)
  /-- There is no such command. -/
  | unknownCommand (name : Text)
  /-- There is nothing to roll. -/
  | missingExpression
  /-- There are arguments that mean nothing. -/
  | unrecognized (arguments : List Text)
deriving DecidableEq

/-- What an error is reported as. -/
def UsageError.message : UsageError → Text
  -- Most reports name the flag they are about.
  | ambiguous argument spellings =>
    "ambiguous option: ".toList ++ argument ++ " could match ".toList ++
      joinWith ", ".toList spellings
  | missingValue flag =>
    "argument ".toList ++ flag.label ++ ": expected one argument".toList
  | needlessValue flag value =>
    "argument ".toList ++ flag.label ++ ": ignored explicit argument ".toList ++ quote value
  | rivals flag earlier =>
    "argument ".toList ++ flag.label ++ ": not allowed with argument ".toList ++ earlier.label
  | unknownCommand name =>
    "argument command: invalid choice: ".toList ++ quote name ++ " (choose from ".toList ++
      joinWith ", ".toList (commandNames.map quote) ++ ")".toList
  | missingExpression => "the following arguments are required: expression".toList
  | unrecognized arguments =>
    "unrecognized arguments: ".toList ++ joinWith [' '] arguments

end DiceChat
