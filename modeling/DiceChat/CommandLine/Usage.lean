import DiceChat.CommandLine.Flag

/-! What the program says about its own use: a line for its shape, and a line for each flag. -/

namespace DiceChat

/-- The name of the program. -/
def programName : Text := "dice-roller-bot".toList

/-- What a flag is for. -/
def Flag.purpose : Flag → Text
  | help => "Tell how the program is used.".toList
  | botToken => "Bot token (env DISCORD_TOKEN). Prefer a token file.".toList
  | botTokenFile => "Path to a file containing the bot token (env DISCORD_TOKEN_FILE).".toList
  | setMyCommands => "Sync slash commands on startup.".toList
  | config => "Path to config.json (created with defaults if missing).".toList
  | advantage => "Roll twice, keep the higher total.".toList
  | disadvantage => "Roll twice, keep the lower total.".toList
  | json => "Also print the JSON record.".toList

/-- The line about a flag. -/
def Flag.usageLine (flag : Flag) : Text :=
  "  ".toList ++ flag.label ++ (if flag.takesValue then " VALUE".toList else []) ++
    "  ".toList ++ flag.purpose ++ ['\n']

/-- The flags of a command under its name. -/
def usageOf (name : Text) (flags : List Flag) : Text :=
  name ++ ":\n".toList ++ flags.flatMap Flag.usageLine

/-- How the program is used. -/
def usageText : Text :=
  "usage: ".toList ++ programName ++ " [flags] [run [flags] | roll [flags] expression ...]\n".toList ++
    usageOf "run".toList Flag.ofBot ++ usageOf "roll".toList Flag.ofRoll

/-- The line about a command line that is refused. -/
def refusalLine (error : UsageError) : Text :=
  programName ++ ": error: ".toList ++ error.message ++ ['\n']

end DiceChat
