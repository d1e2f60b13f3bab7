import DiceChat.Json.Basic
import DiceChat.Ordered

/-! Configuration of the program and of each guild; values are kept as they were given. -/

namespace DiceChat

/-- Where the named values of a configuration are listed. -/
inductive Listing where
  /-- The list is that of all configurations of its sort. -/
  | usual
  /-- An empty list was put in its place. -/
  | empty
  /-- Something that lists no values was put in its place. -/
  | broken
deriving DecidableEq

/-- What a value lists that is put in place of a list of named values. -/
def Listing.ofJson : Json → Listing
  | .object [] => empty
  | _ => broken

/-- The named values that are listed, out of all. -/
def Listing.select : Listing → List (JsonText × Json) → List (JsonText × Json)
  | usual, fields => fields
  | empty, _ | broken, _ => []

/-- The configuration of the whole program. -/
structure GlobalConfig where
  /-- What commands start with. -/
  commandPrefix : Json
  /-- Whether commands are announced at the start. -/
  syncCommands : Json
  /-- The file the log goes to; an empty value means none. -/
  logFile : Json
  /-- The name of the least severity that is logged. -/
  logLevel : Json
  /-- Where its values are listed. -/
  listing : Listing := .usual

/-- The configuration of a guild. -/
structure GuildConfig where
  /-- How many characters of dice a single attempt may show. -/
  single : Json
  /-- How many characters of dice each of two attempts may show. -/
  double : Json
  /-- Where its values are listed. -/
  listing : Listing := .usual
  /-- Whether a display can be made from it. -/
  hasDisplay : Bool := true

namespace GlobalConfig

/-- The configuration used where nothing is configured. -/
def standard : GlobalConfig :=
  { commandPrefix := .string "!".toList
    syncCommands := .bool false
    logFile := .string "bot.log".toList
    logLevel := .string "INFO".toList }

/-- The configuration with one named value changed; an unknown name changes nothing. -/
def set (config : GlobalConfig) (name : JsonText) (value : Json) : GlobalConfig :=
  if name = "command_prefix".toList then { config with commandPrefix := value }
  else if name = "sync_commands".toList then { config with syncCommands := value }
  else if name = "log_file".toList then { config with logFile := value }
  else if name = "log_level".toList then { config with logLevel := value }
  else config

/-- The configuration with the named values changed, one after the other. -/
def setAll (config : GlobalConfig) (fields : List (JsonText × Json)) : GlobalConfig :=
  fields.foldl (fun config field => config.set field.1 field.2) config

/-- The named values in a fixed order. -/
def fields (config : GlobalConfig) : List (JsonText × Json) :=
  config.listing.select
    [("command_prefix".toList, config.commandPrefix),
      ("sync_commands".toList, config.syncCommands),
      ("log_file".toList, config.logFile),
      ("log_level".toList, config.logLevel)]

end GlobalConfig

namespace GuildConfig

/-- The configuration used where nothing is configured. -/
def standard : GuildConfig := { single := .whole 4000, double := .whole 2000 }

/-- The configuration with one named value changed; an unknown name changes nothing. -/
def set (config : GuildConfig) (name : JsonText) (value : Json) : GuildConfig :=
  if name = "single_truncate".toList then { config with single := value }
  else if name = "double_truncate".toList then { config with double := value }
  else config

/-- The configuration with the named values changed, one after the other. -/
def setAll (config : GuildConfig) (fields : List (JsonText × Json)) : GuildConfig :=
  fields.foldl (fun config field => config.set field.1 field.2) config

/-- The named values in a fixed order. -/
def fields (config : GuildConfig) : List (JsonText × Json) :=
  config.listing.select
    [("single_truncate".toList, config.single), ("double_truncate".toList, config.double)]

end GuildConfig

end DiceChat
