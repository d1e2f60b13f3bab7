import DiceChat.Chat.Command
import DiceChat.Config.Store
import DiceChat.Log.Record

/-! The bot on the platform: it comes online, joins guilds, announces its commands, and closes. -/

namespace DiceChat

/-- What the bot says of itself. -/
def botDescription : Text := "Bot to roll die!".toList

/-- A bot that is set up. -/
structure Bot where
  /-- Whether commands are announced when it comes online; an empty value means no. -/
  syncCommands : Json
  /-- What commands start with. -/
  commandPrefix : Json
  /-- What it says of itself. -/
  description : Text
  /-- Whether it was closed. -/
  closed : Bool

/-- What the platform tells the bot, or the bot is told to do. -/
inductive BotEvent where
  /-- It is online, and its commands were announced under these names, or why they were not. -/
  | ready (user : Text) (id : Int) (guilds : Int) (synced : Except Failure (List Text))
  /-- It was taken into a guild. -/
  | joined (name : Text) (id : Int)
  /-- It is to close. -/
  | close

namespace Bot

/-- The bot that a configuration describes; a choice made elsewhere comes before the configuration. -/
def ofStore (store : Store) (sync : Option Json) : Bot :=
  ⟨sync.getD store.globals.syncCommands, store.globals.commandPrefix, botDescription, false⟩

/-- What is logged about announcing the commands. -/
def syncRecords (bot : Bot) (synced : Except Failure (List Text)) :
    List LogRecord :=
  -- Nothing is announced, and nothing logged, unless the bot is set up so.
  if bot.syncCommands.isEmpty then []
  else
    match synced with
    | .ok names =>
      [.plain .info ("應用命令已同步: ".toList ++ (Json.array (names.map fun (name : Text) => .string name)).inline)]
    | .error failure => [.plain .error ("同步應用命令時出錯: ".toList ++ failure.message)]

/-- What the bot does about an event: how it is afterwards, and what is logged. -/
def handle (bot : Bot) : BotEvent → Bot × List LogRecord
  -- Closing twice is closing once.
  | .ready user id guilds synced =>
    (bot,
      [.plain .info (user ++ " 已經上線! (ID: ".toList ++ writeInt id ++ ")".toList),
        .plain .info ("已連接到 ".toList ++ writeInt guilds ++ " 個服務器".toList)]
        ++ bot.syncRecords synced)
  | .joined name id =>
    (bot,
      [.plain .info ("加入了服務器: ".toList ++ name ++ " (ID: ".toList ++ writeInt id ++ ")".toList)])
  | .close => ({ bot with closed := true }, [])

end Bot

end DiceChat
