import DiceChat.Chat.Bot
import DiceChat.CommandLine.Invocation
import DiceChat.Display.Rendered
import DiceChat.Json.Draft
import DiceChat.Log.Logger
import DiceChat.Notation.Journal
import DiceChat.Token

/-! The program does what an invocation asks: it rolls and prints, or it sets up the bot and starts it. -/

namespace DiceChat

/-- How the work of a started bot ends. -/
inductive Ending where
  /-- It is over. -/
  | finished
  /-- Somebody interrupts it. -/
  | interrupted
  /-- The platform fails the bot, be it that it refuses the token. -/
  | failed (failure : Failure)
  /-- Anything else fails, and nobody is prepared for it. -/
  | crashed (failure : Failure)
deriving DecidableEq

/-- What the world around a bot lets become of its run. -/
structure Fate where
  /-- What is left of the call stack when the configuration is opened. -/
  stack : Stack
  /-- How the work of the bot ends, if it is started. -/
  ending : Ending

/-- A bot as it is started. -/
structure Start where
  /-- The token it logs in with. -/
  token : Text
  /-- What commands start with. -/
  commandPrefix : Json
  /-- The names of its commands, in order. -/
  commands : List Text

/-- Why the program breaks off. -/
inductive ProgramError where
  /-- The configuration cannot be loaded. -/
  | config (error : ConfigError)
  /-- The logger cannot be configured. -/
  | logging (error : LoggingError)
  /-- The bot fails in a way that nobody is prepared for. -/
  | bot (failure : Failure)
deriving DecidableEq

/-- What an error is reported as. -/
def ProgramError.message : ProgramError → Text
  | .config error => error.message
  | .logging error => error.message
  | .bot failure => failure.message

/-- How the program exits. -/
inductive Exit where
  /-- All was done. -/
  | success
  /-- Something failed. -/
  | failure
  /-- The command line or the expression is refused. -/
  | refused
deriving DecidableEq

/-- The number that an exit is reported as. -/
def Exit.code : Exit → Nat
  | .success => 0
  | .failure => 1
  | .refused => 2

/-- What the program has and has done. -/
structure Program where
  /-- The disk. -/
  disk : Disk
  /-- The die. -/
  die : Die
  /-- The time that is written into the log. -/
  time : Text
  /-- The logging. -/
  logging : Logging
  /-- What was printed. -/
  output : Text
  /-- What was reported: log records, and the errors of expressions. -/
  errors : Text
  /-- The bots that were started. -/
  started : List Start

namespace Program

/-- The program before it does anything. -/
def start (disk : Disk) (die : Die) (time : Text) : Program :=
  ⟨disk, die, time, .fresh, [], [], []⟩

/-- The program after records were logged. -/
def log (program : Program) (records : List LogRecord) : Program :=
  let (logging, disk, lines) := program.logging.writeAll program.disk program.time records
  { program with logging := logging, disk := disk, errors := program.errors ++ lines }

/-- The program after a line was printed. -/
def print (program : Program) (line : Text) : Program :=
  { program with output := program.output ++ line ++ ['\n'] }

/-- The program after an error was reported. -/
def complain (program : Program) (line : Text) : Program :=
  { program with errors := program.errors ++ line ++ ['\n'] }

/-- The mode that the options of a roll ask for. -/
def modeOf (options : RollOptions) : Mode :=
  if options.advantage then .advantage
  else if options.disadvantage then .disadvantage
  else .straight

/-- The program after a session was printed, with its record if that is asked for. -/
def printSession (program : Program) (session : Session) (json : Bool) : Program × Exit :=
  -- The display has standard limits and no emphasis, so it cannot fail; it comes before the record.
  match session.render .standard .plain (if json then some "session".toList else none) with
  | .error _ => (program, .failure)
  | .ok ⟨text, none⟩ => (program.print text, .success)
  | .ok ⟨text, some record⟩ =>
    match record.dump with
    | .error _ => (program.print text, .failure)
    | .ok document => ((program.print text).print document, .success)

/-- Rolls the expression in the options. -/
def roll (program : Program) (options : RollOptions) : Program × Exit :=
  -- The words of the expression are read as one text.
  let text := joinWith [' '] options.expression
  let program := program.log (Notation.journal text)
  match Notation.parse text with
  | .error error => (program.complain error.message, .refused)
  | .ok settings =>
    let (session, die) := settings.roll (modeOf options) program.die
    { program with die := die }.printSession session options.json

/-- The record that the token is looked for. -/
def tokenRecord : LogRecord := .plain .info "Reading token...".toList

/-- The record that there is no token. -/
def tokenlessRecord (error : TokenError) : LogRecord :=
  .plain .error ("錯誤：".toList ++ error.message)

/-- The record that the bot is started. -/
def startRecord : LogRecord := .plain .info "正在啟動擲骰機器人...".toList

/-- The record of a failure of the platform. -/
def failureRecord (failure : Failure) : LogRecord :=
  ⟨.error, "機器人運行時出現錯誤".toList, some failure⟩

/-- What is logged about an ending. -/
def endingRecords : Ending → List LogRecord
  -- What nobody is prepared for is not logged either.
  | .finished | .crashed _ => []
  | .interrupted => [.plain .info "收到中斷信號，正在關閉機器人...".toList]
  | .failed failure => [failureRecord failure]

/-- The record that the bot was closed. -/
def closedRecord : LogRecord := .plain .info "機器人已關閉".toList

/-- The exit after an ending, or why the program breaks off. -/
def exitAfter : Ending → Except ProgramError Exit
  | .finished | .interrupted => .ok .success
  | .failed _ => .ok .failure
  | .crashed failure => .error (.bot failure)

/-- Starts a bot with a token, and closes it when its work ends. -/
def startBot (program : Program) (bot : Bot) (token : Text) (ending : Ending) :
    Program × Except ProgramError Exit :=
  -- However the work ends, the last record tells that the bot was closed.
  let program := program.log [startRecord]
  let start := ⟨token, bot.commandPrefix, (sortCommands commandInfos).map CommandInfo.name⟩
  let program := { program with started := program.started ++ [start] }
  (program.log (endingRecords ending ++ [closedRecord]), exitAfter ending)

/-- Looks for the token, and starts the bot that the store describes. -/
def runBot (program : Program) (store : Store) (options : BotOptions) (ending : Ending) :
    Program × Except ProgramError Exit :=
  let program := program.log [tokenRecord]
  match findToken program.disk options.token options.tokenFile with
  | .error error => (program.log [tokenlessRecord error], .ok .failure)
  | .ok token =>
    let sync := if options.setCommands then some (.bool true) else none
    program.startBot (Bot.ofStore store sync) token ending

/-- The program after its logger was configured, and what went wrong if anything did. -/
def configureLogging (program : Program) (globals : GlobalConfig) :
    Program × Option LoggingError :=
  let (logging, disk, error) :=
    program.logging.configure program.disk globals.logFile globals.logLevel
  ({ program with logging := logging, disk := disk }, error)

/-- Opens the configuration at the given path. -/
def openConfig (stack : Stack) (path : Given) (disk : Disk) : Disk × Except ConfigError Store :=
  match path with
  | .text path => Store.openAt stack path disk
  | .blank => (disk, .error .noPath)

/-- Runs the bot: first the configuration is loaded, then the logger is set up, then comes the token. -/
def run (program : Program) (options : BotOptions) (fate : Fate) :
    Program × Except ProgramError Exit :=
  -- What fails before the token is looked for breaks the program off.
  match openConfig fate.stack options.config program.disk with
  | (disk, .error error) => ({ program with disk := disk }, .error (.config error))
  | (disk, .ok store) =>
    match { program with disk := disk }.configureLogging store.globals with
    | (program, some error) => (program, .error (.logging error))
    | (program, none) => program.runBot store options fate.ending

/-- Does what an invocation asks; without a command the bot is run. -/
def perform (program : Program) (invocation : Invocation) (fate : Fate) :
    Program × Except ProgramError Exit :=
  match invocation.command with
  | .unnamed | .run => program.run invocation.options fate
  | .roll options =>
    let (program, exit) := program.roll options
    (program, .ok exit)

end Program

end DiceChat
