import DiceChat.CommandLine.Scan

/-! An invocation is what a command line asks for: options of the bot, and a command. -/

namespace DiceChat

/-- What the surroundings of the program say. -/
structure Environment where
  /-- The token of the bot. -/
  token : Option Text
  /-- The path of the file with the token. -/
  tokenFile : Option Text
deriving DecidableEq

/-- The options of the bot. -/
structure BotOptions where
  /-- The token. -/
  token : Option Given
  /-- The path of the file with the token. -/
  tokenFile : Option Given
  /-- Whether to announce the commands at the start. -/
  setCommands : Bool
  /-- The path of the configuration. -/
  config : Given
deriving DecidableEq

/-- The options of a roll. -/
structure RollOptions where
  /-- The words of the expression. -/
  expression : List Text
  /-- Whether to keep the higher of two attempts. -/
  advantage : Bool
  /-- Whether to keep the lower of two attempts. -/
  disadvantage : Bool
  /-- Whether to print the record as well. -/
  json : Bool
deriving DecidableEq

/-- A command of the program. -/
inductive Command where
  /-- None was named. -/
  | unnamed
  /-- To run the bot. -/
  | run
  /-- To roll here and now. -/
  | roll (options : RollOptions)
deriving DecidableEq

/-- What a command line asks for. -/
structure Invocation where
  /-- The options of the bot. -/
  options : BotOptions
  /-- The command. -/
  command : Command
deriving DecidableEq

namespace BotOptions

/-- The options where no flag is given. -/
def standard (environment : Environment) : BotOptions :=
  ⟨environment.token.map .text, environment.tokenFile.map .text, false,
    .text "config.json".toList⟩

/-- The options after a flag was used. -/
def apply (options : BotOptions) (use : Use) : BotOptions :=
  match use.flag with
  | .botToken => { options with token := some use.value }
  | .botTokenFile => { options with tokenFile := some use.value }
  | .setMyCommands => { options with setCommands := true }
  | .config => { options with config := use.value }
  | _ => options

/-- The options after flags were used in order, so that the last use of each wins. -/
def applyAll (options : BotOptions) (uses : List Use) : BotOptions :=
  uses.foldl apply options

end BotOptions

/-- Whether a flag was used. -/
def Scan.used (scan : Scan) (flag : Flag) : Bool :=
  scan.uses.any fun use => use.flag = flag

/-- The options of a roll whose arguments were scanned. -/
def RollOptions.ofScan (scan : Scan) : RollOptions :=
  ⟨scan.expression, scan.used .advantage, scan.used .disadvantage, scan.used .json⟩

/-- The default values of flags that the surroundings of the program set. -/
def Environment.defaults (environment : Environment) : Defaults
  | .botToken => environment.token
  | .botTokenFile => environment.tokenFile
  | _ => none

/-- Whether the value of a word comes next. -/
def Word.awaits (word : Word) : Bool :=
  match word.role with
  | .flag flag none => flag.takesValue
  | _ => false

/-- The words before the command, and those from the command on. -/
def splitCommand : Bool → List Word → List Word × List Word
  -- A word that a flag awaits is not the command.
  | _, [] => ([], [])
  | awaited, word :: rest =>
    if word.role = .separator ∨ word.role = .plain ∧ ¬awaited then ([], word :: rest)
    else
      let (own, others) := splitCommand word.awaits rest
      (word :: own, others)

namespace Invocation

/-- The invocation, unless there are arguments that mean nothing. -/
def withoutExtras (invocation : Invocation) (extras : List Text) : Except Stop Invocation :=
  if extras.isEmpty then .ok invocation else .error (.usage (.unrecognized extras))

/-- The invocation of the bot by name, with its further arguments. -/
def readRun (options : BotOptions) (extras : List Text) (arguments : List Text) :
    Except Stop Invocation := do
  -- Flags behind the name of the command come after those before it.
  let scan ← Scan.ofArguments Flag.ofBot (fun _ => none) .behind arguments
  withoutExtras ⟨options.applyAll scan.uses, .run⟩ (extras ++ scan.extras)

/-- The invocation of a roll, with its further arguments. -/
def readRoll (options : BotOptions) (extras : List Text) (arguments : List Text) :
    Except Stop Invocation := do
  -- A missing expression is reported before arguments that mean nothing.
  let scan ← Scan.ofArguments Flag.ofRoll (fun _ => none) .before arguments
  if scan.expression.isEmpty then .error (.usage .missingExpression)
  else withoutExtras ⟨options, .roll (.ofScan scan)⟩ (extras ++ scan.extras)

/-- The invocation whose words from the command on are the given ones. -/
def readCommand (options : BotOptions) (extras : List Text) : List Word → Except Stop Invocation
  -- A separator at the end means nothing, and before a word it is taken for the command.
  | [] => withoutExtras ⟨options, .unnamed⟩ extras
  | [⟨text, .separator⟩] => withoutExtras ⟨options, .unnamed⟩ (extras ++ [text])
  | word :: rest =>
    let arguments := rest.map Word.text
    if word.role = .separator then .error (.usage (.unknownCommand word.text))
    else if word.text = "run".toList then readRun options extras arguments
    else if word.text = "roll".toList then readRoll options extras arguments
    else .error (.usage (.unknownCommand word.text))

/-- The invocation that a command line asks for. -/
def read (environment : Environment) (arguments : List Text) : Except Stop Invocation := do
  -- All words are looked at before the first of them is acted on.
  let words ← (readWords Flag.ofBot arguments).mapError .usage
  let (own, others) := splitCommand false words
  let scan ← Scan.ofWords environment.defaults .behind own
  readCommand ((BotOptions.standard environment).applyAll scan.uses) scan.extras others

end Invocation

end DiceChat
