import DiceChat.Chat.Command
import DiceChat.Chat.Message
import DiceChat.Config.Store
import DiceChat.Display.Rendered
import DiceChat.Notation.Journal

/-! A room answers requests one by one: it rolls its die, keeps its store, and sends messages. -/

namespace DiceChat

/-- What a room has between two requests. -/
structure Room where
  /-- The configuration. -/
  store : Store
  /-- The disk with the configuration file. -/
  disk : Disk
  /-- The die. -/
  die : Die

/-- Who makes a request. -/
structure Caller where
  /-- The guild it is made in; none in private. -/
  guild : Option Int
  /-- Whether the caller may manage the guild. -/
  manager : Bool
deriving DecidableEq

/-- A budget as it reaches the command. -/
inductive BudgetArgument where
  /-- A word that has to be a numeral within range. -/
  | word (text : Text)
  /-- A value that was checked elsewhere. -/
  | value (value : Json)

/-- What is asked of a room. -/
inductive Request where
  /-- To roll dice. -/
  | dice (command : DiceCommand) (expression : Text)
  /-- To list the commands. -/
  | help
  /-- To set the budgets of the guild. -/
  | budget (single double : BudgetArgument)

/-- A request, and what the world around the room lets become of it. -/
structure Exchange where
  /-- Who asks. -/
  caller : Caller
  /-- What is asked. -/
  request : Request
  /-- How the first attempts to send a message fail. -/
  failures : List Failure
  /-- What is left of the call stack when the configuration is saved. -/
  stack : Stack

/-- Why a request fails. -/
inductive RequestError where
  /-- No message got through. -/
  | undelivered (failure : Failure)
  /-- The caller may not do this. -/
  | notPermitted
  /-- A word is no numeral. -/
  | notNumeral
  /-- A number is out of range. -/
  | outOfRange
  /-- A stored budget is no number. -/
  | budgetKind
  /-- The session cannot be rendered. -/
  | render (error : RenderError)
  /-- The record of the session cannot be written. -/
  | record (flaw : JsonFlaw)
  /-- The configuration cannot be saved. -/
  | config (error : ConfigError)

/-- Messages that stand in for each other, and what is logged if the first does not get through. -/
structure Sending where
  /-- The messages, the preferred one first. -/
  messages : List Message
  /-- The records of the first failure. -/
  onFailure : Failure → List LogRecord

/-- What a room does about a request before anything is sent. -/
structure Turn where
  /-- The room afterwards. -/
  room : Room
  /-- What was logged. -/
  records : List LogRecord
  /-- What is to be sent. -/
  outcome : Except RequestError Sending

/-- What became of a request. -/
structure Report where
  /-- The attempts to send messages. -/
  deliveries : List Delivery
  /-- What was logged. -/
  records : List LogRecord
  /-- Why the request failed, if it did. -/
  error : Option RequestError

/-- What is said where there is nothing to roll. -/
def sillyText : Text :=
  ("As a non-language non-model, I just spit out what was written in my code " ++
    "and I can never vary.").toList

/-- The words and pictures of eyes. -/
def eyeWords : List Text :=
  ["eye".toList, "eyes".toList, "👀".toList, "👁".toList, "👁\u200d🗨".toList]

/-- The color of frames around rolls. -/
def rollColor : Nat := 0x7289da

/-- The color of frames around errors. -/
def errorColor : Nat := 0xff0000

/-- The color of the frame around the help. -/
def helpColor : Nat := 0x1abc9c

/-- The most characters a title may have. -/
def titleLimit : Nat := 256

/-- The most characters a framed text may have. -/
def descriptionLimit : Nat := 4096

/-- The greatest budget that can be set by a word. -/
def maxBudget : Int := 4000

/-- The settings that are rolled where no expression is given. -/
def defaultSettings : Settings := ⟨1, 6, none, none⟩

/-- What an expression asks a dice command for. -/
inductive Wish where
  /-- To be looked at. -/
  | eyes
  /-- Something that is not notation. -/
  | refused (error : NotationError)
  /-- A roll, perhaps with its record. -/
  | rolled (settings : Settings) (mode : Mode) (withRecord : Bool)

/-- What an expression asks a dice command for, blanks around it aside. -/
def DiceCommand.wish (command : DiceCommand) (expression : Text) : Wish :=
  -- Without an expression every command rolls one plain die.
  let expression := trim expression
  if eyeWords.contains expression then .eyes
  else if expression.isEmpty then .rolled defaultSettings .straight false
  else
    match Notation.parse expression with
    | .error error => .refused error
    | .ok settings => .rolled settings command.mode command.withRecord

/-- What is logged about reading an expression. -/
def expressionRecords (expression : Text) : List LogRecord :=
  -- Eyes and blanks are not read as notation.
  let expression := trim expression
  if eyeWords.contains expression || expression.isEmpty then []
  else Notation.journal expression

/-- The reply to an expression that is not notation. -/
def refusal (error : NotationError) : Message :=
  .embedReply
    { title := "Roll error".toList
      description := sillyText ++
        ("\n\nIn other words, it is likely you have made a mistake " ++
          "and I definitely cannot help you to fix it. Try again!\n\n💣 `").toList ++
        error.message ++ "` 💣".toList
      color := errorColor }

/-- The display that a guild configured, if one can be made and its budgets are numbers. -/
def GuildConfig.display? (config : GuildConfig) : Option Display :=
  match config.hasDisplay, Limit.ofJson? config.single, Limit.ofJson? config.double with
  | true, some single, some double => some ⟨single, double⟩
  | _, _, _ => none

/-- The title of the message about a session: its label, within the limit for titles. -/
def Session.title (session : Session) : Text :=
  -- Without a label there is a general title.
  match session.settings.label with
  | some label => (if label.isEmpty then "Dice roll".toList else label).take titleLimit
  | none => "Dice roll".toList.take titleLimit

/-- The file with the record of a session. -/
def recordFile (record : Json) : Except RequestError Attachment := do
  let content ← record.dump.mapError .record
  pure ⟨"roll.json".toList, content⟩

/-- The record of a session that did not get through. -/
def undeliveredRecord (settings : Settings) (failure : Failure) : LogRecord :=
  ⟨.error, "無法發送擲骰結果 ".toList ++ settings.parameters, some failure⟩

/-- The messages about a session: its display with its record, or else only its last line. -/
def Session.sending (session : Session) (config : GuildConfig) (withRecord : Bool) :
    Except RequestError Sending := do
  -- The display is fitted to what one message may hold.
  match config.display? with
  | none => .error .budgetKind
  | some display => do
    let fitted ← (session.fit descriptionLimit display .discord).mapError (.render ∘ .display)
    let view := if withRecord then some "session".toList else none
    let rendered ← (session.render fitted .discord view).mapError .render
    let attachment ← rendered.record.mapM recordFile
    let final ← (finalLine session.adopted.total .discord).mapError (.render ∘ .display)
    let embed := ⟨session.title, rendered.text, rollColor⟩
    pure
      { messages := [⟨.reply, none, some embed, attachment⟩, .textReply final]
        onFailure := fun failure => [undeliveredRecord session.settings failure] }

/-- A message that nothing stands in for. -/
def Sending.only (message : Message) : Sending :=
  ⟨[message], fun _ => []⟩

namespace Room

/-- What a room does about an expression for a dice command. -/
def rollTurn (room : Room) (caller : Caller) (command : DiceCommand) (expression : Text) : Turn :=
  -- Dice are drawn only where there is something to roll.
  let records := expressionRecords expression
  match command.wish expression with
  | .eyes => ⟨room, records, .ok (.only (.textReply sillyText))⟩
  | .refused error => ⟨room, records, .ok (.only (refusal error))⟩
  | .rolled settings mode withRecord =>
    let (session, die) := settings.roll mode room.die
    let rolled := LogRecord.plain .debug ("Dice roll: ".toList ++ session.inline)
    ⟨{ room with die := die }, records ++ [rolled],
      session.sending (room.store.guild caller.guild) withRecord⟩

/-- What a room does about a request for help. -/
def helpTurn (room : Room) : Turn :=
  let embed :=
    { title := "These commands are supported:".toList
      description := helpText room.store.globals.commandPrefix.plain commandInfos
      color := helpColor }
  ⟨room, [], .ok (.only (.embedSend embed))⟩

/-- The budget that an argument sets. -/
def budgetValue : BudgetArgument → Except RequestError Json
  -- Only words are checked against the range.
  | .value value => .ok value
  | .word text =>
    match readInt text with
    | .error _ => .error .notNumeral
    | .ok value =>
      if 1 ≤ value ∧ value ≤ maxBudget then .ok (.whole value) else .error .outOfRange

/-- The message that a budget cannot be set in private. -/
def privateRefusal : Message :=
  .embedSend ⟨"Error".toList, "This command can only be used in a server".toList, errorColor⟩

/-- The message that the budgets of a guild were set. -/
def budgetMessage (single double : Json) : Message :=
  .embedSend
    { title := "Roll budget updated".toList
      description := "Single roll: ".toList ++ single.plain ++
        " characters\nEach of two rolls: ".toList ++ double.plain ++ " characters".toList
      color := rollColor }

/-- What a room does about new budgets that were accepted. -/
def setBudget (room : Room) (stack : Stack) (guild : Int) (single double : Json) : Turn :=
  -- The configuration that the guild has, or else a standard one, gets new budgets.
  let config := { room.store.guild (some guild) with single := single, double := double }
  match room.store.setGuild stack room.disk guild config with
  | (store, disk, none) =>
    ⟨{ room with store := store, disk := disk }, [],
      .ok (.only (budgetMessage single double))⟩
  | (store, disk, some error) =>
    ⟨{ room with store := store, disk := disk }, [], .error (.config error)⟩

/-- What a room does about a request to set budgets. -/
def budgetTurn (room : Room) (stack : Stack) (caller : Caller) (single double : BudgetArgument) :
    Turn :=
  -- The permission comes first, then the two arguments, and last the place.
  if !caller.manager then ⟨room, [], .error .notPermitted⟩
  else
    match budgetValue single, budgetValue double with
    | .error error, _ => ⟨room, [], .error error⟩
    | .ok _, .error error => ⟨room, [], .error error⟩
    | .ok single, .ok double =>
      match caller.guild with
      | none => ⟨room, [], .ok (.only privateRefusal)⟩
      | some guild => room.setBudget stack guild single double

/-- What a room does about a request before anything is sent. -/
def turn (room : Room) (exchange : Exchange) : Turn :=
  match exchange.request with
  | .dice command expression => room.rollTurn exchange.caller command expression
  | .help => room.helpTurn
  | .budget single double => room.budgetTurn exchange.stack exchange.caller single double

/-- Answers a request. -/
def serve (room : Room) (exchange : Exchange) : Room × Report :=
  -- A failure to send changes nothing that was done before.
  let turn := room.turn exchange
  match turn.outcome with
  | .error error => (turn.room, ⟨[], turn.records, some error⟩)
  | .ok sending =>
    let deliveries := deliver exchange.failures sending.messages
    let records := turn.records ++ exchange.failures.head?.elim [] sending.onFailure
    (turn.room, ⟨deliveries, records, (undelivered? deliveries).map .undelivered⟩)

/-- The rooms and reports after each of several exchanges, in order. -/
def run (room : Room) : List Exchange → List (Room × Report)
  -- Each exchange starts from the room that the one before it left.
  | [] => []
  | exchange :: rest =>
    let (room, report) := room.serve exchange
    (room, report) :: room.run rest

end Room

end DiceChat
