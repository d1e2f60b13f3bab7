import DiceChat.Ordered
import DiceChat.Text.Template.Surroundings

/-! What is known in the collections that display, read and draw rolls, and in those around them. -/

namespace DiceChat

/-- Functions of a collection under their names. -/
def madeIn (home : String) (recipes : List (String × Recipe)) : List (Text × Subject) :=
  recipes.map fun (name, recipe) => entry name (functionThing home recipe)

/-- Kinds of a collection under their names. -/
def kindsOf (home : String) (names : List String) : List (Text × Subject) :=
  (wordsOf names).map fun name => (name, .kind (.listed (home ++ "." ++ String.ofList name)))

/-- Collections under names. -/
def modulesUnder (names : List String) : List (Text × Subject) :=
  (wordsOf names).map fun name => (name, .module name)

/-- The named ones of entries, in the order of the names. -/
def pick (names : List String) (entries : List (Text × Subject)) : List (Text × Subject) :=
  (wordsOf names).filterMap fun name => (Ordered.find? entries name).map fun found => (name, found)

/-- The hints and makers of records that collections take from elsewhere. -/
def commonEntries : List (Text × Subject) :=
  [entry "dataclass" (functionThing "dataclasses" Recipes.recordMaking), entry "Any" Hint.any,
    entry "Dict" Hint.tables, entry "List" Hint.lists, entry "Optional" Hint.optional,
    entry "Tuple" Hint.rows, entry "Union" Hint.union]

/-- The names known where sessions are displayed. -/
def displayEntries : List (Text × Subject) :=
  collectionEntries "utils.render" "utils"
    ["", "擲骰結果的顯示與資料輸出", "",
      "顯示文字受聊天平台的訊息長度限制，骰子列表會按 DisplayConfig 截斷；",
      "資料輸出（record）則永遠完整。", ""] ++
    modulesUnder ["json"] ++ pick ["dataclass Any Dict Optional"] commonEntries ++
    kindsOf "models.types" ["Roll RollResults"] ++
    [entry "ELLIPSIS" (.say "..."), entry "ATTEMPT_NAMES" (.rowOfWords ["one two"])] ++
    kindsOf "utils.render" ["DisplayConfig Markup"] ++
    [entry "HTML_MARKUP" htmlMarkup, entry "DISCORD_MARKUP" chatMarkup,
      entry "PLAIN_MARKUP" plainMarkup] ++
    kindsOf "utils.render" ["RenderedRoll"] ++ madeIn "utils.render" Recipes.displayMaking

/-- The names known where dice are drawn. -/
def drawEntries : List (Text × Subject) :=
  collectionEntries "utils.dice" "utils" [] ++ modulesUnder ["random"] ++
    pick ["Optional"] commonEntries ++ kindsOf "models.types" ["Roll RollResults RollSettings"] ++
    [entry "RollType" (.kind modeKind)] ++ madeIn "utils.dice" Recipes.drawMaking

/-- The logger that all share. -/
def sharedLogger : Subject :=
  let own := [entry "logger" (.thing (.listed "logging.Logger") "<Logger DiceBot (INFO)>".toList
    [entry "name" (.say "DiceBot")])]
  .thing (.listed "utils.logger.BotLogger") "<utils.logger.BotLogger object>".toList
    (own ++ [entry "__dict__" (.table own)])

/-- The names known where loggers are set up. -/
def loggerEntries : List (Text × Subject) :=
  let logger : Kind := .listed "utils.logger.BotLogger"
  collectionEntries "utils.logger" "utils" [] ++
    [entry "__annotations__" (.table [entry "_logger" (Hint.optionalOf (.kind logger))])] ++
    modulesUnder ["logging"] ++ kindsOf "logging.handlers" ["RotatingFileHandler"] ++
    pick ["Optional"] commonEntries ++
    [entry "BotLogger" (.kind logger), entry "_logger" sharedLogger] ++
    madeIn "utils.logger" Recipes.loggerMaking

/-- The names known where notation is read. -/
def readerEntries : List (Text × Subject) :=
  collectionEntries "utils.parser" "utils"
    ["", "骰子表達式解析器", "", "語法（忽略任意空白）:",
      "    roll      := number ('d' | 'D') number (modifier)? (label)?",
      "    modifier  := ('+' | '-') number", "    number    := 1-4 個數字",
      "    label     := 剩下的文字", ""] ++
    modulesUnder ["string"] ++ pick ["Optional"] commonEntries ++
    kindsOf "models.types" ["RollSettings"] ++ pick ["get_logger"] loggerEntries ++
    [entry "MAX_DIGITS" (.whole 4)] ++
    kindsOf "utils.parser" ["RollParseError InvalidFormat TooBig CannotBeZero _RollParser"] ++
    madeIn "utils.parser" Recipes.readerMaking

/-- The names known where configurations are kept. -/
def configEntries : List (Text × Subject) :=
  collectionEntries "utils.config" "utils" [] ++ modulesUnder ["json os"] ++
    pick ["Dict Optional dataclass"] commonEntries ++ madeIn "dataclasses" Recipes.recordTools ++
    kindsOf "utils.render" ["DisplayConfig"] ++
    kindsOf "utils.config" ["GlobalConfig GuildConfig"] ++
    madeIn "utils.config" Recipes.configMaking ++ kindsOf "utils.config" ["ConfigManager"]

/-- The names known where bots are made. -/
def botEntries : List (Text × Subject) :=
  collectionEntries "bot" "" [] ++
    [entry "discord" (.module "discord".toList),
      entry "commands" (.module "discord.ext.commands".toList)] ++
    kindsOf "pathlib" ["Path"] ++ pick ["Optional Union"] commonEntries ++
    kindsOf "utils.config" ["ConfigManager"] ++ pick ["get_logger"] loggerEntries ++
    madeIn "bot" Recipes.chatMaking ++ kindsOf "bot" ["DiceBot"]

/-- The names known where the command line is read. -/
def commandEntries : List (Text × Subject) :=
  collectionEntries "main" ""
    ["", "Dice Roller Bot", "在聊天中擲骰子的Discord機器人", "",
      "    python main.py run --bot-token-file token.txt",
      "    python main.py roll 2d20+3 Stealth --advantage --json", ""] ++
    modulesUnder ["argparse asyncio os sys"] ++ pick ["List Optional"] commonEntries ++
    modulesUnder ["discord"] ++ kindsOf "bot" ["DiceBot"] ++ pick ["get_token"] botEntries ++
    kindsOf "models.types" ["RollSettings"] ++ [entry "RollType" (.kind modeKind)] ++
    kindsOf "utils.config" ["ConfigManager"] ++ pick ["roll_session"] drawEntries ++
    pick ["configure_logger get_logger"] loggerEntries ++
    kindsOf "utils.parser" ["RollParseError"] ++
    pick ["PLAIN_MARKUP dump_record render_roll"] displayEntries ++
    [entry "EXIT_OK" (.whole 0), entry "EXIT_ERROR" (.whole 1),
      entry "EXIT_PARSE_ERROR" (.whole 2)] ++
    madeIn "main" Recipes.commandMaking

/-- The modules of the chat that every group of commands knows. -/
def chatModules : List (Text × Subject) :=
  [entry "discord" (.module "discord".toList),
    entry "commands" (.module "discord.ext.commands".toList)]

/-- The names known where the commands that roll are made. -/
def rollCommandEntries : List (Text × Subject) :=
  collectionEntries "cogs.dice_cog" "cogs" [] ++ modulesUnder ["io"] ++ chatModules ++
    kindsOf "models.types" ["RollSettings"] ++ [entry "RollType" (.kind modeKind)] ++
    pick ["roll_session"] drawEntries ++ pick ["get_logger"] loggerEntries ++
    kindsOf "utils.parser" ["RollParseError"] ++
    pick ["DISCORD_MARKUP dump_record fit_display format_final render_roll"] displayEntries ++
    [entry "SILLY_TEXT" (.say ("As a non-language non-model, I just spit out what was written " ++
        "in my code and I can never vary.")),
      entry "EYES" (.row [.say "eye", .say "eyes", .say "👀", .say "👁", .say "👁‍🗨"]),
      entry "DEFAULT_SETTINGS" (.settings ⟨1, 6, none, none⟩),
      entry "ROLL_COLOR" (.whole 0x7289da), entry "ERROR_COLOR" (.whole 0xff0000),
      entry "EMBED_TITLE_LIMIT" (.whole 256), entry "EMBED_DESCRIPTION_LIMIT" (.whole 4096)] ++
    kindsOf "cogs.dice_cog" ["DiceCog"]

/-- The names known where the command that helps is made. -/
def helpCommandEntries : List (Text × Subject) :=
  collectionEntries "cogs.help_cog" "cogs" [] ++ chatModules ++
    kindsOf "cogs.help_cog" ["HelpCog"]

/-- The names known where the command that sets budgets is made. -/
def budgetCommandEntries : List (Text × Subject) :=
  collectionEntries "cogs.settings_cog" "cogs" [] ++ chatModules ++
    [entry "MAX_BUDGET" (.whole 4000)] ++ kindsOf "cogs.settings_cog" ["SettingsCog"]

/-- What a collection of collections knows. -/
def packageEntries (name : String) (parts : List String) : List (Text × Subject) :=
  collectionEntries name name [] ++
    (wordsOf parts).map fun part => (part, .module (name.toList ++ '.' :: part))

/-- The collections of the program, by name. -/
def programCollections : List (String × List (Text × Subject)) :=
  [("models", packageEntries "models" ["types"]), ("models.types", recordEntries),
    ("utils", packageEntries "utils" ["logger parser dice render config"]),
    ("utils.render", displayEntries), ("utils.dice", drawEntries),
    ("utils.logger", loggerEntries), ("utils.parser", readerEntries),
    ("utils.config", configEntries), ("bot", botEntries), ("main", commandEntries),
    ("cogs", packageEntries "cogs" ["dice_cog help_cog settings_cog"]),
    ("cogs.dice_cog", rollCommandEntries), ("cogs.help_cog", helpCommandEntries),
    ("cogs.settings_cog", budgetCommandEntries)]

end DiceChat
