import DiceChat.Text.Template.Hint

/-! Recipes of the functions of the bot. -/

namespace DiceChat.Recipes

/-- The code of a function inside another one. -/
def chatInner1 : Code :=
  { path := "DiceBot.setup_events.<locals>.on_ready.<locals>.<listcomp>", arguments := 1,
    stack := 3, flags := 19, line := 57, holders := [".0 c"], names := ["name"], constants := [] }

/-- The code of a function inside another one. -/
def chatInner2 : Code :=
  { path := "DiceBot.setup_events.<locals>.on_ready", arguments := 0, stack := 6, flags := 147,
    line := 48, holders := ["synced e"],
    names := ["logger info bot user id len guilds sync_commands tree sync discord HTTPException",
    "error"], free := ["self"], constants := [.nothing, .say " 已經上線! (ID: ", .say ")",
    .say "已連接到 ", .say " 個服務器", .say "應用命令已同步: ", chatInner1.subject, .say "同步應用命令時出錯: "] }

/-- The code of a function inside another one. -/
def chatInner3 : Code :=
  { path := "DiceBot.setup_events.<locals>.on_guild_join", arguments := 1, stack := 7,
    flags := 147, line := 61, holders := ["guild"], names := ["logger info name id"],
    free := ["self"], constants := [.say "當機器人加入服務器時的處理", .say "加入了服務器: ", .say " (ID: ",
    .say ")", .nothing] }

/-- The recipes of this module, by the titles of their functions. -/
def chatRecipes : List (String × Recipe) :=
  [("bot.DiceBot.__init__",
    { collection := "bot"
      code :=
        { path := "DiceBot.__init__", arguments := 4, stack := 6, flags := 3, line := 24,
          holders := ["self token config_manager sync_commands global_config intents"], names :=
          ["token config_manager get_logger logger global_config sync_commands discord Intents",
          "default message_content commands Bot command_prefix bot setup_events"],
          constants := [.nothing, .truth true, .say "Bot to roll die!",
          .row [.say "command_prefix", .say "intents", .say "description", .say "help_command"]] }
      defaults := .row [.nothing]
      hints := [entry "token" (.kind .text),
        entry "config_manager" (.kind (.listed "utils.config.ConfigManager")),
        entry "sync_commands" (Hint.optionalOf (.kind .truth))] }),
   ("bot.DiceBot.setup_events",
    { collection := "bot"
      code :=
        { path := "DiceBot.setup_events", arguments := 1, stack := 3, flags := 3, line := 46,
          holders := ["self on_ready on_guild_join"], names := ["bot event"], cells := ["self"],
          constants := [.say "設置事件處理器", chatInner2.subject, chatInner3.subject, .nothing] } }),
   ("bot.DiceBot.add_cogs",
    { collection := "bot"
      code :=
        { path := "DiceBot.add_cogs", arguments := 1, stack := 6, flags := 131, line := 66,
          holders := ["self DiceCog HelpCog SettingsCog"], names :=
          ["cogs.dice_cog DiceCog cogs.help_cog HelpCog cogs.settings_cog SettingsCog bot",
          "add_cog config_manager"], constants := [.say "添加Cog模塊", .whole 0,
          .row [.say "DiceCog"], .row [.say "HelpCog"], .row [.say "SettingsCog"], .nothing] } }),
   ("bot.DiceBot.start",
    { collection := "bot"
      code :=
        { path := "DiceBot.start", arguments := 1, stack := 3, flags := 131, line := 76,
          holders := ["self"], names := ["logger info add_cogs bot start token"],
          constants := [.say "啟動機器人", .say "正在啟動擲骰機器人...", .nothing] } }),
   ("bot.DiceBot.close",
    { collection := "bot"
      code :=
        { path := "DiceBot.close", arguments := 1, stack := 2, flags := 131, line := 82,
          holders := ["self"], names := ["bot is_closed close"], constants := [.say "關閉機器人",
          .nothing] } })]

/-- The functions of the bot that no kind holds. -/
def chatMaking : List (String × Recipe) :=
  [("get_token",
    { collection := "bot"
      code :=
        { path := "get_token", arguments := 2, stack := 3, flags := 3, line := 10,
          holders := ["token token_file"], names := ["Path read_text strip ValueError"],
          constants := [.sayLines ["", "    獲取機器人token：優先使用直接提供的token，其次讀取token文件", "    "],
          .say "utf-8", .row [.say "encoding"], .say "No API Key provided"] }
      defaults := .row [.nothing, .nothing]
      hints := [entry "token" (Hint.optionalText), entry "token_file" (Hint.optionalPath),
        entry "return" (.kind .text)] })]

end DiceChat.Recipes
