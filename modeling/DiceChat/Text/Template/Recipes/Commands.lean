import DiceChat.Text.Template.Hint

/-! Recipes of the functions of the command line. -/

namespace DiceChat.Recipes

/-- The code of a function inside another one. -/
def commandInner1 : Code :=
  { path := "_add_run_flags.<locals>.default", arguments := 1, stack := 1, flags := 19,
    line := 34, holders := ["value"], names := ["argparse SUPPRESS"], free := ["suppress"],
    constants := [.nothing] }

/-- The functions of the command line. -/
def commandMaking : List (String × Recipe) :=
  [("_add_run_flags",
    { collection := "main"
      code :=
        { path := "_add_run_flags", arguments := 2, stack := 8, flags := 3, line := 32,
          holders := ["p suppress default token"],
          names := ["add_mutually_exclusive_group add_argument os getenv"], cells := ["suppress"],
          constants := [.say "run 的參數；子命令上用 SUPPRESS，避免覆蓋已在主命令上解析的值", commandInner1.subject,
          .say "--bot-token", .say "DISCORD_TOKEN",
          .say "Bot token (env DISCORD_TOKEN). Prefer a token file, command lines are visible to other processes.",
          .row [.say "default", .say "help"], .say "--bot-token-file", .say "DISCORD_TOKEN_FILE",
          .say "Path to a file containing the bot token (env DISCORD_TOKEN_FILE).",
          .say "--set-my-commands", .say "store_true", .truth false,
          .say "Sync slash commands on startup.", .row [.say "action", .say "default",
          .say "help"], .say "--config", .say "config.json",
          .say "Path to config.json (created with defaults if missing).", .nothing] }
      defaults := .row [.truth false]
      hints := [entry "p" (.kind (.listed "argparse.ArgumentParser")),
        entry "suppress" (.kind .truth), entry "return" (.nothing)] }),
   ("build_parser",
    { collection := "main"
      code :=
        { path := "build_parser", arguments := 0, stack := 5, flags := 3, line := 61,
          holders := ["parser sub run roll mode"], names :=
          ["argparse ArgumentParser _add_run_flags add_subparsers add_parser add_argument",
          "add_mutually_exclusive_group"], constants := [.nothing, .say "dice-roller-bot",
          .say "Discord bot to roll die!", .row [.say "prog", .say "description"], .say "command",
          .row [.say "dest"], .say "run", .say "Run bot", .row [.say "help"], .truth true,
          .row [.say "suppress"], .say "roll", .say "Roll locally and print the result",
          .say "expression", .say "+", .say "Dice expression, e.g. 2d6+3 Fire damage",
          .row [.say "nargs", .say "help"], .say "--advantage", .say "store_true",
          .say "Roll twice, keep the higher total.", .row [.say "action", .say "help"],
          .say "--disadvantage", .say "Roll twice, keep the lower total.", .say "--json",
          .say "Also print the JSON record."] }
      hints := [entry "return" (.kind (.listed "argparse.ArgumentParser"))] }),
   ("_run_bot",
    { collection := "main"
      code :=
        { path := "_run_bot", arguments := 1, stack := 4, flags := 131, line := 78,
          holders := ["bot"], names := ["start close"], constants := [.nothing] }
      hints := [entry "bot" (.kind (.listed "bot.DiceBot")), entry "return" (.nothing)] }),
   ("cmd_run",
    { collection := "main"
      code :=
        { path := "cmd_run", arguments := 1, stack := 5, flags := 3, line := 85,
          holders := ["args config_manager global_config logger token e bot"],
          names := ["ConfigManager config global_config configure_logger log_file log_level info",
          "get_token bot_token bot_token_file ValueError OSError error EXIT_ERROR DiceBot",
          "set_my_commands asyncio run _run_bot KeyboardInterrupt discord DiscordException",
          "exception EXIT_OK"], constants := [.nothing, .row [.say "config_path"],
          .say "Reading token...", .say "錯誤：", .truth true, .row [.say "sync_commands"],
          .say "收到中斷信號，正在關閉機器人...", .say "機器人運行時出現錯誤", .say "機器人已關閉"] }
      hints := [entry "args" (.kind (.listed "argparse.Namespace")),
        entry "return" (.kind .whole)] }),
   ("cmd_roll",
    { collection := "main"
      code :=
        { path := "cmd_roll", arguments := 1, stack := 6, flags := 3, line := 110,
          holders := ["args roll_type settings e rendered"], names :=
          ["RollType STRAIGHT advantage ADVANTAGE disadvantage DISADVANTAGE RollSettings",
          "from_str join expression RollParseError print sys stderr EXIT_PARSE_ERROR",
          "render_roll roll_session PLAIN_MARKUP json text record dump_record EXIT_OK"],
          constants := [.nothing, .say " ", .row [.say "file"], .row [.say "markup",
          .say "with_record"]] }
      hints := [entry "args" (.kind (.listed "argparse.Namespace")),
        entry "return" (.kind .whole)] }),
   ("main",
    { collection := "main"
      code :=
        { path := "main", arguments := 1, stack := 4, flags := 3, line := 130,
          holders := ["argv args"], names :=
          ["load_dotenv build_parser parse_args get_logger debug command cmd_roll cmd_run"],
          constants := [.say "主函數", .say "Command line: ", .say "roll"] }
      defaults := .row [.nothing]
      hints := [entry "argv" (Hint.optionalOf (Hint.listOf .text)),
        entry "return" (.kind .whole)] })]

end DiceChat.Recipes
