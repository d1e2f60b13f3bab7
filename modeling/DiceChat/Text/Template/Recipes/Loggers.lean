import DiceChat.Text.Template.Hint

/-! Recipes of the functions of loggers. -/

namespace DiceChat.Recipes

/-- The recipes of this module, by the titles of their functions. -/
def loggerRecipes : List (String × Recipe) :=
  [("utils.logger.BotLogger.__init__",
    { collection := "utils.logger"
      code :=
        { path := "BotLogger.__init__", arguments := 3, stack := 6, flags := 3, line := 9,
          holders := ["self log_file level handler formatter console_handler file_handler"],
          names :=
          ["logging getLogger logger setLevel list handlers removeHandler close Formatter",
          "StreamHandler setFormatter addHandler RotatingFileHandler"], constants := [.nothing,
          .say "DiceBot", .say "%(asctime)s - %(name)s - %(levelname)s - %(message)s",
          .whole 1048576, .whole 5, .say "utf-8", .row [.say "maxBytes", .say "backupCount",
          .say "encoding"]] }
      defaults := .row [.nothing, .whole 20]
      hints := [entry "log_file" (Hint.optionalText), entry "level" (.kind .whole)] }),
   ("utils.logger.BotLogger.info",
    { collection := "utils.logger"
      code :=
        { path := "BotLogger.info", arguments := 2, stack := 3, flags := 3, line := 37,
          holders := ["self message"], names := ["logger info"], constants := [.say "記錄信息級別日誌",
          .nothing] }
      hints := [entry "message" (.kind .text)] }),
   ("utils.logger.BotLogger.warning",
    { collection := "utils.logger"
      code :=
        { path := "BotLogger.warning", arguments := 2, stack := 3, flags := 3, line := 41,
          holders := ["self message"], names := ["logger warning"], constants := [.say "記錄警告級別日誌",
          .nothing] }
      hints := [entry "message" (.kind .text)] }),
   ("utils.logger.BotLogger.error",
    { collection := "utils.logger"
      code :=
        { path := "BotLogger.error", arguments := 2, stack := 3, flags := 3, line := 45,
          holders := ["self message"], names := ["logger error"], constants := [.say "記錄錯誤級別日誌",
          .nothing] }
      hints := [entry "message" (.kind .text)] }),
   ("utils.logger.BotLogger.exception",
    { collection := "utils.logger"
      code :=
        { path := "BotLogger.exception", arguments := 2, stack := 3, flags := 3, line := 49,
          holders := ["self message"], names := ["logger exception"],
          constants := [.say "記錄錯誤及堆疊", .nothing] }
      hints := [entry "message" (.kind .text)] }),
   ("utils.logger.BotLogger.debug",
    { collection := "utils.logger"
      code :=
        { path := "BotLogger.debug", arguments := 2, stack := 3, flags := 3, line := 53,
          holders := ["self message"], names := ["logger debug"], constants := [.say "記錄調試級別日誌",
          .nothing] }
      hints := [entry "message" (.kind .text)] })]

/-- The functions that set up loggers. -/
def loggerMaking : List (String × Recipe) :=
  [("configure_logger",
    { collection := "utils.logger"
      code :=
        { path := "configure_logger", arguments := 2, stack := 8, flags := 3, line := 61,
          holders := ["log_file level"],
          names := ["BotLogger getattr logging upper INFO _logger"],
          constants := [.say "按配置重建全局日誌實例", .row [.say "log_file", .say "level"]] }
      defaults := .row [.nothing, .say "INFO"]
      hints := [entry "log_file" (Hint.optionalText), entry "level" (.kind .text),
        entry "return" (.kind (.listed "utils.logger.BotLogger"))] }),
   ("get_logger",
    { collection := "utils.logger"
      code :=
        { path := "get_logger", arguments := 0, stack := 2, flags := 3, line := 68,
          names := ["_logger BotLogger"], constants := [.say "獲取日誌實例"] }
      hints := [entry "return" (.kind (.listed "utils.logger.BotLogger"))] })]

end DiceChat.Recipes
