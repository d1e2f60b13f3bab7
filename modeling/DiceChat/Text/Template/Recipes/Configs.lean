import DiceChat.Text.Template.Hint

/-! Recipes of the functions of configurations. -/

namespace DiceChat.Recipes

/-- The code of a function inside another one. -/
def configInner1 : Code :=
  { path := "ConfigManager.save_config.<locals>.<dictcomp>", arguments := 1, stack := 6,
    flags := 19, line := 65, holders := [".0 guild_id config"], names := ["str asdict"],
    constants := [] }

/-- The code of a function inside another one. -/
def configInner2 : Code :=
  { path := "_from_dict.<locals>.<setcomp>", arguments := 1, stack := 3, flags := 19, line := 34,
    holders := [".0 f"], names := ["name"], constants := [] }

/-- The code of a function inside another one. -/
def configInner3 : Code :=
  { path := "_from_dict.<locals>.<dictcomp>", arguments := 1, stack := 4, flags := 19, line := 35,
    holders := [".0 k v"], free := ["known"], constants := [] }

/-- The recipe of what shows a record, before it is guarded against endless work. -/
def programShowing : Recipe where
  collection := "utils.config"
  code :=
    { path := "__create_fn__.<locals>.__repr__", arguments := 1, stack := 10, flags := 19,
      file := "<string>", line := 2, holders := ["self"],
      names := ["__class__ __qualname__ command_prefix sync_commands log_file log_level"],
      constants := [.nothing, .say "(command_prefix=", .say ", sync_commands=",
      .say ", log_file=", .say ", log_level=", .say ")"] }

/-- The recipe of what shows a record, before it is guarded against endless work. -/
def guildShowing : Recipe where
  collection := "utils.config"
  code :=
    { path := "__create_fn__.<locals>.__repr__", arguments := 1, stack := 6, flags := 19,
      file := "<string>", line := 2, holders := ["self"],
      names := ["__class__ __qualname__ single_truncate double_truncate"],
      constants := [.nothing, .say "(single_truncate=", .say ", double_truncate=", .say ")"] }

/-- The recipes of this module, by the titles of their functions. -/
def configRecipes : List (String × Recipe) :=
  [("utils.config.GlobalConfig.__init__",
    { collection := "utils.config"
      code :=
        { path := "__create_fn__.<locals>.__init__", arguments := 5, stack := 2, flags := 19,
          file := "<string>", line := 2,
          holders := ["self command_prefix sync_commands log_file log_level"],
          names := ["command_prefix sync_commands log_file log_level"], constants := [.nothing] }
      defaults := .row [.say "!", .truth false, .say "bot.log", .say "INFO"]
      hints := [entry "command_prefix" (.kind .text), entry "sync_commands" (.kind .truth),
        entry "log_file" (Hint.optionalText), entry "log_level" (.kind .text),
        entry "return" (.nothing)] }),
   ("utils.config.GlobalConfig.__repr__",
    { collection := "dataclasses"
      code :=
        { path := "_recursive_repr.<locals>.wrapper", arguments := 1, stack := 5, flags := 19,
          line := 233, holders := ["self key result"],
          names := ["id _thread get_ident add discard"], free := ["repr_running user_function"],
          constants := [.nothing, .say "..."] }
      shared := .row [cell (.thing (.listed "set") "set()".toList []),
        cell (functionThing "utils.config" programShowing)]
      kept := [entry "__wrapped__" (functionThing "utils.config" programShowing)] }),
   ("utils.config.GlobalConfig.__eq__",
    { collection := "utils.config"
      code :=
        { path := "__create_fn__.<locals>.__eq__", arguments := 2, stack := 5, flags := 19,
          file := "<string>", line := 2, holders := ["self other"],
          names := ["__class__ command_prefix sync_commands log_file log_level NotImplemented"],
          constants := [.nothing] } }),
   ("utils.config.GuildConfig.display_config",
    { collection := "utils.config"
      code :=
        { path := "GuildConfig.display_config", arguments := 1, stack := 4, flags := 3,
          line := 25, holders := ["self"],
          names := ["DisplayConfig single_truncate double_truncate"], constants := [.nothing,
          .row [.say "single_truncate", .say "double_truncate"]] }
      hints := [entry "return" (.kind (.listed "utils.render.DisplayConfig"))] }),
   ("utils.config.GuildConfig.__init__",
    { collection := "utils.config"
      code :=
        { path := "__create_fn__.<locals>.__init__", arguments := 3, stack := 2, flags := 19,
          file := "<string>", line := 2, holders := ["self single_truncate double_truncate"],
          names := ["single_truncate double_truncate"], constants := [.nothing] }
      defaults := .row [.whole 4000, .whole 2000]
      hints := [entry "single_truncate" (.kind .whole), entry "double_truncate" (.kind .whole),
        entry "return" (.nothing)] }),
   ("utils.config.GuildConfig.__repr__",
    { collection := "dataclasses"
      code :=
        { path := "_recursive_repr.<locals>.wrapper", arguments := 1, stack := 5, flags := 19,
          line := 233, holders := ["self key result"],
          names := ["id _thread get_ident add discard"], free := ["repr_running user_function"],
          constants := [.nothing, .say "..."] }
      shared := .row [cell (.thing (.listed "set") "set()".toList []),
        cell (functionThing "utils.config" guildShowing)]
      kept := [entry "__wrapped__" (functionThing "utils.config" guildShowing)] }),
   ("utils.config.GuildConfig.__eq__",
    { collection := "utils.config"
      code :=
        { path := "__create_fn__.<locals>.__eq__", arguments := 2, stack := 3, flags := 19,
          file := "<string>", line := 2, holders := ["self other"],
          names := ["__class__ single_truncate double_truncate NotImplemented"],
          constants := [.nothing] } }),
   ("utils.config.ConfigManager.__init__",
    { collection := "utils.config"
      code :=
        { path := "ConfigManager.__init__", arguments := 2, stack := 2, flags := 3, line := 40,
          holders := ["self config_path"],
          names := ["config_path GlobalConfig global_config guild_configs load_config"],
          constants := [.nothing] }
      defaults := .row [.say "config.json"]
      hints := [entry "config_path" (.kind .text)] }),
   ("utils.config.ConfigManager.load_config",
    { collection := "utils.config"
      code :=
        { path := "ConfigManager.load_config", arguments := 1, stack := 7, flags := 3, line := 46,
          holders := ["self f data guild_data guild_id cfg"], names :=
          ["os path exists config_path open json load _from_dict GlobalConfig get global_config",
          "items GuildConfig guild_configs int save_config"], constants := [.say "加載配置", .say "r",
          .say "utf-8", .row [.say "encoding"], .nothing, .say "global", .say "guilds"] } }),
   ("utils.config.ConfigManager.save_config",
    { collection := "utils.config"
      code :=
        { path := "ConfigManager.save_config", arguments := 1, stack := 7, flags := 3, line := 61,
          holders := ["self data f"],
          names := ["asdict global_config guild_configs items open config_path json dump"],
          constants := [.say "保存配置", configInner1.subject, .row [.say "global", .say "guilds"],
          .say "w", .say "utf-8", .row [.say "encoding"], .truth false, .whole 2,
          .row [.say "ensure_ascii", .say "indent"], .nothing] } }),
   ("utils.config.ConfigManager.get_guild_config",
    { collection := "utils.config"
      code :=
        { path := "ConfigManager.get_guild_config", arguments := 2, stack := 5, flags := 3,
          line := 72, holders := ["self guild_id"], names := ["GuildConfig guild_configs get"],
          constants := [.say "獲取公會配置，私訊使用默認配置"] }
      hints := [entry "guild_id" (Hint.optionalWhole),
        entry "return" (.kind (.listed "utils.config.GuildConfig"))] }),
   ("utils.config.ConfigManager.set_guild_config",
    { collection := "utils.config"
      code :=
        { path := "ConfigManager.set_guild_config", arguments := 3, stack := 3, flags := 3,
          line := 78, holders := ["self guild_id config"], names := ["guild_configs save_config"],
          constants := [.say "設置公會配置", .nothing] }
      hints := [entry "guild_id" (.kind .whole),
        entry "config" (.kind (.listed "utils.config.GuildConfig"))] })]

/-- The functions of configurations that no kind holds. -/
def configMaking : List (String × Recipe) :=
  [("_from_dict",
    { collection := "utils.config"
      code :=
        { path := "_from_dict", arguments := 2, stack := 7, flags := 3, line := 32,
          holders := ["cls data"], names := ["fields items"], cells := ["known"],
          constants := [.say "只取已知欄位，缺少的使用預設值", configInner2.subject, configInner3.subject,
          .row []] }
      hints := [entry "data" (.kind .table)] })]

end DiceChat.Recipes
