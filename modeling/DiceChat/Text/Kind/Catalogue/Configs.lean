import DiceChat.Text.Kind.Entry

/-! Kinds of configurations. -/

namespace DiceChat.Catalogue

/-- The kind of configurations of the program. -/
def globalConfigEntry : KindEntry where
  name := "GlobalConfig"
  home := "utils.config"
  measures := [24, 0, 546320, -48, 16]
  about := ["全局配置"]
  parts :=
    partsOf .home ["__module__"] ++
    partsOf .thing ["__annotations__"] ++
    partsOf .account ["__doc__"] ++
    partsOf .thing ["command_prefix sync_commands log_file log_level"] ++
    [⟨"__dict__", .quality, "", ["dictionary for instance variables"]⟩,
     ⟨"__weakref__", .quality, "", ["list of weak references to the object"]⟩] ++
    partsOf .thing ["__dataclass_params__ __dataclass_fields__"] ++
    partsOf .function ["__init__ __repr__ __eq__"] ++
    partsOf .nothing ["__hash__"] ++
    partsOf .thing ["__match_args__"]

/-- The kind of configurations of guilds. -/
def guildConfigEntry : KindEntry where
  name := "GuildConfig"
  home := "utils.config"
  measures := [24, 0, 546320, -48, 16]
  about := ["公會配置"]
  parts :=
    partsOf .home ["__module__"] ++
    partsOf .thing ["__annotations__"] ++
    partsOf .account ["__doc__"] ++
    partsOf .thing ["single_truncate double_truncate"] ++
    partsOf .function ["display_config"] ++
    [⟨"__dict__", .quality, "", ["dictionary for instance variables"]⟩,
     ⟨"__weakref__", .quality, "", ["list of weak references to the object"]⟩] ++
    partsOf .thing ["__dataclass_params__ __dataclass_fields__"] ++
    partsOf .function ["__init__ __repr__ __eq__"] ++
    partsOf .nothing ["__hash__"] ++
    partsOf .thing ["__match_args__"]

/-- The kind of stores. -/
def configManagerEntry : KindEntry where
  name := "ConfigManager"
  home := "utils.config"
  measures := [24, 0, 546320, -48, 16]
  about := ["配置管理器"]
  parts :=
    partsOf .home ["__module__"] ++
    partsOf .account ["__doc__"] ++
    partsOf .function ["__init__"] ++
    [⟨"load_config", .function, "", ["加載配置"]⟩,
     ⟨"save_config", .function, "", ["保存配置"]⟩,
     ⟨"get_guild_config", .function, "", ["獲取公會配置，私訊使用默認配置"]⟩,
     ⟨"set_guild_config", .function, "", ["設置公會配置"]⟩,
     ⟨"__dict__", .quality, "", ["dictionary for instance variables"]⟩,
     ⟨"__weakref__", .quality, "", ["list of weak references to the object"]⟩]

/-- The kinds of this module. -/
def configsEntries : List KindEntry :=
  [globalConfigEntry, guildConfigEntry, configManagerEntry]

end DiceChat.Catalogue
