import DiceChat.Text.Kind.Entry

/-! Kinds of bots. -/

namespace DiceChat.Catalogue

/-- The kind of bots. -/
def diceBotEntry : KindEntry where
  name := "DiceBot"
  home := "bot"
  measures := [24, 0, 546320, -48, 16]
  about := ["擲骰機器人類"]
  parts :=
    partsOf .home ["__module__"] ++
    partsOf .account ["__doc__"] ++
    partsOf .function ["__init__"] ++
    [⟨"setup_events", .function, "", ["設置事件處理器"]⟩,
     ⟨"add_cogs", .function, "", ["添加Cog模塊"]⟩,
     ⟨"start", .function, "", ["啟動機器人"]⟩,
     ⟨"close", .function, "", ["關閉機器人"]⟩,
     ⟨"__dict__", .quality, "", ["dictionary for instance variables"]⟩,
     ⟨"__weakref__", .quality, "", ["list of weak references to the object"]⟩]

/-- The kind of the commands that roll. -/
def diceCogEntry : KindEntry where
  name := "DiceCog"
  home := "cogs.dice_cog"
  ofKind := "discord.ext.commands.cog.CogMeta"
  above := ["discord.ext.commands.cog.Cog", "object"]
  measures := [24, 0, 546320, -48, 16]
  about := ["骰子相關指令"]
  parts :=
    partsOf .home ["__module__"] ++
    partsOf .account ["__doc__"] ++
    partsOf .function ["__init__"]

/-- The kind of the command that helps. -/
def helpCogEntry : KindEntry where
  name := "HelpCog"
  home := "cogs.help_cog"
  ofKind := "discord.ext.commands.cog.CogMeta"
  above := ["discord.ext.commands.cog.Cog", "object"]
  measures := [24, 0, 546320, -48, 16]
  about := ["幫助相關指令"]
  parts :=
    partsOf .home ["__module__"] ++
    partsOf .account ["__doc__"] ++
    partsOf .function ["__init__"]

/-- The kind of the command that sets budgets. -/
def settingsCogEntry : KindEntry where
  name := "SettingsCog"
  home := "cogs.settings_cog"
  ofKind := "discord.ext.commands.cog.CogMeta"
  above := ["discord.ext.commands.cog.Cog", "object"]
  measures := [24, 0, 546320, -48, 16]
  about := ["服務器設定指令"]
  parts :=
    partsOf .home ["__module__"] ++
    partsOf .account ["__doc__"] ++
    partsOf .function ["__init__"]

/-- The kinds of this module. -/
def chatsEntries : List KindEntry :=
  [diceBotEntry, diceCogEntry, helpCogEntry, settingsCogEntry]

end DiceChat.Catalogue
