import DiceChat.Text.Kind.Entry

/-! Kinds of loggers. -/

namespace DiceChat.Catalogue

/-- The kind of loggers. -/
def botLoggerEntry : KindEntry where
  name := "BotLogger"
  home := "utils.logger"
  measures := [24, 0, 546320, -48, 16]
  about := ["自定義日誌系統"]
  parts :=
    partsOf .home ["__module__"] ++
    partsOf .account ["__doc__"] ++
    partsOf .function ["__init__"] ++
    [⟨"info", .function, "", ["記錄信息級別日誌"]⟩,
     ⟨"warning", .function, "", ["記錄警告級別日誌"]⟩,
     ⟨"error", .function, "", ["記錄錯誤級別日誌"]⟩,
     ⟨"exception", .function, "", ["記錄錯誤及堆疊"]⟩,
     ⟨"debug", .function, "", ["記錄調試級別日誌"]⟩,
     ⟨"__dict__", .quality, "", ["dictionary for instance variables"]⟩,
     ⟨"__weakref__", .quality, "", ["list of weak references to the object"]⟩]

/-- The kinds of this module. -/
def loggersEntries : List KindEntry :=
  [botLoggerEntry]

end DiceChat.Catalogue
