import DiceChat.Text.Kind.Entry

/-! Kinds of what reads notation, and of its faults. -/

namespace DiceChat.Catalogue

/-- The kind of faults of notation. -/
def rollParseErrorEntry : KindEntry where
  name := "RollParseError"
  home := "utils.parser"
  above := ["ValueError", "Exception", "BaseException", "object"]
  measures := [80, 0, 1074288128, 16, 72]
  about := ["骰子表達式錯誤的基底類別，fragment 為使用者輸入的片段"]
  parts :=
    partsOf .home ["__module__"] ++
    partsOf .account ["__doc__"] ++
    partsOf .thing ["template"] ++
    partsOf .function ["__init__"] ++
    [⟨"__weakref__", .quality, "", ["list of weak references to the object"]⟩]

/-- The kind of faults of form. -/
def invalidFormatEntry : KindEntry where
  name := "InvalidFormat"
  home := "utils.parser"
  above := ["utils.parser.RollParseError", "ValueError", "Exception", "BaseException", "object"]
  measures := [80, 0, 1074288128, 16, 72]
  about := ["無法辨識的格式"]
  parts :=
    partsOf .home ["__module__"] ++
    partsOf .account ["__doc__"]

/-- The kind of faults of numbers that are too big. -/
def tooBigEntry : KindEntry where
  name := "TooBig"
  home := "utils.parser"
  above := ["utils.parser.RollParseError", "ValueError", "Exception", "BaseException", "object"]
  measures := [80, 0, 1074288128, 16, 72]
  about := ["數字超過 4 位"]
  parts :=
    partsOf .home ["__module__"] ++
    partsOf .account ["__doc__"] ++
    partsOf .thing ["template"]

/-- The kind of faults of numbers that are zero. -/
def cannotBeZeroEntry : KindEntry where
  name := "CannotBeZero"
  home := "utils.parser"
  above := ["utils.parser.RollParseError", "ValueError", "Exception", "BaseException", "object"]
  measures := [80, 0, 1074288128, 16, 72]
  about := ["骰子數量或面數為零"]
  parts :=
    partsOf .home ["__module__"] ++
    partsOf .account ["__doc__"] ++
    partsOf .thing ["template"]

/-- The kind of readers of notation. -/
def rollParserEntry : KindEntry where
  name := "_RollParser"
  home := "utils.parser"
  measures := [24, 0, 546320, -48, 16]
  parts :=
    partsOf .home ["__module__"] ++
    partsOf .function ["__init__ peek skip_whitespace number separator modifier label parse"] ++
    [⟨"__dict__", .quality, "", ["dictionary for instance variables"]⟩,
     ⟨"__weakref__", .quality, "", ["list of weak references to the object"]⟩,
     ⟨"__doc__", .account, "", []⟩]

/-- The kinds of this module. -/
def readersEntries : List KindEntry :=
  [rollParseErrorEntry, invalidFormatEntry, tooBigEntry, cannotBeZeroEntry, rollParserEntry]

end DiceChat.Catalogue
