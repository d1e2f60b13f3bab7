import DiceChat.Text.Template.Hint

/-! Recipes of the functions that read notation. -/

namespace DiceChat.Recipes

/-- The recipes of this module, by the titles of their functions. -/
def readerRecipes : List (String × Recipe) :=
  [("utils.parser.RollParseError.__init__",
    { collection := "utils.parser"
      code :=
        { path := "RollParseError.__init__", arguments := 2, stack := 5, flags := 3, line := 24,
          holders := ["self fragment"], names := ["fragment super __init__ template format"],
          free := ["__class__"], constants := [.nothing] }
      hints := [entry "fragment" (.kind .text)]
      shared := .row [cell (.kind (.listed "utils.parser.RollParseError"))] }),
   ("utils.parser._RollParser.__init__",
    { collection := "utils.parser"
      code :=
        { path := "_RollParser.__init__", arguments := 2, stack := 2, flags := 3, line := 44,
          holders := ["self text"], names := ["text strip fragment pos"], constants := [.nothing,
          .whole 0] }
      hints := [entry "text" (.kind .text)] }),
   ("utils.parser._RollParser.peek",
    { collection := "utils.parser"
      code :=
        { path := "_RollParser.peek", arguments := 1, stack := 4, flags := 3, line := 49,
          holders := ["self"], names := ["pos len text"], constants := [.nothing, .say ""] }
      hints := [entry "return" (.kind .text)] }),
   ("utils.parser._RollParser.skip_whitespace",
    { collection := "utils.parser"
      code :=
        { path := "_RollParser.skip_whitespace", arguments := 1, stack := 3, flags := 3,
          line := 54, holders := ["self"], names := ["peek isspace pos"], constants := [.nothing,
          .whole 1] } }),
   ("utils.parser._RollParser.number",
    { collection := "utils.parser"
      code :=
        { path := "_RollParser.number", arguments := 1, stack := 3, flags := 3, line := 58,
          holders := ["self digits mark ch"], names :=
          ["pos skip_whitespace peek string digits len MAX_DIGITS TooBig fragment InvalidFormat",
          "int"], constants := [.nothing, .say "", .truth true, .whole 1] }
      hints := [entry "return" (.kind .whole)] }),
   ("utils.parser._RollParser.separator",
    { collection := "utils.parser"
      code :=
        { path := "_RollParser.separator", arguments := 1, stack := 3, flags := 3, line := 77,
          holders := ["self"], names := ["skip_whitespace peek InvalidFormat fragment pos"],
          constants := [.nothing, .row [.say "d", .say "D"], .whole 1] } }),
   ("utils.parser._RollParser.modifier",
    { collection := "utils.parser"
      code :=
        { path := "_RollParser.modifier", arguments := 1, stack := 3, flags := 3, line := 83,
          holders := ["self mark sign value"], names := ["pos skip_whitespace peek number"],
          constants := [.nothing, .row [.say "+", .say "-"], .whole 1, .whole 0, .say "-"] }
      hints := [entry "return" (Hint.optionalWhole)] }),
   ("utils.parser._RollParser.label",
    { collection := "utils.parser"
      code :=
        { path := "_RollParser.label", arguments := 1, stack := 3, flags := 3, line := 96,
          holders := ["self rest"], names := ["text pos strip len"], constants := [.nothing] }
      hints := [entry "return" (Hint.optionalText)] }),
   ("utils.parser._RollParser.parse",
    { collection := "utils.parser"
      code :=
        { path := "_RollParser.parse", arguments := 1, stack := 6, flags := 3, line := 101,
          holders := ["self number sides modifier label"],
          names := ["number separator modifier label CannotBeZero fragment RollSettings"],
          constants := [.nothing, .whole 0, .row [.say "number", .say "sides", .say "modifier",
          .say "label"]] }
      hints := [entry "return" (.kind (.listed "models.types.RollSettings"))] })]

/-- The functions that read notation. -/
def readerMaking : List (String × Recipe) :=
  [("parse_roll",
    { collection := "utils.parser"
      code :=
        { path := "parse_roll", arguments := 1, stack := 7, flags := 3, line := 114,
          holders := ["text logger settings e"],
          names := ["get_logger debug _RollParser parse RollParseError warning"],
          constants := [.sayLines ["", "    解析骰子表達式，比如 \"2d6+3 Fire damage\"", "",
          "    失敗時拋出 RollParseError 的子類別。", "    "], .say "Parsing input ", .say "無法解析骰子表達式 ",
          .say ": ", .nothing, .say "Parsed ", .say " as "] }
      hints := [entry "text" (.kind .text),
        entry "return" (.kind (.listed "models.types.RollSettings"))] })]

end DiceChat.Recipes
