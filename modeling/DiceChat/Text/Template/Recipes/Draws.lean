import DiceChat.Text.Template.Hint

/-! Recipes of the functions that draw dice. -/

namespace DiceChat.Recipes

/-- The code of a function inside another one. -/
def drawInner1 : Code :=
  { path := "roll_dice.<locals>.<genexpr>", arguments := 1, stack := 5, flags := 51, line := 14,
    holders := [".0 _"], names := ["roll_single_dice sides"], free := ["rng settings"],
    constants := [.nothing] }

/-- The functions that draw dice. -/
def drawMaking : List (String × Recipe) :=
  [("roll_single_dice",
    { collection := "utils.dice"
      code :=
        { path := "roll_single_dice", arguments := 2, stack := 4, flags := 3, line := 7,
          holders := ["sides rng"], names := ["random randint"], constants := [.say "擲單個骰子",
          .whole 1] }
      defaults := .row [.nothing]
      hints := [entry "sides" (.kind .whole),
        entry "rng" (Hint.optionalOf (.kind (.listed "random.Random"))),
        entry "return" (.kind .whole)] }),
   ("roll_dice",
    { collection := "utils.dice"
      code :=
        { path := "roll_dice", arguments := 2, stack := 6, flags := 3, line := 12,
          holders := ["settings rng rolls total"],
          names := ["tuple range number sum modifier Roll"], cells := ["settings rng"],
          constants := [.say "擲骰子並返回結果，骰子順序即擲出順序", drawInner1.subject, .nothing,
          .row [.say "rolls", .say "total", .say "settings"]] }
      defaults := .row [.nothing]
      hints := [entry "settings" (.kind (.listed "models.types.RollSettings")),
        entry "rng" (Hint.optionalOf (.kind (.listed "random.Random"))),
        entry "return" (.kind (.listed "models.types.Roll"))] }),
   ("roll_session",
    { collection := "utils.dice"
      code :=
        { path := "roll_session", arguments := 3, stack := 6, flags := 3, line := 23,
          holders := ["settings roll_type rng try_one try_two"],
          names := ["roll_dice RollType STRAIGHT RollResults"], constants := [.sayLines ["",
          "    按模式擲骰：普通擲一次，優勢/劣勢各自獨立擲兩次", "    "], .nothing, .row [.say "roll_type",
          .say "try_one", .say "try_two", .say "settings"]] }
      defaults := .row [.nothing]
      hints := [entry "settings" (.kind (.listed "models.types.RollSettings")),
        entry "roll_type" (.kind (.memberOf Mode.family)),
        entry "rng" (Hint.optionalOf (.kind (.listed "random.Random"))),
        entry "return" (.kind (.listed "models.types.RollResults"))] })]

end DiceChat.Recipes
