import DiceChat.Text.Template.Marks

/-! Recipes of the functions that display sessions. -/

namespace DiceChat.Recipes

/-- The code of a function inside another one. -/
def displayInner1 : Code :=
  { path := "format_results.<locals>.<genexpr>", arguments := 1, stack := 4, flags := 51,
    line := 45, holders := [".0 r"], names := ["str"], constants := [.nothing] }

/-- The recipe of what shows a record, before it is guarded against endless work. -/
def displayShowing : Recipe where
  collection := "utils.render"
  code :=
    { path := "__create_fn__.<locals>.__repr__", arguments := 1, stack := 6, flags := 19,
      file := "<string>", line := 2, holders := ["self"],
      names := ["__class__ __qualname__ single_truncate double_truncate"],
      constants := [.nothing, .say "(single_truncate=", .say ", double_truncate=", .say ")"] }

/-- The recipe of what shows a record, before it is guarded against endless work. -/
def markupShowing : Recipe where
  collection := "utils.render"
  code :=
    { path := "__create_fn__.<locals>.__repr__", arguments := 1, stack := 8, flags := 19,
      file := "<string>", line := 2, holders := ["self"],
      names := ["__class__ __qualname__ bold strike underline"], constants := [.nothing,
      .say "(bold=", .say ", strike=", .say ", underline=", .say ")"] }

/-- The recipe of what shows a record, before it is guarded against endless work. -/
def renderedShowing : Recipe where
  collection := "utils.render"
  code :=
    { path := "__create_fn__.<locals>.__repr__", arguments := 1, stack := 6, flags := 19,
      file := "<string>", line := 2, holders := ["self"],
      names := ["__class__ __qualname__ text record"], constants := [.nothing, .say "(text=",
      .say ", record=", .say ")"] }

/-- The recipes of this module, by the titles of their functions. -/
def displayRecipes : List (String × Recipe) :=
  [("utils.render.DisplayConfig.__init__",
    { collection := "utils.render"
      code :=
        { path := "__create_fn__.<locals>.__init__", arguments := 3, stack := 5, flags := 19,
          file := "<string>", line := 2, holders := ["self single_truncate double_truncate"],
          names := ["__setattr__"], free := ["__dataclass_builtins_object__"],
          constants := [.nothing, .say "single_truncate", .say "double_truncate"] }
      defaults := .row [.whole 4000, .whole 2000]
      hints := [entry "single_truncate" (.kind .whole), entry "double_truncate" (.kind .whole),
        entry "return" (.nothing)]
      shared := .row [cell (.kind .anything)] }),
   ("utils.render.DisplayConfig.__repr__",
    { collection := "dataclasses"
      code :=
        { path := "_recursive_repr.<locals>.wrapper", arguments := 1, stack := 5, flags := 19,
          line := 233, holders := ["self key result"],
          names := ["id _thread get_ident add discard"], free := ["repr_running user_function"],
          constants := [.nothing, .say "..."] }
      shared := .row [cell (.thing (.listed "set") "set()".toList []),
        cell (functionThing "utils.render" displayShowing)]
      kept := [entry "__wrapped__" (functionThing "utils.render" displayShowing)] }),
   ("utils.render.DisplayConfig.__eq__",
    { collection := "utils.render"
      code :=
        { path := "__create_fn__.<locals>.__eq__", arguments := 2, stack := 3, flags := 19,
          file := "<string>", line := 2, holders := ["self other"],
          names := ["__class__ single_truncate double_truncate NotImplemented"],
          constants := [.nothing] } }),
   ("utils.render.DisplayConfig.__setattr__",
    { collection := "utils.render"
      code :=
        { path := "__create_fn__.<locals>.__setattr__", arguments := 3, stack := 4, flags := 19,
          file := "<string>", line := 2, holders := ["self name value"],
          names := ["type super __setattr__"], free := ["FrozenInstanceError cls"],
          constants := [.nothing, .row [.say "single_truncate", .say "double_truncate"],
          .say "cannot assign to field "] }
      shared := .row [cell (.kind (.listed "dataclasses.FrozenInstanceError")),
        cell (.kind (.listed "utils.render.DisplayConfig"))] }),
   ("utils.render.DisplayConfig.__delattr__",
    { collection := "utils.render"
      code :=
        { path := "__create_fn__.<locals>.__delattr__", arguments := 2, stack := 4, flags := 19,
          file := "<string>", line := 2, holders := ["self name"],
          names := ["type super __delattr__"], free := ["FrozenInstanceError cls"],
          constants := [.nothing, .row [.say "single_truncate", .say "double_truncate"],
          .say "cannot delete field "] }
      shared := .row [cell (.kind (.listed "dataclasses.FrozenInstanceError")),
        cell (.kind (.listed "utils.render.DisplayConfig"))] }),
   ("utils.render.DisplayConfig.__hash__",
    { collection := "utils.render"
      code :=
        { path := "__create_fn__.<locals>.__hash__", arguments := 1, stack := 4, flags := 19,
          file := "<string>", line := 2, holders := ["self"],
          names := ["hash single_truncate double_truncate"], constants := [.nothing] } }),
   ("utils.render.Markup.__init__",
    { collection := "utils.render"
      code :=
        { path := "__create_fn__.<locals>.__init__", arguments := 4, stack := 5, flags := 19,
          file := "<string>", line := 2, holders := ["self bold strike underline"],
          names := ["__setattr__"], free := ["__dataclass_builtins_object__"],
          constants := [.nothing, .say "bold", .say "strike", .say "underline"] }
      hints := [entry "bold" (.kind .text), entry "strike" (.kind .text),
        entry "underline" (.kind .text), entry "return" (.nothing)]
      shared := .row [cell (.kind .anything)] }),
   ("utils.render.Markup.__repr__",
    { collection := "dataclasses"
      code :=
        { path := "_recursive_repr.<locals>.wrapper", arguments := 1, stack := 5, flags := 19,
          line := 233, holders := ["self key result"],
          names := ["id _thread get_ident add discard"], free := ["repr_running user_function"],
          constants := [.nothing, .say "..."] }
      shared := .row [cell (.thing (.listed "set") "set()".toList []),
        cell (functionThing "utils.render" markupShowing)]
      kept := [entry "__wrapped__" (functionThing "utils.render" markupShowing)] }),
   ("utils.render.Markup.__eq__",
    { collection := "utils.render"
      code :=
        { path := "__create_fn__.<locals>.__eq__", arguments := 2, stack := 4, flags := 19,
          file := "<string>", line := 2, holders := ["self other"],
          names := ["__class__ bold strike underline NotImplemented"], constants := [.nothing] } }),
   ("utils.render.Markup.__setattr__",
    { collection := "utils.render"
      code :=
        { path := "__create_fn__.<locals>.__setattr__", arguments := 3, stack := 4, flags := 19,
          file := "<string>", line := 2, holders := ["self name value"],
          names := ["type super __setattr__"], free := ["FrozenInstanceError cls"],
          constants := [.nothing, .row [.say "bold", .say "strike", .say "underline"],
          .say "cannot assign to field "] }
      shared := .row [cell (.kind (.listed "dataclasses.FrozenInstanceError")),
        cell (.kind (.listed "utils.render.Markup"))] }),
   ("utils.render.Markup.__delattr__",
    { collection := "utils.render"
      code :=
        { path := "__create_fn__.<locals>.__delattr__", arguments := 2, stack := 4, flags := 19,
          file := "<string>", line := 2, holders := ["self name"],
          names := ["type super __delattr__"], free := ["FrozenInstanceError cls"],
          constants := [.nothing, .row [.say "bold", .say "strike", .say "underline"],
          .say "cannot delete field "] }
      shared := .row [cell (.kind (.listed "dataclasses.FrozenInstanceError")),
        cell (.kind (.listed "utils.render.Markup"))] }),
   ("utils.render.Markup.__hash__",
    { collection := "utils.render"
      code :=
        { path := "__create_fn__.<locals>.__hash__", arguments := 1, stack := 5, flags := 19,
          file := "<string>", line := 2, holders := ["self"],
          names := ["hash bold strike underline"], constants := [.nothing] } }),
   ("utils.render.RenderedRoll.__init__",
    { collection := "utils.render"
      code :=
        { path := "__create_fn__.<locals>.__init__", arguments := 3, stack := 5, flags := 19,
          file := "<string>", line := 2, holders := ["self text record"],
          names := ["__setattr__"], free := ["__dataclass_builtins_object__"],
          constants := [.nothing, .say "text", .say "record"] }
      defaults := .row [.nothing]
      hints := [entry "text" (.kind .text), entry "record" (Hint.optionalOf (Hint.record)),
        entry "return" (.nothing)]
      shared := .row [cell (.kind .anything)] }),
   ("utils.render.RenderedRoll.__repr__",
    { collection := "dataclasses"
      code :=
        { path := "_recursive_repr.<locals>.wrapper", arguments := 1, stack := 5, flags := 19,
          line := 233, holders := ["self key result"],
          names := ["id _thread get_ident add discard"], free := ["repr_running user_function"],
          constants := [.nothing, .say "..."] }
      shared := .row [cell (.thing (.listed "set") "set()".toList []),
        cell (functionThing "utils.render" renderedShowing)]
      kept := [entry "__wrapped__" (functionThing "utils.render" renderedShowing)] }),
   ("utils.render.RenderedRoll.__eq__",
    { collection := "utils.render"
      code :=
        { path := "__create_fn__.<locals>.__eq__", arguments := 2, stack := 3, flags := 19,
          file := "<string>", line := 2, holders := ["self other"],
          names := ["__class__ text record NotImplemented"], constants := [.nothing] } }),
   ("utils.render.RenderedRoll.__setattr__",
    { collection := "utils.render"
      code :=
        { path := "__create_fn__.<locals>.__setattr__", arguments := 3, stack := 4, flags := 19,
          file := "<string>", line := 2, holders := ["self name value"],
          names := ["type super __setattr__"], free := ["FrozenInstanceError cls"],
          constants := [.nothing, .row [.say "text", .say "record"],
          .say "cannot assign to field "] }
      shared := .row [cell (.kind (.listed "dataclasses.FrozenInstanceError")),
        cell (.kind (.listed "utils.render.RenderedRoll"))] }),
   ("utils.render.RenderedRoll.__delattr__",
    { collection := "utils.render"
      code :=
        { path := "__create_fn__.<locals>.__delattr__", arguments := 2, stack := 4, flags := 19,
          file := "<string>", line := 2, holders := ["self name"],
          names := ["type super __delattr__"], free := ["FrozenInstanceError cls"],
          constants := [.nothing, .row [.say "text", .say "record"],
          .say "cannot delete field "] }
      shared := .row [cell (.kind (.listed "dataclasses.FrozenInstanceError")),
        cell (.kind (.listed "utils.render.RenderedRoll"))] }),
   ("utils.render.RenderedRoll.__hash__",
    { collection := "utils.render"
      code :=
        { path := "__create_fn__.<locals>.__hash__", arguments := 1, stack := 4, flags := 19,
          file := "<string>", line := 2, holders := ["self"], names := ["hash text record"],
          constants := [.nothing] } })]

/-- The functions that display sessions. -/
def displayMaking : List (String × Recipe) :=
  [("format_results",
    { collection := "utils.render"
      code :=
        { path := "format_results", arguments := 1, stack := 4, flags := 3, line := 44,
          holders := ["roll"], names := ["join rolls"], constants := [.nothing, .say " + ",
          displayInner1.subject] }
      hints := [entry "roll" (.kind (.listed "models.types.Roll")),
        entry "return" (.kind .text)] }),
   ("truncate",
    { collection := "utils.render"
      code :=
        { path := "truncate", arguments := 2, stack := 3, flags := 3, line := 48,
          holders := ["text limit"], names := ["len ELLIPSIS"], constants := [.nothing] }
      hints := [entry "text" (.kind .text), entry "limit" (Hint.optionalWhole),
        entry "return" (.kind .text)] }),
   ("format_roll",
    { collection := "utils.render"
      code :=
        { path := "format_roll", arguments := 2, stack := 5, flags := 3, line := 54,
          holders := ["roll limit results"],
          names := ["truncate format_results settings format_modifier"],
          constants := [.say "格式化單次嘗試，例如 \"(3 + 5) + 2\" ", .say "(", .say ")"] }
      defaults := .row [.nothing]
      hints := [entry "roll" (.kind (.listed "models.types.Roll")),
        entry "limit" (Hint.optionalWhole), entry "return" (.kind .text)] }),
   ("format_final",
    { collection := "utils.render"
      code :=
        { path := "format_final", arguments := 2, stack := 4, flags := 3, line := 60,
          holders := ["total markup"], names := ["bold format"], constants := [.nothing,
          .say "Your final roll is: 🎲 ", .say " 🎲"] }
      hints := [entry "total" (.kind .whole),
        entry "markup" (.kind (.listed "utils.render.Markup")), entry "return" (.kind .text)] }),
   ("format_roll_results",
    { collection := "utils.render"
      code :=
        { path := "format_roll_results", arguments := 3, stack := 8, flags := 3, line := 64,
          holders := ["results display markup settings lines index number name roll line"],
          names :=
          ["DisplayConfig settings try_two format_roll try_one single_truncate results_index",
          "underline format roll_type enumerate zip ATTEMPT_NAMES attempts double_truncate",
          "strike append format_final result total join"], constants := [.say "格式化整個擲骰請求的顯示文字",
          .nothing, .say "Parameters: ", .say "Roll: ", .say " with ", .whole 1,
          .row [.say "start"], .say "Attempt ", .say ": ", .sayLines ["", ""]] }
      defaults := .row [.nothing, htmlMarkup]
      hints := [entry "results" (.kind (.listed "models.types.RollResults")),
        entry "display" (Hint.optionalOf (.kind (.listed "utils.render.DisplayConfig"))),
        entry "markup" (.kind (.listed "utils.render.Markup")), entry "return" (.kind .text)] }),
   ("fit_display",
    { collection := "utils.render"
      code :=
        { path := "fit_display", arguments := 4, stack := 8, flags := 3, line := 88,
          holders := ["results limit display markup bare room"], names :=
          ["DisplayConfig format_roll_results max len min single_truncate double_truncate"],
          constants := [.sayLines ["", "    縮小截斷上限，讓整段顯示文字不超過 limit 個字元", "",
          "    以上限 0 渲染一次即可得到固定部分的長度（每次嘗試的 \"...\" 已包含在內）。", "    "], .whole 0,
          .row [.say "single_truncate", .say "double_truncate"], .whole 2] }
      defaults := .row [.nothing, htmlMarkup]
      hints := [entry "results" (.kind (.listed "models.types.RollResults")),
        entry "limit" (.kind .whole),
        entry "display" (Hint.optionalOf (.kind (.listed "utils.render.DisplayConfig"))),
        entry "markup" (.kind (.listed "utils.render.Markup")),
        entry "return" (.kind (.listed "utils.render.DisplayConfig"))] }),
   ("roll_record",
    { collection := "utils.render"
      code :=
        { path := "roll_record", arguments := 2, stack := 4, flags := 3, line := 104,
          holders := ["results view"], names := ["result to_dict ValueError"],
          constants := [.sayLines ["", "    可序列化的結果", "",
          "    view=\"legacy\" 只輸出採用的那次結果（rolls/total/settings，無 label），",
          "    view=\"session\" 輸出整個請求。", "    "], .say "legacy", .truth false,
          .row [.say "with_label"], .say "session", .say "Unknown record view: "] }
      defaults := .row [.say "session"]
      hints := [entry "results" (.kind (.listed "models.types.RollResults")),
        entry "view" (.kind .text), entry "return" (Hint.record)] }),
   ("dump_record",
    { collection := "utils.render"
      code :=
        { path := "dump_record", arguments := 1, stack := 5, flags := 3, line := 118,
          holders := ["record"], names := ["json dumps"], constants := [.nothing, .truth false,
          .whole 2, .row [.say "ensure_ascii", .say "indent"]] }
      hints := [entry "record" (Hint.record), entry "return" (.kind .text)] }),
   ("render_roll",
    { collection := "utils.render"
      code :=
        { path := "render_roll", arguments := 5, stack := 5, flags := 3, line := 122,
          holders := ["results display markup with_record view text record"],
          names := ["format_roll_results roll_record RenderedRoll"],
          constants := [.say "顯示文字，加上（可選的）資料輸出", .nothing, .row [.say "text", .say "record"]] }
      defaults := .row [.nothing, htmlMarkup, .truth false, .say "session"]
      hints := [entry "results" (.kind (.listed "models.types.RollResults")),
        entry "display" (Hint.optionalOf (.kind (.listed "utils.render.DisplayConfig"))),
        entry "markup" (.kind (.listed "utils.render.Markup")),
        entry "with_record" (.kind .truth), entry "view" (.kind .text),
        entry "return" (.kind (.listed "utils.render.RenderedRoll"))] })]

end DiceChat.Recipes
