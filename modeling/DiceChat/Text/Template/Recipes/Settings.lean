import DiceChat.Text.Template.Hint

/-! Recipes of the functions of settings. -/

namespace DiceChat.Recipes

/-- The recipe of what shows a record, before it is guarded against endless work. -/
def settingsShowing : Recipe where
  collection := "models.types"
  code :=
    { path := "__create_fn__.<locals>.__repr__", arguments := 1, stack := 10, flags := 19,
      file := "<string>", line := 2, holders := ["self"],
      names := ["__class__ __qualname__ number sides modifier label"], constants := [.nothing,
      .say "(number=", .say ", sides=", .say ", modifier=", .say ", label=", .say ")"],
      steps := ["97007c006a0000000000000000006a01000000000000000064017c006a02000000000000",
      "00009b0264027c006a0300000000000000009b0264037c006a0400000000000000009b02",
      "64047c006a0500000000000000009b0264059d097a0000005300"],
      places := ["8000d8090d8c1ed40924f00000284b02b024b42bf00000284b02f00000284b02c814cc1a",
      "f00000284b02f00000284b02d06266d4626ff00000284b02f00000284b02d07b7ff40000",
      "7c014602f00000284b02f00000284b02f00000284b02f100000a4b02f00000034b02"],
      lines := ["0201"] }

/-- The recipes of this module, by the titles of their functions. -/
def settingsRecipes : List (String × Recipe) :=
  [("models.types.RollSettings.from_str",
    { collection := "models.types"
      code :=
        { path := "RollSettings.from_str", arguments := 2, stack := 3, flags := 3, line := 14,
          holders := ["cls text parse_roll"], names := ["utils.parser parse_roll"],
          constants := [.say "從文字解析骰子配置", .whole 0, .row [.say "parse_roll"]],
          steps := ["9700640164026c006d017d02010002007c027c01a6010000ab0100000000000000005300"],
          places := ["8000f00600092cd0082bd0082bd0082bd0082bd0082bd80f19887a9824d10f1fd40f1fd0",
          "081f"], lines := ["02030c01"] }
      hints := [entry "text" (.kind .text), entry "return" (.say "RollSettings")] }),
   ("models.types.RollSettings.format_modifier",
    { collection := "models.types"
      code :=
        { path := "RollSettings.format_modifier", arguments := 1, stack := 2, flags := 3,
          line := 20, holders := ["self"], names := ["modifier"], constants := [.nothing, .say "",
          .whole 0, .say " + ", .say " - "],
          steps := ["97007c006a0000000000000000008002640153007c006a00000000000000000064026b04",
          "00000000720a64037c006a0000000000000000009b009d02530064047c006a0000000000",
          "000000000b009b009d025300"],
          places := ["8000d80b0f8c3dd00b20d813159032d80b0f8c3d9831d20b1cd00b1cd8132898149c1dd0",
          "1328d01328d00c28d80f259064946d905ed00f25d00f25d00825"],
          lines := ["02010e01040116011401"] }
      hints := [entry "return" (.kind .text)] }),
   ("models.types.RollSettings.format_parameters",
    { collection := "models.types"
      code :=
        { path := "RollSettings.format_parameters", arguments := 1, stack := 5, flags := 3,
          line := 27, holders := ["self"], names := ["number sides format_modifier"],
          constants := [.nothing, .say "d"],
          steps := ["97007c006a0000000000000000009b0064017c006a0100000000000000009b007c00a002",
          "0000000000000000000000000000000000000000a6000000ab0000000000000000009b00", "9d045300"],
          places := ["8000d81216942bd00f44d00f44a004a40ad00f44a844d72c40d22c40d12c42d42c42d00f",
          "44d00f44d00844"], lines := ["0201"] }
      hints := [entry "return" (.kind .text)] }),
   ("models.types.RollSettings.__str__",
    { collection := "models.types"
      code :=
        { path := "RollSettings.__str__", arguments := 1, stack := 2, flags := 3, line := 30,
          holders := ["self"], names := ["format_parameters"], constants := [.nothing],
          steps := ["97007c00a0000000000000000000000000000000000000000000a6000000ab0000000000",
          "000000005300"], places := ["8000d80f13d70f25d20f25d10f27d40f27d00827"],
          lines := ["0201"] }
      hints := [entry "return" (.kind .text)] }),
   ("models.types.RollSettings.to_dict",
    { collection := "models.types"
      code :=
        { path := "RollSettings.to_dict", arguments := 2, stack := 4, flags := 3, line := 33,
          holders := ["self with_label data"], names := ["number sides modifier label"],
          constants := [.nothing, .row [.say "number", .say "sides", .say "modifier"],
          .say "label"],
          steps := ["97007c006a0000000000000000007c006a0100000000000000007c006a02000000000000",
          "000064019c037d027c01720a7c006a0300000000000000007c0264023c0000007c025300"],
          places := ["8000e0161a946bd81519945ad8181c9c0df00704200af00004200a8804f00a000c16f000",
          "010927d81c209c4a88449017894dd80f13880b"], lines := ["02020c010c010cfd060504011401"] }
      defaults := .row [.truth true]
      hints := [entry "with_label" (.kind .truth), entry "return" (Hint.record)] }),
   ("models.types.RollSettings.from_dict",
    { collection := "models.types"
      code :=
        { path := "RollSettings.from_dict", arguments := 2, stack := 8, flags := 3, line := 43,
          holders := ["cls data"], names := ["int get"], constants := [.nothing, .say "number",
          .say "sides", .say "modifier", .say "label", .row [.say "number", .say "sides",
          .say "modifier", .say "label"]],
          steps := ["970002007c007401000000000000000000007c01640119000000000000000000a6010000",
          "ab0100000000000000007401000000000000000000007c01640219000000000000000000",
          "a6010000ab0100000000000000007c01a001000000000000000000000000000000000000",
          "00006403a6010000ab0100000000000000007c01a0010000000000000000000000000000",
          "0000000000006404a6010000ab010000000000000000ac05a6040000ab04000000000000", "00005300"],
          places := ["8000e00f128873dd131690749848947ed11326d41326dd121590649837946dd11224d412",
          "24d8151997589258986ad11529d41529d81216972892289837d11223d41223f00905100a",
          "f10005100af40005100af00005090a"], lines := ["0202040128012801280128fc"] }
      hints := [entry "data" (Hint.record), entry "return" (.say "RollSettings")] }),
   ("models.types.RollSettings.__init__",
    { collection := "models.types"
      code :=
        { path := "__create_fn__.<locals>.__init__", arguments := 5, stack := 5, flags := 19,
          file := "<string>", line := 2, holders := ["self number sides modifier label"],
          names := ["__setattr__"], free := ["__dataclass_builtins_object__"],
          constants := [.nothing, .say "number", .say "sides", .say "modifier", .say "label"],
          steps := ["950197008905a00000000000000000000000000000000000000000007c0064017c01a603",
          "0000ab03000000000000000001008905a000000000000000000000000000000000000000",
          "00007c0064027c02a6030000ab03000000000000000001008905a0000000000000000000",
          "0000000000000000000000007c0064037c03a6030000ab03000000000000000001008905",
          "a00000000000000000000000000000000000000000007c0064047c04a6030000ab030000",
          "000000000000010064005300"],
          places := ["f88000d8021fd7022bd2022ba844b018b826d10241d40241d00241d8021fd7022bd2022b",
          "a844b017b815d1023fd4023fd0023fd8021fd7022bd2022ba844b01ab848d10245d40245",
          "d00245d8021fd7022bd2022ba844b017b815d1023fd4023fd0023fd0023fd0023f"],
          lines := ["04012e012e012e01"] }
      defaults := .row [.nothing, .nothing]
      hints := [entry "number" (.kind .whole), entry "sides" (.kind .whole),
        entry "modifier" (Hint.optionalWhole), entry "label" (Hint.optionalText),
        entry "return" (.nothing)]
      shared := .row [cell (.kind .anything)] }),
   ("models.types.RollSettings.__repr__",
    { collection := "dataclasses"
      code :=
        { path := "_recursive_repr.<locals>.wrapper", arguments := 1, stack := 5, flags := 19,
          line := 233, holders := ["self key result"],
          names := ["id _thread get_ident add discard"], free := ["repr_running user_function"],
          constants := [.nothing, .say "..."] }
      shared := .row [cell (.thing (.listed "set") "set()".toList []),
        cell (functionThing "models.types" settingsShowing)]
      kept := [entry "__wrapped__" (functionThing "models.types" settingsShowing)] }),
   ("models.types.RollSettings.__eq__",
    { collection := "models.types"
      code :=
        { path := "__create_fn__.<locals>.__eq__", arguments := 2, stack := 5, flags := 19,
          file := "<string>", line := 2, holders := ["self other"],
          names := ["__class__ number sides modifier label NotImplemented"],
          constants := [.nothing],
          steps := ["97007c016a0000000000000000007c006a000000000000000000750072367c006a010000",
          "0000000000007c006a0200000000000000007c006a0300000000000000007c006a040000",
          "00000000000066047c016a0100000000000000007c016a0200000000000000007c016a03",
          "00000000000000007c016a04000000000000000066046b02000000005300740a00000000",
          "0000000000005300"],
          places := ["8000d8050a845f98049c0ed00526d00526d80b0f8c3b9074947aa024a42db004b40ad00a",
          "3cb875bc7cc845cc4bd0585dd45866d0676cd46772d03e74d20a74d00374dd0917d00217"],
          lines := ["02011c016c01"] } }),
   ("models.types.RollSettings.__setattr__",
    { collection := "models.types"
      code :=
        { path := "__create_fn__.<locals>.__setattr__", arguments := 3, stack := 4, flags := 19,
          file := "<string>", line := 2, holders := ["self name value"],
          names := ["type super __setattr__"], free := ["FrozenInstanceError cls"],
          constants := [.nothing, .row [.say "number", .say "sides", .say "modifier",
          .say "label"], .say "cannot assign to field "],
          steps := ["950297007401000000000000000000007c00a6010000ab01000000000000000089047500",
          "73047c0164017600720e0200890364027c019b029d02a6010000ab010000000000000000",
          "820174030000000000000000000089047c00a6020000ab020000000000000000a0020000",
          "0000000000000000000000000000000000007c017c02a6020000ab020000000000000000",
          "010064005300"],
          places := ["f88000dd05098824815a845a9033d00516d005169824d02248d01a48d01a48d8091cd009",
          "1cd01d3fb074d01d3fd01d3fd10940d40940d00340dd020788038854d10212d40212d702",
          "1ed2021e9874a055d1022bd4022bd0022bd0022bd0022b"], lines := ["04012a011c01"] }
      shared := .row [cell (.kind (.listed "dataclasses.FrozenInstanceError")),
        cell (.kind (.listed "models.types.RollSettings"))] }),
   ("models.types.RollSettings.__delattr__",
    { collection := "models.types"
      code :=
        { path := "__create_fn__.<locals>.__delattr__", arguments := 2, stack := 4, flags := 19,
          file := "<string>", line := 2, holders := ["self name"],
          names := ["type super __delattr__"], free := ["FrozenInstanceError cls"],
          constants := [.nothing, .row [.say "number", .say "sides", .say "modifier",
          .say "label"], .say "cannot delete field "],
          steps := ["950297007401000000000000000000007c00a6010000ab01000000000000000089037500",
          "73047c0164017600720e0200890264027c019b029d02a6010000ab010000000000000000",
          "820174030000000000000000000089037c00a6020000ab020000000000000000a0020000",
          "0000000000000000000000000000000000007c01a6010000ab0100000000000000000100", "64005300"],
          places := ["f88000dd05098824815a845a9033d00516d005169824d02248d01a48d01a48d8091cd009",
          "1cd01d3cb044d01d3cd01d3cd1093dd4093dd0033ddd020788038854d10212d40212d702",
          "1ed2021e9874d10224d40224d00224d00224d00224"], lines := ["04012a011c01"] }
      shared := .row [cell (.kind (.listed "dataclasses.FrozenInstanceError")),
        cell (.kind (.listed "models.types.RollSettings"))] }),
   ("models.types.RollSettings.__hash__",
    { collection := "models.types"
      code :=
        { path := "__create_fn__.<locals>.__hash__", arguments := 1, stack := 6, flags := 19,
          file := "<string>", line := 2, holders := ["self"],
          names := ["hash number sides modifier label"], constants := [.nothing],
          steps := ["97007401000000000000000000007c006a0100000000000000007c006a02000000000000",
          "00007c006a0300000000000000007c006a0400000000000000006604a6010000ab010000",
          "0000000000005300"],
          places := ["8000dd090d88748c7b98349c3aa064a46db044b44ad00e40d10941d40941d00241"],
          lines := ["0201"] } })]

end DiceChat.Recipes
