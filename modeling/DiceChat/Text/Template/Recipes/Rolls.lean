import DiceChat.Text.Template.Hint

/-! Recipes of the functions of rolls. -/

namespace DiceChat.Recipes

/-- The code of a function inside another one. -/
def rollInner1 : Code :=
  { path := "Roll.from_dict.<locals>.<genexpr>", arguments := 1, stack := 4, flags := 51,
    line := 85, holders := [".0 r"], names := ["int"], constants := [.nothing],
    steps := ["4b00010097007c005d137d017401000000000000000000007c01a6010000ab0100000000",
    "000000005600970101008c1464005300"],
    places := ["e800e8008000d01736d01736a0319d03984199069c06d01736d01736d01736d01736d017",
    "36d01736"], lines := [] }

/-- The recipe of what shows a record, before it is guarded against endless work. -/
def rollShowing : Recipe where
  collection := "models.types"
  code :=
    { path := "__create_fn__.<locals>.__repr__", arguments := 1, stack := 8, flags := 19,
      file := "<string>", line := 2, holders := ["self"],
      names := ["__class__ __qualname__ rolls total settings"], constants := [.nothing,
      .say "(rolls=", .say ", total=", .say ", settings=", .say ")"],
      steps := ["97007c006a0000000000000000006a01000000000000000064017c006a02000000000000",
      "00009b0264027c006a0300000000000000009b0264037c006a0400000000000000009b02",
      "64049d077a0000005300"],
      places := ["8000d8090d8c1ed40924d02772b014b41ad02772d02772c074c47ad02772d02772d06064",
      "d4606dd02772d02772d02772d10972d00272"], lines := ["0201"] }

/-- The recipes of this module, by the titles of their functions. -/
def rollRecipes : List (String × Recipe) :=
  [("models.types.Roll.__lt__",
    { collection := "models.types"
      code :=
        { path := "Roll.__lt__", arguments := 2, stack := 2, flags := 3, line := 63,
          holders := ["self other"], names := ["total"], constants := [.nothing],
          steps := ["97007c006a0000000000000000007c016a0000000000000000006b00000000005300"],
          places := ["8000d80f138c7a98459c4bd20f27d00827"], lines := ["0201"] }
      hints := [entry "other" (.say "Roll"), entry "return" (.kind .truth)] }),
   ("models.types.Roll.__le__",
    { collection := "models.types"
      code :=
        { path := "Roll.__le__", arguments := 2, stack := 2, flags := 3, line := 66,
          holders := ["self other"], names := ["total"], constants := [.nothing],
          steps := ["97007c006a0000000000000000007c016a0000000000000000006b01000000005300"],
          places := ["8000d80f138c7a98559c5bd20f28d00828"], lines := ["0201"] }
      hints := [entry "other" (.say "Roll"), entry "return" (.kind .truth)] }),
   ("models.types.Roll.__gt__",
    { collection := "models.types"
      code :=
        { path := "Roll.__gt__", arguments := 2, stack := 2, flags := 3, line := 69,
          holders := ["self other"], names := ["total"], constants := [.nothing],
          steps := ["97007c006a0000000000000000007c016a0000000000000000006b04000000005300"],
          places := ["8000d80f138c7a98459c4bd20f27d00827"], lines := ["0201"] }
      hints := [entry "other" (.say "Roll"), entry "return" (.kind .truth)] }),
   ("models.types.Roll.__ge__",
    { collection := "models.types"
      code :=
        { path := "Roll.__ge__", arguments := 2, stack := 2, flags := 3, line := 72,
          holders := ["self other"], names := ["total"], constants := [.nothing],
          steps := ["97007c006a0000000000000000007c016a0000000000000000006b05000000005300"],
          places := ["8000d80f138c7a98559c5bd20f28d00828"], lines := ["0201"] }
      hints := [entry "other" (.say "Roll"), entry "return" (.kind .truth)] }),
   ("models.types.Roll.to_dict",
    { collection := "models.types"
      code :=
        { path := "Roll.to_dict", arguments := 2, stack := 5, flags := 3, line := 75,
          holders := ["self with_label"], names := ["list rolls total settings to_dict"],
          constants := [.nothing, .row [.say "with_label"], .row [.say "rolls", .say "total",
          .say "settings"]],
          steps := ["97007401000000000000000000007c006a010000000000000000a6010000ab0100000000",
          "000000007c006a0200000000000000007c006a030000000000000000a004000000000000",
          "00000000000000000000000000007c01ac01a6010000ab01000000000000000064029c03", "5300"],
          places := ["8000e5151998249c2ad11525d41525d81519945ad8181c9c0dd7182dd2182db81ad0182d",
          "d11844d41844f00704100af00004100af00004090a"], lines := ["020226010c0134fd"] }
      defaults := .row [.truth true]
      hints := [entry "with_label" (.kind .truth), entry "return" (Hint.record)] }),
   ("models.types.Roll.from_dict",
    { collection := "models.types"
      code :=
        { path := "Roll.from_dict", arguments := 2, stack := 8, flags := 3, line := 82,
          holders := ["cls data"], names := ["tuple int RollSettings from_dict"],
          constants := [.nothing, rollInner1.subject, .say "rolls", .say "total", .say "settings",
          .row [.say "rolls", .say "total", .say "settings"]],
          steps := ["970002007c00740100000000000000000000640184007c01640219000000000000000000",
          "4400a6000000ab000000000000000000a6010000ab010000000000000000740300000000",
          "0000000000007c01640319000000000000000000a6010000ab0100000000000000007404",
          "00000000000000000000a00300000000000000000000000000000000000000007c016404",
          "19000000000000000000a6010000ab010000000000000000ac05a6030000ab0300000000",
          "000000005300"],
          places := ["8000e00f128873dd1217d01736d01736a804a857ac0dd01736d11736d41736d11236d412",
          "36dd121590649837946dd11224d41224dd1521d7152bd2152ba844b01ad42c3cd1153dd4",
          "153df00704100af10004100af40004100af00004090a"], lines := ["020204013c0128013efd"] }
      hints := [entry "data" (Hint.record), entry "return" (.say "Roll")] }),
   ("models.types.Roll.__init__",
    { collection := "models.types"
      code :=
        { path := "__create_fn__.<locals>.__init__", arguments := 4, stack := 5, flags := 19,
          file := "<string>", line := 2, holders := ["self rolls total settings"],
          names := ["__setattr__"], free := ["__dataclass_builtins_object__"],
          constants := [.nothing, .say "rolls", .say "total", .say "settings"],
          steps := ["950197008904a00000000000000000000000000000000000000000007c0064017c01a603",
          "0000ab03000000000000000001008904a000000000000000000000000000000000000000",
          "00007c0064027c02a6030000ab03000000000000000001008904a0000000000000000000",
          "0000000000000000000000007c0064037c03a6030000ab03000000000000000001006400", "5300"],
          places := ["f88000d8021fd7022bd2022ba844b017b815d1023fd4023fd0023fd8021fd7022bd2022b",
          "a844b017b815d1023fd4023fd0023fd8021fd7022bd2022ba844b01ab848d10245d40245",
          "d00245d00245d00245"], lines := ["04012e012e01"] }
      hints := [entry "rolls" (Hint.faces), entry "total" (.kind .whole),
        entry "settings" (.kind (.listed "models.types.RollSettings")), entry "return" (.nothing)]
      shared := .row [cell (.kind .anything)] }),
   ("models.types.Roll.__repr__",
    { collection := "dataclasses"
      code :=
        { path := "_recursive_repr.<locals>.wrapper", arguments := 1, stack := 5, flags := 19,
          line := 233, holders := ["self key result"],
          names := ["id _thread get_ident add discard"], free := ["repr_running user_function"],
          constants := [.nothing, .say "..."] }
      shared := .row [cell (.thing (.listed "set") "set()".toList []),
        cell (functionThing "models.types" rollShowing)]
      kept := [entry "__wrapped__" (functionThing "models.types" rollShowing)] }),
   ("models.types.Roll.__eq__",
    { collection := "models.types"
      code :=
        { path := "__create_fn__.<locals>.__eq__", arguments := 2, stack := 4, flags := 19,
          file := "<string>", line := 2, holders := ["self other"],
          names := ["__class__ rolls total settings NotImplemented"], constants := [.nothing],
          steps := ["97007c016a0000000000000000007c006a0000000000000000007500722a7c006a010000",
          "0000000000007c006a0200000000000000007c006a03000000000000000066037c016a01",
          "00000000000000007c016a0200000000000000007c016a03000000000000000066036b02",
          "0000000053007408000000000000000000005300"],
          places := ["8000d8050a845f98049c0ed00526d00526d80b0f8c3a9064946aa014a41dd00a30b035b4",
          "3bb875bc7bc835cc3ed0325bd20a5bd0035bdd0917d00217"], lines := ["02011c015401"] } }),
   ("models.types.Roll.__setattr__",
    { collection := "models.types"
      code :=
        { path := "__create_fn__.<locals>.__setattr__", arguments := 3, stack := 4, flags := 19,
          file := "<string>", line := 2, holders := ["self name value"],
          names := ["type super __setattr__"], free := ["FrozenInstanceError cls"],
          constants := [.nothing, .row [.say "rolls", .say "total", .say "settings"],
          .say "cannot assign to field "],
          steps := ["950297007401000000000000000000007c00a6010000ab01000000000000000089047500",
          "73047c0164017600720e0200890364027c019b029d02a6010000ab010000000000000000",
          "820174030000000000000000000089047c00a6020000ab020000000000000000a0020000",
          "0000000000000000000000000000000000007c017c02a6020000ab020000000000000000",
          "010064005300"],
          places := ["f88000dd05098824815a845a9033d00516d005169824d0223fd01a3fd01a3fd8091cd009",
          "1cd01d3fb074d01d3fd01d3fd10940d40940d00340dd020788038854d10212d40212d702",
          "1ed2021e9874a055d1022bd4022bd0022bd0022bd0022b"], lines := ["04012a011c01"] }
      shared := .row [cell (.kind (.listed "dataclasses.FrozenInstanceError")),
        cell (.kind (.listed "models.types.Roll"))] }),
   ("models.types.Roll.__delattr__",
    { collection := "models.types"
      code :=
        { path := "__create_fn__.<locals>.__delattr__", arguments := 2, stack := 4, flags := 19,
          file := "<string>", line := 2, holders := ["self name"],
          names := ["type super __delattr__"], free := ["FrozenInstanceError cls"],
          constants := [.nothing, .row [.say "rolls", .say "total", .say "settings"],
          .say "cannot delete field "],
          steps := ["950297007401000000000000000000007c00a6010000ab01000000000000000089037500",
          "73047c0164017600720e0200890264027c019b029d02a6010000ab010000000000000000",
          "820174030000000000000000000089037c00a6020000ab020000000000000000a0020000",
          "0000000000000000000000000000000000007c01a6010000ab0100000000000000000100", "64005300"],
          places := ["f88000dd05098824815a845a9033d00516d005169824d0223fd01a3fd01a3fd8091cd009",
          "1cd01d3cb044d01d3cd01d3cd1093dd4093dd0033ddd020788038854d10212d40212d702",
          "1ed2021e9874d10224d40224d00224d00224d00224"], lines := ["04012a011c01"] }
      shared := .row [cell (.kind (.listed "dataclasses.FrozenInstanceError")),
        cell (.kind (.listed "models.types.Roll"))] }),
   ("models.types.Roll.__hash__",
    { collection := "models.types"
      code :=
        { path := "__create_fn__.<locals>.__hash__", arguments := 1, stack := 5, flags := 19,
          file := "<string>", line := 2, holders := ["self"],
          names := ["hash rolls total settings"], constants := [.nothing],
          steps := ["97007401000000000000000000007c006a0100000000000000007c006a02000000000000",
          "00007c006a0300000000000000006603a6010000ab0100000000000000005300"],
          places := ["8000dd090d88748c7a98249c2aa054a45dd00e34d10935d40935d00235"],
          lines := ["0201"] } })]

end DiceChat.Recipes
