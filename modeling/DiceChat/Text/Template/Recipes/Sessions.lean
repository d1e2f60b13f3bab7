import DiceChat.Text.Template.Hint

/-! Recipes of the functions of sessions and their modes. -/

namespace DiceChat.Recipes

/-- The recipe of what shows a record, before it is guarded against endless work. -/
def sessionShowing : Recipe where
  collection := "models.types"
  code :=
    { path := "__create_fn__.<locals>.__repr__", arguments := 1, stack := 10, flags := 19,
      file := "<string>", line := 2, holders := ["self"],
      names := ["__class__ __qualname__ roll_type try_one try_two settings"],
      constants := [.nothing, .say "(roll_type=", .say ", try_one=", .say ", try_two=",
      .say ", settings=", .say ")"],
      steps := ["97007c006a0000000000000000006a01000000000000000064017c006a02000000000000",
      "00009b0264027c006a0300000000000000009b0264037c006a0400000000000000009b02",
      "64047c006a0500000000000000009b0264059d097a0000005300"],
      places := ["8000d8090d8c1ed40924f00000285902b054b45ef00000285902f00000285902d05155d4",
      "515df00000285902f00000285902d06b6fd46b77f00000285902f00000285902f0000047",
      "024b02f4000047025402f00000285902f00000285902f00000285902f100000a5902f000", "00035902"],
      lines := ["0201"] }

/-- The recipes of this module, by the titles of their functions. -/
def sessionRecipes : List (String × Recipe) :=
  [("models.types.RollType.__str__",
    { collection := "models.types"
      code :=
        { path := "RollType.__str__", arguments := 1, stack := 2, flags := 3, line := 97,
          holders := ["self"], names := ["name capitalize"], constants := [.nothing],
          steps := ["97007c006a000000000000000000a0010000000000000000000000000000000000000000",
          "a6000000ab0000000000000000005300"],
          places := ["8000d80f138c79d70f23d20f23d10f25d40f25d00825"], lines := ["0201"] }
      hints := [entry "return" (.kind .text)] }),
   ("models.types.RollResults.__post_init__",
    { collection := "models.types"
      code :=
        { path := "RollResults.__post_init__", arguments := 1, stack := 4, flags := 3,
          line := 109, holders := ["self"],
          names := ["roll_type RollType STRAIGHT try_two ValueError"], constants := [.nothing,
          .say "Straight rolls have exactly one attempt", .say " rolls need two attempts"],
          steps := ["97007c006a0000000000000000007402000000000000000000006a020000000000000000",
          "750072167c006a030000000000000000810f7409000000000000000000006401a6010000",
          "ab01000000000000000082017c006a000000000000000000740200000000000000000000",
          "6a0200000000000000007501721e7c006a03000000000000000080197409000000000000",
          "000000007c006a0000000000000000009b0064029d02a6010000ab010000000000000000",
          "82016400530064005300"],
          places := ["8000d80b0f8c3e9d58d41d2ed00b2ed00b2eb034b43cd0334bdd121cd01d46d11247d412",
          "47d00c47d80b0f8c3ea518d42132d00b32d00b32b074b47cd0374bdd121ca004a40ed01d",
          "48d01d48d01d48d11249d41249d00c49f003000c33d00b32d0374bd0374b"],
          lines := ["020134011e0134012eff"] } }),
   ("models.types.RollResults.results_index",
    { collection := "models.types"
      code :=
        { path := "RollResults.results_index", arguments := 1, stack := 2, flags := 3,
          line := 115, holders := ["self"],
          names := ["roll_type RollType ADVANTAGE try_two try_one DISADVANTAGE"],
          constants := [.say "被採用的嘗試編號（1 或 2），平手時取第一次", .whole 2, .whole 1],
          steps := ["97007c006a0000000000000000007402000000000000000000006a020000000000000000",
          "750072147c006a0300000000000000007c006a0400000000000000006b04000000007202",
          "64016e01640253007c006a0000000000000000007402000000000000000000006a050000",
          "000000000000750072147c006a0300000000000000007c006a0400000000000000006b00",
          "00000000720264016e016402530064025300"],
          places := ["8000e00b0f8c3e9d58d41d2fd00b2fd00b2fd8181c9c0ca074a47cd21833d01833903190",
          "31b811d00c3ad80b0f8c3e9d58d41d32d00b32d00b32d8181c9c0ca074a47cd21833d018",
          "3390319031b811d00c3ad80f108871"], lines := ["02022601280126012801"] }
      hints := [entry "return" (.kind .whole)] }),
   ("models.types.RollResults.result",
    { collection := "models.types"
      code :=
        { path := "RollResults.result", arguments := 1, stack := 2, flags := 3, line := 123,
          holders := ["self"], names := ["results_index try_two try_one"],
          constants := [.say "被採用的結果", .whole 2],
          steps := ["97007c00a0000000000000000000000000000000000000000000a6000000ab0000000000",
          "0000000064016b020000000072077c006a0100000000000000006e067c006a0200000000",
          "000000005300"],
          places := ["8000e01f23d71f31d21f31d11f33d41f33b071d21f38d01f3888748c7c887cb864bc6cd0",
          "084a"], lines := ["0202"] }
      hints := [entry "return" (.kind (.listed "models.types.Roll"))] }),
   ("models.types.RollResults.attempts",
    { collection := "models.types"
      code :=
        { path := "RollResults.attempts", arguments := 1, stack := 2, flags := 3, line := 127,
          holders := ["self"], names := ["try_two try_one"], constants := [.nothing],
          steps := ["97007c006a00000000000000000080087c006a010000000000000000660153007c006a01",
          "00000000000000007c006a00000000000000000066025300"],
          places := ["8000d80b0f8c3cd00b1fd81418944c903fd00c22d81014940c98649c6cd00f2bd0082b"],
          lines := ["02010e011001"] }
      hints := [entry "return" (Hint.rolls)] }),
   ("models.types.RollResults.to_dict",
    { collection := "models.types"
      code :=
        { path := "RollResults.to_dict", arguments := 1, stack := 5, flags := 3, line := 132,
          holders := ["self"], names := ["roll_type value try_one to_dict try_two settings"],
          constants := [.nothing, .row [.say "roll_type", .say "try_one", .say "try_two",
          .say "settings"]],
          steps := ["97007c006a0000000000000000006a0100000000000000007c006a020000000000000000",
          "a0030000000000000000000000000000000000000000a6000000ab000000000000000000",
          "7c006a04000000000000000072197c006a040000000000000000a0030000000000000000",
          "000000000000000000000000a6000000ab0000000000000000006e0164007c006a050000",
          "000000000000a0030000000000000000000000000000000000000000a6000000ab000000",
          "00000000000064019c045300"],
          places := ["8000e0191d9c1ed4192dd8171b947cd7172bd2172bd1172dd4172dd83135b41cd0174790",
          "74947cd7172bd2172bd1172dd4172dd0172dc034d8181c9c0dd7182dd2182dd1182fd418",
          "2ff00905100af00005100af00005090a"], lines := ["020216013001420130fc"] }
      hints := [entry "return" (Hint.record)] }),
   ("models.types.RollResults.from_dict",
    { collection := "models.types"
      code :=
        { path := "RollResults.from_dict", arguments := 2, stack := 9, flags := 3, line := 140,
          holders := ["cls data try_two"], names := ["get RollType Roll from_dict RollSettings"],
          constants := [.nothing, .say "try_two", .say "roll_type", .say "try_one",
          .say "settings", .row [.say "roll_type", .say "try_one", .say "try_two",
          .say "settings"]],
          steps := ["97007c01a00000000000000000000000000000000000000000006401a6010000ab010000",
          "0000000000007d0202007c007403000000000000000000007c0164021900000000000000",
          "0000a6010000ab010000000000000000740400000000000000000000a003000000000000",
          "00000000000000000000000000007c01640319000000000000000000a6010000ab010000",
          "0000000000007c02721a740400000000000000000000a003000000000000000000000000",
          "00000000000000007c02a6010000ab0100000000000000006e0164007408000000000000",
          "00000000a00300000000000000000000000000000000000000007c016404190000000000",
          "00000000a6010000ab010000000000000000ac05a6040000ab0400000000000000005300"],
          places := ["8000e01216972892289839d11225d412258807d80f128873dd161e9874a04bd41f30d116",
          "31d41631dd1418974e924ea034a809a43fd11433d41433d82f36d014409544974e924ea0",
          "37d1142bd4142bd0142bb844dd1521d7152bd2152ba844b01ad42c3cd1153dd4153df009",
          "05100af10005100af40005100af00005090a"], lines := ["02022a01040128013e013a013efc"] }
      hints := [entry "data" (Hint.record), entry "return" (.say "RollResults")] }),
   ("models.types.RollResults.__init__",
    { collection := "models.types"
      code :=
        { path := "__create_fn__.<locals>.__init__", arguments := 5, stack := 5, flags := 19,
          file := "<string>", line := 2, holders := ["self roll_type try_one try_two settings"],
          names := ["__setattr__ __post_init__"], free := ["__dataclass_builtins_object__"],
          constants := [.nothing, .say "roll_type", .say "try_one", .say "try_two",
          .say "settings"],
          steps := ["950197008905a00000000000000000000000000000000000000000007c0064017c01a603",
          "0000ab03000000000000000001008905a000000000000000000000000000000000000000",
          "00007c0064027c02a6030000ab03000000000000000001008905a0000000000000000000",
          "0000000000000000000000007c0064037c03a6030000ab03000000000000000001008905",
          "a00000000000000000000000000000000000000000007c0064047c04a6030000ab030000",
          "00000000000001007c00a0010000000000000000000000000000000000000000a6000000",
          "ab000000000000000000010064005300"],
          places := ["f88000d8021fd7022bd2022ba844b01bb859d10247d40247d00247d8021fd7022bd2022b",
          "a844b019b837d10243d40243d00243d8021fd7022bd2022ba844b019b837d10243d40243",
          "d00243d8021fd7022bd2022ba844b01ab848d10245d40245d00245d80206d70214d20214",
          "d10216d40216d00216d00216d00216"], lines := ["04012e012e012e012e01"] }
      hints := [entry "roll_type" (.kind (.memberOf Mode.family)),
        entry "try_one" (.kind (.listed "models.types.Roll")),
        entry "try_two" (Hint.optionalRoll),
        entry "settings" (.kind (.listed "models.types.RollSettings")), entry "return" (.nothing)]
      shared := .row [cell (.kind .anything)] }),
   ("models.types.RollResults.__repr__",
    { collection := "dataclasses"
      code :=
        { path := "_recursive_repr.<locals>.wrapper", arguments := 1, stack := 5, flags := 19,
          line := 233, holders := ["self key result"],
          names := ["id _thread get_ident add discard"], free := ["repr_running user_function"],
          constants := [.nothing, .say "..."] }
      shared := .row [cell (.thing (.listed "set") "set()".toList []),
        cell (functionThing "models.types" sessionShowing)]
      kept := [entry "__wrapped__" (functionThing "models.types" sessionShowing)] }),
   ("models.types.RollResults.__eq__",
    { collection := "models.types"
      code :=
        { path := "__create_fn__.<locals>.__eq__", arguments := 2, stack := 5, flags := 19,
          file := "<string>", line := 2, holders := ["self other"],
          names := ["__class__ roll_type try_one try_two settings NotImplemented"],
          constants := [.nothing],
          steps := ["97007c016a0000000000000000007c006a000000000000000000750072367c006a010000",
          "0000000000007c006a0200000000000000007c006a0300000000000000007c006a040000",
          "00000000000066047c016a0100000000000000007c016a0200000000000000007c016a03",
          "00000000000000007c016a04000000000000000066046b02000000005300740a00000000",
          "0000000000005300"],
          places := ["8000d8050a845f98049c0ed00526d00526d80b0f8c3e98249c2ca074a47cb044b44dd00a",
          "43c065c46fd0565bd45663d06469d46471d07277f4000073014102f0000046014302f200",
          "000b4302f00000044302dd0917d00217"], lines := ["02011c016c01"] } }),
   ("models.types.RollResults.__setattr__",
    { collection := "models.types"
      code :=
        { path := "__create_fn__.<locals>.__setattr__", arguments := 3, stack := 4, flags := 19,
          file := "<string>", line := 2, holders := ["self name value"],
          names := ["type super __setattr__"], free := ["FrozenInstanceError cls"],
          constants := [.nothing, .row [.say "roll_type", .say "try_one", .say "try_two",
          .say "settings"], .say "cannot assign to field "],
          steps := ["950297007401000000000000000000007c00a6010000ab01000000000000000089047500",
          "73047c0164017600720e0200890364027c019b029d02a6010000ab010000000000000000",
          "820174030000000000000000000089047c00a6020000ab020000000000000000a0020000",
          "0000000000000000000000000000000000007c017c02a6020000ab020000000000000000",
          "010064005300"],
          places := ["f88000dd05098824815a845a9033d00516d005169824d0224fd01a4fd01a4fd8091cd009",
          "1cd01d3fb074d01d3fd01d3fd10940d40940d00340dd020788038854d10212d40212d702",
          "1ed2021e9874a055d1022bd4022bd0022bd0022bd0022b"], lines := ["04012a011c01"] }
      shared := .row [cell (.kind (.listed "dataclasses.FrozenInstanceError")),
        cell (.kind (.listed "models.types.RollResults"))] }),
   ("models.types.RollResults.__delattr__",
    { collection := "models.types"
      code :=
        { path := "__create_fn__.<locals>.__delattr__", arguments := 2, stack := 4, flags := 19,
          file := "<string>", line := 2, holders := ["self name"],
          names := ["type super __delattr__"], free := ["FrozenInstanceError cls"],
          constants := [.nothing, .row [.say "roll_type", .say "try_one", .say "try_two",
          .say "settings"], .say "cannot delete field "],
          steps := ["950297007401000000000000000000007c00a6010000ab01000000000000000089037500",
          "73047c0164017600720e0200890264027c019b029d02a6010000ab010000000000000000",
          "820174030000000000000000000089037c00a6020000ab020000000000000000a0020000",
          "0000000000000000000000000000000000007c01a6010000ab0100000000000000000100", "64005300"],
          places := ["f88000dd05098824815a845a9033d00516d005169824d0224fd01a4fd01a4fd8091cd009",
          "1cd01d3cb044d01d3cd01d3cd1093dd4093dd0033ddd020788038854d10212d40212d702",
          "1ed2021e9874d10224d40224d00224d00224d00224"], lines := ["04012a011c01"] }
      shared := .row [cell (.kind (.listed "dataclasses.FrozenInstanceError")),
        cell (.kind (.listed "models.types.RollResults"))] }),
   ("models.types.RollResults.__hash__",
    { collection := "models.types"
      code :=
        { path := "__create_fn__.<locals>.__hash__", arguments := 1, stack := 6, flags := 19,
          file := "<string>", line := 2, holders := ["self"],
          names := ["hash roll_type try_one try_two settings"], constants := [.nothing],
          steps := ["97007401000000000000000000007c006a0100000000000000007c006a02000000000000",
          "00007c006a0300000000000000007c006a0400000000000000006604a6010000ab010000",
          "0000000000005300"],
          places := ["8000dd090d88748c7e98649c6ca834ac3cb804bc0dd00e47d10948d40948d00248"],
          lines := ["0201"] } })]

end DiceChat.Recipes
