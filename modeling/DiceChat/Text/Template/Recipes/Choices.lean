import DiceChat.Text.Template.Hint

/-! Recipes of the functions of members of fixed lists. -/

namespace DiceChat.Recipes

/-- The recipes of this module, by the titles of their functions. -/
def choiceRecipes : List (String × Recipe) :=
  [("enum.Enum.__new__",
    { collection := "enum"
      code :=
        { path := "Enum.__new__", arguments := 2, stack := 7, flags := 3, line := 1095,
          holders := ["cls value member exc result e ve_exc"], names :=
          ["type _value2member_map_ KeyError TypeError _member_map_ values _value_ _missing_",
          "Exception isinstance Flag issubclass _boundary_ EJECT int ValueError __qualname__",
          "__name__ __context__"], constants := [.nothing, .say "%r has no members defined",
          .say " is not a valid ", .say "error in ", .say "._missing_: returned ",
          .say " instead of None or a valid member"] } }),
   ("enum.Enum.__init__",
    { collection := "enum"
      code :=
        { path := "Enum.__init__", arguments := 1, stack := 1, flags := 15, line := 1151,
          holders := ["self args kwds"], constants := [.nothing] } }),
   ("enum.Enum._generate_next_value_",
    { collection := "enum"
      code :=
        { path := "Enum._generate_next_value_", arguments := 4, stack := 6, flags := 3,
          line := 1154, holders := ["name start count last_values last warnings v"],
          names := ["sort TypeError warnings warn DeprecationWarning reversed"],
          constants := [.sayLines ["", "        Generate the next value when not given.", "",
          "        name: the name of the member",
          "        start: the initial start value or None",
          "        count: the number of existing members",
          "        last_values: the list of values assigned", "        "], .whole (-1), .whole 1,
          .whole 0, .nothing,
          .sayLines ["In 3.13 the default `auto()`/`_generate_next_value_` will require all values to be sortable and support adding +1",
          "and the value returned will be the largest value in the enum incremented by 1"],
          .whole 3, .row [.say "stacklevel"]] } }),
   ("enum.Enum._missing_",
    { collection := "enum"
      code :=
        { path := "Enum._missing_", arguments := 2, stack := 1, flags := 3, line := 1189,
          holders := ["cls value"], constants := [.nothing] } }),
   ("enum.Enum.__repr__",
    { collection := "enum"
      code :=
        { path := "Enum.__repr__", arguments := 1, stack := 8, flags := 3, line := 1193,
          holders := ["self v_repr"],
          names := ["__class__ _value_repr_ repr __name__ _name_ _value_"],
          constants := [.nothing, .say "<", .say ".", .say ": ", .say ">"] } }),
   ("enum.Enum.__str__",
    { collection := "enum"
      code :=
        { path := "Enum.__str__", arguments := 1, stack := 3, flags := 3, line := 1197,
          holders := ["self"], names := ["__class__ __name__ _name_"], constants := [.nothing,
          .say "."] } }),
   ("enum.Enum.__dir__",
    { collection := "enum"
      code :=
        { path := "Enum.__dir__", arguments := 1, stack := 6, flags := 3, line := 1200,
          holders := ["self interesting name cls obj names"], names :=
          ["set __class__ _member_type_ object __dir__ getattr _member_map_ add mro __dict__",
          "items isinstance property fget discard sorted"], constants := [.sayLines ["",
          "        Returns public methods and other interesting attributes.", "        "],
          .say "__dict__", .whole 0, .say "_", .nothing, .row [.say "__class__", .say "__doc__",
          .say "__eq__", .say "__hash__", .say "__module__"]] } }),
   ("enum.Enum.__format__",
    { collection := "enum"
      code :=
        { path := "Enum.__format__", arguments := 2, stack := 5, flags := 3, line := 1229,
          holders := ["self format_spec"], names := ["str __format__"], constants := [.nothing] } }),
   ("enum.Enum.__hash__",
    { collection := "enum"
      code :=
        { path := "Enum.__hash__", arguments := 1, stack := 3, flags := 3, line := 1232,
          holders := ["self"], names := ["hash _name_"], constants := [.nothing] } }),
   ("enum.Enum.__reduce_ex__",
    { collection := "enum"
      code :=
        { path := "Enum.__reduce_ex__", arguments := 2, stack := 2, flags := 3, line := 1235,
          holders := ["self proto"], names := ["__class__ _value_"], constants := [.nothing] } }),
   ("enum.Enum.__deepcopy__",
    { collection := "enum"
      code :=
        { path := "Enum.__deepcopy__", arguments := 2, stack := 1, flags := 3, line := 1238,
          holders := ["self memo"], constants := [.nothing] } }),
   ("enum.Enum.__copy__",
    { collection := "enum"
      code :=
        { path := "Enum.__copy__", arguments := 1, stack := 1, flags := 3, line := 1241,
          holders := ["self"], constants := [.nothing] } }),
   ("enum.Enum.name",
    { collection := "enum"
      code :=
        { path := "Enum.name", arguments := 1, stack := 1, flags := 3, line := 1252,
          holders := ["self"], names := ["_name_"],
          constants := [.say "The name of the Enum member."] } }),
   ("enum.Enum.value",
    { collection := "enum"
      code :=
        { path := "Enum.value", arguments := 1, stack := 1, flags := 3, line := 1257,
          holders := ["self"], names := ["_value_"],
          constants := [.say "The value of the Enum member."] } })]

end DiceChat.Recipes
