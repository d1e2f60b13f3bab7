import DiceChat.Text.Template.BuiltIns
import DiceChat.Text.Template.Hint

/-! Fixed lists whose members are numbers or texts, flags, and what their kinds hold from other kinds. -/

namespace DiceChat

/-- A member that is shown as its value. -/
def valueMember (name value : String) : Member :=
  ⟨name.toList, value.toList, value.toList⟩

/-- What becomes of flags out of range. -/
def boundaries : Family where
  name := "FlagBoundary".toList
  home := "enum".toList
  about := []
  members := [valueMember "STRICT" "strict", valueMember "CONFORM" "conform",
    valueMember "EJECT" "eject", valueMember "KEEP" "keep"]

/-- What is checked of fixed lists. -/
def checks : Family where
  name := "EnumCheck".toList
  home := "enum".toList
  about := []
  members := [valueMember "CONTINUOUS" "no skipped integer values",
    valueMember "NAMED_FLAGS" "multi-flag aliases may not contain unnamed flags",
    valueMember "UNIQUE" "one name per value"]

/-- A function that a kind has from the kind of the given title. -/
def functionOf (title name : String) : Subject :=
  .part .function (.listed title) name.toList

/-- An operation that a kind has from the kind of the given title. -/
def operationOf (title name : String) : Subject :=
  .part .operation (.listed title) name.toList

/-- A method that a kind has from the kind of the given title. -/
def methodOf (title name : String) : Subject :=
  .part .method (.listed title) name.toList

/-- What kinds of fixed lists hold from other kinds, and how they differ from other lists. -/
def borrowedThings : List (String × List (Text × Subject)) :=
  [("enum.ReprEnum",
      [entry "_generate_next_value_" (functionOf "enum.Enum" "_generate_next_value_"),
      entry "__new__" (functionOf "enum.Enum" "__new__")]),
    ("enum.Flag",
      [entry "_numeric_repr_" (((builtInFunctions.find? (·.name = "repr")).map builtInThing).elim
        .nothing Prod.snd),
      entry "_iter_member_" (.part .kindFunction (.listed "enum.Flag")
        "_iter_member_by_value_".toList),
      entry "__rand__" (functionOf "enum.Flag" "__and__"),
      entry "__ror__" (functionOf "enum.Flag" "__or__"),
      entry "__rxor__" (functionOf "enum.Flag" "__xor__"),
      entry "_boundary_" (.member boundaries (valueMember "STRICT" "strict")),
      entry "_flag_mask_" (.whole 0), entry "_singles_mask_" (.whole 0),
      entry "_all_bits_" (.whole 0), entry "__new__" (functionOf "enum.Enum" "__new__")]),
    ("enum.IntEnum",
      [entry "_generate_next_value_" (functionOf "enum.Enum" "_generate_next_value_"),
      entry "_new_member_" (.bound .maker .whole "__new__".toList (.kind .whole)),
      entry "_use_args_" (.truth true), entry "_member_type_" (.kind .whole),
      entry "_value_repr_" (operationOf "int" "__repr__"),
      entry "__format__" (methodOf "int" "__format__"),
      entry "__str__" (operationOf "int" "__repr__"),
      entry "__repr__" (functionOf "enum.Enum" "__repr__"),
      entry "__new__" (functionOf "enum.Enum" "__new__")]),
    ("enum.StrEnum",
      [entry "__new__" (functionOf "enum.Enum" "__new__"),
      entry "_new_member_" (functionOf "enum.StrEnum" "__new__"),
      entry "_use_args_" (.truth true), entry "_member_type_" (.kind .text),
      entry "_value_repr_" (operationOf "str" "__repr__"),
      entry "__format__" (methodOf "str" "__format__"),
      entry "__str__" (operationOf "str" "__str__"),
      entry "__repr__" (functionOf "enum.Enum" "__repr__"),
      entry "__new_member__" (functionOf "enum.StrEnum" "__new__")]),
    ("enum.IntFlag",
      [entry "_generate_next_value_" (functionOf "enum.Flag" "_generate_next_value_"),
      entry "_new_member_" (.bound .maker .whole "__new__".toList (.kind .whole)),
      entry "_use_args_" (.truth true), entry "_member_type_" (.kind .whole),
      entry "_value_repr_" (operationOf "int" "__repr__"),
      entry "_boundary_" (.member boundaries (valueMember "KEEP" "keep")),
      entry "_flag_mask_" (.whole 0), entry "_singles_mask_" (.whole 0),
      entry "_all_bits_" (.whole 0),
      entry "__format__" (methodOf "int" "__format__"),
      entry "__str__" (operationOf "int" "__repr__"),
      entry "__repr__" (functionOf "enum.Flag" "__repr__"),
      entry "__or__" (functionOf "enum.Flag" "__or__"),
      entry "__and__" (functionOf "enum.Flag" "__and__"),
      entry "__xor__" (functionOf "enum.Flag" "__xor__"),
      entry "__ror__" (functionOf "enum.Flag" "__or__"),
      entry "__rand__" (functionOf "enum.Flag" "__and__"),
      entry "__rxor__" (functionOf "enum.Flag" "__xor__"),
      entry "__invert__" (functionOf "enum.Flag" "__invert__"),
      entry "__new__" (functionOf "enum.Enum" "__new__")]),
    ("enum.FlagBoundary",
      [entry "_generate_next_value_" (functionOf "enum.StrEnum" "_generate_next_value_"),
      entry "_new_member_" (functionOf "enum.StrEnum" "__new__"),
      entry "_use_args_" (.truth true), entry "_member_type_" (.kind .text),
      entry "_value_repr_" (operationOf "str" "__repr__"),
      entry "__str__" (operationOf "str" "__str__"),
      entry "__format__" (methodOf "str" "__format__"),
      entry "__new__" (functionOf "enum.Enum" "__new__")]),
    ("enum.EnumCheck",
      [entry "_new_member_" (.bound .maker .text "__new__".toList (.kind .text)),
      entry "_use_args_" (.truth true),
      entry "_generate_next_value_" (functionOf "enum.StrEnum" "_generate_next_value_"),
      entry "_member_type_" (.kind .text),
      entry "_value_repr_" (operationOf "str" "__repr__"),
      entry "__str__" (operationOf "str" "__str__"),
      entry "__format__" (methodOf "str" "__format__"),
      entry "__new__" (functionOf "enum.Enum" "__new__")])]

end DiceChat
