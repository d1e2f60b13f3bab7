import DiceChat.Text.Kind.Entry

/-! Kinds of fixed lists of numbers and texts, and of flags. -/

namespace DiceChat.Catalogue

/-- The kind `enum.ReprEnum`. -/
def reprEnumEntry : KindEntry where
  name := "ReprEnum"
  home := "enum"
  ofKind := "enum.EnumType"
  above := ["enum.Enum", "object"]
  measures := [24, 0, 546320, -48, 16]
  about := ["", "    Only changes the repr(), leaving str() and format() to the mixed-in type.",
    "    "]
  parts :=
    partsOf .thing ["_generate_next_value_"] ++
    partsOf .home ["__module__"] ++
    partsOf .account ["__doc__"] ++
    partsOf .thing ["_new_member_ _use_args_ _member_names_ _member_map_ _value2member_map_",
      "_unhashable_values_ _member_type_"] ++
    partsOf .nothing ["_value_repr_"] ++
    partsOf .thing ["__new__"]

/-- The kind `enum.Flag`. -/
def flagEntry : KindEntry where
  name := "Flag"
  home := "enum"
  ofKind := "enum.EnumType"
  above := ["enum.Enum", "object"]
  measures := [24, 0, 546320, -48, 16]
  about := ["", "    Support for flags", "    "]
  parts :=
    [⟨"_generate_next_value_", .function, "", ["",
       "        Generate the next value when not given.", "",
       "        name: the name of the member", "        start: the initial start value or None",
       "        count: the number of existing members",
       "        last_values: the last value assigned or None", "        "]⟩,
     ⟨"__module__", .home, "", []⟩,
     ⟨"__doc__", .account, "", []⟩,
     ⟨"_numeric_repr_", .thing, "", []⟩,
     ⟨"_iter_member_by_value_", .kindFunction, "", ["",
       "        Extract all members from the value in definition (i.e. increasing value) order.",
       "        "]⟩,
     ⟨"_iter_member_", .thing, "", []⟩,
     ⟨"_iter_member_by_def_", .kindFunction, "", ["",
       "        Extract all members from the value in definition order.", "        "]⟩,
     ⟨"_missing_", .kindFunction, "", ["",
       "        Create a composite member containing all canonical members present in `value`.",
       "", "        If non-member values are present, result depends on `_boundary_` setting.",
       "        "]⟩,
     ⟨"__contains__", .function, "", ["",
       "        Returns True if self has at least the same flags set as other.", "        "]⟩,
     ⟨"__iter__", .function, "", ["", "        Returns flags in definition order.", "        "]⟩] ++
    partsOf .function [
      "__len__ __repr__ __str__ __bool__ _get_value __or__ __and__ __xor__ __invert__"] ++
    partsOf .thing [
      "__rand__ __ror__ __rxor__ _new_member_ _use_args_ _member_names_ _member_map_",
      "_value2member_map_ _unhashable_values_ _member_type_"] ++
    partsOf .nothing ["_value_repr_"] ++
    partsOf .thing ["_boundary_ _flag_mask_ _singles_mask_ _all_bits_"] ++
    partsOf .nothing ["_inverted_"] ++
    partsOf .thing ["__new__"]

/-- The kind `enum.IntEnum`. -/
def intEnumEntry : KindEntry where
  name := "IntEnum"
  home := "enum"
  ofKind := "enum.EnumType"
  above := ["int", "enum.ReprEnum", "enum.Enum", "object"]
  bases := ["int", "enum.ReprEnum"]
  measures := [32, 4, 21517824, -8, 0]
  about := ["", "    Enum where members are also (and must be) ints", "    "]
  parts :=
    partsOf .thing ["_generate_next_value_"] ++
    partsOf .home ["__module__"] ++
    partsOf .account ["__doc__"] ++
    partsOf .thing ["_new_member_ _use_args_ _member_names_ _member_map_ _value2member_map_",
      "_unhashable_values_ _member_type_ _value_repr_"] ++
    [⟨"__dict__", .quality, "", ["dictionary for instance variables"]⟩] ++
    partsOf .thing ["__format__ __str__ __repr__ __new__"]

/-- The kind `enum.StrEnum`. -/
def strEnumEntry : KindEntry where
  name := "StrEnum"
  home := "enum"
  ofKind := "enum.EnumType"
  above := ["str", "enum.ReprEnum", "enum.Enum", "object"]
  bases := ["str", "enum.ReprEnum"]
  measures := [88, 0, 273176080, -112, 80]
  about := ["", "    Enum where members are also (and must be) strings", "    "]
  parts :=
    [⟨"_generate_next_value_", .function, "", ["",
       "        Return the lower-cased version of the member name.", "        "]⟩,
     ⟨"__module__", .home, "", []⟩,
     ⟨"__doc__", .account, "", []⟩] ++
    partsOf .thing [
      "__new__ _new_member_ _use_args_ _member_names_ _member_map_ _value2member_map_",
      "_unhashable_values_ _member_type_ _value_repr_"] ++
    [⟨"__dict__", .quality, "", ["dictionary for instance variables"]⟩,
     ⟨"__weakref__", .quality, "", ["list of weak references to the object"]⟩] ++
    partsOf .thing ["__format__ __str__ __repr__ __new_member__"]

/-- The kind `enum.IntFlag`. -/
def intFlagEntry : KindEntry where
  name := "IntFlag"
  home := "enum"
  ofKind := "enum.EnumType"
  above := ["int", "enum.ReprEnum", "enum.Flag", "enum.Enum", "object"]
  bases := ["int", "enum.ReprEnum", "enum.Flag"]
  measures := [32, 4, 21517824, -8, 0]
  about := ["", "    Support for integer-based Flags", "    "]
  parts :=
    partsOf .thing ["_generate_next_value_"] ++
    partsOf .home ["__module__"] ++
    partsOf .account ["__doc__"] ++
    partsOf .thing ["_new_member_ _use_args_ _member_names_ _member_map_ _value2member_map_",
      "_unhashable_values_ _member_type_ _value_repr_ _boundary_ _flag_mask_ _singles_mask_",
      "_all_bits_"] ++
    partsOf .nothing ["_inverted_"] ++
    [⟨"__dict__", .quality, "", ["dictionary for instance variables"]⟩] ++
    partsOf .thing [
      "__format__ __str__ __repr__ __or__ __and__ __xor__ __ror__ __rand__ __rxor__",
      "__invert__ __new__"]

/-- The kind `enum.FlagBoundary`. -/
def flagBoundaryEntry : KindEntry where
  name := "FlagBoundary"
  home := "enum"
  ofKind := "enum.EnumType"
  above := ["enum.StrEnum", "str", "enum.ReprEnum", "enum.Enum", "object"]
  measures := [88, 0, 273176080, -112, 80]
  about := ["", "    control how out of range values are handled",
    "    \"strict\" -> error is raised             [default for Flag]",
    "    \"conform\" -> extra bits are discarded", "    \"eject\" -> lose flag status",
    "    \"keep\" -> keep flag status and all bits [default for IntFlag]", "    "]
  parts :=
    partsOf .thing ["_generate_next_value_"] ++
    partsOf .home ["__module__"] ++
    partsOf .account ["__doc__"] ++
    partsOf .thing ["_new_member_ _use_args_ _member_names_ _member_map_ _value2member_map_",
      "_unhashable_values_ _member_type_ _value_repr_ STRICT CONFORM EJECT KEEP __str__",
      "__format__ __new__"]

/-- The kind `enum.EnumCheck`. -/
def enumCheckEntry : KindEntry where
  name := "EnumCheck"
  home := "enum"
  ofKind := "enum.EnumType"
  above := ["enum.StrEnum", "str", "enum.ReprEnum", "enum.Enum", "object"]
  measures := [88, 0, 273176080, -112, 80]
  about := ["", "    various conditions to check an enumeration for", "    "]
  parts :=
    partsOf .thing ["_new_member_ _use_args_ _generate_next_value_ _member_names_ _member_map_",
      "_value2member_map_ _unhashable_values_ _member_type_ _value_repr_"] ++
    partsOf .home ["__module__"] ++
    partsOf .account ["__doc__"] ++
    partsOf .thing ["__str__ __format__"] ++
    partsOf .facet ["CONTINUOUS NAMED_FLAGS UNIQUE"] ++
    partsOf .thing ["__new__"]

/-- The kind `enum.auto`. -/
def autoEntry : KindEntry where
  name := "auto"
  home := "enum"
  measures := [24, 0, 546320, -48, 16]
  about := ["", "    Instances are replaced with an appropriate value in Enum class suites.",
    "    "]
  parts :=
    partsOf .home ["__module__"] ++
    partsOf .account ["__doc__"] ++
    partsOf .function ["__init__ __repr__"] ++
    [⟨"__dict__", .quality, "", ["dictionary for instance variables"]⟩,
     ⟨"__weakref__", .quality, "", ["list of weak references to the object"]⟩]

/-- The kind `enum.member`. -/
def markedMemberEntry : KindEntry where
  name := "member"
  home := "enum"
  measures := [24, 0, 546320, -48, 16]
  about := ["", "    Forces item to become an Enum member during class creation.", "    "]
  parts :=
    partsOf .home ["__module__"] ++
    partsOf .account ["__doc__"] ++
    partsOf .function ["__init__"] ++
    [⟨"__dict__", .quality, "", ["dictionary for instance variables"]⟩,
     ⟨"__weakref__", .quality, "", ["list of weak references to the object"]⟩]

/-- The kind `enum.nonmember`. -/
def unmarkedMemberEntry : KindEntry where
  name := "nonmember"
  home := "enum"
  measures := [24, 0, 546320, -48, 16]
  about := ["", "    Protects item from becoming an Enum member during class creation.", "    "]
  parts :=
    partsOf .home ["__module__"] ++
    partsOf .account ["__doc__"] ++
    partsOf .function ["__init__"] ++
    [⟨"__dict__", .quality, "", ["dictionary for instance variables"]⟩,
     ⟨"__weakref__", .quality, "", ["list of weak references to the object"]⟩]

/-- The kind `enum.verify`. -/
def verifyEntry : KindEntry where
  name := "verify"
  home := "enum"
  measures := [24, 0, 546320, -48, 16]
  about := ["", "    Check an enumeration for various constraints. (see EnumCheck)", "    "]
  parts :=
    partsOf .home ["__module__"] ++
    partsOf .account ["__doc__"] ++
    partsOf .function ["__init__ __call__"] ++
    [⟨"__dict__", .quality, "", ["dictionary for instance variables"]⟩,
     ⟨"__weakref__", .quality, "", ["list of weak references to the object"]⟩]

/-- The kind `enum._EnumDict`. -/
def enumDictEntry : KindEntry where
  name := "_EnumDict"
  home := "enum"
  above := ["dict", "object"]
  measures := [56, 0, 541611600, -80, 48]
  about := ["", "    Track enum member order and ensure member names are not reused.", "",
    "    EnumType will use the names found in self._member_names as the",
    "    enumeration member names.", "    "]
  parts :=
    partsOf .home ["__module__"] ++
    partsOf .account ["__doc__"] ++
    partsOf .function ["__init__"] ++
    [⟨"__setitem__", .function, "", ["",
       "        Changes anything not dundered or not a descriptor.", "",
       "        If an enum member name is used twice, an error is raised; duplicate",
       "        values are not checked for.", "",
       "        Single underscore (sunder) names are reserved.", "        "]⟩,
     ⟨"update", .function, "", []⟩,
     ⟨"__dict__", .quality, "", ["dictionary for instance variables"]⟩,
     ⟨"__weakref__", .quality, "", ["list of weak references to the object"]⟩]

/-- The kind `enum._proto_member`. -/
def protoMemberEntry : KindEntry where
  name := "_proto_member"
  home := "enum"
  measures := [24, 0, 546320, -48, 16]
  about := ["",
    "    intermediate step for enum members between class execution and final creation", "    "]
  parts :=
    partsOf .home ["__module__"] ++
    partsOf .account ["__doc__"] ++
    partsOf .function ["__init__"] ++
    [⟨"__set_name__", .function, "", ["",
       "        convert each quasi-member into an instance of the new enum class", "        "]⟩,
     ⟨"__dict__", .quality, "", ["dictionary for instance variables"]⟩,
     ⟨"__weakref__", .quality, "", ["list of weak references to the object"]⟩]

/-- The kind `enum._auto_null`. -/
def autoNullEntry : KindEntry where
  name := "_auto_null"
  home := "enum"
  measures := [24, 0, 546320, -48, 16]
  parts :=
    partsOf .home ["__module__"] ++
    partsOf .function ["__repr__"] ++
    [⟨"__dict__", .quality, "", ["dictionary for instance variables"]⟩,
     ⟨"__weakref__", .quality, "", ["list of weak references to the object"]⟩,
     ⟨"__doc__", .account, "", []⟩]

/-- The kinds of this module. -/
def flagsEntries : List KindEntry :=
  [reprEnumEntry, flagEntry, intEnumEntry, strEnumEntry, intFlagEntry, flagBoundaryEntry,
    enumCheckEntry, autoEntry, markedMemberEntry, unmarkedMemberEntry, verifyEntry, enumDictEntry,
    protoMemberEntry, autoNullEntry]

end DiceChat.Catalogue
