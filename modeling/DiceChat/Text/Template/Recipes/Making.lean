import DiceChat.Text.Template.Hint

/-! Recipes of the functions that records and fixed lists are made with. -/

namespace DiceChat.Recipes

/-- The code of a function inside another one. -/
def makingInner1 : Code :=
  { path := "dataclass.<locals>.wrap", arguments := 1, stack := 13, flags := 19, line := 1221,
    holders := ["cls"], names := ["_process_class"],
    free := ["eq frozen init kw_only match_args order repr slots unsafe_hash weakref_slot"],
    constants := [.nothing] }

/-- The code of a function inside another one. -/
def makingInner2 : Code :=
  { path := "_make_class_unpicklable.<locals>._break_on_call_reduce", arguments := 2, stack := 4,
    flags := 19, line := 108, holders := ["self proto"], names := ["TypeError"],
    constants := [.nothing, .say "%r cannot be pickled"] }

/-- The code of a function inside another one. -/
def makingInner3 : Code :=
  { path := "unique.<locals>.<listcomp>", arguments := 1, stack := 5, flags := 19, line := 1585,
    holders := [".0 alias name"], constants := [.say " -> "] }

/-- The code of a function inside another one. -/
def makingInner4 : Code :=
  { path := "global_flag_repr.<locals>.<listcomp>", arguments := 1, stack := 5, flags := 19,
    line := 1617, holders := [".0 name"], free := ["module"], constants := [.say "."] }

/-- The code of a function inside another one. -/
def makingInner5 : Code :=
  { path := "_simple_enum.<locals>.convert_class.<locals>.<listcomp>", arguments := 1, stack := 3,
    flags := 19, line := 1772, holders := [".0 m"], names := ["_value_"], constants := [] }

/-- The code of a function inside another one. -/
def makingInner6 : Code :=
  { path := "_simple_enum.<locals>.convert_class", arguments := 1, stack := 8, flags := 19,
    line := 1668,
    holders := ["cls cls_name __new__ new_member attrs body gnv member_names member_map",
    "value2member_map member_type name obj enum_class enum_method found_method",
    "object_method data_type_method gnv_last_values single_bits multi_bits value redirect",
    "member member_list"],
    names := ["__name__ _use_args_ __dict__ get __func__ _member_type_ __new__",
    "_generate_next_value_ _value_repr_ issubclass Flag _boundary_ __or__ __xor__ __and__",
    "__ror__ __rxor__ __rand__ __invert__ items _is_dunder _is_private _is_sunder",
    "_is_descriptor type getattr object setattr isinstance auto value _auto_null len",
    "property __set_name__ tuple _value_ _name_ __objclass__ __init__ _sort_order_",
    "_is_single_bit append _flag_mask_ _singles_mask_ bit_length _all_bits_ sorted",
    "_iter_member_by_def_ _iter_member_ __new_member__ Enum"],
    free := ["boundary etype use_args"], constants := [.nothing, .say "__new__",
    .say "__new_member__", .say "_new_member_", .say "_use_args_", .say "_generate_next_value_",
    .say "_member_names_", .say "_member_map_", .say "_value2member_map_",
    .say "_unhashable_values_", .say "_member_type_", .say "_value_repr_", .say "_boundary_",
    .say "_flag_mask_", .say "_all_bits_", .say "_singles_mask_", .say "_inverted_",
    .say "__or__", .say "__xor__", .say "__and__", .say "__ror__", .say "__rxor__",
    .say "__rand__", .say "__invert__", .row [.say "__dict__", .say "__weakref__"],
    .say "__doc__", .say "An enumeration.", .truth true, .row [.say "boundary", .say "_simple"],
    .row [.say "__repr__", .say "__str__", .say "__format__", .say "__reduce_ex__"], .whole 0,
    .whole 1, .whole 2, makingInner5.subject] }

/-- The code of a function inside another one. -/
def makingInner7 : Code :=
  { path := "_old_convert_.<locals>.<listcomp>", arguments := 1, stack := 5, flags := 19,
    line := 2050, holders := [".0 name value"], free := ["filter"], constants := [] }

/-- The code of a function inside another one. -/
def makingInner8 : Code :=
  { path := "_old_convert_.<locals>.<lambda>", arguments := 1, stack := 3, flags := 19,
    line := 2056, holders := ["t"], constants := [.nothing, .whole 1, .whole 0] }

/-- The code of a function inside another one. -/
def makingInner9 : Code :=
  { path := "_old_convert_.<locals>.<lambda>", arguments := 1, stack := 2, flags := 19,
    line := 2059, holders := ["t"], constants := [.nothing, .whole 0] }

/-- The recipe of the function that makes kinds of records. -/
def recordMaking : Recipe where
  collection := "dataclasses"
  code :=
    { path := "dataclass", arguments := 1, unnamed := 1, onlyNamed := 10, stack := 10,
      flags := 3, line := 1204, holders :=
      ["cls init repr eq order unsafe_hash frozen match_args kw_only slots weakref_slot wrap"],
      cells :=
      ["init repr eq order unsafe_hash frozen match_args kw_only slots weakref_slot"],
      constants := [.sayLines ["Add dunder methods based on the fields defined in the class.",
      "", "    Examines PEP 526 __annotations__ to determine fields.", "",
      "    If init is true, an __init__() method is added to the class. If repr",
      "    is true, a __repr__() method is added. If order is true, rich",
      "    comparison dunder methods are added. If unsafe_hash is true, a",
      "    __hash__() method is added. If frozen is true, fields may not be",
      "    assigned to after instance creation. If match_args is true, the",
      "    __match_args__ tuple is added. If kw_only is true, then by default",
      "    all fields are keyword-only. If slots is true, a new class with a",
      "    __slots__ attribute is returned.", "    "], makingInner1.subject] }
  defaults := .row [.nothing]
  namedDefaults := .table [entry "init" (.truth true), entry "repr" (.truth true),
    entry "eq" (.truth true), entry "order" (.truth false),
    entry "unsafe_hash" (.truth false), entry "frozen" (.truth false),
    entry "match_args" (.truth true), entry "kw_only" (.truth false),
    entry "slots" (.truth false), entry "weakref_slot" (.truth false)]

/-- The code of a function inside another one. -/
def toolInner1 : Code :=
  { path := "fields.<locals>.<genexpr>", arguments := 1, stack := 3, flags := 51, line := 1250,
    holders := [".0 f"], names := ["_field_type _FIELD"], constants := [.nothing] }

/-- The functions that take records apart. -/
def recordTools : List (String × Recipe) :=
  [("asdict",
    { collection := "dataclasses"
      code :=
        { path := "asdict", arguments := 1, onlyNamed := 1, stack := 4, flags := 3, line := 1265,
          holders := ["obj dict_factory"],
          names := ["_is_dataclass_instance TypeError _asdict_inner"], constants :=
          [.sayLines ["Return the fields of a dataclass instance as a new dictionary mapping",
          "    field names to field values.", "", "    Example usage::", "", "      @dataclass",
          "      class C:", "          x: int", "          y: int", "", "      c = C(1, 2)",
          "      assert asdict(c) == \x7b'x': 1, 'y': 2\x7d", "",
          "    If given, 'dict_factory' will be used instead of built-in dict.",
          "    The function applies recursively to field values that are",
          "    dataclass instances. This will also look into built-in containers:",
          "    tuples, lists, and dicts.", "    "],
          .say "asdict() should be called on dataclass instances"] }
      namedDefaults := .table [entry "dict_factory" (.kind .table)] }),
   ("fields",
    { collection := "dataclasses"
      code :=
        { path := "fields", arguments := 1, stack := 5, flags := 3, line := 1235,
          holders := ["class_or_instance fields"],
          names := ["getattr _FIELDS AttributeError TypeError tuple values"],
          constants := [.sayLines ["Return a tuple describing the fields of this dataclass.", "",
          "    Accepts a dataclass or an instance of one. Tuple elements are of",
          "    type Field.", "    "], .say "must be called with a dataclass type or instance",
          .nothing, toolInner1.subject] } })]

/-- The functions that fixed lists are made with. -/
def choiceMaking : List (String × Recipe) :=
  [("_is_descriptor",
    { collection := "enum"
      code :=
        { path := "_is_descriptor", arguments := 1, stack := 4, flags := 3, line := 38,
          holders := ["obj"], names := ["hasattr"], constants := [.sayLines ["",
          "    Returns True if obj is a descriptor, False otherwise.", "    "], .say "__get__",
          .say "__set__", .say "__delete__"] } }),
   ("_is_dunder",
    { collection := "enum"
      code :=
        { path := "_is_dunder", arguments := 1, stack := 4, flags := 3, line := 48,
          holders := ["name"], names := ["len"], constants := [.sayLines ["",
          "    Returns True if a __dunder__ name, False otherwise.", "    "], .whole 4, .nothing,
          .whole 2, .whole (-2), .say "__", .say "_", .whole (-3)] } }),
   ("_is_sunder",
    { collection := "enum"
      code :=
        { path := "_is_sunder", arguments := 1, stack := 3, flags := 3, line := 59,
          holders := ["name"], names := ["len"], constants := [.sayLines ["",
          "    Returns True if a _sunder_ name, False otherwise.", "    "], .whole 2, .whole 0,
          .whole (-1), .say "_", .whole 1, .whole (-2)] } }),
   ("_is_internal_class",
    { collection := "enum"
      code :=
        { path := "_is_internal_class", arguments := 2, stack := 6, flags := 3, line := 70,
          holders := ["cls_name obj qualname s_pattern e_pattern"],
          names := ["isinstance type getattr endswith"], constants := [.nothing, .truth false,
          .say "__qualname__", .say "", .say ".", .say "__name__"] } }),
   ("_is_private",
    { collection := "enum"
      code :=
        { path := "_is_private", arguments := 2, stack := 4, flags := 3, line := 79,
          holders := ["cls_name name pattern pat_len"], names := ["len startswith"],
          constants := [.nothing, .say "_", .say "__", .whole 1, .whole (-1), .whole (-2),
          .truth true, .truth false] } }),
   ("_is_single_bit",
    { collection := "enum"
      code :=
        { path := "_is_single_bit", arguments := 1, stack := 3, flags := 3, line := 93,
          holders := ["num"], constants := [.sayLines ["",
          "    True if only one bit set in num (should be an int)", "    "], .whole 0,
          .truth false, .whole 1] } }),
   ("_make_class_unpicklable",
    { collection := "enum"
      code :=
        { path := "_make_class_unpicklable", arguments := 1, stack := 5, flags := 3, line := 102,
          holders := ["obj _break_on_call_reduce"], names := ["isinstance dict setattr"],
          constants := [.sayLines ["", "    Make the given obj un-picklable.", "",
          "    obj should be either a dictionary, or an Enum", "    "], makingInner2.subject,
          .say "__reduce_ex__", .say "<unknown>", .say "__module__", .nothing] } }),
   ("_iter_bits_lsb",
    { collection := "enum"
      code :=
        { path := "_iter_bits_lsb", arguments := 1, stack := 4, flags := 35, line := 117,
          holders := ["num original b"], names := ["isinstance Enum value ValueError"],
          constants := [.nothing, .whole 0, .say "%r is not a positive integer", .whole 1] } }),
   ("show_flag_values",
    { collection := "enum"
      code :=
        { path := "show_flag_values", arguments := 1, stack := 5, flags := 3, line := 129,
          holders := ["value"], names := ["list _iter_bits_lsb"], constants := [.nothing] } }),
   ("bin",
    { collection := "enum"
      code :=
        { path := "bin", arguments := 2, stack := 5, flags := 3, line := 132,
          holders := ["num max_bits ceiling s sign digits"],
          names := ["bit_length bltns bin replace len"], constants := [.sayLines ["",
          "    Like built-in bin(), except negative values are represented in",
          "    twos-compliment, and the leading bit always indicates sign",
          "    (0=positive, 1=negative).", "", "    >>> bin(10)", "    '0b0 1010'",
          "    >>> bin(~10)   # ~10 is -11", "    '0b1 0101'", "    "], .whole 2, .whole 0,
          .say "1", .say "0", .whole 1, .nothing, .whole 3, .whole (-1), .say " "] }
      defaults := .row [.nothing] }),
   ("_dedent",
    { collection := "enum"
      code :=
        { path := "_dedent", arguments := 1, stack := 4, flags := 3, line := 156,
          holders := ["text lines blanks i ch j l"], names := ["split enumerate join"],
          constants := [.sayLines ["",
          "    Like textwrap.dedent.  Rewritten because we cannot import textwrap.", "    "],
          .sayLines ["", ""], .whole 0, .say " ", .nothing] } }),
   ("pickle_by_global_name",
    { collection := "enum"
      code :=
        { path := "pickle_by_global_name", arguments := 2, stack := 1, flags := 3, line := 1308,
          holders := ["self proto"], names := ["name"], constants := [.nothing] } }),
   ("pickle_by_enum_name",
    { collection := "enum"
      code :=
        { path := "pickle_by_enum_name", arguments := 2, stack := 3, flags := 3, line := 1313,
          holders := ["self proto"], names := ["getattr __class__ _name_"],
          constants := [.nothing] } }),
   ("_high_bit",
    { collection := "enum"
      code :=
        { path := "_high_bit", arguments := 1, stack := 2, flags := 3, line := 1569,
          holders := ["value"], names := ["bit_length"], constants := [.sayLines ["",
          "    returns index of highest bit, or -1 if value is zero or negative", "    "],
          .whole 1] } }),
   ("unique",
    { collection := "enum"
      code :=
        { path := "unique", arguments := 1, stack := 6, flags := 3, line := 1575,
          holders := ["enumeration duplicates name member alias_details"],
          names := ["__members__ items name append join ValueError"], constants := [.sayLines ["",
          "    Class decorator for enumerations ensuring unique member values.", "    "],
          .say ", ", makingInner3.subject, .say "duplicate values found in ", .say ": "] } }),
   ("_power_of_two",
    { collection := "enum"
      code :=
        { path := "_power_of_two", arguments := 1, stack := 5, flags := 3, line := 1590,
          holders := ["value"], names := ["_high_bit"], constants := [.nothing, .whole 1,
          .truth false, .whole 2] } }),
   ("global_enum_repr",
    { collection := "enum"
      code :=
        { path := "global_enum_repr", arguments := 1, stack := 3, flags := 3, line := 1595,
          holders := ["self module"], names := ["__class__ __module__ split _name_"],
          constants := [.sayLines ["", "    use module.enum_name instead of class.enum_name", "",
          "    the module is the last module in case of a multi-module name", "    "], .say ".",
          .whole (-1)] } }),
   ("global_flag_repr",
    { collection := "enum"
      code :=
        { path := "global_flag_repr", arguments := 1, stack := 6, flags := 3, line := 1604,
          holders := ["self cls_name name n"], names :=
          ["__class__ __module__ split __name__ _name_ _value_ _is_single_bit _boundary_",
          "FlagBoundary KEEP join name isdigit append"], cells := ["module"],
          constants := [.sayLines ["", "    use module.flag_name instead of class.flag_name", "",
          "    the module is the last module in case of a multi-module name", "    "], .say ".",
          .whole (-1), .nothing, .say "(", .say ")", .say "|", makingInner4.subject, .whole 0] } }),
   ("global_str",
    { collection := "enum"
      code :=
        { path := "global_str", arguments := 1, stack := 4, flags := 3, line := 1627,
          holders := ["self cls_name"], names := ["_name_ __class__ __name__ _value_"],
          constants := [.sayLines ["", "    use enum_name instead of class.enum_name", "    "],
          .nothing, .say "(", .say ")"] } }),
   ("global_enum",
    { collection := "enum"
      code :=
        { path := "global_enum", arguments := 2, stack := 4, flags := 3, line := 1637,
          holders := ["cls update_str"], names :=
          ["issubclass Flag global_flag_repr __repr__ global_enum_repr ReprEnum global_str",
          "__str__ sys modules __module__ __dict__ update __members__"],
          constants := [.sayLines ["",
          "    decorator that makes the repr() of an enum member reference its module",
          "    instead of its class; also exports all members to the enum's module's",
          "    global namespace", "    "]] }
      defaults := .row [.truth false] }),
   ("_simple_enum",
    { collection := "enum"
      code :=
        { path := "_simple_enum", arguments := 1, onlyNamed := 2, stack := 3, flags := 3,
          line := 1652, holders := ["etype boundary use_args convert_class"],
          cells := ["etype boundary use_args"], constants := [.sayLines ["",
          "    Class decorator that converts a normal class into an :class:`Enum`.  No",
          "    safety checks are done, and some advanced behavior (such as",
          "    :func:`__init_subclass__`) is not available.  Enum creation can be faster",
          "    using :func:`simple_enum`.", "", "        >>> from enum import Enum, _simple_enum",
          "        >>> @_simple_enum(Enum)", "        ... class Color:",
          "        ...     RED = auto()", "        ...     GREEN = auto()",
          "        ...     BLUE = auto()", "        >>> Color", "        <enum 'Color'>", "    "],
          makingInner6.subject] }
      defaults := .row [.kind .choice]
      namedDefaults := .table [entry "boundary" (.nothing), entry "use_args" (.nothing)] }),
   ("_test_simple_enum",
    { collection := "enum"
      code :=
        { path := "_test_simple_enum", arguments := 2, stack := 10, flags := 3, line := 1912,
          holders :=
          ["checked_enum simple_enum failed checked_dict checked_keys simple_dict simple_keys",
          "member_names key checked_value simple_value compressed_checked_value",
          "compressed_simple_value name failed_member checked_member_dict checked_member_keys",
          "simple_member_dict simple_member_keys method checked_method simple_method"], names :=
          ["__dict__ list keys set _member_map_ append callable isinstance bltns property",
          "replace sort join getattr hasattr __func__ TypeError"], constants := [.sayLines ["",
          "    A function that can be used to test an enum created with :func:`_simple_enum`",
          "    against the version created by subclassing :class:`Enum`::", "",
          "        >>> from enum import Enum, _simple_enum, _test_simple_enum",
          "        >>> @_simple_enum(Enum)", "        ... class Color:",
          "        ...     RED = auto()", "        ...     GREEN = auto()",
          "        ...     BLUE = auto()", "        >>> class CheckedColor(Enum):",
          "        ...     RED = auto()", "        ...     GREEN = auto()",
          "        ...     BLUE = auto()", "        >>> _test_simple_enum(CheckedColor, Color)",
          "", "    If differences are found, a :exc:`TypeError` is raised.", "    "],
          .row [.say "__module__", .say "_member_map_", .say "_value2member_map_",
          .say "__doc__"], .say "missing key: ", .say "extra key:   ", .say "__doc__", .say " ",
          .say "", .say "\t", .sayLines [":", "         "], .say "checked -> ", .sayLines ["",
          "         "], .say "simple  -> ", .say "missing member from simple enum: %r",
          .say "extra member in simple enum: %r", .row [.say "__module__", .say "__objclass__",
          .say "_inverted_"], .say "missing key ", .say " not in the simple enum member ",
          .say "extra key ", .say " in simple enum member ", .say "checked member -> ",
          .say "simple member  -> ", .sayLines [" member mismatch:", "      "], .sayLines ["",
          "      "], .row [.say "__str__", .say "__repr__", .say "__reduce_ex__",
          .say "__format__", .say "__getnewargs_ex__", .say "__getnewargs__",
          .say "__reduce_ex__", .say "__reduce__"], .nothing, .say "__func__", .say ":  ",
          .say "30", .say "simple -> ", .sayLines ["enum mismatch:", "   %s"], .sayLines ["",
          "   "]] } }),
   ("_old_convert_",
    { collection := "enum"
      code :=
        { path := "_old_convert_", arguments := 5, onlyNamed := 1, stack := 6, flags := 3,
          line := 2033,
          holders := ["etype name module filter source boundary module_globals members cls"],
          names := ["sys modules __dict__ items sort TypeError KEEP"], cells := ["filter"],
          constants := [.sayLines ["",
          "    Create a new Enum subclass that replaces a collection of global constants",
          "    "], makingInner7.subject, makingInner8.subject, .row [.say "key"],
          makingInner9.subject, .row [.say "module", .say "boundary"]] }
      defaults := .row [.nothing]
      namedDefaults := .table [entry "boundary" (.nothing)] })]

end DiceChat.Recipes
