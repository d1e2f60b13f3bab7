import DiceChat.Text.Template.Hint

/-! Recipes of the functions of fixed lists. -/

namespace DiceChat.Recipes

/-- The code of a function inside another one. -/
def listInner1 : Code :=
  { path := "EnumType.__new__.<locals>.<genexpr>", arguments := 1, stack := 4, flags := 51,
    line := 521, holders := [".0 n"], names := ["repr"], constants := [.nothing] }

/-- The code of a function inside another one. -/
def listInner2 : Code :=
  { path := "EnumType.__new__.<locals>.<listcomp>", arguments := 1, stack := 3, flags := 19,
    line := 652, holders := [".0 m"], names := ["_value_"], constants := [] }

/-- The code of a function inside another one. -/
def listInner3 : Code :=
  { path := "EnumType.__new__.<locals>.<listcomp>", arguments := 1, stack := 6, flags := 19,
    line := 657, holders := [".0 o"], names := ["_member_map_ _is_single_bit _value_"],
    free := ["enum_class"], constants := [] }

/-- The code of a function inside another one. -/
def listInner4 : Code :=
  { path := "EnumType.__new__.<locals>.<listcomp>", arguments := 1, stack := 4, flags := 19,
    line := 665, holders := [".0 o"], names := ["_member_map_ _member_names_"],
    free := ["enum_class"], constants := [] }

/-- The code of a function inside another one. -/
def listInner5 : Code :=
  { path := "EnumType.__iter__.<locals>.<genexpr>", arguments := 1, stack := 3, flags := 51,
    line := 798, holders := [".0 name"], names := ["_member_map_"], free := ["cls"],
    constants := [.nothing] }

/-- The code of a function inside another one. -/
def listInner6 : Code :=
  { path := "EnumType.__reversed__.<locals>.<genexpr>", arguments := 1, stack := 3, flags := 51,
    line := 826, holders := [".0 name"], names := ["_member_map_"], free := ["cls"],
    constants := [.nothing] }

/-- The code of a function inside another one. -/
def listInner7 : Code :=
  { path := "EnumType._convert_.<locals>.<listcomp>", arguments := 1, stack := 5, flags := 19,
    line := 912, holders := [".0 name value"], free := ["filter"], constants := [] }

/-- The code of a function inside another one. -/
def listInner8 : Code :=
  { path := "EnumType._convert_.<locals>.<lambda>", arguments := 1, stack := 3, flags := 19,
    line := 918, holders := ["t"], constants := [.nothing, .whole 1, .whole 0] }

/-- The code of a function inside another one. -/
def listInner9 : Code :=
  { path := "EnumType._convert_.<locals>.<lambda>", arguments := 1, stack := 2, flags := 19,
    line := 921, holders := ["t"], constants := [.nothing, .whole 0] }

/-- The code of a function inside another one. -/
def listInner10 : Code :=
  { path := "EnumType._convert_.<locals>.<dictcomp>", arguments := 1, stack := 5, flags := 19,
    line := 922, holders := [".0 t"], constants := [.whole 0, .whole 1] }

/-- The recipes of this module, by the titles of their functions. -/
def listRecipes : List (String × Recipe) :=
  [("enum.EnumType.__prepare__",
    { collection := "enum"
      code :=
        { path := "EnumType.__prepare__", arguments := 3, stack := 5, flags := 11, line := 484,
          holders := ["metacls cls bases kwds enum_dict member_type first_enum"],
          names := ["_check_for_existing_members_ _EnumDict _cls_name _get_mixins_ getattr"],
          constants := [.nothing, .say "_generate_next_value_"] } }),
   ("enum.EnumType.__new__",
    { collection := "enum"
      code :=
        { path := "EnumType.__new__", arguments := 4, onlyNamed := 2, stack := 7, flags := 11,
          line := 499,
          holders := ["metacls cls bases classdict boundary _simple kwds ignore key member_names",
          "invalid_names _order_ member_type first_enum __new__ save_new use_args name value",
          "exc e method enum_method found_method object_method data_type_method member_list"],
          names :=
          ["super __new__ setdefault append pop _member_names set ValueError join dict items",
          "_get_mixins_ _find_new_ _proto_member _find_data_repr_ getattr RuntimeError",
          "__cause__ update __dict__ ReprEnum object TypeError __format__ __str__ __repr__",
          "setattr Flag issubclass Enum __new_member__ isinstance str replace split delattr",
          "sorted _iter_member_by_def_ _iter_member_ _member_names_"], cells := ["enum_class"],
          free := ["__class__"], constants := [.nothing, .say "_ignore_", .say "mro", .say "",
          .say "invalid enum member name(s) %s", .say ",", listInner1.subject, .say "_order_",
          .say "_new_member_", .say "_use_args_", .say "_member_names_", .say "_member_map_",
          .say "_value2member_map_", .say "_unhashable_values_", .say "_member_type_",
          .say "_value_repr_", .say "_boundary_", .whole 0, .say "_flag_mask_",
          .say "_singles_mask_", .say "_all_bits_", .say "_inverted_",
          .say "ReprEnum subclasses must be mixed with a data type (i.e. int, str, float, etc.)",
          .say "__format__", .say "__str__", .row [.say "__repr__", .say "__str__",
          .say "__format__", .say "__reduce_ex__"], .row [.say "__or__", .say "__and__",
          .say "__xor__", .say "__ror__", .say "__rand__", .say "__rxor__", .say "__invert__"],
          .say " ", .say "Flag", listInner2.subject, listInner3.subject, listInner4.subject,
          .sayLines ["member order does not match _order_:", "  "], .sayLines ["", "  "]] }
      namedDefaults := .table [entry "boundary" (.nothing), entry "_simple" (.truth false)]
      shared := .row [cell (.kind .choiceKind)] }),
   ("enum.EnumType.__bool__",
    { collection := "enum"
      code :=
        { path := "EnumType.__bool__", arguments := 1, stack := 1, flags := 3, line := 682,
          holders := ["cls"], constants := [.sayLines ["",
          "        classes/types should always be True.", "        "], .truth true] } }),
   ("enum.EnumType.__call__",
    { collection := "enum"
      code :=
        { path := "EnumType.__call__", arguments := 3, onlyNamed := 5, stack := 9, flags := 3,
          line := 688, holders := ["cls value names module qualname type start boundary"],
          names := ["__new__ _create_"], constants := [.sayLines ["",
          "        Either returns an existing member, or creates a new enum class.", "",
          "        This method is used both when an enum class is given a value to match",
          "        to an enumeration member (i.e. Color(3)) and for the functional API",
          "        (i.e. Color = Enum('Color', names='RED GREEN BLUE')).", "",
          "        When used for the functional API:", "",
          "        `value` will be the name of the new class.", "",
          "        `names` should be either a string of white-space/comma delimited names",
          "        (values will start at `start`), or an iterator/mapping of name, value pairs.",
          "", "        `module` should be set to the module this class is being created in;",
          "        if it is not set, an attempt to find that module will be made, but if",
          "        it fails the class will not be picklable.", "",
          "        `qualname` should be set to the actual location this class can be found",
          "        at in its module; by default it is set to the global scope.  If this is",
          "        not correct, unpickling will fail in some circumstances.", "",
          "        `type`, if set, will be mixed in as the first base class.", "        "],
          .nothing, .row [.say "module", .say "qualname", .say "type", .say "start",
          .say "boundary"]] }
      defaults := .row [.nothing]
      namedDefaults := .table [entry "module" (.nothing), entry "qualname" (.nothing),
        entry "type" (.nothing), entry "start" (.whole 1), entry "boundary" (.nothing)] }),
   ("enum.EnumType.__contains__",
    { collection := "enum"
      code :=
        { path := "EnumType.__contains__", arguments := 2, stack := 7, flags := 3, line := 726,
          holders := ["cls member warnings"], names :=
          ["isinstance Enum warnings warn DeprecationWarning TypeError type __qualname__",
          "__class__ _name_ _member_map_"], constants := [.sayLines ["",
          "        Return True if member is a member of this enum",
          "        raises TypeError if member is not an enum member", "",
          "        note: in 3.12 TypeError will no longer be raised, and True will also be",
          "        returned if member is the value of a member in this enum", "        "],
          .whole 0, .nothing,
          .sayLines ["in 3.12 __contains__ will no longer raise TypeError, but will return True or",
          "False depending on whether the value is a member or the value of a member"], .whole 2,
          .row [.say "stacklevel"], .say "unsupported operand type(s) for 'in': '",
          .say "' and '", .say "'"] } }),
   ("enum.EnumType.__delattr__",
    { collection := "enum"
      code :=
        { path := "EnumType.__delattr__", arguments := 2, stack := 6, flags := 3, line := 747,
          holders := ["cls attr"],
          names := ["_member_map_ AttributeError __name__ super __delattr__"],
          free := ["__class__"], constants := [.nothing, .say " cannot delete member ",
          .say "."] }
      shared := .row [cell (.kind .choiceKind)] }),
   ("enum.EnumType.__dir__",
    { collection := "enum"
      code :=
        { path := "EnumType.__dir__", arguments := 1, stack := 7, flags := 3, line := 754,
          holders := ["cls interesting"], names :=
          ["set _member_names_ _new_member_ object __new__ add __init_subclass__ _member_type_",
          "sorted dir"], constants := [.nothing, .row [.say "__class__", .say "__contains__",
          .say "__doc__", .say "__getitem__", .say "__iter__", .say "__len__", .say "__members__",
          .say "__module__", .say "__name__", .say "__qualname__"], .say "__new__",
          .say "__init_subclass__"] } }),
   ("enum.EnumType.__getattr__",
    { collection := "enum"
      code :=
        { path := "EnumType.__getattr__", arguments := 2, stack := 4, flags := 3, line := 772,
          holders := ["cls name"], names := ["_is_dunder AttributeError _member_map_ KeyError"],
          constants := [.sayLines ["", "        Return the enum member matching `name`", "",
          "        We use __getattr__ instead of descriptors or inserting into the enum",
          "        class' __dict__ in order to support `name` and `value` being both",
          "        properties for enum members (which live in the class' __dict__) and",
          "        enum members themselves.", "        "], .nothing] } }),
   ("enum.EnumType.__getitem__",
    { collection := "enum"
      code :=
        { path := "EnumType.__getitem__", arguments := 2, stack := 2, flags := 3, line := 788,
          holders := ["cls name"], names := ["_member_map_"], constants := [.sayLines ["",
          "        Return the member matching `name`.", "        "]] } }),
   ("enum.EnumType.__iter__",
    { collection := "enum"
      code :=
        { path := "EnumType.__iter__", arguments := 1, stack := 2, flags := 3, line := 794,
          holders := ["cls"], names := ["_member_names_"], cells := ["cls"],
          constants := [.sayLines ["", "        Return members in definition order.", "        "],
          listInner5.subject] } }),
   ("enum.EnumType.__len__",
    { collection := "enum"
      code :=
        { path := "EnumType.__len__", arguments := 1, stack := 3, flags := 3, line := 800,
          holders := ["cls"], names := ["len _member_names_"], constants := [.sayLines ["",
          "        Return the number of members (no aliases)", "        "]] } }),
   ("enum.EnumType.__members__",
    { collection := "enum"
      code :=
        { path := "EnumType.__members__", arguments := 1, stack := 3, flags := 3, line := 806,
          holders := ["cls"], names := ["MappingProxyType _member_map_"],
          constants := [.sayLines ["", "        Returns a mapping of member name->value.", "",
          "        This mapping lists all enum members, including aliases. Note that this",
          "        is a read-only view of the internal mapping.", "        "]] } }),
   ("enum.EnumType.__repr__",
    { collection := "enum"
      code :=
        { path := "EnumType.__repr__", arguments := 1, stack := 4, flags := 3, line := 816,
          holders := ["cls"], names := ["Flag issubclass __name__"], constants := [.nothing,
          .say "<flag %r>", .say "<enum %r>"] } }),
   ("enum.EnumType.__reversed__",
    { collection := "enum"
      code :=
        { path := "EnumType.__reversed__", arguments := 1, stack := 4, flags := 3, line := 822,
          holders := ["cls"], names := ["reversed _member_names_"], cells := ["cls"],
          constants := [.sayLines ["", "        Return members in reverse definition order.",
          "        "], listInner6.subject] } }),
   ("enum.EnumType.__setattr__",
    { collection := "enum"
      code :=
        { path := "EnumType.__setattr__", arguments := 3, stack := 4, flags := 3, line := 828,
          holders := ["cls name value member_map"],
          names := ["__dict__ get AttributeError super __setattr__"], free := ["__class__"],
          constants := [.sayLines ["", "        Block attempts to reassign Enum members.", "",
          "        A simple assignment to the class namespace only changes one of the",
          "        several possible ways to get an Enum member from the Enum class,",
          "        resulting in an inconsistent Enumeration.", "        "], .say "_member_map_",
          .say "cannot reassign member ", .nothing] }
      shared := .row [cell (.kind .choiceKind)] }),
   ("enum.EnumType._create_",
    { collection := "enum"
      code :=
        { path := "EnumType._create_", arguments := 3, onlyNamed := 5, stack := 9, flags := 3,
          line := 841, holders :=
          ["cls class_name names module qualname type start boundary metacls bases _ first_enum",
          "classdict original_names last_values count name value item member_name member_value"],
          names :=
          ["__class__ _get_mixins_ __prepare__ isinstance str replace split tuple list enumerate",
          "_generate_next_value_ append sys _getframe f_globals AttributeError ValueError",
          "KeyError _make_class_unpicklable __new__"], constants := [.sayLines ["",
          "        Convenience method to create a new Enum class.", "", "        `names` can be:",
          "", "        * A string containing member names, separated either with spaces or",
          "          commas.  Values are incremented by 1 from `start`.",
          "        * An iterable of member names.  Values are incremented by 1 from `start`.",
          "        * An iterable of (member name, value) pairs.",
          "        * A mapping of member name -> value pairs.", "        "], .nothing, .say ",",
          .say " ", .whole 0, .row [], .whole 2, .say "__name__", .say "__module__",
          .say "__qualname__", .row [.say "boundary"]] }
      namedDefaults := .table [entry "module" (.nothing), entry "qualname" (.nothing),
        entry "type" (.nothing), entry "start" (.whole 1), entry "boundary" (.nothing)] }),
   ("enum.EnumType._convert_",
    { collection := "enum"
      code :=
        { path := "EnumType._convert_", arguments := 5, onlyNamed := 2, stack := 5, flags := 3,
          line := 895, holders :=
          ["cls name module filter source boundary as_global module_globals members body tmp_cls"],
          names :=
          ["sys modules __dict__ items sort TypeError type object _simple_enum KEEP global_enum",
          "__module__ update __members__"], cells := ["filter"], constants := [.sayLines ["",
          "        Create a new Enum subclass that replaces a collection of global constants",
          "        "], listInner7.subject, listInner8.subject, .row [.say "key"],
          listInner9.subject, listInner10.subject, .say "__module__", .row [.say "etype",
          .say "boundary"]] }
      defaults := .row [.nothing]
      namedDefaults := .table [entry "boundary" (.nothing), entry "as_global" (.truth false)] }),
   ("enum.EnumType._check_for_existing_members_",
    { collection := "enum"
      code :=
        { path := "EnumType._check_for_existing_members_", arguments := 3, stack := 8, flags := 3,
          line := 933, holders := ["mcls class_name bases chain base"],
          names := ["__mro__ isinstance EnumType _member_names_ TypeError"],
          constants := [.nothing, .say "<enum ", .say "> cannot extend "] } }),
   ("enum.EnumType._get_mixins_",
    { collection := "enum"
      code :=
        { path := "EnumType._get_mixins_", arguments := 3, stack := 4, flags := 3, line := 943,
          holders := ["mcls class_name bases first_enum member_type"],
          names := ["object Enum _check_for_existing_members_ isinstance EnumType TypeError",
          "_find_data_type_"], constants := [.sayLines ["",
          "        Returns the type for creating enum members, and the first inherited",
          "        enum class.", "",
          "        bases: the tuple of bases that was given to __new__", "        "], .whole (-1),
          .say "new enumerations should be created as `EnumName([mixin_type, ...] [data_type,] enum_type)`"] } }),
   ("enum.EnumType._find_data_repr_",
    { collection := "enum"
      code :=
        { path := "EnumType._find_data_repr_", arguments := 3, stack := 6, flags := 3,
          line := 965, holders := ["mcls class_name bases chain base"],
          names := ["__mro__ object isinstance EnumType _value_repr_ __dict__"],
          constants := [.nothing, .say "__repr__"] } }),
   ("enum.EnumType._find_data_type_",
    { collection := "enum"
      code :=
        { path := "EnumType._find_data_type_", arguments := 3, stack := 6, flags := 3,
          line := 979,
          holders := ["mcls class_name bases data_types base_chain chain candidate base"],
          names :=
          ["set __mro__ add object isinstance EnumType _member_type_ __dict__ len TypeError pop"],
          constants := [.nothing, .say "__new__", .say "__dataclass_fields__", .whole 1,
          .say "too many data types for ", .say ": "] } }),
   ("enum.EnumType._find_new_",
    { collection := "enum"
      code :=
        { path := "EnumType._find_new_", arguments := 4, stack := 7, flags := 3, line := 1008,
          holders :=
          ["mcls classdict member_type first_enum __new__ save_new method possible target",
          "use_args"], names := ["get getattr __new__ object Enum"], constants := [.sayLines ["",
          "        Returns the __new__ to be used for creating the enum members.", "",
          "        classdict: the class dictionary given to __new__",
          "        member_type: the data type whose __new__ will be used by default",
          "        first_enum: enumeration to check for an overriding __new__", "        "],
          .say "__new__", .nothing, .row [.say "__new_member__", .say "__new__"], .truth false,
          .truth true] } })]

end DiceChat.Recipes
