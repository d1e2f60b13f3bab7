import DiceChat.Text.Kind.Entry

/-! Kinds of fixed lists and of what their members work out. -/

namespace DiceChat.Catalogue

/-- The kind `enum.Enum`. -/
def enumEntry : KindEntry where
  name := "Enum"
  home := "enum"
  ofKind := "enum.EnumType"
  measures := [24, 0, 546320, -48, 16]
  about := ["", "    Create a collection of name/value pairs.", "", "    Example enumeration:",
    "", "    >>> class Color(Enum):", "    ...     RED = 1", "    ...     BLUE = 2",
    "    ...     GREEN = 3", "", "    Access them by:", "", "    - attribute access::", "",
    "    >>> Color.RED", "    <Color.RED: 1>", "", "    - value lookup:", "", "    >>> Color(1)",
    "    <Color.RED: 1>", "", "    - name lookup:", "", "    >>> Color['RED']",
    "    <Color.RED: 1>", "",
    "    Enumerations can be iterated over, and know how many members they have:", "",
    "    >>> len(Color)", "    3", "", "    >>> list(Color)",
    "    [<Color.RED: 1>, <Color.BLUE: 2>, <Color.GREEN: 3>]", "",
    "    Methods can be added to enumerations, and members can have their own",
    "    attributes -- see the documentation for details.", "    "]
  parts :=
    partsOf .home ["__module__"] ++
    partsOf .account ["__doc__"] ++
    partsOf .freeFunction ["__new__"] ++
    partsOf .function ["__init__"] ++
    [⟨"_generate_next_value_", .function, "", ["",
       "        Generate the next value when not given.", "",
       "        name: the name of the member", "        start: the initial start value or None",
       "        count: the number of existing members",
       "        last_values: the list of values assigned", "        "]⟩,
     ⟨"_missing_", .kindFunction, "", []⟩] ++
    partsOf .function ["__repr__ __str__"] ++
    [⟨"__dir__", .function, "", ["",
       "        Returns public methods and other interesting attributes.", "        "]⟩] ++
    partsOf .function ["__format__ __hash__ __reduce_ex__ __deepcopy__ __copy__"] ++
    partsOf .facet ["name value"] ++
    partsOf .thing ["_new_member_ _use_args_ _member_names_ _member_map_ _value2member_map_",
      "_unhashable_values_ _member_type_"] ++
    partsOf .nothing ["_value_repr_"] ++
    [⟨"__dict__", .quality, "", ["dictionary for instance variables"]⟩,
     ⟨"__weakref__", .quality, "", ["list of weak references to the object"]⟩]

/-- The kind `enum.EnumType`. -/
def enumTypeEntry : KindEntry where
  name := "EnumType"
  home := "enum"
  above := ["type", "object"]
  measures := [904, 40, 2148029952, 264, 368]
  about := ["", "    Metaclass for Enum", "    "]
  parts :=
    partsOf .home ["__module__"] ++
    partsOf .account ["__doc__"] ++
    partsOf .kindFunction ["__prepare__"] ++
    partsOf .freeFunction ["__new__"] ++
    [⟨"__bool__", .function, "", ["", "        classes/types should always be True.",
       "        "]⟩,
     ⟨"__call__", .function, "", ["",
       "        Either returns an existing member, or creates a new enum class.", "",
       "        This method is used both when an enum class is given a value to match",
       "        to an enumeration member (i.e. Color(3)) and for the functional API",
       "        (i.e. Color = Enum('Color', names='RED GREEN BLUE')).", "",
       "        When used for the functional API:", "",
       "        `value` will be the name of the new class.", "",
       "        `names` should be either a string of white-space/comma delimited names",
       "        (values will start at `start`), or an iterator/mapping of name, value pairs.", "",
       "        `module` should be set to the module this class is being created in;",
       "        if it is not set, an attempt to find that module will be made, but if",
       "        it fails the class will not be picklable.", "",
       "        `qualname` should be set to the actual location this class can be found",
       "        at in its module; by default it is set to the global scope.  If this is",
       "        not correct, unpickling will fail in some circumstances.", "",
       "        `type`, if set, will be mixed in as the first base class.", "        "]⟩,
     ⟨"__contains__", .function, "", ["",
       "        Return True if member is a member of this enum",
       "        raises TypeError if member is not an enum member", "",
       "        note: in 3.12 TypeError will no longer be raised, and True will also be",
       "        returned if member is the value of a member in this enum", "        "]⟩] ++
    partsOf .function ["__delattr__ __dir__"] ++
    [⟨"__getattr__", .function, "", ["", "        Return the enum member matching `name`", "",
       "        We use __getattr__ instead of descriptors or inserting into the enum",
       "        class' __dict__ in order to support `name` and `value` being both",
       "        properties for enum members (which live in the class' __dict__) and",
       "        enum members themselves.", "        "]⟩,
     ⟨"__getitem__", .function, "", ["", "        Return the member matching `name`.",
       "        "]⟩,
     ⟨"__iter__", .function, "", ["", "        Return members in definition order.", "        "]⟩,
     ⟨"__len__", .function, "", ["", "        Return the number of members (no aliases)",
       "        "]⟩,
     ⟨"__members__", .property, "", ["", "        Returns a mapping of member name->value.", "",
       "        This mapping lists all enum members, including aliases. Note that this",
       "        is a read-only view of the internal mapping.", "        "]⟩,
     ⟨"__repr__", .function, "", []⟩,
     ⟨"__reversed__", .function, "", ["", "        Return members in reverse definition order.",
       "        "]⟩,
     ⟨"__setattr__", .function, "", ["", "        Block attempts to reassign Enum members.", "",
       "        A simple assignment to the class namespace only changes one of the",
       "        several possible ways to get an Enum member from the Enum class,",
       "        resulting in an inconsistent Enumeration.", "        "]⟩,
     ⟨"_create_", .function, "", ["", "        Convenience method to create a new Enum class.",
       "", "        `names` can be:", "",
       "        * A string containing member names, separated either with spaces or",
       "          commas.  Values are incremented by 1 from `start`.",
       "        * An iterable of member names.  Values are incremented by 1 from `start`.",
       "        * An iterable of (member name, value) pairs.",
       "        * A mapping of member name -> value pairs.", "        "]⟩,
     ⟨"_convert_", .function, "", ["",
       "        Create a new Enum subclass that replaces a collection of global constants",
       "        "]⟩,
     ⟨"_check_for_existing_members_", .kindFunction, "", []⟩,
     ⟨"_get_mixins_", .kindFunction, "", ["",
       "        Returns the type for creating enum members, and the first inherited",
       "        enum class.", "", "        bases: the tuple of bases that was given to __new__",
       "        "]⟩] ++
    partsOf .kindFunction ["_find_data_repr_ _find_data_type_"] ++
    [⟨"_find_new_", .kindFunction, "", ["",
       "        Returns the __new__ to be used for creating the enum members.", "",
       "        classdict: the class dictionary given to __new__",
       "        member_type: the data type whose __new__ will be used by default",
       "        first_enum: enumeration to check for an overriding __new__", "        "]⟩]

/-- The kind `types.DynamicClassAttribute`. -/
def dynamicClassAttributeEntry : KindEntry where
  name := "DynamicClassAttribute"
  home := "types"
  measures := [24, 0, 546320, -48, 16]
  about := ["Route attribute access on a class to __getattr__.", "",
    "    This is a descriptor, used to define attributes that act differently when",
    "    accessed through an instance and through a class.  Instance access remains",
    "    normal, but access to an attribute through a class will be routed to the",
    "    class's __getattr__ method; this is done by raising AttributeError.", "",
    "    This allows one to have properties active on an instance, and have virtual",
    "    attributes on the class with the same name.  (Enum used this between Python",
    "    versions 3.4 - 3.9 .)", "",
    "    Subclass from this to use a different method of accessing virtual attributes",
    "    and still be treated properly by the inspect module. (Enum uses this since",
    "    Python 3.10 .)", "", "    "]
  parts :=
    partsOf .home ["__module__"] ++
    partsOf .account ["__doc__"] ++
    partsOf .function ["__init__ __get__ __set__ __delete__ getter setter deleter"] ++
    [⟨"__dict__", .quality, "", ["dictionary for instance variables"]⟩,
     ⟨"__weakref__", .quality, "", ["list of weak references to the object"]⟩]

/-- The kind `enum.property`. -/
def choicePropertyEntry : KindEntry where
  name := "property"
  home := "enum"
  above := ["types.DynamicClassAttribute", "object"]
  measures := [24, 0, 546320, -48, 16]
  about := ["", "    This is a descriptor, used to define attributes that act differently",
    "    when accessed through an enum member and through an enum class.",
    "    Instance access is the same as property(), but access to an attribute",
    "    through the enum class will instead look in the class' _member_map_ for",
    "    a corresponding enum member.", "    "]
  parts :=
    partsOf .home ["__module__"] ++
    partsOf .account ["__doc__"] ++
    partsOf .function ["__get__ __set__ __delete__ __set_name__"]

/-- The kinds of this module. -/
def choicesEntries : List KindEntry :=
  [enumEntry, enumTypeEntry, dynamicClassAttributeEntry, choicePropertyEntry]

end DiceChat.Catalogue
