import DiceChat.Text.Kind.Entry

/-! Kinds of hints on what values are. -/

namespace DiceChat.Catalogue

/-- The kind `typing.ForwardRef`. -/
def forwardRefEntry : KindEntry where
  name := "ForwardRef"
  home := "typing"
  above := ["typing._Final", "object"]
  measures := [80, 0, 546304, 0, 16]
  about := ["Internal wrapper to hold a forward reference."]
  parts :=
    partsOf .home ["__module__"] ++
    partsOf .account ["__doc__"] ++
    partsOf .thing ["__slots__"] ++
    partsOf .function ["__init__ _evaluate __eq__ __hash__ __or__ __ror__ __repr__"] ++
    partsOf .field [
      "__forward_arg__ __forward_code__ __forward_evaluated__ __forward_is_argument__",
      "__forward_is_class__ __forward_module__ __forward_value__"]

/-- The kind `typing._Final`. -/
def finalEntry : KindEntry where
  name := "_Final"
  home := "typing"
  measures := [24, 0, 546304, 0, 16]
  about := ["Mixin to prohibit subclassing."]
  parts :=
    partsOf .home ["__module__"] ++
    partsOf .account ["__doc__"] ++
    partsOf .thing ["__slots__"] ++
    partsOf .kindFunction ["__init_subclass__"] ++
    [⟨"__weakref__", .quality, "", ["list of weak references to the object"]⟩]

/-- The kind `typing._BaseGenericAlias`. -/
def baseGenericAliasEntry : KindEntry where
  name := "_BaseGenericAlias"
  home := "typing"
  above := ["typing._Final", "object"]
  measures := [24, 0, 546320, -48, 16]
  about := ["The central part of the internal API.", "",
    "    This represents a generic version of type 'origin' with type arguments 'params'.",
    "    There are two kind of these aliases: user defined and special. The special ones",
    "    are wrappers around builtin collections and ABCs in collections.abc. These must",
    "    have 'name' always set. If 'inst' is False, then the alias can't be instantiated;",
    "    this is used by e.g. typing.List and typing.Dict.", "    "]
  parts :=
    partsOf .home ["__module__"] ++
    partsOf .account ["__doc__"] ++
    partsOf .function [
      "__init__ __call__ __mro_entries__ __getattr__ __setattr__ __instancecheck__",
      "__subclasscheck__ __dir__"] ++
    [⟨"__dict__", .quality, "", ["dictionary for instance variables"]⟩]

/-- The kind `typing._GenericAlias`. -/
def hintAliasEntry : KindEntry where
  name := "_GenericAlias"
  home := "typing"
  above := ["typing._BaseGenericAlias", "typing._Final", "object"]
  measures := [24, 0, 546320, -48, 16]
  parts :=
    partsOf .home ["__module__"] ++
    partsOf .function ["__init__ __eq__ __hash__ __or__ __ror__ __getitem__ _determine_new_args"] ++
    [⟨"_make_substitution", .function, "", ["Create a list of new type arguments."]⟩] ++
    partsOf .function ["copy_with __repr__ __reduce__ __mro_entries__ __iter__"] ++
    partsOf .account ["__doc__"]

/-- The kind `typing._NotIterable`. -/
def notIterableEntry : KindEntry where
  name := "_NotIterable"
  home := "typing"
  measures := [16, 0, 546304, 0, 0]
  about := ["Mixin to prevent iteration, without being compatible with Iterable.", "",
    "    That is, we could do::", "", "        def __iter__(self): raise TypeError()", "",
    "    But this would make users of this mixin duck type-compatible with",
    "    collections.abc.Iterable - isinstance(foo, Iterable) would be True.", "",
    "    Luckily, we can instead prevent iteration by setting __iter__ to None, which",
    "    is treated specially.", "    "]
  parts :=
    partsOf .home ["__module__"] ++
    partsOf .account ["__doc__"] ++
    partsOf .thing ["__slots__"] ++
    partsOf .nothing ["__iter__"]

/-- The kind `typing._UnionGenericAlias`. -/
def unionGenericAliasEntry : KindEntry where
  name := "_UnionGenericAlias"
  home := "typing"
  above := ["typing._NotIterable", "typing._GenericAlias", "typing._BaseGenericAlias",
    "typing._Final", "object"]
  bases := ["typing._NotIterable", "typing._GenericAlias"]
  measures := [24, 0, 546320, -48, 16]
  parts :=
    partsOf .home ["__module__"] ++
    partsOf .function [
      "copy_with __eq__ __hash__ __repr__ __instancecheck__ __subclasscheck__ __reduce__"] ++
    [⟨"__dict__", .quality, "", ["dictionary for instance variables"]⟩,
     ⟨"__weakref__", .quality, "", ["list of weak references to the object"]⟩,
     ⟨"__doc__", .account, "", []⟩]

/-- The kind `typing._SpecialForm`. -/
def specialFormEntry : KindEntry where
  name := "_SpecialForm"
  home := "typing"
  above := ["typing._Final", "typing._NotIterable", "object"]
  bases := ["typing._Final", "typing._NotIterable"]
  measures := [48, 0, 546304, 0, 16]
  parts :=
    partsOf .home ["__module__"] ++
    partsOf .thing ["__slots__"] ++
    partsOf .function [
      "__init__ __getattr__ __mro_entries__ __repr__ __reduce__ __call__ __or__ __ror__",
      "__instancecheck__ __subclasscheck__ __getitem__"] ++
    partsOf .field ["__doc__ _getitem _name"]

/-- The kind `typing._SpecialGenericAlias`. -/
def specialGenericAliasEntry : KindEntry where
  name := "_SpecialGenericAlias"
  home := "typing"
  above := ["typing._NotIterable", "typing._BaseGenericAlias", "typing._Final", "object"]
  bases := ["typing._NotIterable", "typing._BaseGenericAlias"]
  measures := [24, 0, 546320, -48, 16]
  parts :=
    partsOf .home ["__module__"] ++
    partsOf .function [
      "__init__ __getitem__ copy_with __repr__ __subclasscheck__ __reduce__ __or__ __ror__"] ++
    [⟨"__dict__", .quality, "", ["dictionary for instance variables"]⟩,
     ⟨"__weakref__", .quality, "", ["list of weak references to the object"]⟩,
     ⟨"__doc__", .account, "", []⟩]

/-- The kind `typing._TupleType`. -/
def tupleTypeEntry : KindEntry where
  name := "_TupleType"
  home := "typing"
  above := ["typing._SpecialGenericAlias", "typing._NotIterable", "typing._BaseGenericAlias",
    "typing._Final", "object"]
  measures := [24, 0, 546320, -48, 16]
  parts :=
    partsOf .home ["__module__"] ++
    partsOf .function ["__getitem__"] ++
    partsOf .account ["__doc__"]

/-- The kind `typing._AnyMeta`. -/
def anyMetaEntry : KindEntry where
  name := "_AnyMeta"
  home := "typing"
  above := ["type", "object"]
  measures := [904, 40, 2148029952, 264, 368]
  parts :=
    partsOf .home ["__module__"] ++
    partsOf .function ["__instancecheck__ __repr__"] ++
    partsOf .account ["__doc__"]

/-- The kind `typing.Any`. -/
def anyEntry : KindEntry where
  name := "Any"
  home := "typing"
  ofKind := "typing._AnyMeta"
  measures := [24, 0, 546320, -48, 16]
  about := ["Special type indicating an unconstrained type.", "",
    "    - Any is compatible with every type.", "    - Any assumed to have all methods.",
    "    - All values assumed to be instances of Any.", "",
    "    Note that all the above statements are true from the point of view of",
    "    static type checkers. At runtime, Any should not be used with instance", "    checks.",
    "    "]
  parts :=
    partsOf .home ["__module__"] ++
    partsOf .account ["__doc__"] ++
    partsOf .freeFunction ["__new__"] ++
    [⟨"__dict__", .quality, "", ["dictionary for instance variables"]⟩,
     ⟨"__weakref__", .quality, "", ["list of weak references to the object"]⟩]

/-- The kinds of this module. -/
def hintsEntries : List KindEntry :=
  [forwardRefEntry, finalEntry, baseGenericAliasEntry, hintAliasEntry, notIterableEntry,
    unionGenericAliasEntry, specialFormEntry, specialGenericAliasEntry, tupleTypeEntry,
    anyMetaEntry, anyEntry]

end DiceChat.Catalogue
