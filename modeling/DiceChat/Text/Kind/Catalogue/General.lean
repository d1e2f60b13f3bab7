import DiceChat.Text.Kind.Entry

/-! Kinds of all things, of kinds themselves, and of things that stand alone. -/

namespace DiceChat.Catalogue

/-- The kind `object`. -/
def objectEntry : KindEntry where
  name := "object"
  above := []
  measures := [16, 0, 529664, 0, 0]
  usage := "()"
  about := ["The base class of the class hierarchy.", "",
    "When called, it accepts no arguments and returns a new featureless",
    "instance that has no instance attributes and cannot be given any.", ""]
  parts :=
    partsOf .maker ["__new__"] ++
    partsOf .operation [
      "__repr__ __hash__ __str__ __getattribute__ __setattr__ __delattr__ __lt__ __le__",
      "__eq__ __ne__ __gt__ __ge__ __init__"] ++
    [⟨"__reduce_ex__", .method, "($self, protocol, /)", ["Helper for pickle."]⟩,
     ⟨"__reduce__", .method, "($self, /)", ["Helper for pickle."]⟩,
     ⟨"__getstate__", .method, "($self, /)", ["Helper for pickle."]⟩,
     ⟨"__subclasshook__", .kindMethod, "", [
       "Abstract classes can override this to customize issubclass().", "",
       "This is invoked early on by abc.ABCMeta.__subclasscheck__().",
       "It should return True, False or NotImplemented.  If it returns",
       "NotImplemented, the normal algorithm is used.  Otherwise, it",
       "overrides the normal algorithm (and the outcome is cached).", ""]⟩,
     ⟨"__init_subclass__", .kindMethod, "", ["This method is called when a class is subclassed.",
       "", "The default implementation does nothing. It may be",
       "overridden to extend subclasses.", ""]⟩,
     ⟨"__format__", .method, "($self, format_spec, /)", ["Default object formatter."]⟩,
     ⟨"__sizeof__", .method, "($self, /)", ["Size of object in memory, in bytes."]⟩,
     ⟨"__dir__", .method, "($self, /)", ["Default dir() implementation."]⟩,
     ⟨"__class__", .quality, "", ["the object's class"]⟩,
     ⟨"__doc__", .account, "", []⟩]

/-- The kind `type`. -/
def typeEntry : KindEntry where
  name := "type"
  measures := [904, 40, 2148031744, 264, 368]
  about := ["type(object) -> the object's type", "type(name, bases, dict, **kwds) -> a new type"]
  parts :=
    partsOf .maker ["__new__"] ++
    partsOf .operation [
      "__repr__ __call__ __getattribute__ __setattr__ __delattr__ __init__ __or__ __ror__"] ++
    [⟨"mro", .method, "($self, /)", ["Return a type's method resolution order."]⟩,
     ⟨"__subclasses__", .method, "($self, /)", ["Return a list of immediate subclasses."]⟩,
     ⟨"__prepare__", .kindMethod, "", ["__prepare__() -> dict",
       "used to create the namespace for the class statement"]⟩,
     ⟨"__instancecheck__", .method, "($self, instance, /)", [
       "Check if an object is an instance."]⟩,
     ⟨"__subclasscheck__", .method, "($self, subclass, /)", ["Check if a class is a subclass."]⟩,
     ⟨"__dir__", .method, "($self, /)", ["Specialized __dir__ implementation for types."]⟩,
     ⟨"__sizeof__", .method, "($self, /)", ["Return memory consumption of the type object."]⟩] ++
    partsOf .field [
      "__basicsize__ __itemsize__ __flags__ __weakrefoffset__ __base__ __dictoffset__", "__mro__"] ++
    partsOf .quality [
      "__name__ __qualname__ __bases__ __module__ __abstractmethods__ __dict__ __doc__",
      "__text_signature__ __annotations__"]

/-- The kind `NoneType`. -/
def noneTypeEntry : KindEntry where
  name := "NoneType"
  measures := [16, 0, 528640, 0, 0]
  parts :=
    partsOf .maker ["__new__"] ++
    partsOf .operation ["__repr__ __bool__"] ++
    partsOf .account ["__doc__"]

/-- The kind `ellipsis`. -/
def ellipsisEntry : KindEntry where
  name := "ellipsis"
  measures := [16, 0, 528640, 0, 0]
  parts :=
    partsOf .maker ["__new__"] ++
    partsOf .operation ["__repr__ __getattribute__"] ++
    partsOf .method ["__reduce__"] ++
    partsOf .account ["__doc__"]

/-- The kind `NotImplementedType`. -/
def notImplementedTypeEntry : KindEntry where
  name := "NotImplementedType"
  measures := [16, 0, 528640, 0, 0]
  parts :=
    partsOf .maker ["__new__"] ++
    partsOf .operation ["__repr__ __bool__"] ++
    partsOf .method ["__reduce__"] ++
    partsOf .account ["__doc__"]

/-- The kind `module`. -/
def moduleEntry : KindEntry where
  name := "module"
  measures := [56, 0, 546048, 16, 40]
  usage := "(name, doc=None)"
  about := ["Create a module object.", "",
    "The name must be a string; the optional doc argument can have any type."]
  parts :=
    partsOf .maker ["__new__"] ++
    partsOf .operation ["__repr__ __getattribute__ __setattr__ __delattr__ __init__"] ++
    [⟨"__dir__", .method, "", ["__dir__() -> list", "specialized dir() implementation"]⟩,
     ⟨"__dict__", .field, "", []⟩,
     ⟨"__annotations__", .quality, "", []⟩,
     ⟨"__doc__", .account, "", []⟩]

/-- The kind `cell`. -/
def cellEntry : KindEntry where
  name := "cell"
  measures := [24, 0, 545024, 0, 0]
  usage := "([contents])"
  about := ["Create a new cell object.", "", "  contents",
    "    the contents of the cell. If not specified, the cell will be empty,", "    and ",
    " further attempts to access its cell_contents attribute will", "    raise a ValueError."]
  parts :=
    partsOf .maker ["__new__"] ++
    partsOf .operation ["__repr__ __getattribute__ __lt__ __le__ __eq__ __ne__ __gt__ __ge__"] ++
    partsOf .quality ["cell_contents"] ++
    partsOf .account ["__doc__"] ++
    partsOf .nothing ["__hash__"]

/-- The kind `super`. -/
def superEntry : KindEntry where
  name := "super"
  measures := [40, 0, 546048, 0, 0]
  about := ["super() -> same as super(__class__, <first argument>)",
    "super(type) -> unbound super object",
    "super(type, obj) -> bound super object; requires isinstance(obj, type)",
    "super(type, type2) -> bound super object; requires issubclass(type2, type)",
    "Typical use to call a cooperative superclass method:", "class C(B):",
    "    def meth(self, arg):", "        super().meth(arg)", "This works for class methods too:",
    "class C(B):", "    @classmethod", "    def cmeth(cls, arg):", "        super().cmeth(arg)",
    ""]
  parts :=
    partsOf .maker ["__new__"] ++
    partsOf .operation ["__repr__ __getattribute__ __get__ __init__"] ++
    [⟨"__thisclass__", .field, "", ["the class invoking super()"]⟩,
     ⟨"__self__", .field, "", ["the instance invoking super(); may be None"]⟩,
     ⟨"__self_class__", .field, "", ["the type of the instance invoking super(); may be None"]⟩,
     ⟨"__doc__", .account, "", []⟩]

/-- The kinds of this module. -/
def generalEntries : List KindEntry :=
  [objectEntry, typeEntry, noneTypeEntry, ellipsisEntry, notImplementedTypeEntry, moduleEntry,
    cellEntry, superEntry]

end DiceChat.Catalogue
