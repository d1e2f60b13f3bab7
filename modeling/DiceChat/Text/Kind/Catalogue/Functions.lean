import DiceChat.Text.Kind.Entry

/-! Kinds of functions, and of what is made of them. -/

namespace DiceChat.Catalogue

/-- The kind `function`. -/
def functionEntry : KindEntry where
  name := "function"
  measures := [136, 0, 678144, 88, 96]
  usage := "(code, globals, name=None, argdefs=None, closure=None)"
  about := ["Create a function object.", "", "  code", "    a code object", "  globals",
    "    the globals dictionary", "  name",
    "    a string that overrides the name from the code object", "  argdefs",
    "    a tuple that specifies the default argument values", "  closure",
    "    a tuple that supplies the bindings for free variables"]
  parts :=
    partsOf .maker ["__new__"] ++
    partsOf .operation ["__repr__ __call__ __get__"] ++
    partsOf .field ["__closure__ __doc__ __globals__ __module__ __builtins__"] ++
    partsOf .quality [
      "__code__ __defaults__ __kwdefaults__ __annotations__ __dict__ __name__ __qualname__"]

/-- The kind `method`. -/
def methodEntry : KindEntry where
  name := "method"
  measures := [48, 0, 547072, 0, 32]
  usage := "(function, instance, /)"
  about := ["Create a bound instance method object."]
  parts :=
    partsOf .maker ["__new__"] ++
    partsOf .operation [
      "__repr__ __hash__ __call__ __getattribute__ __setattr__ __delattr__ __lt__ __le__",
      "__eq__ __ne__ __gt__ __ge__"] ++
    [⟨"__reduce__", .method, "($self, /)", []⟩,
     ⟨"__func__", .field, "", ["the function (or other callable) implementing a method"]⟩,
     ⟨"__self__", .field, "", ["the instance to which a method is bound"]⟩,
     ⟨"__doc__", .quality, "", []⟩]

/-- The kind `code`. -/
def codeEntry : KindEntry where
  name := "code"
  measures := [184, 2, 528640, 0, 144]
  usage := "(argcount, posonlyargcount, kwonlyargcount, nlocals, stacksize,\n     flags, codestring, constants, names, varnames, filename, name,\n     qualname, firstlineno, linetable, exceptiontable, freevars=(),\n     cellvars=(), /)"
  about := ["Create a code object.  Not for the faint of heart."]
  parts :=
    partsOf .maker ["__new__"] ++
    partsOf .operation [
      "__repr__ __hash__ __getattribute__ __lt__ __le__ __eq__ __ne__ __gt__ __ge__"] ++
    partsOf .method ["__sizeof__ co_lines co_positions"] ++
    [⟨"replace", .method, "($self, /, **changes)", [
       "Return a copy of the code object with new values for the specified fields."]⟩,
     ⟨"_varname_from_oparg", .method, "($self, /, oparg)", [
       "(internal-only) Return the local variable name for the given oparg.", "",
       "WARNING: this method is for internal use only and may change or go away."]⟩] ++
    partsOf .field [
      "co_argcount co_posonlyargcount co_kwonlyargcount co_stacksize co_flags co_nlocals",
      "co_consts co_names co_filename co_name co_qualname co_firstlineno co_linetable",
      "co_exceptiontable"] ++
    partsOf .quality ["co_lnotab _co_code_adaptive co_varnames co_cellvars co_freevars co_code"] ++
    partsOf .account ["__doc__"]

/-- The kind `property`. -/
def propertyEntry : KindEntry where
  name := "property"
  measures := [64, 0, 546048, 0, 0]
  usage := "(fget=None, fset=None, fdel=None, doc=None)"
  about := ["Property attribute.", "", "  fget",
    "    function to be used for getting an attribute value", "  fset",
    "    function to be used for setting an attribute value", "  fdel",
    "    function to be used for del'ing an attribute", "  doc", "    docstring", "",
    "Typical use is to define a managed attribute x:", "", "class C(object):",
    "    def getx(self): return self._x", "    def setx(self, value): self._x = value",
    "    def delx(self): del self._x",
    "    x = property(getx, setx, delx, \"I'm the 'x' property.\")", "",
    "Decorators make defining new properties or modifying existing ones easy:", "",
    "class C(object):", "    @property", "    def x(self):", "        \"I am the 'x' property.\"",
    "        return self._x", "    @x.setter", "    def x(self, value):",
    "        self._x = value", "    @x.deleter", "    def x(self):", "        del self._x"]
  parts :=
    partsOf .maker ["__new__"] ++
    partsOf .operation ["__getattribute__ __get__ __set__ __delete__ __init__"] ++
    [⟨"getter", .method, "", [
       "Descriptor to obtain a copy of the property with a different getter."]⟩,
     ⟨"setter", .method, "", [
       "Descriptor to obtain a copy of the property with a different setter."]⟩,
     ⟨"deleter", .method, "", [
       "Descriptor to obtain a copy of the property with a different deleter."]⟩,
     ⟨"__set_name__", .method, "", ["Method to set name of a property."]⟩] ++
    partsOf .field ["fget fset fdel __doc__"] ++
    partsOf .quality ["__isabstractmethod__"]

/-- The kind `classmethod`. -/
def classmethodEntry : KindEntry where
  name := "classmethod"
  measures := [32, 0, 546048, 24, 0]
  about := ["classmethod(function) -> method", "", "Convert a function to be a class method.", "",
    "A class method receives the class as implicit first argument,",
    "just like an instance method receives the instance.",
    "To declare a class method, use this idiom:", "", "  class C:", "      @classmethod",
    "      def f(cls, arg1, arg2, argN):", "          ...", "",
    "It can be called either on the class (e.g. C.f()) or on an instance",
    "(e.g. C().f()).  The instance is ignored except for its class.",
    "If a class method is called for a derived class, the derived class",
    "object is passed as the implied first argument.", "",
    "Class methods are different than C++ or Java static methods.",
    "If you want those, see the staticmethod builtin."]
  parts :=
    partsOf .maker ["__new__"] ++
    partsOf .operation ["__repr__ __get__ __init__"] ++
    partsOf .field ["__func__ __wrapped__"] ++
    partsOf .quality ["__isabstractmethod__ __dict__"] ++
    partsOf .account ["__doc__"]

/-- The kind `staticmethod`. -/
def staticmethodEntry : KindEntry where
  name := "staticmethod"
  measures := [32, 0, 546048, 24, 0]
  about := ["staticmethod(function) -> method", "", "Convert a function to be a static method.",
    "", "A static method does not receive an implicit first argument.",
    "To declare a static method, use this idiom:", "", "     class C:", "         @staticmethod",
    "         def f(arg1, arg2, argN):", "             ...", "",
    "It can be called either on the class (e.g. C.f()) or on an instance",
    "(e.g. C().f()). Both the class and the instance are ignored, and",
    "neither is passed implicitly as the first argument to the method.", "",
    "Static methods in Python are similar to those found in Java or C++.",
    "For a more advanced concept, see the classmethod builtin."]
  parts :=
    partsOf .maker ["__new__"] ++
    partsOf .operation ["__repr__ __call__ __get__ __init__"] ++
    partsOf .field ["__func__ __wrapped__"] ++
    partsOf .quality ["__isabstractmethod__ __dict__"] ++
    partsOf .account ["__doc__"]

/-- The kind `types.GenericAlias`. -/
def appliedEntry : KindEntry where
  name := "GenericAlias"
  home := "types"
  measures := [64, 0, 548096, 0, 40]
  about := ["Represent a PEP 585 generic type", "",
    "E.g. for t = list[int], t.__origin__ is list and t.__args__ is (int,)."]
  parts :=
    partsOf .maker ["__new__"] ++
    partsOf .operation [
      "__repr__ __hash__ __call__ __getattribute__ __lt__ __le__ __eq__ __ne__ __gt__",
      "__ge__ __iter__ __or__ __ror__ __getitem__"] ++
    partsOf .method ["__mro_entries__ __instancecheck__ __subclasscheck__ __reduce__ __dir__"] ++
    partsOf .field ["__origin__ __args__ __unpacked__"] ++
    [⟨"__parameters__", .quality, "", ["Type variables in the GenericAlias."]⟩,
     ⟨"__typing_unpacked_tuple_args__", .quality, "", []⟩,
     ⟨"__doc__", .account, "", []⟩]

/-- The kinds of this module. -/
def functionsEntries : List KindEntry :=
  [functionEntry, methodEntry, codeEntry, propertyEntry, classmethodEntry, staticmethodEntry,
    appliedEntry]

end DiceChat.Catalogue
