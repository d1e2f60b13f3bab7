import DiceChat.Text.Basic

/-! What is known of a kind: its name, its place among kinds, its measures, and the parts it holds, in order. -/

namespace DiceChat

/-- How a kind holds a part. -/
inductive Form where
  /-- An operation, such as a sum. -/
  | operation
  /-- A method. -/
  | method
  /-- A method of the kind itself. -/
  | kindMethod
  /-- The method of a kind that makes its things. -/
  | maker
  /-- A method that stands alone. -/
  | freeMethod
  /-- A quality of the things. -/
  | quality
  /-- A field of the things. -/
  | field
  /-- A quality of the things that a function works out. -/
  | property
  /-- A quality of members that a function works out, where no member has its name. -/
  | facet
  /-- A function. -/
  | function
  /-- A function of the kind itself. -/
  | kindFunction
  /-- A function that stands alone. -/
  | freeFunction
  /-- What the kind tells about itself. -/
  | account
  /-- The collection that the kind belongs to. -/
  | home
  /-- Nothing. -/
  | nothing
  /-- A thing. -/
  | thing
deriving DecidableEq

/-- A part that a kind holds. -/
structure Part where
  /-- The name of the part. -/
  name : String
  /-- How the kind holds it. -/
  form : Form
  /-- The form of its use, empty if it is not told. -/
  usage : String
  /-- The lines that say what it does, none if it is not told. -/
  lines : List String
deriving DecidableEq

/-- The words of lines with single spaces between them. -/
def wordsOf (lines : List String) : List Text :=
  lines.flatMap fun line => splitOnChar ' ' line.toList

/-- Parts of one form that tell nothing of their own, by their names. -/
def partsOf (form : Form) (lines : List String) : List Part :=
  (wordsOf lines).map fun name => ⟨String.ofList name, form, "", []⟩

/-- The text of lines, if there are any. -/
def textOfLines (lines : List String) : Option Text :=
  if lines.isEmpty then none else some (joinWith ['\n'] (lines.map String.toList))

/-- What is known of a kind. -/
structure KindEntry where
  /-- The name of the kind. -/
  name : String
  /-- The collection of kinds that it belongs to. -/
  home : String := "builtins"
  /-- The title of the kind of the kind. -/
  ofKind : String := "type"
  /-- The titles of the more general kinds that its things belong to as well, the nearest first. -/
  above : List String := ["object"]
  /-- The titles of the kinds directly above, where the nearest is not the only one. -/
  bases : List String := []
  /-- Its measures: sizes of its things, its marks, and where its things keep what is special. -/
  measures : List Int
  /-- How its things are made, empty if it is not told. -/
  usage : String := ""
  /-- The lines that say what it is, none if it is not told. -/
  about : List String := []
  /-- The parts that it holds, in order. -/
  parts : List Part
deriving DecidableEq

namespace KindEntry

/-- The name of a kind behind that of its collection, unless this is always at hand. -/
def title (entry : KindEntry) : String :=
  if entry.home = "builtins" then entry.name else entry.home ++ "." ++ entry.name

/-- The part of the given name. -/
def part? (entry : KindEntry) (name : String) : Option Part :=
  entry.parts.find? fun part => part.name = name

end KindEntry

/-- What the methods that make things tell. -/
def makerAccount : Part :=
  ⟨"__new__", .maker, "($type, *args, **kwargs)",
    ["Create and return a new object.  See help(type) for accurate signature."]⟩

/-- What operations tell, which is the same for all kinds. -/
def operationAccounts : List Part :=
  [⟨"__repr__", .operation, "($self, /)", ["Return repr(self)."]⟩,
   ⟨"__hash__", .operation, "($self, /)", ["Return hash(self)."]⟩,
   ⟨"__str__", .operation, "($self, /)", ["Return str(self)."]⟩,
   ⟨"__getattribute__", .operation, "($self, name, /)", ["Return getattr(self, name)."]⟩,
   ⟨"__setattr__", .operation, "($self, name, value, /)", [
     "Implement setattr(self, name, value)."]⟩,
   ⟨"__delattr__", .operation, "($self, name, /)", ["Implement delattr(self, name)."]⟩,
   ⟨"__lt__", .operation, "($self, value, /)", ["Return self<value."]⟩,
   ⟨"__le__", .operation, "($self, value, /)", ["Return self<=value."]⟩,
   ⟨"__eq__", .operation, "($self, value, /)", ["Return self==value."]⟩,
   ⟨"__ne__", .operation, "($self, value, /)", ["Return self!=value."]⟩,
   ⟨"__gt__", .operation, "($self, value, /)", ["Return self>value."]⟩,
   ⟨"__ge__", .operation, "($self, value, /)", ["Return self>=value."]⟩,
   ⟨"__init__", .operation, "($self, /, *args, **kwargs)", [
     "Initialize self.  See help(type(self)) for accurate signature."]⟩,
   ⟨"__call__", .operation, "($self, /, *args, **kwargs)", ["Call self as a function."]⟩,
   ⟨"__or__", .operation, "($self, value, /)", ["Return self|value."]⟩,
   ⟨"__ror__", .operation, "($self, value, /)", ["Return value|self."]⟩,
   ⟨"__add__", .operation, "($self, value, /)", ["Return self+value."]⟩,
   ⟨"__radd__", .operation, "($self, value, /)", ["Return value+self."]⟩,
   ⟨"__sub__", .operation, "($self, value, /)", ["Return self-value."]⟩,
   ⟨"__rsub__", .operation, "($self, value, /)", ["Return value-self."]⟩,
   ⟨"__mul__", .operation, "($self, value, /)", ["Return self*value."]⟩,
   ⟨"__rmul__", .operation, "($self, value, /)", ["Return value*self."]⟩,
   ⟨"__mod__", .operation, "($self, value, /)", ["Return self%value."]⟩,
   ⟨"__rmod__", .operation, "($self, value, /)", ["Return value%self."]⟩,
   ⟨"__divmod__", .operation, "($self, value, /)", ["Return divmod(self, value)."]⟩,
   ⟨"__rdivmod__", .operation, "($self, value, /)", ["Return divmod(value, self)."]⟩,
   ⟨"__pow__", .operation, "($self, value, mod=None, /)", ["Return pow(self, value, mod)."]⟩,
   ⟨"__rpow__", .operation, "($self, value, mod=None, /)", ["Return pow(value, self, mod)."]⟩,
   ⟨"__neg__", .operation, "($self, /)", ["-self"]⟩,
   ⟨"__pos__", .operation, "($self, /)", ["+self"]⟩,
   ⟨"__abs__", .operation, "($self, /)", ["abs(self)"]⟩,
   ⟨"__bool__", .operation, "($self, /)", ["True if self else False"]⟩,
   ⟨"__invert__", .operation, "($self, /)", ["~self"]⟩,
   ⟨"__lshift__", .operation, "($self, value, /)", ["Return self<<value."]⟩,
   ⟨"__rlshift__", .operation, "($self, value, /)", ["Return value<<self."]⟩,
   ⟨"__rshift__", .operation, "($self, value, /)", ["Return self>>value."]⟩,
   ⟨"__rrshift__", .operation, "($self, value, /)", ["Return value>>self."]⟩,
   ⟨"__and__", .operation, "($self, value, /)", ["Return self&value."]⟩,
   ⟨"__rand__", .operation, "($self, value, /)", ["Return value&self."]⟩,
   ⟨"__xor__", .operation, "($self, value, /)", ["Return self^value."]⟩,
   ⟨"__rxor__", .operation, "($self, value, /)", ["Return value^self."]⟩,
   ⟨"__int__", .operation, "($self, /)", ["int(self)"]⟩,
   ⟨"__float__", .operation, "($self, /)", ["float(self)"]⟩,
   ⟨"__floordiv__", .operation, "($self, value, /)", ["Return self//value."]⟩,
   ⟨"__rfloordiv__", .operation, "($self, value, /)", ["Return value//self."]⟩,
   ⟨"__truediv__", .operation, "($self, value, /)", ["Return self/value."]⟩,
   ⟨"__rtruediv__", .operation, "($self, value, /)", ["Return value/self."]⟩,
   ⟨"__index__", .operation, "($self, /)", [
     "Return self converted to an integer, if self is suitable for use as an index into a list."]⟩,
   ⟨"__iter__", .operation, "($self, /)", ["Implement iter(self)."]⟩,
   ⟨"__len__", .operation, "($self, /)", ["Return len(self)."]⟩,
   ⟨"__getitem__", .operation, "($self, key, /)", ["Return self[key]."]⟩,
   ⟨"__contains__", .operation, "($self, key, /)", ["Return key in self."]⟩,
   ⟨"__setitem__", .operation, "($self, key, value, /)", ["Set self[key] to value."]⟩,
   ⟨"__delitem__", .operation, "($self, key, /)", ["Delete self[key]."]⟩,
   ⟨"__iadd__", .operation, "($self, value, /)", ["Implement self+=value."]⟩,
   ⟨"__imul__", .operation, "($self, value, /)", ["Implement self*=value."]⟩,
   ⟨"__ior__", .operation, "($self, value, /)", ["Return self|=value."]⟩,
   ⟨"__get__", .operation, "($self, instance, owner=None, /)", [
     "Return an attribute of instance, which is of type owner."]⟩,
   ⟨"__set__", .operation, "($self, instance, value, /)", [
     "Set an attribute of instance to value."]⟩,
   ⟨"__delete__", .operation, "($self, instance, /)", ["Delete an attribute of instance."]⟩,
   ⟨"__next__", .operation, "($self, /)", ["Implement next(self)."]⟩,
   ⟨"__isub__", .operation, "($self, value, /)", ["Return self-=value."]⟩,
   ⟨"__iand__", .operation, "($self, value, /)", ["Return self&=value."]⟩,
   ⟨"__ixor__", .operation, "($self, value, /)", ["Return self^=value."]⟩]

/-- A part with what it tells, also where this is shared by kinds. -/
def Part.told (part : Part) : Part :=
  match part.form with
  | .maker => makerAccount
  | .operation => (operationAccounts.find? fun account => account.name = part.name).getD part
  | _ => part

end DiceChat
