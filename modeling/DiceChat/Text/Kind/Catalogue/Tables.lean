import DiceChat.Text.Kind.Entry

/-! Kinds of tables and sets. -/

namespace DiceChat.Catalogue

/-- The kind `dict`. -/
def dictEntry : KindEntry where
  name := "dict"
  measures := [48, 0, 541611328, 0, 0]
  about := ["dict() -> new empty dictionary",
    "dict(mapping) -> new dictionary initialized from a mapping object's",
    "    (key, value) pairs", "dict(iterable) -> new dictionary initialized as if via:",
    "    d = \x7b\x7d", "    for k, v in iterable:", "        d[k] = v",
    "dict(**kwargs) -> new dictionary initialized with the name=value pairs",
    "    in the keyword argument list.  For example:  dict(one=1, two=2)"]
  parts :=
    partsOf .maker ["__new__"] ++
    partsOf .operation ["__repr__"] ++
    partsOf .nothing ["__hash__"] ++
    partsOf .operation [
      "__getattribute__ __lt__ __le__ __eq__ __ne__ __gt__ __ge__ __iter__ __init__ __or__",
      "__ror__ __ior__ __len__"] ++
    [⟨"__getitem__", .method, "", ["x.__getitem__(y) <==> x[y]"]⟩] ++
    partsOf .operation ["__setitem__ __delitem__"] ++
    [⟨"__contains__", .method, "($self, key, /)", [
       "True if the dictionary has the specified key, else False."]⟩,
     ⟨"__sizeof__", .method, "", ["D.__sizeof__() -> size of D in memory, in bytes"]⟩,
     ⟨"get", .method, "($self, key, default=None, /)", [
       "Return the value for key if key is in the dictionary, else default."]⟩,
     ⟨"setdefault", .method, "($self, key, default=None, /)", [
       "Insert key with a value of default if key is not in the dictionary.", "",
       "Return the value for key if key is in the dictionary, else default."]⟩,
     ⟨"pop", .method, "($self, key, default=<unrepresentable>, /)", [
       "D.pop(k[,d]) -> v, remove specified key and return the corresponding value.", "",
       "If the key is not found, return the default if given; otherwise,", "raise a KeyError."]⟩,
     ⟨"popitem", .method, "($self, /)", ["Remove and return a (key, value) pair as a 2-tuple.",
       "", "Pairs are returned in LIFO (last-in, first-out) order.",
       "Raises KeyError if the dict is empty."]⟩,
     ⟨"keys", .method, "", ["D.keys() -> a set-like object providing a view on D's keys"]⟩,
     ⟨"items", .method, "", ["D.items() -> a set-like object providing a view on D's items"]⟩,
     ⟨"values", .method, "", ["D.values() -> an object providing a view on D's values"]⟩,
     ⟨"update", .method, "", ["D.update([E, ]**F) -> None.  Update D from dict/iterable E and F.",
       "If E is present and has a .keys() method, then does:  for k in E: D[k] = E[k]",
       "If E is present and lacks a .keys() method, then does:  for k, v in E: D[k] = v",
       "In either case, this is followed by: for k in F:  D[k] = F[k]"]⟩,
     ⟨"fromkeys", .kindMethod, "($type, iterable, value=None, /)", [
       "Create a new dictionary with keys from iterable and values set to value."]⟩,
     ⟨"clear", .method, "", ["D.clear() -> None.  Remove all items from D."]⟩,
     ⟨"copy", .method, "", ["D.copy() -> a shallow copy of D"]⟩,
     ⟨"__reversed__", .method, "($self, /)", ["Return a reverse iterator over the dict keys."]⟩,
     ⟨"__class_getitem__", .kindMethod, "", ["See PEP 585"]⟩,
     ⟨"__doc__", .account, "", []⟩]

/-- The kind `mappingproxy`. -/
def mappingproxyEntry : KindEntry where
  name := "mappingproxy"
  measures := [24, 0, 545088, 0, 0]
  parts :=
    partsOf .maker ["__new__"] ++
    partsOf .operation [
      "__repr__ __str__ __getattribute__ __lt__ __le__ __eq__ __ne__ __gt__ __ge__ __iter__",
      "__or__ __ror__ __ior__ __len__ __getitem__ __contains__"] ++
    [⟨"get", .method, "", ["D.get(k[,d]) -> D[k] if k in D, else d.  d defaults to None."]⟩,
     ⟨"keys", .method, "", ["D.keys() -> a set-like object providing a view on D's keys"]⟩,
     ⟨"values", .method, "", ["D.values() -> an object providing a view on D's values"]⟩,
     ⟨"items", .method, "", ["D.items() -> a set-like object providing a view on D's items"]⟩,
     ⟨"copy", .method, "", ["D.copy() -> a shallow copy of D"]⟩,
     ⟨"__class_getitem__", .kindMethod, "", ["See PEP 585"]⟩,
     ⟨"__reversed__", .method, "", ["D.__reversed__() -> reverse iterator"]⟩,
     ⟨"__doc__", .account, "", []⟩,
     ⟨"__hash__", .nothing, "", []⟩]

/-- The kind `set`. -/
def setEntry : KindEntry where
  name := "set"
  measures := [200, 0, 4740352, 0, 192]
  about := ["set() -> new empty set object", "set(iterable) -> new set object", "",
    "Build an unordered collection of unique elements."]
  parts :=
    partsOf .maker ["__new__"] ++
    partsOf .operation ["__repr__"] ++
    partsOf .nothing ["__hash__"] ++
    partsOf .operation [
      "__getattribute__ __lt__ __le__ __eq__ __ne__ __gt__ __ge__ __iter__ __init__ __sub__",
      "__rsub__ __and__ __rand__ __xor__ __rxor__ __or__ __ror__ __isub__ __iand__ __ixor__",
      "__ior__ __len__"] ++
    [⟨"__contains__", .method, "", ["x.__contains__(y) <==> y in x."]⟩,
     ⟨"add", .method, "", ["Add an element to a set.", "",
       "This has no effect if the element is already present."]⟩,
     ⟨"clear", .method, "", ["Remove all elements from this set."]⟩,
     ⟨"copy", .method, "", ["Return a shallow copy of a set."]⟩,
     ⟨"discard", .method, "", ["Remove an element from a set if it is a member.", "",
       "Unlike set.remove(), the discard() method does not raise",
       "an exception when an element is missing from the set."]⟩,
     ⟨"difference", .method, "", ["Return the difference of two or more sets as a new set.", "",
       "(i.e. all elements that are in this set but not the others.)"]⟩,
     ⟨"difference_update", .method, "", ["Remove all elements of another set from this set."]⟩,
     ⟨"intersection", .method, "", ["Return the intersection of two sets as a new set.", "",
       "(i.e. all elements that are in both sets.)"]⟩,
     ⟨"intersection_update", .method, "", [
       "Update a set with the intersection of itself and another."]⟩,
     ⟨"isdisjoint", .method, "", ["Return True if two sets have a null intersection."]⟩,
     ⟨"issubset", .method, "($self, other, /)", [
       "Test whether every element in the set is in other."]⟩,
     ⟨"issuperset", .method, "($self, other, /)", [
       "Test whether every element in other is in the set."]⟩,
     ⟨"pop", .method, "", ["Remove and return an arbitrary set element.",
       "Raises KeyError if the set is empty."]⟩,
     ⟨"__reduce__", .method, "", ["Return state information for pickling."]⟩,
     ⟨"remove", .method, "", ["Remove an element from a set; it must be a member.", "",
       "If the element is not a member, raise a KeyError."]⟩,
     ⟨"__sizeof__", .method, "", ["S.__sizeof__() -> size of S in memory, in bytes"]⟩,
     ⟨"symmetric_difference", .method, "", [
       "Return the symmetric difference of two sets as a new set.", "",
       "(i.e. all elements that are in exactly one of the sets.)"]⟩,
     ⟨"symmetric_difference_update", .method, "", [
       "Update a set with the symmetric difference of itself and another."]⟩,
     ⟨"union", .method, "", ["Return the union of sets as a new set.", "",
       "(i.e. all elements that are in either set.)"]⟩,
     ⟨"update", .method, "", ["Update a set with the union of itself and others."]⟩,
     ⟨"__class_getitem__", .kindMethod, "", ["See PEP 585"]⟩,
     ⟨"__doc__", .account, "", []⟩]

/-- The kind `frozenset`. -/
def frozensetEntry : KindEntry where
  name := "frozenset"
  measures := [200, 0, 4740352, 0, 192]
  about := ["frozenset() -> empty frozenset object", "frozenset(iterable) -> frozenset object",
    "", "Build an immutable unordered collection of unique elements."]
  parts :=
    partsOf .maker ["__new__"] ++
    partsOf .operation [
      "__repr__ __hash__ __getattribute__ __lt__ __le__ __eq__ __ne__ __gt__ __ge__",
      "__iter__ __sub__ __rsub__ __and__ __rand__ __xor__ __rxor__ __or__ __ror__ __len__"] ++
    [⟨"__contains__", .method, "", ["x.__contains__(y) <==> y in x."]⟩,
     ⟨"copy", .method, "", ["Return a shallow copy of a set."]⟩,
     ⟨"difference", .method, "", ["Return the difference of two or more sets as a new set.", "",
       "(i.e. all elements that are in this set but not the others.)"]⟩,
     ⟨"intersection", .method, "", ["Return the intersection of two sets as a new set.", "",
       "(i.e. all elements that are in both sets.)"]⟩,
     ⟨"isdisjoint", .method, "", ["Return True if two sets have a null intersection."]⟩,
     ⟨"issubset", .method, "($self, other, /)", [
       "Test whether every element in the set is in other."]⟩,
     ⟨"issuperset", .method, "($self, other, /)", [
       "Test whether every element in other is in the set."]⟩,
     ⟨"__reduce__", .method, "", ["Return state information for pickling."]⟩,
     ⟨"__sizeof__", .method, "", ["S.__sizeof__() -> size of S in memory, in bytes"]⟩,
     ⟨"symmetric_difference", .method, "", [
       "Return the symmetric difference of two sets as a new set.", "",
       "(i.e. all elements that are in exactly one of the sets.)"]⟩,
     ⟨"union", .method, "", ["Return the union of sets as a new set.", "",
       "(i.e. all elements that are in either set.)"]⟩,
     ⟨"__class_getitem__", .kindMethod, "", ["See PEP 585"]⟩,
     ⟨"__doc__", .account, "", []⟩]

/-- The kinds of this module. -/
def tablesEntries : List KindEntry :=
  [dictEntry, mappingproxyEntry, setEntry, frozensetEntry]

end DiceChat.Catalogue
