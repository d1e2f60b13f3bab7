import DiceChat.Text.Kind.Entry

/-! Kinds of rows, and the kind of their cuts. -/

namespace DiceChat.Catalogue

/-- The kind `tuple`. -/
def tupleEntry : KindEntry where
  name := "tuple"
  measures := [24, 8, 71849248, 0, 0]
  usage := "(iterable=(), /)"
  about := ["Built-in immutable sequence.", "",
    "If no argument is given, the constructor returns an empty tuple.",
    "If iterable is specified the tuple is initialized from iterable's items.", "",
    "If the argument is a tuple, the return value is the same object."]
  parts :=
    partsOf .maker ["__new__"] ++
    partsOf .operation [
      "__repr__ __hash__ __getattribute__ __lt__ __le__ __eq__ __ne__ __gt__ __ge__",
      "__iter__ __len__ __getitem__ __add__ __mul__ __rmul__ __contains__"] ++
    [⟨"__getnewargs__", .method, "($self, /)", []⟩,
     ⟨"index", .method, "($self, value, start=0, stop=sys.maxsize, /)", [
       "Return first index of value.", "", "Raises ValueError if the value is not present."]⟩,
     ⟨"count", .method, "($self, value, /)", ["Return number of occurrences of value."]⟩,
     ⟨"__class_getitem__", .kindMethod, "", ["See PEP 585"]⟩,
     ⟨"__doc__", .account, "", []⟩]

/-- The kind `list`. -/
def listEntry : KindEntry where
  name := "list"
  measures := [40, 0, 38294816, 0, 0]
  usage := "(iterable=(), /)"
  about := ["Built-in mutable sequence.", "",
    "If no argument is given, the constructor creates a new empty list.",
    "The argument must be an iterable if specified."]
  parts :=
    partsOf .maker ["__new__"] ++
    partsOf .operation ["__repr__"] ++
    partsOf .nothing ["__hash__"] ++
    partsOf .operation [
      "__getattribute__ __lt__ __le__ __eq__ __ne__ __gt__ __ge__ __iter__ __init__ __len__"] ++
    [⟨"__getitem__", .method, "", ["x.__getitem__(y) <==> x[y]"]⟩] ++
    partsOf .operation [
      "__setitem__ __delitem__ __add__ __mul__ __rmul__ __contains__ __iadd__ __imul__"] ++
    [⟨"__reversed__", .method, "($self, /)", ["Return a reverse iterator over the list."]⟩,
     ⟨"__sizeof__", .method, "($self, /)", ["Return the size of the list in memory, in bytes."]⟩,
     ⟨"clear", .method, "($self, /)", ["Remove all items from list."]⟩,
     ⟨"copy", .method, "($self, /)", ["Return a shallow copy of the list."]⟩,
     ⟨"append", .method, "($self, object, /)", ["Append object to the end of the list."]⟩,
     ⟨"insert", .method, "($self, index, object, /)", ["Insert object before index."]⟩,
     ⟨"extend", .method, "($self, iterable, /)", [
       "Extend list by appending elements from the iterable."]⟩,
     ⟨"pop", .method, "($self, index=-1, /)", ["Remove and return item at index (default last).",
       "", "Raises IndexError if list is empty or index is out of range."]⟩,
     ⟨"remove", .method, "($self, value, /)", ["Remove first occurrence of value.", "",
       "Raises ValueError if the value is not present."]⟩,
     ⟨"index", .method, "($self, value, start=0, stop=sys.maxsize, /)", [
       "Return first index of value.", "", "Raises ValueError if the value is not present."]⟩,
     ⟨"count", .method, "($self, value, /)", ["Return number of occurrences of value."]⟩,
     ⟨"reverse", .method, "($self, /)", ["Reverse *IN PLACE*."]⟩,
     ⟨"sort", .method, "($self, /, *, key=None, reverse=False)", [
       "Sort the list in ascending order and return None.", "",
       "The sort is in-place (i.e. the list itself is modified) and stable (i.e. the",
       "order of two equal elements is maintained).", "",
       "If a key function is given, apply it once to each list item and sort them,",
       "ascending or descending, according to their function values.", "",
       "The reverse flag can be set to sort in descending order."]⟩,
     ⟨"__class_getitem__", .kindMethod, "", ["See PEP 585"]⟩,
     ⟨"__doc__", .account, "", []⟩]

/-- The kind `range`. -/
def rangeEntry : KindEntry where
  name := "range"
  measures := [48, 0, 528672, 0, 0]
  about := ["range(stop) -> range object", "range(start, stop[, step]) -> range object", "",
    "Return an object that produces a sequence of integers from start (inclusive)",
    "to stop (exclusive) by step.  range(i, j) produces i, i+1, i+2, ..., j-1.",
    "start defaults to 0, and stop is omitted!  range(4) produces 0, 1, 2, 3.",
    "These are exactly the valid indices for a list of 4 elements.",
    "When step is given, it specifies the increment (or decrement)."]
  parts :=
    partsOf .maker ["__new__"] ++
    partsOf .operation [
      "__repr__ __hash__ __getattribute__ __lt__ __le__ __eq__ __ne__ __gt__ __ge__",
      "__iter__ __bool__ __len__ __getitem__ __contains__"] ++
    [⟨"__reversed__", .method, "", ["Return a reverse iterator."]⟩,
     ⟨"__reduce__", .method, "", []⟩,
     ⟨"count", .method, "", [
       "rangeobject.count(value) -> integer -- return number of occurrences of value"]⟩,
     ⟨"index", .method, "", ["rangeobject.index(value) -> integer -- return index of value.",
       "Raise ValueError if the value is not present."]⟩] ++
    partsOf .field ["start stop step"] ++
    partsOf .account ["__doc__"]

/-- The kind `slice`. -/
def sliceEntry : KindEntry where
  name := "slice"
  measures := [40, 0, 545024, 0, 0]
  about := ["slice(stop)", "slice(start, stop[, step])", "",
    "Create a slice object.  This is used for extended slicing (e.g. a[0:10:2])."]
  parts :=
    partsOf .maker ["__new__"] ++
    partsOf .operation ["__repr__"] ++
    partsOf .nothing ["__hash__"] ++
    partsOf .operation ["__getattribute__ __lt__ __le__ __eq__ __ne__ __gt__ __ge__"] ++
    [⟨"indices", .method, "", ["S.indices(len) -> (start, stop, stride)", "",
       "Assuming a sequence of length len, calculate the start and stop",
       "indices, and the stride length of the extended slice described by",
       "S. Out of bounds indices are clipped in a manner consistent with the",
       "handling of normal slices."]⟩,
     ⟨"__reduce__", .method, "", ["Return state information for pickling."]⟩] ++
    partsOf .field ["start stop step"] ++
    partsOf .account ["__doc__"]

/-- The kinds of this module. -/
def rowsEntries : List KindEntry :=
  [tupleEntry, listEntry, rangeEntry, sliceEntry]

end DiceChat.Catalogue
