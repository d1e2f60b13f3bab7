import DiceChat.Text.Kind.Entry

/-! Kinds of walks along things. -/

namespace DiceChat.Catalogue

/-- The kind `enumerate`. -/
def enumerateEntry : KindEntry where
  name := "enumerate"
  measures := [56, 0, 546048, 0, 0]
  usage := "(iterable, start=0)"
  about := ["Return an enumerate object.", "", "  iterable", "    an object supporting iteration",
    "", "The enumerate object yields pairs containing a count (from start, which",
    "defaults to zero) and a value yielded by the iterable argument.", "",
    "enumerate is useful for obtaining an indexed list:",
    "    (0, seq[0]), (1, seq[1]), (2, seq[2]), ..."]
  parts :=
    partsOf .maker ["__new__"] ++
    partsOf .operation ["__getattribute__ __iter__ __next__"] ++
    [⟨"__reduce__", .method, "", ["Return state information for pickling."]⟩,
     ⟨"__class_getitem__", .kindMethod, "", ["See PEP 585"]⟩,
     ⟨"__doc__", .account, "", []⟩]

/-- The kind `filter`. -/
def filterEntry : KindEntry where
  name := "filter"
  measures := [32, 0, 546048, 0, 0]
  about := ["filter(function or None, iterable) --> filter object", "",
    "Return an iterator yielding those items of iterable for which function(item)",
    "is true. If function is None, return the items that are true."]
  parts :=
    partsOf .maker ["__new__"] ++
    partsOf .operation ["__getattribute__ __iter__ __next__"] ++
    [⟨"__reduce__", .method, "", ["Return state information for pickling."]⟩,
     ⟨"__doc__", .account, "", []⟩]

/-- The kind `map`. -/
def mapEntry : KindEntry where
  name := "map"
  measures := [32, 0, 546048, 0, 0]
  about := ["map(func, *iterables) --> map object", "",
    "Make an iterator that computes the function using arguments from",
    "each of the iterables.  Stops when the shortest iterable is exhausted."]
  parts :=
    partsOf .maker ["__new__"] ++
    partsOf .operation ["__getattribute__ __iter__ __next__"] ++
    [⟨"__reduce__", .method, "", ["Return state information for pickling."]⟩,
     ⟨"__doc__", .account, "", []⟩]

/-- The kind `reversed`. -/
def reversedEntry : KindEntry where
  name := "reversed"
  measures := [32, 0, 546048, 0, 0]
  usage := "(sequence, /)"
  about := ["Return a reverse iterator over the values of the given sequence."]
  parts :=
    partsOf .maker ["__new__"] ++
    partsOf .operation ["__getattribute__ __iter__ __next__"] ++
    [⟨"__length_hint__", .method, "", ["Private method returning an estimate of len(list(it))."]⟩,
     ⟨"__reduce__", .method, "", ["Return state information for pickling."]⟩,
     ⟨"__setstate__", .method, "", ["Set state information for unpickling."]⟩,
     ⟨"__doc__", .account, "", []⟩]

/-- The kind `zip`. -/
def zipEntry : KindEntry where
  name := "zip"
  measures := [48, 0, 546048, 0, 0]
  about := ["zip(*iterables, strict=False) --> Yield tuples until an input is exhausted.", "",
    "   >>> list(zip('abcdefg', range(3), range(4)))",
    "   [('a', 0, 0), ('b', 1, 1), ('c', 2, 2)]", "",
    "The zip object yields n-length tuples, where n is the number of iterables",
    "passed as positional arguments to zip().  The i-th element in every tuple",
    "comes from the i-th iterable argument to zip().  This continues until the",
    "shortest argument is exhausted.", "",
    "If strict is true and one of the arguments is exhausted before the others,",
    "raise a ValueError."]
  parts :=
    partsOf .maker ["__new__"] ++
    partsOf .operation ["__getattribute__ __iter__ __next__"] ++
    [⟨"__reduce__", .method, "", ["Return state information for pickling."]⟩,
     ⟨"__setstate__", .method, "", ["Set state information for unpickling."]⟩,
     ⟨"__doc__", .account, "", []⟩]

/-- The kinds of this module. -/
def walksEntries : List KindEntry :=
  [enumerateEntry, filterEntry, mapEntry, reversedEntry, zipEntry]

end DiceChat.Catalogue
