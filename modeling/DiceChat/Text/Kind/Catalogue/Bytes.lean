import DiceChat.Text.Kind.Entry

/-! Kinds of bytes. -/

namespace DiceChat.Catalogue

/-- The kind `bytes`. -/
def bytesEntry : KindEntry where
  name := "bytes"
  measures := [33, 1, 138941696, 0, 0]
  about := ["bytes(iterable_of_ints) -> bytes", "bytes(string, encoding[, errors]) -> bytes",
    "bytes(bytes_or_buffer) -> immutable copy of bytes_or_buffer",
    "bytes(int) -> bytes object of size given by the parameter initialized with null bytes",
    "bytes() -> empty bytes object", "", "Construct an immutable array of bytes from:",
    "  - an iterable yielding integers in range(256)",
    "  - a text string encoded using the specified encoding",
    "  - any object implementing the buffer API.", "  - an integer"]
  parts :=
    partsOf .maker ["__new__"] ++
    partsOf .operation [
      "__repr__ __hash__ __str__ __getattribute__ __lt__ __le__ __eq__ __ne__ __gt__ __ge__",
      "__iter__ __mod__ __rmod__ __len__ __getitem__ __add__ __mul__ __rmul__ __contains__"] ++
    partsOf .method ["__getnewargs__"] ++
    [⟨"__bytes__", .method, "($self, /)", ["Convert this value to exact type bytes."]⟩,
     ⟨"capitalize", .method, "", ["B.capitalize() -> copy of B", "",
       "Return a copy of B with only its first character capitalized (ASCII)",
       "and the rest lower-cased."]⟩,
     ⟨"center", .method, "($self, width, fillchar=b' ', /)", [
       "Return a centered string of length width.", "",
       "Padding is done using the specified fill character."]⟩,
     ⟨"count", .method, "", ["B.count(sub[, start[, end]]) -> int", "",
       "Return the number of non-overlapping occurrences of subsection sub in",
       "bytes B[start:end].  Optional arguments start and end are interpreted",
       "as in slice notation."]⟩,
     ⟨"decode", .method, "($self, /, encoding='utf-8', errors='strict')", [
       "Decode the bytes using the codec registered for encoding.", "", "  encoding",
       "    The encoding with which to decode the bytes.", "  errors",
       "    The error handling scheme to use for the handling of decoding errors.",
       "    The default is 'strict' meaning that decoding errors raise a",
       "    UnicodeDecodeError. Other possible values are 'ignore' and 'replace'",
       "    as well as any other name registered with codecs.register_error that",
       "    can handle UnicodeDecodeErrors."]⟩,
     ⟨"endswith", .method, "", ["B.endswith(suffix[, start[, end]]) -> bool", "",
       "Return True if B ends with the specified suffix, False otherwise.",
       "With optional start, test B beginning at that position.",
       "With optional end, stop comparing B at that position.",
       "suffix can also be a tuple of bytes to try."]⟩,
     ⟨"expandtabs", .method, "($self, /, tabsize=8)", [
       "Return a copy where all tab characters are expanded using spaces.", "",
       "If tabsize is not given, a tab size of 8 characters is assumed."]⟩,
     ⟨"find", .method, "", ["B.find(sub[, start[, end]]) -> int", "",
       "Return the lowest index in B where subsection sub is found,",
       "such that sub is contained within B[start,end].  Optional",
       "arguments start and end are interpreted as in slice notation.", "",
       "Return -1 on failure."]⟩,
     ⟨"fromhex", .kindMethod, "($type, string, /)", [
       "Create a bytes object from a string of hexadecimal numbers.", "",
       "Spaces between two numbers are accepted.",
       "Example: bytes.fromhex('B9 01EF') -> b'\\\\xb9\\\\x01\\\\xef'."]⟩,
     ⟨"hex", .method, "($self, /, sep=<unrepresentable>, bytes_per_sep=1)", [
       "Create a string of hexadecimal numbers from a bytes object.", "", "  sep",
       "    An optional single character or byte to separate hex bytes.", "  bytes_per_sep",
       "    How many bytes between separators.  Positive values count from the",
       "    right, negative values count from the left.", "", "Example:",
       ">>> value = b'\\xb9\\x01\\xef'", ">>> value.hex()", "'b901ef'", ">>> value.hex(':')",
       "'b9:01:ef'", ">>> value.hex(':', 2)", "'b9:01ef'", ">>> value.hex(':', -2)",
       "'b901:ef'"]⟩,
     ⟨"index", .method, "", ["B.index(sub[, start[, end]]) -> int", "",
       "Return the lowest index in B where subsection sub is found,",
       "such that sub is contained within B[start,end].  Optional",
       "arguments start and end are interpreted as in slice notation.", "",
       "Raises ValueError when the subsection is not found."]⟩,
     ⟨"isalnum", .method, "", ["B.isalnum() -> bool", "",
       "Return True if all characters in B are alphanumeric",
       "and there is at least one character in B, False otherwise."]⟩,
     ⟨"isalpha", .method, "", ["B.isalpha() -> bool", "",
       "Return True if all characters in B are alphabetic",
       "and there is at least one character in B, False otherwise."]⟩,
     ⟨"isascii", .method, "", ["B.isascii() -> bool", "",
       "Return True if B is empty or all characters in B are ASCII,", "False otherwise."]⟩,
     ⟨"isdigit", .method, "", ["B.isdigit() -> bool", "",
       "Return True if all characters in B are digits",
       "and there is at least one character in B, False otherwise."]⟩,
     ⟨"islower", .method, "", ["B.islower() -> bool", "",
       "Return True if all cased characters in B are lowercase and there is",
       "at least one cased character in B, False otherwise."]⟩,
     ⟨"isspace", .method, "", ["B.isspace() -> bool", "",
       "Return True if all characters in B are whitespace",
       "and there is at least one character in B, False otherwise."]⟩,
     ⟨"istitle", .method, "", ["B.istitle() -> bool", "",
       "Return True if B is a titlecased string and there is at least one",
       "character in B, i.e. uppercase characters may only follow uncased",
       "characters and lowercase characters only cased ones. Return False", "otherwise."]⟩,
     ⟨"isupper", .method, "", ["B.isupper() -> bool", "",
       "Return True if all cased characters in B are uppercase and there is",
       "at least one cased character in B, False otherwise."]⟩,
     ⟨"join", .method, "($self, iterable_of_bytes, /)", [
       "Concatenate any number of bytes objects.", "",
       "The bytes whose method is called is inserted in between each pair.", "",
       "The result is returned as a new bytes object.", "",
       "Example: b'.'.join([b'ab', b'pq', b'rs']) -> b'ab.pq.rs'."]⟩,
     ⟨"ljust", .method, "($self, width, fillchar=b' ', /)", [
       "Return a left-justified string of length width.", "",
       "Padding is done using the specified fill character."]⟩,
     ⟨"lower", .method, "", ["B.lower() -> copy of B", "",
       "Return a copy of B with all ASCII characters converted to lowercase."]⟩,
     ⟨"lstrip", .method, "($self, bytes=None, /)", [
       "Strip leading bytes contained in the argument.", "",
       "If the argument is omitted or None, strip leading  ASCII whitespace."]⟩,
     ⟨"maketrans", .freeMethod, "(frm, to, /)", [
       "Return a translation table useable for the bytes or bytearray translate method.", "",
       "The returned table will be one where each byte in frm is mapped to the byte at",
       "the same position in to.", "",
       "The bytes objects frm and to must be of the same length."]⟩,
     ⟨"partition", .method, "($self, sep, /)", [
       "Partition the bytes into three parts using the given separator.", "",
       "This will search for the separator sep in the bytes. If the separator is found,",
       "returns a 3-tuple containing the part before the separator, the separator",
       "itself, and the part after it.", "",
       "If the separator is not found, returns a 3-tuple containing the original bytes",
       "object and two empty bytes objects."]⟩,
     ⟨"replace", .method, "($self, old, new, count=-1, /)", [
       "Return a copy with all occurrences of substring old replaced by new.", "", "  count",
       "    Maximum number of occurrences to replace.",
       "    -1 (the default value) means replace all occurrences.", "",
       "If the optional argument count is given, only the first count occurrences are",
       "replaced."]⟩,
     ⟨"removeprefix", .method, "($self, prefix, /)", [
       "Return a bytes object with the given prefix string removed if present.", "",
       "If the bytes starts with the prefix string, return bytes[len(prefix):].",
       "Otherwise, return a copy of the original bytes."]⟩,
     ⟨"removesuffix", .method, "($self, suffix, /)", [
       "Return a bytes object with the given suffix string removed if present.", "",
       "If the bytes ends with the suffix string and that suffix is not empty,",
       "return bytes[:-len(prefix)].  Otherwise, return a copy of the original", "bytes."]⟩,
     ⟨"rfind", .method, "", ["B.rfind(sub[, start[, end]]) -> int", "",
       "Return the highest index in B where subsection sub is found,",
       "such that sub is contained within B[start,end].  Optional",
       "arguments start and end are interpreted as in slice notation.", "",
       "Return -1 on failure."]⟩,
     ⟨"rindex", .method, "", ["B.rindex(sub[, start[, end]]) -> int", "",
       "Return the highest index in B where subsection sub is found,",
       "such that sub is contained within B[start,end].  Optional",
       "arguments start and end are interpreted as in slice notation.", "",
       "Raise ValueError when the subsection is not found."]⟩,
     ⟨"rjust", .method, "($self, width, fillchar=b' ', /)", [
       "Return a right-justified string of length width.", "",
       "Padding is done using the specified fill character."]⟩,
     ⟨"rpartition", .method, "($self, sep, /)", [
       "Partition the bytes into three parts using the given separator.", "",
       "This will search for the separator sep in the bytes, starting at the end. If",
       "the separator is found, returns a 3-tuple containing the part before the",
       "separator, the separator itself, and the part after it.", "",
       "If the separator is not found, returns a 3-tuple containing two empty bytes",
       "objects and the original bytes object."]⟩,
     ⟨"rsplit", .method, "($self, /, sep=None, maxsplit=-1)", [
       "Return a list of the sections in the bytes, using sep as the delimiter.", "", "  sep",
       "    The delimiter according which to split the bytes.",
       "    None (the default value) means split on ASCII whitespace characters",
       "    (space, tab, return, newline, formfeed, vertical tab).", "  maxsplit",
       "    Maximum number of splits to do.", "    -1 (the default value) means no limit.", "",
       "Splitting is done starting at the end of the bytes and working to the front."]⟩,
     ⟨"rstrip", .method, "($self, bytes=None, /)", [
       "Strip trailing bytes contained in the argument.", "",
       "If the argument is omitted or None, strip trailing ASCII whitespace."]⟩,
     ⟨"split", .method, "($self, /, sep=None, maxsplit=-1)", [
       "Return a list of the sections in the bytes, using sep as the delimiter.", "", "  sep",
       "    The delimiter according which to split the bytes.",
       "    None (the default value) means split on ASCII whitespace characters",
       "    (space, tab, return, newline, formfeed, vertical tab).", "  maxsplit",
       "    Maximum number of splits to do.", "    -1 (the default value) means no limit."]⟩,
     ⟨"splitlines", .method, "($self, /, keepends=False)", [
       "Return a list of the lines in the bytes, breaking at line boundaries.", "",
       "Line breaks are not included in the resulting list unless keepends is given and",
       "true."]⟩,
     ⟨"startswith", .method, "", ["B.startswith(prefix[, start[, end]]) -> bool", "",
       "Return True if B starts with the specified prefix, False otherwise.",
       "With optional start, test B beginning at that position.",
       "With optional end, stop comparing B at that position.",
       "prefix can also be a tuple of bytes to try."]⟩,
     ⟨"strip", .method, "($self, bytes=None, /)", [
       "Strip leading and trailing bytes contained in the argument.", "",
       "If the argument is omitted or None, strip leading and trailing ASCII whitespace."]⟩,
     ⟨"swapcase", .method, "", ["B.swapcase() -> copy of B", "",
       "Return a copy of B with uppercase ASCII characters converted",
       "to lowercase ASCII and vice versa."]⟩,
     ⟨"title", .method, "", ["B.title() -> copy of B", "",
       "Return a titlecased version of B, i.e. ASCII words start with uppercase",
       "characters, all remaining cased characters have lowercase."]⟩,
     ⟨"translate", .method, "($self, table, /, delete=b'')", [
       "Return a copy with each character mapped by the given translation table.", "", "  table",
       "    Translation table, which must be a bytes object of length 256.", "",
       "All characters occurring in the optional argument delete are removed.",
       "The remaining characters are mapped through the given translation table."]⟩,
     ⟨"upper", .method, "", ["B.upper() -> copy of B", "",
       "Return a copy of B with all ASCII characters converted to uppercase."]⟩,
     ⟨"zfill", .method, "($self, width, /)", [
       "Pad a numeric string with zeros on the left, to fill a field of the given width.", "",
       "The original string is never truncated."]⟩,
     ⟨"__doc__", .account, "", []⟩]

/-- The kind `bytearray`. -/
def bytearrayEntry : KindEntry where
  name := "bytearray"
  measures := [56, 0, 4723968, 0, 0]
  about := ["bytearray(iterable_of_ints) -> bytearray",
    "bytearray(string, encoding[, errors]) -> bytearray",
    "bytearray(bytes_or_buffer) -> mutable copy of bytes_or_buffer",
    "bytearray(int) -> bytes array of size given by the parameter initialized with null bytes",
    "bytearray() -> empty bytes array", "", "Construct a mutable bytearray object from:",
    "  - an iterable yielding integers in range(256)",
    "  - a text string encoded using the specified encoding", "  - a bytes or a buffer object",
    "  - any object implementing the buffer API.", "  - an integer"]
  parts :=
    partsOf .maker ["__new__"] ++
    partsOf .operation [
      "__repr__ __str__ __getattribute__ __lt__ __le__ __eq__ __ne__ __gt__ __ge__ __iter__",
      "__init__ __mod__ __rmod__ __len__ __getitem__ __setitem__ __delitem__ __add__",
      "__mul__ __rmul__ __contains__ __iadd__ __imul__"] ++
    [⟨"__alloc__", .method, "", ["B.__alloc__() -> int", "",
       "Return the number of bytes actually allocated."]⟩,
     ⟨"__reduce__", .method, "($self, /)", ["Return state information for pickling."]⟩,
     ⟨"__reduce_ex__", .method, "($self, proto=0, /)", [
       "Return state information for pickling."]⟩,
     ⟨"__sizeof__", .method, "($self, /)", [
       "Returns the size of the bytearray object in memory, in bytes."]⟩,
     ⟨"append", .method, "($self, item, /)", ["Append a single item to the end of the bytearray.",
       "", "  item", "    The item to be appended."]⟩,
     ⟨"capitalize", .method, "", ["B.capitalize() -> copy of B", "",
       "Return a copy of B with only its first character capitalized (ASCII)",
       "and the rest lower-cased."]⟩,
     ⟨"center", .method, "($self, width, fillchar=b' ', /)", [
       "Return a centered string of length width.", "",
       "Padding is done using the specified fill character."]⟩,
     ⟨"clear", .method, "($self, /)", ["Remove all items from the bytearray."]⟩,
     ⟨"copy", .method, "($self, /)", ["Return a copy of B."]⟩,
     ⟨"count", .method, "", ["B.count(sub[, start[, end]]) -> int", "",
       "Return the number of non-overlapping occurrences of subsection sub in",
       "bytes B[start:end].  Optional arguments start and end are interpreted",
       "as in slice notation."]⟩,
     ⟨"decode", .method, "($self, /, encoding='utf-8', errors='strict')", [
       "Decode the bytearray using the codec registered for encoding.", "", "  encoding",
       "    The encoding with which to decode the bytearray.", "  errors",
       "    The error handling scheme to use for the handling of decoding errors.",
       "    The default is 'strict' meaning that decoding errors raise a",
       "    UnicodeDecodeError. Other possible values are 'ignore' and 'replace'",
       "    as well as any other name registered with codecs.register_error that",
       "    can handle UnicodeDecodeErrors."]⟩,
     ⟨"endswith", .method, "", ["B.endswith(suffix[, start[, end]]) -> bool", "",
       "Return True if B ends with the specified suffix, False otherwise.",
       "With optional start, test B beginning at that position.",
       "With optional end, stop comparing B at that position.",
       "suffix can also be a tuple of bytes to try."]⟩,
     ⟨"expandtabs", .method, "($self, /, tabsize=8)", [
       "Return a copy where all tab characters are expanded using spaces.", "",
       "If tabsize is not given, a tab size of 8 characters is assumed."]⟩,
     ⟨"extend", .method, "($self, iterable_of_ints, /)", [
       "Append all the items from the iterator or sequence to the end of the bytearray.", "",
       "  iterable_of_ints", "    The iterable of items to append."]⟩,
     ⟨"find", .method, "", ["B.find(sub[, start[, end]]) -> int", "",
       "Return the lowest index in B where subsection sub is found,",
       "such that sub is contained within B[start,end].  Optional",
       "arguments start and end are interpreted as in slice notation.", "",
       "Return -1 on failure."]⟩,
     ⟨"fromhex", .kindMethod, "($type, string, /)", [
       "Create a bytearray object from a string of hexadecimal numbers.", "",
       "Spaces between two numbers are accepted.",
       "Example: bytearray.fromhex('B9 01EF') -> bytearray(b'\\\\xb9\\\\x01\\\\xef')"]⟩,
     ⟨"hex", .method, "($self, /, sep=<unrepresentable>, bytes_per_sep=1)", [
       "Create a string of hexadecimal numbers from a bytearray object.", "", "  sep",
       "    An optional single character or byte to separate hex bytes.", "  bytes_per_sep",
       "    How many bytes between separators.  Positive values count from the",
       "    right, negative values count from the left.", "", "Example:",
       ">>> value = bytearray([0xb9, 0x01, 0xef])", ">>> value.hex()", "'b901ef'",
       ">>> value.hex(':')", "'b9:01:ef'", ">>> value.hex(':', 2)", "'b9:01ef'",
       ">>> value.hex(':', -2)", "'b901:ef'"]⟩,
     ⟨"index", .method, "", ["B.index(sub[, start[, end]]) -> int", "",
       "Return the lowest index in B where subsection sub is found,",
       "such that sub is contained within B[start,end].  Optional",
       "arguments start and end are interpreted as in slice notation.", "",
       "Raises ValueError when the subsection is not found."]⟩,
     ⟨"insert", .method, "($self, index, item, /)", [
       "Insert a single item into the bytearray before the given index.", "", "  index",
       "    The index where the value is to be inserted.", "  item",
       "    The item to be inserted."]⟩,
     ⟨"isalnum", .method, "", ["B.isalnum() -> bool", "",
       "Return True if all characters in B are alphanumeric",
       "and there is at least one character in B, False otherwise."]⟩,
     ⟨"isalpha", .method, "", ["B.isalpha() -> bool", "",
       "Return True if all characters in B are alphabetic",
       "and there is at least one character in B, False otherwise."]⟩,
     ⟨"isascii", .method, "", ["B.isascii() -> bool", "",
       "Return True if B is empty or all characters in B are ASCII,", "False otherwise."]⟩,
     ⟨"isdigit", .method, "", ["B.isdigit() -> bool", "",
       "Return True if all characters in B are digits",
       "and there is at least one character in B, False otherwise."]⟩,
     ⟨"islower", .method, "", ["B.islower() -> bool", "",
       "Return True if all cased characters in B are lowercase and there is",
       "at least one cased character in B, False otherwise."]⟩,
     ⟨"isspace", .method, "", ["B.isspace() -> bool", "",
       "Return True if all characters in B are whitespace",
       "and there is at least one character in B, False otherwise."]⟩,
     ⟨"istitle", .method, "", ["B.istitle() -> bool", "",
       "Return True if B is a titlecased string and there is at least one",
       "character in B, i.e. uppercase characters may only follow uncased",
       "characters and lowercase characters only cased ones. Return False", "otherwise."]⟩,
     ⟨"isupper", .method, "", ["B.isupper() -> bool", "",
       "Return True if all cased characters in B are uppercase and there is",
       "at least one cased character in B, False otherwise."]⟩,
     ⟨"join", .method, "($self, iterable_of_bytes, /)", [
       "Concatenate any number of bytes/bytearray objects.", "",
       "The bytearray whose method is called is inserted in between each pair.", "",
       "The result is returned as a new bytearray object."]⟩,
     ⟨"ljust", .method, "($self, width, fillchar=b' ', /)", [
       "Return a left-justified string of length width.", "",
       "Padding is done using the specified fill character."]⟩,
     ⟨"lower", .method, "", ["B.lower() -> copy of B", "",
       "Return a copy of B with all ASCII characters converted to lowercase."]⟩,
     ⟨"lstrip", .method, "($self, bytes=None, /)", [
       "Strip leading bytes contained in the argument.", "",
       "If the argument is omitted or None, strip leading ASCII whitespace."]⟩,
     ⟨"maketrans", .freeMethod, "(frm, to, /)", [
       "Return a translation table useable for the bytes or bytearray translate method.", "",
       "The returned table will be one where each byte in frm is mapped to the byte at",
       "the same position in to.", "",
       "The bytes objects frm and to must be of the same length."]⟩,
     ⟨"partition", .method, "($self, sep, /)", [
       "Partition the bytearray into three parts using the given separator.", "",
       "This will search for the separator sep in the bytearray. If the separator is",
       "found, returns a 3-tuple containing the part before the separator, the",
       "separator itself, and the part after it as new bytearray objects.", "",
       "If the separator is not found, returns a 3-tuple containing the copy of the",
       "original bytearray object and two empty bytearray objects."]⟩,
     ⟨"pop", .method, "($self, index=-1, /)", ["Remove and return a single item from B.", "",
       "  index", "    The index from where to remove the item.",
       "    -1 (the default value) means remove the last item.", "",
       "If no index argument is given, will pop the last item."]⟩,
     ⟨"remove", .method, "($self, value, /)", [
       "Remove the first occurrence of a value in the bytearray.", "", "  value",
       "    The value to remove."]⟩,
     ⟨"replace", .method, "($self, old, new, count=-1, /)", [
       "Return a copy with all occurrences of substring old replaced by new.", "", "  count",
       "    Maximum number of occurrences to replace.",
       "    -1 (the default value) means replace all occurrences.", "",
       "If the optional argument count is given, only the first count occurrences are",
       "replaced."]⟩,
     ⟨"removeprefix", .method, "($self, prefix, /)", [
       "Return a bytearray with the given prefix string removed if present.", "",
       "If the bytearray starts with the prefix string, return",
       "bytearray[len(prefix):].  Otherwise, return a copy of the original", "bytearray."]⟩,
     ⟨"removesuffix", .method, "($self, suffix, /)", [
       "Return a bytearray with the given suffix string removed if present.", "",
       "If the bytearray ends with the suffix string and that suffix is not",
       "empty, return bytearray[:-len(suffix)].  Otherwise, return a copy of",
       "the original bytearray."]⟩,
     ⟨"reverse", .method, "($self, /)", ["Reverse the order of the values in B in place."]⟩,
     ⟨"rfind", .method, "", ["B.rfind(sub[, start[, end]]) -> int", "",
       "Return the highest index in B where subsection sub is found,",
       "such that sub is contained within B[start,end].  Optional",
       "arguments start and end are interpreted as in slice notation.", "",
       "Return -1 on failure."]⟩,
     ⟨"rindex", .method, "", ["B.rindex(sub[, start[, end]]) -> int", "",
       "Return the highest index in B where subsection sub is found,",
       "such that sub is contained within B[start,end].  Optional",
       "arguments start and end are interpreted as in slice notation.", "",
       "Raise ValueError when the subsection is not found."]⟩,
     ⟨"rjust", .method, "($self, width, fillchar=b' ', /)", [
       "Return a right-justified string of length width.", "",
       "Padding is done using the specified fill character."]⟩,
     ⟨"rpartition", .method, "($self, sep, /)", [
       "Partition the bytearray into three parts using the given separator.", "",
       "This will search for the separator sep in the bytearray, starting at the end.",
       "If the separator is found, returns a 3-tuple containing the part before the",
       "separator, the separator itself, and the part after it as new bytearray", "objects.", "",
       "If the separator is not found, returns a 3-tuple containing two empty bytearray",
       "objects and the copy of the original bytearray object."]⟩,
     ⟨"rsplit", .method, "($self, /, sep=None, maxsplit=-1)", [
       "Return a list of the sections in the bytearray, using sep as the delimiter.", "", "  sep",
       "    The delimiter according which to split the bytearray.",
       "    None (the default value) means split on ASCII whitespace characters",
       "    (space, tab, return, newline, formfeed, vertical tab).", "  maxsplit",
       "    Maximum number of splits to do.", "    -1 (the default value) means no limit.", "",
       "Splitting is done starting at the end of the bytearray and working to the front."]⟩,
     ⟨"rstrip", .method, "($self, bytes=None, /)", [
       "Strip trailing bytes contained in the argument.", "",
       "If the argument is omitted or None, strip trailing ASCII whitespace."]⟩,
     ⟨"split", .method, "($self, /, sep=None, maxsplit=-1)", [
       "Return a list of the sections in the bytearray, using sep as the delimiter.", "", "  sep",
       "    The delimiter according which to split the bytearray.",
       "    None (the default value) means split on ASCII whitespace characters",
       "    (space, tab, return, newline, formfeed, vertical tab).", "  maxsplit",
       "    Maximum number of splits to do.", "    -1 (the default value) means no limit."]⟩,
     ⟨"splitlines", .method, "($self, /, keepends=False)", [
       "Return a list of the lines in the bytearray, breaking at line boundaries.", "",
       "Line breaks are not included in the resulting list unless keepends is given and",
       "true."]⟩,
     ⟨"startswith", .method, "", ["B.startswith(prefix[, start[, end]]) -> bool", "",
       "Return True if B starts with the specified prefix, False otherwise.",
       "With optional start, test B beginning at that position.",
       "With optional end, stop comparing B at that position.",
       "prefix can also be a tuple of bytes to try."]⟩,
     ⟨"strip", .method, "($self, bytes=None, /)", [
       "Strip leading and trailing bytes contained in the argument.", "",
       "If the argument is omitted or None, strip leading and trailing ASCII whitespace."]⟩,
     ⟨"swapcase", .method, "", ["B.swapcase() -> copy of B", "",
       "Return a copy of B with uppercase ASCII characters converted",
       "to lowercase ASCII and vice versa."]⟩,
     ⟨"title", .method, "", ["B.title() -> copy of B", "",
       "Return a titlecased version of B, i.e. ASCII words start with uppercase",
       "characters, all remaining cased characters have lowercase."]⟩,
     ⟨"translate", .method, "($self, table, /, delete=b'')", [
       "Return a copy with each character mapped by the given translation table.", "", "  table",
       "    Translation table, which must be a bytes object of length 256.", "",
       "All characters occurring in the optional argument delete are removed.",
       "The remaining characters are mapped through the given translation table."]⟩,
     ⟨"upper", .method, "", ["B.upper() -> copy of B", "",
       "Return a copy of B with all ASCII characters converted to uppercase."]⟩,
     ⟨"zfill", .method, "($self, width, /)", [
       "Pad a numeric string with zeros on the left, to fill a field of the given width.", "",
       "The original string is never truncated."]⟩,
     ⟨"__doc__", .account, "", []⟩,
     ⟨"__hash__", .nothing, "", []⟩]

/-- The kind `memoryview`. -/
def memoryviewEntry : KindEntry where
  name := "memoryview"
  measures := [144, 8, 545056, 0, 136]
  usage := "(object)"
  about := ["Create a new memoryview object which references the given object."]
  parts :=
    partsOf .maker ["__new__"] ++
    partsOf .operation [
      "__repr__ __hash__ __getattribute__ __lt__ __le__ __eq__ __ne__ __gt__ __ge__",
      "__iter__ __len__ __getitem__ __setitem__ __delitem__"] ++
    [⟨"release", .method, "($self, /)", [
       "Release the underlying buffer exposed by the memoryview object."]⟩,
     ⟨"tobytes", .method, "($self, /, order='C')", [
       "Return the data in the buffer as a byte string.", "",
       "Order can be \x7b'C', 'F', 'A'\x7d. When order is 'C' or 'F', the data of the",
       "original array is converted to C or Fortran order. For contiguous views,",
       "'A' returns an exact copy of the physical memory. In particular, in-memory",
       "Fortran order is preserved. For non-contiguous views, the data is converted",
       "to C first. order=None is the same as order='C'."]⟩,
     ⟨"hex", .method, "($self, /, sep=<unrepresentable>, bytes_per_sep=1)", [
       "Return the data in the buffer as a str of hexadecimal numbers.", "", "  sep",
       "    An optional single character or byte to separate hex bytes.", "  bytes_per_sep",
       "    How many bytes between separators.  Positive values count from the",
       "    right, negative values count from the left.", "", "Example:",
       ">>> value = memoryview(b'\\xb9\\x01\\xef')", ">>> value.hex()", "'b901ef'",
       ">>> value.hex(':')", "'b9:01:ef'", ">>> value.hex(':', 2)", "'b9:01ef'",
       ">>> value.hex(':', -2)", "'b901:ef'"]⟩,
     ⟨"tolist", .method, "($self, /)", ["Return the data in the buffer as a list of elements."]⟩,
     ⟨"cast", .method, "($self, /, format, shape=<unrepresentable>)", [
       "Cast a memoryview to a new format or shape."]⟩,
     ⟨"toreadonly", .method, "($self, /)", ["Return a readonly version of the memoryview."]⟩] ++
    partsOf .method ["__enter__ __exit__"] ++
    [⟨"obj", .quality, "", ["The underlying object of the memoryview."]⟩,
     ⟨"nbytes", .quality, "", ["The amount of space in bytes that the array would use in",
       " a contiguous representation."]⟩,
     ⟨"readonly", .quality, "", ["A bool indicating whether the memory is read only."]⟩,
     ⟨"itemsize", .quality, "", ["The size in bytes of each element of the memoryview."]⟩,
     ⟨"format", .quality, "", ["A string containing the format (in struct module style)",
       " for each element in the view."]⟩,
     ⟨"ndim", .quality, "", ["An integer indicating how many dimensions of a multi-dimensional",
       " array the memory represents."]⟩,
     ⟨"shape", .quality, "", ["A tuple of ndim integers giving the shape of the memory",
       " as an N-dimensional array."]⟩,
     ⟨"strides", .quality, "", ["A tuple of ndim integers giving the size in bytes to access",
       " each element for each dimension of the array."]⟩,
     ⟨"suboffsets", .quality, "", ["A tuple of integers used internally for PIL-style arrays."]⟩,
     ⟨"c_contiguous", .quality, "", ["A bool indicating whether the memory is C contiguous."]⟩,
     ⟨"f_contiguous", .quality, "", [
       "A bool indicating whether the memory is Fortran contiguous."]⟩,
     ⟨"contiguous", .quality, "", ["A bool indicating whether the memory is contiguous."]⟩,
     ⟨"__doc__", .account, "", []⟩]

/-- The kinds of this module. -/
def bytesEntries : List KindEntry :=
  [bytesEntry, bytearrayEntry, memoryviewEntry]

end DiceChat.Catalogue
