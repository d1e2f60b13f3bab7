import DiceChat.Text.Kind.Entry

/-! The kind of texts. -/

namespace DiceChat.Catalogue

/-- The kind `str`. -/
def strEntry : KindEntry where
  name := "str"
  measures := [80, 0, 273159424, 0, 0]
  about := ["str(object='') -> str", "str(bytes_or_buffer[, encoding[, errors]]) -> str", "",
    "Create a new string object from the given object. If encoding or",
    "errors is specified, then the object must expose a data buffer",
    "that will be decoded using the given encoding and error handler.",
    "Otherwise, returns the result of object.__str__() (if defined)", "or repr(object).",
    "encoding defaults to sys.getdefaultencoding().", "errors defaults to 'strict'."]
  parts :=
    partsOf .maker ["__new__"] ++
    partsOf .operation [
      "__repr__ __hash__ __str__ __getattribute__ __lt__ __le__ __eq__ __ne__ __gt__ __ge__",
      "__iter__ __mod__ __rmod__ __len__ __getitem__ __add__ __mul__ __rmul__ __contains__"] ++
    [⟨"encode", .method, "($self, /, encoding='utf-8', errors='strict')", [
       "Encode the string using the codec registered for encoding.", "", "  encoding",
       "    The encoding in which to encode the string.", "  errors",
       "    The error handling scheme to use for encoding errors.",
       "    The default is 'strict' meaning that encoding errors raise a",
       "    UnicodeEncodeError.  Other possible values are 'ignore', 'replace' and",
       "    'xmlcharrefreplace' as well as any other name registered with",
       "    codecs.register_error that can handle UnicodeEncodeErrors."]⟩,
     ⟨"replace", .method, "($self, old, new, count=-1, /)", [
       "Return a copy with all occurrences of substring old replaced by new.", "", "  count",
       "    Maximum number of occurrences to replace.",
       "    -1 (the default value) means replace all occurrences.", "",
       "If the optional argument count is given, only the first count occurrences are",
       "replaced."]⟩,
     ⟨"split", .method, "($self, /, sep=None, maxsplit=-1)", [
       "Return a list of the substrings in the string, using sep as the separator string.", "",
       "  sep", "    The separator used to split the string.", "",
       "    When set to None (the default value), will split on any whitespace",
       "    character (including \\n \\r \\t \\f and spaces) and will discard",
       "    empty strings from the result.", "  maxsplit", "    Maximum number of splits.",
       "    -1 (the default value) means no limit.", "",
       "Splitting starts at the front of the string and works to the end.", "",
       "Note, str.split() is mainly useful for data that has been intentionally",
       "delimited.  With natural text that includes punctuation, consider using",
       "the regular expression module."]⟩,
     ⟨"rsplit", .method, "($self, /, sep=None, maxsplit=-1)", [
       "Return a list of the substrings in the string, using sep as the separator string.", "",
       "  sep", "    The separator used to split the string.", "",
       "    When set to None (the default value), will split on any whitespace",
       "    character (including \\n \\r \\t \\f and spaces) and will discard",
       "    empty strings from the result.", "  maxsplit", "    Maximum number of splits.",
       "    -1 (the default value) means no limit.", "",
       "Splitting starts at the end of the string and works to the front."]⟩,
     ⟨"join", .method, "($self, iterable, /)", ["Concatenate any number of strings.", "",
       "The string whose method is called is inserted in between each given string.",
       "The result is returned as a new string.", "",
       "Example: '.'.join(['ab', 'pq', 'rs']) -> 'ab.pq.rs'"]⟩,
     ⟨"capitalize", .method, "($self, /)", ["Return a capitalized version of the string.", "",
       "More specifically, make the first character have upper case and the rest lower",
       "case."]⟩,
     ⟨"casefold", .method, "($self, /)", [
       "Return a version of the string suitable for caseless comparisons."]⟩,
     ⟨"title", .method, "($self, /)", [
       "Return a version of the string where each word is titlecased.", "",
       "More specifically, words start with uppercased characters and all remaining",
       "cased characters have lower case."]⟩,
     ⟨"center", .method, "($self, width, fillchar=' ', /)", [
       "Return a centered string of length width.", "",
       "Padding is done using the specified fill character (default is a space)."]⟩,
     ⟨"count", .method, "", ["S.count(sub[, start[, end]]) -> int", "",
       "Return the number of non-overlapping occurrences of substring sub in",
       "string S[start:end].  Optional arguments start and end are",
       "interpreted as in slice notation."]⟩,
     ⟨"expandtabs", .method, "($self, /, tabsize=8)", [
       "Return a copy where all tab characters are expanded using spaces.", "",
       "If tabsize is not given, a tab size of 8 characters is assumed."]⟩,
     ⟨"find", .method, "", ["S.find(sub[, start[, end]]) -> int", "",
       "Return the lowest index in S where substring sub is found,",
       "such that sub is contained within S[start:end].  Optional",
       "arguments start and end are interpreted as in slice notation.", "",
       "Return -1 on failure."]⟩,
     ⟨"partition", .method, "($self, sep, /)", [
       "Partition the string into three parts using the given separator.", "",
       "This will search for the separator in the string.  If the separator is found,",
       "returns a 3-tuple containing the part before the separator, the separator",
       "itself, and the part after it.", "",
       "If the separator is not found, returns a 3-tuple containing the original string",
       "and two empty strings."]⟩,
     ⟨"index", .method, "", ["S.index(sub[, start[, end]]) -> int", "",
       "Return the lowest index in S where substring sub is found,",
       "such that sub is contained within S[start:end].  Optional",
       "arguments start and end are interpreted as in slice notation.", "",
       "Raises ValueError when the substring is not found."]⟩,
     ⟨"ljust", .method, "($self, width, fillchar=' ', /)", [
       "Return a left-justified string of length width.", "",
       "Padding is done using the specified fill character (default is a space)."]⟩,
     ⟨"lower", .method, "($self, /)", ["Return a copy of the string converted to lowercase."]⟩,
     ⟨"lstrip", .method, "($self, chars=None, /)", [
       "Return a copy of the string with leading whitespace removed.", "",
       "If chars is given and not None, remove characters in chars instead."]⟩,
     ⟨"rfind", .method, "", ["S.rfind(sub[, start[, end]]) -> int", "",
       "Return the highest index in S where substring sub is found,",
       "such that sub is contained within S[start:end].  Optional",
       "arguments start and end are interpreted as in slice notation.", "",
       "Return -1 on failure."]⟩,
     ⟨"rindex", .method, "", ["S.rindex(sub[, start[, end]]) -> int", "",
       "Return the highest index in S where substring sub is found,",
       "such that sub is contained within S[start:end].  Optional",
       "arguments start and end are interpreted as in slice notation.", "",
       "Raises ValueError when the substring is not found."]⟩,
     ⟨"rjust", .method, "($self, width, fillchar=' ', /)", [
       "Return a right-justified string of length width.", "",
       "Padding is done using the specified fill character (default is a space)."]⟩,
     ⟨"rstrip", .method, "($self, chars=None, /)", [
       "Return a copy of the string with trailing whitespace removed.", "",
       "If chars is given and not None, remove characters in chars instead."]⟩,
     ⟨"rpartition", .method, "($self, sep, /)", [
       "Partition the string into three parts using the given separator.", "",
       "This will search for the separator in the string, starting at the end. If",
       "the separator is found, returns a 3-tuple containing the part before the",
       "separator, the separator itself, and the part after it.", "",
       "If the separator is not found, returns a 3-tuple containing two empty strings",
       "and the original string."]⟩,
     ⟨"splitlines", .method, "($self, /, keepends=False)", [
       "Return a list of the lines in the string, breaking at line boundaries.", "",
       "Line breaks are not included in the resulting list unless keepends is given and",
       "true."]⟩,
     ⟨"strip", .method, "($self, chars=None, /)", [
       "Return a copy of the string with leading and trailing whitespace removed.", "",
       "If chars is given and not None, remove characters in chars instead."]⟩,
     ⟨"swapcase", .method, "($self, /)", [
       "Convert uppercase characters to lowercase and lowercase characters to uppercase."]⟩,
     ⟨"translate", .method, "($self, table, /)", [
       "Replace each character in the string using the given translation table.", "", "  table",
       "    Translation table, which must be a mapping of Unicode ordinals to",
       "    Unicode ordinals, strings, or None.", "",
       "The table must implement lookup/indexing via __getitem__, for instance a",
       "dictionary or list.  If this operation raises LookupError, the character is",
       "left untouched.  Characters mapped to None are deleted."]⟩,
     ⟨"upper", .method, "($self, /)", ["Return a copy of the string converted to uppercase."]⟩,
     ⟨"startswith", .method, "", ["S.startswith(prefix[, start[, end]]) -> bool", "",
       "Return True if S starts with the specified prefix, False otherwise.",
       "With optional start, test S beginning at that position.",
       "With optional end, stop comparing S at that position.",
       "prefix can also be a tuple of strings to try."]⟩,
     ⟨"endswith", .method, "", ["S.endswith(suffix[, start[, end]]) -> bool", "",
       "Return True if S ends with the specified suffix, False otherwise.",
       "With optional start, test S beginning at that position.",
       "With optional end, stop comparing S at that position.",
       "suffix can also be a tuple of strings to try."]⟩,
     ⟨"removeprefix", .method, "($self, prefix, /)", [
       "Return a str with the given prefix string removed if present.", "",
       "If the string starts with the prefix string, return string[len(prefix):].",
       "Otherwise, return a copy of the original string."]⟩,
     ⟨"removesuffix", .method, "($self, suffix, /)", [
       "Return a str with the given suffix string removed if present.", "",
       "If the string ends with the suffix string and that suffix is not empty,",
       "return string[:-len(suffix)]. Otherwise, return a copy of the original", "string."]⟩,
     ⟨"isascii", .method, "($self, /)", [
       "Return True if all characters in the string are ASCII, False otherwise.", "",
       "ASCII characters have code points in the range U+0000-U+007F.",
       "Empty string is ASCII too."]⟩,
     ⟨"islower", .method, "($self, /)", [
       "Return True if the string is a lowercase string, False otherwise.", "",
       "A string is lowercase if all cased characters in the string are lowercase and",
       "there is at least one cased character in the string."]⟩,
     ⟨"isupper", .method, "($self, /)", [
       "Return True if the string is an uppercase string, False otherwise.", "",
       "A string is uppercase if all cased characters in the string are uppercase and",
       "there is at least one cased character in the string."]⟩,
     ⟨"istitle", .method, "($self, /)", [
       "Return True if the string is a title-cased string, False otherwise.", "",
       "In a title-cased string, upper- and title-case characters may only",
       "follow uncased characters and lowercase characters only cased ones."]⟩,
     ⟨"isspace", .method, "($self, /)", [
       "Return True if the string is a whitespace string, False otherwise.", "",
       "A string is whitespace if all characters in the string are whitespace and there",
       "is at least one character in the string."]⟩,
     ⟨"isdecimal", .method, "($self, /)", [
       "Return True if the string is a decimal string, False otherwise.", "",
       "A string is a decimal string if all characters in the string are decimal and",
       "there is at least one character in the string."]⟩,
     ⟨"isdigit", .method, "($self, /)", [
       "Return True if the string is a digit string, False otherwise.", "",
       "A string is a digit string if all characters in the string are digits and there",
       "is at least one character in the string."]⟩,
     ⟨"isnumeric", .method, "($self, /)", [
       "Return True if the string is a numeric string, False otherwise.", "",
       "A string is numeric if all characters in the string are numeric and there is at",
       "least one character in the string."]⟩,
     ⟨"isalpha", .method, "($self, /)", [
       "Return True if the string is an alphabetic string, False otherwise.", "",
       "A string is alphabetic if all characters in the string are alphabetic and there",
       "is at least one character in the string."]⟩,
     ⟨"isalnum", .method, "($self, /)", [
       "Return True if the string is an alpha-numeric string, False otherwise.", "",
       "A string is alpha-numeric if all characters in the string are alpha-numeric and",
       "there is at least one character in the string."]⟩,
     ⟨"isidentifier", .method, "($self, /)", [
       "Return True if the string is a valid Python identifier, False otherwise.", "",
       "Call keyword.iskeyword(s) to test whether string s is a reserved identifier,",
       "such as \"def\" or \"class\"."]⟩,
     ⟨"isprintable", .method, "($self, /)", [
       "Return True if the string is printable, False otherwise.", "",
       "A string is printable if all of its characters are considered printable in",
       "repr() or if it is empty."]⟩,
     ⟨"zfill", .method, "($self, width, /)", [
       "Pad a numeric string with zeros on the left, to fill a field of the given width.", "",
       "The string is never truncated."]⟩,
     ⟨"format", .method, "", ["S.format(*args, **kwargs) -> str", "",
       "Return a formatted version of S, using substitutions from args and kwargs.",
       "The substitutions are identified by braces ('\x7b' and '\x7d')."]⟩,
     ⟨"format_map", .method, "", ["S.format_map(mapping) -> str", "",
       "Return a formatted version of S, using substitutions from mapping.",
       "The substitutions are identified by braces ('\x7b' and '\x7d')."]⟩,
     ⟨"__format__", .method, "($self, format_spec, /)", [
       "Return a formatted version of the string as described by format_spec."]⟩,
     ⟨"maketrans", .freeMethod, "(x, y=<unrepresentable>, z=<unrepresentable>, /)", [
       "Return a translation table usable for str.translate().", "",
       "If there is only one argument, it must be a dictionary mapping Unicode",
       "ordinals (integers) or characters to Unicode ordinals, strings or None.",
       "Character keys will be then converted to ordinals.",
       "If there are two arguments, they must be strings of equal length, and",
       "in the resulting dictionary, each character in x will be mapped to the",
       "character at the same position in y. If there is a third argument, it",
       "must be a string, whose characters will be mapped to None in the result."]⟩,
     ⟨"__sizeof__", .method, "($self, /)", [
       "Return the size of the string in memory, in bytes."]⟩,
     ⟨"__getnewargs__", .method, "", []⟩,
     ⟨"__doc__", .account, "", []⟩]

/-- The kinds of this module. -/
def textsEntries : List KindEntry :=
  [strEntry]

end DiceChat.Catalogue
