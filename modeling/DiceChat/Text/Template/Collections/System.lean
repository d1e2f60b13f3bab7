import DiceChat.Text.Template.Collections.Program

/-! What is known in the collections of the system, as far as it is the same wherever the program runs. -/

namespace DiceChat

/-- The collections that are part of the system. -/
def systemCollections : List Text :=
  wordsOf ["sys builtins _io _operator _functools _thread _codecs _abc _signal _string _weakref",
    "itertools marshal posix time errno atexit faulthandler"]

/-- What every collection that is part of the system knows. -/
def systemEntries (name : String) : List (Text × Subject) :=
  [entry "__name__" (.say name), entry "__package__" (.say ""),
    entry "__loader__" (.kind builtInLoader),
    entry "__spec__" (originThing name "<class '_frozen_importlib.BuiltinImporter'>"
      (.kind builtInLoader) (.say "built-in") false)]

/-- The collections that are read from files and that hold others. -/
def openPackages : List Text :=
  wordsOf ["json logging asyncio collections importlib encodings re email urllib http concurrent",
    "unittest ctypes multiprocessing"]

/-- The names of collections at hand that are neither the program's nor built in. -/
def openCollections : List Text :=
  openPackages ++ wordsOf [
    "__main__ enum dataclasses typing types functools operator keyword string random math",
    "os os.path posixpath stat genericpath io codecs abc copy copyreg reprlib weakref",
    "argparse gettext locale pathlib fnmatch contextlib warnings traceback linecache",
    "tokenize token inspect ast dis opcode threading queue tempfile shutil hashlib bisect",
    "heapq numbers struct datetime calendar textwrap shlex signal selectors socket ssl",
    "subprocess site _sitebuiltins _collections_abc _weakrefset json.decoder json.encoder",
    "json.scanner logging.handlers logging.config collections.abc importlib.machinery",
    "importlib.util"]

/-- A record of the system that tells about itself, from its title. -/
def systemRecord (title : String) (own : List (Text × Subject)) : Subject :=
  let shown := own.map fun (name, part) => name ++ '=' :: (part.inline.toOption.getD [])
  .thing (.listed title)
    (title.toList ++ '(' :: joinWith ", ".toList shown ++ [')']) own

/-- The functions of the system itself. -/
def ownSystemFunctions : List (Text × Subject) :=
  (wordsOf ["addaudithook audit breakpointhook displayhook exception exc_info excepthook exit",
    "getdefaultencoding getdlopenflags getallocatedblocks getfilesystemencoding",
    "getfilesystemencodeerrors getrefcount getrecursionlimit getsizeof _getframe intern",
    "is_finalizing setswitchinterval getswitchinterval setdlopenflags setprofile getprofile",
    "setrecursionlimit settrace gettrace call_tracing set_coroutine_origin_tracking_depth",
    "get_coroutine_origin_tracking_depth set_asyncgen_hooks get_asyncgen_hooks unraisablehook",
    "get_int_max_str_digits set_int_max_str_digits"]).map fun name =>
      systemFunction "sys" "sys" ⟨String.ofList name, .freeMethod, "", []⟩

/-- The name under which a collection is at hand stands for it, but one has a second name. -/
def moduleAt (name : Text) : Text × Subject :=
  (name, .module (if name = "os.path".toList then "posixpath".toList else name))

/-- What is known of the system itself, where the given collections are at hand. -/
def ownSystemEntries (collections : List Text) : List (Text × Subject) :=
  -- Of its version, only what all of its line have in common is told.
  ownSystemFunctions ++
  [entry "modules" (.table (collections.map moduleAt)),
    entry "version_info" (systemRecord "sys.version_info"
      [entry "major" (.whole 3), entry "minor" (.whole 11)]),
    entry "implementation" (.thing (.listed "types.SimpleNamespace") "namespace()".toList
      [entry "name" (.say "cpython"), entry "cache_tag" (.say "cpython-311"),
        entry "_multiarch" (.say "x86_64-linux-gnu")]),
    entry "warnoptions" (.list []), entry "pycache_prefix" .nothing,
    entry "maxsize" (.whole 0x7fffffffffffffff), entry "maxunicode" (.whole 0x10ffff),
    entry "byteorder" (.say "little"), entry "platform" (.say "linux"),
    entry "float_repr_style" (.say "short"), entry "abiflags" (.say ""),
    entry "api_version" (.whole 1013), entry "platlibdir" (.say "lib"),
    entry "int_info" (systemRecord "sys.int_info"
      [entry "bits_per_digit" (.whole 30), entry "sizeof_digit" (.whole 4),
        entry "default_max_str_digits" (.whole 4300),
        entry "str_digits_check_threshold" (.whole 640)]),
    entry "hash_info" (systemRecord "sys.hash_info"
      [entry "width" (.whole 64), entry "modulus" (.whole 0x1fffffffffffffff),
        entry "inf" (.whole 314159), entry "nan" (.whole 0), entry "imag" (.whole 1000003),
        entry "algorithm" (.say "siphash13"), entry "hash_bits" (.whole 64),
        entry "seed_bits" (.whole 128), entry "cutoff" (.whole 0)])]

/-- The small letters. -/
def smallLetters : String := "abcdefghijklmnopqrstuvwxyz"

/-- The capital letters. -/
def capitalLetters : String := "ABCDEFGHIJKLMNOPQRSTUVWXYZ"

/-- The digits of decimals. -/
def decimalDigits : String := "0123456789"

/-- The marks of punctuation. -/
def punctuationMarks : String := "!\"#$%&'()*+,-./:;<=>?@[\\]^_`\x7b|\x7d~"

/-- The blanks. -/
def asciiBlanks : String := " \t\n\r\x0b\x0c"

/-- The names known where texts are described. -/
def textEntries : List (Text × Subject) :=
  collectionEntries "string" ""
    ["A collection of string constants.", "", "Public module variables:", "",
      "whitespace -- a string containing all ASCII whitespace",
      "ascii_lowercase -- a string containing all ASCII lowercase letters",
      "ascii_uppercase -- a string containing all ASCII uppercase letters",
      "ascii_letters -- a string containing all ASCII letters",
      "digits -- a string containing all ASCII decimal digits",
      "hexdigits -- a string containing all ASCII hexadecimal digits",
      "octdigits -- a string containing all ASCII octal digits",
      "punctuation -- a string containing all ASCII punctuation characters",
      "printable -- a string containing all ASCII characters considered printable", "", ""] ++
    [entry "__all__" (.list ((wordsOf ["ascii_letters ascii_lowercase ascii_uppercase capwords",
        "digits hexdigits octdigits printable punctuation whitespace Formatter Template"]).map
          .text)),
      entry "whitespace" (.say asciiBlanks),
      entry "ascii_lowercase" (.say smallLetters), entry "ascii_uppercase" (.say capitalLetters),
      entry "ascii_letters" (.say (smallLetters ++ capitalLetters)),
      entry "digits" (.say decimalDigits),
      entry "hexdigits" (.say (decimalDigits ++ "abcdefABCDEF")),
      entry "octdigits" (.say "01234567"), entry "punctuation" (.say punctuationMarks),
      entry "printable" (.say (decimalDigits ++ smallLetters ++ capitalLetters ++
        punctuationMarks ++ asciiBlanks)),
      entry "_sentinel_dict" (.table [])] ++
    modulesUnder ["_string"] ++ [entry "_re" (.module "re".toList)] ++
    kindsOf "string" ["Template Formatter"]

/-- The numbers of severities under their names. -/
def severityEntries : List (Text × Subject) :=
  [entry "CRITICAL" (.whole 50), entry "FATAL" (.whole 50), entry "ERROR" (.whole 40),
    entry "WARNING" (.whole 30), entry "WARN" (.whole 30), entry "INFO" (.whole 20),
    entry "DEBUG" (.whole 10), entry "NOTSET" (.whole 0)]

/-- The names known where records are logged. -/
def loggingEntries : List (Text × Subject) :=
  collectionEntries "logging" "logging" [] ++
    [entry "__status__" (.say "production"), entry "__version__" (.say "0.5.1.2"),
      entry "__date__" (.say "07 February 2010"), entry "raiseExceptions" (.truth true),
      entry "logThreads" (.truth true), entry "logMultiprocessing" (.truth true),
      entry "logProcesses" (.truth true)] ++
    severityEntries ++
    [entry "_nameToLevel" (.table (pick
        ["CRITICAL FATAL ERROR WARN WARNING INFO DEBUG NOTSET"] severityEntries)),
      entry "BASIC_FORMAT" (.say "%(levelname)s:%(name)s:%(message)s")] ++
    modulesUnder ["sys os time io re traceback warnings weakref threading"] ++
    kindsOf "logging" ["LogRecord PercentStyle StrFormatStyle StringTemplateStyle Formatter",
      "BufferingFormatter Filter Filterer Handler StreamHandler FileHandler PlaceHolder Manager",
      "Logger RootLogger LoggerAdapter NullHandler"] ++
    [entry "handlers" (.module "logging.handlers".toList)]

/-- The names known where documents are written and read. -/
def documentEntries : List (Text × Subject) :=
  collectionEntries "json" "json" [] ++
    [entry "__version__" (.say "2.0.9"),
      entry "__all__" (.list ((wordsOf ["dump dumps load loads JSONDecoder JSONDecodeError",
        "JSONEncoder"]).map .text)),
      entry "scanner" (.module "json.scanner".toList),
      entry "decoder" (.module "json.decoder".toList)] ++
    kindsOf "json.decoder" ["JSONDecoder JSONDecodeError"] ++
    [entry "encoder" (.module "json.encoder".toList)] ++
    kindsOf "json.encoder" ["JSONEncoder"] ++ modulesUnder ["codecs"]

/-- The names known where the command line is taken apart. -/
def argumentEntries : List (Text × Subject) :=
  collectionEntries "argparse" "" [] ++
    [entry "__version__" (.say "1.1"), entry "SUPPRESS" (.say "==SUPPRESS=="),
      entry "OPTIONAL" (.say "?"), entry "ZERO_OR_MORE" (.say "*"),
      entry "ONE_OR_MORE" (.say "+"), entry "PARSER" (.say "A..."),
      entry "REMAINDER" (.say "..."),
      entry "_UNRECOGNIZED_ARGS_ATTR" (.say "_unrecognized_args")] ++
    kindsOf "argparse" ["ArgumentParser ArgumentError ArgumentTypeError Namespace Action",
      "HelpFormatter FileType"]

/-- The names known where files are found. -/
def filesystemEntries : List (Text × Subject) :=
  collectionEntries "os" "" [] ++
    [entry "name" (.say "posix"), entry "linesep" (.say "\n"), entry "curdir" (.say "."),
      entry "pardir" (.say ".."), entry "sep" (.say "/"), entry "pathsep" (.say ":"),
      entry "defpath" (.say "/bin:/usr/bin"), entry "extsep" (.say "."), entry "altsep" .nothing,
      entry "devnull" (.say "/dev/null"), entry "SEEK_SET" (.whole 0),
      entry "SEEK_CUR" (.whole 1), entry "SEEK_END" (.whole 2), entry "F_OK" (.whole 0),
      entry "R_OK" (.whole 4), entry "W_OK" (.whole 2), entry "X_OK" (.whole 1),
      entry "O_RDONLY" (.whole 0), entry "O_WRONLY" (.whole 1), entry "O_RDWR" (.whole 2),
      entry "error" (.kind (.listed "OSError")), entry "path" (.module "posixpath".toList)] ++
    modulesUnder ["abc sys"] ++ [entry "st" (.module "stat".toList)]

/-- The names known where numbers are worked out. -/
def numberEntries : List (Text × Subject) :=
  let fraction := fun (shown : String) => Subject.thing (.listed "float") shown.toList []
  collectionEntries "math" "" [] ++
    [entry "pi" (fraction "3.141592653589793"), entry "e" (fraction "2.718281828459045"),
      entry "tau" (fraction "6.283185307179586"), entry "inf" (fraction "inf"),
      entry "nan" (fraction "nan")]

/-- The names known where kinds of records are made. -/
def recordMakingEntries : List (Text × Subject) :=
  collectionEntries "dataclasses" "" [] ++ pick ["dataclass"] commonEntries ++
    kindsOf "dataclasses" ["FrozenInstanceError Field"] ++ [entry "MISSING" Hint.missing] ++
    madeIn "dataclasses" Recipes.recordTools

/-- The names known where hints are made. -/
def hintEntries : List (Text × Subject) :=
  collectionEntries "typing" "" [] ++ pick ["Any Dict List Optional Tuple Union"] commonEntries ++
    kindsOf "typing" ["ForwardRef"]

/-- The collections of the system that are known better than others, by name. -/
def knownCollections : List (String × List (Text × Subject)) :=
  [("builtins", builtInEntries), ("enum", choiceEntries), ("string", textEntries),
    ("logging", loggingEntries), ("json", documentEntries), ("argparse", argumentEntries),
    ("os", filesystemEntries), ("math", numberEntries), ("dataclasses", recordMakingEntries),
    ("typing", hintEntries)]

/-- The names of the collections of the chat. -/
def chatCollections : List Text :=
  wordsOf ["discord discord.ext discord.ext.commands"]

/-- The names of all collections that are at hand. -/
def collectionNames : List Text :=
  systemCollections ++ openCollections ++ chatCollections ++
    (programCollections.map fun (name, _) => name.toList)

/-- The names that a collection of which little is known knows. -/
def openEntries (collection : Text) : List (Text × Subject) :=
  -- A collection that holds others belongs to itself, any other one to what stands before its name.
  let name := String.ofList collection
  let above := joinWith ['.'] (splitOnChar '.' collection).dropLast
  if (openPackages ++ chatCollections).contains collection then collectionEntries name name []
  else collectionEntries name (String.ofList above) []

/-- The names that a collection knows. -/
def namespaceOf (collection : Text) : List (Text × Subject) :=
  let name := String.ofList collection
  match (programCollections ++ knownCollections).lookup name with
  | some entries => entries
  | none =>
    if name = "sys" then systemEntries name ++ ownSystemEntries collectionNames
    else if systemCollections.contains collection then systemEntries name
    else openEntries collection

end DiceChat
