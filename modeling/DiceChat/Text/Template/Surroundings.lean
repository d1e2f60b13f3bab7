import DiceChat.Text.Template.Flag
import DiceChat.Text.Template.Recipes.Chats
import DiceChat.Text.Template.Recipes.Choices
import DiceChat.Text.Template.Recipes.Commands
import DiceChat.Text.Template.Recipes.Configs
import DiceChat.Text.Template.Recipes.Displays
import DiceChat.Text.Template.Recipes.Draws
import DiceChat.Text.Template.Recipes.Lists
import DiceChat.Text.Template.Recipes.Loggers
import DiceChat.Text.Template.Recipes.Making
import DiceChat.Text.Template.Recipes.Readers
import DiceChat.Text.Template.Recipes.Rolls
import DiceChat.Text.Template.Recipes.Sessions
import DiceChat.Text.Template.Recipes.Settings

/-! What is known where functions were made: the names of their collection, and those always at hand. -/

namespace DiceChat

/-- The recipes of functions, by the titles of the latter. -/
def recipes : List (String × Recipe) :=
  Recipes.settingsRecipes ++ Recipes.rollRecipes ++ Recipes.sessionRecipes ++
    Recipes.choiceRecipes ++ Recipes.listRecipes ++ Recipes.displayRecipes ++
    Recipes.readerRecipes ++ Recipes.loggerRecipes ++ Recipes.configRecipes ++ Recipes.chatRecipes

/-- The recipe of a function of a kind. -/
def recipe? (owner : Kind) (name : Text) : Option Recipe :=
  recipes.lookup (String.ofList (owner.title ++ '.' :: name))

/-- Kinds of the catalogue under their own titles. -/
def kindEntries (lines : List String) : List (Text × Subject) :=
  (wordsOf lines).map fun name => (name, .kind (.listed (String.ofList name)))

/-- Where a collection comes from. -/
def originThing (name loader : String) (loaderThing origin : Subject) (isRead : Bool) : Subject :=
  let own := [entry "name" (.say name), entry "loader" loaderThing, entry "origin" origin,
    entry "loader_state" .nothing, entry "submodule_search_locations" .nothing,
    entry "_uninitialized_submodules" (.list []), entry "_set_fileattr" (.truth isRead),
    entry "_cached" .nothing]
  let home := String.ofList (joinWith ['.'] (splitOnChar '.' name.toList).dropLast)
  let shown := "ModuleSpec(name='" ++ name ++ "', loader=" ++ loader ++ ", origin='built-in')"
  .thing (.listed "_frozen_importlib.ModuleSpec") shown.toList
    (own ++ [entry "parent" (.say home), entry "has_location" (.truth isRead),
      entry "cached" .nothing, entry "__dict__" (.table own)])

/-- What brings the collections that are always at hand. -/
def builtInLoader : Kind := .listed "_frozen_importlib.BuiltinImporter"

/-- A word that ends the conversation when it is called. -/
def quitThing (name : String) : Text × Subject :=
  let own := [entry "name" (.say name), entry "eof" (.say "Ctrl-D (i.e. EOF)")]
  let shown := "Use " ++ name ++ "() or Ctrl-D (i.e. EOF) to exit"
  entry name
    (.thing (.listed "_sitebuiltins.Quitter") shown.toList (own ++ [entry "__dict__" (.table own)]))

/-- A word that shows a text when it is called. -/
def printThing (name : String) : Text × Subject :=
  -- The texts themselves are not told.
  let shown := "Type " ++ name ++ "() to see the full " ++ name ++ " text"
  entry name (.thing (.listed "_sitebuiltins._Printer") shown.toList [])

/-- What tells about everything when it is called. -/
def helpThing : Subject :=
  .thing (.listed "_sitebuiltins._Helper")
    "Type help() for interactive help, or help(object) for help about object.".toList
    [entry "__dict__" (.table [])]

/-- The names of what is always at hand. -/
def builtInEntries : List (Text × Subject) :=
  let functions := builtInFunctions.map builtInThing
  [entry "__name__" (.say "builtins"),
    entry "__doc__" (.sayLines ["Built-in functions, types, exceptions, and other objects.", "",
      "This module provides direct access to all 'built-in'",
      "identifiers of Python; for example, builtins.len is",
      "the full name for the built-in function len().", "",
      "This module is not normally accessed explicitly by most",
      "applications, but can be useful in modules that provide",
      "objects with the same name as a built-in value, but in",
      "which the built-in of that name is also needed."]),
    entry "__package__" (.say ""), entry "__loader__" (.kind builtInLoader),
    entry "__spec__" (originThing "builtins" "<class '_frozen_importlib.BuiltinImporter'>"
      (.kind builtInLoader) (.say "built-in") false)] ++
    functions.dropLast ++
    [entry "None" .nothing, entry "Ellipsis" Hint.rest,
      entry "NotImplemented" (.thing (.listed "NotImplementedType") "NotImplemented".toList []),
      entry "False" (.truth false), entry "True" (.truth true)] ++
    kindEntries [
      "bool memoryview bytearray bytes classmethod complex dict enumerate filter float",
      "frozenset property int list map object range reversed set slice staticmethod str",
      "super tuple type zip"] ++
    [entry "__debug__" (.truth true)] ++
    kindEntries [
      "BaseException BaseExceptionGroup Exception GeneratorExit KeyboardInterrupt",
      "SystemExit ArithmeticError AssertionError AttributeError BufferError EOFError",
      "ImportError LookupError MemoryError NameError OSError ReferenceError RuntimeError",
      "StopAsyncIteration StopIteration SyntaxError SystemError TypeError ValueError",
      "Warning FloatingPointError OverflowError ZeroDivisionError BytesWarning",
      "DeprecationWarning EncodingWarning FutureWarning ImportWarning",
      "PendingDeprecationWarning ResourceWarning RuntimeWarning SyntaxWarning",
      "UnicodeWarning UserWarning BlockingIOError ChildProcessError ConnectionError",
      "FileExistsError FileNotFoundError InterruptedError IsADirectoryError",
      "NotADirectoryError PermissionError ProcessLookupError TimeoutError IndentationError",
      "IndexError KeyError ModuleNotFoundError NotImplementedError RecursionError",
      "UnboundLocalError UnicodeError BrokenPipeError ConnectionAbortedError",
      "ConnectionRefusedError ConnectionResetError TabError UnicodeDecodeError",
      "UnicodeEncodeError UnicodeTranslateError ExceptionGroup"] ++
    [entry "EnvironmentError" (.kind (.listed "OSError")),
      entry "IOError" (.kind (.listed "OSError"))] ++
    functions.getLast?.toList ++
    [quitThing "quit", quitThing "exit", printThing "copyright", printThing "credits",
      printThing "license", entry "help" helpThing]

/-- What brings a collection that is read from a file. -/
def fileLoader (name : String) : Subject :=
  let own := [entry "name" (.say name)]
  .thing (.listed "_frozen_importlib_external.SourceFileLoader")
    "<_frozen_importlib_external.SourceFileLoader object>".toList
    (own ++ [entry "__dict__" (.table own)])

/-- What every collection that is read from a file knows. -/
def collectionEntries (name package : String) (about : List String) : List (Text × Subject) :=
  [entry "__name__" (.say name),
    entry "__doc__" ((textOfLines about).elim .nothing .text), entry "__package__" (.say package),
    entry "__loader__" (fileLoader name),
    entry "__spec__" (originThing name "<_frozen_importlib_external.SourceFileLoader object>"
      (fileLoader name) .nothing true),
    entry "__builtins__" (.table builtInEntries)]

/-- The names known where rolls and sessions were made. -/
def recordEntries : List (Text × Subject) :=
  collectionEntries "models.types" "models" [] ++
    [entry "dataclass" (functionThing "dataclasses" Recipes.recordMaking),
      entry "Enum" (.kind .choice), entry "Any" Hint.any, entry "Dict" Hint.tables,
      entry "Optional" Hint.optional, entry "Tuple" Hint.rows,
      entry "RollSettings" (.kind settingsKind), entry "Roll" (.kind rollKind),
      entry "RollType" (.kind modeKind), entry "RollResults" (.kind sessionKind)]

/-- The sum of bits, as a function. -/
def sumOfBits : Part :=
  ⟨"or_", .freeMethod, "($module, a, b, /)", ["Same as a | b."]⟩

/-- The function that joins many things to one. -/
def reducing : Part :=
  ⟨"reduce", .freeMethod, "", ["reduce(function, iterable[, initial]) -> value", "",
    "Apply a function of two arguments cumulatively to the items of a sequence",
    "or iterable, from left to right, so as to reduce the iterable to a single",
    "value.  For example, reduce(lambda x, y: x+y, [1, 2, 3, 4, 5]) calculates",
    "((((1+2)+3)+4)+5).  If initial is present, it is placed before the items",
    "of the iterable in the calculation, and serves as a default when the",
    "iterable is empty."]⟩

/-- Kinds of fixed lists under their names. -/
def choiceKinds : List (Text × Subject) :=
  (wordsOf ["Enum Flag ReprEnum nonmember member auto property _proto_member _EnumDict EnumType",
    "IntEnum StrEnum IntFlag verify"]).map fun name =>
      (name, .kind (.listed ("enum." ++ String.ofList name)))

/-- A member of a list under its name. -/
def memberEntry (family : Family) (member : Member) : Text × Subject :=
  (member.name, .member family member)

/-- The names known where fixed lists were made. -/
def choiceEntries : List (Text × Subject) :=
  let listed := fun title => Subject.kind (.listed title)
  let pickling := (Recipes.choiceMaking.lookup "pickle_by_global_name").toList.map fun recipe =>
    entry "_reduce_ex_by_global_name" (functionThing "enum" recipe)
  collectionEntries "enum" "" [] ++
    [entry "sys" (.module "sys".toList), entry "bltns" (.module "builtins".toList),
      entry "MappingProxyType" (.kind .view),
      entry "DynamicClassAttribute" (listed "types.DynamicClassAttribute"),
      entry "_or_" (systemFunction "_operator" "_operator" sumOfBits).2,
      systemFunction "_functools" "_functools" reducing,
      entry "__all__" (.list ((wordsOf ["EnumType EnumMeta Enum IntEnum StrEnum Flag IntFlag",
        "ReprEnum auto unique property verify member nonmember FlagBoundary STRICT CONFORM",
        "EJECT KEEP global_flag_repr global_enum_repr global_str global_enum EnumCheck",
        "CONTINUOUS NAMED_FLAGS UNIQUE pickle_by_global_name pickle_by_enum_name"]).map .text)),
      entry "_stdlib_enums"
        (.row [listed "enum.IntEnum", listed "enum.StrEnum", listed "enum.IntFlag"]),
      entry "_auto_null" (.thing (.listed "enum._auto_null") "_auto_null".toList [])] ++
    choiceKinds ++ [entry "EnumMeta" (.kind .choiceKind)] ++
    (Recipes.choiceMaking.map fun (name, recipe) => entry name (functionThing "enum" recipe)) ++
    pickling ++ [entry "FlagBoundary" (.kind (.memberOf boundaries))] ++
    boundaries.members.map (memberEntry boundaries) ++
    [entry "EnumCheck" (.kind (.memberOf checks))] ++ checks.members.map (memberEntry checks)

end DiceChat
