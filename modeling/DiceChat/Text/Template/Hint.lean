import DiceChat.Mode
import DiceChat.Text.Template.Code

/-! Hints on what the things of a record are, and other things that recipes of functions mention. -/

namespace DiceChat

/-- The kind of modes. -/
def modeKind : Kind := .memberOf Mode.family

/-- The kind of settings. -/
def settingsKind : Kind := .listed "models.types.RollSettings"

/-- The kind of rolls. -/
def rollKind : Kind := .listed "models.types.Roll"

/-- The kind of sessions. -/
def sessionKind : Kind := .listed "models.types.RollResults"

/-- Something shared by functions. -/
def cell (content : Subject) : Subject :=
  .thing (.listed "cell") ("<cell: ".toList ++ content.kindOf.label ++ " object>".toList)
    [entry "cell_contents" content]

/-- What a function tells about itself. -/
def Recipe.about (recipe : Recipe) : Subject :=
  -- A text among the fixed things tells it if it comes first.
  match recipe.code.constants.head? with
  | some (.text words) => .text words
  | _ => .nothing

/-- A function that no kind holds, of the given collection. -/
def functionThing (home : String) (recipe : Recipe) : Subject :=
  .thing .function ("<function ".toList ++ recipe.code.path.toList ++ ">".toList)
    [entry "__name__" (.text recipe.code.name), entry "__qualname__" (.say recipe.code.path),
      entry "__module__" (.say home), entry "__doc__" recipe.about,
      entry "__code__" recipe.code.subject, entry "__defaults__" recipe.defaults,
      entry "__kwdefaults__" recipe.namedDefaults, entry "__annotations__" (.table recipe.hints),
      entry "__closure__" recipe.shared, entry "__dict__" (.table recipe.kept)]

/-- A function of a collection that is part of the system, as a thing. -/
def systemFunction (home collection : String) (part : Part) : Text × Subject :=
  entry part.name (.thing .boundMethod ("<built-in function ".toList ++ part.name.toList ++ ['>'])
    [entry "__name__" (.say part.name), entry "__qualname__" (.say part.name),
      entry "__module__" (.say home), entry "__self__" (.module collection.toList),
      entry "__doc__" ((textOfLines part.lines).elim .nothing .text),
      entry "__text_signature__" (if part.usage.isEmpty then .nothing else .say part.usage)])

/-- A function that is always at hand, as a thing. -/
def builtInThing (part : Part) : Text × Subject :=
  -- Files are opened by a function of another collection.
  if part.name = "open" then systemFunction "io" "_io" part
  else systemFunction "builtins" "builtins" part

namespace Hint

/-- The mark for any number of further things. -/
def rest : Subject :=
  .thing (.listed "ellipsis") "Ellipsis".toList []

/-- The hint that a value may be anything. -/
def any : Subject :=
  .kind (.listed "typing.Any")

/-- A hint that stands for itself, from what it tells and what applies it. -/
def special (name : String) (about : List String) (applying : List (Text × Subject)) : Subject :=
  .thing (.listed "typing._SpecialForm") ("typing.".toList ++ name.toList)
    ([entry "_name" (.say name), entry "__doc__" (.sayLines about), entry "__name__" (.say name),
      entry "__qualname__" (.say name)] ++ applying)

/-- The code that looks at each of several hints. -/
def unionEach : Code :=
  { path := "Union.<locals>.<genexpr>", arguments := 1, stack := 5, flags := 51, line := 715,
    holders := [".0 p"], names := ["_type_check"], free := ["msg"], constants := [.nothing] }

/-- What the hint that one of several hints fits tells about itself. -/
def aboutUnion : List String :=
  ["Union type; Union[X, Y] means either X or Y.", "",
    "    On Python 3.10 and higher, the | operator",
    "    can also be used to denote unions;",
    "    X | Y means the same thing to the type checker as Union[X, Y].", "",
    "    To define a union, use e.g. Union[int, str]. Details:",
    "    - The arguments must be types and there must be at least one.",
    "    - None as an argument is a special case and is replaced by", "      type(None).",
    "    - Unions of unions are flattened, e.g.::", "",
    "        assert Union[Union[int, str], float] == Union[int, str, float]", "",
    "    - Unions of a single argument vanish, e.g.::", "",
    "        assert Union[int] == int  # The constructor actually returns int", "",
    "    - Redundant arguments are skipped, e.g.::", "",
    "        assert Union[int, str, int] == Union[int, str]", "",
    "    - When comparing unions, the argument order is ignored, e.g.::", "",
    "        assert Union[int, str] == Union[str, int]", "",
    "    - You cannot subclass or instantiate a union.",
    "    - You can use Optional[X] as a shorthand for Union[X, None].", "    "]

/-- The recipe of what applies the hint that one of several hints fits. -/
def unionRecipe : Recipe where
  collection := "typing"
  code :=
    { path := "Union", arguments := 2, stack := 5, flags := 3, line := 679,
      holders := ["self parameters"],
      names := ["TypeError isinstance tuple _remove_dups_flatten len type _UnionGenericAlias"],
      cells := ["msg"],
      constants := [.sayLines aboutUnion, .row [], .say "Cannot take a Union of no types.",
        .say "Union[arg, ...]: each arg must be a type.", unionEach.subject, .whole 1, .whole 0,
        .whole 2, .nothing, .say "Optional", .row [.say "name"]] }

/-- The hint that one of several hints fits. -/
def union : Subject :=
  special "Union" aboutUnion [entry "_getitem" (functionThing "typing" unionRecipe)]

/-- The recipe of what applies the hint that a value may be missing. -/
def optionalRecipe : Recipe where
  collection := "typing"
  code :=
    { path := "Optional", arguments := 2, stack := 5, flags := 3, line := 723,
      holders := ["self parameters arg"], names := ["_type_check Union type"],
      constants := [.say "Optional[X] is equivalent to Union[X, None].",
        .say " requires a single type.", .nothing] }

/-- The hint that a value may be missing. -/
def optional : Subject :=
  special "Optional" ["Optional[X] is equivalent to Union[X, None]."]
    [entry "_getitem" (functionThing "typing" optionalRecipe)]

/-- A thing with parts of its own that it also keeps in a table. -/
def keeping (sort shown : String) (own more : List (Text × Subject)) : Subject :=
  .thing (.listed sort) shown.toList (own ++ more ++ [entry "__dict__" (.table own)])

/-- What hints for kinds have in common. -/
def common (name : String) (isWide : Bool) (origin : Subject) : List (Text × Subject) :=
  [entry "_inst" (.truth isWide), entry "_name" (.say name), entry "__origin__" origin,
    entry "__slots__" .nothing]

/-- The names of a hint. -/
def names (name : String) : List (Text × Subject) :=
  [entry "__name__" (.say name), entry "__qualname__" (.say name)]

/-- A hint for a kind, which takes so many arguments; minus one stands for any number. -/
def general (sort name : String) (origin : Kind) (count : Int) (about : List String) : Subject :=
  keeping sort ("typing." ++ name)
    (common name false (.kind origin) ++ [entry "_nparams" (.whole count),
      entry "__doc__" (.sayLines about)])
    (names name)

/-- The hint for tables. -/
def tables : Subject :=
  general "typing._SpecialGenericAlias" "Dict" .table 2 ["A generic version of dict."]

/-- The hint for lists. -/
def lists : Subject :=
  general "typing._SpecialGenericAlias" "List" .list 1 ["A generic version of list."]

/-- The hint for rows. -/
def rows : Subject :=
  general "typing._TupleType" "Tuple" .row (-1)
    ["Deprecated alias to builtins.tuple.", "",
      "    Tuple[X, Y] is the cross-product type of X and Y.", "",
      "    Example: Tuple[T1, T2] is a tuple of two elements corresponding",
      "    to type variables T1 and T2.  Tuple[int, float, str] is a tuple",
      "    of an int, a float and a string.", "",
      "    To specify a variable-length tuple of homogeneous type, use Tuple[T, ...].", "    "]

/-- A hint with arguments, by what they are shown as. -/
def given (sort name shown : String) (isWide : Bool) (origin : Subject) (arguments : List Subject) :
    Subject :=
  keeping sort ("typing." ++ name ++ "[" ++ shown ++ "]")
    (common name isWide origin ++ [
      entry "__args__" (.row arguments), entry "__parameters__" (.row []),
      entry "_paramspec_tvars" (.truth false)])
    (names name)

/-- How an argument is shown in a hint: kinds by their titles, other things as in logs. -/
def shownArgument : Subject → String
  | .kind kind => String.ofList kind.title
  | other => String.ofList (other.inline.toOption.getD [])

/-- The hint that something may be missing. -/
def optionalOf (argument : Subject) : Subject :=
  given "typing._UnionGenericAlias" "Optional" (shownArgument argument) true union
    [argument, .kind .nothing]

/-- The hint for whole numbers that may be missing. -/
def optionalWhole : Subject := optionalOf (.kind .whole)

/-- The hint for texts that may be missing. -/
def optionalText : Subject := optionalOf (.kind .text)

/-- The hint for rolls that may be missing. -/
def optionalRoll : Subject := optionalOf (.kind rollKind)

/-- The hint for rows of any number of things of a kind. -/
def rowOf (kind : Kind) : Subject :=
  given "typing._GenericAlias" "Tuple" (String.ofList kind.title ++ ", ...") false (.kind .row)
    [.kind kind, rest]

/-- The hint for rows of a single thing. -/
def rowOfOne (argument : Subject) : Subject :=
  given "typing._GenericAlias" "Tuple" (shownArgument argument) false (.kind .row) [argument]

/-- The hint for lists of what fits an argument. -/
def listOfOne (argument : Subject) : Subject :=
  given "typing._GenericAlias" "List" (shownArgument argument) false (.kind .list) [argument]

/-- The hint for lists of things of a kind. -/
def listOf (kind : Kind) : Subject := listOfOne (.kind kind)

/-- The hint for texts and paths that may be missing. -/
def optionalPath : Subject :=
  let own := [entry "_inst" (.truth true), entry "_name" .nothing, entry "__origin__" union,
    entry "__slots__" .nothing,
    entry "__args__" (.row [.kind .text, .kind (.listed "pathlib.Path"), .kind .nothing]),
    entry "__parameters__" (.row []), entry "_paramspec_tvars" (.truth false)]
  keeping "typing._UnionGenericAlias" "typing.Union[str, pathlib.Path, NoneType]" own
    (names "Union")

/-- The hint for what a name stands for once it is known. -/
def forward (name : Text) : Subject :=
  .thing (.listed "typing.ForwardRef") ("ForwardRef(".toList ++ quote name ++ ")".toList)
    [entry "__forward_arg__" (.text name), entry "__forward_evaluated__" (.truth false),
      entry "__forward_value__" .nothing, entry "__forward_is_argument__" (.truth true),
      entry "__forward_is_class__" (.truth false), entry "__forward_module__" .nothing]

/-- The hint for the faces of a roll. -/
def faces : Subject := rowOf .whole

/-- The hint for rows of rolls. -/
def rolls : Subject := rowOf rollKind

/-- The mark of a field that has no standard value. -/
def missing : Subject :=
  .thing (.listed "dataclasses._MISSING_TYPE") "<dataclasses._MISSING_TYPE object>".toList
    [entry "__dict__" (.table [])]

/-- The hint for records. -/
def record : Subject :=
  given "typing._GenericAlias" "Dict" "str, typing.Any" false (.kind .table) [.kind .text, any]

end Hint

end DiceChat
