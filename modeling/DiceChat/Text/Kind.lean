import DiceChat.Text.Kind.Catalogue
import DiceChat.Text.Member

/-! Kinds: every thing that a template reaches is of a kind, and kinds are things with a kind themselves. -/

namespace DiceChat

/-- A kind of things. -/
inductive Kind where
  /-- The kind of the given title in the catalogue. -/
  | listed (title : String)
  /-- Members of one fixed list. -/
  | memberOf (family : Family)
deriving DecidableEq

/-- The parts of the kind of a fixed list. -/
def Family.parts (family : Family) : List Part :=
  -- The members stand between what the list keeps about them and how new ones are made.
  partsOf .function ["_generate_next_value_"] ++ partsOf .home ["__module__"] ++
    partsOf .account ["__doc__"] ++ partsOf .function ["__str__"] ++
    partsOf .thing ["_new_member_ _use_args_ _member_names_ _member_map_ _value2member_map_",
      "_unhashable_values_ _member_type_"] ++
    partsOf .nothing ["_value_repr_"] ++
    (family.members.map fun member => ⟨String.ofList member.name, .thing, "", []⟩) ++
    partsOf .function ["__new__"]

/-- What is known of the kind of a fixed list. -/
def Family.page (family : Family) : KindEntry where
  name := String.ofList family.name
  home := String.ofList family.home
  ofKind := "enum.EnumType"
  above := ["enum.Enum", "object"]
  measures := Catalogue.enumEntry.measures
  about := (splitOnChar '\n' family.about).map String.ofList
  parts := family.parts

namespace Kind

/-- All things. -/
@[match_pattern] abbrev anything : Kind := listed "object"

/-- Kinds. -/
@[match_pattern] abbrev kinds : Kind := listed "type"

/-- Whole numbers. -/
@[match_pattern] abbrev whole : Kind := listed "int"

/-- Truth values. -/
@[match_pattern] abbrev truth : Kind := listed "bool"

/-- Texts. -/
@[match_pattern] abbrev text : Kind := listed "str"

/-- Bytes. -/
@[match_pattern] abbrev bytes : Kind := listed "bytes"

/-- The thing that stands for nothing. -/
@[match_pattern] abbrev nothing : Kind := listed "NoneType"

/-- Rows of things. -/
@[match_pattern] abbrev row : Kind := listed "tuple"

/-- Lists of things. -/
@[match_pattern] abbrev list : Kind := listed "list"

/-- Tables from names to things. -/
@[match_pattern] abbrev table : Kind := listed "dict"

/-- Tables that can only be read. -/
@[match_pattern] abbrev view : Kind := listed "mappingproxy"

/-- Collections of kinds and functions. -/
@[match_pattern] abbrev module : Kind := listed "module"

/-- Members of any fixed list. -/
@[match_pattern] abbrev choice : Kind := listed "enum.Enum"

/-- Fixed lists. -/
@[match_pattern] abbrev choiceKind : Kind := listed "enum.EnumType"

/-- Operations as their kind holds them. -/
@[match_pattern] abbrev operation : Kind := listed "wrapper_descriptor"

/-- Operations of one thing. -/
@[match_pattern] abbrev boundOperation : Kind := listed "method-wrapper"

/-- Methods as their kind holds them. -/
@[match_pattern] abbrev method : Kind := listed "method_descriptor"

/-- Methods of kinds as their kind holds them. -/
@[match_pattern] abbrev kindMethod : Kind := listed "classmethod_descriptor"

/-- Methods of one thing. -/
@[match_pattern] abbrev boundMethod : Kind := listed "builtin_function_or_method"

/-- Qualities as their kind holds them. -/
@[match_pattern] abbrev quality : Kind := listed "getset_descriptor"

/-- Fields as their kind holds them. -/
@[match_pattern] abbrev field : Kind := listed "member_descriptor"

/-- Functions. -/
@[match_pattern] abbrev function : Kind := listed "function"

/-- Functions of one thing. -/
@[match_pattern] abbrev boundFunction : Kind := listed "method"

/-- Functions of kinds as their kind holds them. -/
@[match_pattern] abbrev kindFunction : Kind := listed "classmethod"

/-- Functions that stand alone as their kind holds them. -/
@[match_pattern] abbrev freeFunction : Kind := listed "staticmethod"

/-- Qualities that functions work out. -/
@[match_pattern] abbrev property : Kind := listed "property"

/-- Qualities of members that functions work out. -/
@[match_pattern] abbrev facet : Kind := listed "enum.property"

/-- What functions are made of. -/
@[match_pattern] abbrev code : Kind := listed "code"

/-- Kinds with the kind of what their things hold. -/
@[match_pattern] abbrev applied : Kind := listed "types.GenericAlias"

/-- What is known of a kind that is not in the catalogue, from its title. -/
def plainPage (title : String) : KindEntry :=
  -- The last of the words between points is its name.
  let words := splitOnChar '.' title.toList
  { name := String.ofList (words.getLast?.getD [])
    home := if words.length = 1 then "builtins" else String.ofList (joinWith ['.'] words.dropLast)
    measures := [24, 0, 546320, -48, 16]
    parts := partsOf .home ["__module__"] }

/-- What is known of a kind. -/
def page : Kind → KindEntry
  | listed title => (catalogue.find? fun entry => entry.title = title).getD (plainPage title)
  | memberOf family =>
    (catalogue.find? fun entry => entry.title = family.page.title).getD family.page

/-- The name of a kind. -/
def name (kind : Kind) : Text :=
  kind.page.name.toList

/-- The collection of kinds that a kind belongs to. -/
def home (kind : Kind) : Text :=
  kind.page.home.toList

/-- The name of a kind behind that of its collection, unless this is always at hand. -/
def title : Kind → Text
  | listed title => title.toList
  | memberOf family => family.page.title.toList

/-- What measures of a kind are called: the room its things take, and where they keep what is special. -/
def measureNames : List Text :=
  wordsOf ["__basicsize__ __itemsize__ __flags__ __dictoffset__ __weakrefoffset__"]

/-- The named measure of a kind. -/
def measure? (kind : Kind) (name : Text) : Option Int :=
  (measureNames.zip kind.page.measures).lookup name

/-- Whether a kind was made when its collection was loaded. -/
def isMade (kind : Kind) : Bool :=
  -- The tenth of its marks tells.
  ((kind.measure? "__flags__".toList).getD 0).toNat.testBit 9

/-- The name of a kind where its things are shown. -/
def label (kind : Kind) : Text :=
  if kind.isMade then kind.name else kind.title

/-- A kind and the more general ones that its things belong to as well, up to the kind of all things. -/
def line (kind : Kind) : List Kind :=
  kind :: kind.page.above.map listed

/-- The kinds directly above a kind. -/
def bases (kind : Kind) : List Kind :=
  match kind.page.bases with
  | [] => kind.line.tail.take 1
  | bases => bases.map listed

/-- The kind of a kind. -/
def ofKind (kind : Kind) : Kind :=
  listed kind.page.ofKind

/-- How a log shows a kind. -/
def inline (kind : Kind) : Text :=
  -- One kind is a hint and is shown as hints are.
  if kind = listed "typing.Any" then kind.title
  else if kind.line.contains (listed "enum.Flag") then
    "<flag '".toList ++ kind.name ++ "'>".toList
  else if kind.ofKind = choiceKind then "<enum '".toList ++ kind.name ++ "'>".toList
  else "<class '".toList ++ kind.title ++ "'>".toList

/-- How things of a kind are made, where it is told. -/
def signature? (kind : Kind) : Option Text :=
  if kind.page.usage.isEmpty then none else some kind.page.usage.toList

/-- What a kind tells about itself, if it does. -/
def about? (kind : Kind) : Option Text :=
  textOfLines kind.page.about

/-- The part of the given name that a kind holds itself. -/
def part? (kind : Kind) (name : Text) : Option Part :=
  kind.page.part? (String.ofList name)

end Kind

end DiceChat
