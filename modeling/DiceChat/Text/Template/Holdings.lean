import DiceChat.Ordered
import DiceChat.Text.Template.Collections.System

/-! What kinds hold: the things and parts in their tables, and what these are once they are taken. -/

namespace DiceChat

/-- What a kind holds under a name. -/
inductive Holding where
  /-- A thing. -/
  | thing (thing : Subject)
  /-- A part of the given form. -/
  | part (form : Form)

namespace Family

/-- A member of a list as it stands in templates. -/
def subject (family : Family) (member : Member) : Text × Subject :=
  (member.name, .member family member)

/-- The members of a list by name. -/
def byName (family : Family) : List (Text × Subject) :=
  family.members.map family.subject

/-- The members of a list by value. -/
def byValue (family : Family) : List (Text × Subject) :=
  family.members.map fun member => (member.value, .member family member)

/-- What belongs to a member of a list and not to its kind. -/
def memberEntries (family : Family) (member : Member) : List (Text × Subject) :=
  [entry "_value_" (.text member.value), entry "_name_" (.text member.name),
    entry "__objclass__" (.kind (.memberOf family)),
    entry "_sort_order_" (.whole (family.members.idxOf member))]

end Family

/-- A field of a kind of records. -/
structure RecordField where
  /-- The name of the field. -/
  name : String
  /-- What its values are said to be. -/
  hint : Subject
  /-- The value it has when none is given. -/
  standard : Subject

namespace RecordField

/-- The field as a thing. -/
def subject (field : RecordField) : Text × Subject :=
  let sort : Subject := .thing (.listed "dataclasses._FIELD_BASE") "_FIELD".toList
    [entry "name" (.say "_FIELD")]
  let parts := [entry "name" (.say field.name), entry "type" field.hint,
    entry "default" field.standard, entry "default_factory" Hint.missing, entry "init" (.truth true),
    entry "repr" (.truth true), entry "hash" .nothing, entry "compare" (.truth true),
    entry "metadata" (.view []), entry "kw_only" (.truth false), entry "_field_type" sort]
  let shown := parts.map fun (name, part) => name ++ '=' :: (part.inline.toOption.getD [])
  entry field.name (.thing (.listed "dataclasses.Field")
    ("Field(".toList ++ joinWith [','] shown ++ ")".toList) parts)

end RecordField

/-- The choices that were made for a kind of records, of which one is whether they ever change. -/
def recordChoices (isFixed : Bool) : Subject :=
  let parts := [entry "init" (.truth true), entry "repr" (.truth true), entry "eq" (.truth true),
    entry "order" (.truth false), entry "unsafe_hash" (.truth false),
    entry "frozen" (.truth isFixed)]
  let shown := parts.map fun (name, part) => name ++ '=' :: (part.inline.toOption.getD [])
  .thing (.listed "dataclasses._DataclassParams")
    ("_DataclassParams(".toList ++ joinWith [','] shown ++ ")".toList) parts

/-- The fields of limits. -/
def limitFields : List RecordField :=
  [⟨"single_truncate", .kind .whole, .whole 4000⟩, ⟨"double_truncate", .kind .whole, .whole 2000⟩]

/-- The fields of the kinds of records, by their titles. -/
def recordFields : List (String × List RecordField) :=
  [("models.types.RollSettings",
      [⟨"number", .kind .whole, Hint.missing⟩, ⟨"sides", .kind .whole, Hint.missing⟩,
        ⟨"modifier", Hint.optionalWhole, .nothing⟩, ⟨"label", Hint.optionalText, .nothing⟩]),
    ("models.types.Roll",
      [⟨"rolls", Hint.faces, Hint.missing⟩, ⟨"total", .kind .whole, Hint.missing⟩,
        ⟨"settings", .kind settingsKind, Hint.missing⟩]),
    ("models.types.RollResults",
      [⟨"roll_type", .kind modeKind, Hint.missing⟩, ⟨"try_one", .kind rollKind, Hint.missing⟩,
        ⟨"try_two", Hint.optionalRoll, Hint.missing⟩,
        ⟨"settings", .kind settingsKind, Hint.missing⟩]),
    ("utils.render.DisplayConfig", limitFields),
    ("utils.render.Markup",
      [⟨"bold", .kind .text, Hint.missing⟩, ⟨"strike", .kind .text, Hint.missing⟩,
        ⟨"underline", .kind .text, Hint.missing⟩]),
    ("utils.render.RenderedRoll",
      [⟨"text", .kind .text, Hint.missing⟩, ⟨"record", Hint.optionalOf Hint.record, .nothing⟩]),
    ("utils.config.GuildConfig", limitFields),
    ("utils.config.GlobalConfig",
      [⟨"command_prefix", .kind .text, .say "!"⟩, ⟨"sync_commands", .kind .truth, .truth false⟩,
        ⟨"log_file", Hint.optionalText, .say "bot.log"⟩,
        ⟨"log_level", .kind .text, .say "INFO"⟩])]

/-- What faults of notation are told with, by the titles of their kinds. -/
def faultTemplates : List (String × String) :=
  [("utils.parser.RollParseError", "Invalid roll format: \x7b\x7d"),
    ("utils.parser.TooBig", "Number too big, at most 4 digits allowed: \x7b\x7d"),
    ("utils.parser.CannotBeZero", "Number of dices and dice sides cannot be zero: \x7b\x7d")]

namespace Kind

/-- What kinds of records hold besides functions. -/
def recordThings (kind : Kind) : List (Text × Subject) :=
  -- Configurations change, all other records are fixed.
  let fields := (recordFields.lookup (String.ofList kind.title)).getD []
  [entry "__annotations__" (.table (fields.map fun field => entry field.name field.hint)),
    entry "__dataclass_params__" (recordChoices (kind.home ≠ "utils.config".toList)),
    entry "__dataclass_fields__" (.table (fields.map RecordField.subject)),
    entry "__match_args__" (.row (fields.map fun field => .say field.name))] ++
    fields.map (fun field => entry field.name field.standard) ++
    ((faultTemplates.lookup (String.ofList kind.title)).map
      fun template => entry "template" (.say template)).toList

/-- What kinds of members hold: tables of the members, and how new ones are made. -/
def choiceThings (names : List Text) (byName byValue : List (Text × Subject)) (maker : Subject) :
    List (Text × Subject) :=
  [entry "_new_member_" maker, entry "_use_args_" (.truth false),
    entry "_member_names_" (.list (names.map .text)), entry "_member_map_" (.table byName),
    entry "_value2member_map_" (.table byValue), entry "_unhashable_values_" (.list []),
    entry "_member_type_" (.kind anything)]

/-- The fields that kinds of the catalogue list by name. -/
def slotsOf (title : String) : List String :=
  match title with
  | "dataclasses.Field" =>
    ["name type default default_factory repr hash init compare metadata kw_only _field_type"]
  | "dataclasses._DataclassParams" => ["init repr eq order unsafe_hash frozen"]
  | "dataclasses._FIELD_BASE" => ["name"]
  | "typing._Final" => ["__weakref__"]
  | "typing.ForwardRef" =>
    ["__forward_arg__ __forward_code__ __forward_evaluated__ __forward_value__",
      "__forward_is_argument__ __forward_is_class__ __forward_module__"]
  | "typing._SpecialForm" => ["_name __doc__ _getitem"]
  | _ => []

/-- The things that a kind holds. -/
def ownThings (kind : Kind) : List (Text × Subject) :=
  -- What a kind has from other kinds comes before what all fixed lists hold.
  let borrowed := (borrowedThings.lookup (String.ofList kind.title)).getD []
  let maker : Subject := .bound .maker anything "__new__".toList (.kind anything)
  match kind with
  | choice => choiceThings [] [] [] (.part .function choice "__new__".toList)
  | memberOf family =>
    borrowed ++ family.byName ++
      choiceThings (family.members.map Member.name) family.byName family.byValue maker
  | listed title =>
    borrowed ++ choiceThings [] [] [] maker ++ kind.recordThings ++
      [entry "_ORIGIN" (.say "built-in"), entry "MAXLINES" (.whole 23),
        entry "__slots__" (.rowOfWords (slotsOf title))]

/-- What a kind tells about itself, as a thing. -/
def aboutThing (kind : Kind) : Subject :=
  kind.about?.elim .nothing .text

/-- What a kind holds as a part. -/
def holding (kind : Kind) (part : Part) : Holding :=
  match part.form with
  | .account => .thing kind.aboutThing
  | .home => .thing (.text kind.home)
  | .nothing => .thing .nothing
  | .thing => .thing ((Ordered.find? kind.ownThings part.name.toList).getD .nothing)
  | form => .part form

/-- The first of a kind and the more general ones that holds something under a name. -/
def find? (kind : Kind) (name : Text) : Option (Kind × Holding) :=
  kind.line.findSome? fun owner => (owner.part? name).map fun part => (owner, owner.holding part)

/-- The kind that a function of a kind comes from. -/
def origin (kind : Kind) (name : Text) : Kind :=
  -- Lists have a function of their own only for showing members in running text.
  match kind with
  | memberOf family => if name = "__str__".toList then memberOf family else choice
  | kind => kind

/-- A part of the given form as its kind holds it. -/
def heldPart (kind : Kind) (name : Text) : Form → Subject
  | .maker => .bound .maker kind name (.kind kind)
  | .function => .part .function (kind.origin name) name
  | form => .part form kind name

/-- All that a kind holds, in order. -/
def entries (kind : Kind) : List (Text × Subject) :=
  kind.page.parts.map fun part =>
    let name := part.name.toList
    match kind.holding part with
    | .thing thing => (name, thing)
    | .part form => (name, kind.heldPart name form)

/-- What a part of a kind gives when it is taken from a kind. -/
def take (kind owner : Kind) (name : Text) : Holding → Except TemplateError Subject
  -- What members work out is no part of their kind, unless it is a member.
  | .thing (.part .kindFunction source held) => .ok (.bound .function source held (.kind kind))
  | .thing thing => .ok thing
  | .part .kindMethod => .ok (.bound .kindMethod owner name (.kind kind))
  | .part .kindFunction => .ok (.bound .function owner name (.kind kind))
  | .part .freeFunction => .ok (.part .function owner name)
  | .part .freeMethod => .ok (.bound .freeMethod owner name (.kind owner))
  | .part .facet =>
    match kind with
    | memberOf family => (Ordered.find? family.byName name).elim (.error .noSuchPart) .ok
    | _ => .error .noSuchPart
  | .part form => .ok (owner.heldPart name form)

/-- The named quality of a kind. -/
def ownQuality (kind : Kind) (name : Text) : Except TemplateError Subject :=
  match String.ofList name with
  | "__name__" | "__qualname__" => .ok (.text kind.name)
  | "__module__" => .ok (.text kind.home)
  | "__base__" => .ok (kind.bases.head?.elim .nothing .kind)
  | "__bases__" => .ok (.row (kind.bases.map .kind))
  | "__mro__" => .ok (.row (kind.line.map .kind))
  | "__dict__" => .ok (.view kind.entries)
  | "__text_signature__" => .ok (kind.signature?.elim .nothing .text)
  | "__doc__" =>
    -- Some kinds hold the account of each of their things in place of their own.
    match kind.about?, (kind.part? name).map kind.holding with
    | none, some (.part form) => .ok (kind.heldPart name form)
    | _, _ => .ok kind.aboutThing
  | "__annotations__" =>
    match (kind.part? name).map kind.holding with
    | some (.thing thing) => .ok thing
    | _ => if kind.isMade then .ok (.table []) else .error .noSuchPart
  | "__members__" =>
    match kind with
    | memberOf family => .ok (.view family.byName)
    | _ => .ok (.view [])
  | _ => (kind.measure? name).elim (.error .noSuchPart) (.ok ∘ .whole)

end Kind

end DiceChat
