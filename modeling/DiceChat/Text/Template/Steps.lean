import DiceChat.Text.Template.Holdings

/-! Steps lead from a subject to its parts and items: a part belongs to the subject or to its kind. -/

namespace DiceChat

namespace Subject

/-- The named quality of a whole number. -/
def wholeQuality (value : Int) (name : Text) : Except TemplateError Subject :=
  -- Numbers are fractions over one without an imaginary part.
  match String.ofList name with
  | "real" | "numerator" => .ok (.whole value)
  | "imag" => .ok (.whole 0)
  | "denominator" => .ok (.whole 1)
  | _ => .error .noSuchPart

/-- The named quality of a member of a list. -/
def memberQuality (family : Family) (member : Member) (name : Text) :
    Except TemplateError Subject :=
  match String.ofList name with
  | "name" => .ok (.text member.name)
  | "value" => .ok (.text member.value)
  | "__dict__" => .ok (.table (family.memberEntries member))
  | "__weakref__" => .ok .nothing
  | _ => (Ordered.find? family.byName name).elim (.error .noSuchPart) .ok

/-- What a part of a kind tells about itself. -/
def account (owner : Kind) (part : Text) : Subject :=
  ((owner.part? part).bind fun part => textOfLines part.told.lines).elim nothing text

/-- The form of use that a part of a kind tells. -/
def usage (owner : Kind) (part : Text) : Subject :=
  match (owner.part? part).map fun part => part.told.usage with
  | none | some "" => nothing
  | some usage => say usage

/-- The code of a function of which only the name is known. -/
def plainCode (owner : Kind) (part : Text) : Subject :=
  thing .code ("<code object ".toList ++ part ++ ">".toList)
    [entry "co_name" (.text part), entry "co_qualname" (.text (partName owner part))]

/-- The named quality of a function of a kind. -/
def functionQuality (owner : Kind) (part name : Text) : Except TemplateError Subject :=
  let recipe := recipe? owner part
  match String.ofList name with
  | "__module__" => .ok (.text owner.home)
  | "__dict__" => .ok (.table (recipe.elim [] Recipe.kept))
  | "__globals__" => .ok (.table (namespaceOf (recipe.elim owner.home (·.collection.toList))))
  | "__builtins__" => .ok (.table builtInEntries)
  | "__annotations__" => .ok (.table (recipe.elim [] Recipe.hints))
  | "__code__" => .ok (recipe.elim (plainCode owner part) (·.code.subject))
  | "__defaults__" => .ok (recipe.elim nothing Recipe.defaults)
  | "__kwdefaults__" => .ok (recipe.elim nothing Recipe.namedDefaults)
  | "__closure__" => .ok (recipe.elim nothing Recipe.shared)
  | _ => .error .noSuchPart

/-- What belongs to a function of a kind as its kind holds it. -/
def functionEntries (owner : Kind) (part : Text) : List (Text × Subject) :=
  [entry "__module__" (.text owner.home), entry "__name__" (.text part),
    entry "__qualname__" (.text (partName owner part)), entry "__doc__" (account owner part),
    entry "__annotations__" (.table ((recipe? owner part).elim [] Recipe.hints))]

/-- What belongs to a quality of members that a function works out. -/
def facetEntries (owner : Kind) (part : Text) : List (Text × Subject) :=
  [entry "fget" (.part .function owner part), entry "fset" nothing, entry "fdel" nothing,
    entry "__doc__" (account owner part), entry "overwrite_doc" (truth true),
    entry "__isabstractmethod__" (truth false), entry "name" (.text part),
    entry "clsname" (.text owner.name)]

/-- What belongs to a part as its kind holds it and not to all parts of its form. -/
def partEntries (form : Form) (owner : Kind) (part : Text) : List (Text × Subject) :=
  match form with
  | .function => ((recipe? owner part).elim [] Recipe.kept)
  | .kindFunction | .freeFunction => functionEntries owner part
  | .facet => facetEntries owner part
  | _ => []

/-- The named quality of a part as its kind holds it. -/
def partQuality (form : Form) (owner : Kind) (part name : Text) : Except TemplateError Subject :=
  match String.ofList name with
  | "__name__" => .ok (.text part)
  | "__qualname__" => .ok (.text (partName owner part))
  | "__objclass__" => .ok (.kind owner)
  | "__doc__" => .ok (account owner part)
  | "__text_signature__" => .ok (usage owner part)
  | "fset" | "fdel" => .ok nothing
  | "fget" => .ok (.part .function owner part)
  | "__isabstractmethod__" => .ok (truth false)
  | "__func__" | "__wrapped__" =>
    if form = .freeMethod then .ok (.bound .freeMethod owner part (.kind owner))
    else .ok (.part .function owner part)
  | quality =>
    if form = .function then functionQuality owner part name
    else if quality = "__dict__" then .ok (table (partEntries form owner part))
    else .error .noSuchPart

/-- The named quality of a part that was taken from a thing. -/
def boundQuality (form : Form) (owner : Kind) (part : Text) (source : Subject) (name : Text) :
    Except TemplateError Subject :=
  -- Methods are named for the kind that they were taken from.
  match String.ofList name with
  | "__self__" => .ok (if form = .freeMethod then nothing else source)
  | "__func__" => .ok (.part .function owner part)
  | "__module__" => .ok .nothing
  | "__qualname__" =>
    match form, source with
    | .operation, _ => partQuality form owner part name
    | _, module _ => .ok (.text part)
    | _, kind sort => partQuality form sort part name
    | _, source => partQuality form source.kindOf part name
  | _ => partQuality form owner part name

/-- The named quality of a kind with the kind of what its things hold. -/
def appliedQuality (kind : Kind) (argument : Subject) (name : Text) :
    Except TemplateError Subject :=
  match String.ofList name with
  | "__origin__" => .ok (.kind kind)
  | "__args__" => .ok (.row [argument])
  | "__parameters__" => .ok (.row [])
  | "__unpacked__" => .ok (.truth false)
  | "__typing_unpacked_tuple_args__" => .ok .nothing
  | _ => .error .noSuchPart

/-- The named quality of a collection. -/
def moduleQuality (collection name : Text) : Except TemplateError Subject :=
  match String.ofList name with
  | "__dict__" => .ok (.table (namespaceOf collection))
  | "__annotations__" =>
    .ok ((Ordered.find? (namespaceOf collection) name).getD (.table []))
  | _ => .error .noSuchPart

/-- The named quality of a thing with the given entries. -/
def entryQuality (entries : List (Text × Subject)) (name : Text) : Except TemplateError Subject :=
  -- What is known where a function was made depends on its collection.
  match Ordered.find? entries name, String.ofList name with
  | some found, _ => .ok found
  | none, "__weakref__" => .ok nothing
  | none, "__builtins__" => .ok (.table builtInEntries)
  | none, "__globals__" =>
    match Ordered.find? entries "__module__".toList with
    | some (.text home) => .ok (.table (namespaceOf home))
    | _ => .error .noSuchPart
  | none, _ => .error .noSuchPart

/-- What belongs to settings. -/
def settingsEntries (settings : Settings) : List (Text × Subject) :=
  [entry "number" (whole settings.number), entry "sides" (whole settings.sides),
    entry "modifier" (settings.modifier.elim nothing whole),
    entry "label" (settings.label.elim nothing text)]

/-- The named quality of a subject, which the given kind says that its things have. -/
def quality (subject : Subject) (owner : Kind) (name : Text) : Except TemplateError Subject :=
  -- Every thing has a kind.
  if owner = .anything then .ok (kind subject.kindOf)
  else
    match subject with
    | truth value => wholeQuality (if value then 1 else 0) name
    | whole value => wholeQuality value name
    | member family choice => memberQuality family choice name
    | settings value =>
      if name = "__dict__".toList then .ok (table (settingsEntries value)) else .ok nothing
    | kind sort => sort.ownQuality name
    | part form owner held => partQuality form owner held name
    | bound form owner held source => boundQuality form owner held source name
    | applied sort argument => appliedQuality sort argument name
    | module collection => moduleQuality collection name
    | thing _ _ entries => entryQuality entries name
    | _ => .error .noSuchPart

/-- What a kind holds for another kind, as it is taken from a subject. -/
def rebind (subject : Subject) : Subject → Subject
  | part .function owner name => bound .function owner name subject
  | part .kindFunction owner name => bound .function owner name (kind subject.kindOf)
  | part .operation owner name => bound .operation owner name subject
  | part .method owner name => bound .method owner name subject
  | held => held

/-- What a part of a kind gives when it is taken from a subject. -/
def take (subject : Subject) (owner : Kind) (name : Text) : Holding → Subject
  | .thing held => subject.rebind held
  | .part .kindMethod => bound .kindMethod owner name (kind subject.kindOf)
  | .part .kindFunction => bound .function owner name (kind subject.kindOf)
  | .part .freeFunction => part .function owner name
  | .part .freeMethod => bound .freeMethod owner name (kind owner)
  | .part .function => bound .function (owner.origin name) name subject
  | .part .operation => bound .operation owner name subject
  | .part .method => bound .method owner name subject
  | .part form => owner.heldPart name form

/-- Whether a kind holds a quality or a field of its things in this form. -/
def isQuality : Holding → Bool
  | .part .quality | .part .field | .part .property | .part .facet => true
  | _ => false

/-- What belongs to a subject and not to its kind. -/
def ownEntries : Subject → List (Text × Subject)
  | member family choice => family.memberEntries choice
  | settings value => settingsEntries value
  | part form owner name => partEntries form owner name
  | module collection => namespaceOf collection
  | thing _ _ entries => entries
  | _ => []

/-- The named part of a subject that is not a kind. -/
def thingPart (subject : Subject) (name : Text) : Except TemplateError Subject :=
  -- Qualities come before what belongs to the subject, and this before other parts of its kind.
  match subject.kindOf.find? name with
  | none => (Ordered.find? subject.ownEntries name).elim (.error .noSuchPart) .ok
  | some (owner, holding) =>
    if isQuality holding then subject.quality owner name
    else .ok ((Ordered.find? subject.ownEntries name).getD (subject.take owner name holding))

/-- The named part of a kind. -/
def kindPart (kind : Kind) (name : Text) : Except TemplateError Subject :=
  -- Qualities come before what the kind holds, and this before other parts that kinds have.
  let general := kind.ofKind.find? name
  match general.filter (isQuality ·.2), kind.find? name, general with
  | some (owner, _), _, _ => (Subject.kind kind).quality owner name
  | none, some (owner, holding), _ => kind.take owner name holding
  | none, none, some (owner, holding) => .ok ((Subject.kind kind).take owner name holding)
  | none, none, none => .error .noSuchPart

/-- The parts that a kind with the kind of what its things hold does not have from the former. -/
def appliedParts : List Text :=
  wordsOf ["__class__ __origin__ __args__ __unpacked__ __parameters__",
    "__typing_unpacked_tuple_args__ __mro_entries__ __reduce_ex__ __reduce__ __copy__ __deepcopy__"]

/-- The named part of what a hint stands for. -/
def hintedPart (entries : List (Text × Subject)) (name : Text) : Except TemplateError Subject :=
  -- Names between double underscores are not passed on.
  match Ordered.find? entries "__origin__".toList with
  | some origin =>
    if "__".toList.isPrefixOf name then .error .noSuchPart
    else
      match origin with
      | kind sort => kindPart sort name
      | origin => thingPart origin name
  | none => .error .noSuchPart

/-- The named part of a subject. -/
def part? (subject : Subject) (name : Text) : Except TemplateError Subject :=
  match subject with
  | kind sort => kindPart sort name
  | applied sort _ =>
    if appliedParts.contains name then subject.thingPart name else kindPart sort name
  | bound .function owner held _ =>
    -- A function of one thing has all that the function has.
    match subject.thingPart name with
    | .error .noSuchPart => thingPart (.part .function owner held) name
    | found => found
  | thing _ _ entries =>
    match subject.thingPart name with
    | .error .noSuchPart => hintedPart entries name
    | found => found
  | subject => subject.thingPart name

/-- The item of things in order under a name that is the given number, if it is one. -/
def itemAt (items : List Subject) (number : Option Nat) : Except TemplateError Subject :=
  match number with
  | some number => items[number]?.elim (.error .pastEnd) .ok
  | none => .error .noItems

/-- The entry of a table under a name, which may be the given number. -/
def entryAt (entries : List (Text × Subject)) (name : Text) (number : Option Nat) :
    Except TemplateError Subject :=
  -- No entry has a number.
  match number with
  | some number => .error (.noSuchNumber number)
  | none => (Ordered.find? entries name).elim (.error (.noSuchName name)) .ok

/-- Whether a kind can be applied to the kind of what its things hold. -/
def isApplicable (kind : Kind) : Bool :=
  kind = .kinds || (kind.find? "__class_getitem__".toList).isSome

/-- The words that are no names. -/
def reservedWords : List Text :=
  wordsOf ["and as assert async await break class continue def del elif else except finally for",
    "from global if import in is lambda nonlocal not or pass raise return try while with yield"]

/-- Whether a text is a name that a value can have. -/
def isName (word : Text) : Bool :=
  let starts := fun c : Char => c.isAlpha || c = '_' || 0x80 ≤ c.toNat
  match word with
  | [] => false
  | c :: rest =>
    starts c && rest.all (fun c => starts c || c.isDigit) && !reservedWords.contains word

/-- What a hint is applied to under a name, which may be the given number. -/
def hintArgument (name : Text) (number : Option Nat) : Except TemplateError Subject :=
  -- Names joined by points stand for things that may be known later.
  match number with
  | some number => .ok (.whole number)
  | none =>
    if (splitOnChar '.' name).all isName then .ok (Hint.forward name) else .error .noExpression

/-- A hint with the given entries, applied to a thing under a name. -/
def hintItem (sort : Kind) (entries : List (Text × Subject)) (name : Text) (number : Option Nat) :
    Except TemplateError Subject :=
  match sort, Ordered.find? entries "_name".toList with
  | .listed "typing._TupleType", _ => (hintArgument name number).map Hint.rowOfOne
  | .listed "typing._SpecialGenericAlias", some (.text form) =>
    if form = "List".toList then (hintArgument name number).map Hint.listOfOne
    else .error .noItems
  | .listed "typing._SpecialForm", some (.text form) =>
    if form = "Optional".toList then (hintArgument name number).map Hint.optionalOf
    else hintArgument name number
  | _, _ => .error .noItems

/-- The item of a subject under a name, which may be the given number. -/
def item (subject : Subject) (name : Text) (number : Option Nat) : Except TemplateError Subject :=
  match subject with
  | text characters => itemAt (characters.map fun c => .text [c]) number
  | bytes content => itemAt (content.map fun byte => .whole byte.toNat) number
  | row items | list items => itemAt items number
  | table entries | view entries => entryAt entries name number
  | member family choice =>
    -- Some members are texts themselves.
    if (Kind.memberOf family).line.contains .text then
      itemAt (choice.value.map fun c => .text [c]) number
    else .error .noItems
  | kind (.memberOf family) => entryAt family.byName name number
  | kind sort =>
    if sort.ofKind = .choiceKind then entryAt [] name number
    else if isApplicable sort then .ok (applied sort (number.elim (.text name) fun n => .whole n))
    else .error .noItems
  | thing sort _ entries =>
    -- The parts of records of the system also have numbers.
    if sort.home = "sys".toList then itemAt (entries.map Prod.snd) number
    else hintItem sort entries name number
  | _ => .error .noItems

/-- The item that a text names up to its closing bracket, its number if it is one, and what follows. -/
def readItem (text : Text) : Except TemplateError (Text × Option Nat × Text) :=
  -- The form of the name is looked at only when its end was found.
  match text.dropWhile (· ≠ ']') with
  | [] => .error .unclosedItem
  | _ :: rest => do
    let name := text.takeWhile (· ≠ ']')
    let number ← readIndex name
    if name.isEmpty then .error .emptyStep else .ok (name, number, rest)

/-- The part that a text names, and what follows it. -/
def readPart (text : Text) : Except TemplateError (Text × Text) :=
  let name := text.takeWhile fun c => c ≠ '.' ∧ c ≠ '['
  if name.isEmpty then .error .emptyStep else .ok (name, text.drop name.length)

/-- The subject that steps lead to from a subject, taken with so much fuel. -/
def follow : Nat → Subject → Text → Except TemplateError Subject
  -- A point leads to a part and a bracket to an item.
  | 0, subject, _ => .ok subject
  | _ + 1, subject, [] => .ok subject
  | fuel + 1, subject, mark :: rest =>
    if mark = '.' then do
      let (name, rest) ← readPart rest
      follow fuel (← subject.part? name) rest
    else if mark = '[' then do
      let (name, number, rest) ← readItem rest
      follow fuel (← subject.item name number) rest
    else .error .strayStep

end Subject

end DiceChat
