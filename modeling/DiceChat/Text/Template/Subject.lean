import DiceChat.Record.Encode
import DiceChat.Text.Format.Whole
import DiceChat.Text.Format.Words
import DiceChat.Text.Kind
import DiceChat.Text.Template.Place

/-! What is put into templates or reached from there, how logs and running text show it, and its forms. -/

namespace DiceChat

/-- What is put into a template, or is reached from there. -/
inductive Subject where
  /-- Nothing. -/
  | nothing
  /-- A truth value. -/
  | truth (value : Bool)
  /-- A whole number. -/
  | whole (value : Int)
  /-- A text. -/
  | text (value : Text)
  /-- Bytes. -/
  | bytes (content : List UInt8)
  /-- A member of a fixed list. -/
  | member (family : Family) (member : Member)
  /-- Settings of a roll. -/
  | settings (value : Settings)
  /-- A kind of things. -/
  | kind (sort : Kind)
  /-- A row of things. -/
  | row (items : List Subject)
  /-- A list of things. -/
  | list (items : List Subject)
  /-- A table from names to things. -/
  | table (entries : List (Text × Subject))
  /-- A table that can only be read. -/
  | view (entries : List (Text × Subject))
  /-- A part as its kind holds it. -/
  | part (form : Form) (owner : Kind) (name : Text)
  /-- A part that was taken from a thing. -/
  | bound (form : Form) (owner : Kind) (name : Text) (source : Subject)
  /-- A kind with the kind of what its things hold. -/
  | applied (sort : Kind) (argument : Subject)
  /-- The collection of kinds and functions of the given name. -/
  | module (name : Text)
  /-- Any other thing: its kind, how a log shows it, and what belongs to it. -/
  | thing (sort : Kind) (shown : Text) (entries : List (Text × Subject))

/-- A text between quote marks with every character beyond ASCII written by its code. -/
def asciiOnly (text : Text) : Text :=
  text.flatMap fun c => if c.toNat < 0x80 then [c] else escapeCode c

/-- The kind that parts of a form belong to, as their kind holds them. -/
def Form.kind : Form → Kind
  | .operation => .operation
  | .method => .method
  | .kindMethod => .kindMethod
  | .maker => .boundMethod
  | .quality => .quality
  | .field => .field
  | .property => .property
  | .facet => .facet
  | .function => .function
  | .kindFunction => .kindFunction
  | .freeFunction | .freeMethod => .freeFunction
  | .account | .home => .text
  | .nothing => .nothing
  | .thing => .anything

/-- The kind that parts of a form belong to once they were taken from a thing. -/
def Form.boundKind : Form → Kind
  | .operation => .boundOperation
  | .function | .kindFunction | .freeFunction => .boundFunction
  | _ => .boundMethod

/-- The name of a part behind that of its kind. -/
def partName (owner : Kind) (name : Text) : Text :=
  owner.name ++ ".".toList ++ name

/-- How a log shows a part as its kind holds it. -/
def partInline (form : Form) (owner : Kind) (name : Text) : Text :=
  -- Where a thing lies in memory differs from run to run, so it is left out.
  let ofObjects := " '".toList ++ name ++ "' of '".toList ++ owner.label ++ "' objects>".toList
  match form with
  | .operation => "<slot wrapper".toList ++ ofObjects
  | .quality => "<attribute".toList ++ ofObjects
  | .field => "<member".toList ++ ofObjects
  | .property => "<property object>".toList
  | .facet => "<enum.property object>".toList
  | .function => "<function ".toList ++ partName owner name ++ ">".toList
  | .kindFunction =>
    "<classmethod(<function ".toList ++ partName owner name ++ ">)>".toList
  | .freeFunction =>
    "<staticmethod(<function ".toList ++ partName owner name ++ ">)>".toList
  | .freeMethod =>
    "<staticmethod(<built-in method ".toList ++ name ++ " of type object>)>".toList
  | _ => "<method".toList ++ ofObjects

/-- A byte as a log shows it between the given quote marks. -/
def byteInline (mark : Char) (byte : UInt8) : Text :=
  -- Bytes beyond ASCII are written by their codes.
  let c := Char.ofNat byte.toNat
  if byte < 0x7f then quoteChar mark c else escapeCode c

/-- Bytes as a log shows them. -/
def bytesInline (content : List UInt8) : Text :=
  let mark := quoteMark (content.map fun byte => Char.ofNat byte.toNat)
  'b' :: mark :: content.flatMap (byteInline mark) ++ [mark]

/-- Entries of a table as a log shows them. -/
def entryInline (name shown : Text) : Text :=
  quote name ++ ": ".toList ++ shown

/-- Things in a row as a log shows them; a comma tells a single one from a thing in parentheses. -/
def rowInline : List Text → Text
  | [only] => "(".toList ++ only ++ ",)".toList
  | shown => "(".toList ++ joinWith ", ".toList shown ++ ")".toList

/-- Things in a list as a log shows them. -/
def listInline (shown : List Text) : Text :=
  "[".toList ++ joinWith ", ".toList shown ++ "]".toList

/-- Entries in a table as a log shows them. -/
def tableInline (shown : List Text) : Text :=
  openBrace :: joinWith ", ".toList shown ++ [closeBrace]

/-- The collections that are at hand before any file is read, without being built in. -/
def frozenModules : List Text :=
  wordsOf ["abc codecs io stat genericpath posixpath os site zipimport _collections_abc",
    "_sitebuiltins importlib.util importlib.machinery"]

namespace Subject

/-- The kind of a subject. -/
def kindOf : Subject → Kind
  | nothing => .nothing
  | truth _ => .truth
  | whole _ => .whole
  | text _ => .text
  | bytes _ => .bytes
  | member family _ => .memberOf family
  | settings _ => .listed "models.types.RollSettings"
  | kind sort => sort.ofKind
  | row _ => .row
  | list _ => .list
  | table _ => .table
  | view _ => .view
  | part form _ _ => form.kind
  | bound form _ _ _ => form.boundKind
  | applied _ _ => .applied
  | module _ => .module
  | thing sort _ _ => sort

mutual

/-- A subject as a log shows it. -/
def inline : Subject → Except FormatError Text
  | nothing => .ok "None".toList
  | truth value => formatTruth [] value
  | whole value => formatWhole [] value
  | text value => .ok (quote value)
  | bytes content => .ok (bytesInline content)
  | member family choice => .ok (family.inline choice)
  | settings value => .ok value.inline
  | kind sort => .ok sort.inline
  | row items => (inlineAll items).map rowInline
  | list items => (inlineAll items).map listInline
  | table entries => (inlineEntries entries).map tableInline
  | view entries => (inlineEntries entries).map fun shown =>
    "mappingproxy(".toList ++ tableInline shown ++ ")".toList
  | part form owner name => .ok (partInline form owner name)
  | bound form owner name source =>
    match form with
    | .function | .kindFunction | .freeFunction => source.inline.map fun shown =>
      "<bound method ".toList ++ partName owner name ++ " of ".toList ++ shown ++ ">".toList
    | .operation => .ok ("<method-wrapper '".toList ++ name ++ "' of ".toList ++
      source.kindOf.label ++ " object>".toList)
    | _ =>
      -- Methods of a collection are shown as functions.
      match source with
      | module _ => .ok ("<built-in function ".toList ++ name ++ ">".toList)
      | _ => .ok ("<built-in method ".toList ++ name ++ " of ".toList ++ source.kindOf.label ++
        " object>".toList)
  | applied sort argument => argument.inline.map fun shown =>
    sort.title ++ "[".toList ++ shown ++ "]".toList
  | module name =>
    let origin := if frozenModules.contains name then "frozen" else "built-in"
    .ok ("<module '".toList ++ name ++ "' (".toList ++ origin.toList ++ ")>".toList)
  | thing _ shown _ => .ok shown

/-- Subjects as a log shows them. -/
def inlineAll : List Subject → Except FormatError (List Text)
  | [] => .ok []
  | subject :: rest => do pure ((← subject.inline) :: (← inlineAll rest))

/-- Entries of a table as a log shows them. -/
def inlineEntries : List (Text × Subject) → Except FormatError (List Text)
  | [] => .ok []
  | (name, subject) :: rest => do
    pure (entryInline name (← subject.inline) :: (← inlineEntries rest))

end

/-- A subject in running text. -/
def plain : Subject → Except FormatError Text
  | text value => .ok value
  | member _ choice => .ok choice.title
  | settings value => .ok value.parameters
  | view entries => (inlineEntries entries).map tableInline
  | subject => subject.inline

/-- A subject after a conversion, which makes it a text. -/
def convert (subject : Subject) (conversion : Char) : Except TemplateError Subject :=
  -- It is shown as in running text, as in a log, or as in a log that knows only ASCII.
  if conversion = 's' then (subject.plain.map text).mapError .format
  else if conversion = 'r' then (subject.inline.map text).mapError .format
  else if conversion = 'a' then (subject.inline.map (text ∘ asciiOnly)).mapError .format
  else .error (.unknownConversion conversion)

/-- How members of a fixed list are laid out: as texts, but those that are texts by their list. -/
def memberFormat (family : Family) : FormatKind :=
  if (Kind.memberOf family).line.contains .text then { FormatKind.text with name := family.name }
  else .text

/-- A subject laid out as a format asks. -/
def layOut (subject : Subject) (format : Text) : Except TemplateError Text :=
  -- Only numbers and texts have forms to choose from.
  match subject with
  | truth value => (formatTruth format value).mapError .format
  | whole value => (formatWhole format value).mapError .format
  | text value => (formatText format value).mapError .format
  | member family choice =>
    (formatTextAs (memberFormat family) format choice.title).mapError .format
  | subject => if format.isEmpty then subject.plain.mapError .format else .error .unformatted

end Subject

end DiceChat
