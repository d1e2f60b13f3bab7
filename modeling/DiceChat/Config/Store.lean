import DiceChat.Config.Edit
import DiceChat.Disk
import DiceChat.Json.Draft
import DiceChat.Json.Reader

/-! The store keeps the configuration in memory and in a file, and merges the file over what it holds. -/

namespace DiceChat

/-- Why a configuration cannot be loaded or saved. -/
inductive ConfigError where
  /-- There is no path of a file. -/
  | noPath
  /-- The file cannot be opened. -/
  | file (error : FileError)
  /-- The file is not UTF-8. -/
  | encoding (error : Utf8Error)
  /-- The text of the file cannot be read as JSON. -/
  | unreadable (fault : JsonFault)
  /-- A value that should hold named values has none. -/
  | notFields
  /-- The key of a guild is no numeral. -/
  | badGuild (key : JsonText) (fault : NumeralFault)
  /-- Values are nested too deep to be saved. -/
  | tooDeep
  /-- A value cannot be written. -/
  | unwritable (flaw : JsonFlaw)
deriving DecidableEq

/-- What a fault is reported as. -/
def JsonFault.message : JsonFault → Text
  | .notJson => "the configuration is not JSON".toList
  | .tooLong digits => longNumeralMessage digits
  | .tooDeep => "values are nested too deep".toList

/-- What a flaw is reported as. -/
def JsonFlaw.message : JsonFlaw → Text
  | .torn => "a text holds half of a character".toList
  | .tooLong => longNumberMessage

/-- What an error is reported as. -/
def ConfigError.message : ConfigError → Text
  | .noPath => "the path of the configuration is missing".toList
  | .file error => error.message
  | .encoding error => error.message
  | .unreadable fault => fault.message
  | .notFields => "a value has no fields".toList
  | .badGuild key fault => fault.message key.quoted
  | .tooDeep => JsonFault.message .tooDeep
  | .unwritable flaw => flaw.message

/-- Whose configuration a value belongs to. -/
inductive Owner where
  /-- The program. -/
  | program
  /-- A guild, whose values are listed behind one more call. -/
  | guild
deriving DecidableEq

/-- What is left of the call stack at some moment: how far values that hold others can be followed. -/
structure Stack where
  /-- Whether what a value holds can be listed, and then be written. -/
  lists : Owner → Json → Bool
  /-- The most values around a value that can be read. -/
  depth : Nat
  /-- A value that holds no others is listed without a further call. -/
  lists_flat : ∀ owner value, value.depth = 0 → lists owner value = true

/-- The stack on which values of so many levels can be listed, and so many levels can be read. -/
def Stack.ofLevels (listed read : Nat) : Stack where
  lists _ value := value.depth ≤ listed
  depth := read
  lists_flat _ _ flat := by simp [flat]

/-- The configurations of guilds, in the order in which the guilds first came. -/
abbrev Guilds := List (Int × GuildConfig)

/-- A configuration and the path of its file. -/
structure Store where
  /-- Where the file is. -/
  path : Text
  /-- The configuration of the program. -/
  globals : GlobalConfig
  /-- The configurations of the guilds that have their own. -/
  guilds : Guilds

/-- The guilds with the entries of a file merged over them, up to the first entry that is bad. -/
def Guilds.merge (guilds : Guilds) : List (JsonText × Json) → Guilds × Option ConfigError
  -- The value of an entry is looked at before its key.
  | [] => (guilds, none)
  | (key, .object fields) :: rest =>
    match readInt key.plain with
    | .ok guild => Guilds.merge (Ordered.put guilds guild (GuildConfig.standard.setAll fields)) rest
    | .error fault => (guilds, some (.badGuild key fault))
  | _ :: _ => (guilds, some .notFields)

namespace Store

/-- A store that holds nothing but what is standard. -/
def standard (path : Text) : Store := ⟨path, .standard, []⟩

/-- The named values of a field, none if the field is missing. -/
def inner? (fields : List (JsonText × Json)) (name : Text) : Option (List (JsonText × Json)) :=
  match (Ordered.find? fields (.whole name)).getD (.object []) with
  | .object inner => some inner
  | _ => none

/-- The store with a document merged over it, as far as the document is good. -/
def merge (store : Store) (document : Json) : Store × Option ConfigError :=
  -- The configuration of the program is replaced first; guilds are merged one by one.
  match document with
  | .object fields =>
    match inner? fields "global".toList with
    | none => (store, some .notFields)
    | some globals =>
      let store := { store with globals := GlobalConfig.standard.setAll globals }
      match inner? fields "guilds".toList with
      | none => (store, some .notFields)
      | some entries =>
        let (guilds, error) := store.guilds.merge entries
        ({ store with guilds := guilds }, error)
  | _ => (store, some .notFields)

/-- The entry of a guild in the file. -/
def guildEntry (entry : Int × GuildConfig) : JsonText × Json :=
  (writeInt entry.1, .object entry.2.fields)

/-- The document that describes the store. -/
def document (store : Store) : Json :=
  .object [("global".toList, .object store.globals.fields),
    ("guilds".toList, .object (store.guilds.map guildEntry))]

/-- What is read from a file: numbers as long as numerals may be, nested as deep as the stack allows. -/
def fileLimits (stack : Stack) : JsonLimits := ⟨some maxNumeralDigits, some stack.depth⟩

/-- What keeps the named values of a configuration from being saved. -/
def fieldsFault? (stack : Stack) (owner : Owner) (listing : Listing)
    (fields : List (JsonText × Json)) : Option ConfigError :=
  if listing = .broken then some .notFields
  else if fields.all fun field => stack.lists owner field.2 then none
  else some .tooDeep

/-- What keeps a guild from being saved: its numeral is written before its values are listed. -/
def entryFault? (stack : Stack) (entry : Int × GuildConfig) : Option ConfigError :=
  if (numeral? entry.1).isNone then some (.unwritable .tooLong)
  else fieldsFault? stack .guild entry.2.listing entry.2.fields

/-- What keeps the store from being described by a document, the first fault if there are several. -/
def fault? (stack : Stack) (store : Store) : Option ConfigError :=
  (fieldsFault? stack .program store.globals.listing store.globals.fields).or
    (store.guilds.findSome? (entryFault? stack))

/-- The disk after the store was saved on it, and what went wrong if anything did. -/
def save (stack : Stack) (store : Store) (disk : Disk) : Disk × Option ConfigError :=
  -- The file is opened once there is a document; what can be written before a flaw is written.
  match store.fault? stack with
  | some error => (disk, some error)
  | none =>
    match disk.write store.path store.document.draft with
    | .error error => (disk, some (.file error))
    | .ok disk => (disk, store.document.flaw?.map .unwritable)

/-- The document in the file. -/
def readDocument (stack : Stack) (store : Store) (disk : Disk) : Except ConfigError Json := do
  let body ← (disk.open? store.path).mapError .file
  let text ← body.read.mapError .encoding
  (Json.readWithin (fileLimits stack) text).mapError .unreadable

/-- Loads the file over the store; without a file, the store is saved. -/
def load (stack : Stack) (store : Store) (disk : Disk) : Store × Disk × Option ConfigError :=
  -- A load that fails keeps what was merged before it failed.
  if disk.has store.path then
    match store.readDocument stack disk with
    | .error error => (store, disk, some error)
    | .ok document =>
      let (store, error) := store.merge document
      (store, disk, error)
  else (store, store.save stack disk)

/-- Opens the store at a path, which fails if its file cannot be loaded in full. -/
def openAt (stack : Stack) (path : Text) (disk : Disk) : Disk × Except ConfigError Store :=
  -- A new store starts with what is standard.
  match (standard path).load stack disk with
  | (store, disk, none) => (disk, .ok store)
  | (_, disk, some error) => (disk, .error error)

/-- The configuration of a guild; private messages and other guilds have the standard one. -/
def guild (store : Store) (guild : Option Int) : GuildConfig :=
  match guild with
  | none => .standard
  | some id => (Ordered.find? store.guilds id).getD .standard

/-- The store with another configuration of a guild, not saved. -/
def putGuild (store : Store) (guild : Int) (config : GuildConfig) : Store :=
  { store with guilds := Ordered.put store.guilds guild config }

/-- Changes the configuration of a guild and saves the store. -/
def setGuild (stack : Stack) (store : Store) (disk : Disk) (guild : Int) (config : GuildConfig) :
    Store × Disk × Option ConfigError :=
  -- The change in memory stays even if it cannot be saved.
  let store := store.putGuild guild config
  (store, store.save stack disk)

/-- Edits the configuration of a guild in memory, as far as no edit is refused. -/
def editGuild (store : Store) (guild : Option Int) (edits : List (JsonText × Json)) :
    Store × Option EditError :=
  -- What is edited is kept only for a guild with its own configuration.
  let (config, error) := (store.guild guild).editAll edits
  match guild.filter fun id => (Ordered.find? store.guilds id).isSome with
  | some id => (store.putGuild id config, error)
  | none => (store, error)

/-- Edits the configuration of the program in memory, as far as no edit is refused. -/
def editGlobals (store : Store) (edits : List (JsonText × Json)) : Store × Option EditError :=
  let (globals, error) := store.globals.editAll edits
  ({ store with globals := globals }, error)

end Store

end DiceChat
