import DiceChat.Config.Basic

/-! Edits put values under names of a configuration, also under names that are not those of its values. -/

namespace DiceChat

/-- Why a value cannot be put under a name. -/
inductive EditError where
  /-- The name stands for something that only a thing of the same sort can replace. -/
  | wrongSort
  /-- The name stands for something that nothing can replace. -/
  | fixed
deriving DecidableEq

/-- A configuration after an edit, from how a value is put under a usual name. -/
def applyEdit {α : Type} (standard : α) (put : α → JsonText × Json → α) (config : α)
    (edit : JsonText × Json) : Except EditError α :=
  -- All values may be replaced at once, and those that are missing then are standard.
  let (name, value) := edit
  if name = "__class__".toList then .error .wrongSort
  else if name = "__weakref__".toList then .error .fixed
  else if name = "__dict__".toList then
    match value with
    | .object values => .ok (values.foldl put standard)
    | _ => .error .wrongSort
  else .ok (put config edit)

/-- A configuration after edits up to the first that is refused, and why it is. -/
def applyEdits {α : Type} (standard : α) (put : α → JsonText × Json → α) (config : α) :
    List (JsonText × Json) → α × Option EditError
  | [] => (config, none)
  | edit :: rest =>
    match applyEdit standard put config edit with
    | .ok config => applyEdits standard put config rest
    | .error error => (config, some error)

/-- The name under which the values of a configuration are listed. -/
def listingName : Text := "__dataclass_fields__".toList

/-- The name under which the display of a configuration is made. -/
def displayName : Text := "display_config".toList

namespace GlobalConfig

/-- The configuration with a value under a name, which may hide where its values are listed. -/
def put (config : GlobalConfig) (edit : JsonText × Json) : GlobalConfig :=
  if edit.1 = listingName then { config with listing := .ofJson edit.2 }
  else config.set edit.1 edit.2

/-- The configuration after edits up to the first that is refused, and why it is. -/
def editAll (config : GlobalConfig) (edits : List (JsonText × Json)) :
    GlobalConfig × Option EditError :=
  applyEdits standard put config edits

end GlobalConfig

namespace GuildConfig

/-- The configuration with a value under a name, which may hide its list of values or its display. -/
def put (config : GuildConfig) (edit : JsonText × Json) : GuildConfig :=
  if edit.1 = listingName then { config with listing := .ofJson edit.2 }
  else if edit.1 = displayName then { config with hasDisplay := false }
  else config.set edit.1 edit.2

/-- The configuration after edits up to the first that is refused, and why it is. -/
def editAll (config : GuildConfig) (edits : List (JsonText × Json)) :
    GuildConfig × Option EditError :=
  applyEdits standard put config edits

end GuildConfig

end DiceChat
