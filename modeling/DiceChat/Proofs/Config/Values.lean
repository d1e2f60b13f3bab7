import DiceChat.Config.Store
import DiceChat.Proofs.Json.Throughout

/-! What holds of every value of a configuration, while values are set, edited and merged. -/

namespace DiceChat

variable {holds weaker : Json → Prop}

/-- An edit puts a value with a property under a name that hides nothing of a configuration. -/
def IsPlainEdit (holds : Json → Prop) (edit : JsonText × Json) : Prop :=
  holds edit.2 ∧ edit.1 ≠ listingName ∧ edit.1 ≠ displayName

/-- An edit is plain, and so is each value that replaces all values at once. -/
def IsPlainChange (holds : Json → Prop) (edit : JsonText × Json) : Prop :=
  IsPlainEdit holds edit ∧ ∀ values, edit = (.whole "__dict__".toList, .object values) →
    ∀ field ∈ values, IsPlainEdit holds field

section Edits

variable {α : Type} {standard config : α} {put : α → JsonText × Json → α} {good : α → Prop}

/-- An edit keeps what holds of the standard configuration and is kept by putting values under names. -/
theorem applyEdit_keeps (start : good standard)
    (step : ∀ config edit, good config → IsPlainEdit holds edit → good (put config edit))
    (known : good config) {edit : JsonText × Json} (plain : IsPlainChange holds edit) {changed : α}
    (applied : applyEdit standard put config edit = .ok changed) : good changed := by
  -- Three names are special, and two of them refuse every value.
  obtain ⟨name, value⟩ := edit
  obtain ⟨edit_plain, inside⟩ := plain
  unfold applyEdit at applied
  simp only at applied
  split at applied
  · exact nomatch applied
  split at applied
  · exact nomatch applied
  split at applied
  · -- Replacing all values starts from the defaults and puts them in one by one.
    rename_i dict
    subst dict
    cases value with
    | object values =>
      obtain rfl := Except.ok.inj applied
      exact List.foldlRecOn values put start fun config kept field member =>
        step config field kept (inside values rfl field member)
    | _ => exact nomatch applied
  · -- Any other name is put in as it is.
    obtain rfl := Except.ok.inj applied
    exact step config _ known edit_plain

/-- Edits keep what holds of the standard configuration and is kept by putting values under names. -/
theorem applyEdits_keeps (start : good standard)
    (step : ∀ config edit, good config → IsPlainEdit holds edit → good (put config edit))
    (known : good config) {edits : List (JsonText × Json)}
    (plain : ∀ edit ∈ edits, IsPlainChange holds edit) :
    good (applyEdits standard put config edits).1 := by
  -- The first edit that is refused ends the edits.
  induction edits generalizing config with
  | nil => exact known
  | cons edit edits ih =>
    rw [applyEdits]
    split
    · rename_i changed applied
      exact ih (applyEdit_keeps start step known (plain edit List.mem_cons_self) applied)
        fun other member => plain other (List.mem_cons_of_mem edit member)
    · exact known

end Edits

/-- Configurations whose values have names: a value that is set stands under its name, and the values make a configuration up. -/
class NamedValues (α : Type) where
  /-- The configuration used where nothing is configured. -/
  standard : α
  /-- The named values in a fixed order. -/
  fields : α → List (JsonText × Json)
  /-- The configuration with one named value changed. -/
  set : α → JsonText → Json → α
  /-- The configuration after an edit. -/
  put : α → JsonText × Json → α
  /-- Nothing hides the values, or what is made of them. -/
  IsPlain : α → Prop
  /-- The standard configuration hides nothing. -/
  isPlain_standard : IsPlain standard
  /-- Setting a value hides nothing. -/
  isPlain_set {config : α} (plain : IsPlain config) (name : JsonText) (value : Json) :
    IsPlain (set config name value)
  /-- All configurations have the same names. -/
  names_fields {config : α} (plain : IsPlain config) :
    (fields config).map Prod.fst = (fields standard).map Prod.fst
  /-- A value that is set stands under its name, and the others stay. -/
  fields_set {config : α} (plain : IsPlain config) (name : JsonText) (value : Json) :
    fields (set config name value) =
      (fields config).map fun known => (known.1, if name = known.1 then value else known.2)
  /-- The values of a configuration make it up. -/
  setAll_fields {config : α} (plain : IsPlain config) :
    (fields config).foldl (fun config field => set config field.1 field.2) standard = config
  /-- An edit under a plain name sets the value. -/
  put_eq (config : α) {edit : JsonText × Json} (visible : edit.1 ≠ listingName)
    (shown : edit.1 ≠ displayName) : put config edit = set config edit.1 edit.2

/-- The values of the program. -/
instance GlobalConfig.namedValues : NamedValues GlobalConfig where
  standard := standard
  fields := fields
  set := set
  put := put
  IsPlain config := config.listing = .usual
  isPlain_standard := rfl
  isPlain_set {config} plain name value := by
    unfold set
    repeat' split
    all_goals exact plain
  names_fields := by
    rintro ⟨commandPrefix, sync, file, level, _⟩ rfl
    rfl
  fields_set := by
    rintro ⟨commandPrefix, sync, file, level, _⟩ rfl name value
    -- The name is one of four, or it is unknown.
    unfold set
    repeat' split
    all_goals simp_all [fields, Listing.select]
  setAll_fields := by
    rintro ⟨commandPrefix, sync, file, level, _⟩ rfl
    rfl
  put_eq config _ visible _ := by rw [put, if_neg visible]

/-- The values of a guild. -/
instance GuildConfig.namedValues : NamedValues GuildConfig where
  standard := standard
  fields := fields
  set := set
  put := put
  IsPlain config := config.listing = .usual ∧ config.hasDisplay = true
  isPlain_standard := ⟨rfl, rfl⟩
  isPlain_set {config} plain name value := by
    unfold set
    repeat' split
    all_goals exact plain
  names_fields := by
    rintro ⟨single, double, _, _⟩ ⟨rfl, rfl⟩
    rfl
  fields_set := by
    rintro ⟨single, double, _, _⟩ ⟨rfl, rfl⟩ name value
    unfold set
    repeat' split
    all_goals simp_all [fields, Listing.select]
  setAll_fields := by
    rintro ⟨single, double, _, _⟩ ⟨rfl, rfl⟩
    rfl
  put_eq config _ visible shown := by rw [put, if_neg visible, if_neg shown]

/-- The names of the values of configurations. -/
def NamedValues.names (α : Type) [NamedValues α] : List JsonText :=
  (fields (standard : α)).map Prod.fst

/-- A configuration hides nothing, and each of its values has a property. -/
structure ListsAll {α : Type} [NamedValues α] (holds : Json → Prop) (config : α) : Prop where
  /-- Nothing is hidden. -/
  plain : NamedValues.IsPlain config
  /-- Every value has the property. -/
  values : ∀ field ∈ NamedValues.fields config, holds field.2

namespace ListsAll

variable {α : Type} [NamedValues α] {config : α}

/-- A listed value keeps what follows from its property. -/
theorem imp (lists : ListsAll holds config) (implies : ∀ value, holds value → weaker value) :
    ListsAll weaker config :=
  ⟨lists.plain, fun field member => implies _ (lists.values field member)⟩

/-- What else holds of all values holds of them together with their property. -/
theorem and (lists : ListsAll holds config)
    (all : ∀ field ∈ NamedValues.fields config, weaker field.2) :
    ListsAll (fun value => holds value ∧ weaker value) config :=
  ⟨lists.plain, fun field member => ⟨lists.values field member, all field member⟩⟩

/-- A value that has the property, or whose name is unknown, leaves a configuration as it should be. -/
theorem set (lists : ListsAll holds config) {name : JsonText} {value : Json}
    (given : name ∈ NamedValues.names α → holds value) :
    ListsAll holds (NamedValues.set config name value) := by
  refine ⟨NamedValues.isPlain_set lists.plain name value, ?_⟩
  rw [NamedValues.fields_set lists.plain, List.forall_mem_map]
  -- Only the value under the name is new, and the name is then a known one.
  intro known member
  split
  · rename_i same
    refine given ?_
    rw [NamedValues.names, ← NamedValues.names_fields lists.plain, same]
    exact List.mem_map_of_mem member
  · exact lists.values known member

/-- Values that have the property, or whose names are unknown, leave a configuration as it should be. -/
theorem setAll (lists : ListsAll holds config) {fields : List (JsonText × Json)}
    (given : ∀ field ∈ fields, field.1 ∈ NamedValues.names α → holds field.2) :
    ListsAll holds
      (fields.foldl (fun config field => NamedValues.set config field.1 field.2) config) :=
  -- The values are set one after the other.
  List.foldlRecOn fields _ lists fun _ lists field member => lists.set (given field member)

/-- Plain edits leave a configuration as it should be. -/
theorem editAll (lists : ListsAll holds config) (start : ListsAll holds (NamedValues.standard : α))
    {edits : List (JsonText × Json)} (plain : ∀ edit ∈ edits, IsPlainChange holds edit) :
    ListsAll holds (applyEdits NamedValues.standard NamedValues.put config edits).1 := by
  -- A plain edit puts its value under a name that is not special.
  refine applyEdits_keeps start ?_ lists plain
  intro config edit lists plain
  rw [NamedValues.put_eq config plain.2.1 plain.2.2]
  exact lists.set fun _ => plain.1

end ListsAll

/-- Two budgets that have a property make a configuration of a guild. -/
theorem GuildConfig.listsAll_of_budgets {single double : Json} (one : holds single)
    (two : holds double) : ListsAll holds { single := single, double := double : GuildConfig } :=
  ⟨⟨rfl, rfl⟩, by simp [NamedValues.fields, fields, Listing.select, one, two]⟩

namespace Store

/-- All configurations of a store list their values with a property, and no guild has two of them. -/
structure Lists (holds : Json → Prop) (store : Store) : Prop where
  /-- The configuration of the program is as it should be. -/
  globals : ListsAll holds store.globals
  /-- Every configuration of a guild is as it should be. -/
  guilds : ∀ entry ∈ store.guilds, ListsAll holds entry.2
  /-- The guilds are distinct. -/
  distinct : (store.guilds.map Prod.fst).Nodup

/-- All values of the configurations of a store. -/
def values (store : Store) : List Json :=
  (store.globals.fields ++ store.guilds.flatMap fun entry => entry.2.fields).map Prod.snd

/-- What is standard has a property. -/
structure IsStandard (holds : Json → Prop) : Prop where
  /-- The values of the program have it. -/
  globals : ListsAll holds GlobalConfig.standard
  /-- The values of a guild have it. -/
  guilds : ListsAll holds GuildConfig.standard

variable {store : Store}

/-- The values are those of the program and those of every guild. -/
theorem forall_values_iff :
    (∀ value ∈ store.values, holds value) ↔
      (∀ field ∈ store.globals.fields, holds field.2) ∧
        ∀ entry ∈ store.guilds, ∀ field ∈ entry.2.fields, holds field.2 := by
  simp only [values, List.forall_mem_map, List.forall_mem_append, List.forall_mem_flatMap]

/-- What else holds of all values of a store holds of them together with their property. -/
theorem Lists.and (lists : store.Lists holds) (all : ∀ value ∈ store.values, weaker value) :
    store.Lists fun value => holds value ∧ weaker value := by
  obtain ⟨globals, guilds⟩ := forall_values_iff.mp all
  exact ⟨lists.globals.and globals,
    fun entry member => (lists.guilds entry member).and (guilds entry member), lists.distinct⟩

/-- The values of the standard store are standard. -/
theorem IsStandard.lists (start : IsStandard holds) (path : Text) : (standard path).Lists holds :=
  ⟨start.globals, by simp [standard], List.nodup_nil⟩

/-- A guild has a configuration as it should be, its own or the standard one. -/
theorem Lists.guild (lists : store.Lists holds) (start : IsStandard holds) (guild : Option Int) :
    ListsAll holds (store.guild guild) := by
  -- Private messages and unknown guilds fall back to the standard configuration.
  cases guild with
  | none => exact start.guilds
  | some id =>
    rw [Store.guild]
    cases found : Ordered.find? store.guilds id with
    | none => exact start.guilds
    | some config => exact lists.guilds _ (Ordered.mem_of_find? found)

/-- A store stays as it should be with another configuration of a guild. -/
theorem Lists.putGuild (lists : store.Lists holds) {config : GuildConfig}
    (given : ListsAll holds config) (guild : Int) : (store.putGuild guild config).Lists holds := by
  refine ⟨lists.globals, ?_, Ordered.nodup_keys_put lists.distinct _ _⟩
  intro entry member
  -- The entry is the new one, or it was there before.
  rcases Ordered.mem_put member with rfl | known
  · exact given
  · exact lists.guilds entry known

/-- Plain edits of a guild leave a store as it should be. -/
theorem Lists.editGuild (lists : store.Lists holds) (start : IsStandard holds)
    (guild : Option Int) {edits : List (JsonText × Json)}
    (plain : ∀ edit ∈ edits, IsPlainChange holds edit) :
    (store.editGuild guild edits).1.Lists holds := by
  -- Only a guild with a configuration of its own keeps the edits.
  have edited : ListsAll holds ((store.guild guild).editAll edits).1 :=
    (lists.guild start guild).editAll start.guilds plain
  rw [Store.editGuild]
  simp only
  split
  · exact lists.putGuild edited _
  · exact lists

/-- Plain edits of the configuration of the program leave a store as it should be. -/
theorem Lists.editGlobals (lists : store.Lists holds) (start : IsStandard holds)
    {edits : List (JsonText × Json)} (plain : ∀ edit ∈ edits, IsPlainChange holds edit) :
    (store.editGlobals edits).1.Lists holds :=
  ⟨lists.globals.editAll start.globals plain, lists.guilds, lists.distinct⟩

/-- What the known guilds have, and those that are read, all guilds have after a merge. -/
theorem forall_merge_guilds {good : GuildConfig → Prop} {guilds : Guilds}
    (known : ∀ entry ∈ guilds, good entry.2) {entries : List (JsonText × Json)}
    (read : ∀ key fields, (key, Json.object fields) ∈ entries →
      good (GuildConfig.standard.setAll fields)) :
    ∀ entry ∈ (guilds.merge entries).1, good entry.2 := by
  -- Every good entry is stored under its number, and the first bad one ends the merge.
  induction entries generalizing guilds with
  | nil => exact known
  | cons entry entries ih =>
    have others := fun other inner member => read other inner (List.mem_cons_of_mem entry member)
    obtain ⟨key, value⟩ := entry
    cases value with
    | object fields =>
      rw [Guilds.merge]
      split
      · -- The key is a number, so the entry is merged and the others go on from there.
        refine ih ?_ others
        intro entry member
        rcases Ordered.mem_put member with rfl | before
        · exact read key fields List.mem_cons_self
        · exact known entry before
      · exact known
    | _ => exact known

/-- Merging gives no guild two configurations. -/
theorem nodup_merge_guilds {guilds : Guilds} (distinct : (guilds.map Prod.fst).Nodup)
    (entries : List (JsonText × Json)) : ((guilds.merge entries).1.map Prod.fst).Nodup := by
  -- An entry replaces the configuration of a guild that has one.
  induction entries generalizing guilds with
  | nil => exact distinct
  | cons entry entries ih =>
    obtain ⟨key, value⟩ := entry
    cases value with
    | object fields =>
      rw [Guilds.merge]
      split
      · exact ih (Ordered.nodup_keys_put distinct _ _)
      · exact distinct
    | _ => exact distinct

variable {document : Json} {p : Json → Prop}

/-- What holds throughout a document holds throughout the values in its fields. -/
theorem throughout_inner {fields inner : List (JsonText × Json)} {name : Text}
    (all : (Json.object fields).Throughout p) (found : inner? fields name = some inner) :
    ∀ field ∈ inner, field.2.Throughout p := by
  -- A missing field stands for no values, and any other value than an object for a failure.
  rw [inner?] at found
  cases held : Ordered.find? fields (.whole name) with
  | none =>
    rw [held] at found
    obtain rfl := Option.some.inj found
    simp
  | some value =>
    -- What is held under the name has the property throughout, for the document has it.
    have value_all := (Json.Throughout.object_iff.mp all).2 _ (Ordered.mem_of_find? held)
    rw [held] at found
    cases value with
    | object values =>
      obtain rfl := Option.some.inj found
      exact (Json.Throughout.object_iff.mp value_all).2
    | _ => exact nomatch found

/-- What a document gives to the values of configurations has a property. -/
structure Gives (holds : Json → Prop) (document : Json) : Prop where
  /-- It gives such values to the program. -/
  globals : ∀ fields inner, document = .object fields → inner? fields "global".toList = some inner →
    ∀ field ∈ inner, field.1 ∈ NamedValues.names GlobalConfig → holds field.2
  /-- It gives such values to guilds. -/
  guilds : ∀ fields entries key inner, document = .object fields →
    inner? fields "guilds".toList = some entries → (key, .object inner) ∈ entries →
    ∀ field ∈ inner, field.1 ∈ NamedValues.names GuildConfig → holds field.2

/-- What holds throughout a document holds throughout all values that it gives. -/
theorem gives_of_throughout (all : document.Throughout p) : Gives (·.Throughout p) document := by
  refine ⟨?_, ?_⟩
  · -- The global section is one field of the document away.
    rintro fields inner rfl found field member -
    exact throughout_inner all found field member
  · -- A guild's section is one entry further in.
    rintro fields entries key inner rfl found entry field member -
    exact (Json.Throughout.object_iff.mp (throughout_inner all found _ entry)).2 field member

/-- Two properties of the values that a document gives hold together of them. -/
theorem Gives.and {q : Json → Prop} (gives : Gives holds document) (others : Gives q document) :
    Gives (fun value => holds value ∧ q value) document := by
  refine ⟨?_, ?_⟩
  · intro fields inner shape found field member known
    exact ⟨gives.globals fields inner shape found field member known,
      others.globals fields inner shape found field member known⟩
  · intro fields entries key inner shape found entry field member known
    exact ⟨gives.guilds fields entries key inner shape found entry field member known,
      others.guilds fields entries key inner shape found entry field member known⟩

/-- What a document gives keeps what follows from its property. -/
theorem Gives.imp (gives : Gives holds document) (implies : ∀ value, holds value → weaker value) :
    Gives weaker document := by
  refine ⟨?_, ?_⟩
  · intro fields inner shape found field member known
    exact implies _ (gives.globals fields inner shape found field member known)
  · intro fields entries key inner shape found entry field member known
    exact implies _ (gives.guilds fields entries key inner shape found entry field member known)

/-- Merging a document leaves a store as it should be, even if it ends early. -/
theorem Lists.merge (lists : store.Lists holds) (start : IsStandard holds)
    (gives : Gives holds document) : (store.merge document).1.Lists holds := by
  -- Every way of ending early leaves the guilds that were there.
  cases document with
  | object fields =>
    rw [Store.merge]
    split
    · -- The program's section is bare, so nothing is changed.
      exact lists
    · rename_i globals found
      have globals_list := start.globals.setAll (gives.globals fields globals rfl found)
      split
      · -- The guilds' section is bare: only the program's values are changed.
        exact ⟨globals_list, lists.guilds, lists.distinct⟩
      · rename_i entries entries_found
        -- Both sections are there, and every entry gives values of a plain configuration.
        refine ⟨globals_list, forall_merge_guilds lists.guilds ?_,
          nodup_merge_guilds lists.distinct entries⟩
        intro key inner member
        exact start.guilds.setAll (gives.guilds fields entries key inner rfl entries_found member)
  | _ => exact lists

end Store

end DiceChat
