import DiceChat.Proofs.Config.Reopen

/-! Loading a file over a store: the configuration of the program is replaced, and guilds are merged entry by entry, up
to the first bad one. -/

namespace DiceChat

/-- Values with others over them: every name stays in its place, and what is given under it counts. -/
def overlaid (values given : List (JsonText × Json)) : List (JsonText × Json) :=
  values.map fun field => (field.1, (Ordered.find? given field.1).getD field.2)

/-- A configuration of the program has what is given under its names, and else what is standard. -/
structure GlobalConfig.IsGiven (config : GlobalConfig) (given : List (JsonText × Json)) : Prop where
  /-- The values are listed as usual. -/
  listed : config.listing = .usual
  /-- The values are the standard ones with the given ones over them. -/
  values : config.fields = overlaid standard.fields given

/-- A configuration of a guild has what is given under its names, and else what is standard. -/
structure GuildConfig.IsGiven (config : GuildConfig) (given : List (JsonText × Json)) : Prop where
  /-- The values are listed as usual. -/
  listed : config.listing = .usual
  /-- A display can be made. -/
  shown : config.hasDisplay = true
  /-- The values are the standard ones with the given ones over them. -/
  values : config.fields = overlaid standard.fields given

/-- An entry of a file names a guild: its key is a numeral of the guild. -/
def NamesGuild (entry : JsonText × Json) (guild : Int) : Prop :=
  readInt entry.1.plain = .ok guild

/-- An entry of a file describes a guild: its value has fields, and its key names the guild. -/
def DescribesGuild (entry : JsonText × Json) : Prop :=
  (∃ fields, entry.2 = .object fields) ∧ ∃ guild, NamesGuild entry guild

/-- What is wrong with an entry that describes no guild; its value is looked at before its key. -/
inductive EntryFault : JsonText × Json → ConfigError → Prop where
  /-- The value has no fields. -/
  | value {key : JsonText} {value : Json} (bare : ∀ fields, value ≠ .object fields) :
      EntryFault (key, value) .notFields
  /-- The key is no numeral. -/
  | key {key : JsonText} {fields : List (JsonText × Json)} {fault : NumeralFault}
      (nameless : readInt key.plain = .error fault) :
      EntryFault (key, .object fields) (.badGuild key fault)

/-- What a guild has after entries, given what it had before. -/
inductive AfterEntries (entries : List (JsonText × Json)) (guild : Int) (before : Option GuildConfig) :
    Option GuildConfig → Prop where
  /-- It has what is given by the last entry that names it. -/
  | last {earlier later fields : List (JsonText × Json)} {key : JsonText} {config : GuildConfig}
      (split : entries = earlier ++ (key, .object fields) :: later)
      (named : NamesGuild (key, .object fields) guild)
      (unnamed : ∀ entry ∈ later, ¬NamesGuild entry guild) (given : config.IsGiven fields) :
      AfterEntries entries guild before (some config)
  /-- It has what it had, since no entry names it. -/
  | kept (unnamed : ∀ entry ∈ entries, ¬NamesGuild entry guild) :
      AfterEntries entries guild before before

/-- Guilds before and after entries were merged over them. -/
structure Guilds.Merged (before : Guilds) (entries : List (JsonText × Json)) (after : Guilds) :
    Prop where
  /-- Every guild has what the last entry for it gives, or what it had before. -/
  guilds : ∀ guild, AfterEntries entries guild (Ordered.find? before guild) (Ordered.find? after guild)
  /-- The guilds that were there are the first ones, in their order. -/
  order : before.map Prod.fst <+: after.map Prod.fst

/-- A section of a document holds these fields; a missing one holds none. -/
def SectionHolds (document : List (JsonText × Json)) (name : Text)
    (fields : List (JsonText × Json)) : Prop :=
  Ordered.find? document (.whole name) = some (.object fields) ∨
    Ordered.find? document (.whole name) = none ∧ fields = []

/-- A section of a document is there, but it has no fields. -/
def SectionIsBare (document : List (JsonText × Json)) (name : Text) : Prop :=
  ∃ value, Ordered.find? document (.whole name) = some value ∧ ∀ fields, value ≠ .object fields

/-- What comes of loading over a store, from what is read: another store, perhaps with an error. -/
inductive Store.Loads (store : Store) :
    Except ConfigError Json → Store → Option ConfigError → Prop where
  /-- No document is read, and nothing changes. -/
  | unread {error : ConfigError} : store.Loads (.error error) store (some error)
  /-- The document has no sections, and nothing changes. -/
  | bare {document : Json} (bare : ∀ sections, document ≠ .object sections) :
      store.Loads (.ok document) store (some .notFields)
  /-- The section of the program has no fields, and nothing changes. -/
  | bareGlobals {sections : List (JsonText × Json)} (bare : SectionIsBare sections "global".toList) :
      store.Loads (.ok (.object sections)) store (some .notFields)
  /-- The section of the guilds has no entries: only the configuration of the program is new. -/
  | bareGuilds {sections given : List (JsonText × Json)} {globals : GlobalConfig}
      (program : SectionHolds sections "global".toList given) (new : globals.IsGiven given)
      (bare : SectionIsBare sections "guilds".toList) :
      store.Loads (.ok (.object sections)) { store with globals := globals } (some .notFields)
  /-- An entry is bad: the configuration of the program is new, and the entries before it are merged. -/
  | badEntry {sections given good behind : List (JsonText × Json)} {bad : JsonText × Json}
      {globals : GlobalConfig} {guilds : Guilds} {error : ConfigError}
      (program : SectionHolds sections "global".toList given) (new : globals.IsGiven given)
      (split : SectionHolds sections "guilds".toList (good ++ bad :: behind))
      (sound : ∀ entry ∈ good, DescribesGuild entry) (fault : EntryFault bad error)
      (merged : store.guilds.Merged good guilds) :
      store.Loads (.ok (.object sections)) { store with globals := globals, guilds := guilds }
        (some error)
  /-- All is good: the configuration of the program is new, and all entries are merged. -/
  | success {sections given entries : List (JsonText × Json)} {globals : GlobalConfig}
      {guilds : Guilds} (program : SectionHolds sections "global".toList given)
      (new : globals.IsGiven given) (all : SectionHolds sections "guilds".toList entries)
      (sound : ∀ entry ∈ entries, DescribesGuild entry)
      (merged : store.guilds.Merged entries guilds) :
      store.Loads (.ok (.object sections)) { store with globals := globals, guilds := guilds } none

/-- With no values over them, values stay as they are. -/
theorem overlaid_nil (values : List (JsonText × Json)) : overlaid values [] = values := by
  simp [overlaid, Ordered.find?]

/-- A name that is not among those of a map is not found. -/
theorem find?_eq_none_of_notMem {given : List (JsonText × Json)} {name : JsonText}
    (absent : name ∉ given.map Prod.fst) : Ordered.find? given name = none := by
  -- What is found under a name stands in the list under this name.
  cases found : Ordered.find? given name with
  | none => rfl
  | some value =>
    exact absurd (List.mem_map_of_mem (f := Prod.fst) (Ordered.mem_of_find? found)) absent

/-- Putting one value over others and then the rest is putting all of them over the first ones. -/
theorem overlaid_cons {given : List (JsonText × Json)} {name : JsonText} {value : Json}
    (absent : name ∉ given.map Prod.fst) (values : List (JsonText × Json)) :
    overlaid (values.map fun field => (field.1, if name = field.1 then value else field.2)) given =
      overlaid values ((name, value) :: given) := by
  rw [overlaid, overlaid, List.map_map]
  refine List.map_congr_left fun field _ => ?_
  -- The rest does not have the name, so the one value is what counts under it.
  by_cases same : name = field.1
  · subst same
    simp [Ordered.find?, find?_eq_none_of_notMem absent]
  · simp [Ordered.find?, same]

/-- Values with distinct names, set one after the other, are over those that were there. -/
theorem NamedValues.fields_setAll {α : Type} [NamedValues α] {config : α} (plain : IsPlain config)
    {given : List (JsonText × Json)} (distinct : (given.map Prod.fst).Nodup) :
    IsPlain (given.foldl (fun config field => set config field.1 field.2) config) ∧
      fields (given.foldl (fun config field => set config field.1 field.2) config) =
        overlaid (fields config) given := by
  induction given generalizing config with
  | nil => exact ⟨plain, (overlaid_nil _).symm⟩
  -- The first field is set on what is there, and the later ones have other names.
  | cons field given ih =>
    rw [List.map_cons, List.nodup_cons] at distinct
    obtain ⟨kept, equal⟩ := ih (isPlain_set plain field.1 field.2) distinct.2
    refine ⟨kept, ?_⟩
    rw [List.foldl_cons, equal, fields_set plain, overlaid_cons distinct.1]

/-- Given values with distinct names make a configuration of the program. -/
theorem GlobalConfig.isGiven_setAll {given : List (JsonText × Json)}
    (distinct : (given.map Prod.fst).Nodup) : (standard.setAll given).IsGiven given := by
  -- The defaults are plain, so what is given overlays their fields and nothing else.
  have plain : NamedValues.IsPlain standard := NamedValues.isPlain_standard
  obtain ⟨listed, values⟩ := NamedValues.fields_setAll plain distinct
  exact ⟨listed, values⟩

/-- Given values with distinct names make a configuration of a guild. -/
theorem GuildConfig.isGiven_setAll {given : List (JsonText × Json)}
    (distinct : (given.map Prod.fst).Nodup) : (standard.setAll given).IsGiven given := by
  have plain : NamedValues.IsPlain standard := NamedValues.isPlain_standard
  obtain ⟨⟨listed, shown⟩, values⟩ := NamedValues.fields_setAll plain distinct
  exact ⟨listed, shown, values⟩

namespace Guilds

variable {guilds after : Guilds}

/-- Without entries, every guild has what it had. -/
theorem merged_nil (guilds : Guilds) : guilds.Merged [] guilds :=
  ⟨fun _ => .kept (by simp), List.prefix_rfl⟩

/-- An entry in front of others gives its guild a configuration before they are merged. -/
theorem Merged.cons {rest fields : List (JsonText × Json)} {key : JsonText} {guild : Int}
    {config : GuildConfig} (named : NamesGuild (key, .object fields) guild)
    (given : config.IsGiven fields) (merged : Merged (Ordered.put guilds guild config) rest after) :
    guilds.Merged ((key, .object fields) :: rest) after := by
  constructor
  · intro other
    have others := merged.guilds other
    rw [Ordered.find?_put] at others
    -- What a later entry gives stays what the last entry gives.
    generalize Ordered.find? after other = found at others
    cases others with
    | last split later_named unnamed later_given =>
      exact .last ((congrArg (List.cons _) split).trans List.cons_append.symm) later_named unnamed
        later_given
    | kept unnamed =>
      -- No later entry names the guild, so this one may.
      by_cases same : guild = other
      · subst same
        rw [if_pos rfl]
        exact .last (List.nil_append _).symm named unnamed given
      · rw [if_neg same]
        -- Another guild is not named by this entry, and not by the later ones.
        refine .kept ?_
        intro entry member
        rcases List.mem_cons.mp member with rfl | inside
        · intro named_other
          exact same (Except.ok.inj (named.symm.trans named_other))
        · exact unnamed entry inside
  · -- A guild that is not known yet goes behind those that are.
    refine List.IsPrefix.trans ?_ merged.order
    rw [Ordered.keys_put]
    split
    · exact List.prefix_rfl
    · exact List.prefix_append _ _

/-- Entries are merged up to the first one that is bad. -/
theorem merge_cases (guilds : Guilds) {entries : List (JsonText × Json)}
    (distinct : ∀ entry ∈ entries, entry.2.HasDistinctNames) :
    ∃ good rest, entries = good ++ rest ∧ (∀ entry ∈ good, DescribesGuild entry) ∧
      guilds.Merged good (guilds.merge entries).1 ∧
      (rest = [] ∧ (guilds.merge entries).2 = none ∨
        ∃ bad behind error, rest = bad :: behind ∧ EntryFault bad error ∧
          (guilds.merge entries).2 = some error) := by
  induction entries generalizing guilds with
  -- Without entries the map stays, and no entry is bad.
  | nil => exact ⟨[], [], rfl, by simp, merged_nil guilds, .inl ⟨rfl, rfl⟩⟩
  | cons entry entries ih =>
    obtain ⟨key, value⟩ := entry
    by_cases shape : ∃ fields, value = .object fields
    · -- An object: its key decides whether it is merged.
      obtain ⟨fields, rfl⟩ := shape
      cases read : readInt key.plain with
      | error fault =>
        -- The key is no number, so the merge stops in front of this entry.
        refine ⟨[], _, rfl, by simp, ?_, .inr ⟨_, _, _, rfl, .key read, ?_⟩⟩ <;>
          simp only [merge, read]
        exact merged_nil guilds
      | ok guild =>
        -- This entry is merged, and the ones behind it go on from the map it leaves.
        have given := GuildConfig.isGiven_setAll (distinct _ List.mem_cons_self)
        obtain ⟨good, rest, split, sound, merged, ending⟩ :=
          ih (Ordered.put guilds guild (GuildConfig.standard.setAll fields))
            fun other member => distinct other (List.mem_cons_of_mem _ member)
        simp only [merge, read]
        refine ⟨(key, .object fields) :: good, rest, congrArg (_ :: ·) split, ?_,
          merged.cons read given, ending⟩
        exact List.forall_mem_cons.mpr ⟨⟨⟨fields, rfl⟩, guild, read⟩, sound⟩
    · -- Anything else has no fields to set, whatever its key says.
      have bare : ∀ fields, value ≠ .object fields := not_exists.mp shape
      have stopped : guilds.merge ((key, value) :: entries) = (guilds, some .notFields) := by
        cases value with
        | object fields => exact absurd rfl (bare fields)
        | _ => rfl
      rw [stopped]
      exact ⟨[], _, rfl, by simp, merged_nil guilds, .inr ⟨_, _, _, rfl, .value bare, rfl⟩⟩

end Guilds

namespace Store

variable {store : Store} {disk : Disk} {stack : Stack}

/-- A section holds fields exactly if they are found in it. -/
theorem inner?_eq_some_iff {sections fields : List (JsonText × Json)} {name : Text} :
    inner? sections name = some fields ↔ SectionHolds sections name fields := by
  rw [inner?, SectionHolds]
  -- A section that is missing counts as an empty one.
  cases Ordered.find? sections (.whole name) with
  | none => simp [eq_comm]
  | some value => cases value <;> simp

/-- A section is bare exactly if no fields are found in it. -/
theorem inner?_eq_none_iff {sections : List (JsonText × Json)} {name : Text} :
    inner? sections name = none ↔ SectionIsBare sections name := by
  rw [inner?, SectionIsBare]
  cases Ordered.find? sections (.whole name) with
  | none => simp
  | some value => cases value <;> simp

/-- The fields that a section holds have distinct names, and so does everything in them. -/
theorem distinct_inner {sections fields : List (JsonText × Json)} {name : Text}
    (distinct : (Json.object sections).Throughout Json.HasDistinctNames)
    (found : inner? sections name = some fields) :
    (fields.map Prod.fst).Nodup ∧ ∀ field ∈ fields, field.2.HasDistinctNames := by
  refine ⟨?_, fun field member => (throughout_inner distinct found field member).here⟩
  -- Either the document holds the section, or it is the empty one that stands in for it.
  rcases inner?_eq_some_iff.mp found with held | ⟨-, rfl⟩
  · exact ((Json.Throughout.object_iff.mp distinct).2 _ (Ordered.mem_of_find? held)).here
  · exact List.nodup_nil

/-- A document with distinct names is merged section by section and entry by entry. -/
theorem loads_merge (store : Store) {document : Json}
    (distinct : document.Throughout Json.HasDistinctNames) :
    store.Loads (.ok document) (store.merge document).1 (store.merge document).2 := by
  by_cases shape : ∃ sections, document = .object sections
  · obtain ⟨sections, rfl⟩ := shape
    -- The two sections are looked at in turn, and the first that is bare ends the merge.
    cases program : inner? sections "global".toList with
    | none =>
      simp only [merge, program]
      exact .bareGlobals (inner?_eq_none_iff.mp program)
    | some given =>
      have new := GlobalConfig.isGiven_setAll (distinct_inner distinct program).1
      have program_holds := inner?_eq_some_iff.mp program
      cases all : inner? sections "guilds".toList with
      | none =>
        simp only [merge, program, all]
        exact .bareGuilds program_holds new (inner?_eq_none_iff.mp all)
      | some entries =>
        rw [merge_eq store program all]
        have entries_hold := inner?_eq_some_iff.mp all
        -- Either all entries are good, or some entry is the first bad one.
        obtain ⟨good, rest, rfl, sound, merged, ⟨rfl, error⟩ | ⟨bad, behind, fault, rfl, wrong, error⟩⟩ :=
          store.guilds.merge_cases (distinct_inner distinct all).2
        · -- All entries are merged.
          rw [List.append_nil] at entries_hold merged error ⊢
          rw [error]
          exact .success program_holds new entries_hold sound merged
        · -- The entries in front of the bad one are merged.
          rw [error]
          exact .badEntry program_holds new entries_hold sound wrong merged
  · have bare : ∀ sections, document ≠ .object sections := not_exists.mp shape
    -- A document without sections changes nothing.
    have same : store.merge document = (store, some .notFields) := by
      cases document with
      | object sections => exact absurd rfl (bare sections)
      | _ => rfl
    rw [same]
    exact .bare bare

/-- Whatever comes of loading, the guilds that were there stay in their places. -/
theorem Loads.order {read : Except ConfigError Json} {loaded : Store} {error : Option ConfigError}
    (loads : store.Loads read loaded error) :
    store.guilds.map Prod.fst <+: loaded.guilds.map Prod.fst := by
  -- Where reading stops early the map of guilds is the one before.
  cases loads with
  | unread | bare | bareGlobals | bareGuilds => exact List.prefix_rfl
  | badEntry _ _ _ _ _ merged => exact merged.order
  | success _ _ _ _ merged => exact merged.order

/-- A document that is read is merged, and the disk stays as it is. -/
theorem load_eq (present : disk.has store.path = true) {document : Json}
    (read : store.readDocument stack disk = .ok document) :
    store.load stack disk = ((store.merge document).1, disk, (store.merge document).2) := by
  simp only [load, if_pos present, read]

/-- A file is loaded over a store as far as it is good: the configuration of the program is replaced, the entries up to
the first bad one are merged, no guild is lost or moved, and the file stays as it is. -/
theorem load_merges (present : disk.has store.path = true) :
    (store.load stack disk).2.1 = disk ∧
      store.guilds.map Prod.fst <+: (store.load stack disk).1.guilds.map Prod.fst ∧
      store.Loads (store.readDocument stack disk) (store.load stack disk).1 (store.load stack disk).2.2 := by
  -- The disk is left alone in each of the cases, so this is shown together with them.
  have loads : (store.load stack disk).2.1 = disk ∧
      store.Loads (store.readDocument stack disk) (store.load stack disk).1 (store.load stack disk).2.2 := by
    cases read : store.readDocument stack disk with
    | error error =>
      simp only [load, if_pos present, read]
      exact ⟨trivial, .unread⟩
    | ok document =>
      rw [load_eq present read]
      have limited := isLimited_of_readDocument read
      exact ⟨rfl, store.loads_merge (limited.imp fun _ both => both.1)⟩
  exact ⟨loads.1, loads.2.order, loads.2⟩

/-- A file with a bad entry is loaded over two guilds: the entries before it count, in all spellings, and no others. -/
theorem load_merges_partly :
    let text : Text := "\x7b\"global\": \x7b\"log_file\": null, \"theme\": []\x7d, ".toList ++
      "\"guilds\": \x7b\" 42 \": \x7b\"single_truncate\": 7\x7d, \"5\": \x7b\x7d, ".toList ++
      "\"٤٢\": \x7b\"double_truncate\": []\x7d, \"x\": [], \"9\": \x7b\x7d\x7d\x7d".toList
    let path : Text := "config.json".toList
    let disk : Disk := ⟨.plain [path], [(path, .text text)]⟩
    let stack : Stack := .ofLevels 1 4
    let nine : GuildConfig := { single := .whole 1, double := .whole 2 }
    let store : Store := { Store.standard path with
      guilds := [(9, nine), (42, { single := .whole 3, double := .whole 4 })] }
    let loaded : Store := { store with
      globals := { GlobalConfig.standard with logFile := .null }
      guilds :=
        [(9, nine), (42, { GuildConfig.standard with double := .array [] }), (5, .standard)] }
    disk.has store.path = true ∧ store.load stack disk = (loaded, disk, some .notFields) ∧
      store.guilds.map Prod.fst <+: loaded.guilds.map Prod.fst ∧
      store.Loads (store.readDocument stack disk) loaded (some .notFields) := by
  intro text path disk stack nine store loaded
  have kept : disk.Keeps path path := rfl
  have held : disk.file? path = some (.text text) := rfl
  let globals : List (JsonText × Json) :=
    [(.whole "log_file".toList, .null), (.whole "theme".toList, .array [])]
  let entries : List (JsonText × Json) :=
    [(.whole " 42 ".toList, .object [(.whole "single_truncate".toList, .whole 7)]),
      (.whole "5".toList, .object []),
      (.whole "٤٢".toList, .object [(.whole "double_truncate".toList, .array [])]),
      (.whole "x".toList, .array []), (.whole "9".toList, .object [])]
  let sections : List (JsonText × Json) :=
    [(.whole "global".toList, .object globals), (.whole "guilds".toList, .object entries)]
  -- What the reader makes of the text, within the depth of the stack.
  have parsed : Json.readWithin ⟨some maxNumeralDigits, some 4⟩ text = .ok (.object sections) := by
    unfold text sections globals entries
    cbv
  have read : (Store.standard path).readDocument stack disk = .ok (.object sections) := by
    have within : fileLimits stack = ⟨some maxNumeralDigits, some 4⟩ := rfl
    rw [readDocument_text (by decide) kept held, within, parsed]
    rfl
  -- Three keys are read, two of them as the same number; the fourth is none.
  have merged : store.guilds.merge entries = (loaded.guilds, some .notFields) := by
    have first : readInt (JsonText.whole " 42 ".toList).plain = .ok 42 := rfl
    have second : readInt (JsonText.whole "5".toList).plain = .ok 5 := rfl
    have third : readInt (JsonText.whole "٤٢".toList).plain = .ok 42 := rfl
    simp only [entries, Guilds.merge, first, second, third]
    rfl
  -- With the file in place the general law applies, and `result` says which of its cases this is.
  have present : disk.has store.path = true := rfl
  have result : store.load stack disk = (loaded, disk, some .notFields) := by
    rw [load_eq present read, merge_eq store rfl rfl, merged]
    rfl
  obtain ⟨-, order, loads⟩ := load_merges present
  rw [result] at order loads
  exact ⟨present, result, order, loads⟩

/-- A name that the file repeats stands where it came first, with its last value, so another spelling of the
guild between them counts instead of the last one in the text. -/
theorem load_repeated :
    let text : Text := "\x7b\"guilds\": \x7b\"1\": \x7b\"single_truncate\": 1\x7d, ".toList ++
      "\"01\": \x7b\"single_truncate\": 2\x7d, \"1\": \x7b\"single_truncate\": 3\x7d\x7d\x7d".toList
    let path : Text := "config.json".toList
    let disk : Disk := ⟨.plain [path], [(path, .text text)]⟩
    let stack : Stack := .ofLevels 1 4
    let loaded := (Store.standard path).load stack disk
    loaded.2.2 = none ∧
      Ordered.find? loaded.1.guilds 1 = some { GuildConfig.standard with single := .whole 2 } ∧
      Ordered.find? loaded.1.guilds 1 ≠ some { GuildConfig.standard with single := .whole 3 } := by
  intro text path disk stack loaded
  have kept : disk.Keeps path path := rfl
  have held : disk.file? path = some (.text text) := rfl
  -- Of two entries with one name the reader keeps the place of the first and the value of the second.
  let entries : List (JsonText × Json) :=
    [(.whole "1".toList, .object [(.whole "single_truncate".toList, .whole 3)]),
      (.whole "01".toList, .object [(.whole "single_truncate".toList, .whole 2)])]
  let sections : List (JsonText × Json) := [(.whole "guilds".toList, .object entries)]
  have parsed : Json.readWithin ⟨some maxNumeralDigits, some 4⟩ text = .ok (.object sections) := by
    unfold text sections entries
    cbv
  have read : (Store.standard path).readDocument stack disk = .ok (.object sections) := by
    have within : fileLimits stack = ⟨some maxNumeralDigits, some 4⟩ := rfl
    rw [readDocument_text (by decide) kept held, within, parsed]
    rfl
  have present : disk.has (Store.standard path).path = true := rfl
  -- The entries are merged one by one, so the second name of the guild has the last word.
  have merged : loaded = _ := load_eq present read
  rw [merged]
  refine ⟨rfl, rfl, ?_⟩
  -- The numbers differ, whatever else the two configurations have.
  intro equal
  have numbers := congrArg (Option.map GuildConfig.single) equal
  exact absurd (Json.whole.inj (Option.some.inj numbers)) (by decide)

end Store

end DiceChat
