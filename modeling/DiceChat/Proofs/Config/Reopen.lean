import DiceChat.Proofs.Config.Store
import Mathlib

/-! Saving and opening: a sound store is described in full by its document, and found again in its file. -/

namespace DiceChat

namespace Store

variable {store : Store} {disk : Disk} {path slot : Text} {stack : Stack}

/-- The entries of distinct guilds with numerals have distinct names. -/
theorem nodup_names_guildEntry {guilds : Guilds} (distinct : (guilds.map Prod.fst).Nodup)
    (short : ∀ entry ∈ guilds, digitCount entry.1 ≤ maxNumeralDigits) :
    ((guilds.map guildEntry).map Prod.fst).Nodup := by
  -- A numeral that is read back tells which number it was written from.
  have names : (guilds.map guildEntry).map Prod.fst =
      (guilds.map Prod.fst).map fun id => JsonText.whole (writeInt id) := by
    simp [guildEntry, Function.comp_def]
  rw [names]
  refine List.Nodup.map_on ?_ distinct
  intro first first_member second second_member equal
  obtain ⟨one, one_member, rfl⟩ := List.mem_map.mp first_member
  obtain ⟨two, two_member, rfl⟩ := List.mem_map.mp second_member
  have read := readInt_writeInt (short one one_member)
  rw [JsonText.whole.inj equal, readInt_writeInt (short two two_member)] at read
  exact (Except.ok.inj read).symm

/-- What holds throughout all values holds throughout the document, if it holds of plain objects. -/
theorem Lists.throughout_document {p : Json → Prop} (lists : store.Lists (·.Throughout p))
    (plain : ∀ fields, (Json.object fields).IsSound → p (.object fields))
    (savable : store.fault? stack = none) : store.document.Throughout p := by
  obtain ⟨-, entries⟩ := fault?_eq_none_iff.mp savable
  have short : ∀ entry ∈ store.guilds, digitCount entry.1 ≤ maxNumeralDigits := fun entry member =>
    (entryFault?_eq_none_iff.mp (entries entry member)).1
  -- Each part is an object whose fields are listed in the store.
  have globals : (Json.object store.globals.fields).Throughout p :=
    .object (plain _ store.globals.isSound_object_fields) lists.globals.values
  have guilds : (Json.object (store.guilds.map guildEntry)).Throughout p := by
    -- The names of the guilds are numerals, and different ones.
    refine .object (plain _ ⟨?_, nodup_names_guildEntry lists.distinct short⟩) ?_
    · intro field member
      obtain ⟨entry, -, rfl⟩ := List.mem_map.mp member
      exact ⟨writeInt entry.1, rfl⟩
    · intro field member
      obtain ⟨entry, inside, rfl⟩ := List.mem_map.mp member
      exact .object (plain _ entry.2.isSound_object_fields) (lists.guilds entry inside).values
  -- The document has two fields of fixed names.
  refine .object (plain _ ⟨?_, ?_⟩) ?_
  · simp [Json.IsExact]
  · simp [Json.HasDistinctNames]
  · simp [globals, guilds]

/-- The document of a sound store that can be saved keeps everything. -/
theorem IsSound.keeps_document (sound : store.IsSound) (savable : store.fault? stack = none) :
    store.document.Keeps :=
  Lists.throughout_document sound (fun _ names => ⟨names, trivial⟩) savable

/-- A store that cannot be saved leaves the disk as it is. -/
theorem save_of_fault? {error : ConfigError} (fault : store.fault? stack = some error)
    (disk : Disk) : store.save stack disk = (disk, some error) := by
  rw [save, fault]

/-- A sound store that can be saved is saved as its document. -/
theorem IsSound.save_eq (sound : store.IsSound) (savable : store.fault? stack = none)
    (kept : disk.Keeps store.path slot) :
    store.save stack disk = (disk.store slot (.text store.document.write), none) := by
  -- Without a flaw, the draft is the whole document.
  have keeps := sound.keeps_document savable
  have exact : store.document.Throughout Json.IsExact := keeps.imp fun _ legible => legible.1.1
  have clear : store.document.flaw? = none :=
    (Json.flaw?_eq_none_iff exact).mpr (keeps.imp fun _ legible => legible.2)
  have draft : store.document.draft = store.document.write := Json.draftAt_eq exact clear 0
  simp only [save, savable, draft, kept.write_eq, clear, Option.map_none]

/-- Saving does not touch the system. -/
theorem system_save (store : Store) (stack : Stack) (disk : Disk) :
    (store.save stack disk).1.system = disk.system := by
  -- The disk is left alone or written once.
  rw [save]
  split
  · rfl
  · split
    · rfl
    · rename_i written
      exact Disk.system_of_write written

/-- Loading does not touch the system. -/
theorem system_load (store : Store) (stack : Stack) (disk : Disk) :
    (store.load stack disk).2.1.system = disk.system := by
  rw [load]
  -- A load writes only where there is no file yet, and there it saves.
  split
  · split <;> rfl
  · exact store.system_save stack disk

/-- Guilds are merged from the entries that describe them, behind those that are there. -/
theorem merge_guildEntry {before guilds : Guilds}
    (sound : ∀ entry ∈ guilds, ListsAll Json.Keeps entry.2)
    (distinct : (before.map Prod.fst ++ guilds.map Prod.fst).Nodup)
    (short : ∀ entry ∈ guilds, digitCount entry.1 ≤ maxNumeralDigits) :
    before.merge (guilds.map guildEntry) = (before ++ guilds, none) := by
  -- Every entry goes behind those that are there, since its guild is new among them.
  induction guilds generalizing before with
  | nil => simp [Guilds.merge]
  | cons entry guilds ih =>
    obtain ⟨id, config⟩ := entry
    have fresh : id ∉ before.map Prod.fst := fun inside =>
      (List.nodup_append.mp distinct).2.2 _ inside _ List.mem_cons_self rfl
    -- The numeral of the guild is read back as its number.
    have numeral : readInt (JsonText.whole (writeInt id)).plain = .ok id :=
      readInt_writeInt (short _ List.mem_cons_self)
    -- The values of a plain configuration, set on the defaults, give it again.
    have made : GuildConfig.standard.setAll config.fields = config :=
      NamedValues.setAll_fields (sound (id, config) List.mem_cons_self).plain
    have known : ((before ++ [(id, config)]).map Prod.fst ++ guilds.map Prod.fst).Nodup := by
      simpa using distinct
    have others := ih (fun entry member => sound entry (List.mem_cons_of_mem _ member)) known
      (fun entry member => short entry (List.mem_cons_of_mem _ member))
    rw [List.map_cons, guildEntry, Guilds.merge, numeral]
    simp only [made, Ordered.put_of_notMem config fresh, others]
    simp

/-- The configuration of the program is replaced, and then the guilds are merged. -/
theorem merge_eq {fields globals entries : List (JsonText × Json)} (store : Store)
    (globals_found : inner? fields "global".toList = some globals)
    (entries_found : inner? fields "guilds".toList = some entries) :
    store.merge (.object fields) =
      ({ store with
          globals := GlobalConfig.standard.setAll globals
          guilds := (store.guilds.merge entries).1 }, (store.guilds.merge entries).2) := by
  simp only [Store.merge, globals_found, entries_found]

/-- A sound store is merged from its document. -/
theorem IsSound.merge_document (sound : store.IsSound) (savable : store.fault? stack = none) :
    (standard store.path).merge store.document = (store, none) := by
  obtain ⟨-, entries⟩ := fault?_eq_none_iff.mp savable
  have short : ∀ entry ∈ store.guilds, digitCount entry.1 ≤ maxNumeralDigits := fun entry member =>
    (entryFault?_eq_none_iff.mp (entries entry member)).1
  have guilds : Guilds.merge [] (store.guilds.map guildEntry) = (store.guilds, none) :=
    merge_guildEntry sound.guilds (by simpa using sound.distinct) short
  have globals : GlobalConfig.standard.setAll store.globals.fields = store.globals :=
    NamedValues.setAll_fields sound.globals.plain
  -- Both fields are found under their names.
  rw [document, merge_eq (standard store.path) rfl rfl, Store.standard, guilds,
    globals]

/-- A text without carriage returns is read from the file that holds it. -/
theorem readDocument_text {text : Text} (clear : '\r' ∉ text)
    (kept : disk.Keeps store.path slot) (held : disk.file? slot = some (.text text)) :
    store.readDocument stack disk =
      (Json.readWithin (fileLimits stack) text).mapError .unreadable := by
  -- No line end of the text is changed by reading it.
  have same : (Body.text text).read = .ok text :=
    congrArg Except.ok (unifyLineEnds_of_notMem clear)
  have opened := kept.open?_eq held
  simp only [readDocument, opened, same, bind, Except.bind, Except.mapError]

/-- A document that can be kept is read from the file that holds it, unless it is nested too deep. -/
theorem readDocument_eq {document : Json} (keeps : document.Keeps)
    (deep : document.depth ≤ stack.depth) (kept : disk.Keeps store.path slot)
    (held : disk.file? slot = some (.text document.write)) :
    store.readDocument stack disk = .ok document := by
  -- What is kept is exact, so its text has no carriage return and opens as it was written.
  have exact : document.Throughout Json.IsExact := keeps.imp fun _ legible => legible.1.1
  have read : Json.readWithin (fileLimits stack) document.write = .ok document :=
    Json.readWithin_write keeps fun _ limit => Option.some.inj limit ▸ deep
  have clear : '\r' ∉ document.write := Json.notMem_writeAt exact 0
  rw [readDocument_text clear kept held, read]
  rfl

/-- A document that is read has distinct names everywhere, and no number in it is too long. -/
theorem isLimited_of_readDocument {document : Json} (read : store.readDocument stack disk = .ok document) :
    document.Throughout (Json.IsLimited (some maxNumeralDigits)) := by
  -- Behind the file and its text, the text is read within the limits.
  obtain ⟨body, -, decoded⟩ := bind_eq_ok_iff.mp read
  obtain ⟨text, -, parsed⟩ := bind_eq_ok_iff.mp decoded
  exact Json.isLimited_of_readWithin (mapError_eq_ok_iff.mp parsed)

/-- Merging does not move a store. -/
theorem path_merge (store : Store) (document : Json) :
    (store.merge document).1.path = store.path := by
  -- None of the ways in which a merge can end touches the path.
  unfold Store.merge
  split
  · split
    · rfl
    · split <;> rfl
  · rfl

/-- Without a file, the standard store is saved and opened. -/
theorem openAt_of_absent (kept : disk.Keeps path slot) (absent : disk.file? slot = none) :
    openAt stack path disk =
      (disk.store slot (.text (standard path).document.write), .ok (standard path)) := by
  -- What is standard can be saved on any stack.
  have there : disk.has (standard path).path = false := by
    rw [standard, kept.has_eq, absent]
    rfl
  have saved := (isSound_standard path).save_eq (fault?_standard stack path) kept
  simp [openAt, load, there, saved]

/-- With a file, the store is opened whose file is read and merged without an error. -/
theorem openAt_eq_ok_iff {body : Body} {opened : Disk} (kept : disk.Keeps path slot)
    (held : disk.file? slot = some body) :
    openAt stack path disk = (opened, .ok store) ↔
      opened = disk ∧ ∃ document, (standard path).readDocument stack disk = .ok document ∧
        (standard path).merge document = (store, none) := by
  have there : disk.has (standard path).path = true := by
    rw [standard, kept.has_eq, held]
    rfl
  -- Reading may fail, and merging may fail behind it.
  rw [openAt, load, if_pos there]
  cases (standard path).readDocument stack disk with
  | error error => simp
  | ok document =>
    rcases merged : (standard path).merge document with ⟨found, _ | error⟩
    · simp [merged, eq_comm]
    · simp [merged]

/-- A sound store is opened from the file that holds its document, on any stack that suffices for reading it. -/
theorem IsSound.openAt_document (sound : store.IsSound) (savable : store.fault? stack = none)
    {reading : Stack} (deep : store.document.depth ≤ reading.depth)
    (kept : disk.Keeps store.path slot)
    (held : disk.file? slot = some (.text store.document.write)) :
    openAt reading store.path disk = (disk, .ok store) := by
  -- What is read is the document, and the store is merged from it.
  have read : (standard store.path).readDocument reading disk = .ok store.document :=
    readDocument_eq (sound.keeps_document savable) deep kept held
  exact (openAt_eq_ok_iff kept held).mpr
    ⟨rfl, store.document, read, sound.merge_document savable⟩

end Store

end DiceChat
