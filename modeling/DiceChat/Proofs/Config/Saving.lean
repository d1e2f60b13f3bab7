import DiceChat.Proofs.Config.Reopen
import DiceChat.Proofs.Json.Depth
import DiceChat.Proofs.Json.Flawed

/-! Which stores can be saved, what the file gives after saving, and that it opens as the same store. -/

namespace DiceChat

namespace Store

variable {holds : Json → Prop} {store : Store} {disk : Disk} {path slot : Text} {stack : Stack}

/-- A store can be saved: the stack suffices for its values, and no number is too long, of a value or of a guild. -/
structure IsSavable (stack : Stack) (store : Store) : Prop where
  /-- The values of the program can be listed. -/
  program : ∀ field ∈ store.globals.fields, stack.lists .program field.2 = true
  /-- The values of the guilds can be listed. -/
  guilds : ∀ entry ∈ store.guilds, ∀ field ∈ entry.2.fields, stack.lists .guild field.2 = true
  /-- Numbers in values have numerals. -/
  writable : ∀ value ∈ store.values, value.Throughout Json.IsWritable
  /-- Guilds have numerals. -/
  numerals : ∀ entry ∈ store.guilds, digitCount entry.1 ≤ maxNumeralDigits

/-- A store that lists its values is described by a document if the stack suffices and no guild is too long. -/
theorem Lists.fault?_eq_none_iff (lists : store.Lists holds) :
    store.fault? stack = none ↔
      (∀ field ∈ store.globals.fields, stack.lists .program field.2 = true) ∧
        (∀ entry ∈ store.guilds, ∀ field ∈ entry.2.fields, stack.lists .guild field.2 = true) ∧
        ∀ entry ∈ store.guilds, digitCount entry.1 ≤ maxNumeralDigits := by
  -- Since all values are listed as usual, only the stack counts.
  have usual : ∀ {listing : Listing}, listing = .usual → listing ≠ .broken := by
    rintro _ rfl
    simp
  -- No configuration hides its fields, so what is left are the stack and the numerals.
  have globals := usual lists.globals.plain
  have guilds : ∀ entry ∈ store.guilds, entry.2.listing ≠ .broken := fun entry member =>
    usual (lists.guilds entry member).plain.1
  rw [Store.fault?_eq_none_iff, fieldsFault?_eq_none_iff]
  simp only [entryFault?_eq_none_iff, fieldsFault?_eq_none_iff]
  constructor
  · rintro ⟨⟨-, program⟩, entries⟩
    exact ⟨program, fun entry member => (entries entry member).2.2,
      fun entry member => (entries entry member).1⟩
  · rintro ⟨program, each, short⟩
    exact ⟨⟨globals, program⟩, fun entry member =>
      ⟨short entry member, guilds entry member, each entry member⟩⟩

/-- A store that can be saved is described by a document. -/
theorem IsSavable.fault?_eq_none (savable : store.IsSavable stack) (lists : store.Lists holds) :
    store.fault? stack = none :=
  lists.fault?_eq_none_iff.mpr ⟨savable.program, savable.guilds, savable.numerals⟩

/-- The numbers of a document are those of the values of its store. -/
theorem throughout_document_iff :
    store.document.Throughout Json.IsWritable ↔
      ∀ value ∈ store.values, value.Throughout Json.IsWritable := by
  -- Objects around the values hold no further numbers.
  have object : ∀ fields, (Json.object fields).IsWritable := fun _ => trivial
  simp only [document, Json.Throughout.object_iff, List.forall_mem_cons, List.forall_mem_map,
    guildEntry, object, true_and, forall_values_iff, List.not_mem_nil, false_implies,
    implies_true, and_true]

/-- The document of a store whose values are sound has no flaw exactly if their numbers have numerals. -/
theorem Lists.flaw?_eq_none_iff (lists : store.Lists (·.Throughout Json.IsSound))
    (described : store.fault? stack = none) :
    store.document.flaw? = none ↔ ∀ value ∈ store.values, value.Throughout Json.IsWritable := by
  have sound := lists.throughout_document (fun _ names => names) described
  rw [Json.flaw?_eq_none_iff (sound.imp fun _ both => both.1), throughout_document_iff]

/-- A store whose values are sound is sound if it can be saved. -/
theorem IsSavable.isSound (savable : store.IsSavable stack)
    (lists : store.Lists (·.Throughout Json.IsSound)) : store.IsSound := by
  -- What is sound and writable throughout can be kept.
  have both := lists.and savable.writable
  have keeps : ∀ value : Json, value.Throughout Json.IsSound ∧ value.Throughout Json.IsWritable →
      value.Keeps := fun value both => both.1.and both.2
  exact ⟨both.globals.imp keeps,
    fun entry member => (both.guilds entry member).imp keeps, both.distinct⟩

/-- What can be saved is saved as its document. -/
theorem IsSavable.save_eq (savable : store.IsSavable stack)
    (lists : store.Lists (·.Throughout Json.IsSound)) (kept : disk.Keeps store.path slot) :
    store.save stack disk = (disk.store slot (.text store.document.write), none) :=
  (savable.isSound lists).save_eq (savable.fault?_eq_none lists) kept

/-- The configuration file at a path gives exact values, if it gives any on some stack. -/
def GivesExact (path : Text) (disk : Disk) : Prop :=
  ∀ stack document, (standard path).readDocument stack disk = .ok document →
    Gives (·.Throughout Json.IsExact) document

/-- What is read of a file does not depend on the stack, so a file gives exact values if the one document does. -/
theorem givesExact_of_read {text : Text} {document : Json} (clear : '\r' ∉ text)
    (kept : disk.Keeps path slot) (held : disk.file? slot = some (.text text))
    (read : Json.readWithin ⟨some maxNumeralDigits, none⟩ text = .ok document)
    (gives : Gives (·.Throughout Json.IsExact) document) : GivesExact path disk := by
  intro stack other other_read
  have opened : (standard path).readDocument stack disk = _ := readDocument_text clear kept held
  rw [opened, mapError_eq_ok_iff] at other_read
  -- Whatever the stack suffices for, it is read as if there were no end of the stack.
  have same : Json.readWithin ⟨some maxNumeralDigits, none⟩ text = .ok other :=
    Json.readWithin_bottomless other_read
  rw [read] at same
  exact Except.ok.inj same ▸ gives

/-- A store whose values are sound leaves a file that gives exact values, also when saving fails. -/
theorem Lists.givesExact_save (lists : store.Lists (·.Throughout Json.IsSound))
    (kept : disk.Keeps store.path slot) (exact : GivesExact store.path disk) :
    GivesExact store.path (store.save stack disk).1 := by
  rw [save]
  cases fault : store.fault? stack with
  -- A store that cannot be described leaves the file as it is.
  | some error => exact exact
  | none =>
    have sound := lists.throughout_document (fun _ names => names) fault
    have document_exact : store.document.Throughout Json.IsExact := sound.imp fun _ both => both.1
    -- The text may end early, but it has no carriage return.
    have clear : '\r' ∉ store.document.draft := fun member =>
      Json.notMem_writeAt document_exact 0
        ((Json.draftAt_begins document_exact 0).subset member)
    simp only [kept.write_eq]
    -- The file holds the whole document, which gives what the store has, or nothing that can be read.
    by_cases complete : store.document.flaw? = none
    · -- The document is complete, and reading its text gives it back.
      have keeps : store.document.Keeps :=
        sound.and ((Json.flaw?_eq_none_iff document_exact).mp complete)
      have whole : store.document.draft = store.document.write :=
        Json.draftAt_eq document_exact complete 0
      refine givesExact_of_read clear ((Disk.keeps_store ..).mpr kept) (Disk.file?_store_self ..) ?_
        (gives_of_throughout document_exact)
      rw [whole]
      exact Json.readWithin_write keeps (by rintro _ ⟨⟩)
    · -- The document breaks off, and no reader accepts the beginning of it.
      intro reading document read
      let saved := disk.store slot (.text store.document.draft)
      have held : saved.file? slot = some (.text store.document.draft) := Disk.file?_store_self ..
      have opened : (standard store.path).readDocument reading saved = _ :=
        readDocument_text clear kept held
      rw [opened, mapError_eq_ok_iff] at read
      exact absurd (Json.readWithin_bottomless read)
        (Json.readWithin_draft sound (by rintro _ ⟨⟩) complete document)

end Store

end DiceChat
