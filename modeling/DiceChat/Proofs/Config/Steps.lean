import DiceChat.Proofs.Config.Saving

/-! A configuration that is used step by step, and what saving it keeps in every state that is reached. -/

namespace DiceChat

/-- A path, a disk, and the store that is open at the path, if one is. -/
structure ConfigState where
  /-- The path of the configuration file. -/
  path : Text
  /-- The disk. -/
  disk : Disk
  /-- The store, unless none was opened or the last one could not be. -/
  store : Option Store

/-- What is done with a configuration, and what is left of the call stack where a file is read or written. -/
inductive ConfigStep where
  /-- A new store is opened in place of any other. -/
  | openStore (stack : Stack)
  /-- The file is loaded over the store. -/
  | load (stack : Stack)
  /-- A guild gets new budgets, and the store is saved. -/
  | setGuild (stack : Stack) (guild : Int) (single double : Json)
  /-- The configuration of a guild is edited in memory. -/
  | editGuild (guild : Option Int) (edits : List (JsonText × Json))
  /-- The configuration of the program is edited in memory. -/
  | editGlobals (edits : List (JsonText × Json))
  /-- The store is saved. -/
  | save (stack : Stack)

namespace ConfigState

/-- The state after a step; without a store, only opening one does anything. -/
def next (state : ConfigState) (step : ConfigStep) : ConfigState :=
  -- What fails leaves whatever it changed before it failed.
  match step, state.store with
  | .openStore stack, _ =>
    let (disk, opened) := Store.openAt stack state.path state.disk
    { state with disk := disk, store := opened.toOption }
  | _, none => state
  | .load stack, some store =>
    let (store, disk, _) := store.load stack state.disk
    { state with disk := disk, store := some store }
  | .setGuild stack guild single double, some store =>
    let (store, disk, _) :=
      store.setGuild stack state.disk guild { single := single, double := double }
    { state with disk := disk, store := some store }
  | .editGuild guild edits, some store =>
    { state with store := some (store.editGuild guild edits).1 }
  | .editGlobals edits, some store => { state with store := some (store.editGlobals edits).1 }
  | .save stack, some store => { state with disk := (store.save stack state.disk).1 }

/-- The state after several steps. -/
def after (state : ConfigState) (steps : List ConfigStep) : ConfigState :=
  steps.foldl next state

end ConfigState

/-- The values of a step are sound, and its edits hide nothing of a configuration. -/
def ConfigStep.IsSound : ConfigStep → Prop
  | .setGuild _ _ single double => single.Throughout Json.IsSound ∧ double.Throughout Json.IsSound
  | .editGuild _ edits | .editGlobals edits =>
    ∀ edit ∈ edits, IsPlainChange (·.Throughout Json.IsSound) edit
  | .openStore _ | .load _ | .save _ => True

namespace Store

variable {store : Store} {disk : Disk} {path slot : Text}

/-- What is standard is sound. -/
theorem isStandard_sound : IsStandard (·.Throughout Json.IsSound) := by
  -- What can be kept is sound.
  have sound : ∀ value : Json, value.Keeps → value.Throughout Json.IsSound := fun value keeps =>
    keeps.imp fun _ legible => legible.1
  exact ⟨isStandard_keeps.globals.imp sound, isStandard_keeps.guilds.imp sound⟩

/-- A store that belongs to a path lists sound values. -/
structure IsExact (path : Text) (store : Store) : Prop where
  /-- The values are sound. -/
  lists : store.Lists (·.Throughout Json.IsSound)
  /-- The store belongs to the path. -/
  path : store.path = path

/-- The standard store of a path lists sound values. -/
theorem isExact_standard (path : Text) : (standard path).IsExact path :=
  ⟨isStandard_sound.lists path, rfl⟩

/-- What is read from an exact file gives sound values. -/
theorem GivesExact.gives (exact : GivesExact path disk) {stack : Stack} {document : Json}
    (read : (standard path).readDocument stack disk = .ok document) :
    Gives (·.Throughout Json.IsSound) document := by
  -- The names in an object that is read are distinct.
  have limited := gives_of_throughout (isLimited_of_readDocument read)
  exact ((exact stack document read).and limited).imp fun value both =>
    (both.1.and both.2).imp fun _ all => ⟨all.1, all.2.1⟩

/-- Loading keeps a store and the file exact, also when it fails. -/
theorem IsExact.load (exact : store.IsExact path) (kept : disk.Keeps path slot)
    (file : GivesExact path disk) (stack : Stack) :
    (store.load stack disk).1.IsExact path ∧ GivesExact path (store.load stack disk).2.1 := by
  obtain ⟨lists, rfl⟩ := exact
  rw [Store.load]
  split
  · -- Every store of the path reads the same document.
    cases read : store.readDocument stack disk with
    | error error => exact ⟨⟨lists, rfl⟩, file⟩
    | ok document =>
      have merged := lists.merge isStandard_sound (file.gives read)
      exact ⟨⟨merged, path_merge store document⟩, file⟩
  · exact ⟨⟨lists, rfl⟩, lists.givesExact_save kept file⟩

/-- New budgets with sound values keep a store exact. -/
theorem IsExact.putGuild (exact : store.IsExact path) {stack : Stack} (guild : Int)
    {single double : Json} (sound : (ConfigStep.setGuild stack guild single double).IsSound) :
    (store.putGuild guild { single := single, double := double }).IsExact path :=
  ⟨exact.lists.putGuild (GuildConfig.listsAll_of_budgets sound.1 sound.2) guild, exact.path⟩

/-- An edit of a guild does not move a store. -/
theorem path_editGuild (store : Store) (guild : Option Int) (edits : List (JsonText × Json)) :
    (store.editGuild guild edits).1.path = store.path := by
  rw [editGuild]
  simp only
  split <;> rfl

end Store

namespace ConfigState

variable {state : ConfigState} {step : ConfigStep} {steps : List ConfigStep} {slot : Text}

/-- The file of a state is exact, and so is the store, if one is open. -/
structure IsExact (slot : Text) (state : ConfigState) : Prop where
  /-- The path leads to the file. -/
  kept : state.disk.Keeps state.path slot
  /-- The file gives exact values. -/
  file : Store.GivesExact state.path state.disk
  /-- The store lists sound values. -/
  store : ∀ store, state.store = some store → store.IsExact state.path

/-- A state with a store and a file that are exact is exact. -/
theorem isExact_of_store {path : Text} {disk : Disk} {store : Store} (kept : disk.Keeps path slot)
    (file : Store.GivesExact path disk) (exact : store.IsExact path) :
    IsExact slot ⟨path, disk, some store⟩ :=
  ⟨kept, file, fun _ same => Option.some.inj same ▸ exact⟩

/-- Saving an exact store keeps a state exact. -/
theorem IsExact.saved {path : Text} {disk : Disk} {store : Store} {before : Option Store}
    (exact : IsExact slot ⟨path, disk, before⟩) (store_exact : store.IsExact path) (stack : Stack) :
    IsExact slot ⟨path, (store.save stack disk).1, some store⟩ := by
  -- Saving leaves the path leading to its file and gives that file an exact document.
  have kept : disk.Keeps path slot := exact.kept
  have file : Store.GivesExact path disk := exact.file
  obtain ⟨lists, rfl⟩ := store_exact
  exact isExact_of_store (kept.of_system (store.system_save stack disk))
    (lists.givesExact_save kept file) ⟨lists, rfl⟩

/-- Opening a store keeps a state exact. -/
theorem IsExact.openStore (exact : state.IsExact slot) (stack : Stack) :
    (state.next (.openStore stack)).IsExact slot := by
  -- Whatever the file gives is loaded over the standard store.
  obtain ⟨opened, file⟩ := (Store.isExact_standard state.path).load exact.kept exact.file stack
  have kept := exact.kept.of_system ((Store.standard state.path).system_load stack state.disk)
  simp only [ConfigState.next, Store.openAt]
  rcases loaded : (Store.standard state.path).load stack state.disk with ⟨store, disk, _ | error⟩
  · rw [loaded] at opened file kept
    exact isExact_of_store kept file opened
  · rw [loaded] at file kept
    refine ⟨kept, file, ?_⟩
    rintro _ ⟨⟩

/-- A sound step keeps a state exact. -/
theorem IsExact.next (exact : state.IsExact slot) (sound : step.IsSound) :
    (state.next step).IsExact slot := by
  -- Opening needs no store, and every other step does nothing without one.
  obtain ⟨path, disk, _ | store⟩ := state
  · cases step with
    | openStore stack => exact exact.openStore stack
    | _ => exact exact
  have store_exact : store.IsExact path := exact.store store rfl
  have file : Store.GivesExact path disk := exact.file
  have kept : disk.Keeps path slot := exact.kept
  -- With a store, each step keeps it exact, and the file changes only where it saves.
  cases step with
  | openStore stack => exact exact.openStore stack
  | load stack =>
    -- What is loaded is exact, as the file gives exact values.
    obtain ⟨loaded, loaded_file⟩ := store_exact.load kept file stack
    exact isExact_of_store (kept.of_system (store.system_load stack disk)) loaded_file loaded
  | setGuild stack guild single double =>
    -- The guild's new budgets are whole, so the changed store can be saved.
    have changed := store_exact.putGuild guild sound
    exact (isExact_of_store kept file changed).saved changed stack
  | editGuild guild edits =>
    -- An edit changes the store in memory, and leaves the file.
    refine isExact_of_store kept file
      ⟨?_, (Store.path_editGuild store guild edits).trans store_exact.path⟩
    exact store_exact.lists.editGuild Store.isStandard_sound guild sound
  | editGlobals edits =>
    refine isExact_of_store kept file ⟨?_, store_exact.path⟩
    exact store_exact.lists.editGlobals Store.isStandard_sound sound
  | save stack => exact exact.saved store_exact stack

/-- Sound steps keep a state exact. -/
theorem IsExact.after (exact : state.IsExact slot) (sound : ∀ step ∈ steps, step.IsSound) :
    (state.after steps).IsExact slot := by
  -- What one step keeps is kept by all of them.
  induction steps generalizing state with
  | nil => exact exact
  | cons step steps ih =>
    exact ih (exact.next (sound step List.mem_cons_self))
      fun other member => sound other (List.mem_cons_of_mem _ member)

end ConfigState

end DiceChat
