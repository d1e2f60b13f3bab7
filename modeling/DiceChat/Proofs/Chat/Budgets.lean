import DiceChat.Proofs.Chat.Run
import DiceChat.Proofs.Config.Saving

/-! Budgets over a run: the guilds of the store are a map that accepted updates change, and the file follows. -/

namespace DiceChat

/-- New budgets of a guild. -/
structure BudgetUpdate where
  /-- The guild. -/
  guild : Int
  /-- The budget of a single attempt. -/
  single : Json
  /-- The budget of each of two attempts. -/
  double : Json

/-- The update that an exchange makes: by a manager, in a guild, with two budgets that are accepted. -/
def Exchange.update? (exchange : Exchange) : Option BudgetUpdate :=
  match exchange.request, exchange.caller.guild with
  | .budget single double, some guild =>
    match exchange.caller.manager, Room.budgetValue single, Room.budgetValue double with
    | true, .ok single, .ok double => some ⟨guild, single, double⟩
    | _, _, _ => none
  | _, _ => none

/-- The configuration that each guild has of its own. -/
abbrev Book := Int → Option GuildConfig

/-- The book of a store. -/
def Store.book (store : Store) : Book :=
  Ordered.find? store.guilds

/-- A book after an update: both budgets of one guild are new, and every other guild keeps its own. -/
def BudgetUpdate.apply (book : Book) (update : BudgetUpdate) : Book := fun guild =>
  if update.guild = guild then some { single := update.single, double := update.double }
  else book guild

/-- A budget is a word, or a whole number that has a numeral. -/
def BudgetArgument.IsWhole : BudgetArgument → Prop
  | .word _ => True
  | .value given => ∃ n : Int, given = .whole n ∧ digitCount n ≤ maxNumeralDigits

/-- Whatever budgets are asked for are words or whole numbers. -/
def Request.HasWholeBudgets : Request → Prop
  | .budget single double => single.IsWhole ∧ double.IsWhole
  | _ => True

/-- A store after an update. -/
def Store.update (store : Store) (update : BudgetUpdate) : Store :=
  store.putGuild update.guild
    { store.guild (some update.guild) with single := update.single, double := update.double }

/-- The budgets of an update are whole numbers with numerals. -/
def BudgetUpdate.IsWhole (update : BudgetUpdate) : Prop :=
  ∃ single double : Int, update.single = .whole single ∧ update.double = .whole double ∧
    digitCount single ≤ maxNumeralDigits ∧ digitCount double ≤ maxNumeralDigits

namespace Store

variable {store : Store}

/-- In a sound store, nothing but its budgets is left of a configuration that an update changes. -/
theorem IsSound.update_eq (sound : store.IsSound) (update : BudgetUpdate) :
    store.update update =
      store.putGuild update.guild { single := update.single, double := update.double } := by
  -- Soundness fixes the two parts of a configuration that are no budgets.
  obtain ⟨listed, shown⟩ := (sound.guild isStandard_keeps (some update.guild)).plain
  simp only [Store.update, listed, shown]

/-- An update with whole budgets leaves a store sound. -/
theorem IsSound.update (sound : store.IsSound) {update : BudgetUpdate} (whole : update.IsWhole) :
    (store.update update).IsSound := by
  -- Whole budgets are numbers, and a guild with numbers is as sound as the others.
  obtain ⟨single, double, one, two, short, short'⟩ := whole
  rw [sound.update_eq, one, two]
  exact sound.putGuild (GuildConfig.keeps_whole short short') update.guild

/-- A sound store can be saved exactly if it is described by a document. -/
theorem IsSound.isSavable_iff {stack : Stack} (sound : store.IsSound) :
    store.IsSavable stack ↔ store.fault? stack = none := by
  refine ⟨fun savable => savable.fault?_eq_none sound, fun described => ?_⟩
  -- The numbers of a sound store have numerals, so only the other three conditions count.
  obtain ⟨program, guilds, numerals⟩ := (Lists.fault?_eq_none_iff sound).mp described
  have writable : ∀ value : Json, value.Keeps → value.Throughout Json.IsWritable :=
    fun value keeps => keeps.imp fun _ legible => legible.2
  refine ⟨program, guilds, forall_values_iff.mpr ⟨?_, ?_⟩, numerals⟩
  · exact fun field member => writable _ (sound.globals.values field member)
  · exact fun entry member field inside =>
      writable _ ((sound.guilds entry member).values field inside)

end Store

/-- An update is made exactly by a manager in its guild, with two arguments that are accepted as its budgets. -/
theorem Exchange.update?_eq_some_iff {exchange : Exchange} {update : BudgetUpdate} :
    exchange.update? = some update ↔
      exchange.caller = ⟨some update.guild, true⟩ ∧
        ∃ single double, exchange.request = .budget single double ∧
          Room.budgetValue single = .ok update.single ∧
          Room.budgetValue double = .ok update.double := by
  -- The update is read off four values, of which any other choice gives none.
  rcases exchange with ⟨⟨guild, manager⟩, request, failures, stack⟩
  constructor
  -- An update was made, so the caller is a manager of a guild and both budgets were accepted.
  · intro accepted
    simp only [update?] at accepted
    split at accepted
    · split at accepted
      · rename_i one two first second
        obtain rfl := Option.some.inj accepted
        exact ⟨rfl, _, _, rfl, first, second⟩
      · cases accepted
    · cases accepted
  · rintro ⟨caller, single, double, rfl, first, second⟩
    obtain ⟨rfl, rfl⟩ := Caller.mk.inj caller
    simp [update?, first, second]

namespace Room

/-- Whatever becomes of the messages, the room is the one of the turn. -/
theorem serve_fst (room : Room) (exchange : Exchange) :
    (room.serve exchange).1 = (room.turn exchange).room := by
  -- The deliveries are made from the turn, which is over by then.
  simp only [serve]
  split <;> rfl

/-- Dice and help leave the store and the disk alone, and so do budgets that are not accepted. -/
theorem next_of_update?_eq_none {exchange : Exchange} (rejected : exchange.update? = none)
    (room : Room) :
    (room.next exchange).store = room.store ∧ (room.next exchange).disk = room.disk := by
  rcases exchange with ⟨⟨guild, manager⟩, request, failures, stack⟩
  rw [next, serve_fst]
  -- Only a request for budgets can change the store, and only if nothing is refused.
  cases request with
  | dice command expression =>
    simp only [turn, rollTurn]
    cases command.wish expression <;> exact ⟨rfl, rfl⟩
  | help => exact ⟨rfl, rfl⟩
  | budget single double =>
    simp only [turn, budgetTurn]
    cases manager with
    | false => exact ⟨rfl, rfl⟩
    | true =>
      -- Both budgets are read before the guild is asked for.
      cases first : budgetValue single with
      | error error => simp
      | ok one =>
        cases second : budgetValue double with
        | error error => simp
        | ok two =>
          cases guild with
          | none => simp
          | some guild => simp [Exchange.update?, first, second] at rejected

/-- Setting budgets changes the store and saves it, whatever becomes of saving. -/
theorem setBudget_room (room : Room) (stack : Stack) (guild : Int) (single double : Json) :
    (room.setBudget stack guild single double).room =
      { room with
        store := room.store.update ⟨guild, single, double⟩
        disk := ((room.store.update ⟨guild, single, double⟩).save stack room.disk).1 } := by
  -- Saving may fail, but the room is the same in both cases.
  rcases saved : (room.store.update ⟨guild, single, double⟩).save stack room.disk with
    ⟨disk, _ | error⟩
  all_goals
    rw [Store.update] at saved
    simp only [setBudget, Store.setGuild, saved]
    rfl

/-- An accepted update changes the store and saves it. -/
theorem next_of_update? {exchange : Exchange} {update : BudgetUpdate}
    (accepted : exchange.update? = some update) (room : Room) :
    (room.next exchange).store = room.store.update update ∧
      (room.next exchange).disk =
        ((room.store.update update).save exchange.stack room.disk).1 := by
  -- The conditions of an update are the ones that the turn checks on its way.
  obtain ⟨caller, single, double, request, first, second⟩ :=
    Exchange.update?_eq_some_iff.mp accepted
  rw [next, serve_fst, turn, request, caller]
  simp [budgetTurn, first, second, setBudget_room]

/-- An accepted budget is a whole number that has a numeral, if the argument was one. -/
theorem budgetValue_whole {argument : BudgetArgument} {value : Json} (whole : argument.IsWhole)
    (accepted : budgetValue argument = .ok value) :
    ∃ n : Int, value = .whole n ∧ digitCount n ≤ maxNumeralDigits := by
  cases argument with
  | value given =>
    -- A given value is whole by assumption, a word is read as a number within a range.
    obtain rfl := Except.ok.inj accepted
    exact whole
  | word text =>
    -- The range ends at four digits, far below the limit on numerals.
    simp only [budgetValue] at accepted
    split at accepted
    · cases accepted
    · rename_i n _
      split at accepted
      · rename_i range
        refine ⟨n, (Except.ok.inj accepted).symm, ?_⟩
        have short : (writeNat n.natAbs).length ≤ 4 := by
          rw [length_writeNat_le_iff (by decide)]
          have most : n ≤ 4000 := range.2
          omega
        exact Nat.le_trans short (by decide)
      · cases accepted

/-- An update that is accepted has whole budgets, if the arguments were whole. -/
theorem isWhole_of_update? {exchange : Exchange} {update : BudgetUpdate}
    (whole : exchange.request.HasWholeBudgets) (accepted : exchange.update? = some update) :
    update.IsWhole := by
  -- Both values passed conversion, and what passes is a number with few digits.
  obtain ⟨-, single, double, request, first, second⟩ := Exchange.update?_eq_some_iff.mp accepted
  rw [request] at whole
  obtain ⟨one, equal, short⟩ := budgetValue_whole whole.1 first
  obtain ⟨two, equal', short'⟩ := budgetValue_whole whole.2 second
  exact ⟨one, two, equal, equal', short, short'⟩

/-- The store of a room is sound, and its path leads to a file. -/
structure IsSound (slot : Text) (room : Room) : Prop where
  /-- The store is sound. -/
  store : room.store.IsSound
  /-- The path leads to the file. -/
  kept : room.disk.Keeps room.store.path slot

/-- The configuration file describes the store in full: who opens it gets the store, on any stack that suffices for reading it. -/
def IsSaved (room : Room) : Prop :=
  ∀ stack : Stack, room.store.document.depth ≤ stack.depth →
    Store.openAt stack room.store.path room.disk = (room.disk, .ok room.store)

variable {room : Room} {exchange : Exchange} {exchanges : List Exchange} {slot : Text}

/-- What an exchange may change of a room: neither the configuration of the program nor the path of the file. -/
def HasSamePlace (before after : Room) : Prop :=
  after.store.globals = before.store.globals ∧ after.store.path = before.store.path

/-- An exchange leaves a room sound, and its configuration file and that of the program as they are. -/
theorem IsSound.next (sound : room.IsSound slot) (whole : exchange.request.HasWholeBudgets) :
    (room.next exchange).IsSound slot ∧ room.HasSamePlace (room.next exchange) := by
  -- Either nothing changes, or one guild gets whole budgets.
  cases change : exchange.update? with
  | none =>
    obtain ⟨store, disk⟩ := next_of_update?_eq_none change room
    -- Without an update store and disk are the ones before.
    refine ⟨⟨?_, ?_⟩, ?_⟩
    · rw [store]
      exact sound.store
    · rw [store, disk]
      exact sound.kept
    · rw [HasSamePlace, store]
      exact ⟨rfl, rfl⟩
  | some update =>
    obtain ⟨store, disk⟩ := next_of_update? change room
    refine ⟨⟨?_, ?_⟩, ?_⟩
    -- With one the store takes the update, and a save does not touch where the path leads.
    · rw [store]
      exact sound.store.update (isWhole_of_update? whole change)
    · rw [store, disk]
      exact sound.kept.of_system (Store.system_save _ _ _)
    · rw [HasSamePlace, store]
      exact ⟨rfl, rfl⟩

/-- Exchanges leave a room sound, and its configuration file and that of the program as they are. -/
theorem IsSound.after (sound : room.IsSound slot)
    (whole : ∀ exchange ∈ exchanges, exchange.request.HasWholeBudgets) :
    (room.after exchanges).IsSound slot ∧ room.HasSamePlace (room.after exchanges) := by
  -- What one exchange keeps is kept by all of them.
  refine after_induction (fun reached => reached.IsSound slot ∧ room.HasSamePlace reached)
    ⟨sound, rfl, rfl⟩ ?_
  intro reached exchange member ⟨reached_sound, globals, path⟩
  obtain ⟨next_sound, next_globals, next_path⟩ := reached_sound.next (whole exchange member)
  exact ⟨next_sound, next_globals.trans globals, next_path.trans path⟩

/-- An accepted update is saved if the store can be saved, and else the disk stays as it is. -/
theorem IsSound.next_of_update? (sound : room.IsSound slot) {update : BudgetUpdate}
    (whole : exchange.request.HasWholeBudgets) (accepted : exchange.update? = some update) :
    ((room.next exchange).store.IsSavable exchange.stack → (room.next exchange).IsSaved) ∧
      (¬(room.next exchange).store.IsSavable exchange.stack →
        (room.next exchange).disk = room.disk) := by
  obtain ⟨store, disk⟩ := Room.next_of_update? accepted room
  obtain ⟨⟨store_sound, kept⟩, -, path⟩ := sound.next whole
  have before : room.disk.Keeps (room.next exchange).store.path slot := path ▸ sound.kept
  rw [← store] at disk
  -- A fault is noticed before the file is opened, and without one the document is written.
  constructor
  · intro savable stack deep
    have described := store_sound.isSavable_iff.mp savable
    rw [store_sound.save_eq described before] at disk
    refine store_sound.openAt_document described deep kept ?_
    rw [disk]
    simp
  · intro unsavable
    rw [store_sound.isSavable_iff] at unsavable
    obtain ⟨error, fault⟩ := Option.ne_none_iff_exists'.mp unsavable
    rw [disk, Store.save_of_fault? fault]

end Room

end DiceChat
