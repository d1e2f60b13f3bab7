import DiceChat.Proofs.Chat.Budgets

/-! Displays over a run: whole budgets stay whole, so every guild can be shown its dice at any time. -/

namespace DiceChat

/-- A stored value is a budget: a number of characters. -/
def Json.IsBudget (value : Json) : Prop :=
  ∃ count : Nat, Limit.ofJson? value = some (.whole count)

/-- Both budgets of a configuration are numbers of characters. -/
structure GuildConfig.HasBudgets (config : GuildConfig) : Prop where
  /-- The budget of a single attempt. -/
  single : config.single.IsBudget
  /-- The budget of each of two attempts. -/
  double : config.double.IsBudget

/-- An argument that is no word is a budget. -/
def BudgetArgument.IsBudget : BudgetArgument → Prop
  | .word _ => True
  | .value given => given.IsBudget

/-- Budgets that are asked for directly are numbers of characters. -/
def Request.HasBudgets : Request → Prop
  | .budget single double => single.IsBudget ∧ double.IsBudget
  | _ => True

/-- Everybody is shown dice with limits that are numbers of characters. -/
def Store.HasDisplays (store : Store) : Prop :=
  ∀ guild, ∃ single double : Nat, (store.guild guild).display? = some (.ofWhole single double)

/-- A whole number that is not negative is a budget. -/
theorem Json.isBudget_whole {value : Int} (positive : 0 ≤ value) : (Json.whole value).IsBudget :=
  ⟨value.toNat, by rw [Limit.ofJson?, Int.toNat_of_nonneg positive]⟩

namespace GuildConfig

variable {config : GuildConfig}

/-- A configuration of budgets has a display unless it was hidden. -/
theorem HasBudgets.display? (budgets : config.HasBudgets) (shown : config.hasDisplay = true) :
    ∃ single double : Nat, config.display? = some (.ofWhole single double) := by
  -- A display is made of both budgets, if it is not hidden.
  obtain ⟨⟨single, one⟩, ⟨double, two⟩⟩ := budgets
  exact ⟨single, double, by rw [GuildConfig.display?, shown, one, two]; rfl⟩

/-- The standard configuration has budgets. -/
theorem hasBudgets_standard : standard.HasBudgets :=
  ⟨Json.isBudget_whole (by decide), Json.isBudget_whole (by decide)⟩

/-- A configuration with a display is not hidden. -/
theorem hasDisplay_of_display? {display : Display} (found : config.display? = some display) :
    config.hasDisplay = true := by
  -- The first of the three conditions of a display is that it is not hidden.
  rw [GuildConfig.display?] at found
  split at found
  · assumption
  · cases found

/-- Named values never hide a display. -/
theorem hasDisplay_setAll (config : GuildConfig) (fields : List (JsonText × Json)) :
    (config.setAll fields).hasDisplay = config.hasDisplay := by
  -- Setting one value touches a budget at most.
  induction fields generalizing config with
  | nil => rfl
  | cons field fields ih =>
    have first : (config.set field.1 field.2).hasDisplay = config.hasDisplay := by
      rw [GuildConfig.set]
      repeat' split
      all_goals rfl
    exact (ih (config.set field.1 field.2)).trans first

end GuildConfig

namespace Store

variable {store : Store} {disk opened : Disk} {stack : Stack} {path : Text}

/-- What all configurations have that are read for guilds, those of an opened store have. -/
theorem forall_guilds_of_openAt (holds : GuildConfig → Prop)
    (success : openAt stack path disk = (opened, .ok store))
    (read : ∀ fields, holds (GuildConfig.standard.setAll fields)) :
    ∀ entry ∈ store.guilds, holds entry.2 := by
  -- A new store knows no guild, so all that it has was read from the file.
  have none_known : ∀ entry ∈ (standard path).guilds, holds entry.2 := by simp [standard]
  have merged : ∀ document : Json, ∀ entry ∈ ((standard path).merge document).1.guilds,
      holds entry.2 := by
    -- Only an object with an object of guilds adds entries.
    intro document
    cases document with
    | object fields =>
      rw [Store.merge]
      split
      · exact none_known
      · split
        · exact none_known
        · exact forall_merge_guilds none_known fun _ fields _ => read fields
    | _ => exact none_known
  -- Where the file is missing or unreadable the store stays new.
  have loaded : ∀ entry ∈ ((standard path).load stack disk).1.guilds, holds entry.2 := by
    rw [load]
    split
    · cases (standard path).readDocument stack disk with
      | error error => exact none_known
      | ok document => exact merged document
    · exact none_known
  -- The store that is opened is the one that was loaded.
  rw [openAt] at success
  split at success
  · rename_i found
    obtain rfl := Except.ok.inj (Prod.mk.inj success).2
    rw [found] at loaded
    exact loaded
  · cases (Prod.mk.inj success).2

/-- A store with displays for its guilds has displays for everybody. -/
theorem hasDisplays_of_guilds (shown : ∀ entry ∈ store.guilds, entry.2.hasDisplay = true)
    (budgets : ∀ entry ∈ store.guilds, entry.2.HasBudgets) : store.HasDisplays := by
  -- Whoever has no own configuration has the standard one.
  have standard_display := GuildConfig.hasBudgets_standard.display? rfl
  intro guild
  cases guild with
  | none => exact standard_display
  | some id =>
    rw [Store.guild]
    cases found : Ordered.find? store.guilds id with
    | none => exact standard_display
    | some config =>
      have known := Ordered.mem_of_find? found
      exact (budgets _ known).display? (shown _ known)

/-- New budgets of a guild leave a display to everybody. -/
theorem HasDisplays.update (displays : store.HasDisplays) {update : BudgetUpdate}
    (single : update.single.IsBudget) (double : update.double.IsBudget) :
    (store.update update).HasDisplays := by
  -- The configuration that is changed had a display, so it is not hidden.
  obtain ⟨_, _, before⟩ := displays (some update.guild)
  have shown := GuildConfig.hasDisplay_of_display? before
  have budgets : GuildConfig.HasBudgets
      { store.guild (some update.guild) with single := update.single, double := update.double } :=
    ⟨single, double⟩
  intro guild
  cases guild with
  | none => exact displays none
  | some id =>
    -- The guild's own budgets are the new ones; other guilds keep theirs.
    rw [Store.update, Store.guild, putGuild, Ordered.find?_put]
    split
    · exact budgets.display? shown
    · exact displays (some id)

/-- A store that was opened has displays for everybody if the budgets in it are whole. -/
theorem hasDisplays_of_openAt (success : openAt stack path disk = (opened, .ok store))
    (budgets : ∀ entry ∈ store.guilds, entry.2.HasBudgets) : store.HasDisplays := by
  -- A file has no name for hiding a display.
  have shown := forall_guilds_of_openAt (fun config => config.hasDisplay = true) success
    fun fields => GuildConfig.hasDisplay_setAll GuildConfig.standard fields
  exact hasDisplays_of_guilds shown budgets

end Store

namespace Room

variable {room : Room} {exchange : Exchange} {exchanges : List Exchange}

/-- An accepted word sets a budget within range, and any other argument is a budget itself. -/
theorem isBudget_of_budgetValue {argument : BudgetArgument} {value : Json}
    (budget : argument.IsBudget) (accepted : budgetValue argument = .ok value) :
    value.IsBudget := by
  -- A word has to be at least one; anything else is taken as it is.
  cases argument with
  | value given =>
    obtain rfl := Except.ok.inj accepted
    exact budget
  | word text =>
    rw [budgetValue] at accepted
    split at accepted
    · cases accepted
    · split at accepted
      · rename_i within
        obtain rfl := Except.ok.inj accepted
        exact Json.isBudget_whole (by omega)
      · cases accepted

/-- An accepted update sets budgets. -/
theorem isBudget_of_update? {update : BudgetUpdate} (budgets : exchange.request.HasBudgets)
    (accepted : exchange.update? = some update) :
    update.single.IsBudget ∧ update.double.IsBudget := by
  -- An update takes its budgets from the two arguments.
  obtain ⟨-, single, double, request, first, second⟩ := Exchange.update?_eq_some_iff.mp accepted
  rw [request] at budgets
  exact ⟨isBudget_of_budgetValue budgets.1 first, isBudget_of_budgetValue budgets.2 second⟩

/-- An exchange leaves a display to everybody if budgets are all that it may set. -/
theorem hasDisplays_next (displays : room.store.HasDisplays)
    (budgets : exchange.update? ≠ none → exchange.request.HasBudgets) :
    (room.next exchange).store.HasDisplays := by
  -- Either the store stays, or one guild gets new budgets.
  cases change : exchange.update? with
  | none =>
    rw [(next_of_update?_eq_none change room).1]
    exact displays
  | some update =>
    obtain ⟨single, double⟩ := isBudget_of_update? (budgets (by simp [change])) change
    rw [(next_of_update? change room).1]
    exact displays.update single double

/-- Exchanges leave a display to everybody if budgets are all that they may set. -/
theorem hasDisplays_after (displays : room.store.HasDisplays)
    (budgets : ∀ exchange ∈ exchanges, exchange.update? ≠ none → exchange.request.HasBudgets) :
    (room.after exchanges).store.HasDisplays :=
  after_induction (fun reached => reached.store.HasDisplays) displays
    fun _ exchange member reached => hasDisplays_next reached (budgets exchange member)

end Room

end DiceChat
