import DiceChat.Proofs.Config.Values
import DiceChat.Proofs.Disk
import DiceChat.Proofs.Json.Draft
import DiceChat.Proofs.Json.Reader
import DiceChat.Proofs.Json.RoundTrip

/-! A sound store that is saved is the store that is opened from the file afterwards. -/

namespace DiceChat

/-- A value keeps everything when it is saved and loaded. -/
abbrev Json.Keeps (value : Json) : Prop :=
  value.Throughout (IsLegible (some maxNumeralDigits))

/-- A whole number with a numeral can be kept. -/
theorem Json.keeps_whole {value : Int} (short : digitCount value ≤ maxNumeralDigits) :
    (Json.whole value).Keeps := by
  -- A whole number is exact and has no names, so only its digits count.
  refine .whole ⟨⟨trivial, trivial⟩, ?_⟩
  rintro _ ⟨⟩
  exact short

/-- All configurations of a store list values that can be kept, and no guild has two of them. -/
abbrev Store.IsSound (store : Store) : Prop :=
  store.Lists Json.Keeps

/-- The names of the listed values of the program are whole and distinct. -/
theorem GlobalConfig.isSound_object_fields (config : GlobalConfig) :
    (Json.object config.fields).IsSound := by
  -- Each way of listing is a fixed list of names.
  rcases config with ⟨commandPrefix, sync, file, level, _ | _ | _⟩ <;>
    simp [fields, Listing.select, Json.IsSound, Json.IsExact, Json.HasDistinctNames]

/-- The names of the listed values of a guild are whole and distinct. -/
theorem GuildConfig.isSound_object_fields (config : GuildConfig) :
    (Json.object config.fields).IsSound := by
  rcases config with ⟨single, double, _ | _ | _, hasDisplay⟩ <;>
    simp [fields, Listing.select, Json.IsSound, Json.IsExact, Json.HasDistinctNames]

/-- Whole budgets with numerals can be kept. -/
theorem GuildConfig.keeps_whole {single double : Int} (short : digitCount single ≤ maxNumeralDigits)
    (short' : digitCount double ≤ maxNumeralDigits) :
    ListsAll Json.Keeps { single := .whole single, double := .whole double : GuildConfig } :=
  listsAll_of_budgets (Json.keeps_whole short) (Json.keeps_whole short')

namespace Store

variable {stack : Stack}

/-- The values of a configuration can be saved if they are listed and the stack suffices for each. -/
theorem fieldsFault?_eq_none_iff {owner : Owner} {listing : Listing}
    {fields : List (JsonText × Json)} :
    fieldsFault? stack owner listing fields = none ↔
      listing ≠ .broken ∧ ∀ field ∈ fields, stack.lists owner field.2 = true := by
  -- The two conditions are checked one after the other.
  rw [fieldsFault?]
  by_cases broken : listing = .broken
  · simp [broken]
  · simp only [broken, if_false, ite_eq_left_iff, List.all_eq_true, reduceCtorEq, imp_false,
      not_not, ne_eq, not_false_eq_true, true_and]

/-- A guild can be saved if its number has a numeral and its values can be saved. -/
theorem entryFault?_eq_none_iff {entry : Int × GuildConfig} :
    entryFault? stack entry = none ↔
      digitCount entry.1 ≤ maxNumeralDigits ∧
        fieldsFault? stack .guild entry.2.listing entry.2.fields = none := by
  rw [entryFault?, ← numeral?_isSome_iff]
  cases numeral? entry.1 <;> simp

/-- A store can be saved if its configurations can. -/
theorem fault?_eq_none_iff {store : Store} :
    store.fault? stack = none ↔
      fieldsFault? stack .program store.globals.listing store.globals.fields = none ∧
        ∀ entry ∈ store.guilds, entryFault? stack entry = none := by
  rw [fault?, Option.or_eq_none_iff, List.findSome?_eq_none_iff]

/-- What is standard holds no further values, so any stack suffices for saving it. -/
theorem fault?_standard (stack : Stack) (path : Text) : (standard path).fault? stack = none := by
  -- The defaults name nothing that is no text, and each of their values is flat.
  refine fault?_eq_none_iff.mpr ⟨fieldsFault?_eq_none_iff.mpr ⟨?_, ?_⟩, by simp [standard]⟩
  · simp [standard, GlobalConfig.standard]
  · intro field member
    refine stack.lists_flat _ _ ?_
    simp only [standard, GlobalConfig.fields, GlobalConfig.standard, Listing.select, List.mem_cons,
      List.not_mem_nil, or_false] at member
    rcases member with rfl | rfl | rfl | rfl <;> rfl

/-- What is standard can be kept. -/
theorem isStandard_keeps : IsStandard Json.Keeps := by
  refine ⟨⟨rfl, ?_⟩, GuildConfig.keeps_whole (by decide) (by decide)⟩
  -- Four values are listed for the program, each of a sort that can be kept.
  intro field member
  simp only [NamedValues.fields, GlobalConfig.fields, GlobalConfig.standard, Listing.select,
    List.mem_cons, List.not_mem_nil, or_false] at member
  rcases member with rfl | rfl | rfl | rfl
  · exact .string ⟨⟨⟨_, rfl⟩, trivial⟩, trivial⟩
  · exact .bool ⟨⟨trivial, trivial⟩, trivial⟩
  · exact .string ⟨⟨⟨_, rfl⟩, trivial⟩, trivial⟩
  · exact .string ⟨⟨⟨_, rfl⟩, trivial⟩, trivial⟩

/-- Merging a document that can be kept leaves a store sound, even if it ends early. -/
theorem IsSound.merge {store : Store} (sound : store.IsSound) {document : Json}
    (keeps : document.Keeps) : (store.merge document).1.IsSound :=
  Lists.merge sound isStandard_keeps (gives_of_throughout keeps)

/-- The standard store is sound. -/
theorem isSound_standard (path : Text) : (standard path).IsSound :=
  isStandard_keeps.lists path

end Store

end DiceChat
