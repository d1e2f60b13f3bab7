import DiceChat.Proofs.Text.Kind
import DiceChat.Text.Template

/-! Collections as a whole: no name in a collection of the program hides another one, and neither does a recipe or a
function that is always at hand. -/

namespace DiceChat

/-- Where no two rows have one title, what a title leads to is exactly what stands in its row. -/
theorem lookup_eq_some_iff_mem {α : Type} {rows : List (String × α)}
    (distinct : (rows.map Prod.fst).Nodup) {title : String} {found : α} :
    rows.lookup title = some found ↔ (title, found) ∈ rows := by
  rw [List.lookup_eq_some_iff]
  constructor
  · rintro ⟨before, after, split, -⟩
    rw [split]
    exact List.mem_append_right _ List.mem_cons_self
  · intro member
    obtain ⟨before, after, split⟩ := List.append_of_mem member
    refine ⟨before, after, split, fun other earlier => ?_⟩
    -- An earlier row with the title would be a second one.
    rw [split, List.map_append, List.map_cons] at distinct
    have apart := (List.nodup_append.mp distinct).2.2 other.1 (List.mem_map_of_mem earlier) title
      List.mem_cons_self
    exact bne_iff_ne.mpr fun same => apart same.symm

/-- No two recipes are for one function. -/
theorem nodup_recipes : (recipes.map Prod.fst).Nodup := by
  -- The titles are compared one by one, as those of kinds are.
  decide +kernel

/-- A function has a recipe exactly if the recipe stands under its title. -/
theorem recipe?_eq_some_iff (owner : Kind) (name : Text) (recipe : Recipe) :
    recipe? owner name = some recipe ↔
      (String.ofList (owner.title ++ '.' :: name), recipe) ∈ recipes :=
  lookup_eq_some_iff_mem nodup_recipes

/-- No two functions that are always at hand have one name. -/
theorem nodup_builtInFunctions : (builtInFunctions.map Part.name).Nodup := by
  decide +kernel

/-- No two collections of the program have one name. -/
theorem nodup_programCollections : (programCollections.map Prod.fst).Nodup := by
  decide +kernel

/-- No two things in a collection of the program have one name. -/
theorem nodup_names_of_mem : ∀ row ∈ programCollections, (row.2.map Prod.fst).Nodup := by
  decide +kernel

/-- Under a name, a collection of the program knows exactly what stands there. -/
theorem find?_namespaceOf_iff {collection : String} {entries : List (Text × Subject)}
    (member : (collection, entries) ∈ programCollections) (name : Text) (thing : Subject) :
    Ordered.find? (namespaceOf collection.toList) name = some thing ↔ (name, thing) ∈ entries := by
  -- The program's own collections are asked before those of the system.
  have found : (programCollections ++ knownCollections).lookup collection = some entries := by
    rw [List.lookup_append, (lookup_eq_some_iff_mem nodup_programCollections).mpr member]
    rfl
  rw [namespaceOf, String.ofList_toList, found]
  exact Ordered.find?_eq_some_iff (nodup_names_of_mem _ member)

end DiceChat
