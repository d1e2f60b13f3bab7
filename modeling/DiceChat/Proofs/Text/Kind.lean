import DiceChat.Text.Template.Holdings
import Mathlib

/-! Kinds as a whole: no kind hides another one in the catalogue, and what lies above a kind lies above all kinds below it. -/

namespace DiceChat

/-- No two kinds of the catalogue have one title. -/
theorem nodup_titles : (catalogue.map KindEntry.title).Nodup := by
  -- The titles are compared one by one; nothing about them is left to prove.
  decide +kernel

/-- Every kind of the catalogue tells all measures. -/
theorem length_measures_of_mem :
    ∀ entry ∈ catalogue, entry.measures.length = Kind.measureNames.length := by
  decide +kernel

/-- What is known of a kind fits in with what is known of the kinds above it. -/
structure KindEntry.IsPlaced (entry : KindEntry) : Prop where
  /-- What lies above a kind above it lies above it, too. -/
  closed : ∀ title ∈ entry.above, ∀ other ∈ (Kind.listed title).page.above, other ∈ entry.above
  /-- The kinds directly above it are some of those above it. -/
  direct : ∀ title ∈ entry.bases, title ∈ entry.above

/-- Every kind of the catalogue fits in. -/
theorem isPlaced_of_mem {entry : KindEntry} (member : entry ∈ catalogue) : entry.IsPlaced where
  closed := by
    revert entry
    decide +kernel
  direct := by
    revert entry
    decide +kernel

/-- All things lie above every kind of the catalogue, but for the kind of all things. -/
theorem object_mem_above_of_mem :
    ∀ entry ∈ catalogue, entry.title = "object" ∨ "object" ∈ entry.above := by
  decide +kernel

namespace Kind

variable {kind upper : Kind}

/-- What is known of a kind stands in the catalogue, or it is worked out from the title or from the fixed list. -/
theorem page_cases (kind : Kind) :
    kind.page ∈ catalogue ∨ (∃ title, kind.page = plainPage title) ∨
      ∃ family : Family, kind.page = family.page := by
  -- The catalogue is asked first, under the title of the kind.
  cases kind with
  | listed title =>
    rw [page]
    cases found : catalogue.find? fun entry => entry.title = title with
    | none => exact .inr (.inl ⟨title, rfl⟩)
    | some entry => exact .inl (List.mem_of_find?_eq_some found)
  | memberOf family =>
    rw [page]
    cases found : catalogue.find? fun entry => entry.title = family.page.title with
    | none => exact .inr (.inr ⟨family, rfl⟩)
    | some entry => exact .inl (List.mem_of_find?_eq_some found)

/-- Every kind of the catalogue is known as what stands there, so none hides another one. -/
theorem page_listed {entry : KindEntry} (member : entry ∈ catalogue) :
    (listed entry.title).page = entry := by
  rw [page]
  cases found : catalogue.find? fun other => other.title = entry.title with
  | none =>
    have absent := List.find?_eq_none.mp found entry member
    exact absurd (decide_eq_true rfl) absent
  | some other =>
    -- The one that is found has the title, and only one has it.
    have titled : other.title = entry.title := by simpa using List.find?_some found
    exact List.inj_on_of_nodup_map nodup_titles (List.mem_of_find?_eq_some found) member titled

/-- Every kind tells all measures. -/
theorem length_measures_page (kind : Kind) :
    kind.page.measures.length = measureNames.length := by
  -- All pages are laid out alike, wherever they come from.
  rcases kind.page_cases with listed | ⟨title, plain⟩ | ⟨family, fixed⟩
  · exact length_measures_of_mem _ listed
  · rw [plain]
    rfl
  · rw [fixed]
    rfl

/-- A name stands for a measure of a kind exactly if it is the name of a measure, whichever kind it is. -/
theorem isSome_measure?_iff (kind : Kind) (name : Text) :
    (kind.measure? name).isSome = true ↔ name ∈ measureNames := by
  -- There are as many measures as names, so each name stands before one.
  have names : name ∈ measureNames ↔ name ∈ (measureNames.zip kind.page.measures).map Prod.fst := by
    rw [List.map_fst_zip (Nat.le_of_eq kind.length_measures_page.symm)]
  rw [names, List.mem_map]
  simp only [measure?, List.lookup_isSome_iff, beq_iff_eq]
  exact exists_congr fun pair => and_congr_right fun _ => eq_comm

/-- What is known of any kind fits in with what is known of the kinds above it. -/
theorem isPlaced_page (kind : Kind) : kind.page.IsPlaced := by
  -- Beside the catalogue, only all things and the members of all lists lie above a kind.
  have above_things : (listed "object").page.above = [] := rfl
  have above_members : (listed "enum.Enum").page.above = ["object"] := by decide +kernel
  rcases kind.page_cases with listed | ⟨title, plain⟩ | ⟨family, fixed⟩
  · exact isPlaced_of_mem listed
  · rw [plain]
    refine ⟨fun title member other above => ?_, fun title member => by cases member⟩
    rw [List.mem_singleton.mp member, above_things] at above
    cases above
  · rw [fixed]
    refine ⟨fun title member other above => ?_, fun title member => by cases member⟩
    rcases List.mem_cons.mp member with rfl | rest
    · rw [above_members] at above
      exact List.mem_cons_of_mem _ above
    · rw [List.mem_singleton.mp rest, above_things] at above
      cases above

/-- What lies above a kind above another one lies above the latter. -/
theorem line_subset (above : upper ∈ kind.line) : upper.line ⊆ kind.line := by
  rw [line, List.mem_cons] at above
  rcases above with rfl | above
  · exact List.Subset.refl _
  · obtain ⟨title, member, rfl⟩ := List.mem_map.mp above
    intro other inside
    rw [line, List.mem_cons] at inside
    -- Either it is the kind above itself, or it lies above that one.
    rcases inside with rfl | inside
    · exact List.mem_cons_of_mem _ above
    · obtain ⟨further, listed_above, rfl⟩ := List.mem_map.mp inside
      exact List.mem_cons_of_mem _
        (List.mem_map_of_mem (kind.isPlaced_page.closed title member further listed_above))

/-- The kinds directly above a kind lie above it. -/
theorem bases_subset_line (kind : Kind) : kind.bases ⊆ kind.line := by
  intro base member
  rw [bases] at member
  -- Where no bases are told, the nearest kind in the line is the only one.
  split at member
  · exact List.mem_of_mem_tail (List.mem_of_mem_take member)
  · obtain ⟨title, directly, rfl⟩ := List.mem_map.mp member
    exact List.mem_cons_of_mem _ (List.mem_map_of_mem (kind.isPlaced_page.direct title directly))

/-- Everything is a thing: all kinds that have a title lie below the kind of all things. -/
theorem anything_mem_line (title : String) : anything ∈ (listed title).line := by
  have placed : title = "object" ∨ "object" ∈ (listed title).page.above := by
    -- A title that is not in the catalogue is that of a kind right below all things.
    rw [page]
    cases found : catalogue.find? fun entry => entry.title = title with
    | none => exact .inr List.mem_cons_self
    | some entry =>
      have titled : entry.title = title := by simpa using List.find?_some found
      exact titled ▸ object_mem_above_of_mem entry (List.mem_of_find?_eq_some found)
  rcases placed with rfl | above
  · exact List.mem_cons_self
  · exact List.mem_cons_of_mem _ (List.mem_map_of_mem above)

/-- A kind holds something under a name exactly if a kind in its line does so itself. -/
theorem isSome_find?_iff (kind : Kind) (name : Text) :
    (kind.find? name).isSome = true ↔ ∃ owner ∈ kind.line, (owner.part? name).isSome = true := by
  rw [find?, List.findSome?_isSome_iff]
  simp only [Option.isSome_map]

/-- What a kind holds is held by all kinds below it, by itself or from a kind in between. -/
theorem find?_inherited (above : upper ∈ kind.line) {name : Text}
    (held : (upper.find? name).isSome = true) : (kind.find? name).isSome = true := by
  obtain ⟨owner, inside, part⟩ := (upper.isSome_find?_iff name).mp held
  exact (kind.isSome_find?_iff name).mpr ⟨owner, line_subset above inside, part⟩

end Kind

end DiceChat
