import DiceChat.Text.Blank
import Mathlib

/-! Skipping and trimming take blanks off the ends of a text and nothing else. -/

namespace DiceChat

/-- Every character of a text is blank. -/
def AllBlank (text : Text) : Prop :=
  ∀ c ∈ text, isBlank c = true

/-- A text does not start or end with a blank. -/
structure IsTrimmed (text : Text) : Prop where
  /-- The first character is visible. -/
  start : ∀ c ∈ text.head?, isBlank c = false
  /-- The last character is visible. -/
  ending : ∀ c ∈ text.getLast?, isBlank c = false

/-- The first character of a text that is not blank. -/
def firstVisible (text : Text) : Option Char :=
  text.find? fun c => !isBlank c

/-- A text without characters has only blank ones. -/
@[simp] theorem allBlank_nil : AllBlank [] := by
  simp [AllBlank]

/-- Two texts of blanks make one. -/
theorem AllBlank.append {before after : Text} (left : AllBlank before) (right : AllBlank after) :
    AllBlank (before ++ after) := by
  -- Every character stands in one of the two parts.
  intro c member
  rcases List.mem_append.mp member with member | member
  · exact left c member
  · exact right c member

/-- Blanks stay blank in any order. -/
theorem AllBlank.reverse {text : Text} (blank : AllBlank text) : AllBlank text.reverse :=
  fun c member => blank c (List.mem_reverse.mp member)

/-- Blanks at the start are skipped. -/
theorem skipBlanks_append {blanks : Text} (blank : AllBlank blanks) (rest : Text) :
    skipBlanks (blanks ++ rest) = skipBlanks rest :=
  List.dropWhile_append_of_pos blank

/-- A visible character stops the skipping. -/
theorem skipBlanks_cons {c : Char} (visible : isBlank c = false) (rest : Text) :
    skipBlanks (c :: rest) = c :: rest :=
  List.dropWhile_cons_of_neg (by simp [visible])

/-- Only blanks are skipped. -/
theorem exists_blanks (text : Text) : ∃ blanks, AllBlank blanks ∧ text = blanks ++ skipBlanks text :=
  -- What is skipped is the longest start of blanks.
  ⟨text.takeWhile isBlank, fun _ member => List.mem_takeWhile_imp member,
    List.takeWhile_append_dropWhile.symm⟩

/-- What is left after skipping starts with the first visible character. -/
theorem head?_skipBlanks (text : Text) : (skipBlanks text).head? = firstVisible text :=
  (List.find?_not_eq_head?_dropWhile isBlank text).symm

/-- The first visible character is not blank. -/
theorem isBlank_of_firstVisible {text : Text} {c : Char} (first : firstVisible text = some c) :
    isBlank c = false := by
  simpa using List.find?_some first

/-- A text consists of blanks exactly when nothing of it is visible. -/
theorem firstVisible_eq_none_iff {text : Text} : firstVisible text = none ↔ AllBlank text := by
  simp [firstVisible, AllBlank]

/-- Skipping ends in blanks, a visible character, and the text behind it, unless all is blank. -/
theorem skipBlanks_eq_cons_iff {text rest : Text} {c : Char} :
    skipBlanks text = c :: rest ↔
      ∃ blanks, AllBlank blanks ∧ isBlank c = false ∧ text = blanks ++ c :: rest := by
  -- What is skipped are blanks, and the first character that stays is visible.
  constructor
  · intro skipped
    obtain ⟨blanks, blank, split⟩ := exists_blanks text
    have first : firstVisible text = some c := by rw [← head?_skipBlanks, skipped]; rfl
    exact ⟨blanks, blank, isBlank_of_firstVisible first, by rw [← skipped]; exact split⟩
  · rintro ⟨blanks, blank, visible, rfl⟩
    rw [skipBlanks_append blank, skipBlanks_cons visible]

/-- Only blanks stand before the first visible character. -/
theorem exists_of_firstVisible {text : Text} {c : Char} (first : firstVisible text = some c) :
    ∃ blanks rest, AllBlank blanks ∧ text = blanks ++ c :: rest := by
  -- What is left after skipping starts with the character.
  rw [← head?_skipBlanks, List.head?_eq_some_iff] at first
  obtain ⟨rest, skipped⟩ := first
  obtain ⟨blanks, blank, -, split⟩ := skipBlanks_eq_cons_iff.mp skipped
  exact ⟨blanks, rest, blank, split⟩

/-- Skipping leaves nothing exactly when all is blank. -/
theorem skipBlanks_eq_nil_iff {text : Text} : skipBlanks text = [] ↔ AllBlank text := by
  rw [← firstVisible_eq_none_iff, ← head?_skipBlanks, List.head?_eq_none_iff]

/-- A trimmed text between blanks is what trimming leaves. -/
theorem trim_append {before middle after : Text} (left : AllBlank before) (right : AllBlank after)
    (trimmed : IsTrimmed middle) : trim (before ++ middle ++ after) = middle := by
  -- Without a visible character in the middle, everything is blank.
  cases middle with
  | nil =>
    have all : AllBlank (before ++ [] ++ after) := by simpa using left.append right
    rw [trim, skipBlanks_eq_nil_iff.mpr all]
    rfl
  | cons c tail =>
    have visible : isBlank c = false := trimmed.start c (by simp)
    have front : skipBlanks (before ++ (c :: tail) ++ after) = c :: tail ++ after := by
      rw [List.append_assoc, skipBlanks_append left, List.cons_append, skipBlanks_cons visible]
    -- Seen from the end, the last visible character stops the skipping.
    have back : skipBlanks (c :: tail).reverse = (c :: tail).reverse := by
      cases turned : (c :: tail).reverse with
      | nil => rfl
      | cons last others =>
        refine skipBlanks_cons (trimmed.ending last ?_) others
        rw [Option.mem_def, List.getLast?_eq_head?_reverse, turned]
        rfl
    rw [trim, front, List.reverse_append, skipBlanks_append right.reverse, back,
      List.reverse_reverse]

/-- A trimmed text is left as it is. -/
theorem IsTrimmed.trim_eq {text : Text} (trimmed : IsTrimmed text) : trim text = text := by
  simpa using trim_append allBlank_nil allBlank_nil trimmed

/-- Trimming takes blanks off both ends, and what it leaves is trimmed. -/
theorem exists_trim (text : Text) :
    ∃ before after, AllBlank before ∧ AllBlank after ∧ text = before ++ trim text ++ after ∧
      IsTrimmed (trim text) := by
  obtain ⟨before, left, front⟩ := exists_blanks text
  obtain ⟨after, right, back⟩ := exists_blanks (skipBlanks text).reverse
  -- The blanks at the end are those that the reversed text starts with.
  have middle : skipBlanks text = trim text ++ after.reverse := by
    have turned := congrArg List.reverse back
    rwa [List.reverse_reverse, List.reverse_append] at turned
  refine ⟨before, after.reverse, left, right.reverse, ?_, ?_, ?_⟩
  · rw [List.append_assoc, ← middle]
    exact front
  · -- The first character left is the first visible one of the whole text.
    intro c first
    have whole : firstVisible text = some c := by
      rw [← head?_skipBlanks, middle, List.head?_append, Option.mem_def.mp first]
      rfl
    exact isBlank_of_firstVisible whole
  · intro c last
    have turned : firstVisible (skipBlanks text).reverse = some c := by
      rw [← head?_skipBlanks, ← Option.mem_def.mp last, trim, List.getLast?_reverse]
    exact isBlank_of_firstVisible turned

/-- Trimming leaves nothing exactly when all is blank. -/
theorem trim_eq_nil_iff {text : Text} : trim text = [] ↔ AllBlank text := by
  -- A trimmed text has blanks around it and nothing else is lost.
  constructor
  · intro empty
    obtain ⟨before, after, left, right, split, -⟩ := exists_trim text
    rw [split, empty, List.append_nil]
    exact left.append right
  · intro blank
    have nothing : IsTrimmed [] := ⟨by simp, by simp⟩
    simpa using trim_append blank allBlank_nil nothing

end DiceChat
