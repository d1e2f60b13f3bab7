import DiceChat.Text.Basic
import Mathlib

/-! Joining and splitting texts undo each other, and a joined text is as long as its parts and their separators. -/

namespace DiceChat

/-- Joining is the intercalation of lists. -/
theorem joinWith_eq_intercalate (separator : Text) (texts : List Text) :
    joinWith separator texts = separator.intercalate texts := by
  -- Both stop at the last text, where no separator follows.
  induction texts with
  | nil => rfl
  | cons first rest ih =>
    cases rest with
    | nil => simp [joinWith]
    | cons second others =>
      rw [joinWith, ih, List.intercalate_cons_cons]
      simp

/-- Splitting at a character is the splitting of lists. -/
theorem splitOnChar_eq_splitOn (separator : Char) (text : Text) :
    splitOnChar separator text = text.splitOn separator := by
  -- A separator starts a new piece, and any other character joins the first one.
  induction text with
  | nil => simp [splitOnChar]
  | cons c rest ih =>
    rw [splitOnChar, ih, List.splitOn_cons_eq_if_modifyHead]
    have some_piece := List.splitOn_ne_nil separator rest
    cases split : rest.splitOn separator with
    | nil => exact absurd split some_piece
    | cons piece pieces => by_cases same : c = separator <;> simp [same]

/-- Texts without the separator are what the joined text splits into. -/
theorem splitOnChar_joinWith {separator : Char} {texts : List Text} (some_text : texts ≠ [])
    (free : ∀ text ∈ texts, separator ∉ text) :
    splitOnChar separator (joinWith [separator] texts) = texts := by
  rw [joinWith_eq_intercalate, splitOnChar_eq_splitOn,
    List.splitOn_intercalate separator free some_text]

/-- A text with a separator in it splits into the pieces before it and those behind it. -/
theorem splitOnChar_append_cons (separator : Char) (before behind : Text) :
    splitOnChar separator (before ++ separator :: behind) =
      splitOnChar separator before ++ splitOnChar separator behind := by
  simp only [splitOnChar_eq_splitOn]
  exact List.splitOnP_append_cons before behind (beq_self_eq_true separator)

/-- Behind the pieces of a text stand those of what follows the separator at its end. -/
theorem drop_splitOnChar {separator : Char} {before : Text} {count : Nat}
    (pieces : (splitOnChar separator before).length = count) (behind : Text) :
    (splitOnChar separator (before ++ separator :: behind)).drop count =
      splitOnChar separator behind := by
  rw [splitOnChar_append_cons, ← pieces, List.drop_left]

/-- Characters are left out of a joined text by leaving them out of its parts and its separators. -/
theorem filter_joinWith (keep : Char → Bool) (separator : Text) (texts : List Text) :
    (joinWith separator texts).filter keep =
      joinWith (separator.filter keep) (texts.map (List.filter keep)) := by
  -- Both join the same number of texts.
  induction texts with
  | nil => rfl
  | cons first rest ih =>
    cases rest with
    | nil => rfl
    | cons second others =>
      rw [joinWith, List.filter_append, List.filter_append, ih]
      · rfl
      · simp

/-- A character of a joined text is in the separator or in one of the texts. -/
theorem mem_joinWith {separator : Text} {texts : List Text} {c : Char}
    (member : c ∈ joinWith separator texts) : c ∈ separator ∨ ∃ text ∈ texts, c ∈ text := by
  -- The first text, the separator behind it, and the rest are looked through in turn.
  induction texts with
  | nil => exact absurd member List.not_mem_nil
  | cons first rest ih =>
    cases rest with
    -- The only text has no separator behind it.
    | nil => exact .inr ⟨first, List.mem_cons_self, member⟩
    | cons second others =>
      rw [joinWith, List.append_assoc, List.mem_append, List.mem_append] at member
      · -- The character is in the first text, in the separator, or further on.
        rcases member with inside | between | behind
        · exact .inr ⟨first, List.mem_cons_self, inside⟩
        · exact .inl between
        · exact (ih behind).imp_right fun ⟨text, known, inside⟩ =>
            ⟨text, List.mem_cons_of_mem first known, inside⟩
      · simp

/-- A separator stands between any two neighbours. -/
theorem length_joinWith (separator : Text) (texts : List Text) :
    (joinWith separator texts).length =
      (texts.map List.length).sum + separator.length * (texts.length - 1) := by
  -- There is one separator less than there are texts.
  induction texts with
  | nil => rfl
  | cons first rest ih =>
    cases rest with
    | nil => simp [joinWith]
    | cons second others =>
      rw [joinWith, List.length_append, List.length_append, ih]
      · simp only [List.map_cons, List.sum_cons, List.length_cons, Nat.add_sub_cancel, Nat.mul_succ]
        omega
      · simp

end DiceChat
