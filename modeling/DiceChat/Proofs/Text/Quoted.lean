import DiceChat.Proofs.Numeral
import DiceChat.Proofs.Text.Template

/-! Quoted texts show themselves: whatever stands between the quote marks, every character of a quotation is printable. -/

namespace DiceChat

/-- Digits are plain. -/
theorem isPlain_of_isDigit {c : Char} (digit : c.isDigit = true) : isPlain c = true := by
  -- Digits lie beyond the quote marks and before the backslash.
  have bounds := isDigit_iff.mp digit
  have apart : ∀ other : Char, other.toNat < 48 ∨ 57 < other.toNat → c ≠ other := by
    rintro other outside rfl
    omega
  simp [isPlain, apart]
  omega

/-- Numerals are plain. -/
theorem isPlain_of_mem_writeInt {value : Int} {c : Char} (member : c ∈ writeInt value) :
    isPlain c = true := by
  -- A numeral holds a minus and digits, and none of them is special.
  rcases eq_minus_or_isDigit member with rfl | digit
  · decide
  · exact isPlain_of_isDigit digit

/-- Every character of a text shows itself, so that the text stays on its line. -/
def AllPrintable (text : Text) : Prop :=
  ∀ c ∈ text, isPrintable c = true

/-- A text without characters has only printable ones. -/
theorem allPrintable_nil : AllPrintable [] :=
  nofun

/-- A printable character in front of printable ones. -/
theorem AllPrintable.cons {c : Char} {text : Text} (first : isPrintable c = true)
    (rest : AllPrintable text) : AllPrintable (c :: text) :=
  List.forall_mem_cons.mpr ⟨first, rest⟩

/-- Two texts that show themselves make one. -/
theorem AllPrintable.append {before after : Text} (left : AllPrintable before)
    (right : AllPrintable after) : AllPrintable (before ++ after) :=
  List.forall_mem_append.mpr ⟨left, right⟩

/-- A text shows itself if the search for a character that does not finds none. -/
theorem allPrintable_of_all {text : Text} (all : text.all isPrintable = true) : AllPrintable text :=
  List.all_eq_true.mp all

/-- A line does not end inside a text that shows itself. -/
theorem AllPrintable.count_newline {text : Text} (shown : AllPrintable text) :
    text.count '\n' = 0 := by
  -- The line end would be printable.
  rw [List.count_eq_zero]
  intro member
  exact absurd (shown '\n' member) (by decide)

/-- Numerals show themselves. -/
theorem allPrintable_writeInt (value : Int) : AllPrintable (writeInt value) :=
  fun _ member => isPrintable_of_isPlain (isPlain_of_mem_writeInt member)

/-- Digits in base sixteen show themselves. -/
theorem allPrintable_hexDigits (width value : Nat) : AllPrintable (hexDigits width value) := by
  induction width generalizing value with
  | zero => exact allPrintable_nil
  | succ width ih =>
    -- The lowest digit is one of sixteen.
    have digits : ∀ place < 16, isPrintable (Nat.digitChar place) = true := by decide
    exact (ih _).append (allPrintable_nil.cons (digits _ (Nat.mod_lt value (by decide))))

/-- A code shows itself, whatever the character it stands for. -/
theorem allPrintable_escapeCode (c : Char) : AllPrintable (escapeCode c) := by
  -- There are three widths, each with a mark and digits behind it.
  rw [escapeCode]
  split
  · exact (allPrintable_of_all (by decide)).append (allPrintable_hexDigits _ _)
  · split
    · exact (allPrintable_of_all (by decide)).append (allPrintable_hexDigits _ _)
    · exact (allPrintable_of_all (by decide)).append (allPrintable_hexDigits _ _)

/-- Between quote marks every character shows itself, by itself or by a code. -/
theorem allPrintable_quoteChar {mark : Char} (mark_shown : isPrintable mark = true) (c : Char) :
    AllPrintable (quoteChar mark c) := by
  rw [quoteChar]
  split
  · rename_i guarded
    -- What is guarded is the mark or the backslash.
    have shown : isPrintable c = true := by
      rcases Bool.or_eq_true_iff.mp guarded with same | same
      · rwa [of_decide_eq_true same]
      · rw [of_decide_eq_true same]
        decide
    exact (allPrintable_nil.cons shown).cons (by decide)
  · -- Line ends and tabs are named, and what else does not show is told by its code.
    repeat' split
    · exact allPrintable_of_all (by decide)
    · exact allPrintable_of_all (by decide)
    · exact allPrintable_of_all (by decide)
    · rename_i shown
      exact allPrintable_nil.cons shown
    · exact allPrintable_escapeCode c

/-- A quotation shows itself. -/
theorem allPrintable_quote (text : Text) : AllPrintable (quote text) := by
  -- The mark is one of the two quote marks, and between two marks every character shows.
  have mark_shown : isPrintable (quoteMark text) = true := by
    rw [quoteMark]
    split <;> decide
  have inside : AllPrintable (text.flatMap (quoteChar (quoteMark text))) := by
    intro c member
    obtain ⟨source, -, inside⟩ := List.mem_flatMap.mp member
    exact allPrintable_quoteChar mark_shown source c inside
  exact (inside.append (allPrintable_nil.cons mark_shown)).cons mark_shown

end DiceChat
