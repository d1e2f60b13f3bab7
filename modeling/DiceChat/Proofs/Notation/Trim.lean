import DiceChat.Proofs.Notation.Spacing

/-! Blanks around a text in dice notation change nothing: each reader leaves those at the end to the label. -/

namespace DiceChat

/-- Adding blanks at the end keeps what is visible. -/
theorem keepsVisible_append {after : Text} (blank : AllBlank after) :
    KeepsVisible fun text => text ++ after := by
  intro text
  cases skipped : skipBlanks text with
  | nil => exact skipBlanks_eq_nil_iff.mpr ((skipBlanks_eq_nil_iff.mp skipped).append blank)
  | cons c rest =>
    -- What follows a visible character is never skipped.
    obtain ⟨blanks, blank, visible, rfl⟩ := skipBlanks_eq_cons_iff.mp skipped
    show skipBlanks (blanks ++ c :: rest ++ after) = c :: (rest ++ after)
    rw [List.append_assoc, skipBlanks_append blank, List.cons_append, skipBlanks_cons visible]

/-- Blanks at either end do not change what trimming leaves. -/
theorem trim_append_append {before after : Text} (left : AllBlank before) (right : AllBlank after)
    (text : Text) : trim (before ++ text ++ after) = trim text := by
  -- The blanks at each end join those that the text has there itself.
  obtain ⟨start, ending, start_blank, ending_blank, split, trimmed⟩ := exists_trim text
  have whole : before ++ text ++ after = (before ++ start) ++ trim text ++ (ending ++ after) := by
    have around := congrArg (fun middle => before ++ middle ++ after) split
    simpa using around
  rw [whole, trim_append (left.append start_blank) (ending_blank.append right) trimmed]

namespace Notation

/-- The next digit is the same behind blanks. -/
theorem nextDigit?_append {blanks : Text} (blank : AllBlank blanks) (text : Text) :
    nextDigit? (blanks ++ text) = nextDigit? text := by
  rw [nextDigit?, nextDigit?, skipBlanks_append blank]

/-- Blanks at the end do not belong to the label. -/
theorem readLabel_append_blanks {after : Text} (blank : AllBlank after) (text : Text) :
    readLabel (text ++ after) = readLabel text := by
  -- The blanks at the end are trimmed with those before them.
  have trimmed := trim_append_append allBlank_nil blank text
  rw [List.nil_append] at trimmed
  rw [readLabel, readLabel, trimmed]

/-- Blanks at the end do not change the settings. -/
theorem readSettings_append_blanks {after : Text} (blank : AllBlank after) (text : Text) :
    readSettings (text ++ after) = readSettings text := by
  -- Every reader hands the blanks on, and the label does not change with them.
  have kept : ∀ text, readLabel (text ++ after) = (readLabel text).map id := fun text => by
    rw [readLabel_append_blanks blank, Option.map_id, id_eq]
  rw [readSettings_change (keepsVisible_append blank) kept]
  cases readSettings text <;> simp [Except.map]

/-- Blanks at the start do not change the settings. -/
theorem readSettings_append {blanks : Text} (blank : AllBlank blanks) (text : Text) :
    readSettings (blanks ++ text) = readSettings text := by
  -- The number of dice is found behind the blanks, and without a digit there are no settings.
  cases found : nextDigit? text with
  | none => simp [readSettings, readNumber, takeDigits, maxDigits, nextDigit?_append blank, found]
  | some digit =>
    have number : readNumber (blanks ++ text) = readNumber text := by
      simp [readNumber, takeDigits, maxDigits, nextDigit?_append blank, found]
    rw [readSettings, readSettings, number]

/-- A text is read as if it had no blanks around it. -/
theorem parse_trim (text : Text) : parse (trim text) = parse text := by
  -- The settings do not see the blanks, and an error tells the trimmed text anyway.
  obtain ⟨before, after, left, right, split, trimmed⟩ := exists_trim text
  have bare : readSettings (before ++ trim text ++ after) = readSettings (trim text) := by
    rw [List.append_assoc, readSettings_append left, readSettings_append_blanks right]
  have same : readSettings text = readSettings (trim text) :=
    (congrArg readSettings split).trans bare
  rw [parse, parse, same, trimmed.trim_eq]

end Notation

end DiceChat
