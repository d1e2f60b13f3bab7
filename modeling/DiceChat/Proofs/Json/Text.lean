import DiceChat.Json.Reader
import DiceChat.Json.Writer

/-! Texts in JSON documents: what the writer escapes the reader takes back, character by character. -/

namespace DiceChat

/-- Whole characters are not halves, so their code points are a whole text. -/
@[simp] theorem JsonText.ofPoints_toNat (text : Text) :
    JsonText.ofPoints (text.map Char.toNat) = .whole text := by
  -- A character lies below the halves or above them.
  have whole : (text.map Char.toNat).any isHalf = false := by
    simp only [List.any_map, List.any_eq_false, Function.comp_apply, isHalf, isHighHalf, isLowHalf,
      Bool.or_eq_true, Bool.and_eq_true, decide_eq_true_eq]
    intro c _ inside
    rcases c.valid with below | ⟨above, -⟩
    · have small : c.toNat < 0xD800 := below
      omega
    · have large : 0xDFFF < c.toNat := above
      omega
  rw [JsonText.ofPoints, whole]
  simp [Function.comp_def]

namespace Json

/-- The digit of a value in base sixteen has this value. -/
theorem hexValue?_digitChar {value : Nat} (below : value < 16) :
    hexValue? (Nat.digitChar value) = some value := by
  have each : ∀ digit : Fin 16, hexValue? (Nat.digitChar digit.val) = some digit.val := by decide
  exact each ⟨value, below⟩

/-- Four digits in base sixteen have the value that they were made from. -/
theorem exists_hexQuad? {value : Nat} (below : value < 0x10000) :
    ∃ a b c d, hexDigits 4 value = [a, b, c, d] ∧ hexQuad? a b c d = some value := by
  -- Each of the four digits is read back as itself, and together they make the number again.
  refine ⟨_, _, _, _, rfl, ?_⟩
  simp only [hexQuad?, hexValue?_digitChar (Nat.mod_lt _ (by decide : 16 > 0)), Option.bind_eq_bind,
    Option.bind_some, Option.pure_def, Option.some.injEq]
  omega

/-- A character that needs no escape is read as itself. -/
theorem readPoints_plain {c : Char} (quote : c ≠ '"') (backslash : c ≠ '\\')
    (control : ¬c.toNat < 0x20) (rest : Text) :
    readPoints (c :: rest) =
      (readPoints rest).map fun (points, rest) => (c.toNat :: points, rest) := by
  -- A character that is neither special nor a control stands for itself.
  rw [readPoints]
  · rw [if_neg control, if_neg backslash]
  all_goals simp [quote, backslash]

/-- An escape by name is read as the character of this name. -/
theorem readPoints_named {name c : Char} (code : name ≠ 'u') (known : escaped? name = some c)
    (rest : Text) :
    readPoints ('\\' :: name :: rest) =
      (readPoints rest).map fun (points, rest) => (c.toNat :: points, rest) := by
  -- The letter behind the backslash is looked up, unless it announces a number.
  rw [readPoints]
  · rw [known]
    rfl
  all_goals simp [code]

/-- An escape by code is read as the code point, whatever follows, unless it is a first half. -/
theorem readPoints_coded {a b c d : Char} {unit : Nat} (code : hexQuad? a b c d = some unit)
    (single : isHighHalf unit = false) (rest : Text) :
    readPoints ('\\' :: 'u' :: a :: b :: c :: d :: rest) =
      (readPoints rest).map fun (points, rest) => (unit :: points, rest) := by
  -- Another escape may follow, but only a first half is joined with it.
  by_cases second : ∃ e f g h others, rest = '\\' :: 'u' :: e :: f :: g :: h :: others
  · obtain ⟨e, f, g, h, others, rfl⟩ := second
    have apart : (hexQuad? e f g h).bind (joinHalves? unit) = none := by
      cases hexQuad? e f g h <;> simp [joinHalves?, single]
    rw [readPoints]
    simp only [code, apart]
  · rw [readPoints]
    · rw [code]
      rfl
    · intro e f g h others equal
      exact second ⟨e, f, g, h, others, equal⟩

/-- What is written for a character is read as this character, whatever follows. -/
theorem readPoints_writeChar (c : Char) (rest : Text) :
    readPoints (writeChar c ++ rest) =
      (readPoints rest).map fun (points, rest) => (c.toNat :: points, rest) := by
  -- The cases are those of the writer: seven names, the codes of other controls, and all the rest.
  unfold writeChar
  iterate 7
    split
    · rename_i equal
      exact equal ▸ readPoints_named (by decide) rfl rest
  split
  · -- A control is written by its code, which is no half of a pair.
    rename_i control
    obtain ⟨p, q, r, s, digits, code⟩ := exists_hexQuad? (Nat.lt_trans control (by decide))
    have single : isHighHalf c.toNat = false := by
      simp only [isHighHalf, Bool.and_eq_false_iff, decide_eq_false_iff_not]
      omega
    rw [digits]
    exact readPoints_coded code single rest
  · -- Any other character stands for itself.
    rename_i quote backslash _ _ _ _ _ control
    exact readPoints_plain quote backslash control rest

/-- A written text is read up to its closing quote. -/
theorem readPoints_writeChars (text rest : Text) :
    readPoints (text.flatMap writeChar ++ '"' :: rest) = some (text.map Char.toNat, rest) := by
  -- What one character was written as is read back in front of the rest.
  induction text with
  | nil => rfl
  | cons c others ih =>
    rw [List.flatMap_cons, List.append_assoc, readPoints_writeChar, ih]
    rfl

/-- A written text is read as this text behind its opening quote. -/
theorem readText_writeChars (text rest : Text) :
    readText (text.flatMap writeChar ++ '"' :: rest) = .ok (.whole text, rest) := by
  rw [readText, readPoints_writeChars]
  exact congrArg (fun read => Except.ok (read, rest)) (JsonText.ofPoints_toNat text)

end Json

end DiceChat
