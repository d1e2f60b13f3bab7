import DiceChat.Json.Reader
import DiceChat.Proofs.Json.Throughout
import DiceChat.Proofs.Numeral

/-! Numbers in JSON documents: an integer is read back from its numeral, up to where the numeral ends. -/

namespace DiceChat

namespace Json

variable {digits depth : Option Nat}

/-- A text does not go on with what could belong to a number before it. -/
def EndsNumber (rest : Text) : Prop :=
  ∀ c, rest.head? = some c → c.isDigit = false ∧ c ≠ '.' ∧ c ≠ 'e' ∧ c ≠ 'E'

/-- The digits before the end of a number are all its digits. -/
theorem spanDigits_of_endsNumber {row rest : Text} (decimal : ∀ c ∈ row, c.isDigit = true)
    (ends : EndsNumber rest) : spanDigits (row ++ rest) = (row, rest) := by
  -- The span ends where no digit follows.
  have stops : rest.takeWhile Char.isDigit = [] ∧ rest.dropWhile Char.isDigit = rest := by
    cases rest with
    | nil => exact ⟨rfl, rfl⟩
    | cons c others =>
      have other := (ends c rfl).1
      simp [other]
  rw [spanDigits, List.takeWhile_append_of_pos decimal, List.dropWhile_append_of_pos decimal,
    stops.1, stops.2, List.append_nil]

/-- Where a number ends, no places follow. -/
theorem readPart_of_endsNumber {rest : Text} (ends : EndsNumber rest) :
    readPart rest = (none, rest) := by
  -- Places would start with a point.
  cases rest with
  | nil => rfl
  | cons c others =>
    rw [readPart]
    rintro after equal
    exact (ends c rfl).2.1 (List.cons.inj equal).1

/-- Where a number ends, no exponent follows. -/
theorem readExponent_of_endsNumber {rest : Text} (ends : EndsNumber rest) :
    readExponent rest = (none, rest) := by
  -- An exponent would start with its letter.
  cases rest with
  | nil => rfl
  | cons c others =>
    obtain ⟨-, -, small, large⟩ := ends c rfl
    simp [readExponent, small, large]

/-- Digits up to the end of a number are its digits, unless more of them follow a leading zero. -/
theorem readMagnitude_of_isDigit {limits : JsonLimits} {row rest : Text} (negative : Bool)
    (some_digit : row ≠ []) (decimal : ∀ c ∈ row, c.isDigit = true)
    (plain : row.head? = some '0' → row = ['0']) (ends : EndsNumber rest) :
    readMagnitude limits negative (row ++ rest) =
      (wholeOf limits negative row).map fun value => (value, rest) := by
  -- A zero ends the digits at once; any other digit is followed by all the rest of them.
  cases row with
  | nil => exact absurd rfl some_digit
  | cons c tail =>
    by_cases zero : c = '0'
    · subst zero
      obtain ⟨-, rfl⟩ := List.cons.inj (plain rfl)
      simp [readMagnitude, readPart_of_endsNumber ends, readExponent_of_endsNumber ends]
    · have span := spanDigits_of_endsNumber decimal ends
      rw [List.cons_append] at span ⊢
      simp [readMagnitude, zero, span, readPart_of_endsNumber ends,
        readExponent_of_endsNumber ends]

/-- The digits of a natural number are read as this number, with the sign that came before. -/
theorem readMagnitude_writeNat {n : Nat} {rest : Text} (negative : Bool)
    (short : ∀ most, digits = some most → (writeNat n).length ≤ most) (ends : EndsNumber rest) :
    readMagnitude ⟨digits, depth⟩ negative (writeNat n ++ rest) =
      .ok (.whole (if negative then -(n : Int) else n), rest) := by
  -- Only the number zero starts with a zero, so its digit is all of it.
  have plain : (writeNat n).head? = some '0' → writeNat n = ['0'] := by
    intro zero
    by_cases none : n = 0
    · rw [none]
      rfl
    · exact absurd zero (head?_writeNat none)
  -- The digits are within the limit, so they make a number.
  have whole : wholeOf ⟨digits, depth⟩ negative (writeNat n) =
      .ok (.whole (if negative then -(n : Int) else n)) := by
    cases digits with
    | none => simp [wholeOf]
    | some most => simp [wholeOf, Nat.not_lt.mpr (short most rfl)]
  rw [readMagnitude_of_isDigit negative (writeNat_ne_nil n) (fun c => isDigit_of_mem_writeNat)
    plain ends, whole]
  rfl

/-- A digit starts no word, so digits are read as a magnitude. -/
theorem readScalar_of_isDigit {limits : JsonLimits} {c : Char} (decimal : c.isDigit = true)
    (rest : Text) : readScalar limits (c :: rest) = readMagnitude limits false (c :: rest) := by
  -- Every other way to read a scalar asks for a first character that is no digit.
  have letter : ∀ other : Char, other.isDigit = false → c ≠ other := by
    rintro other plain rfl
    rw [decimal] at plain
    exact Bool.noConfusion plain
  rw [readScalar]
  all_goals
    intros
    rename_i equal
    exact letter _ (by decide) (List.cons.inj equal).1

/-- A minus sign before a digit is the sign of a magnitude. -/
theorem readScalar_minus {limits : JsonLimits} {c : Char} (decimal : c.isDigit = true)
    (rest : Text) : readScalar limits ('-' :: c :: rest) = readMagnitude limits true (c :: rest) := by
  -- The only word that starts with a minus sign goes on with a letter.
  rw [readScalar]
  rintro others equal
  rw [(List.cons.inj equal).1] at decimal
  exact absurd decimal (by decide)

/-- A natural number starts with a digit. -/
theorem exists_writeNat (n : Nat) : ∃ c rest, writeNat n = c :: rest ∧ c.isDigit = true := by
  -- A numeral is never empty.
  cases row : writeNat n with
  | nil => exact absurd row (writeNat_ne_nil n)
  | cons c rest => exact ⟨c, rest, rfl, isDigit_of_mem_writeNat (n := n) (row ▸ List.mem_cons_self)⟩

/-- An integer is read from its numeral, if that is short enough. -/
theorem readScalar_writeInt {value : Int} {rest : Text}
    (short : (Json.whole value).IsWithin digits) (ends : EndsNumber rest) :
    readScalar ⟨digits, depth⟩ (writeInt value ++ rest) = .ok (.whole value, rest) := by
  -- A minus sign stands before the digits of a negative number.
  cases value with
  | ofNat n =>
    obtain ⟨c, tail, row, decimal⟩ := exists_writeNat n
    rw [writeInt, row, List.cons_append, readScalar_of_isDigit decimal, ← List.cons_append, ← row]
    exact readMagnitude_writeNat false short ends
  | negSucc n =>
    obtain ⟨c, tail, row, decimal⟩ := exists_writeNat (n + 1)
    rw [writeInt, row, List.cons_append, List.cons_append, readScalar_minus decimal,
      ← List.cons_append, ← row]
    exact readMagnitude_writeNat true short ends

/-- A numeral starts with a digit or a minus sign. -/
theorem exists_writeInt (value : Int) :
    ∃ c rest, writeInt value = c :: rest ∧ (c.isDigit = true ∨ c = '-') := by
  -- A number that is not negative starts with its digits, any other one with the sign.
  cases value with
  | ofNat n =>
    obtain ⟨c, rest, row, decimal⟩ := exists_writeNat n
    exact ⟨c, rest, row, .inl decimal⟩
  | negSucc n => exact ⟨'-', _, rfl, .inr rfl⟩

/-- A digit or a minus sign is not any other character. -/
theorem ne_of_startsNumeral {c other : Char} (numeral : c.isDigit = true ∨ c = '-')
    (plain : other.isDigit = false) (sign : other ≠ '-') : c ≠ other := by
  -- The other character is neither of the two.
  rintro rfl
  rcases numeral with decimal | minus
  · rw [decimal] at plain
    exact Bool.noConfusion plain
  · exact sign minus

end Json

end DiceChat
