import DiceChat.Numeral
import Mathlib

/-! Numerals read back as the numbers they were written from, and their lengths are bounded by size. -/

namespace DiceChat

/-- A decimal digit is one of ten code points. -/
theorem isDigit_iff {c : Char} : c.isDigit = true ↔ 48 ≤ c.toNat ∧ c.toNat ≤ 57 := by
  simp only [Char.isDigit, Bool.and_eq_true, decide_eq_true_eq, ge_iff_le, UInt32.le_iff_toNat_le]
  exact Iff.rfl

/-- An integer has a numeral exactly if it has no more digits than a numeral may have. -/
theorem numeral?_isSome_iff {value : Int} :
    (numeral? value).isSome = true ↔ digitCount value ≤ maxNumeralDigits := by
  simp [numeral?]

/-- The value of digits is what the standard reading of decimals gives. -/
theorem asciiValue_eq (digits : Text) : asciiValue digits = Nat.ofDigitChars 10 digits 0 := by
  simp [asciiValue, digitsValue, Nat.ofDigitChars, List.foldl_map]

/-- So many digits stand for a number below that power of ten. -/
theorem asciiValue_lt {digits : Text} (decimal : ∀ c ∈ digits, c.isDigit = true) :
    asciiValue digits < 10 ^ digits.length := by
  rw [asciiValue_eq]
  -- The value of the rest is below its power of ten.
  induction digits with
  | nil => simp
  | cons c rest ih =>
    have below := ih fun other member => decimal other (List.mem_cons_of_mem c member)
    have digit := isDigit_iff.mp (decimal c List.mem_cons_self)
    rw [Nat.ofDigitChars_cons, Nat.ofDigitChars_eq_ofDigitChars_zero, List.length_cons,
      Nat.pow_succ, Nat.mul_zero, Nat.zero_add]
    -- The first digit counts a power of ten at most nine times.
    have nine : c.toNat - '0'.toNat ≤ 9 := by
      change c.toNat - 48 ≤ 9
      omega
    have scaled := Nat.mul_le_mul_left (10 ^ rest.length) nine
    omega

/-- A numeral has digits only. -/
theorem isDigit_of_mem_writeNat {n : Nat} {c : Char} (member : c ∈ writeNat n) :
    c.isDigit = true :=
  Nat.isDigit_of_mem_toDigits (by decide) (by decide) member

/-- A numeral has at least one digit. -/
theorem writeNat_ne_nil (n : Nat) : writeNat n ≠ [] :=
  Nat.toDigits_ne_nil

/-- A numeral is as short as its number is small. -/
theorem length_writeNat_le_iff {n count : Nat} (positive : 0 < count) :
    (writeNat n).length ≤ count ↔ n < 10 ^ count :=
  Nat.length_toDigits_le_iff (by decide) positive

/-- The number of digits bounds the magnitude. -/
theorem digitCount_le_iff {value : Int} {count : Nat} (positive : 0 < count) :
    digitCount value ≤ count ↔ value.natAbs < 10 ^ count :=
  length_writeNat_le_iff positive

/-- A power of ten has more digits than its exponent says. -/
theorem lt_digitCount_pow {count : Nat} (positive : 0 < count) : count < digitCount (10 ^ count) := by
  -- With so many digits or less, a number is below that power.
  rw [← Nat.not_le, digitCount_le_iff positive, Int.natAbs_pow]
  exact Nat.lt_irrefl _

/-- A numeral reads back as its number. -/
@[simp] theorem asciiValue_writeNat (n : Nat) : asciiValue (writeNat n) = n := by
  rw [asciiValue_eq]
  exact Nat.ofDigitChars_ten_toDigits

/-- Only the numeral of zero starts with a zero. -/
theorem head?_writeNat {n : Nat} (positive : n ≠ 0) : (writeNat n).head? ≠ some '0' := by
  -- The first digit is that of the number without its last digit, down to a single digit.
  induction n using Nat.strongRecOn with
  | ind n ih =>
    rw [writeNat, Nat.toDigits_eq_if (by decide)]
    split
    · -- A single digit of a positive number is not zero.
      rename_i small
      have digits : ∀ value : Fin 10, value.val ≠ 0 → value.val.digitChar ≠ '0' := by decide
      simpa using digits ⟨n, small⟩ positive
    · -- The last digit is cut off, and the first one stays.
      rename_i large
      have shorter := ih (n / 10) (by omega) (by omega)
      rw [writeNat] at shorter
      rw [List.head?_append]
      cases first : (Nat.toDigits 10 (n / 10)).head? with
      | none => exact absurd (List.head?_eq_none_iff.mp first) Nat.toDigits_ne_nil
      | some c => simpa [first] using shorter

/-- An ASCII digit has the value that its place among the ten tells. -/
theorem digitValue?_of_isDigit {c : Char} (decimal : c.isDigit = true) :
    digitValue? c = some (c.toNat - 48) := by
  -- The run of the ASCII digits is the first one of all.
  obtain ⟨low, high⟩ := isDigit_iff.mp decimal
  have inside : (decide (48 ≤ c.toNat) && decide (c.toNat < 48 + 10)) = true := by
    simp only [Bool.and_eq_true, decide_eq_true_eq]
    omega
  have first : zeroDigits.find? (fun origin => origin ≤ c.toNat && c.toNat < origin + 10) =
      some 48 := by
    rw [show zeroDigits = 48 :: zeroDigits.tail from rfl]
    exact List.find?_cons_of_pos inside
  rw [digitValue?, first]
  rfl

/-- A row of ASCII digits is read digit by digit. -/
theorem readDigits?_of_isDigit {row : Text} (some_digit : row ≠ [])
    (decimal : ∀ c ∈ row, c.isDigit = true) :
    readDigits? row = some (row.map fun c => c.toNat - 48) := by
  -- No digit is an underscore, so every round takes one digit.
  induction row with
  | nil => exact absurd rfl some_digit
  | cons c rest ih =>
    have value := digitValue?_of_isDigit (decimal c List.mem_cons_self)
    cases rest with
    | nil => simp [readDigits?, value]
    | cons next others =>
      -- The next character is no underscore, so it is read in a round of its own.
      have plain : next ≠ '_' := by
        rintro rfl
        exact absurd (decimal '_' (by simp)) (by decide)
      have tail := ih (by simp) fun other member => decimal other (List.mem_cons_of_mem c member)
      rw [readDigits?]
      · simp [value, tail]
      all_goals simp [plain]

/-- The digits of a numeral are read as its number, within the limit on numerals. -/
theorem readNatural_writeNat {n : Nat} (short : (writeNat n).length ≤ maxNumeralDigits) :
    readNatural (writeNat n) = .ok n := by
  -- Every digit counts as part of a numeral, so the whole text is one row.
  have sign : ∀ c ∈ writeNat n, isNumeralSign c = true := by
    intro c member
    simp [isNumeralSign, digitValue?_of_isDigit (isDigit_of_mem_writeNat member)]
  have row : (writeNat n).takeWhile isNumeralSign = writeNat n :=
    List.takeWhile_eq_self_iff.mpr sign
  have digits := readDigits?_of_isDigit (writeNat_ne_nil n) fun c => isDigit_of_mem_writeNat
  have value : digitsValue ((writeNat n).map fun c => c.toNat - 48) = n := asciiValue_writeNat n
  simp [readNatural, row, digits, value, Nat.not_lt.mpr short]

/-- No blank surrounds a numeral. -/
theorem trimNumeral_of_visible {text : Text} (visible : ∀ c ∈ text, isNumeralBlank c = false) :
    trimNumeral text = text := by
  -- No blank stands at either end, so nothing is dropped there.
  have kept : ∀ row : Text, (∀ c ∈ row, isNumeralBlank c = false) →
      row.dropWhile isNumeralBlank = row := by
    intro row clear
    cases row with
    | nil => rfl
    | cons c rest => exact List.dropWhile_cons_of_neg (by simp [clear c])
  rw [trimNumeral, kept text visible, kept text.reverse (by simpa using visible),
    List.reverse_reverse]

/-- A character of the numeral of an integer is a digit or a minus sign. -/
theorem eq_minus_or_isDigit {value : Int} {c : Char} (member : c ∈ writeInt value) :
    c = '-' ∨ c.isDigit = true := by
  -- Only a negative number has a sign.
  cases value with
  | ofNat n => exact .inr (isDigit_of_mem_writeNat member)
  | negSucc n => exact (List.mem_cons.mp member).imp_right isDigit_of_mem_writeNat

/-- A digit or a minus sign is no blank of numerals. -/
theorem isNumeralBlank_of_mem_writeInt {value : Int} {c : Char} (member : c ∈ writeInt value) :
    isNumeralBlank c = false := by
  -- A numeral holds a minus and digits, and none of them is blank.
  rcases eq_minus_or_isDigit member with rfl | digit
  · decide
  · obtain ⟨low, high⟩ := isDigit_iff.mp digit
    simp only [isNumeralBlank, isBlank, Bool.and_eq_false_iff, Bool.or_eq_false_iff,
      decide_eq_false_iff_not, beq_eq_false_iff_ne]
    omega

/-- The numeral of an integer holds no blank. -/
theorem notMem_writeInt {c : Char} (blank : isNumeralBlank c = true) (value : Int) :
    c ∉ writeInt value := by
  intro member
  -- The character would be blank and not blank.
  rw [isNumeralBlank_of_mem_writeInt member] at blank
  exact nomatch blank

/-- Different integers have different numerals. -/
theorem writeInt_injective : Function.Injective writeInt := by
  -- The digits tell the magnitude, and a sign stands before those of a negative number only.
  have magnitude : Function.Injective writeNat :=
    Function.LeftInverse.injective asciiValue_writeNat
  have unsigned : ∀ n rest, writeNat n ≠ '-' :: rest := by
    intro n rest same
    have digit := isDigit_of_mem_writeNat (n := n) (c := '-') (by simp [same])
    exact absurd digit (by decide)
  rintro (m | m) (n | n) same
  · exact congrArg Int.ofNat (magnitude same)
  · exact absurd same (unsigned m _)
  · exact absurd same.symm (unsigned n _)
  · exact congrArg Int.negSucc (Nat.succ.inj (magnitude (List.cons.inj same).2))

/-- A numeral within the limit on numerals is read as its integer. -/
theorem readInt_writeInt {value : Int} (short : digitCount value ≤ maxNumeralDigits) :
    readInt (writeInt value) = .ok value := by
  have clear : trimNumeral (writeInt value) = writeInt value :=
    trimNumeral_of_visible fun c => isNumeralBlank_of_mem_writeInt
  cases value with
  | ofNat n =>
    have read : readNatural (writeNat n) = .ok n := readNatural_writeNat short
    -- A digit stands where a sign could stand.
    have signed : ∀ sign rest, writeNat n = sign :: rest → sign.isDigit = true := by
      intro sign rest digits
      exact isDigit_of_mem_writeNat (n := n) (by simp [digits])
    simp only [writeInt] at clear ⊢
    rw [readInt, clear]
    split
    · rename_i rest digits
      exact absurd (signed '-' rest digits) (by decide)
    · rename_i rest digits
      exact absurd (signed '+' rest digits) (by decide)
    · rw [read]
      rfl
  -- The minus sign is written before the digits of the magnitude.
  | negSucc n =>
    have read : readNatural (writeNat (n + 1)) = .ok (n + 1) := readNatural_writeNat short
    simp only [writeInt] at clear ⊢
    simp only [readInt, clear, read, Except.map]
    rfl

end DiceChat
