import DiceChat.Json.Reader
import DiceChat.Proofs.Json.Throughout
import DiceChat.Proofs.Numeral
import DiceChat.Proofs.Outcome

/-! What is read from a JSON text has distinct names everywhere, and no number beyond the limit. -/

namespace DiceChat

namespace Json

variable {limits : JsonLimits}

/-- A value itself has distinct names and no number beyond a limit on digits. -/
def IsLimited (digits : Option Nat) (value : Json) : Prop :=
  value.HasDistinctNames ∧ value.IsWithin digits

/-- Digits that are not too many make a number within the limit. -/
theorem isLimited_of_wholeOf {negative : Bool} {row : Text} {value : Json}
    (some_digit : row ≠ []) (decimal : ∀ c ∈ row, c.isDigit = true)
    (read : wholeOf limits negative row = .ok value) : value.Throughout (IsLimited limits.digits) := by
  -- Leading zeros only make the numeral of the value shorter than its digits.
  have positive : 0 < row.length := List.length_pos_iff.mpr some_digit
  have short : (writeNat (asciiValue row)).length ≤ row.length :=
    (length_writeNat_le_iff positive).mpr (asciiValue_lt decimal)
  have count : digitCount (if negative then -(asciiValue row : Int) else asciiValue row) ≤
      row.length := by
    cases negative <;> simpa [digitCount] using short
  rw [wholeOf] at read
  cases limit : limits.digits with
  | none =>
    simp only [limit, Except.ok.injEq] at read
    subst read
    exact .whole ⟨trivial, fun _ none => nomatch none⟩
  -- The reader counted the digits of the row before it made the number.
  | some most =>
    simp only [limit] at read
    split at read
    · exact nomatch read
    · rename_i fits
      obtain rfl := Except.ok.inj read
      refine .whole ⟨trivial, ?_⟩
      rintro _ ⟨⟩
      omega

/-- A magnitude that is read is a fraction or made of the digits that were read. -/
theorem readMagnitude_cases {negative : Bool} {text rest : Text} {value : Json}
    (read : readMagnitude limits negative text = .ok (value, rest)) :
    (∃ x, value = .fraction x) ∨
      ∃ row, row ≠ [] ∧ (∀ c ∈ row, c.isDigit = true) ∧ wholeOf limits negative row = .ok value := by
  -- The digits are a single zero or a span of digits; places or an exponent make a fraction.
  unfold readMagnitude at read
  split at read
  rename_i row after equal
  -- A zero at the start stands alone; any other row is a span of digits.
  have decimal : ∀ c ∈ row, c.isDigit = true := by
    split at equal
    · obtain ⟨rfl, -⟩ := Prod.mk.inj equal
      simp
    · obtain ⟨rfl, -⟩ := Prod.mk.inj equal
      intro c member
      exact List.mem_takeWhile_imp member
  split at read
  · exact nomatch read
  · rename_i some_digit
    simp only at read
    split at read
    · -- Neither places nor an exponent follow, so the number is whole.
      obtain ⟨whole, made, equal⟩ := map_eq_ok_iff.mp read
      obtain ⟨rfl, -⟩ := Prod.mk.inj equal
      exact .inr ⟨row, by simpa using some_digit, decimal, made⟩
    · -- Something follows, and the number is a fraction.
      obtain ⟨rfl, -⟩ := Prod.mk.inj (Except.ok.inj read)
      exact .inl ⟨_, rfl⟩

/-- A constant or a number that is read holds nothing and is within the limit. -/
theorem isLimited_of_readScalar {text rest : Text} {value : Json}
    (read : readScalar limits text = .ok (value, rest)) :
    value.Throughout (IsLimited limits.digits) := by
  -- Two cases read a magnitude, with and without a sign; the others are words.
  have magnitude : ∀ negative text, readMagnitude limits negative text = .ok (value, rest) →
      value.Throughout (IsLimited limits.digits) := by
    intro negative text read
    rcases readMagnitude_cases read with ⟨x, rfl⟩ | ⟨row, some_digit, decimal, made⟩
    · exact .fraction ⟨trivial, trivial⟩
    · exact isLimited_of_wholeOf some_digit decimal made
  unfold readScalar at read
  split at read
  case h_7 => exact magnitude _ _ read
  case h_8 => exact magnitude _ _ read
  -- The words stand for constants, or for fractions that are not finite.
  all_goals
    obtain ⟨rfl, -⟩ := Prod.mk.inj (Except.ok.inj read)
    first
    | exact .null ⟨trivial, trivial⟩
    | exact .bool ⟨trivial, trivial⟩
    | exact .fraction ⟨trivial, trivial⟩

/-- The limit on digits is the same inside a value. -/
theorem digits_inside {inner : JsonLimits} (inside : limits.inside = .ok inner) :
    inner.digits = limits.digits := by
  -- Only the depth that is left changes on the way inside.
  unfold JsonLimits.inside at inside
  split at inside
  · rw [← Except.ok.inj inside]
  · exact nomatch inside
  · rw [← Except.ok.inj inside]

/-- Whatever is read with so much fuel is limited: a value, items, and fields put behind others. -/
def ReadsLimited (fuel : Nat) : Prop :=
  ∀ limits : JsonLimits,
    (∀ text value rest, readValue fuel limits text = .ok (value, rest) →
      value.Throughout (IsLimited limits.digits)) ∧
    (∀ text items rest, readItems fuel limits text = .ok (items, rest) →
      ∀ item ∈ items, item.Throughout (IsLimited limits.digits)) ∧
    ∀ text before fields rest, readFields fuel limits before text = .ok (fields, rest) →
      (before.map Prod.fst).Nodup →
      (∀ field ∈ before, field.2.Throughout (IsLimited limits.digits)) →
      (fields.map Prod.fst).Nodup ∧ ∀ field ∈ fields, field.2.Throughout (IsLimited limits.digits)

/-- A value is limited if what is read inside it is. -/
theorem isLimited_of_readValue {fuel : Nat} (less : ReadsLimited fuel) {text rest : Text}
    {value : Json} (read : readValue (fuel + 1) limits text = .ok (value, rest)) :
    value.Throughout (IsLimited limits.digits) := by
  -- The first character tells a text, an array, an object or anything else.
  unfold readValue at read
  split at read
  · -- A text is no number.
    obtain ⟨⟨text, after⟩, -, equal⟩ := map_eq_ok_iff.mp read
    obtain ⟨rfl, -⟩ := Prod.mk.inj equal
    exact .string ⟨trivial, trivial⟩
  · -- The items of an array are read one level below.
    obtain ⟨inner, inside, read⟩ := bind_eq_ok_iff.mp read
    rw [← digits_inside inside]
    split at read
    · obtain ⟨rfl, -⟩ := Prod.mk.inj (Except.ok.inj read)
      exact .array ⟨trivial, trivial⟩ (by simp)
    · obtain ⟨⟨items, after⟩, items_read, equal⟩ := map_eq_ok_iff.mp read
      obtain ⟨rfl, -⟩ := Prod.mk.inj equal
      exact .array ⟨trivial, trivial⟩ ((less inner).2.1 _ _ _ items_read)
  · -- The fields of an object, too, with distinct names.
    obtain ⟨inner, inside, read⟩ := bind_eq_ok_iff.mp read
    rw [← digits_inside inside]
    split at read
    · obtain ⟨rfl, -⟩ := Prod.mk.inj (Except.ok.inj read)
      exact .object ⟨List.nodup_nil, trivial⟩ (by simp)
    · obtain ⟨⟨fields, after⟩, fields_read, equal⟩ := map_eq_ok_iff.mp read
      obtain ⟨rfl, -⟩ := Prod.mk.inj equal
      obtain ⟨distinct, limited⟩ := (less inner).2.2 _ _ _ _ fields_read List.nodup_nil (by simp)
      exact .object ⟨distinct, trivial⟩ limited
  · -- Anything else is a constant or a number.
    exact isLimited_of_readScalar read

/-- Items are limited if what is read with less fuel is. -/
theorem isLimited_of_readItems {fuel : Nat} (less : ReadsLimited fuel) {text rest : Text}
    {items : List Json} (read : readItems (fuel + 1) limits text = .ok (items, rest)) :
    ∀ item ∈ items, item.Throughout (IsLimited limits.digits) := by
  -- Behind the first item there is an end or a comma with more items.
  unfold readItems at read
  obtain ⟨⟨first, after⟩, first_read, read⟩ := bind_eq_ok_iff.mp read
  have first_limited := (less limits).1 _ _ _ first_read
  simp only at read
  split at read
  · obtain ⟨rfl, -⟩ := Prod.mk.inj (Except.ok.inj read)
    simpa using first_limited
  · obtain ⟨⟨others, last⟩, others_read, equal⟩ := map_eq_ok_iff.mp read
    obtain ⟨rfl, -⟩ := Prod.mk.inj equal
    exact List.forall_mem_cons.mpr ⟨first_limited, (less limits).2.1 _ _ _ others_read⟩
  · exact nomatch read

/-- Fields are limited and their names distinct if what is read with less fuel is. -/
theorem isLimited_of_readFields {fuel : Nat} (less : ReadsLimited fuel) {text rest : Text}
    {before fields : List (JsonText × Json)}
    (read : readFields (fuel + 1) limits before text = .ok (fields, rest))
    (distinct : (before.map Prod.fst).Nodup)
    (limited : ∀ field ∈ before, field.2.Throughout (IsLimited limits.digits)) :
    (fields.map Prod.fst).Nodup ∧ ∀ field ∈ fields, field.2.Throughout (IsLimited limits.digits) := by
  -- A field replaces one of the same name, so names stay distinct.
  unfold readFields at read
  split at read
  · -- The name is read, and then a colon has to follow.
    obtain ⟨⟨name, after⟩, -, read⟩ := bind_eq_ok_iff.mp read
    simp only at read
    split at read
    · obtain ⟨⟨value, behind⟩, value_read, read⟩ := bind_eq_ok_iff.mp read
      have value_limited := (less limits).1 _ _ _ value_read
      have distinct := Ordered.nodup_keys_put distinct name value
      have limited : ∀ field ∈ Ordered.put before name value,
          field.2.Throughout (IsLimited limits.digits) := by
        intro field member
        rcases Ordered.mem_put member with rfl | known
        · exact value_limited
        · exact limited field known
      simp only at read
      split at read
      · -- The object ends here.
        obtain ⟨rfl, -⟩ := Prod.mk.inj (Except.ok.inj read)
        exact ⟨distinct, limited⟩
      · -- More fields follow, behind the ones that are known by now.
        exact (less limits).2.2 _ _ _ _ read distinct limited
      · exact nomatch read
    · exact nomatch read
  · exact nomatch read

/-- Whatever is read is limited, with any fuel. -/
theorem readsLimited (fuel : Nat) : ReadsLimited fuel := by
  -- Each reader calls the others with less fuel only.
  induction fuel with
  | zero =>
    intro limits
    refine ⟨?_, ?_, ?_⟩ <;>
    · intros
      simp_all [readValue, readItems, readFields]
  | succ fuel less =>
    intro limits
    exact ⟨fun _ _ _ => isLimited_of_readValue less, fun _ _ _ => isLimited_of_readItems less,
      fun _ _ _ _ => isLimited_of_readFields less⟩

/-- A value that a whole text describes is limited. -/
theorem isLimited_of_readWithin {text : Text} {value : Json}
    (read : readWithin limits text = .ok value) : value.Throughout (IsLimited limits.digits) := by
  -- Nothing but space may follow the value.
  obtain ⟨⟨found, rest⟩, found_read, read⟩ := bind_eq_ok_iff.mp read
  simp only at read
  split at read
  · obtain rfl := Except.ok.inj read
    exact (readsLimited _ limits).1 _ _ _ found_read
  · exact nomatch read

end Json

end DiceChat
