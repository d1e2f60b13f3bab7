import DiceChat.Proofs.Json.Throughout
import DiceChat.Proofs.Numeral
import DiceChat.Text.Utf8

/-! Documents of exact values: what keeps them from being written, and what is in the file otherwise. -/

namespace DiceChat

/-- A text of whole characters has no flaw. -/
@[simp] theorem JsonText.flaw?_whole (text : Text) : (JsonText.whole text).flaw? = none :=
  rfl

/-- A text without carriage returns has its line ends unified already. -/
theorem unifyLineEnds_of_notMem {text : Text} (clear : '\r' ∉ text) : unifyLineEnds text = text := by
  -- Only a carriage return makes a line end that is not the usual one.
  induction text with
  | nil => rfl
  | cons c rest ih =>
    simp only [List.mem_cons, not_or] at clear
    rw [unifyLineEnds, ih clear.2]
    · intro _ equal
      exact absurd equal.symm clear.1
    · intro equal
      exact absurd equal.symm clear.1

namespace Json

/-- The first flaw of several values is that of the first flawed one. -/
theorem flawOfItems?_eq (items : List Json) : flawOfItems? items = items.findSome? flaw? := by
  -- The writer stops at the first flaw.
  induction items with
  | nil => rfl
  | cons item items ih =>
    rw [flawOfItems?, List.findSome?_cons, ih]
    cases item.flaw? <;> rfl

/-- The first flaw of several fields is that of the first flawed one, whose name comes first. -/
theorem flawOfFields?_eq (fields : List (JsonText × Json)) :
    flawOfFields? fields = fields.findSome? fun field => field.1.flaw?.or field.2.flaw? := by
  -- The name of a field is written before its value.
  induction fields with
  | nil => rfl
  | cons field fields ih =>
    rw [flawOfFields?, List.findSome?_cons, ih]
    cases field.1.flaw? <;> cases field.2.flaw? <;> rfl

/-- The most digits of the numbers in a document that can be written. -/
abbrev IsWritable : Json → Prop :=
  IsWithin (some maxNumeralDigits)

/-- A number has no flaw exactly if it has a numeral. -/
theorem flaw?_whole_eq_none_iff {value : Int} :
    (Json.whole value).flaw? = none ↔ (Json.whole value).IsWritable := by
  -- Having a numeral is a matter of the number of digits.
  simp only [flaw?, IsWithin, Option.some.injEq, forall_eq']
  rw [← numeral?_isSome_iff]
  split <;> simp_all

/-- An exact value has no flaw exactly if every number in it has a numeral. -/
theorem flaw?_eq_none_iff {value : Json} (exact : value.Throughout IsExact) :
    value.flaw? = none ↔ value.Throughout IsWritable := by
  -- An exact value has whole texts and no fractions, so only whole numbers can be flawed.
  induction exact with
  | null _ => exact ⟨fun _ => .null trivial, fun _ => rfl⟩
  | bool _ => exact ⟨fun _ => .bool trivial, fun _ => rfl⟩
  | whole _ =>
    rw [flaw?_whole_eq_none_iff]
    exact ⟨.whole, Throughout.here⟩
  | fraction here => exact here.elim
  | string here =>
    obtain ⟨text, rfl⟩ := here
    exact ⟨fun _ => .string trivial, fun _ => rfl⟩
  -- An array has the first flaw of its items.
  | array _ _ ih =>
    rw [flaw?, flawOfItems?_eq, List.findSome?_eq_none_iff]
    constructor
    · intro clear
      exact .array trivial fun item member => (ih item member).mp (clear item member)
    · intro writable item member
      exact (ih item member).mpr ((Throughout.array_iff.mp writable).2 item member)
  -- An object has the first flaw of its names or values, and its names are whole.
  | object here _ ih =>
    rw [flaw?, flawOfFields?_eq, List.findSome?_eq_none_iff]
    constructor
    · intro clear
      exact .object trivial fun field member =>
        (ih field member).mp (Option.or_eq_none_iff.mp (clear field member)).2
    · intro writable field member
      obtain ⟨text, whole⟩ := here field member
      rw [whole, JsonText.flaw?_whole, Option.none_or]
      exact (ih field member).mpr ((Throughout.object_iff.mp writable).2 field member)

/-- The only flaw of an exact value is that a number is too long. -/
theorem flaw?_ne_torn {value : Json} (exact : value.Throughout IsExact) :
    value.flaw? ≠ some .torn := by
  -- A torn flaw would come from a text, and all texts are whole.
  induction exact with
  | null _ | bool _ => simp [flaw?]
  | whole _ =>
    rw [flaw?]
    split <;> simp
  | fraction here => exact here.elim
  | string here =>
    obtain ⟨text, rfl⟩ := here
    simp [flaw?]
  | array _ _ ih =>
    rw [flaw?, flawOfItems?_eq]
    intro torn
    obtain ⟨item, member, flawed⟩ := List.exists_of_findSome?_eq_some torn
    exact ih item member flawed
  | object here _ ih =>
    rw [flaw?, flawOfFields?_eq]
    intro torn
    obtain ⟨field, member, flawed⟩ := List.exists_of_findSome?_eq_some torn
    obtain ⟨text, whole⟩ := here field member
    rw [whole, JsonText.flaw?_whole, Option.none_or] at flawed
    exact ih field member flawed

/-- An exact value is written in full if every number in it has a numeral, and else not at all. -/
theorem dump_of_exact {value : Json} (exact : value.Throughout IsExact) :
    (value.Throughout IsWritable → value.dump = .ok value.write) ∧
      (¬value.Throughout IsWritable → value.dump = .error .tooLong) := by
  -- Of the two flaws, an exact value can have one only.
  rw [← flaw?_eq_none_iff exact, dump]
  have whole := flaw?_ne_torn exact
  cases flaw : value.flaw? with
  | none => exact ⟨fun _ => rfl, fun long => absurd rfl long⟩
  | some found =>
    cases found with
    | torn => exact absurd flaw whole
    | tooLong => exact ⟨fun short => (nomatch short), fun _ => rfl⟩

/-- Flawless items are drafted in full. -/
theorem draftItems_eq {indent : Nat} {close : Text} {items : List Json}
    (clear : ∀ item ∈ items, item.flaw? = none)
    (full : ∀ item ∈ items, item.draftAt indent = item.writeAt indent) :
    draftItems indent (',' :: newLine indent) close items = writeItems indent items ++ close := by
  -- A draft differs from what is written only behind a flaw.
  induction items with
  | nil => rfl
  | cons item items ih =>
    have others := ih (fun item member => clear item (List.mem_cons_of_mem _ member))
      (fun item member => full item (List.mem_cons_of_mem _ member))
    simp [draftItems, writeItems, clear item List.mem_cons_self, full item List.mem_cons_self,
      others]

/-- Flawless fields are drafted in full, behind the first of them. -/
theorem draftFields_eq {indent : Nat} {close : Text} {fields : List (JsonText × Json)}
    {name : JsonText} {value : Json}
    (clear : ∀ field ∈ (name, value) :: fields, field.1.flaw? = none ∧ field.2.flaw? = none)
    (full : ∀ field ∈ (name, value) :: fields, field.2.draftAt indent = field.2.writeAt indent) :
    draftFields indent close ((name, value) :: fields) =
      writeText name ++ [':', ' '] ++ value.writeAt indent ++ writeFields indent fields ++ close := by
  -- The first field is drafted without a separator, so the induction is over those behind it.
  have first := clear _ List.mem_cons_self
  have written := full _ List.mem_cons_self
  simp only at first written
  induction fields generalizing name value with
  | nil => simp [draftFields, writeFields, first, written]
  | cons next fields ih =>
    obtain ⟨key, item⟩ := next
    have others := ih (fun field member => clear field (List.mem_cons_of_mem _ member))
      (fun field member => full field (List.mem_cons_of_mem _ member))
      (clear (key, item) (by simp)) (full (key, item) (by simp))
    rw [draftFields]
    simp [writeFields, first, written, others]

/-- The draft of an exact value without a flaw is all that is written of it. -/
theorem draftAt_eq {value : Json} (exact : value.Throughout IsExact) (clear : value.flaw? = none)
    (indent : Nat) : value.draftAt indent = value.writeAt indent := by
  -- The indentation grows with the depth, so it varies in the induction.
  induction exact generalizing indent with
  | null _ => rfl
  | bool _ => rfl
  | whole _ => simp [draftAt, clear]
  | fraction here => exact here.elim
  | string _ => simp [draftAt, clear]
  -- The items behind the first are drafted with a comma before each.
  | @array items _ _ ih =>
    rw [flaw?, flawOfItems?_eq, List.findSome?_eq_none_iff] at clear
    cases items with
    | nil => rfl
    | cons item items =>
      have others : draftItems (indent + 1) (',' :: newLine (indent + 1)) (newLine indent ++ [']'])
          items = writeItems (indent + 1) items ++ (newLine indent ++ [']']) :=
        draftItems_eq (fun item member => clear item (List.mem_cons_of_mem _ member))
          fun item member => ih item (List.mem_cons_of_mem _ member)
            (clear item (List.mem_cons_of_mem _ member)) (indent + 1)
      have first := ih item List.mem_cons_self (clear item List.mem_cons_self) (indent + 1)
      simp [draftAt, draftItems, writeAt, clear item List.mem_cons_self, first, others]
  -- The same for fields, which are drafted with their names.
  | @object fields here _ ih =>
    rw [flaw?, flawOfFields?_eq, List.findSome?_eq_none_iff] at clear
    cases fields with
    | nil => rfl
    | cons field fields =>
      obtain ⟨name, value⟩ := field
      have drafted : draftFields (indent + 1) (newLine indent ++ ['\x7d']) ((name, value) :: fields) =
          writeText name ++ [':', ' '] ++ value.writeAt (indent + 1) ++
            writeFields (indent + 1) fields ++ (newLine indent ++ ['\x7d']) :=
        draftFields_eq (fun field member => Option.or_eq_none_iff.mp (clear field member))
          fun field member =>
            ih field member (Option.or_eq_none_iff.mp (clear field member)).2 (indent + 1)
      simp [draftAt, writeAt, drafted]

/-- A new line starts with a line feed. -/
theorem notMem_newLine (indent : Nat) : '\r' ∉ newLine indent := by
  simp [newLine]

/-- The escapes of a text hold no carriage return. -/
theorem notMem_writeChar (c : Char) : '\r' ∉ writeChar c := by
  -- A carriage return has an escape of its own, and digits are none.
  have digit : ∀ value : Fin 16, '\r' ≠ Nat.digitChar value.val := by decide
  have digits : ∀ value, '\r' ≠ Nat.digitChar (value % 16) := fun value =>
    digit ⟨value % 16, Nat.mod_lt _ (by decide)⟩
  unfold writeChar
  iterate 7
    split
    · decide
  split
  · simp [hexDigits, digits]
  · rename_i other _ _ _ _
    simpa using Ne.symm other

/-- A written text holds no carriage return. -/
theorem notMem_writeText (text : Text) : '\r' ∉ writeText (.whole text) := by
  simp [writeText, writeString, notMem_writeChar]

/-- Written items hold no carriage return if none of them does. -/
theorem notMem_writeItems {indent : Nat} {items : List Json}
    (clear : ∀ item ∈ items, '\r' ∉ item.writeAt indent) : '\r' ∉ writeItems indent items := by
  -- New lines and commas stand between the items.
  induction items with
  | nil => simp [writeItems]
  | cons item items ih =>
    have others := ih fun item member => clear item (List.mem_cons_of_mem _ member)
    simp [writeItems, notMem_newLine, clear item List.mem_cons_self, others]

/-- Written fields hold no carriage return if none of their names and values does. -/
theorem notMem_writeFields {indent : Nat} {fields : List (JsonText × Json)}
    (clear : ∀ field ∈ fields, '\r' ∉ writeText field.1 ∧ '\r' ∉ field.2.writeAt indent) :
    '\r' ∉ writeFields indent fields := by
  -- New lines, commas and colons stand around names and values.
  induction fields with
  | nil => simp [writeFields]
  | cons field fields ih =>
    obtain ⟨name, value⟩ := field
    have others := ih fun field member => clear field (List.mem_cons_of_mem _ member)
    obtain ⟨first, written⟩ := clear (name, value) List.mem_cons_self
    simp only at first written
    simp [writeFields, notMem_newLine, first, written, others]

/-- What is written of an exact value holds no carriage return. -/
theorem notMem_writeAt {value : Json} (exact : value.Throughout IsExact) (indent : Nat) :
    '\r' ∉ value.writeAt indent := by
  -- Brackets and braces are left to check where the values inside are known.
  induction exact generalizing indent with
  | null _ => rw [writeAt]; decide
  | @bool value _ => cases value <;> rw [writeAt] <;> decide
  | whole _ =>
    rw [writeAt]
    exact notMem_writeInt (by decide) _
  | fraction here => exact here.elim
  | string here =>
    obtain ⟨text, rfl⟩ := here
    rw [writeAt]
    exact notMem_writeText text
  | @array items _ _ ih =>
    cases items with
    | nil => rw [writeAt]; decide
    | cons item items =>
      have others : '\r' ∉ writeItems (indent + 1) items := notMem_writeItems fun item member =>
        ih item (List.mem_cons_of_mem _ member) (indent + 1)
      simp [writeAt, notMem_newLine, ih item List.mem_cons_self, others]
  | @object fields here _ ih =>
    cases fields with
    | nil => rw [writeAt]; decide
    | cons field fields =>
      obtain ⟨name, value⟩ := field
      have names : ∀ field ∈ (name, value) :: fields, '\r' ∉ writeText field.1 := by
        intro field member
        obtain ⟨text, whole⟩ := here field member
        rw [whole]
        exact notMem_writeText text
      have others : '\r' ∉ writeFields (indent + 1) fields :=
        notMem_writeFields fun field member =>
          ⟨names field (List.mem_cons_of_mem _ member),
            ih field (List.mem_cons_of_mem _ member) (indent + 1)⟩
      have first := names _ List.mem_cons_self
      have written := ih _ List.mem_cons_self (indent + 1)
      simp only at first written
      simp [writeAt, notMem_newLine, first, written, others]

end Json

end DiceChat
