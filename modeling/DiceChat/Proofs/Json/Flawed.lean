import DiceChat.Proofs.Json.Draft
import DiceChat.Proofs.Json.RoundTrip

/-! A draft that ends at a flaw is a beginning of the document, and it is never read as a value. -/

namespace DiceChat

namespace Json

variable {indent : Nat} {close : Text}

/-- A flawless item is drafted in full, and the items behind it follow. -/
theorem draftItems_clear {before : Text} {item : Json} {items : List Json}
    (exact : item.Throughout IsExact) (clear : item.flaw? = none) :
    draftItems indent before close (item :: items) =
      before ++ item.writeAt indent ++ draftItems indent (',' :: newLine indent) close items := by
  simp [draftItems, clear, draftAt_eq exact clear]

/-- A flawed item is drafted without those behind it, or it is not even begun. -/
theorem draftItems_flawed {before : Text} {item : Json} {items : List Json}
    (flawed : item.flaw? ≠ none) :
    draftItems indent before close (item :: items) = [] ∨
      draftItems indent before close (item :: items) = before ++ item.draftAt indent := by
  -- Only what holds other values is begun.
  have some_flaw : ¬item.flaw?.isNone = true := by simpa using flawed
  cases item with
  | array items => exact .inr (by rw [draftItems, if_neg some_flaw])
  | object fields => exact .inr (by rw [draftItems, if_neg some_flaw])
  | _ => exact .inl (by rw [draftItems, if_neg some_flaw] <;> simp)

/-- A flawed item is a beginning of what would stand at its place. -/
theorem draftItems_flawed_begins {before after : Text} {item : Json} {items : List Json}
    (flawed : item.flaw? ≠ none) (begun : item.draftAt indent <+: item.writeAt indent) :
    draftItems indent before close (item :: items) <+: before ++ item.writeAt indent ++ after := by
  -- What is drafted of the row is nothing at all, or it ends within the flawed item.
  rcases draftItems_flawed flawed with none | drafted
  · exact none ▸ List.nil_prefix
  · rw [drafted, List.append_assoc, List.prefix_append_right_inj]
    exact begun.trans (List.prefix_append _ _)

/-- A flawless field is drafted in full, and the fields behind it follow. -/
theorem draftFields_clear {name : Text} {value : Json} {fields : List (JsonText × Json)}
    (exact : value.Throughout IsExact) (clear : value.flaw? = none) :
    draftFields indent close ((.whole name, value) :: fields) =
      writeText (.whole name) ++ [':', ' '] ++ value.writeAt indent ++
        ((if fields.isEmpty then [] else ',' :: newLine indent) ++ draftFields indent close fields) := by
  rw [draftFields]
  simp [clear, draftAt_eq exact clear]

/-- A flawed field is drafted without those behind it. -/
theorem draftFields_flawed {name : Text} {value : Json} {fields : List (JsonText × Json)}
    (flawed : value.flaw? ≠ none) :
    draftFields indent close ((.whole name, value) :: fields) =
      writeText (.whole name) ++ [':', ' '] ++ value.draftAt indent := by
  rw [draftFields]
  simp [flawed]

/-- A draft of items is a beginning of them. -/
theorem draftItems_begins {before : Text} {item : Json} {items : List Json}
    (exact : ∀ value ∈ item :: items, value.Throughout IsExact)
    (each : ∀ value ∈ item :: items, value.draftAt indent <+: value.writeAt indent) :
    draftItems indent before close (item :: items) <+:
      before ++ item.writeAt indent ++ (writeItems indent items ++ close) := by
  -- Behind a flawless item the next one follows, and behind a flawed one nothing does.
  induction items generalizing before item with
  | nil =>
    by_cases clear : item.flaw? = none
    · rw [draftItems_clear (exact item List.mem_cons_self) clear]
      exact List.prefix_rfl
    · exact draftItems_flawed_begins clear (each item List.mem_cons_self)
  | cons next items ih =>
    by_cases clear : item.flaw? = none
    · -- The item is drafted in full, and the others begin what would follow it.
      rw [draftItems_clear (exact item List.mem_cons_self) clear, List.prefix_append_right_inj]
      have others := @ih (',' :: newLine indent) next
        (fun value member => exact value (List.mem_cons_of_mem _ member))
        (fun value member => each value (List.mem_cons_of_mem _ member))
      simpa [writeItems] using others
    · -- The draft ends within this item.
      exact draftItems_flawed_begins clear (each item List.mem_cons_self)

/-- A draft of fields is a beginning of them. -/
theorem draftFields_begins {name : Text} {value : Json} {fields : List (JsonText × Json)}
    (whole : ∀ field ∈ fields, ∃ name : Text, field.1 = .whole name)
    (exact : ∀ field ∈ (JsonText.whole name, value) :: fields, field.2.Throughout IsExact)
    (each : ∀ field ∈ (JsonText.whole name, value) :: fields,
      field.2.draftAt indent <+: field.2.writeAt indent) :
    draftFields indent close ((.whole name, value) :: fields) <+:
      writeText (.whole name) ++ [':', ' '] ++ value.writeAt indent ++
        (writeFields indent fields ++ close) := by
  -- Behind a flawless field the next one follows, and behind a flawed one nothing does.
  have first : value.Throughout IsExact := exact _ List.mem_cons_self
  have begun : value.draftAt indent <+: value.writeAt indent := each _ List.mem_cons_self
  induction fields generalizing name value with
  | nil =>
    by_cases clear : value.flaw? = none
    · rw [draftFields_clear first clear]
      simp [draftFields, writeFields]
    · rw [draftFields_flawed clear, List.append_assoc _ (value.writeAt indent),
        List.prefix_append_right_inj]
      exact begun.trans (List.prefix_append _ _)
  | cons next fields ih =>
    by_cases clear : value.flaw? = none
    · obtain ⟨key, item⟩ := next
      obtain ⟨key, rfl⟩ : ∃ whole : Text, key = .whole whole := whole _ List.mem_cons_self
      -- The field is drafted in full, and the others begin what would follow it.
      have others := ih (fun field member => whole field (List.mem_cons_of_mem _ member))
        (fun field member => exact field (List.mem_cons_of_mem _ member))
        (fun field member => each field (List.mem_cons_of_mem _ member))
        (exact (.whole key, item) (by simp)) (each (.whole key, item) (by simp))
      rw [draftFields_clear first clear, List.prefix_append_right_inj]
      simpa [writeFields, List.prefix_append_right_inj] using others
    · -- The draft ends within this field, behind its name.
      rw [draftFields_flawed clear, List.append_assoc _ (value.writeAt indent),
        List.prefix_append_right_inj]
      exact begun.trans (List.prefix_append _ _)

/-- A draft of an exact value is a beginning of what would be written of it. -/
theorem draftAt_begins {value : Json} (exact : value.Throughout IsExact) (indent : Nat) :
    value.draftAt indent <+: value.writeAt indent := by
  -- What holds nothing is drafted in full or not at all.
  induction exact generalizing indent with
  | null here => exact draftAt_eq (.null here) rfl indent ▸ List.prefix_rfl
  | bool here => exact draftAt_eq (.bool here) rfl indent ▸ List.prefix_rfl
  | @whole value here =>
    by_cases clear : (Json.whole value).flaw? = none
    · exact draftAt_eq (.whole here) clear indent ▸ List.prefix_rfl
    · simp [draftAt, clear]
  | fraction here => exact here.elim
  | string here =>
    obtain ⟨text, rfl⟩ := here
    exact draftAt_eq (.string ⟨text, rfl⟩) rfl indent ▸ List.prefix_rfl
  | array here inside ih =>
    rename_i items
    cases items with
    | nil => exact draftAt_eq (.array here inside) rfl indent ▸ List.prefix_rfl
    -- The bracket is drafted together with the first item.
    | cons item items =>
      have begun : draftItems (indent + 1) ('[' :: newLine (indent + 1)) (newLine indent ++ [']'])
          (item :: items) <+: _ :=
        draftItems_begins inside fun value member => ih value member (indent + 1)
      simpa [draftAt, writeAt] using begun
  | object here inside ih =>
    rename_i fields
    cases fields with
    | nil => exact draftAt_eq (.object here inside) rfl indent ▸ List.prefix_rfl
    -- The brace is drafted with the first name, which is whole.
    | cons field fields =>
      obtain ⟨name, value⟩ := field
      obtain ⟨name, rfl⟩ : ∃ text : Text, name = .whole text := here _ List.mem_cons_self
      have begun : draftFields (indent + 1) (newLine indent ++ ['\x7d'])
          ((.whole name, value) :: fields) <+: _ :=
        draftFields_begins (fun field member => here field (List.mem_cons_of_mem _ member)) inside
          fun field member => ih field member (indent + 1)
      simpa [draftAt, writeAt] using begun

variable {limits : JsonLimits}

/-- What is drafted of a value is not read as anything, with more fuel than it is long. -/
def IsStuck (limits : JsonLimits) (value : Json) : Prop :=
  ∀ fuel indent result, (value.draftAt indent).length < fuel →
    readValue fuel limits (value.draftAt indent) ≠ .ok result

/-- Nothing is read from an empty text. -/
theorem readValue_nil (fuel : Nat) (limits : JsonLimits) (result : Json × Text) :
    readValue fuel limits [] ≠ .ok result := by
  -- A number is looked for, and it has no digit.
  cases fuel with
  | zero => simp [readValue]
  | succ fuel => simp [readValue, readScalar, readMagnitude, spanDigits]

/-- A beginning of a text that starts visibly does so, too, unless it is empty. -/
theorem StartsValue.of_begun {text begun : Text} (starts : StartsValue text)
    (beginning : begun <+: text) : begun = [] ∨ StartsValue begun := by
  obtain ⟨c, rest, rfl, visible, opens⟩ := starts
  -- A beginning that is not empty starts with the same character.
  cases begun with
  | nil => exact .inl rfl
  | cons d others =>
    obtain ⟨rfl, -⟩ := List.cons_prefix_cons.mp beginning
    exact .inr ⟨d, others, rfl, visible, opens⟩

/-- Nothing is skipped before a text that is empty or starts visibly. -/
theorem skipSpace_of_empty_or_startsValue {text : Text} (starts : text = [] ∨ StartsValue text) :
    skipSpace text = text := by
  -- Where nothing is left there is nothing to skip, and a value starts with no blank.
  rcases starts with rfl | starts
  · rfl
  · simpa using skipSpace_of_startsValue starts []

/-- Behind what it starts visibly with, a text may go on. -/
theorem StartsValue.append {text : Text} (starts : StartsValue text) (rest : Text) :
    StartsValue (text ++ rest) := by
  obtain ⟨c, others, rfl, visible, opens⟩ := starts
  exact ⟨c, others ++ rest, rfl, visible, opens⟩

/-- The draft of an exact value is empty or starts visibly. -/
theorem empty_or_startsValue_draftAt {value : Json} (exact : value.Throughout IsExact)
    (indent : Nat) : value.draftAt indent = [] ∨ StartsValue (value.draftAt indent) :=
  (startsValue_writeAt exact.here indent).of_begun (draftAt_begins exact indent)

/-- Items are not read where the first of them is not. -/
theorem readItems_ne_ok {fuel : Nat} {text : Text} {result : List Json × Text}
    (unread : ∀ first, readValue fuel limits text ≠ .ok first) :
    readItems (fuel + 1) limits text ≠ .ok result := by
  -- Whatever the list is read as, its first value would have been read.
  intro success
  rw [readItems] at success
  obtain ⟨first, read, -⟩ := bind_eq_ok_iff.mp success
  exact unread first read

/-- Items are not read where the text ends behind the first of them. -/
theorem readItems_end_ne_ok {fuel : Nat} {text : Text} {item : Json} {result : List Json × Text}
    (read : readValue fuel limits text = .ok (item, [])) :
    readItems (fuel + 1) limits text ≠ .ok result := by
  intro success
  simp [readItems, read, skipSpace, bind, Except.bind] at success

/-- Items are not read where none are read behind the comma of the first of them. -/
theorem readItems_comma_ne_ok {fuel : Nat} {text more : Text} {item : Json}
    {result : List Json × Text} (read : readValue fuel limits text = .ok (item, ',' :: more))
    (unread : ∀ others, readItems fuel limits (skipSpace more) ≠ .ok others) :
    readItems (fuel + 1) limits text ≠ .ok result := by
  -- Behind the comma, the further items would have been read.
  intro success
  have comma : skipSpace (',' :: more) = ',' :: more := rfl
  simp only [readItems, read, comma, bind, Except.bind] at success
  obtain ⟨others, others_read, -⟩ := map_eq_ok_iff.mp success
  exact unread others others_read

/-- Drafted items are missing, or behind a text of their own there is nothing that is read as items. -/
def ItemsAreStuck (limits : JsonLimits) (before draft : Text) : Prop :=
  draft = [] ∨ ∃ text, draft = before ++ text ∧ (text = [] ∨ StartsValue text) ∧
    ∀ fuel result, text.length + 1 < fuel → readItems fuel limits text ≠ .ok result

/-- Behind an item that is read back, items are stuck that are stuck themselves. -/
theorem ItemsAreStuck.cons {before draft : Text} {item : Json}
    (stuck : ItemsAreStuck limits (',' :: newLine indent) draft) (back : ReadsBack limits item) :
    ItemsAreStuck limits before (before ++ item.writeAt indent ++ draft) := by
  -- Behind the item there is nothing, or a comma with the items that are stuck.
  refine .inr ⟨item.writeAt indent ++ draft, by simp, .inr ((back.starts indent).append _), ?_⟩
  intro fuel result enough
  obtain ⟨fuel, rfl⟩ : ∃ less, fuel = less + 1 := ⟨fuel - 1, by omega⟩
  rw [List.length_append] at enough
  rcases stuck with rfl | ⟨text, rfl, starts, unread⟩
  · -- Nothing follows the item, so an end of the array is missing.
    exact readItems_end_ne_ok (back.read fuel indent [] (by omega) fun _ none => nomatch none)
  · -- A comma follows, and the reader goes on to the items that are stuck.
    have read : readValue fuel limits (item.writeAt indent ++ ((',' :: newLine indent) ++ text)) =
        .ok (item, ',' :: (newLine indent ++ text)) :=
      back.read fuel indent _ (by omega) (endsNumber_comma _)
    refine readItems_comma_ne_ok read fun others => ?_
    rw [skipSpace_newLine, skipSpace_of_empty_or_startsValue starts]
    refine unread fuel others ?_
    simp only [List.length_append, List.length_cons] at enough
    omega

/-- Items of which one is flawed are not read from their draft. -/
theorem itemsAreStuck_draftItems {before : Text} {items : List Json}
    (exact : ∀ value ∈ items, value.Throughout IsExact)
    (back : ∀ value ∈ items, value.flaw? = none → ReadsBack limits value)
    (stuck : ∀ value ∈ items, value.flaw? ≠ none → IsStuck limits value)
    (flawed : ∃ value ∈ items, value.flaw? ≠ none) :
    ItemsAreStuck limits before (draftItems indent before close items) := by
  -- The items before the first flawed one are read back, and behind it nothing is drafted.
  induction items generalizing before with
  | nil =>
    obtain ⟨value, none, -⟩ := flawed
    exact nomatch none
  | cons item items ih =>
    have item_exact := exact item List.mem_cons_self
    by_cases clear : item.flaw? = none
    · -- The item is read back, and the ones behind it are stuck.
      rw [draftItems_clear item_exact clear]
      refine ItemsAreStuck.cons ?_ (back item List.mem_cons_self clear)
      refine ih (fun value member => exact value (List.mem_cons_of_mem _ member))
        (fun value member => back value (List.mem_cons_of_mem _ member))
        (fun value member => stuck value (List.mem_cons_of_mem _ member)) ?_
      simpa [clear] using flawed
    -- The item is flawed: nothing of it is drafted, or a beginning that is stuck.
    · have cut : draftItems indent before close (item :: items) = [] ∨
          draftItems indent before close (item :: items) = before ++ item.draftAt indent :=
        draftItems_flawed clear
      rcases cut with none | drafted
      · exact .inl none
      · refine .inr ⟨_, drafted, empty_or_startsValue_draftAt item_exact indent, ?_⟩
        intro fuel result enough
        obtain ⟨fuel, rfl⟩ : ∃ less, fuel = less + 1 := ⟨fuel - 1, by omega⟩
        exact readItems_ne_ok fun first =>
          stuck item List.mem_cons_self clear fuel indent first (by omega)

/-- Fields are not read where the value of the first of them is not. -/
theorem readFields_ne_ok {fuel : Nat} {before : List (JsonText × Json)} {name text : Text}
    {result : List (JsonText × Json) × Text}
    (unread : ∀ first, readValue fuel limits (skipSpace text) ≠ .ok first) :
    readFields (fuel + 1) limits before (writeText (.whole name) ++ (':' :: ' ' :: text)) ≠
      .ok result := by
  -- The value of the first field would have been read.
  intro success
  rw [readFields_name] at success
  obtain ⟨first, read, -⟩ := bind_eq_ok_iff.mp success
  exact unread first read

/-- Behind a name and its value, fields are read behind a comma. -/
theorem readFields_comma {fuel : Nat} {before : List (JsonText × Json)} {name text more : Text}
    {value : Json} (starts : skipSpace text = text)
    (read : readValue fuel limits text = .ok (value, ',' :: more)) :
    readFields (fuel + 1) limits before (writeText (.whole name) ++ (':' :: ' ' :: text)) =
      readFields fuel limits (Ordered.put before (.whole name) value) (skipSpace more) := by
  -- The comma is no blank, so it is seen at once.
  have comma : skipSpace (',' :: more) = ',' :: more := rfl
  rw [readFields_writeText starts read]
  simp only [comma]

/-- Drafted fields start with the quote mark of the first name. -/
theorem exists_draftFields {fields : List (JsonText × Json)} (some_field : fields ≠ [])
    (whole : ∀ field ∈ fields, ∃ name : Text, field.1 = .whole name) :
    ∃ rest, draftFields indent close fields = '"' :: rest := by
  -- The first field opens with the quote mark of its name.
  cases fields with
  | nil => exact absurd rfl some_field
  | cons field fields =>
    obtain ⟨name, value⟩ := field
    obtain ⟨name, rfl⟩ : ∃ text : Text, name = .whole text := whole _ List.mem_cons_self
    rw [draftFields, JsonText.flaw?_whole, writeText, writeString]
    exact ⟨_, rfl⟩

/-- Fields of which one has a flawed value are not read from their draft. -/
theorem readFields_draftFields {fields : List (JsonText × Json)} {fuel : Nat}
    {before : List (JsonText × Json)} {result : List (JsonText × Json) × Text}
    (whole : ∀ field ∈ fields, ∃ name : Text, field.1 = .whole name)
    (exact : ∀ field ∈ fields, field.2.Throughout IsExact)
    (back : ∀ field ∈ fields, field.2.flaw? = none → ReadsBack limits field.2)
    (stuck : ∀ field ∈ fields, field.2.flaw? ≠ none → IsStuck limits field.2)
    (flawed : ∃ field ∈ fields, field.2.flaw? ≠ none)
    (enough : (draftFields indent close fields).length < fuel) :
    readFields fuel limits before (draftFields indent close fields) ≠ .ok result := by
  -- The fields before the first flawed one are read back, and behind it nothing is drafted.
  induction fields generalizing fuel before with
  | nil =>
    obtain ⟨field, none, -⟩ := flawed
    exact nomatch none
  | cons field fields ih =>
    obtain ⟨name, value⟩ := field
    obtain ⟨name, rfl⟩ : ∃ text : Text, name = .whole text := whole _ List.mem_cons_self
    have value_exact : value.Throughout IsExact := exact _ List.mem_cons_self
    have others_whole := fun field member => whole field (List.mem_cons_of_mem _ member)
    obtain ⟨fuel, rfl⟩ : ∃ less, fuel = less + 1 := ⟨fuel - 1, by omega⟩
    by_cases clear : value.flaw? = none
    · have value_back : ReadsBack limits value := back _ List.mem_cons_self clear
      have others_flawed : ∃ field ∈ fields, field.2.flaw? ≠ none := by
        simpa [clear] using flawed
      have some_field : fields ≠ [] := by
        rintro rfl
        simp at others_flawed
      -- The field is read back, and a comma leads to the fields behind it.
      have drafted : draftFields indent close ((.whole name, value) :: fields) =
          writeText (.whole name) ++ (':' :: ' ' :: (value.writeAt indent ++
            (',' :: (newLine indent ++ draftFields indent close fields)))) := by
        rw [draftFields_clear value_exact clear]
        simp [some_field]
      have skip : skipSpace (draftFields indent close fields) =
          draftFields indent close fields := by
        obtain ⟨rest, starts⟩ := exists_draftFields some_field others_whole
        rw [starts]
        rfl
      rw [drafted] at enough ⊢
      simp only [List.length_append, List.length_cons] at enough
      rw [readFields_comma (skipSpace_of_startsValue (value_back.starts indent) _)
        (value_back.read fuel indent _ (by omega) (endsNumber_comma _)), skipSpace_newLine, skip]
      exact ih others_whole (fun field member => exact field (List.mem_cons_of_mem _ member))
        (fun field member => back field (List.mem_cons_of_mem _ member))
        (fun field member => stuck field (List.mem_cons_of_mem _ member)) others_flawed (by omega)
    · -- The field is flawed, so nothing is drafted behind the beginning of its value.
      have drafted : draftFields indent close ((.whole name, value) :: fields) =
          writeText (.whole name) ++ (':' :: ' ' :: value.draftAt indent) := by
        rw [draftFields_flawed clear]
        simp
      rw [drafted] at enough ⊢
      simp only [List.length_append, List.length_cons] at enough
      refine readFields_ne_ok fun first => ?_
      rw [skipSpace_of_empty_or_startsValue (empty_or_startsValue_draftAt value_exact indent)]
      exact stuck _ List.mem_cons_self clear fuel indent first (by simp only; omega)

/-- Nothing is read behind a bracket where no items are read. -/
theorem readValue_bracket_ne_ok {inner : JsonLimits} {fuel : Nat} {text : Text}
    {result : Json × Text} (inside : limits.inside = .ok inner)
    (opens : ∀ rest, skipSpace text ≠ ']' :: rest)
    (unread : ∀ items, readItems fuel inner (skipSpace text) ≠ .ok items) :
    readValue (fuel + 1) limits ('[' :: text) ≠ .ok result := by
  -- What does not close at once is read as items, and these cannot be read.
  intro success
  simp only [readValue, inside, bind, Except.bind] at success
  obtain ⟨items, read, -⟩ := map_eq_ok_iff.mp success
  exact unread items read

/-- Nothing is read behind a brace where no fields are read. -/
theorem readValue_brace_ne_ok {inner : JsonLimits} {fuel : Nat} {text : Text}
    {result : Json × Text} (inside : limits.inside = .ok inner)
    (opens : ∀ rest, skipSpace text ≠ '\x7d' :: rest)
    (unread : ∀ fields, readFields fuel inner [] (skipSpace text) ≠ .ok fields) :
    readValue (fuel + 1) limits ('\x7b' :: text) ≠ .ok result := by
  -- What does not close at once is read as fields, and these cannot be read.
  intro success
  simp only [readValue, inside, bind, Except.bind] at success
  obtain ⟨fields, read, -⟩ := map_eq_ok_iff.mp success
  exact unread fields read

/-- An array is stuck if its items are. -/
theorem isStuck_array {inner : JsonLimits} {items : List Json} (inside : limits.inside = .ok inner)
    (some_item : items ≠ [])
    (stuck : ∀ indent before close, ItemsAreStuck inner before (draftItems indent before close items)) :
    IsStuck limits (.array items) := by
  -- Where no item is drafted, there is no bracket either.
  intro fuel indent result enough
  obtain ⟨item, items, rfl⟩ := List.exists_cons_of_ne_nil some_item
  rw [draftAt] at enough ⊢
  rcases stuck (indent + 1) ('[' :: newLine (indent + 1)) (newLine indent ++ [']']) with
    none | ⟨text, drafted, starts, unread⟩
  · -- Not even the bracket was drafted, and an empty text is no value.
    rw [none]
    exact readValue_nil fuel limits result
  · -- The bracket was drafted, and the items behind it are stuck.
    have skip : skipSpace (newLine (indent + 1) ++ text) = text := by
      rw [skipSpace_newLine, skipSpace_of_empty_or_startsValue starts]
    rw [drafted, List.cons_append] at enough ⊢
    simp only [List.length_cons, List.length_append, newLine] at enough
    obtain ⟨fuel, rfl⟩ : ∃ less, fuel = less + 1 := ⟨fuel - 1, by omega⟩
    refine readValue_bracket_ne_ok inside ?_ fun found => ?_
    · rw [skip]
      rintro rest rfl
      rcases starts with none | ⟨c, others, first, -, opens⟩
      · cases none
      · exact opens (List.cons.inj first).1.symm
    · rw [skip]
      exact unread fuel found (by omega)

/-- An object is stuck if its drafted fields are not read. -/
theorem isStuck_object {inner : JsonLimits} {fields : List (JsonText × Json)}
    (inside : limits.inside = .ok inner) (some_field : fields ≠ [])
    (whole : ∀ field ∈ fields, ∃ name : Text, field.1 = .whole name)
    (stuck : ∀ indent close fuel result, (draftFields indent close fields).length < fuel →
      readFields fuel inner [] (draftFields indent close fields) ≠ .ok result) :
    IsStuck limits (.object fields) := by
  -- The first name follows the brace, so the object is not empty.
  intro fuel indent result enough
  -- The draft of the fields starts with a name.
  obtain ⟨rest, starts⟩ : ∃ rest,
      draftFields (indent + 1) (newLine indent ++ ['\x7d']) fields = '"' :: rest :=
    exists_draftFields some_field whole
  have unread := stuck (indent + 1) (newLine indent ++ ['\x7d'])
  obtain ⟨field, fields, rfl⟩ := List.exists_cons_of_ne_nil some_field
  rw [starts] at unread
  rw [draftAt, starts, List.cons_append] at enough ⊢
  simp only [List.length_cons, List.length_append] at enough unread
  obtain ⟨fuel, rfl⟩ : ∃ less, fuel = less + 1 := ⟨fuel - 1, by omega⟩
  have skip : skipSpace (newLine (indent + 1) ++ '"' :: rest) = '"' :: rest :=
    skipSpace_newLine _ _
  refine readValue_brace_ne_ok inside ?_ fun found => ?_
  · rw [skip]
    simp
  · rw [skip]
    exact unread fuel found (by omega)

variable {depth : Option Nat}

/-- A sound value with a flaw is stuck within the limits on what can be written. -/
theorem isStuck_of_flawed {value : Json} (sound : value.Throughout IsSound)
    (deep : ∀ most, depth = some most → value.depth ≤ most) (flawed : value.flaw? ≠ none) :
    IsStuck ⟨some maxNumeralDigits, depth⟩ value := by
  -- The depth that is left falls with every value that holds others.
  have back : ∀ {value : Json} {depth : Option Nat}, value.Throughout IsSound →
      (∀ most, depth = some most → value.depth ≤ most) → value.flaw? = none →
      ReadsBack ⟨some maxNumeralDigits, depth⟩ value := by
    intro value depth sound deep clear
    have exact : value.Throughout IsExact := sound.imp fun _ both => both.1
    exact readsBack_of_legible (sound.and ((flaw?_eq_none_iff exact).mp clear)) deep
  induction sound generalizing depth with
  | null _ | bool _ => exact absurd rfl flawed
  -- A whole number is drafted in full or not at all.
  | whole _ =>
    intro fuel indent result _
    rw [draftAt, if_neg (by simpa using flawed)]
    · exact readValue_nil fuel _ result
    all_goals simp
  | fraction here => exact here.1.elim
  | string here =>
    obtain ⟨text, rfl⟩ := here.1
    exact absurd rfl flawed
  -- Some item of the array is flawed, and the others can be read with the depth that is left.
  | @array items _ each ih =>
    obtain ⟨less, inside, room⟩ := exists_inside (some maxNumeralDigits) deep
    have shallow : ∀ item ∈ items, ∀ most, less = some most → item.depth ≤ most :=
      fun item member most limit => depthOfItems_le_iff.mp (room most limit) item member
    have some_flawed : ∃ item ∈ items, item.flaw? ≠ none := by
      rw [flaw?, flawOfItems?_eq, ne_eq, List.findSome?_eq_none_iff] at flawed
      simpa using flawed
    refine isStuck_array inside ?_ fun indent before close => itemsAreStuck_draftItems
      (fun item member => (each item member).imp fun _ both => both.1)
      (fun item member => back (each item member) (shallow item member))
      (fun item member => ih item member (shallow item member)) some_flawed
    rintro rfl
    simp at some_flawed
  -- Some value of the object is flawed, since its names are whole.
  | @object fields here each ih =>
    obtain ⟨less, inside, room⟩ := exists_inside (some maxNumeralDigits) deep
    have shallow : ∀ field ∈ fields, ∀ most, less = some most → field.2.depth ≤ most :=
      fun field member most limit => depthOfFields_le_iff.mp (room most limit) field member
    have some_flawed : ∃ field ∈ fields, field.2.flaw? ≠ none := by
      rw [flaw?, flawOfFields?_eq, ne_eq, List.findSome?_eq_none_iff] at flawed
      simp only [not_forall] at flawed
      obtain ⟨field, member, flaw⟩ := flawed
      obtain ⟨text, whole⟩ := here.1 field member
      rw [whole, JsonText.flaw?_whole, Option.none_or] at flaw
      exact ⟨field, member, flaw⟩
    refine isStuck_object inside ?_ here.1 fun indent close fuel result => readFields_draftFields
      here.1 (fun field member => (each field member).imp fun _ both => both.1)
      (fun field member => back (each field member) (shallow field member))
      (fun field member => ih field member (shallow field member)) some_flawed
    rintro rfl
    simp at some_flawed

/-- The draft of a sound value with a flaw is not JSON that can be read. -/
theorem readWithin_draft {value : Json} (sound : value.Throughout IsSound)
    (deep : ∀ most, depth = some most → value.depth ≤ most) (flawed : value.flaw? ≠ none)
    (result : Json) : readWithin ⟨some maxNumeralDigits, depth⟩ value.draft ≠ .ok result := by
  -- Nothing stands before the value, and already the value is not read.
  have exact : value.Throughout IsExact := sound.imp fun _ both => both.1
  intro success
  rw [readWithin, draft, skipSpace_of_empty_or_startsValue (empty_or_startsValue_draftAt exact 0)]
    at success
  obtain ⟨found, read, -⟩ := bind_eq_ok_iff.mp success
  exact isStuck_of_flawed sound deep flawed _ 0 found (Nat.lt_succ_self _) read

end Json

end DiceChat
