import DiceChat.Proofs.Json.Number
import DiceChat.Proofs.Json.Text
import DiceChat.Proofs.Outcome

/-! A JSON value that is written and read again is the same value, if it is legible and the limits admit it. -/

namespace DiceChat

namespace Json

variable {digits depth : Option Nat}

/-- A text starts with a visible character that does not close an array. -/
def StartsValue (text : Text) : Prop :=
  ∃ c rest, text = c :: rest ∧ isSpace c = false ∧ c ≠ ']'

/-- Numerals start visibly. -/
theorem startsValue_writeInt (value : Int) : StartsValue (writeInt value) := by
  -- None of the characters that are skipped is a digit or a minus sign.
  obtain ⟨c, rest, row, numeral⟩ := exists_writeInt value
  have apart : ∀ other : Char, other.isDigit = false → other ≠ '-' → c ≠ other :=
    fun _ => ne_of_startsNumeral numeral
  refine ⟨c, rest, row, ?_, apart ']' (by decide) (by decide)⟩
  simp [isSpace, apart ' ' (by decide) (by decide), apart '\t' (by decide) (by decide),
    apart '\n' (by decide) (by decide), apart '\r' (by decide) (by decide)]

/-- Whatever is written of an exact value starts visibly. -/
theorem startsValue_writeAt {value : Json} (exact : value.IsExact) (indent : Nat) :
    StartsValue (value.writeAt indent) := by
  -- Each sort of value is written with a first character of its own.
  cases value with
  | null => exact ⟨'n', _, rfl, by decide, by decide⟩
  | bool value => cases value <;> exact ⟨_, _, rfl, by decide, by decide⟩
  | whole value =>
    rw [writeAt]
    exact startsValue_writeInt value
  | fraction value => exact exact.elim
  | string text =>
    obtain ⟨text, rfl⟩ := exact
    exact ⟨'"', _, rfl, by decide, by decide⟩
  | array items =>
    cases items <;>
    · rw [writeAt]
      exact ⟨'[', _, rfl, by decide, by decide⟩
  | object fields =>
    rcases fields with _ | ⟨⟨name, value⟩, fields⟩ <;>
    · rw [writeAt]
      exact ⟨'\x7b', _, rfl, by decide, by decide⟩

/-- Nothing is skipped before a text that starts visibly. -/
theorem skipSpace_of_startsValue {text : Text} (starts : StartsValue text) (rest : Text) :
    skipSpace (text ++ rest) = text ++ rest := by
  obtain ⟨c, others, rfl, visible, -⟩ := starts
  simp [skipSpace, visible]

/-- A new line is skipped. -/
@[simp] theorem skipSpace_newLine (indent : Nat) (rest : Text) :
    skipSpace (newLine indent ++ rest) = skipSpace rest := by
  -- A new line is a line feed and the spaces of the indentation.
  have spaces : ∀ c ∈ newLine indent, isSpace c = true := by
    intro c member
    rcases List.mem_cons.mp member with rfl | inside
    · decide
    · rw [List.eq_of_mem_replicate inside]
      decide
  exact List.dropWhile_append_of_pos spaces

/-- A number ends at a new line. -/
theorem endsNumber_newLine (indent : Nat) (rest : Text) : EndsNumber (newLine indent ++ rest) := by
  -- A line end goes on with no number.
  rintro c first
  obtain rfl : '\n' = c := by simpa [newLine] using first
  decide

/-- A number ends at a comma. -/
theorem endsNumber_comma (rest : Text) : EndsNumber (',' :: rest) := by
  -- Neither does a comma.
  rintro c first
  obtain rfl : ',' = c := by simpa using first
  decide

/-- A value that is no text, array or object is read as a constant or a number. -/
theorem readValue_scalar {limits : JsonLimits} {fuel : Nat} {c : Char} (quote : c ≠ '"')
    (bracket : c ≠ '[') (brace : c ≠ '\x7b') (rest : Text) :
    readValue (fuel + 1) limits (c :: rest) = readScalar limits (c :: rest) := by
  -- The three characters excluded are the ones that start the other sorts.
  rw [readValue]
  all_goals
    intros
    rename_i equal
    simp_all

/-- An item before the closing bracket is the last one. -/
theorem readItems_last {limits : JsonLimits} {fuel : Nat} {text rest after : Text} {item : Json}
    (read : readValue fuel limits text = .ok (item, rest)) (close : skipSpace rest = ']' :: after) :
    readItems (fuel + 1) limits text = .ok ([item], after) := by
  simp only [readItems, read, close, bind, Except.bind]

/-- An item before a comma is followed by more items. -/
theorem readItems_comma {limits : JsonLimits} {fuel : Nat} {text rest more after : Text}
    {item : Json} {items : List Json} (read : readValue fuel limits text = .ok (item, rest))
    (comma : skipSpace rest = ',' :: more)
    (others : readItems fuel limits (skipSpace more) = .ok (items, after)) :
    readItems (fuel + 1) limits text = .ok (item :: items, after) := by
  simp only [readItems, read, comma, others, bind, Except.bind, Except.map]

/-- What is written of a value starts visibly and is read as this value within limits. -/
structure ReadsBack (limits : JsonLimits) (value : Json) : Prop where
  /-- It is found behind space, and does not close anything. -/
  starts : ∀ indent, StartsValue (value.writeAt indent)
  /-- It is read with as much fuel as it is long, and what follows it is left. -/
  read : ∀ fuel indent rest, (value.writeAt indent).length < fuel → EndsNumber rest →
    readValue fuel limits (value.writeAt indent ++ rest) = .ok (value, rest)

/-- Items that are each read back are read back together. -/
theorem readItems_written {limits : JsonLimits} {indent outer fuel : Nat} {rest : Text}
    {item : Json} {items : List Json} (back : ∀ value ∈ item :: items, ReadsBack limits value)
    (enough : (item.writeAt indent).length + (writeItems indent items).length + 1 < fuel) :
    readItems fuel limits
      (item.writeAt indent ++ (writeItems indent items ++ (newLine outer ++ ']' :: rest))) =
      .ok (item :: items, rest) := by
  -- Each item takes one unit of fuel, and a comma comes before the next one.
  induction items generalizing item fuel with
  | nil =>
    obtain ⟨fuel, rfl⟩ : ∃ less, fuel = less + 1 := ⟨fuel - 1, by omega⟩
    -- The last item stands before the closing bracket, where its number would end.
    have read := (back item List.mem_cons_self).read fuel indent (newLine outer ++ ']' :: rest)
      (by omega) (endsNumber_newLine _ _)
    exact readItems_last read (skipSpace_newLine outer (']' :: rest))
  | cons next items ih =>
    obtain ⟨fuel, rfl⟩ : ∃ less, fuel = less + 1 := ⟨fuel - 1, by omega⟩
    have written : writeItems indent (next :: items) =
        ',' :: (newLine indent ++ (next.writeAt indent ++ writeItems indent items)) := by
      simp [writeItems]
    -- Behind the comma the next item is written on a line of its own.
    rw [written] at enough ⊢
    simp only [List.length_cons, List.length_append] at enough
    have read := (back item List.mem_cons_self).read fuel indent
      (',' :: (newLine indent ++ (next.writeAt indent ++ writeItems indent items)) ++
        (newLine outer ++ ']' :: rest)) (by omega) (endsNumber_comma _)
    have others : readItems fuel limits (next.writeAt indent ++
        (writeItems indent items ++ (newLine outer ++ ']' :: rest))) = .ok (next :: items, rest) :=
      ih (fun value member => back value (List.mem_cons_of_mem item member)) (by omega)
    refine readItems_comma read rfl ?_
    have starts := (back next (by simp)).starts indent
    simpa [skipSpace_of_startsValue starts] using others

/-- Behind a name the value is read, and then the end or the next field. -/
theorem readFields_name {limits : JsonLimits} {fuel : Nat} {before : List (JsonText × Json)}
    {name text : Text} :
    readFields (fuel + 1) limits before (writeText (.whole name) ++ (':' :: ' ' :: text)) =
      (readValue fuel limits (skipSpace text)).bind fun (value, rest) =>
        match skipSpace rest with
        | '\x7d' :: rest => .ok (Ordered.put before (.whole name) value, rest)
        | ',' :: rest =>
          readFields fuel limits (Ordered.put before (.whole name) value) (skipSpace rest)
        | _ => .error .notJson := by
  -- The name is read up to its closing quote mark, and the value behind the colon and the space.
  have key : readText (name.flatMap writeChar ++ ['"'] ++ ':' :: ' ' :: text) =
      .ok (.whole name, ':' :: ' ' :: text) := by
    simpa using readText_writeChars name (':' :: ' ' :: text)
  rw [writeText, writeString, List.cons_append, List.cons_append, readFields, key]
  rfl

/-- Behind a name and its value, a field is put after those before it. -/
theorem readFields_writeText {limits : JsonLimits} {fuel : Nat}
    {before : List (JsonText × Json)} {name text rest : Text} {value : Json}
    (starts : skipSpace text = text) (read : readValue fuel limits text = .ok (value, rest)) :
    readFields (fuel + 1) limits before (writeText (.whole name) ++ (':' :: ' ' :: text)) =
      match skipSpace rest with
      | '\x7d' :: rest => .ok (Ordered.put before (.whole name) value, rest)
      | ',' :: rest =>
        readFields fuel limits (Ordered.put before (.whole name) value) (skipSpace rest)
      | _ => .error .notJson := by
  -- The name is read back first, and then the value that is known.
  rw [readFields_name, starts, read]
  rfl

/-- Fields with whole and distinct names whose values are read back are read back together. -/
theorem readFields_written {limits : JsonLimits} {indent outer fuel : Nat} {rest : Text}
    {before fields : List (JsonText × Json)} {name : Text} {value : Json}
    (whole : ∀ field ∈ fields, ∃ name : Text, field.1 = .whole name)
    (distinct : (before.map Prod.fst ++ .whole name :: fields.map Prod.fst).Nodup)
    (first : ReadsBack limits value) (back : ∀ field ∈ fields, ReadsBack limits field.2)
    (enough : (value.writeAt indent).length + (writeFields indent fields).length + 1 < fuel) :
    readFields fuel limits before (writeText (.whole name) ++ (':' :: ' ' ::
      (value.writeAt indent ++ (writeFields indent fields ++ (newLine outer ++ '\x7d' :: rest))))) =
      .ok (before ++ (.whole name, value) :: fields, rest) := by
  -- Each field goes to the end of those before it, since its name is new.
  induction fields generalizing before name value fuel with
  | nil =>
    obtain ⟨fuel, rfl⟩ : ∃ less, fuel = less + 1 := ⟨fuel - 1, by omega⟩
    have read := first.read fuel indent (newLine outer ++ '\x7d' :: rest) (by omega)
      (endsNumber_newLine _ _)
    have close : skipSpace (newLine outer ++ '\x7d' :: rest) = '\x7d' :: rest :=
      skipSpace_newLine outer ('\x7d' :: rest)
    -- The name is not among those that were read.
    have fresh : JsonText.whole name ∉ before.map Prod.fst := fun inside =>
      (List.nodup_append.mp distinct).2.2 _ inside _ List.mem_cons_self rfl
    rw [writeFields, List.nil_append,
      readFields_writeText (skipSpace_of_startsValue (first.starts indent) _) read, close,
      Ordered.put_of_notMem value fresh]
    rfl
  | cons next fields ih =>
    obtain ⟨fuel, rfl⟩ : ∃ less, fuel = less + 1 := ⟨fuel - 1, by omega⟩
    obtain ⟨key, item⟩ := next
    obtain ⟨key, rfl⟩ : ∃ whole : Text, key = .whole whole := whole _ List.mem_cons_self
    have written : writeFields indent ((.whole key, item) :: fields) ++
        (newLine outer ++ '\x7d' :: rest) =
        ',' :: (newLine indent ++ (writeText (.whole key) ++ (':' :: ' ' ::
          (item.writeAt indent ++
            (writeFields indent fields ++ (newLine outer ++ '\x7d' :: rest)))))) := by
      simp [writeFields]
    have longer : (item.writeAt indent).length + (writeFields indent fields).length + 1 <
        (writeFields indent ((.whole key, item) :: fields)).length := by
      simp only [writeFields, List.length_append, List.length_cons, List.length_nil]
      omega
    -- The name is not among those that were read, so the field goes behind them.
    have fresh : JsonText.whole name ∉ before.map Prod.fst := fun inside =>
      (List.nodup_append.mp distinct).2.2 _ inside _ List.mem_cons_self rfl
    have second : ReadsBack limits item := back _ List.mem_cons_self
    have read := fun rest => first.read fuel indent rest (by omega)
    -- The others are read behind this field, with all the names still distinct.
    have others : readFields fuel limits (before ++ [(.whole name, value)])
        (writeText (.whole key) ++ (':' :: ' ' :: (item.writeAt indent ++
          (writeFields indent fields ++ (newLine outer ++ '\x7d' :: rest))))) =
        .ok (before ++ (.whole name, value) :: (.whole key, item) :: fields, rest) := by
      have known : ((before ++ [(JsonText.whole name, value)]).map Prod.fst ++
          .whole key :: fields.map Prod.fst).Nodup := by
        simpa using distinct
      have read := ih (fun field member => whole field (List.mem_cons_of_mem _ member)) known
        second (fun field member => back field (List.mem_cons_of_mem _ member))
        (show _ < fuel by omega)
      simpa using read
    rw [written, readFields_writeText (skipSpace_of_startsValue (first.starts indent) _)
      (read _ (endsNumber_comma _)), Ordered.put_of_notMem value fresh]
    have comma : ∀ more, skipSpace (',' :: more) = ',' :: more := fun _ => rfl
    simp only [comma, skipSpace_newLine]
    exact others

/-- Where a value may hold others so deep, there are limits for those that it holds. -/
theorem exists_inside (digits : Option Nat) {most : Nat}
    (deep : ∀ limit, depth = some limit → most + 1 ≤ limit) :
    ∃ less, JsonLimits.inside ⟨digits, depth⟩ = .ok ⟨digits, less⟩ ∧
      ∀ limit, less = some limit → most ≤ limit := by
  -- One level of depth is used up, if depth is limited at all.
  cases depth with
  | none => exact ⟨none, rfl, fun limit none => nomatch none⟩
  | some limit =>
    have room := deep limit rfl
    obtain ⟨less, rfl⟩ : ∃ less, limit = less + 1 := ⟨limit - 1, by omega⟩
    refine ⟨some less, rfl, ?_⟩
    rintro _ ⟨⟩
    omega

/-- A bracket before items is read as the array of these items. -/
theorem readValue_bracket {limits inner : JsonLimits} {fuel : Nat} {c : Char}
    {text others rest : Text} {items : List Json} (inside : limits.inside = .ok inner)
    (start : skipSpace text = c :: others) (item : c ≠ ']')
    (read : readItems fuel inner (c :: others) = .ok (items, rest)) :
    readValue (fuel + 1) limits ('[' :: text) = .ok (.array items, rest) := by
  simp [readValue, inside, start, item, read, bind, Except.bind, Except.map]

/-- A brace before fields is read as the object of these fields. -/
theorem readValue_brace {limits inner : JsonLimits} {fuel : Nat} {text others rest : Text}
    {fields : List (JsonText × Json)} (inside : limits.inside = .ok inner)
    (start : skipSpace text = '"' :: others)
    (read : readFields fuel inner [] ('"' :: others) = .ok (fields, rest)) :
    readValue (fuel + 1) limits ('\x7b' :: text) = .ok (.object fields, rest) := by
  simp [readValue, inside, start, read, bind, Except.bind, Except.map]

/-- An array is read back if its items are. -/
theorem readsBack_array {limits inner : JsonLimits} {items : List Json}
    (inside : limits.inside = .ok inner) (back : ∀ item ∈ items, ReadsBack inner item) :
    ReadsBack limits (.array items) := by
  -- The indentation of the items is one step deeper than that of the brackets.
  refine ⟨startsValue_writeAt trivial, ?_⟩
  intro fuel indent rest enough _
  obtain ⟨fuel, rfl⟩ : ∃ less, fuel = less + 1 := ⟨fuel - 1, by omega⟩
  cases items with
  | nil =>
    rw [writeAt]
    change readValue (fuel + 1) limits ('[' :: ']' :: rest) = _
    have close : skipSpace (']' :: rest) = ']' :: rest := rfl
    simp only [readValue, inside, close, bind, Except.bind]
  | cons item items =>
    -- The items are written one step deeper, and the fuel is enough for them.
    have written : (Json.array (item :: items)).writeAt indent ++ rest =
        '[' :: (newLine (indent + 1) ++ (item.writeAt (indent + 1) ++
          (writeItems (indent + 1) items ++ (newLine indent ++ ']' :: rest)))) := by
      simp [writeAt]
    have shorter : (item.writeAt (indent + 1)).length + (writeItems (indent + 1) items).length + 1 <
        fuel := by
      simp only [writeAt, List.length_append, List.length_cons, List.length_nil] at enough
      omega
    have starts := (back item List.mem_cons_self).starts (indent + 1)
    have skip := skipSpace_of_startsValue starts
      (writeItems (indent + 1) items ++ (newLine indent ++ ']' :: rest))
    have read : readItems fuel inner (item.writeAt (indent + 1) ++
        (writeItems (indent + 1) items ++ (newLine indent ++ ']' :: rest))) =
        .ok (item :: items, rest) := readItems_written back shorter
    -- The first item does not start with a closing bracket.
    obtain ⟨c, others, text, -, opens⟩ := starts
    rw [text, List.cons_append] at skip read
    rw [written, text]
    exact readValue_bracket inside (by rw [skipSpace_newLine]; exact skip) opens read

/-- An object is read back if the values of its fields are, and their names are whole and distinct. -/
theorem readsBack_object {limits inner : JsonLimits} {fields : List (JsonText × Json)}
    (inside : limits.inside = .ok inner)
    (whole : ∀ field ∈ fields, ∃ name : Text, field.1 = .whole name)
    (distinct : (fields.map Prod.fst).Nodup) (back : ∀ field ∈ fields, ReadsBack inner field.2) :
    ReadsBack limits (.object fields) := by
  -- The first field follows the opening brace, and the others are written behind commas.
  refine ⟨startsValue_writeAt whole, ?_⟩
  intro fuel indent rest enough _
  obtain ⟨fuel, rfl⟩ : ∃ less, fuel = less + 1 := ⟨fuel - 1, by omega⟩
  cases fields with
  | nil =>
    rw [writeAt]
    change readValue (fuel + 1) limits ('\x7b' :: '\x7d' :: rest) = _
    have close : skipSpace ('\x7d' :: rest) = '\x7d' :: rest := rfl
    simp only [readValue, inside, close, bind, Except.bind]
  | cons field fields =>
    obtain ⟨name, value⟩ := field
    obtain ⟨name, rfl⟩ : ∃ text : Text, name = .whole text := whole _ List.mem_cons_self
    -- The first field is written one step deeper, and its name is whole.
    have written : (Json.object ((.whole name, value) :: fields)).writeAt indent ++ rest =
        '\x7b' :: (newLine (indent + 1) ++ (writeText (.whole name) ++ (':' :: ' ' ::
          (value.writeAt (indent + 1) ++
            (writeFields (indent + 1) fields ++ (newLine indent ++ '\x7d' :: rest)))))) := by
      simp [writeAt]
    have shorter : (value.writeAt (indent + 1)).length +
        (writeFields (indent + 1) fields).length + 1 < fuel := by
      simp only [writeAt, List.length_append, List.length_cons, List.length_nil] at enough
      omega
    have read : readFields fuel inner [] (writeText (.whole name) ++ (':' :: ' ' ::
        (value.writeAt (indent + 1) ++
          (writeFields (indent + 1) fields ++ (newLine indent ++ '\x7d' :: rest))))) =
        .ok ((.whole name, value) :: fields, rest) :=
      readFields_written (fun field member => whole field (List.mem_cons_of_mem _ member)) distinct
        (back _ List.mem_cons_self) (fun field member => back field (List.mem_cons_of_mem _ member))
        shorter
    rw [written]
    exact readValue_brace inside (skipSpace_newLine _ _) read

/-- A constant is read back. -/
theorem readsBack_constant {limits : JsonLimits} {value : Json} (constant : value.IsExact)
    {c : Char} {word : Text} (text : ∀ indent, value.writeAt indent = c :: word) (quote : c ≠ '"')
    (bracket : c ≠ '[') (brace : c ≠ '\x7b')
    (read : ∀ rest, readScalar limits (c :: (word ++ rest)) = .ok (value, rest)) :
    ReadsBack limits value := by
  refine ⟨startsValue_writeAt constant, ?_⟩
  -- There is fuel for one value, and a constant needs no more.
  intro fuel indent rest enough _
  obtain ⟨fuel, rfl⟩ : ∃ less, fuel = less + 1 := ⟨fuel - 1, by omega⟩
  -- The first character is none of those that open a text, an array or an object.
  rw [text, List.cons_append, readValue_scalar quote bracket brace]
  exact read rest

/-- A whole number is read back if it is short enough. -/
theorem readsBack_whole {value : Int} (short : (Json.whole value).IsWithin digits) :
    ReadsBack ⟨digits, depth⟩ (.whole value) := by
  -- A numeral starts with none of the characters that start other values.
  refine ⟨startsValue_writeAt trivial, ?_⟩
  intro fuel indent rest enough ends
  obtain ⟨fuel, rfl⟩ : ∃ less, fuel = less + 1 := ⟨fuel - 1, by omega⟩
  have read : readScalar ⟨digits, depth⟩ (writeInt value ++ rest) = .ok (.whole value, rest) :=
    readScalar_writeInt short ends
  obtain ⟨c, others, text, numeral⟩ := exists_writeInt value
  rw [text] at read
  rw [writeAt, text, List.cons_append,
    readValue_scalar (ne_of_startsNumeral numeral (by decide) (by decide))
      (ne_of_startsNumeral numeral (by decide) (by decide))
      (ne_of_startsNumeral numeral (by decide) (by decide))]
  exact read

/-- A text is read back. -/
theorem readsBack_string {limits : JsonLimits} (text : Text) :
    ReadsBack limits (.string (.whole text)) := by
  -- The escapes are read back up to the closing quote mark.
  refine ⟨startsValue_writeAt ⟨text, rfl⟩, ?_⟩
  intro fuel indent rest enough _
  obtain ⟨fuel, rfl⟩ : ∃ less, fuel = less + 1 := ⟨fuel - 1, by omega⟩
  have read := readText_writeChars text rest
  rw [writeAt, writeText, writeString, List.cons_append, List.cons_append, List.append_assoc,
    readValue]
  simp [read, Except.map]

/-- A legible value is read back within limits on its digits and its depth. -/
theorem readsBack_of_legible {value : Json} (legible : value.Throughout (IsLegible digits))
    (deep : ∀ most, depth = some most → value.depth ≤ most) : ReadsBack ⟨digits, depth⟩ value := by
  -- The depth that is left falls with every value that holds others.
  induction legible generalizing depth with
  | null _ =>
    exact readsBack_constant trivial (fun _ => rfl) (by decide) (by decide) (by decide)
      fun _ => rfl
  | @bool value _ =>
    cases value
    · exact readsBack_constant trivial (fun _ => rfl) (by decide) (by decide) (by decide)
        fun _ => rfl
    · exact readsBack_constant trivial (fun _ => rfl) (by decide) (by decide) (by decide)
        fun _ => rfl
  | whole here => exact readsBack_whole here.2
  | fraction here => exact here.1.1.elim
  | string here =>
    obtain ⟨text, rfl⟩ := here.1.1
    exact readsBack_string text
  | array _ _ ih =>
    -- Each item is read with one level less.
    obtain ⟨less, inside, room⟩ := exists_inside digits deep
    exact readsBack_array inside fun item member =>
      ih item member fun most limit => depthOfItems_le_iff.mp (room most limit) item member
  | object here _ ih =>
    obtain ⟨less, inside, room⟩ := exists_inside digits deep
    exact readsBack_object inside here.1.1 here.1.2 fun field member =>
      ih field member fun most limit => depthOfFields_le_iff.mp (room most limit) field member

/-- The document of a legible value is read as this value, if the limits admit it. -/
theorem readWithin_write {value : Json} (legible : value.Throughout (IsLegible digits))
    (deep : ∀ most, depth = some most → value.depth ≤ most) :
    readWithin ⟨digits, depth⟩ value.write = .ok value := by
  -- The document starts visibly and is followed by nothing.
  have back := readsBack_of_legible legible deep
  have skip := skipSpace_of_startsValue (back.starts 0) []
  have read := back.read (value.write.length + 1) 0 [] (Nat.lt_succ_self _) (fun _ none => nomatch none)
  rw [List.append_nil] at skip read
  rw [readWithin, write, skip]
  rw [write] at read
  simp [read, skipSpace, bind, Except.bind]

end Json

end DiceChat
