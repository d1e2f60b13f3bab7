import DiceChat.Json.Draft

/-! Properties that hold of a JSON value and of every value inside it, such as those that texts keep. -/

namespace DiceChat

namespace Json

/-- A property holds of a value and of every value inside it. -/
inductive Throughout (holds : Json → Prop) : Json → Prop where
  /-- Nothing is inside the missing value. -/
  | null (here : holds .null) : Throughout holds .null
  /-- Nothing is inside a truth value. -/
  | bool {value : Bool} (here : holds (.bool value)) : Throughout holds (.bool value)
  /-- Nothing is inside a whole number. -/
  | whole {value : Int} (here : holds (.whole value)) : Throughout holds (.whole value)
  /-- Nothing is inside a fractional number. -/
  | fraction {value : Binary64} (here : holds (.fraction value)) : Throughout holds (.fraction value)
  /-- Nothing is inside a text. -/
  | string {value : JsonText} (here : holds (.string value)) : Throughout holds (.string value)
  /-- The items are inside an array. -/
  | array {items : List Json} (here : holds (.array items))
      (inside : ∀ item ∈ items, Throughout holds item) : Throughout holds (.array items)
  /-- The values of the fields are inside an object. -/
  | object {fields : List (JsonText × Json)} (here : holds (.object fields))
      (inside : ∀ field ∈ fields, Throughout holds field.2) : Throughout holds (.object fields)

namespace Throughout

variable {holds other : Json → Prop} {value : Json}

/-- What holds throughout a value holds of the value itself. -/
theorem here (all : Throughout holds value) : holds value := by
  -- Every constructor asks for it.
  cases all <;> assumption

/-- What follows from a property holds throughout where the property does. -/
theorem imp (weaker : ∀ value, holds value → other value) (all : Throughout holds value) :
    Throughout other value := by
  -- The shape of the value stays, and every part is weakened.
  induction all with
  | null here => exact .null (weaker _ here)
  | bool here => exact .bool (weaker _ here)
  | whole here => exact .whole (weaker _ here)
  | fraction here => exact .fraction (weaker _ here)
  | string here => exact .string (weaker _ here)
  | array here _ ih => exact .array (weaker _ here) ih
  | object here _ ih => exact .object (weaker _ here) ih

/-- Two properties that hold throughout a value hold together throughout it. -/
theorem and (all : Throughout holds value) (others : Throughout other value) :
    Throughout (fun value => holds value ∧ other value) value := by
  -- Both derivations have the shape of the value, so they are followed together.
  induction all with
  | null here => exact .null ⟨here, others.here⟩
  | bool here => exact .bool ⟨here, others.here⟩
  | whole here => exact .whole ⟨here, others.here⟩
  | fraction here => exact .fraction ⟨here, others.here⟩
  | string here => exact .string ⟨here, others.here⟩
  | array here _ ih =>
    cases others with
    | array there inside =>
      exact .array ⟨here, there⟩ fun item member => ih item member (inside item member)
  | object here _ ih =>
    cases others with
    | object there inside =>
      exact .object ⟨here, there⟩ fun field member => ih field member (inside field member)

/-- Only the value itself counts where nothing is inside. -/
@[simp] theorem null_iff : Throughout holds .null ↔ holds .null :=
  ⟨here, .null⟩

/-- Only the number itself counts. -/
@[simp] theorem whole_iff {value : Int} : Throughout holds (.whole value) ↔ holds (.whole value) :=
  ⟨here, .whole⟩

/-- Only the text itself counts. -/
@[simp] theorem string_iff {value : JsonText} :
    Throughout holds (.string value) ↔ holds (.string value) :=
  ⟨here, .string⟩

/-- An array and its items count. -/
@[simp] theorem array_iff {items : List Json} :
    Throughout holds (.array items) ↔
      holds (.array items) ∧ ∀ item ∈ items, Throughout holds item := by
  -- Only one of the constructors makes an array.
  constructor
  · rintro (_ | _ | _ | _ | _ | ⟨here, inside⟩)
    exact ⟨here, inside⟩
  · rintro ⟨here, inside⟩
    exact .array here inside

/-- An object and the values of its fields count. -/
@[simp] theorem object_iff {fields : List (JsonText × Json)} :
    Throughout holds (.object fields) ↔
      holds (.object fields) ∧ ∀ field ∈ fields, Throughout holds field.2 := by
  -- Only one of the constructors makes an object.
  constructor
  · rintro (_ | _ | _ | _ | _ | _ | ⟨here, inside⟩)
    exact ⟨here, inside⟩
  · rintro ⟨here, inside⟩
    exact .object here inside

end Throughout

/-- A value itself is exact: no text of it is torn, and it is no fractional number. -/
def IsExact : Json → Prop
  | .fraction _ => False
  | .string text => ∃ whole : Text, text = .whole whole
  | .object fields => ∀ field ∈ fields, ∃ whole : Text, field.1 = .whole whole
  | _ => True

/-- No two fields of a value have the same name. -/
def HasDistinctNames : Json → Prop
  | .object fields => (fields.map Prod.fst).Nodup
  | _ => True

/-- A value, if it is a whole number, has at most so many digits where there is a limit. -/
def IsWithin (digits : Option Nat) : Json → Prop
  | .whole value => ∀ most, digits = some most → digitCount value ≤ most
  | _ => True

/-- Only numbers can have too many digits. -/
theorem isWithin_of_ne_whole {digits : Option Nat} {value : Json} (other : ∀ n, value ≠ .whole n) :
    value.IsWithin digits := by
  -- Only whole numbers have digits to count.
  cases value with
  | whole n => exact absurd rfl (other n)
  | _ => trivial

/-- A value itself is exact, and every name in it leads to one field. -/
def IsSound (value : Json) : Prop :=
  value.IsExact ∧ value.HasDistinctNames

/-- A value itself keeps everything when it is written and read. -/
def IsLegible (digits : Option Nat) (value : Json) : Prop :=
  value.IsSound ∧ value.IsWithin digits

/-- Values are nested no deeper than the deepest of them. -/
theorem depthOfItems_le_iff {items : List Json} {most : Nat} :
    depthOfItems items ≤ most ↔ ∀ item ∈ items, item.depth ≤ most := by
  -- The depth of a list is the greatest depth in it.
  induction items with
  | nil => simp [depthOfItems]
  | cons item items ih => rw [depthOfItems, Nat.max_le, ih, List.forall_mem_cons]

/-- Values of fields are nested no deeper than the deepest of them. -/
theorem depthOfFields_le_iff {fields : List (JsonText × Json)} {most : Nat} :
    depthOfFields fields ≤ most ↔ ∀ field ∈ fields, field.2.depth ≤ most := by
  -- Names add nothing to the depth.
  induction fields with
  | nil => simp [depthOfFields]
  | cons field fields ih =>
    rw [depthOfFields, Nat.max_le, ih, List.forall_mem_cons]

end Json

end DiceChat
