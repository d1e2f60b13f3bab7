import DiceChat.Json.Reader
import DiceChat.Proofs.Outcome

/-! A limit on the depth can keep a text from being read, and it changes nothing of what is read. -/

namespace DiceChat

/-- The limits without the one on the depth. -/
def JsonLimits.bottomless (limits : JsonLimits) : JsonLimits :=
  { limits with depth := none }

/-- Inside a value, too, only the depth is limited anew. -/
theorem JsonLimits.bottomless_inside {limits inner : JsonLimits}
    (inside : limits.inside = .ok inner) :
    limits.bottomless.inside = .ok inner.bottomless := by
  -- Only the depth that is left changes on the way inside.
  unfold JsonLimits.inside at inside
  split at inside
  · rw [← Except.ok.inj inside]
    rfl
  · cases inside
  · rw [← Except.ok.inj inside]
    rfl

namespace Json

/-- Whatever is read with so much fuel is read alike without a limit on the depth. -/
structure ReadsBottomless (fuel : Nat) : Prop where
  /-- A value is. -/
  value : ∀ (limits : JsonLimits) text result, readValue fuel limits text = .ok result →
    readValue fuel limits.bottomless text = .ok result
  /-- Items are. -/
  items : ∀ (limits : JsonLimits) text result, readItems fuel limits text = .ok result →
    readItems fuel limits.bottomless text = .ok result
  /-- Fields are, behind any others. -/
  fields : ∀ (limits : JsonLimits) before text result,
    readFields fuel limits before text = .ok result →
      readFields fuel limits.bottomless before text = .ok result

variable {limits : JsonLimits} {fuel : Nat}

/-- A value is read alike if what is inside it is. -/
theorem readValue_bottomless (less : ReadsBottomless fuel) {text : Text} {result : Json × Text}
    (read : readValue (fuel + 1) limits text = .ok result) :
    readValue (fuel + 1) limits.bottomless text = .ok result := by
  -- Only arrays and objects have anything inside.
  unfold readValue at read ⊢
  split at read
  · exact read
  · -- An array: one level is used up, and what is inside is read with fewer.
    obtain ⟨inner, inside, read⟩ := bind_eq_ok_iff.mp read
    refine bind_eq_ok_iff.mpr ⟨_, JsonLimits.bottomless_inside inside, ?_⟩
    split at read
    · exact read
    · obtain ⟨found, found_read, equal⟩ := map_eq_ok_iff.mp read
      exact map_eq_ok_iff.mpr ⟨found, less.items _ _ _ found_read, equal⟩
  · -- An object, in the same way.
    obtain ⟨inner, inside, read⟩ := bind_eq_ok_iff.mp read
    refine bind_eq_ok_iff.mpr ⟨_, JsonLimits.bottomless_inside inside, ?_⟩
    split at read
    · exact read
    · obtain ⟨found, found_read, equal⟩ := map_eq_ok_iff.mp read
      exact map_eq_ok_iff.mpr ⟨found, less.fields _ _ _ _ found_read, equal⟩
  · exact read

/-- Items are read alike if what is read with less fuel is. -/
theorem readItems_bottomless (less : ReadsBottomless fuel) {text : Text}
    {result : List Json × Text} (read : readItems (fuel + 1) limits text = .ok result) :
    readItems (fuel + 1) limits.bottomless text = .ok result := by
  -- Behind the first item there is an end or a comma with more items.
  unfold readItems at read ⊢
  obtain ⟨⟨first, rest⟩, first_read, read⟩ := bind_eq_ok_iff.mp read
  refine bind_eq_ok_iff.mpr ⟨(first, rest), less.value _ _ _ first_read, ?_⟩
  simp only at read ⊢
  split at read
  · exact read
  · obtain ⟨others, others_read, equal⟩ := map_eq_ok_iff.mp read
    exact map_eq_ok_iff.mpr ⟨others, less.items _ _ _ others_read, equal⟩
  · cases read

/-- Fields are read alike if what is read with less fuel is. -/
theorem readFields_bottomless (less : ReadsBottomless fuel) {before : List (JsonText × Json)}
    {text : Text} {result : List (JsonText × Json) × Text}
    (read : readFields (fuel + 1) limits before text = .ok result) :
    readFields (fuel + 1) limits.bottomless before text = .ok result := by
  -- Behind the name and the value there is an end or a comma with more fields.
  unfold readFields at read ⊢
  split at read
  · -- The name is read first, and a colon has to follow.
    obtain ⟨⟨name, rest⟩, name_read, read⟩ := bind_eq_ok_iff.mp read
    refine bind_eq_ok_iff.mpr ⟨(name, rest), name_read, ?_⟩
    simp only at read ⊢
    split at read
    · -- Then the value, and what stands behind it decides.
      obtain ⟨⟨value, rest⟩, value_read, read⟩ := bind_eq_ok_iff.mp read
      refine bind_eq_ok_iff.mpr ⟨(value, rest), less.value _ _ _ value_read, ?_⟩
      simp only at read ⊢
      split at read
      · exact read
      · exact less.fields _ _ _ _ read
      · cases read
    · cases read
  · cases read

/-- Whatever is read is read alike without a limit on the depth, with any fuel. -/
theorem readsBottomless (fuel : Nat) : ReadsBottomless fuel := by
  -- Each reader calls the others with less fuel only.
  induction fuel with
  | zero => constructor <;> intros <;> simp_all [readValue, readItems, readFields]
  | succ fuel less =>
    exact ⟨fun _ _ _ => readValue_bottomless less, fun _ _ _ => readItems_bottomless less,
      fun _ _ _ _ => readFields_bottomless less⟩

/-- A text that is read within limits is read alike without the one on the depth. -/
theorem readWithin_bottomless {text : Text} {value : Json}
    (read : readWithin limits text = .ok value) :
    readWithin limits.bottomless text = .ok value := by
  obtain ⟨found, found_read, rest⟩ := bind_eq_ok_iff.mp read
  exact bind_eq_ok_iff.mpr ⟨found, (readsBottomless _).value _ _ _ found_read, rest⟩

end Json

end DiceChat
