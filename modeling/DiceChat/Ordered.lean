/-! Maps as lists of pairs in the order in which their keys first came. -/

namespace DiceChat

namespace Ordered

variable {κ ν : Type} [DecidableEq κ]

/-- The value stored under a key. -/
def find? : List (κ × ν) → κ → Option ν
  -- The first pair with the key counts.
  | [], _ => none
  | (known, value) :: rest, key => if known = key then some value else find? rest key

/-- The map with a value stored under a key: a known key keeps its place, a new one goes to the end. -/
def put : List (κ × ν) → κ → ν → List (κ × ν)
  | [], key, value => [(key, value)]
  | (known, old) :: rest, key, value =>
    if known = key then (key, value) :: rest else (known, old) :: put rest key value

/-- The map without a key. -/
def erase (pairs : List (κ × ν)) (key : κ) : List (κ × ν) :=
  pairs.filter fun pair => pair.1 ≠ key

/-- What was stored is found again, and nothing else changes. -/
theorem find?_put (pairs : List (κ × ν)) (key other : κ) (value : ν) :
    find? (put pairs key value) other = if key = other then some value else find? pairs other := by
  -- The pair that is replaced or added is the first one with its key.
  induction pairs with
  | nil => rfl
  | cons pair rest ih =>
    rcases pair with ⟨known, old⟩
    by_cases same : known = key
    · subst same
      by_cases wanted : known = other <;> simp [put, find?, wanted]
    · by_cases wanted : known = other
      · have differs : key ≠ other := fun equal => same (wanted.trans equal.symm)
        subst wanted
        simp [put, find?, same, differs]
      · simp [put, find?, same, wanted, ih]

/-- What was erased is not found any more, and everything else is. -/
theorem find?_erase (pairs : List (κ × ν)) (key other : κ) :
    find? (erase pairs key) other = if key = other then none else find? pairs other := by
  -- Every pair with the key is gone, also one that was hidden by the first of them.
  induction pairs with
  | nil => rw [erase, List.filter_nil, find?, ite_self]
  | cons pair rest ih =>
    rcases pair with ⟨known, value⟩
    by_cases same : known = key
    · -- A pair with the key goes, so it is found neither before nor behind.
      subst same
      have gone : erase ((known, value) :: rest) known = erase rest known := by simp [erase]
      rw [gone, ih, find?]
      split <;> rfl
    · -- Any other pair stays, and either is the one that is looked up or is passed over.
      have kept : erase ((known, value) :: rest) key = (known, value) :: erase rest key := by
        simp [erase, same]
      rw [kept, find?, find?, ih]
      by_cases wanted : known = other
      · rw [if_pos wanted, if_neg fun equal => same (wanted.trans equal.symm), if_pos wanted]
      · rw [if_neg wanted, if_neg wanted]

/-- Storing under a known key keeps the keys, and a new key is added behind them. -/
theorem keys_put (pairs : List (κ × ν)) (key : κ) (value : ν) :
    (put pairs key value).map Prod.fst =
      if key ∈ pairs.map Prod.fst then pairs.map Prod.fst else pairs.map Prod.fst ++ [key] := by
  -- The walk along the list ends at the known key or at the end.
  induction pairs with
  | nil => rfl
  | cons pair rest ih =>
    rcases pair with ⟨known, old⟩
    by_cases same : known = key
    · subst same
      simp [put]
    · have differs : key ≠ known := fun equal => same equal.symm
      by_cases member : key ∈ rest.map Prod.fst
      · simp only [put, same, if_false, List.map_cons, ih, member, if_true, List.mem_cons, or_true]
      · simp only [put, same, if_false, List.map_cons, ih, member, List.mem_cons, differs, or_self,
          List.cons_append]

/-- A pair with a new key goes to the end. -/
theorem put_of_notMem {pairs : List (κ × ν)} {key : κ} (value : ν)
    (fresh : key ∉ pairs.map Prod.fst) : put pairs key value = pairs ++ [(key, value)] := by
  -- The walk meets no pair with the key, so it goes on to the end.
  induction pairs with
  | nil => rfl
  | cons pair rest ih =>
    rcases pair with ⟨known, old⟩
    simp only [List.map_cons, List.mem_cons, not_or] at fresh
    rw [put, if_neg (Ne.symm fresh.1), ih fresh.2, List.cons_append]

/-- A value that is found under a key is in the map. -/
theorem mem_of_find? {pairs : List (κ × ν)} {key : κ} {value : ν}
    (found : find? pairs key = some value) : (key, value) ∈ pairs := by
  -- The first pair with the key is the one that is found.
  induction pairs with
  | nil => cases found
  | cons pair rest ih =>
    rcases pair with ⟨known, old⟩
    rw [find?] at found
    split at found
    · rename_i same
      rw [← same, ← Option.some.inj found]
      exact List.mem_cons_self
    · exact List.mem_cons_of_mem _ (ih found)

/-- Where no two pairs have one key, what is found under a key is exactly what stands there. -/
theorem find?_eq_some_iff {pairs : List (κ × ν)} (distinct : (pairs.map Prod.fst).Nodup) {key : κ}
    {value : ν} : find? pairs key = some value ↔ (key, value) ∈ pairs := by
  refine ⟨mem_of_find?, fun member => ?_⟩
  -- The pair is the first one with its key, as it is the only one.
  induction pairs with
  | nil => cases member
  | cons pair rest ih =>
    rcases pair with ⟨known, old⟩
    obtain ⟨fresh, others⟩ := List.nodup_cons.mp distinct
    rw [find?]
    rcases List.mem_cons.mp member with same | later
    · -- The pair is the first one.
      obtain ⟨rfl, rfl⟩ := Prod.mk.inj same
      exact if_pos rfl
    · -- It comes later, and the first one cannot have its key.
      have differs : known ≠ key := fun same =>
        fresh (List.mem_map.mpr ⟨(key, value), later, same.symm⟩)
      rw [if_neg differs, ih others later]

/-- Storing a value keeps keys distinct. -/
theorem nodup_keys_put {pairs : List (κ × ν)} (distinct : (pairs.map Prod.fst).Nodup) (key : κ)
    (value : ν) : ((put pairs key value).map Prod.fst).Nodup := by
  rw [keys_put]
  -- A known key keeps its place; a new one stands behind keys that all differ from it.
  split
  · exact distinct
  · rename_i fresh
    rw [List.nodup_append]
    refine ⟨distinct, by simp, ?_⟩
    intro known member other last equal
    rw [equal, List.mem_singleton.mp last] at member
    exact fresh member

/-- A pair of a map after a value was stored is the new one or was there before. -/
theorem mem_put {pairs : List (κ × ν)} {key : κ} {value : ν} {pair : κ × ν}
    (member : pair ∈ put pairs key value) : pair = (key, value) ∨ pair ∈ pairs := by
  -- What is not the stored pair stood in the list before.
  induction pairs with
  | nil => exact .inl (List.mem_singleton.mp member)
  | cons first rest ih =>
    rcases first with ⟨known, old⟩
    rw [put] at member
    split at member
    · rcases List.mem_cons.mp member with new | inside
      · exact .inl new
      · exact .inr (List.mem_cons_of_mem _ inside)
    · rcases List.mem_cons.mp member with same | inside
      · exact .inr (same ▸ List.mem_cons_self)
      · exact (ih inside).imp_right (List.mem_cons_of_mem _)

end Ordered

end DiceChat
