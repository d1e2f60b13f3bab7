import DiceChat.Proofs.Notation.Bounds
import DiceChat.Proofs.Record.RoundTrip

/-! Rolled sessions: every attempt throws the dice asked for, and small settings make small numbers. -/

namespace DiceChat

/-- A roll came from throwing the dice that settings ask for. -/
structure Roll.IsThrown (roll : Roll) (settings : Settings) : Prop where
  /-- The roll has the settings. -/
  asked : roll.settings = settings
  /-- There is a face for every die. -/
  count : roll.values.length = settings.diceCount
  /-- Every face is one of the sides. -/
  faces : ∀ value ∈ roll.values, 1 ≤ value ∧ value ≤ settings.sides
  /-- The modifier is added to the sum of the faces. -/
  total : roll.total = roll.values.sum + settings.modifier.getD 0

/-- Numbers within bounds have a sum within bounds. -/
theorem sum_bounds {values : List Int} {least most : Int}
    (bounded : ∀ value ∈ values, least ≤ value ∧ value ≤ most) :
    values.length * least ≤ values.sum ∧ values.sum ≤ values.length * most := by
  -- Every number adds at least the least and at most the greatest to the sum.
  induction values with
  | nil => simp
  | cons value values ih =>
    have first := bounded value List.mem_cons_self
    have others := ih fun other member => bounded other (List.mem_cons_of_mem value member)
    rw [List.sum_cons, List.length_cons, Int.natCast_succ, Int.add_mul, Int.add_mul]
    omega

/-- Every raw number shows one of the sides. -/
theorem face_bounds {sides : Int} (positive : 0 < sides) (raw : Int) :
    1 ≤ face sides raw ∧ face sides raw ≤ sides := by
  -- The remainder lies below the number of sides.
  have low := Int.fmod_nonneg_of_pos raw positive
  have high := Int.fmod_lt_of_pos raw positive
  rw [face]
  omega

namespace Settings

variable {settings : Settings}

/-- Throwing dice makes a thrown roll. -/
theorem isThrown_throw (positive : 0 < settings.sides) (die : Die) :
    (settings.throw die).1.IsThrown settings := by
  -- There is one draw for each die, and each draw shows a face.
  refine ⟨rfl, ?_, ?_, rfl⟩
  · simp [throw, rollOf, Die.draw, Die.faces]
  · intro value member
    simp only [throw, rollOf, Die.draw, Die.faces, List.mem_map] at member
    obtain ⟨index, -, rfl⟩ := member
    exact face_bounds positive _

/-- A rolled session keeps the settings that were asked for. -/
theorem settings_roll (settings : Settings) (mode : Mode) (die : Die) :
    (settings.roll mode die).1.settings = settings := by
  cases mode <;> rfl

/-- A rolled session has the mode that was asked for. -/
theorem mode_roll (settings : Settings) (mode : Mode) (die : Die) :
    (settings.roll mode die).1.mode = mode := by
  cases mode <;> rfl

/-- Every attempt of a rolled session is thrown. -/
theorem isThrown_of_mem_rolls (positive : 0 < settings.sides) {mode : Mode} {die : Die}
    {roll : Roll} (member : roll ∈ (settings.roll mode die).1.rolls) : roll.IsThrown settings := by
  -- The second attempt is thrown with the die that the first one left.
  have first := isThrown_throw positive die
  have second := isThrown_throw positive (settings.throw die).2
  cases mode with
  | straight =>
    simp only [Settings.roll, Session.rolls, List.mem_singleton] at member
    exact member ▸ first
  | advantage | disadvantage =>
    simp only [Settings.roll, Session.rolls, List.mem_cons, List.not_mem_nil, or_false] at member
    rcases member with rfl | rfl
    · exact first
    · exact second

/-- The numbers of small settings have at most four digits. -/
theorem IsNotated.integers (notated : settings.IsNotated) :
    ∀ n ∈ settings.integers, digitCount n ≤ 4 := by
  -- All three numbers have at most four digits.
  obtain ⟨number, sides, modifier, -⟩ := notated
  intro n member
  rw [digitCount_le_iff (by decide)]
  simp only [Settings.integers, List.mem_cons, Option.mem_toList] at member
  rcases member with rfl | rfl | added
  · omega
  · omega
  · have bounds := modifier n added
    omega

/-- Small settings make small totals. -/
theorem IsNotated.total (notated : settings.IsNotated) {roll : Roll}
    (thrown : roll.IsThrown settings) : -9999 ≤ roll.total ∧ roll.total ≤ 99990000 := by
  -- At most 9999 dice show at most 9999 each, and the modifier adds as much.
  obtain ⟨number, sides, modifier, -⟩ := notated
  obtain ⟨low, high⟩ := sum_bounds thrown.faces
  have count : (roll.values.length : Int) ≤ 9999 := by
    rw [thrown.count, diceCount]
    omega
  -- The dice together show at most their number times the sides.
  have most : roll.values.length * settings.sides ≤ 9999 * 9999 :=
    Int.mul_le_mul count sides.2 (by omega) (by decide)
  have total := thrown.total
  -- A missing modifier adds nothing, and a given one is bounded like the dice.
  cases added : settings.modifier with
  | none =>
    rw [added, Option.getD_none] at total
    omega
  | some value =>
    have bounds := modifier value added
    rw [added, Option.getD_some] at total
    omega

/-- The numbers of a roll of small settings have at most eight digits. -/
theorem IsNotated.integers_roll (notated : settings.IsNotated) {roll : Roll}
    (thrown : roll.IsThrown settings) : ∀ n ∈ roll.integers, digitCount n ≤ 8 := by
  -- Faces are bounded by the sides, and the total by the dice together.
  have total := notated.total thrown
  intro n member
  simp only [Roll.integers, List.mem_append, List.mem_cons, thrown.asked] at member
  rcases member with shown | rfl | asked
  · have bounds := thrown.faces n shown
    have sides := notated.sides
    rw [digitCount_le_iff (by decide)]
    omega
  · rw [digitCount_le_iff (by decide)]
    omega
  · exact Nat.le_trans (notated.integers n asked) (by decide)

end Settings

/-- The attempt that counts is one of the attempts. -/
theorem Session.adopted_mem_rolls (session : Session) : session.adopted ∈ session.rolls := by
  -- Of two attempts, either may count.
  rcases session with ⟨only | ⟨_ | _, first, second⟩, settings⟩
  · exact List.mem_singleton_self only
  · simp only [adopted, rolls, Roll.higher]
    split <;> simp
  · simp only [adopted, rolls, Roll.lower]
    split <;> simp

/-- The numbers of a rolled session of small settings have at most eight digits. -/
theorem Settings.IsNotated.integers_session {settings : Settings} (notated : settings.IsNotated)
    (mode : Mode) (die : Die) :
    ∀ n ∈ (settings.roll mode die).1.integers, digitCount n ≤ 8 := by
  -- They are the numbers of the throws and those of the settings.
  have positive : 0 < settings.sides := notated.sides.1
  intro n member
  rw [Session.integers, settings_roll, List.mem_append, List.mem_flatMap] at member
  rcases member with ⟨roll, known, inside⟩ | asked
  · exact notated.integers_roll (isThrown_of_mem_rolls positive known) n inside
  · exact Nat.le_trans (notated.integers n asked) (by decide)

/-- The record of a rolled session of small settings is written in full. -/
theorem Settings.IsNotated.dump_record {settings : Settings} (notated : settings.IsNotated)
    (mode : Mode) (die : Die) :
    (settings.roll mode die).1.record.dump = .ok (settings.roll mode die).1.record.write := by
  -- No number of the session comes near the limit on numerals.
  exact (Session.dump_record _).1 fun n member =>
    Nat.le_trans (notated.integers_session mode die n member) (by decide)

end DiceChat
