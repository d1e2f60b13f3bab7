import DiceChat.Die
import Mathlib

/-! The draws of a die form one sequence: whoever draws gets the next part of it, and every draw is remembered. -/

namespace DiceChat

/-- Every answer within range is what some raw number shows. -/
theorem face_sub_one {sides answer : Int} (least : 1 ≤ answer) (most : answer ≤ sides) :
    face sides (answer - 1) = answer := by
  -- The remainder of a number below the sides is the number itself.
  rw [face, Int.fmod_eq_emod_of_nonneg _ (by omega), Int.emod_eq_of_lt (by omega) (by omega)]
  omega

namespace Die

/-- The sides of the draws made so far, the first draw first. -/
def drawn (die : Die) : List Int :=
  die.history.reverse.flatMap fun draws => List.replicate draws.count draws.sides

/-- The faces that the next draws show if they are made with the given sides, one after the other. -/
def answers (die : Die) (sides : List Int) : List Int :=
  sides.mapIdx fun index sides => face sides (die.raw (die.position + index))

/-- A die after draws with the given sides, made one after the other. -/
structure Drew (before after : Die) (sides : List Int) : Prop where
  /-- The sequence of raw numbers is the same. -/
  raw : after.raw = before.raw
  /-- Every draw takes one of them. -/
  position : after.position = before.position + sides.length
  /-- The draws are remembered behind those made before. -/
  drawn : after.drawn = before.drawn ++ sides

/-- Without a draw nothing changes. -/
theorem Drew.refl (die : Die) : die.Drew die [] :=
  ⟨rfl, rfl, (List.append_nil _).symm⟩

variable {before middle after : Die} {first second : List Int}

/-- Draws that follow others follow them in the sequence. -/
theorem Drew.trans (earlier : before.Drew middle first) (later : middle.Drew after second) :
    before.Drew after (first ++ second) where
  raw := later.raw.trans earlier.raw
  position := by rw [later.position, earlier.position, List.length_append, Nat.add_assoc]
  drawn := by rw [later.drawn, earlier.drawn, List.append_assoc]

/-- There is one answer for each draw. -/
@[simp] theorem length_answers (die : Die) (sides : List Int) :
    (die.answers sides).length = sides.length := by
  simp [answers]

/-- Any answers within range are the answers of some sequence of raw numbers. -/
theorem exists_answers (die : Die) {values sides : List Int}
    (within : List.Forall₂ (fun value sides => 1 ≤ value ∧ value ≤ sides) values sides) :
    ∃ raw, ({ die with raw := raw } : Die).answers sides = values := by
  -- Each raw number is one less than the answer at its position.
  refine ⟨fun index => values.getD (index - die.position) 0 - 1, ?_⟩
  refine List.ext_getElem ((length_answers _ _).trans within.length_eq.symm) ?_
  intro index inside inside'
  have bounds := within.get inside' (within.length_eq ▸ inside')
  simp only [answers, List.getElem_mapIdx, Nat.add_sub_cancel_left, List.getD_eq_getElem?_getD,
    List.getElem?_eq_getElem inside', Option.getD_some]
  exact face_sub_one bounds.1 bounds.2

/-- The answers to draws that follow others are given by the die that the others left. -/
theorem Drew.answers_append (earlier : before.Drew middle first) (second : List Int) :
    before.answers (first ++ second) = before.answers first ++ middle.answers second := by
  -- The later draws are counted on from where the earlier ones end.
  rw [answers, answers, answers, List.mapIdx_append, earlier.raw, earlier.position]
  simp only [Nat.add_assoc, Nat.add_comm first.length]

/-- Draws with the same sides show the next faces. -/
theorem answers_replicate (die : Die) (sides : Int) (count : Nat) :
    die.answers (List.replicate count sides) = die.faces sides count := by
  -- Both lists show the same face at every index.
  refine List.ext_getElem (by simp [faces]) ?_
  intro index inside others
  simp [answers, faces]

/-- Drawing with the same sides is remembered draw by draw. -/
theorem drew_advance (die : Die) (sides : Int) (count : Nat) :
    die.Drew (die.advance sides count) (List.replicate count sides) where
  raw := rfl
  position := by simp [advance]
  drawn := by
    -- Draws that join the latest ones have the same sides as these.
    rw [drawn, drawn, advance]
    cases history : die.history with
    | nil => by_cases none : count = 0 <;> simp [recordDraws, none]
    | cons latest earlier =>
      by_cases none : count = 0
      · simp [recordDraws, none]
      · by_cases same : latest.sides = sides
        · simp [recordDraws, none, same, List.replicate_append_replicate]
        · simp [recordDraws, none, same]

end Die

end DiceChat
