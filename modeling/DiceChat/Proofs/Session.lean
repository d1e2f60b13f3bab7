import DiceChat.Proofs.Roll

/-! Sessions: the attempt that counts among the attempts, and advantage against disadvantage on the same dice. -/

namespace DiceChat

/-- The higher of two rolls has the greater total. -/
theorem Roll.total_higher (first second : Roll) :
    (first.higher second).total = max first.total second.total := by
  simp only [Roll.higher, gt_iff_lt, Roll.lt_iff]
  split <;> omega

/-- The lower of two rolls has the lesser total. -/
theorem Roll.total_lower (first second : Roll) :
    (first.lower second).total = min first.total second.total := by
  simp only [Roll.lower, Roll.lt_iff]
  split <;> omega

namespace Session

/-- The number of the attempt that counts is the place at which it first stands among the attempts. -/
theorem winner_eq_idxOf (session : Session) :
    session.winner = session.rolls.idxOf session.adopted + 1 := by
  -- Attempts with different totals are different attempts.
  rcases session with ⟨only | ⟨_ | _, first, second⟩, settings⟩
  · simp [winner, rolls, adopted]
  · by_cases better : first.total < second.total
    · have differs : first ≠ second := fun same => by simp [same] at better
      simp [winner, rolls, adopted, Roll.higher, better, differs]
    · simp [winner, rolls, adopted, Roll.higher, better]
  · by_cases better : second.total < first.total
    · have differs : first ≠ second := fun same => by simp [same] at better
      simp [winner, rolls, adopted, Roll.lower, better, differs]
    · simp [winner, rolls, adopted, Roll.lower, better]

/-- The attempt that counts is found under its number. -/
theorem getElem?_winner (session : Session) :
    session.rolls[session.winner - 1]? = some session.adopted := by
  -- It stands at the place at which it is found.
  rw [winner_eq_idxOf, Nat.add_sub_cancel]
  exact List.getElem?_idxOf session.adopted_mem_rolls

/-- Of two equal attempts, it is no matter which one counts. -/
theorem adopted_same (keep : Keep) (roll : Roll) (settings : Settings) :
    (Session.mk (.two keep roll roll) settings).adopted = roll := by
  cases keep <;> simp [adopted, Roll.higher, Roll.lower]

/-- The session with its two attempts in the other order; a single attempt stays where it is. -/
def swapped (session : Session) : Session :=
  match session.attempts with
  | .one _ => session
  | .two keep first second => { session with attempts := .two keep second first }

/-- Three sessions over the same dice: one that takes a single attempt, and two that take a second one and keep the
higher or the lower total. -/
structure AreDual (straight higher lower : Session) (first second : Roll) : Prop where
  /-- A single attempt is the first of two. -/
  attempt : straight.rolls = [first]
  /-- Both other sessions have the same two attempts. -/
  attempts : higher.rolls = [first, second] ∧ lower.rolls = [first, second]
  /-- The attempt that counts is the one with the number that counts. -/
  adopted : ∀ session ∈ [straight, higher, lower],
    session.rolls[session.winner - 1]? = some session.adopted
  /-- The total of a single attempt lies between the lower and the higher one. -/
  between : lower.adopted.total ≤ straight.adopted.total ∧
    straight.adopted.total ≤ higher.adopted.total
  /-- The higher and the lower total are those of the two attempts. -/
  sum : higher.adopted.total + lower.adopted.total = first.total + second.total
  /-- Different attempts count exactly if their totals differ. -/
  winners : higher.winner ≠ lower.winner ↔ first.total ≠ second.total
  /-- On a tie the first attempt counts in both. -/
  tie : first.total = second.total → higher.winner = 1 ∧ lower.winner = 1
  /-- In the other order, the attempts have the same total that counts, and the other number unless there is a tie. -/
  swapped : ∀ session ∈ [higher, lower], session.swapped.rolls = [second, first] ∧
    session.swapped.mode = session.mode ∧
    session.swapped.adopted.total = session.adopted.total ∧
    session.swapped.winner = if first.total = second.total then session.winner else 3 - session.winner

/-- The order of the attempts makes no difference to the total that counts. -/
theorem total_adopted_swapped (session : Session) :
    session.swapped.adopted.total = session.adopted.total := by
  -- The greater and the lesser of two totals do not depend on their order.
  rcases session with ⟨only | ⟨_ | _, first, second⟩, settings⟩
  · rfl
  · show (second.higher first).total = (first.higher second).total
    rw [Roll.total_higher, Roll.total_higher, max_comm]
  · show (second.lower first).total = (first.lower second).total
    rw [Roll.total_lower, Roll.total_lower, min_comm]

/-- In the other order, the other number counts unless there is a tie. -/
theorem winner_swapped (keep : Keep) (first second : Roll) (settings : Settings) :
    (Session.mk (.two keep first second) settings).swapped.winner =
      if first.total = second.total then (Session.mk (.two keep first second) settings).winner
      else 3 - (Session.mk (.two keep first second) settings).winner := by
  -- Exactly one of two different totals is strictly better.
  cases keep
  all_goals
    simp only [swapped, winner, gt_iff_lt, Roll.lt_iff]
    split_ifs <;> omega

/-- Advantage and disadvantage over the same two attempts are dual to each other, whatever the attempts are. -/
theorem areDual_mk (first second : Roll) (settings : Settings) :
    AreDual ⟨.one first, settings⟩ ⟨.two .higher first second, settings⟩
      ⟨.two .lower first second, settings⟩ first second := by
  -- The totals of the two sessions are the greater and the smaller of the two.
  have higher := first.total_higher second
  have lower := first.total_lower second
  exact {
    attempt := rfl
    attempts := ⟨rfl, rfl⟩
    adopted := fun session _ => session.getElem?_winner
    between := by
      simp only [Session.adopted]
      omega
    sum := by
      simp only [Session.adopted]
      omega
    -- The winners are told from the totals, with the first attempt on a tie.
    winners := by
      simp only [winner, gt_iff_lt, Roll.lt_iff]
      split_ifs <;> omega
    tie := by
      intro tie
      simp [winner, tie]
    -- Swapping the attempts gives the same total and the other winner.
    swapped := by
      intro session member
      simp only [List.mem_cons, List.not_mem_nil, or_false] at member
      rcases member with rfl | rfl
      all_goals exact ⟨rfl, rfl, total_adopted_swapped _, winner_swapped _ first second settings⟩ }

end Session

/-- From the same die, advantage and disadvantage roll the same two attempts, the first of which is rolled without
either, and leave the same die; what counts in the one is dual to what counts in the other. -/
theorem Settings.roll_dual {settings : Settings} (sided : 1 ≤ settings.sides) (die : Die) :
    let straight := settings.roll .straight die
    let higher := settings.roll .advantage die
    let lower := settings.roll .disadvantage die
    higher.2 = lower.2 ∧ ∃ first second : Roll,
      first.IsThrown settings ∧ second.IsThrown settings ∧
      settings.throw straight.2 = (second, higher.2) ∧
      Session.AreDual straight.1 higher.1 lower.1 first second := by
  intro straight higher lower
  -- The second attempt is thrown with the die that the first one left.
  refine ⟨rfl, (settings.throw die).1, (settings.throw (settings.throw die).2).1,
    isThrown_throw sided die, isThrown_throw sided _, rfl, ?_⟩
  exact Session.areDual_mk _ _ settings

/-- A second attempt that comes up higher counts with advantage and not with disadvantage. -/
theorem Settings.roll_dual_second :
    let settings : Settings := ⟨2, 6, some 1, none⟩
    let die := Die.cycling #[0, 1, 4, 4]
    let higher := settings.roll .advantage die
    let lower := settings.roll .disadvantage die
    1 ≤ settings.sides ∧ higher.2 = lower.2 ∧
      higher.1.rolls = [⟨[1, 2], 4, settings⟩, ⟨[5, 5], 11, settings⟩] ∧
      higher.1.winner ≠ lower.1.winner ∧
      higher.1.adopted.total + lower.1.adopted.total = 15 ∧
      lower.1.swapped.winner = 3 - lower.1.winner := by
  -- The theorem is taken at this die; only the two attempts are worked out.
  intro settings die higher lower
  have sided : 1 ≤ settings.sides := by decide
  obtain ⟨same, first, second, -, -, -, dual⟩ := settings.roll_dual sided die
  have rolls : higher.1.rolls = [⟨[1, 2], 4, settings⟩, ⟨[5, 5], 11, settings⟩] := by decide
  -- The attempts that the theorem speaks of are the ones that were worked out.
  obtain ⟨one, two⟩ := List.cons.inj (dual.attempts.1.symm.trans rolls)
  obtain rfl := one
  obtain rfl := (List.cons.inj two).1
  refine ⟨sided, same, rolls, dual.winners.mpr (by decide), dual.sum, ?_⟩
  exact (dual.swapped lower.1 (by simp [lower])).2.2.2

end DiceChat
