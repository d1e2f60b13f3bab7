import DiceChat.Proofs.Display.Bound

/-! Fitting keeps a reserve free: a display that fits is left as it is exactly if its reserve fits as well. -/

namespace DiceChat

namespace Roll

/-- How many characters of the dice are shown within a limit, apart from the mark of a cut. -/
def shownCount (roll : Roll) (limit : Int) : Int :=
  min limit roll.sumText.length

/-- The room for the mark of a cut, where there are dice and they are not cut. -/
def spareMark (roll : Roll) (limit : Int) : Nat :=
  if 0 < roll.sumText.length ∧ roll.sumText.length ≤ limit then ellipsis.length else 0

/-- No dot is in the sum of the faces. -/
theorem notMem_sumText_dot (roll : Roll) : '.' ∉ roll.sumText := by
  -- Numerals have digits and perhaps a sign.
  have numeral : ∀ value, '.' ∉ writeInt value := by
    intro value member
    rcases eq_minus_or_isDigit member with sign | digit
    · exact absurd sign (by decide)
    · exact absurd digit (by decide)
  intro member
  rcases mem_joinWith member with plus | ⟨text, known, inside⟩
  · exact absurd plus (by decide)
  · obtain ⟨value, -, rfl⟩ := List.mem_map.mp known
    exact numeral value inside

variable {limit : Int}

/-- Dice within a limit, without those that are cut off: the mark of a cut takes its own room. -/
theorem length_diceWithin (roll : Roll) (positive : 0 ≤ limit) :
    ((roll.diceWithin limit).length : Int) + roll.spareMark limit =
      (roll.diceWithin 0).length + roll.shownCount limit := by
  -- Without dice, there is nothing but the mark, and that only if something is cut off.
  have mark : ellipsis.length = 3 := rfl
  rw [spareMark, shownCount, diceWithin, diceWithin, truncate, truncate]
  split_ifs <;> simp [cutAt, positive, mark] <;> omega

/-- A lower limit shows the same dice exactly if it is reached by none that are shown. -/
theorem diceWithin_eq_iff (roll : Roll) {lower : Int} (positive : 0 ≤ lower)
    (lowered : lower ≤ limit) :
    roll.diceWithin lower = roll.diceWithin limit ↔ roll.shownCount limit ≤ lower := by
  rw [shownCount]
  constructor
  · intro same
    by_contra beyond
    have cut : lower < roll.sumText.length := by omega
    rw [diceWithin, truncate, if_pos cut] at same
    by_cases long : limit < roll.sumText.length
    · -- Both are cut, and at different places.
      have lengths := congrArg List.length same
      rw [diceWithin, truncate, if_pos long, cutAt, cutAt, if_pos positive, if_pos (by omega)] at lengths
      simp at lengths
      omega
    · -- Dice that are not cut hold no mark of a cut.
      rw [diceWithin_of_le (by omega)] at same
      refine roll.notMem_sumText_dot ?_
      rw [← same]
      exact List.mem_append_right _ (by decide)
  · intro within
    by_cases equal : lower = limit
    · rw [equal]
    · rw [diceWithin_of_le (by omega), diceWithin_of_le (by omega)]

end Roll

variable {frames : Frames}

/-- The line of an attempt tells the attempt. -/
theorem attemptText_inj {name first second : Text} {counts : Bool} :
    attemptText name first counts frames = attemptText name second counts frames ↔
      first = second := by
  cases counts <;> simp [attemptText, Frame.around]

/-- An attempt that is shown tells its dice. -/
theorem Roll.text_inj {roll : Roll} {dice dice' : Roll → Text} :
    roll.text dice = roll.text dice' ↔ dice roll = dice' roll := by
  simp [Roll.text]

namespace Session

variable {session : Session}

/-- Two displays with whole limits are the same exactly if they show the same dice. -/
theorem text_diceWithin_eq_iff (inline : frames.IsInline) {lower limit : Int} :
    joinWith ['\n'] (session.texts (Roll.diceWithin lower) frames) =
        joinWith ['\n'] (session.texts (Roll.diceWithin limit) frames) ↔
      ∀ roll ∈ session.rolls, roll.diceWithin lower = roll.diceWithin limit := by
  constructor
  · intro same
    -- The text splits into its lines, and each attempt has its own.
    have lines := congrArg (splitOnChar '\n') same
    rw [splitOnChar_texts inline, splitOnChar_texts inline] at lines
    rcases session with ⟨only | ⟨keep, first, second⟩, settings⟩
    · simpa [texts, attemptTexts, rolls, Roll.text_inj] using lines
    · simpa [texts, attemptTexts, rolls, attemptText_inj, Roll.text_inj] using lines
  · intro same
    rw [texts_congr same]

/-- The room that fitting keeps free: the marks of cuts that are not made, and what two attempts differ by. -/
def reserve (session : Session) (limit : Int) : Int :=
  match session.attempts with
  | .one only => only.spareMark limit
  | .two _ first second =>
    first.spareMark limit + second.spareMark limit +
      (first.shownCount limit - second.shownCount limit).natAbs

/-- All dice of a display are within the fitted limit exactly if there is room for its reserve, or no dice. -/
theorem forall_shownCount_le_iff {limit : Int} (positive : 0 ≤ limit) {room : Nat} {most : Int}
    (room_eq : room = (most - session.bareLength frames).toNat) :
    (∀ roll ∈ session.rolls,
        roll.shownCount limit ≤ session.diceLimit room (room / 2 : Nat)) ↔
      (∀ roll ∈ session.rolls, roll.shownCount limit = 0) ∨
        (joinWith ['\n'] (session.texts (Roll.diceWithin limit) frames)).length +
          session.reserve limit ≤ most := by
  -- A display is longer than without dice by the dice it shows, less the marks that it does not need.
  have each := fun roll : Roll => roll.length_diceWithin positive
  -- A cut never shows less than nothing of the dice.
  have nonneg : ∀ roll : Roll, 0 ≤ roll.shownCount limit := by
    intro roll
    rw [Roll.shownCount]
    omega
  rw [bareLength, length_texts] at room_eq
  rw [length_texts]
  rcases session with ⟨only | ⟨keep, first, second⟩, settings⟩
  · -- With one attempt all the room is for its dice.
    have one := each only
    have shown := nonneg only
    simp only [rolls, diceLimit, reserve, List.map_cons, List.map_nil, List.sum_cons, List.sum_nil,
      List.forall_mem_singleton] at room_eq ⊢
    omega
  · -- With two each gets half of it, and the longer line decides.
    have one := each first
    have two := each second
    have shown := nonneg first
    have shown' := nonneg second
    simp only [rolls, diceLimit, reserve, List.map_cons, List.map_nil, List.sum_cons, List.sum_nil,
      List.forall_mem_cons, List.not_mem_nil, false_imp_iff, implies_true, and_true] at room_eq ⊢
    omega

/-- A display that fits is left as it is by fitting exactly if its reserve fits too, or it shows no dice. -/
theorem display_fit_eq_iff {name : Text} {markup : Markup} (limit : Int) {single double : Int}
    {text : Text} (named : Markup.ofName? name = some markup) (single_ok : 0 ≤ single)
    (double_ok : 0 ≤ double)
    (shown : session.display (.ofWhole single double) markup = .ok text) :
    ∃ fitted refitted, session.fit limit (.ofWhole single double) markup = .ok fitted ∧
      session.display fitted markup = .ok refitted ∧
      (refitted = text ↔
        (∀ roll ∈ session.rolls, roll.shownCount (session.diceLimit single double) = 0) ∨
          text.length + session.reserve (session.diceLimit single double) ≤ limit) := by
  obtain ⟨frames, member, rfl⟩ := Frames.exists_known named
  have short := haveNumerals_of_display shown
  obtain ⟨fitted, fit, displayed⟩ := exists_fit short frames limit single double
  refine ⟨fitted, _, fit, displayed, ?_⟩
  obtain rfl := Except.ok.inj ((display_eq short single double).symm.trans shown)
  -- A budget that is not negative stays so when it is lowered.
  have positive : 0 ≤ session.diceLimit single double := by
    rw [diceLimit]
    split
    · exact single_ok
    · exact double_ok
  rw [text_diceWithin_eq_iff (Frames.isInline_of_mem_known member),
    ← forall_shownCount_le_iff positive rfl]
  -- The fitted limit is the lesser of the limit and what there is room for.
  have fitted_eq : session.fittedLimit limit frames single double =
      min (session.diceLimit single double)
        (session.diceLimit (session.room limit frames) (session.room limit frames / 2 : Nat)) := by
    simp only [fittedLimit, diceLimit]
    split <;> rfl
  -- Two cuts of one sum are equal exactly where they show equally many characters.
  have fitted_ok := (session.fittedLimit_le limit frames single_ok double_ok).1
  refine forall₂_congr fun roll _ => ?_
  rw [roll.diceWithin_eq_iff fitted_ok (by omega), Roll.shownCount]
  change _ ↔ _ ≤ session.diceLimit (session.room limit frames) (session.room limit frames / 2 : Nat)
  omega

/-- With a reserve of three characters, a text of so many more is cut where it just fits. -/
theorem display_fit_eq_iff_reserve :
    let settings : Settings := ⟨3, 6, none, none⟩
    let session : Session := ⟨.one ⟨[1, 2, 3], 6, settings⟩, settings⟩
    ∃ text, session.display .standard .plain = .ok text ∧ text.length = 59 ∧
      (∃ fitted, session.fit 62 .standard .plain = .ok fitted ∧
        session.display fitted .plain = .ok text) ∧
      ∃ fitted refitted, session.fit 61 .standard .plain = .ok fitted ∧
        session.display fitted .plain = .ok refitted ∧ refitted ≠ text := by
  intro settings session
  -- The whole text is 59 characters long, and three are kept in reserve.
  have shown : session.display .standard .plain = .ok _ :=
    @display_eq .plain session (by decide) 4000 2000
  have length : (joinWith ['\n']
      (session.texts (Roll.diceWithin (session.diceLimit 4000 2000)) .plain)).length = 59 := by
    decide +kernel
  have reserve : session.reserve (session.diceLimit 4000 2000) = 3 := by decide
  have some_dice : ¬∀ roll ∈ session.rolls, roll.shownCount (session.diceLimit 4000 2000) = 0 := by
    decide
  have refit := fun limit : Int => @display_fit_eq_iff session "plain".toList .plain limit 4000 2000 _
    rfl (by decide) (by decide) shown
  simp only [length, reserve, some_dice, false_or] at refit
  -- So it is left uncut at 62 and cut at 61.
  refine ⟨_, shown, length, ?_, ?_⟩
  · obtain ⟨fitted, refitted, fit, displayed, same⟩ := refit 62
    exact ⟨fitted, fit, same.mpr (by decide) ▸ displayed⟩
  · obtain ⟨fitted, refitted, fit, displayed, same⟩ := refit 61
    exact ⟨fitted, refitted, fit, displayed, fun equal => absurd (same.mp equal) (by decide)⟩

/-- A text that fits without its reserve is cut. -/
theorem display_fit_cut :
    let settings : Settings := ⟨3, 6, none, none⟩
    let session : Session := ⟨.one ⟨[1, 2, 3], 6, settings⟩, settings⟩
    ∃ text fitted refitted, session.display .standard .plain = .ok text ∧ text.length ≤ 59 ∧
      session.fit 59 .standard .plain = .ok fitted ∧
      session.display fitted .plain = .ok refitted ∧ refitted ≠ text := by
  intro settings session
  have short : HaveNumerals session.displayed := by decide
  obtain ⟨fitted, fit, displayed⟩ := @exists_fit session short .plain 59 4000 2000
  refine ⟨_, fitted, _, @display_eq .plain session short 4000 2000, ?_, fit, displayed, ?_⟩
  · decide +kernel
  · -- Only six characters of the dice are left before the mark of the cut.
    decide +kernel

end Session

end DiceChat
