import DiceChat.Proofs.Display.Fit
import DiceChat.Proofs.Display.Winner
import DiceChat.Proofs.Text.Quoted

/-! A fitted display has at most as many characters as it is fitted to, whatever the markup makes of a line. -/

namespace DiceChat

/-- Modifiers are plain. -/
theorem Settings.isPlain_of_mem_modifierText {settings : Settings} {c : Char}
    (member : c ∈ settings.modifierText) : isPlain c = true := by
  -- The sign between spaces is plain, and so is the numeral.
  have signs : ∀ c ∈ " + ".toList ++ " - ".toList, isPlain c = true :=
    List.all_eq_true.mp (by decide)
  rw [modifierText] at member
  split at member
  · exact absurd member List.not_mem_nil
  · split at member
    · rcases List.mem_append.mp member with sign | numeral
      · exact signs c (List.mem_append_left _ sign)
      · exact isPlain_of_mem_writeInt numeral
    · rcases List.mem_append.mp member with sign | numeral
      · exact signs c (List.mem_append_right _ sign)
      · exact isPlain_of_mem_writeInt numeral

/-- Dice are plain, cut or not. -/
theorem Roll.isPlain_of_mem_diceWithin {roll : Roll} {limit : Int} {c : Char}
    (member : c ∈ roll.diceWithin limit) : isPlain c = true := by
  -- What is cut off is replaced by dots.
  have whole : ∀ c ∈ roll.sumText, isPlain c = true := by
    intro c member
    rcases mem_joinWith member with plus | ⟨text, known, inside⟩
    · exact List.all_eq_true.mp (by decide : " + ".toList.all isPlain = true) c plus
    · obtain ⟨value, -, rfl⟩ := List.mem_map.mp known
      exact isPlain_of_mem_writeInt inside
  -- Neither the dots nor a beginning of the dice has a special character.
  have dots : ∀ c ∈ ellipsis, isPlain c = true := List.all_eq_true.mp (by decide)
  have taken : ∀ count, ∀ c ∈ roll.sumText.take count, isPlain c = true :=
    fun count c member => whole c (List.mem_of_mem_take member)
  rw [diceWithin, truncate] at member
  split at member
  · rcases List.mem_append.mp member with start | mark
    · rw [cutAt] at start
      split at start
      · exact taken _ c start
      · exact taken _ c start
    · exact dots c mark
  · exact whole c member

/-- What stands before the name of an attempt. -/
def attemptOpening : Text := "Attempt ".toList

/-- The line of one of two attempts as it is put into the template that strikes it. -/
def plainLine (name : Text) (roll : Roll) (limit : Int) : Text :=
  attemptOpening ++ name ++ ": ".toList ++ roll.text (Roll.diceWithin limit)

/-- The line of an attempt is plain if its name is. -/
theorem isPlain_of_mem_plainLine {name : Text} {roll : Roll} {limit : Int}
    (named : ∀ c ∈ name, isPlain c = true) :
    ∀ c ∈ plainLine name roll limit, isPlain c = true := by
  -- The fixed texts are checked one by one.
  have opening : ∀ c ∈ attemptOpening, isPlain c = true := List.all_eq_true.mp (by decide)
  have colon : ∀ c ∈ ": ".toList, isPlain c = true := List.all_eq_true.mp (by decide)
  have left : ∀ c ∈ "(".toList, isPlain c = true := List.all_eq_true.mp (by decide)
  have right : ∀ c ∈ ")".toList, isPlain c = true := List.all_eq_true.mp (by decide)
  have dice : ∀ c ∈ roll.diceWithin limit, isPlain c = true :=
    fun _ => Roll.isPlain_of_mem_diceWithin
  have modifier : ∀ c ∈ roll.settings.modifierText, isPlain c = true :=
    fun _ => Settings.isPlain_of_mem_modifierText
  simp only [plainLine, Roll.text, List.forall_mem_append]
  exact ⟨⟨⟨opening, named⟩, colon⟩, ⟨⟨left, dice⟩, right⟩, modifier⟩

/-- With dice within a limit, a line is longer than without dice by no more than the limit. -/
theorem length_plainLine_le (name : Text) (roll : Roll) {limit : Int} (positive : 0 ≤ limit) :
    ((plainLine name roll limit).length : Int) ≤ (plainLine name roll 0).length + limit := by
  -- Only the dice depend on the limit; both lengths are taken apart around them.
  have dice := length_truncate_le roll.sumText positive
  have text := roll.length_text (Roll.diceWithin limit)
  have bare := roll.length_text (Roll.diceWithin 0)
  simp only [Roll.diceWithin] at text bare
  simp only [plainLine, List.length_append]
  omega

/-- An attempt with dice within a limit is longer than without dice by no more than the limit. -/
theorem Roll.length_display_le {roll : Roll} {limit : Int} (positive : 0 ≤ limit)
    {bare shown : Text} (bare_shown : roll.display (.whole 0) = .ok bare)
    (fully_shown : roll.display (.whole limit) = .ok shown) :
    (shown.length : Int) ≤ bare.length + limit := by
  have dice := length_truncate_le roll.sumText positive
  rw [display_whole, spelled_eq_ok_iff] at bare_shown fully_shown
  rw [← bare_shown.2, ← fully_shown.2, length_text, length_text _ (diceWithin 0)]
  -- Both texts are the same but for the dice.
  simp only [diceWithin]
  omega

variable {markup : Markup}

/-- The line of an attempt is struck unless the attempt counts. -/
theorem attemptLine_whole_eq_ok_iff {name line : Text} {roll : Roll} {counts : Bool} {limit : Int} :
    attemptLine name roll counts (.whole limit) markup = .ok line ↔
      HaveNumerals roll.displayed ∧
        (if counts then .ok (plainLine name roll limit)
          else emphasise markup.strike (.text (plainLine name roll limit))) = Except.ok line := by
  -- The numerals are spelled first, and only then is the line struck through.
  rw [attemptLine, Roll.display_whole, bind_eq_ok_iff]
  simp only [spelled_eq_ok_iff, and_assoc, exists_and_left, exists_eq_left']
  rfl

/-- The line of an attempt is longer than without dice by no more than the limit, struck or not. -/
theorem length_attemptLine_le {name : Text} {roll : Roll} {counts : Bool} {limit : Int}
    (named : ∀ c ∈ name, isPlain c = true) (positive : 0 ≤ limit)
    (once : markup.strike.insertions ≤ 1) {bare shown : Text}
    (bare_shown : attemptLine name roll counts (.whole 0) markup = .ok bare)
    (fully_shown : attemptLine name roll counts (.whole limit) markup = .ok shown) :
    (shown.length : Int) ≤ bare.length + limit := by
  -- What strikes the line makes it longer by no more than it was before.
  have line := length_plainLine_le name roll positive
  obtain ⟨-, bare_made⟩ := attemptLine_whole_eq_ok_iff.mp bare_shown
  obtain ⟨-, made⟩ := attemptLine_whole_eq_ok_iff.mp fully_shown
  cases counts with
  | true =>
    rw [← Except.ok.inj bare_made, ← Except.ok.inj made]
    exact line
  | false =>
    have struck := Template.length_fill_le (isPlain_of_mem_plainLine named)
      (isPlain_of_mem_plainLine named) once (mapError_eq_ok_iff.mp bare_made)
      (mapError_eq_ok_iff.mp made)
    omega

namespace Session

variable {session : Session}

/-- A display is longer than without dice by no more than the limit for each attempt. -/
theorem length_display_le {single double : Int} (once : markup.strike.insertions ≤ 1)
    (positive : 0 ≤ session.diceLimit single double) {bare shown : Text}
    (bare_shown : session.display .bare markup = .ok bare)
    (fully_shown : session.display (.ofWhole single double) markup = .ok shown) :
    (shown.length : Int) ≤
      bare.length + session.rolls.length * session.diceLimit single double := by
  -- Only the lines of the attempts depend on the limit, and the other lines are the same.
  rw [display, map_eq_ok_iff] at bare_shown fully_shown
  obtain ⟨bare_lines, bare_made, rfl⟩ := bare_shown
  obtain ⟨lines, made, rfl⟩ := fully_shown
  rw [length_joinWith, length_joinWith]
  rcases session with ⟨only | ⟨keep, first, second⟩, settings⟩
  · -- One attempt: only the line of its dice differs.
    simp only [Session.lines, Display.bare, Display.ofWhole, bind_eq_ok_iff, spelled_eq_ok_iff]
      at bare_made made
    obtain ⟨_, ⟨-, rfl⟩, bare_dice, bare_rolled, bare_final, bare_told, bare_made⟩ := bare_made
    obtain ⟨_, ⟨-, rfl⟩, dice, rolled, final, told, made⟩ := made
    obtain rfl := Except.ok.inj (bare_told.symm.trans told)
    have attempt := Roll.length_display_le positive bare_rolled rolled
    rw [← Except.ok.inj bare_made, ← Except.ok.inj made]
    simp only [diceLimit, rolls] at attempt ⊢
    simp
    omega
  · -- Two attempts: both of their lines may differ, and each of them by the limit at most.
    simp only [Session.lines, Display.bare, Display.ofWhole, bind_eq_ok_iff, spelled_eq_ok_iff]
      at bare_made made
    obtain ⟨_, ⟨-, rfl⟩, bare_mode, bare_named, bare_one, bare_line, bare_two, bare_other, bare_final,
      bare_told, bare_made⟩ := bare_made
    obtain ⟨_, ⟨-, rfl⟩, mode, named, one, line, two, other, final, told, made⟩ := made
    obtain rfl := Except.ok.inj (bare_named.symm.trans named)
    obtain rfl := Except.ok.inj (bare_told.symm.trans told)
    -- A line that is struck through is inserted once, so it grows by its dice only.
    have attempt := length_attemptLine_le (List.all_eq_true.mp (by decide)) positive once
      bare_line line
    have attempt' := length_attemptLine_le (List.all_eq_true.mp (by decide)) positive once
      bare_other other
    rw [← Except.ok.inj bare_made, ← Except.ok.inj made]
    simp only [diceLimit, rolls] at attempt attempt' ⊢
    simp
    omega

/-- Each attempt adds its whole limit where its dice have to be cut. -/
theorem length_diceWithin_of_lt (session : Session) (frames : Frames) {limit : Int}
    (positive : 0 ≤ limit) (longer : ∀ roll ∈ session.rolls, limit < roll.sumText.length) :
    ((joinWith ['\n'] (session.texts (Roll.diceWithin limit) frames)).length : Int) =
      session.bareLength frames + session.rolls.length * limit := by
  -- The mark of the cut is there without dice, too.
  have each : ∀ roll : Roll, limit < roll.sumText.length →
      ((truncate roll.sumText limit).length : Int) = (truncate roll.sumText 0).length + limit := by
    intro roll long
    rw [truncate, if_pos long, truncate, if_pos (by omega), cutAt, if_pos positive, cutAt,
      if_pos (Int.le_refl 0), List.length_append, List.length_append, List.length_take,
      List.length_take]
    omega
  -- The other lines do not depend on the limit.
  rw [bareLength, length_texts, length_texts session (Roll.diceWithin 0)]
  rcases session with ⟨only | ⟨keep, first, second⟩, settings⟩
  · have one := each only (longer only (by simp [rolls]))
    simp [rolls, Roll.diceWithin]
    omega
  · have one := each first (longer first (by simp [rolls]))
    have two := each second (longer second (by simp [rolls]))
    simp [rolls, Roll.diceWithin]
    omega

/-- A display is made only if its numbers have numerals. -/
theorem haveNumerals_of_display {frames : Frames} {single double : Int} {shown : Text}
    (fully_shown : session.display (.ofWhole single double) frames.markup = .ok shown) :
    HaveNumerals session.displayed := by
  rw [display_eq_spelled, spelled_eq_ok_iff] at fully_shown
  exact fully_shown.1

/-- A fitted display is as long as it is fitted to, or as without dice, at most, and uses all the room it has. -/
theorem length_display_fit (limit : Int) {single double : Int} (single_ok : 0 ≤ single)
    (double_ok : 0 ≤ double) (once : markup.strike.insertions ≤ 1) {bare : Text}
    (bare_shown : session.display .bare markup = .ok bare) :
    ∃ fitted_single fitted_double : Int,
      session.fit limit (.ofWhole single double) markup =
        .ok (.ofWhole fitted_single fitted_double) ∧
      fitted_single ≤ single ∧ fitted_double ≤ double ∧
      (∀ shown, session.display (.ofWhole fitted_single fitted_double) markup = .ok shown →
        (shown.length : Int) ≤ max limit bare.length) ∧
      ∀ name, Markup.ofName? name = some markup → ∃ shown,
        session.display (.ofWhole fitted_single fitted_double) markup = .ok shown ∧
        (bare.length ≤ limit →
          session.diceLimit fitted_single fitted_double < session.diceLimit single double →
          (∀ roll ∈ session.rolls,
            session.diceLimit fitted_single fitted_double < roll.sumText.length) →
          match session.attempts with
          | .one _ => (shown.length : Int) = limit
          | .two .. => (shown.length : Int) = limit ∨ (shown.length : Int) = limit - 1) := by
  -- The room is what the display without dice leaves of the limit, or nothing.
  obtain ⟨room, room_eq⟩ : ∃ room : Nat, room = (limit - bare.length).toNat := ⟨_, rfl⟩
  have fit := fit_of_bare bare_shown limit single double
  rw [← room_eq] at fit
  -- The lowered budgets are not negative, and together they take no more than the room.
  have positive : 0 ≤ session.diceLimit (min single room) (min double (room / 2 : Nat)) := by
    rw [diceLimit]
    split <;> omega
  have within : session.rolls.length * session.diceLimit (min single room)
      (min double (room / 2 : Nat)) ≤ room := by
    rcases session with ⟨only | ⟨keep, first, second⟩, settings⟩
    · simp [diceLimit, rolls]
    · simp [diceLimit, rolls]
      omega
  refine ⟨_, _, fit, Int.min_le_left _ _, Int.min_le_left _ _, fun shown fully_shown => ?_,
    fun name named => ?_⟩
  · -- A display adds the room at most to the bare one.
    have length := length_display_le once positive bare_shown fully_shown
    omega
  · -- A known markup always gives a display, and if every line is cut its length is exact.
    obtain ⟨frames, -, rfl⟩ := Frames.exists_known named
    have short := haveNumerals_of_display bare_shown
    have bare_eq := Except.ok.inj (bare_shown.symm.trans (display_bare short))
    refine ⟨_, display_eq short _ _, fun room_left lowered longer => ?_⟩
    have length := session.length_diceWithin_of_lt frames positive longer
    rw [bareLength, ← bare_eq] at length
    rw [length]
    rcases session with ⟨only | ⟨keep, first, second⟩, settings⟩
    · simp [diceLimit, rolls] at lowered ⊢
      omega
    · simp [diceLimit, rolls] at lowered ⊢
      omega

/-- Two attempts that do not fit share the room, of which one character may be left over. -/
theorem length_display_fit_shared :
    let settings : Settings := ⟨3, 6, none, none⟩
    let session : Session :=
      ⟨.two .higher ⟨[1, 2, 3], 6, settings⟩ ⟨[6, 5, 4], 15, settings⟩, settings⟩
    Markup.discord.strike.insertions ≤ 1 ∧
      ∃ bare shown, session.display .bare .discord = .ok bare ∧ bare.length = 107 ∧
        session.fit 112 .standard .discord = .ok (.ofWhole 5 2) ∧
        session.display (.ofWhole 5 2) .discord = .ok shown ∧
        ((shown.length : Int) = 112 ∨ (shown.length : Int) = 111) := by
  intro settings session
  have once : Markup.discord.strike.insertions ≤ 1 := (Template.insertions_around _ _).le
  have bare_shown : session.display .bare .discord = .ok _ :=
    -- The bare display of this session has 107 characters.
    @display_bare .discord session (by decide)
  have length : (joinWith ['\n'] (session.texts (Roll.diceWithin 0) .discord)).length = 107 := by
    decide +kernel
  -- The room of five characters is shared.
  have fit : session.fit 112 .standard .discord = .ok (.ofWhole 5 2) := by
    rw [Display.standard, fit_of_bare bare_shown, length]
    rfl
  -- The law is taken at the standard budgets, where both lines are cut.
  obtain ⟨single, double, fitted, -, -, -, known⟩ :=
    length_display_fit 112 (by decide : (0 : Int) ≤ 4000) (by decide : (0 : Int) ≤ 2000) once
      bare_shown
  obtain ⟨rfl, rfl⟩ : single = 5 ∧ double = 2 := by
    simpa [Display.ofWhole] using Except.ok.inj (fitted.symm.trans fit)
  obtain ⟨shown, displayed, full⟩ := known "discord".toList rfl
  exact ⟨once, _, shown, bare_shown, length, fit, displayed,
    full (by rw [length]; decide) (by decide) (by decide)⟩

end Session

end DiceChat
