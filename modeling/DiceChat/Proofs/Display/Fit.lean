import DiceChat.Proofs.Display.Lines
import DiceChat.Proofs.Roll

/-! A fitted display has at most as many characters as it should have, or as it has without any dice. -/

namespace DiceChat

/-- A text cut to a limit is longer than the text cut to nothing by no more than the limit. -/
theorem length_truncate_le (text : Text) {limit : Int} (positive : 0 ≤ limit) :
    ((truncate text limit).length : Int) ≤ (truncate text 0).length + limit := by
  -- What is cut off is replaced by the same mark in both.
  by_cases long : limit < text.length
  · have some_text : (0 : Int) < text.length := by omega
    simp only [truncate, if_pos long, if_pos some_text, cutAt, if_pos positive, List.length_append,
      List.length_take]
    simp
    omega
  · simp only [truncate, if_neg long]
    omega

/-- Cutting to nothing leaves at most the mark. -/
theorem length_truncate_zero_le (text : Text) : (truncate text 0).length ≤ 3 := by
  -- Only an empty text is not cut to the mark.
  rw [truncate]
  split
  · simp [cutAt, ellipsis]
  · rename_i empty
    omega

/-- A numeral has its digits and perhaps a sign. -/
theorem length_writeInt_le (value : Int) : (writeInt value).length ≤ digitCount value + 1 := by
  -- Only a negative number has a sign.
  cases value with
  | ofNat n => exact Nat.le_succ _
  | negSucc n => exact Nat.le_refl _

/-- The modifier of small settings is shown in a few characters. -/
theorem Settings.IsNotated.length_modifierText {settings : Settings}
    (notated : settings.IsNotated) : settings.modifierText.length ≤ 8 := by
  -- The modifier is shown as its magnitude behind a sign between spaces.
  have short : ∀ value : Int, digitCount value ≤ 4 → (writeInt value).length ≤ 5 :=
    fun value digits => Nat.le_trans (length_writeInt_le value) (Nat.succ_le_succ digits)
  rw [modifierText]
  split
  · exact Nat.zero_le _
  · rename_i value added
    have bounds := notated.modifier value added
    have digits := short value ((digitCount_le_iff (by decide)).mpr (by omega))
    have opposite := short (-value) ((digitCount_le_iff (by decide)).mpr (by omega))
    split <;> simp <;> omega

/-- The parameters of small settings are shown in a few characters. -/
theorem Settings.IsNotated.length_parameters {settings : Settings}
    (notated : settings.IsNotated) : settings.parameters.length ≤ 19 := by
  -- Two numbers of four digits, the separator, and the modifier.
  have number := length_writeInt_le settings.number
  have sides := length_writeInt_le settings.sides
  have modifier := notated.length_modifierText
  have short := notated.integers
  have number_digits := short settings.number (by simp [Settings.integers])
  have sides_digits := short settings.sides (by simp [Settings.integers])
  simp only [parameters, List.length_append, List.length_singleton]
  omega

variable {frames : Frames} {session : Session}

/-- What surrounds the dice of an attempt is as long as if there were none. -/
theorem Roll.length_text (roll : Roll) (dice : Roll → Text) :
    (roll.text dice).length = (roll.text fun _ => []).length + (dice roll).length := by
  -- The dice stand between the parentheses.
  simp only [Roll.text, List.length_append, List.length_nil]
  omega

/-- What surrounds an attempt in its line is as long as if there were none. -/
theorem length_attemptText (name attempt : Text) (counts : Bool) :
    (attemptText name attempt counts frames).length =
      (attemptText name [] counts frames).length + attempt.length := by
  -- The frame of a struck line surrounds all of it.
  simp only [attemptText, Frame.around]
  split <;> simp only [List.length_append, List.length_nil] <;> omega

namespace Session

/-- The length of a display that shows no dice. -/
def bareLength (session : Session) (frames : Frames) : Nat :=
  (joinWith ['\n'] (session.texts (Roll.diceWithin 0) frames)).length

/-- How many characters of dice there is room for. -/
def room (session : Session) (limit : Int) (frames : Frames) : Nat :=
  (limit - session.bareLength frames).toNat

/-- The characters of dice are the only ones that vary with the way in which dice are shown. -/
theorem length_texts (session : Session) (dice : Roll → Text) :
    (joinWith ['\n'] (session.texts dice frames)).length =
      (joinWith ['\n'] (session.texts (fun _ => []) frames)).length +
        (session.rolls.map fun roll => (dice roll).length).sum := by
  -- The separators depend on the number of lines only, and each attempt has a line.
  have roll_text := fun roll : Roll => roll.length_text dice
  rw [length_joinWith, length_joinWith]
  rcases session with ⟨only | ⟨keep, first, second⟩, settings⟩
  · -- One attempt adds one line with its dice.
    have one := roll_text only
    simp only [texts, attemptTexts, rolls, List.map_cons, List.map_nil, List.sum_cons, List.sum_nil,
      List.cons_append, List.nil_append, List.length_append, List.length_cons, List.length_nil]
    omega
  · -- Two attempts add a line each.
    have one := roll_text first
    have two := roll_text second
    simp only [texts, attemptTexts, rolls, List.map_cons, List.map_nil, List.sum_cons, List.sum_nil,
      List.cons_append, List.nil_append, List.length_cons, List.length_nil,
      length_attemptText _ (first.text _), length_attemptText _ (second.text _)]
    omega

/-- Dice within a limit make a display longer by no more than the limit for each attempt. -/
theorem length_diceWithin_le (session : Session) (frames : Frames) {limit : Int}
    (positive : 0 ≤ limit) :
    ((joinWith ['\n'] (session.texts (Roll.diceWithin limit) frames)).length : Int) ≤
      session.bareLength frames + session.rolls.length * limit := by
  -- Every attempt is longer than its cut one by the limit at most.
  have each := fun roll : Roll => length_truncate_le roll.sumText positive
  rw [bareLength, length_texts, length_texts session (Roll.diceWithin 0)]
  rcases session with ⟨only | ⟨keep, first, second⟩, settings⟩
  · have one := each only
    simp [rolls, Roll.diceWithin]
    omega
  · have one := each first
    have two := each second
    simp [rolls, Roll.diceWithin]
    omega

/-- Fitting lowers the limits to what a display without dice leaves, which two attempts share. -/
theorem fit_of_bare {markup : Markup} {bare : Text}
    (bare_shown : session.display .bare markup = .ok bare) (limit single double : Int) :
    session.fit limit (.ofWhole single double) markup =
      .ok (.ofWhole (min single (limit - bare.length).toNat)
        (min double ((limit - bare.length).toNat / 2 : Nat))) := by
  -- A limit that is lowered is the lesser of two.
  have least : ∀ a b : Int, (if b < a then b else a) = min a b := by
    intro a b
    split <;> omega
  rw [fit, bare_shown]
  simp [Bind.bind, Except.bind, Pure.pure, Except.pure, Display.ofWhole, Limit.atMost, least]

/-- A display without dice is the lines of the session with all their dice cut off. -/
theorem display_bare (short : HaveNumerals session.displayed) :
    session.display .bare frames.markup =
      .ok (joinWith ['\n'] (session.texts (Roll.diceWithin 0) frames)) := by
  rw [Display.bare, display_eq short, diceLimit]
  split <;> rfl

/-- Fitting lowers the limits to the room for dice, which two attempts share. -/
theorem fit_eq (short : HaveNumerals session.displayed) (limit single double : Int) :
    session.fit limit (.ofWhole single double) frames.markup =
      .ok (.ofWhole (min single (session.room limit frames))
        (min double (session.room limit frames / 2 : Nat))) :=
  fit_of_bare (display_bare short) limit single double

/-- The limit on the dice of each attempt in a display that is fitted to a length. -/
def fittedLimit (session : Session) (limit : Int) (frames : Frames) (single double : Int) : Int :=
  session.diceLimit (min single (session.room limit frames))
    (min double (session.room limit frames / 2 : Nat))

/-- A fitted display is the lines of the session with their dice within the fitted limit. -/
theorem exists_fit (short : HaveNumerals session.displayed) (frames : Frames)
    (limit single double : Int) :
    ∃ fitted, session.fit limit (.ofWhole single double) frames.markup = .ok fitted ∧
      session.display fitted frames.markup = .ok (joinWith ['\n']
        (session.texts (Roll.diceWithin (session.fittedLimit limit frames single double)) frames)) :=
  ⟨_, fit_eq short limit single double, display_eq short _ _⟩

/-- The limit on dice of a fitted display leaves room for all attempts. -/
theorem fittedLimit_le (session : Session) (limit : Int) (frames : Frames) {single double : Int}
    (single_ok : 0 ≤ single) (double_ok : 0 ≤ double) :
    0 ≤ session.fittedLimit limit frames single double ∧
      session.rolls.length * session.fittedLimit limit frames single double ≤
        session.room limit frames := by
  -- One attempt takes all the room, two take half of it each, rounded down.
  rw [fittedLimit]
  generalize session.room limit frames = room
  rcases session with ⟨only | ⟨keep, first, second⟩, settings⟩
  · simp [diceLimit, rolls]
    omega
  · simp [diceLimit, rolls]
    omega

/-- A display that is fitted to a limit is not longer than the limit, unless it is so without dice. -/
theorem length_fit_le (session : Session) (limit : Int) (frames : Frames) {single double : Int}
    (single_ok : 0 ≤ single) (double_ok : 0 ≤ double) :
    ((joinWith ['\n'] (session.texts
      (Roll.diceWithin (session.fittedLimit limit frames single double)) frames)).length : Int) ≤
        max limit (session.bareLength frames) := by
  -- The room is what the bare display leaves of the limit, or nothing.
  obtain ⟨positive, within⟩ := session.fittedLimit_le limit frames single_ok double_ok
  have length := session.length_diceWithin_le frames positive
  have room_eq : session.room limit frames = (limit - session.bareLength frames).toNat := rfl
  omega

/-- The line of parameters is short for small settings. -/
theorem length_parametersText_le (notated : session.settings.IsNotated) :
    (session.parametersText .discord).length ≤ 53 := by
  -- The mode is named for two attempts only.
  have parameters := notated.length_parameters
  have title : session.mode.title.length ≤ 12 := by cases session.mode <;> decide
  have opening : ("Parameters: ".toList).length = 12 := by decide
  have between : (" with ".toList).length = 6 := by decide
  have marks : Frames.discord.underline.before.length = 2 ∧
      Frames.discord.underline.after.length = 2 := by decide
  simp only [parametersText, Frame.around]
  split <;> simp only [List.length_append] <;> omega

end Session

/-- Without dice, an attempt is short for small settings. -/
theorem Roll.length_bareText_le {roll : Roll} (notated : roll.settings.IsNotated) :
    (roll.text fun _ => []).length ≤ 10 := by
  -- The words take five characters, and the modifier takes five at most.
  have modifier := notated.length_modifierText
  simp [Roll.text]
  omega

/-- Without dice, the line of one of two attempts is short for small settings. -/
theorem length_bareAttempt_le {roll : Roll} (notated : roll.settings.IsNotated) (name : Text)
    (short : name.length = 3) (counts : Bool) :
    (attemptText name (roll.text fun _ => []) counts .discord).length ≤ 27 := by
  -- A struck line has two marks on either side.
  have attempt := roll.length_bareText_le notated
  rw [length_attemptText]
  cases counts <;> simp [attemptText, Frame.around, Frames.discord] <;> omega

/-- The line with a total of eight digits is short. -/
theorem length_finalText_le {total : Int} (short : digitCount total ≤ 8) :
    (finalText total .discord).length ≤ 37 := by
  -- Eight digits, perhaps a sign, and the marks between the two fixed texts.
  have numeral := length_writeInt_le total
  have opening : finalOpening.length = 22 := by decide
  have ending : finalEnding.length = 2 := by decide
  simp [finalText, Frame.around, Frames.discord, opening, ending]
  omega

namespace Session

/-- Without dice, the display of small settings is short. -/
theorem bareLength_le {settings : Settings} (notated : settings.IsNotated)
    (asked : session.settings = settings)
    (thrown : ∀ roll ∈ session.rolls, roll.IsThrown settings) :
    session.bareLength .discord ≤ 200 := by
  -- The lines are bounded one by one, and each attempt leaves its mark of a cut.
  have parameters : (session.parametersText .discord).length ≤ 53 :=
    length_parametersText_le (asked ▸ notated)
  have counted := thrown _ session.adopted_mem_rolls
  have final : (finalText session.adopted.total .discord).length ≤ 37 :=
    length_finalText_le (notated.integers_roll counted _ (by simp [Roll.integers]))
  -- With no dice left a roll still shows the mark of the cut.
  have cut := fun roll : Roll => length_truncate_zero_le roll.sumText
  have small : ∀ roll ∈ session.rolls, roll.settings.IsNotated := fun roll known =>
    (thrown roll known).asked ▸ notated
  rw [bareLength, length_texts, length_joinWith]
  cases attempts : session.attempts with
  -- One line stands between the parameters and the total.
  | one only =>
    have cut_only := cut only
    have bare := only.length_bareText_le (small only (by simp [rolls, attempts]))
    simp [texts, attemptTexts, rolls, attempts, Roll.diceWithin]
    omega
  -- Two lines stand there, with their names, and one of them may be struck through.
  | two keep first second =>
    have cut_first := cut first
    have cut_second := cut second
    have line := length_bareAttempt_le (small first (by simp [rolls, attempts])) "one".toList rfl
      (session.winner = 1)
    have other := length_bareAttempt_le (small second (by simp [rolls, attempts])) "two".toList rfl
      (session.winner = 2)
    simp only [texts, attemptTexts, rolls, attempts, Roll.diceWithin, List.map_cons, List.map_nil,
      List.sum_cons, List.sum_nil, List.cons_append, List.nil_append, List.length_cons,
      List.length_nil]
    omega

end Session

end DiceChat
