import DiceChat.Display.Rendered
import DiceChat.Proofs.Display.Lines
import DiceChat.Proofs.Outcome
import DiceChat.Proofs.Session
import Mathlib

/-! The attempt that counts is one and the same in every view: as a number, as a roll, in the display, in records. -/

namespace DiceChat

variable {frames : Frames} {session : Session}

namespace Session

/-- A roll is the first of the best attempts: of those with the highest or the lowest total, or the only one. -/
def IsFirstBest (session : Session) (roll : Roll) : Prop :=
  match session.mode with
  | .straight => session.rolls = [roll]
  | .advantage => session.rolls.argmax Roll.total = some roll
  | .disadvantage => session.rolls.argmin Roll.total = some roll

/-- The attempt that counts is the first of the best ones. -/
theorem isFirstBest_adopted (session : Session) : session.IsFirstBest session.adopted := by
  -- The second attempt counts only if it is strictly better, as in the search for the best.
  rcases session with ⟨only | ⟨_ | _, first, second⟩, settings⟩
  · rfl
  · have best := List.argmax_concat Roll.total second [first]
    rw [List.argmax_singleton] at best
    exact best.trans (apply_ite some _ _ _).symm
  · have best := List.argmin_concat Roll.total second [first]
    rw [List.argmin_singleton] at best
    exact best.trans (apply_ite some _ _ _).symm

/-- The limit on the dice of each attempt, whole or not. -/
def limit (session : Session) (display : Display) : Limit :=
  match session.attempts with
  | .one _ => display.single
  | .two .. => display.double

end Session

/-- The line with a total that is made is the line with that total. -/
theorem eq_finalText_of_finalLine {total : Int} {line : Text}
    (made : finalLine total frames.markup = .ok line) : line = finalText total frames := by
  rw [finalLine_eq_spelled, spelled_eq_ok_iff] at made
  exact made.2.symm

/-- An attempt is displayed exactly if its numbers have numerals and its dice can be shown. -/
theorem Roll.display_eq_ok_iff {roll : Roll} {limit : Limit} {shown : Text} :
    roll.display limit = .ok shown ↔
      HaveNumerals roll.displayed ∧
        ∃ dice, limit.cut? roll.sumText = some dice ∧ shown = roll.text fun _ => dice := by
  -- First the faces are told, then they are cut, and then the modifier is told.
  rw [displayed, haveNumerals_append, Roll.display, bind_eq_ok_iff]
  constructor
  · -- The display succeeds, so both numerals are short and the dice were cut.
    rintro ⟨sum, told, made⟩
    obtain ⟨faces, rfl⟩ := spelled_eq_ok_iff.mp told
    cases cut : limit.cut? roll.sumText with
    | none =>
      rw [cut] at made
      cases made
    | some dice =>
      simp only [cut, spelled_bind_pure, spelled_eq_ok_iff] at made
      exact ⟨⟨faces, made.1⟩, dice, rfl, made.2.symm⟩
  · -- The two steps succeed one after the other.
    rintro ⟨⟨faces, modifier⟩, dice, cut, rfl⟩
    refine ⟨roll.sumText, spelled_of_haveNumerals faces _, ?_⟩
    simp only [cut, spelled_bind_pure]
    exact spelled_of_haveNumerals modifier _

/-- The line of one of two attempts is made exactly if the attempt can be displayed. -/
theorem attemptLine_eq_ok_iff {name line : Text} {roll : Roll} {counts : Bool} {limit : Limit} :
    attemptLine name roll counts limit frames.markup = .ok line ↔
      HaveNumerals roll.displayed ∧
        ∃ dice, limit.cut? roll.sumText = some dice ∧
          line = attemptText name (roll.text fun _ => dice) counts frames := by
  rw [attemptLine, bind_eq_ok_iff]
  simp only [Roll.display_eq_ok_iff, Frames.markup, emphasise_text, attemptText]
  -- Both cases make the same line, and one of them strikes it.
  cases counts <;> simp [Pure.pure, Except.pure, and_assoc, eq_comm]

namespace Session

/-- A display that is made consists of its lines, with all dice within the limit. -/
theorem exists_dice_of_display {display : Display} {text : Text}
    (shown : session.display display frames.markup = .ok text) :
    ∃ dice : Roll → Text,
      (∀ roll ∈ session.rolls, (session.limit display).cut? roll.sumText = some (dice roll)) ∧
      text = joinWith ['\n'] (session.texts dice frames) := by
  -- Dice that cannot be shown keep a display from being made, so nothing has to stand for them.
  refine ⟨fun roll => ((session.limit display).cut? roll.sumText).getD [], ?_⟩
  obtain ⟨lines, made, rfl⟩ := map_eq_ok_iff.mp shown
  have titled := emphasise_mode frames.underline session.mode
  rcases session with ⟨only | ⟨keep, first, second⟩, settings⟩
  · -- One attempt: its own cut made the text.
    simp only [Session.lines, bind_eq_ok_iff, spelled_eq_ok_iff, Roll.display_eq_ok_iff] at made
    obtain ⟨_, ⟨-, rfl⟩, _, ⟨-, dice, cut, rfl⟩, _, final, whole⟩ := made
    obtain rfl := Except.ok.inj whole
    rw [eq_finalText_of_finalLine final]
    simp [rolls, limit, cut, texts, attemptTexts, parametersText, Roll.text]
  · -- Two attempts: each line comes from its own cut, with the title of the mode before them.
    simp only [Session.lines, bind_eq_ok_iff, spelled_eq_ok_iff, attemptLine_eq_ok_iff] at made
    obtain ⟨_, ⟨-, rfl⟩, title, named, _, ⟨-, one, one_cut, rfl⟩, _, ⟨-, two, two_cut, rfl⟩, _, final,
      whole⟩ := made
    obtain rfl := Except.ok.inj whole
    obtain rfl := Except.ok.inj (titled.symm.trans named)
    rw [eq_finalText_of_finalLine final]
    simp [rolls, limit, one_cut, two_cut, texts, attemptTexts, parametersText, Roll.text]

/-- With whole limits, a display fails if the total that counts has no numeral. -/
theorem display_tooLong (long : maxNumeralDigits < digitCount session.adopted.total)
    (single double : Int) :
    session.display (.ofWhole single double) frames.markup =
      .error (.template (.format .tooLong)) := by
  -- The total is among the numbers of the display.
  rw [display_eq_spelled, spelled_eq_ite, if_neg]
  exact fun short => Nat.not_le.mpr long (haveNumerals_displayed_iff.mp short).2.2

/-- The numbers of a session that are displayed are among all its numbers. -/
theorem haveNumerals_of_integers (short : ∀ n ∈ session.integers, digitCount n ≤ maxNumeralDigits) :
    HaveNumerals session.displayed := by
  simp only [integers, List.forall_mem_append, List.forall_mem_flatMap] at short
  obtain ⟨rolls, settings⟩ := short
  refine haveNumerals_displayed_iff.mpr ⟨settings, fun roll known number member => ?_,
    rolls _ session.adopted_mem_rolls _ (by simp [Roll.integers])⟩
  -- A number of an attempt is a face or the modifier.
  refine rolls roll known number ?_
  rcases List.mem_append.mp member with face | modifier
  · simp [Roll.integers, face]
  · simp only [Roll.integers, Settings.integers, List.mem_append, List.mem_cons]
    exact .inr (.inr (.inr (.inr modifier)))

/-- A rolled session of small settings is displayed with numbers that have numerals. -/
theorem haveNumerals_roll {settings : Settings} (notated : settings.IsNotated) (mode : Mode)
    (die : Die) : HaveNumerals (settings.roll mode die).1.displayed :=
  haveNumerals_of_integers fun n member =>
    Nat.le_trans (notated.integers_session mode die n member) (by decide)

/-- The dice of a display are shown in one line, as they are cut from one. -/
theorem notMem_of_cut? {limit : Limit} {roll : Roll} {dice : Text}
    (cut : limit.cut? roll.sumText = some dice) : '\n' ∉ dice := by
  -- A limit that is no whole number lets a text pass or nothing.
  cases limit with
  | whole count =>
    obtain rfl := Option.some.inj cut
    exact notMem_truncate roll.notMem_sumText count
  | fraction count =>
    rw [Limit.cut?] at cut
    split at cut
    · cases cut
    · obtain rfl := Option.some.inj cut
      exact roll.notMem_sumText

/-- The line of an attempt under its number, before any of it is struck. -/
def attemptLine? (session : Session) (dice : Roll → Text) (number : Nat) : Option Text :=
  -- The attempts are counted from one.
  match session.attempts, number with
  | .one only, 1 => some ("Roll: ".toList ++ only.text dice)
  | .two _ first _, 1 => some ("Attempt one: ".toList ++ first.text dice)
  | .two _ _ second, 2 => some ("Attempt two: ".toList ++ second.text dice)
  | _, _ => none

/-- The lines of a display tell the attempt that counts: its total stands last, and it is not struck. -/
structure ShowsWinner (session : Session) (frames : Frames) (dice : Roll → Text)
    (lines : List Text) : Prop where
  /-- The last line tells the total of the attempt that counts. -/
  last : lines.getLast? = some (finalText session.adopted.total frames)
  /-- There is a line for each attempt between the first line and the last. -/
  length : lines.length = session.rolls.length + 2
  /-- The line of the attempt that counts is as it is, and that of any other attempt is struck. -/
  struck : ∀ number line, session.attemptLine? dice number = some line →
    lines[number]? = some (if number = session.winner then line else frames.strike.around line)
  /-- Where striking can be seen, the line of an attempt starts with it exactly if the attempt does not count. -/
  visible : frames.strike.before ≠ [] → ∀ number line, 1 ≤ number → number ≤ session.rolls.length →
    lines[number]? = some line → (frames.strike.before <+: line ↔ number ≠ session.winner)

/-- Every attempt has a line, which starts with one of two letters. -/
theorem exists_attemptLine? (dice : Roll → Text) {number : Nat} (positive : 1 ≤ number)
    (within : number ≤ session.rolls.length) :
    ∃ c rest, session.attemptLine? dice number = some (c :: rest) ∧ (c = 'R' ∨ c = 'A') := by
  -- There are one or two attempts, and so many numbers.
  rcases session with ⟨only | ⟨keep, first, second⟩, settings⟩
  · obtain rfl : number = 1 := Nat.le_antisymm within positive
    exact ⟨_, _, rfl, .inl rfl⟩
  · obtain rfl | rfl : number = 1 ∨ number = 2 := by
      simp only [rolls, List.length_cons, List.length_nil] at within
      omega
    · exact ⟨_, _, rfl, .inr rfl⟩
    · exact ⟨_, _, rfl, .inr rfl⟩

/-- Each attempt has its line in a display, and it is struck unless the attempt counts. -/
theorem getElem?_texts {dice : Roll → Text} {number : Nat} {line : Text}
    (found : session.attemptLine? dice number = some line) :
    (session.texts dice frames)[number]? =
      some (if number = session.winner then line else frames.strike.around line) := by
  -- A single attempt always counts.
  rcases session with ⟨only | ⟨keep, first, second⟩, settings⟩
  · rcases number with _ | _ | number
    · cases found
    · obtain rfl := Option.some.inj found
      rfl
    · cases found
  · -- With two attempts the line is struck through exactly if the other one counts.
    have struck : ∀ name attempt (counts : Prop) [Decidable counts],
        attemptText name attempt counts frames =
          if counts then "Attempt ".toList ++ name ++ ": ".toList ++ attempt
          else frames.strike.around ("Attempt ".toList ++ name ++ ": ".toList ++ attempt) := by
      intro name attempt counts _
      by_cases kept : counts <;> simp [attemptText, kept]
    rcases number with _ | _ | _ | number
    · cases found
    · obtain rfl := Option.some.inj found
      simp only [texts, attemptTexts, struck, eq_comm]
      rfl
    · obtain rfl := Option.some.inj found
      simp only [texts, attemptTexts, struck, eq_comm]
      rfl
    · cases found

/-- The lines of a display tell the attempt that counts, under any markup that has a name. -/
theorem showsWinner_texts (member : frames ∈ Frames.known) (dice : Roll → Text) :
    session.ShowsWinner frames dice (session.texts dice frames) where
  last := session.getLast?_texts dice frames
  length := by
    rcases session with ⟨only | ⟨keep, first, second⟩, settings⟩ <;> rfl
  struck _ _ := getElem?_texts
  visible := by
    intro seen number line positive within found
    obtain ⟨c, rest, own, letter⟩ := exists_attemptLine? dice positive within
    -- The line in question is that of an attempt, as it stands or struck through.
    rw [getElem?_texts own, Option.some.injEq] at found
    -- No mark for striking starts with a letter that the line of an attempt starts with.
    have unmarked : ¬frames.strike.before <+: c :: rest := by
      simp only [Frames.known, List.mem_cons, List.not_mem_nil, or_false] at member
      rcases member with rfl | rfl | rfl
      · rcases letter with rfl | rfl <;> simp [Frames.html]
      · rcases letter with rfl | rfl <;> simp [Frames.discord]
      · exact absurd rfl seen
    subst found
    split
    · rename_i counts
      simp [unmarked, counts]
    · rename_i other
      simp [Frame.around, other]

end Session

/-- A record without one of its fields. -/
def Json.without (record : Json) (name : Text) : Json :=
  match record with
  | .object fields => .object (Ordered.erase fields (.whole name))
  | other => other

/-- A record with one of its fields changed. -/
def Json.change (record : Json) (name : Text) (edit : Json → Json) : Json :=
  match record with
  | .object fields =>
    .object (fields.map fun field => if field.1 = .whole name then (field.1, edit field.2) else field)
  | other => other

namespace Session

/-- The name under which the record of a session holds the attempt of a number. -/
def attemptField (number : Nat) : Text :=
  if number = 2 then "try_two".toList else "try_one".toList

/-- The record of a session holds the attempt that counts under the name of its number. -/
theorem require_winner (session : Session) :
    session.record.require (attemptField session.winner) = .ok (session.adopted.record true) := by
  -- The record names the attempts in their order, and the winner counts them.
  rcases session with ⟨only | ⟨_ | _, first, second⟩, settings⟩
  · rfl
  · by_cases better : first.total < second.total <;>
      simp only [winner, adopted, Roll.higher, gt_iff_lt, Roll.lt_iff, better, if_true,
        if_false] <;> rfl
  · by_cases better : second.total < first.total <;>
      simp only [winner, adopted, Roll.lower, Roll.lt_iff, better, if_true, if_false] <;> rfl

end Session

/-- The record of a roll without a label is that with it, less the label in the settings. -/
theorem Roll.change_record (roll : Roll) :
    (roll.record true).change "settings".toList (·.without "label".toList) = roll.record false :=
  rfl

/-- Rendering makes the record in the view that is asked for, whatever is displayed. -/
theorem Session.record_of_render {display : Display} {markup : Markup} {name : Text}
    {view : RecordView} (named : RecordView.ofName? name = some view) {rendered : Rendered}
    (made : session.render display markup (some name) = .ok rendered) :
    rendered.record = some (session.recordIn view) := by
  -- The record is made behind the display, and from the session alone.
  simp only [Session.render, bind_eq_ok_iff, recordNamed, named] at made
  obtain ⟨text, -, record, same, whole⟩ := made
  obtain rfl := Except.ok.inj same
  obtain rfl := Except.ok.inj whole
  rfl

namespace Session

/-- All views of a session agree on the attempt that counts, which is the first of the best. -/
theorem views_agree (session : Session) :
    (session.IsFirstBest session.adopted ∧
      session.rolls[session.winner - 1]? = some session.adopted ∧
      session.winner = session.rolls.idxOf session.adopted + 1) ∧
    (∀ name markup, Markup.ofName? name = some markup →
      ∃ frames ∈ Frames.known, frames.markup = markup ∧
        (∀ display text, session.display display markup = .ok text →
          ∃ dice : Roll → Text,
            (∀ roll ∈ session.rolls, (session.limit display).cut? roll.sumText = some (dice roll)) ∧
            session.ShowsWinner frames dice (splitOnChar '\n' text)) ∧
        (∀ single double, (∀ n ∈ session.integers, digitCount n ≤ maxNumeralDigits) →
          ∃ text, session.display (.ofWhole single double) markup = .ok text) ∧
        (∀ single double, maxNumeralDigits < digitCount session.adopted.total →
          session.display (.ofWhole single double) markup =
            .error (.template (.format .tooLong)))) ∧
    ∃ chosen, session.record.require (attemptField session.winner) = .ok chosen ∧
      session.recordIn .legacy = chosen.change "settings".toList (·.without "label".toList) ∧
      ∀ display markup name view rendered, RecordView.ofName? name = some view →
        session.render display markup (some name) = .ok rendered →
        rendered.record = some (session.recordIn view) := by
  -- The choice and the record do not depend on the display.
  refine ⟨⟨session.isFirstBest_adopted, session.getElem?_winner, session.winner_eq_idxOf⟩, ?_,
    session.adopted.record true, session.require_winner, session.adopted.change_record.symm,
    fun _ _ _ _ _ named => record_of_render named⟩
  intro name markup named
  obtain ⟨frames, member, rfl⟩ := Frames.exists_known named
  refine ⟨frames, member, rfl, ?_, ?_, fun single double long => display_tooLong long single double⟩
  · -- The text splits into the lines that it was made of.
    intro display text shown
    obtain ⟨dice, cut, rfl⟩ := exists_dice_of_display shown
    refine ⟨dice, cut, ?_⟩
    rw [splitOnChar_joinWith (by simp [texts])
      (notMem_texts (Frames.isInline_of_mem_known member) fun roll known => notMem_of_cut? (cut roll known))]
    exact showsWinner_texts member dice
  · exact fun single double short => ⟨_, display_eq (haveNumerals_of_integers short) single double⟩

/-- On a tie the first attempt counts: its line stays as it is, and the line of the second is struck. -/
theorem views_agree_tie :
    let settings : Settings := ⟨2, 6, none, some "tie".toList⟩
    let session : Session := ⟨.two .higher ⟨[1, 2], 3, settings⟩ ⟨[2, 1], 3, settings⟩, settings⟩
    (∀ n ∈ session.integers, digitCount n ≤ maxNumeralDigits) ∧
      session.rolls.argmax Roll.total = some ⟨[1, 2], 3, settings⟩ ∧
      ∃ text, session.display (.ofWhole 0 2) .discord = .ok text ∧
        (splitOnChar '\n' text)[1]? = some "Attempt one: (1 ...)".toList ∧
        (splitOnChar '\n' text)[2]? = some "~~Attempt two: (2 ...)~~".toList := by
  intro settings session
  obtain ⟨⟨best, -, -⟩, views, -⟩ := session.views_agree
  obtain ⟨frames, -, same, shows, displayed, -⟩ := views "discord".toList .discord rfl
  -- All numbers are short, so the session can be displayed.
  have short : ∀ n ∈ session.integers, digitCount n ≤ maxNumeralDigits := by decide
  obtain ⟨text, made⟩ := displayed 0 2 short
  obtain ⟨dice, cut, shown⟩ := shows _ text made
  -- The dice are cut behind two characters.
  have one : dice ⟨[1, 2], 3, settings⟩ = "1 ...".toList :=
    (Option.some.inj (cut ⟨[1, 2], 3, settings⟩ (by simp [session, rolls]))).symm
  have two : dice ⟨[2, 1], 3, settings⟩ = "2 ...".toList :=
    (Option.some.inj (cut ⟨[2, 1], 3, settings⟩ (by simp [session, rolls]))).symm
  obtain rfl := Frames.markup_injective (same.trans Frames.markup_discord.symm)
  refine ⟨short, best, text, made, ?_, ?_⟩
  · rw [shown.struck 1 _ rfl, Roll.text, one]
    rfl
  · rw [shown.struck 2 _ rfl, Roll.text, two]
    rfl

/-- A total that counts may have too many digits to be told, though every part of the session is valid. -/
theorem views_agree_tooLong :
    let settings : Settings := ⟨1, 1, some (10 ^ 4300 - 1), none⟩
    let roll : Roll := ⟨[1], 10 ^ 4300, settings⟩
    let session : Session := ⟨.two .higher roll roll, settings⟩
    ¬∃ text, session.display .standard .html = .ok text ∧
      (splitOnChar '\n' text).getLast? = some (finalText session.adopted.total .html) := by
  rintro settings roll session ⟨text, shown, -⟩
  -- The total is one digit too long to be told.
  have total : session.adopted.total = 10 ^ 4300 := congrArg Roll.total (adopted_same .higher roll settings)
  have long : maxNumeralDigits < digitCount session.adopted.total := by
    rw [total]
    exact lt_digitCount_pow (by decide)
  have failed : session.display .standard .html = .error (.template (.format .tooLong)) :=
    @display_tooLong .html session long 4000 2000
  exact nomatch shown.symm.trans failed

end Session

end DiceChat
