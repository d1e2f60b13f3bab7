import DiceChat.Display.Layout
import DiceChat.Proofs.Numeral
import DiceChat.Proofs.Text.Join

/-! A display under markup that surrounds, line by line: limits reach nothing but the dice of the attempts. -/

namespace DiceChat

/-- The texts before and behind what is emphasised. -/
structure Frame where
  /-- What stands before. -/
  before : Text
  /-- What stands behind. -/
  after : Text
deriving DecidableEq

/-- A text between the two texts of a frame. -/
def Frame.around (frame : Frame) (text : Text) : Text :=
  frame.before ++ (text ++ frame.after)

/-- A frame keeps a line in one piece. -/
def Frame.IsInline (frame : Frame) : Prop :=
  '\n' ∉ frame.before ∧ '\n' ∉ frame.after

/-- Frames for the three kinds of emphasis. -/
structure Frames where
  /-- Around the total that counts. -/
  bold : Frame
  /-- Around the attempt that does not count. -/
  strike : Frame
  /-- Around the mode of two attempts. -/
  underline : Frame
deriving DecidableEq

namespace Frames

/-- The markup that puts frames around what it emphasises. -/
def markup (frames : Frames) : Markup :=
  { bold := .around frames.bold.before frames.bold.after
    strike := .around frames.strike.before frames.strike.after
    underline := .around frames.underline.before frames.underline.after }

/-- HTML tags. -/
def html : Frames :=
  { bold := ⟨"<b>".toList, "</b>".toList⟩
    strike := ⟨"<s>".toList, "</s>".toList⟩
    underline := ⟨"<u>".toList, "</u>".toList⟩ }

/-- The marks of the chat platform. -/
def discord : Frames :=
  { bold := ⟨"**".toList, "**".toList⟩
    strike := ⟨"~~".toList, "~~".toList⟩
    underline := ⟨"__".toList, "__".toList⟩ }

/-- Nothing around anything. -/
def plain : Frames :=
  { bold := ⟨[], []⟩
    strike := ⟨[], []⟩
    underline := ⟨[], []⟩ }

/-- The frames of the markups that come with the library. -/
def known : List Frames := [html, discord, plain]

/-- The markup of the chat platform puts its marks around what it emphasises. -/
theorem markup_discord : discord.markup = .discord :=
  rfl

/-- The markup without emphasis puts nothing around anything. -/
theorem markup_plain : plain.markup = .plain :=
  rfl

/-- Different frames make different markups. -/
theorem markup_injective : Function.Injective markup := by
  rintro ⟨⟨_, _⟩, ⟨_, _⟩, ⟨_, _⟩⟩ ⟨⟨_, _⟩, ⟨_, _⟩, ⟨_, _⟩⟩ same
  simpa [markup, Template.around, and_assoc] using same

/-- Every markup that has a name puts frames around what it emphasises. -/
theorem exists_known {name : Text} {markup : Markup} (named : Markup.ofName? name = some markup) :
    ∃ frames ∈ known, frames.markup = markup := by
  -- There are three names, and the markup of each has its frames.
  rw [Markup.ofName?] at named
  repeat' split at named
  · exact ⟨html, by simp [known], Option.some.inj named⟩
  · exact ⟨discord, by simp [known], Option.some.inj named⟩
  · exact ⟨plain, by simp [known], Option.some.inj named⟩
  · exact nomatch named

/-- No frame breaks a line. -/
structure IsInline (frames : Frames) : Prop where
  /-- The frame around the total. -/
  bold : frames.bold.IsInline
  /-- The frame around the attempt that does not count. -/
  strike : frames.strike.IsInline
  /-- The frame around the mode. -/
  underline : frames.underline.IsInline

/-- The marks of the chat platform break no line. -/
theorem isInline_discord : discord.IsInline :=
  ⟨⟨by decide, by decide⟩, ⟨by decide, by decide⟩, ⟨by decide, by decide⟩⟩

/-- No markup that has a name breaks a line. -/
theorem isInline_of_mem_known {frames : Frames} (member : frames ∈ known) : frames.IsInline := by
  -- There are three of them, and each is looked at by itself.
  simp only [known, List.mem_cons, List.not_mem_nil, or_false] at member
  rcases member with rfl | rfl | rfl
  · exact ⟨⟨by decide, by decide⟩, ⟨by decide, by decide⟩, ⟨by decide, by decide⟩⟩
  · exact isInline_discord
  · exact ⟨⟨by decide, by decide⟩, ⟨by decide, by decide⟩, ⟨by decide, by decide⟩⟩

end Frames

/-- An attempt whose dice are shown in the given way. -/
def Roll.text (roll : Roll) (dice : Roll → Text) : Text :=
  "(".toList ++ dice roll ++ ")".toList ++ roll.settings.modifierText

/-- The line of one of two attempts. -/
def attemptText (name attempt : Text) (counts : Bool) (frames : Frames) : Text :=
  let line := "Attempt ".toList ++ name ++ ": ".toList ++ attempt
  if counts then line else frames.strike.around line

/-- What stands before an announced total. -/
def finalOpening : Text := "Your final roll is: 🎲 ".toList

/-- What stands behind an announced total. -/
def finalEnding : Text := " 🎲".toList

/-- The line that announces a total. -/
def finalText (total : Int) (frames : Frames) : Text :=
  finalOpening ++ frames.bold.around (writeInt total) ++ finalEnding

namespace Session

/-- The line of parameters, which names the mode of two attempts. -/
def parametersText (session : Session) (frames : Frames) : Text :=
  let parameters := "Parameters: ".toList ++ session.settings.parameters
  match session.attempts with
  | .one _ => parameters
  | .two .. => parameters ++ " with ".toList ++ frames.underline.around session.mode.title

/-- The lines of the attempts, whose dice are shown in the given way. -/
def attemptTexts (session : Session) (dice : Roll → Text) (frames : Frames) : List Text :=
  match session.attempts with
  | .one only => ["Roll: ".toList ++ only.text dice]
  | .two _ first second =>
    [attemptText "one".toList (first.text dice) (session.winner = 1) frames,
      attemptText "two".toList (second.text dice) (session.winner = 2) frames]

/-- The lines of a display: first the parameters, last the total, and the attempts between them. -/
def texts (session : Session) (dice : Roll → Text) (frames : Frames) : List Text :=
  session.parametersText frames ::
    (session.attemptTexts dice frames ++ [finalText session.adopted.total frames])

/-- The limit on the dice of each attempt. -/
def diceLimit (session : Session) (single double : Int) : Int :=
  match session.attempts with
  | .one _ => single
  | .two .. => double

end Session

/-- The dice of a roll within a limit. -/
def Roll.diceWithin (limit : Int) (roll : Roll) : Text :=
  truncate roll.sumText limit

/-- Dice that are within the limit are all shown. -/
theorem Roll.diceWithin_of_le {limit : Int} {roll : Roll}
    (within : (roll.sumText.length : Int) ≤ limit) : roll.diceWithin limit = roll.sumText := by
  rw [diceWithin, truncate, if_neg (by omega)]

/-- Every one of several numbers has a numeral. -/
def HaveNumerals (numbers : List Int) : Prop :=
  ∀ number ∈ numbers, digitCount number ≤ maxNumeralDigits

/-- Numbers can be looked through for one without a numeral. -/
instance (numbers : List Int) : Decidable (HaveNumerals numbers) :=
  inferInstanceAs (Decidable (∀ number ∈ numbers, digitCount number ≤ maxNumeralDigits))

/-- Numbers from two lists have numerals exactly if those of either list have. -/
@[simp] theorem haveNumerals_append {numbers others : List Int} :
    HaveNumerals (numbers ++ others) ↔ HaveNumerals numbers ∧ HaveNumerals others :=
  List.forall_mem_append

/-- A single number has a numeral exactly if its digits are few enough. -/
@[simp] theorem haveNumerals_singleton {number : Int} :
    HaveNumerals [number] ↔ digitCount number ≤ maxNumeralDigits :=
  List.forall_mem_singleton

section

variable {α β : Type}

/-- What is told with numbers is told exactly if they have numerals. -/
theorem spelled_eq_ite (numbers : List Int) (told : α) :
    spelled numbers told =
      if HaveNumerals numbers then .ok told else .error (.template (.format .tooLong)) := by
  -- The test of each number asks for its numeral.
  have asked : (numbers.all fun number => (numeral? number).isSome) = true ↔
      HaveNumerals numbers := by
    simp only [List.all_eq_true, numeral?_isSome_iff, HaveNumerals]
  exact if_congr asked rfl rfl

/-- Numbers that have numerals keep nothing from being told. -/
theorem spelled_of_haveNumerals {numbers : List Int} (short : HaveNumerals numbers) (told : α) :
    spelled numbers told = .ok told := by
  rw [spelled_eq_ite, if_pos short]

/-- Whatever is told with numbers is told as it is, and the numbers have numerals. -/
theorem spelled_eq_ok_iff {numbers : List Int} {told shown : α} :
    spelled numbers told = .ok shown ↔ HaveNumerals numbers ∧ told = shown := by
  rw [spelled_eq_ite]
  split <;> simp_all

/-- What is told in two steps is told with the numbers of both. -/
theorem spelled_bind_spelled (numbers others : List Int) (told : α) (next : α → β) :
    (spelled numbers told >>= fun value => spelled others (next value)) =
      spelled (numbers ++ others) (next told) := by
  -- The first number without a numeral breaks off with the same error in either step.
  simp only [spelled_eq_ite, haveNumerals_append]
  by_cases first : HaveNumerals numbers <;> simp [first, Bind.bind, Except.bind]

/-- What is told is changed by a further step that cannot fail. -/
theorem spelled_bind_pure (numbers : List Int) (told : α) (next : α → β) :
    (spelled numbers told >>= fun value => pure (next value)) = spelled numbers (next told) := by
  simp only [spelled_eq_ite]
  split <;> rfl

end

/-- The numbers that a roll is displayed with. -/
def Roll.displayed (roll : Roll) : List Int :=
  roll.values ++ roll.settings.modifier.toList

/-- The numbers that a session is displayed with. -/
def Session.displayed (session : Session) : List Int :=
  session.settings.integers ++ (session.rolls.flatMap Roll.displayed ++ [session.adopted.total])

variable {frames : Frames} {session : Session}

/-- The numbers that a session is displayed with have numerals if those of its parts have. -/
theorem Session.haveNumerals_displayed_iff :
    HaveNumerals session.displayed ↔
      HaveNumerals session.settings.integers ∧
        (∀ roll ∈ session.rolls, HaveNumerals roll.displayed) ∧
        digitCount session.adopted.total ≤ maxNumeralDigits := by
  rw [displayed, haveNumerals_append, haveNumerals_append, haveNumerals_singleton]
  -- A number of some attempt is a number of an attempt.
  have attempts : HaveNumerals (session.rolls.flatMap Roll.displayed) ↔
      ∀ roll ∈ session.rolls, HaveNumerals roll.displayed :=
    List.forall_mem_flatMap
  rw [attempts]

/-- A frame is put around a text as it is. -/
theorem emphasise_text (frame : Frame) (text : Text) :
    emphasise (.around frame.before frame.after) (.text text) = .ok (frame.around text) := by
  -- A text is shown as it is.
  rw [emphasise, fill_around]
  rfl

/-- A frame is put around the title of a mode. -/
theorem emphasise_mode (frame : Frame) (mode : Mode) :
    emphasise (.around frame.before frame.after) (.member Mode.family mode.member) =
      .ok (frame.around mode.title) := by
  -- A mode is shown by its title.
  rw [emphasise, fill_around]
  rfl

/-- A frame is put around a number that has a numeral. -/
theorem emphasise_whole (frame : Frame) (value : Int) :
    emphasise (.around frame.before frame.after) (.whole value) =
      spelled [value] (frame.around (writeInt value)) := by
  -- A number is shown by its numeral, so it has to have one.
  have shown : (Subject.whole value).plain =
      if digitCount value ≤ maxNumeralDigits then .ok (writeInt value) else .error .tooLong := by
    by_cases short : digitCount value ≤ maxNumeralDigits <;>
      simp [Subject.plain, Subject.inline, formatWhole, numeral?, short]
  simp only [emphasise, fill_around, shown, spelled_eq_ite, haveNumerals_singleton]
  split <;> rfl

/-- An attempt is displayed with its dice cut to a whole limit, if its numbers have numerals. -/
theorem Roll.display_whole (roll : Roll) (limit : Int) :
    roll.display (.whole limit) = spelled roll.displayed (roll.text (diceWithin limit)) := by
  -- Its faces and its modifier are told one after the other.
  simp only [display, Limit.cut?, spelled_bind_pure, spelled_bind_spelled]
  rfl

/-- The line with a total is made if the total has a numeral. -/
theorem finalLine_eq_spelled (total : Int) (frames : Frames) :
    finalLine total frames.markup = spelled [total] (finalText total frames) := by
  simp only [finalLine, Frames.markup, emphasise_whole, spelled_bind_pure]
  rfl

/-- The last line is made if the total has a numeral. -/
theorem finalLine_eq {total : Int} (short : digitCount total ≤ maxNumeralDigits) (frames : Frames) :
    finalLine total frames.markup = .ok (finalText total frames) := by
  rw [finalLine_eq_spelled, spelled_of_haveNumerals (haveNumerals_singleton.mpr short)]

/-- The line of one of two attempts is made if its numbers have numerals. -/
theorem attemptLine_eq_spelled (name : Text) (roll : Roll) (counts : Bool) (limit : Int) :
    attemptLine name roll counts (.whole limit) frames.markup =
      spelled roll.displayed
        (attemptText name (roll.text (Roll.diceWithin limit)) counts frames) := by
  -- Both cases make the same line, and one of them strikes it.
  simp only [attemptLine, Roll.display_whole, Frames.markup, emphasise_text, attemptText]
  cases counts <;> exact spelled_bind_pure _ _ _

namespace Session

/-- The lines of a display are made if all its numbers have numerals. -/
theorem lines_eq_spelled (session : Session) (single double : Int) (frames : Frames) :
    session.lines (.ofWhole single double) frames.markup =
      spelled session.displayed
        (session.texts (Roll.diceWithin (session.diceLimit single double)) frames) := by
  -- Step by step, the numbers of what is told are gathered; the mode is told without any.
  have mode := emphasise_mode frames.underline session.mode
  rcases session with ⟨only | ⟨keep, first, second⟩, settings⟩
  · simp only [lines, Display.ofWhole, Roll.display_whole, finalLine_eq_spelled, spelled_bind_pure,
      spelled_bind_spelled, displayed, rolls, List.flatMap_singleton]
    rfl
  · have told : ∀ {next : Text → Except DisplayError (List Text)} (title : Text),
        (Except.ok title >>= next) = next title := fun _ => rfl
    simp only [lines, Display.ofWhole, attemptLine_eq_spelled, finalLine_eq_spelled]
    simp only [Frames.markup, mode, told, spelled_bind_pure, spelled_bind_spelled, displayed, rolls,
      List.flatMap_cons, List.flatMap_nil, List.append_nil, List.append_assoc, texts, attemptTexts,
      parametersText, List.cons_append, List.nil_append]
    rfl

/-- A display with whole limits is made of its lines if all its numbers have numerals. -/
theorem display_eq_spelled (session : Session) (single double : Int) (frames : Frames) :
    session.display (.ofWhole single double) frames.markup =
      spelled session.displayed (joinWith ['\n']
        (session.texts (Roll.diceWithin (session.diceLimit single double)) frames)) := by
  rw [display, lines_eq_spelled, spelled_eq_ite, spelled_eq_ite]
  split <;> rfl

/-- The text of a display is its lines, one below the other. -/
theorem display_eq (short : HaveNumerals session.displayed) (single double : Int) :
    session.display (.ofWhole single double) frames.markup =
      .ok (joinWith ['\n']
        (session.texts (Roll.diceWithin (session.diceLimit single double)) frames)) := by
  rw [display_eq_spelled, spelled_of_haveNumerals short]

end Session

/-- A text between the two texts of a frame stays in one line. -/
theorem Frame.IsInline.around {frame : Frame} (inline : frame.IsInline) {text : Text}
    (clear : '\n' ∉ text) : '\n' ∉ frame.around text := by
  simp [Frame.around, inline.1, inline.2, clear]

/-- A modifier is shown in one line. -/
theorem Settings.notMem_modifierText (settings : Settings) : '\n' ∉ settings.modifierText := by
  -- Signs and digits are all that a modifier is written with.
  have numeral : ∀ value, '\n' ∉ writeInt value := notMem_writeInt (by decide)
  rw [modifierText]
  split
  · simp
  · split <;> simp [numeral]

/-- Parameters are shown in one line. -/
theorem Settings.notMem_parameters (settings : Settings) : '\n' ∉ settings.parameters := by
  have numeral : ∀ value, '\n' ∉ writeInt value := notMem_writeInt (by decide)
  simp [parameters, numeral, settings.notMem_modifierText]

/-- Titles of modes have one line. -/
theorem Mode.notMem_title (mode : Mode) : '\n' ∉ mode.title := by
  cases mode <;> decide

/-- All faces of a roll are shown in one line. -/
theorem Roll.notMem_sumText (roll : Roll) : '\n' ∉ roll.sumText := by
  -- A character of the sum is in a numeral or between two of them.
  intro member
  rcases mem_joinWith member with plus | ⟨text, known, inside⟩
  · exact absurd plus (by decide)
  · obtain ⟨value, -, rfl⟩ := List.mem_map.mp known
    exact notMem_writeInt (by decide) value inside

/-- Cutting brings nothing but dots into a text. -/
theorem notMem_truncate {text : Text} (clear : '\n' ∉ text) (limit : Int) :
    '\n' ∉ truncate text limit := by
  -- The beginning of a text holds no more than the text.
  have taken : ∀ count, '\n' ∉ text.take count := fun count member =>
    clear (List.mem_of_mem_take member)
  rw [truncate, cutAt, ellipsis]
  split
  · split <;> simp [taken]
  · exact clear

/-- The dice of a roll are shown in one line. -/
theorem Roll.notMem_diceWithin (limit : Int) (roll : Roll) : '\n' ∉ roll.diceWithin limit :=
  notMem_truncate roll.notMem_sumText limit

/-- An attempt is shown in one line if its dice are. -/
theorem Roll.notMem_text {dice : Roll → Text} {roll : Roll} (clear : '\n' ∉ dice roll) :
    '\n' ∉ roll.text dice := by
  simp [Roll.text, clear, roll.settings.notMem_modifierText]

/-- An attempt stays in one line behind its name. -/
theorem notMem_attemptText (inline : frames.IsInline) {name attempt : Text} (named : '\n' ∉ name)
    (clear : '\n' ∉ attempt) (counts : Bool) : '\n' ∉ attemptText name attempt counts frames := by
  -- The line is in one piece before it is struck.
  have line : '\n' ∉ "Attempt ".toList ++ name ++ ": ".toList ++ attempt := by
    simp [named, clear]
  rw [attemptText]
  split
  · exact line
  · exact inline.strike.around line

/-- A total is announced in one line. -/
theorem notMem_finalText (inline : frames.IsInline) (total : Int) :
    '\n' ∉ finalText total frames := by
  -- The two fixed texts are checked, and the total is a numeral in a frame.
  have shown := inline.bold.around (notMem_writeInt (by decide) total)
  have opening : '\n' ∉ finalOpening := by decide
  have ending : '\n' ∉ finalEnding := by decide
  simp [finalText, opening, shown, ending]

namespace Session

/-- Parameters stay in one line together with the mode. -/
theorem notMem_parametersText (inline : frames.IsInline) (session : Session) :
    '\n' ∉ session.parametersText frames := by
  -- Whether the mode is named depends on the attempts.
  have parameters := session.settings.notMem_parameters
  have mode := inline.underline.around session.mode.notMem_title
  rw [parametersText]
  split <;> simp [parameters, mode]

/-- A display starts with the parameters. -/
theorem head?_texts (session : Session) (dice : Roll → Text) (frames : Frames) :
    (session.texts dice frames).head? = some (session.parametersText frames) :=
  rfl

/-- A display ends with the total of the attempt that counts. -/
theorem getLast?_texts (session : Session) (dice : Roll → Text) (frames : Frames) :
    (session.texts dice frames).getLast? = some (finalText session.adopted.total frames) := by
  -- The last line stands behind all others.
  rw [texts, ← List.cons_append, List.getLast?_concat]

/-- The lines of a display depend on how the dice of its attempts are shown and on no others. -/
theorem texts_congr {dice dice' : Roll → Text} (same : ∀ roll ∈ session.rolls, dice roll = dice' roll)
    (frames : Frames) : session.texts dice frames = session.texts dice' frames := by
  -- Every attempt is shown once, with dice that are the same.
  rcases session with ⟨only | ⟨keep, first, second⟩, settings⟩
  · simp only [rolls, List.forall_mem_singleton] at same
    simp only [texts, attemptTexts, Roll.text, same]
  · simp only [rolls, List.forall_mem_cons] at same
    simp only [texts, attemptTexts, Roll.text, same.1, same.2.1]

/-- Every line of a display is a line if the dice are shown in one. -/
theorem notMem_texts (inline : frames.IsInline) {dice : Roll → Text}
    (clear : ∀ roll ∈ session.rolls, '\n' ∉ dice roll) :
    ∀ text ∈ session.texts dice frames, '\n' ∉ text := by
  -- A line is the first, one of the attempts, or the last.
  have parameters := session.notMem_parametersText inline
  have final := notMem_finalText inline session.adopted.total
  intro text member
  rcases List.mem_cons.mp member with rfl | member
  · exact parameters
  rcases List.mem_append.mp member with attempt | last
  · -- With one attempt its text is the line.
    rcases session with ⟨only | ⟨keep, first, second⟩, settings⟩
    · have shown := Roll.notMem_text (clear only List.mem_cons_self)
      simp only [attemptTexts, List.mem_singleton] at attempt
      simp [attempt, shown]
    · -- With two the text of each stands in a line of its own.
      have one := Roll.notMem_text (clear first List.mem_cons_self)
      have two := Roll.notMem_text (clear second (List.mem_cons_of_mem _ List.mem_cons_self))
      simp only [attemptTexts, List.mem_cons, List.not_mem_nil, or_false] at attempt
      rcases attempt with rfl | rfl
      · exact notMem_attemptText inline (by decide) one _
      · exact notMem_attemptText inline (by decide) two _
  · rw [List.mem_singleton.mp last]
    exact final

/-- The lines of a display are what its text splits into. -/
theorem splitOnChar_texts (inline : frames.IsInline) (session : Session) (limit : Int) :
    splitOnChar '\n' (joinWith ['\n'] (session.texts (Roll.diceWithin limit) frames)) =
      session.texts (Roll.diceWithin limit) frames := by
  -- No line holds a line feed, so the line feeds are the ones between lines.
  refine splitOnChar_joinWith (by simp [texts]) (notMem_texts inline ?_)
  exact fun roll _ => roll.notMem_diceWithin limit

end Session

end DiceChat
