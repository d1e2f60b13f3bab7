import DiceChat.Proofs.CommandLine.Roll
import DiceChat.Proofs.Display.Reserve
import DiceChat.Proofs.Notation.Parameters
import DiceChat.Proofs.Notation.Spacing

/-! A display that is not cut is read back: it tells everything about a rolled session but its labels. -/

namespace DiceChat

/-- Dice that are all shown tell the faces. -/
theorem Roll.values_eq_of_sumText {roll other : Roll} (some_dice : roll.values ≠ [])
    (others : other.values ≠ []) (same : roll.sumText = other.sumText) :
    roll.values = other.values := by
  -- Without its spaces, a sum splits into its numerals at the plus signs.
  have tells : ∀ values : List Int, values ≠ [] →
      splitOnChar '+' ((joinWith " + ".toList (values.map writeInt)).filter (· ≠ ' ')) =
        values.map writeInt := by
    intro values some_value
    -- A numeral has no space of its own, so taking out the spaces keeps it.
    have spaceless : ∀ value, (writeInt value).filter (· ≠ ' ') = writeInt value := by
      intro value
      refine List.filter_eq_self.mpr fun c member => decide_eq_true ?_
      rintro rfl
      exact notMem_writeInt (by decide) value member
    -- A numeral has no plus sign either.
    have unsigned : ∀ value, '+' ∉ writeInt value := by
      intro value member
      rcases eq_minus_or_isDigit member with minus | digit
      · exact absurd minus (by decide)
      · exact absurd digit (by decide)
    rw [filter_joinWith, List.map_map, show " + ".toList.filter (· ≠ ' ') = ['+'] from rfl]
    simp only [Function.comp_def, spaceless]
    refine splitOnChar_joinWith (by simpa using some_value) ?_
    simpa using fun value _ => unsigned value
  -- The numerals of a list tell the list, as each of them tells its number.
  refine List.map_injective_iff.mpr writeInt_injective ?_
  rw [← tells roll.values some_dice, ← tells other.values others]
  exact congrArg (fun text : Text => splitOnChar '+' (text.filter (· ≠ ' '))) same

variable {frames : Frames}

/-- Settings that ask for the same dice have the same parameters. -/
theorem Settings.SameDice.parameters_eq {settings others : Settings} (same : settings.SameDice others) :
    others.parameters = settings.parameters ∧ others.modifierText = settings.modifierText := by
  obtain ⟨number, sides, modifier⟩ := same
  simp [parameters, modifierText, number, sides, modifier]

/-- The same faces of the same dice are shown alike. -/
theorem Roll.IsThrown.text_eq {roll other : Roll} {settings others : Settings}
    (thrown : roll.IsThrown settings) (thrown' : other.IsThrown others)
    (dice : settings.SameDice others) (values : other.values = roll.values) :
    other.text Roll.sumText = roll.text Roll.sumText := by
  -- The modifier is written from the settings, and the total is not shown here.
  have modifier := dice.parameters_eq.2
  rw [← thrown.asked, ← thrown'.asked] at modifier
  simp only [Roll.text, Roll.sumText, values, modifier]

/-- Attempts at the same dice that are shown alike have the same faces. -/
theorem Roll.IsThrown.values_eq {roll other : Roll} {settings others : Settings}
    (thrown : roll.IsThrown settings) (thrown' : other.IsThrown others)
    (dice : settings.SameDice others) (some_dice : 0 < settings.diceCount)
    (shown : roll.text Roll.sumText = other.text Roll.sumText) : other.values = roll.values := by
  -- What stands behind the dice is the same in both texts, so it is taken away.
  have modifier := dice.parameters_eq.2
  rw [← thrown.asked, ← thrown'.asked] at modifier
  simp only [Roll.text, modifier, List.append_cancel_left_eq, List.append_cancel_right_eq] at shown
  -- Some dice are thrown in both, so the sums can be read back.
  have count : other.values.length = settings.diceCount := by
    rw [thrown'.count, Settings.diceCount, dice.number, Settings.diceCount]
  refine (Roll.values_eq_of_sumText ?_ ?_ shown).symm
  · exact List.ne_nil_of_length_pos (thrown.count ▸ some_dice)
  · exact List.ne_nil_of_length_pos (count ▸ some_dice)

/-- The line of one of two attempts tells the attempt, also where it is not known whether it is struck. -/
theorem eq_of_attemptText (member : frames ∈ Frames.known) {name first second : Text}
    {counts counts' : Bool}
    (same : attemptText name first counts frames = attemptText name second counts' frames) :
    first = second := by
  -- Only a struck line starts with a mark, unless striking cannot be seen at all.
  by_cases agree : counts = counts'
  · subst agree
    exact attemptText_inj.mp same
  · simp only [Frames.known, List.mem_cons, List.not_mem_nil, or_false] at member
    rcases member with rfl | rfl | rfl <;> cases counts <;> cases counts' <;>
      simp_all [attemptText, Frame.around, Frames.html, Frames.discord, Frames.plain]

namespace Session

variable {first second : Session}

/-- What stands behind the parameters: the mode of two attempts. -/
def modeText (session : Session) (frames : Frames) : Text :=
  match session.attempts with
  | .one _ => []
  | .two .. => " with ".toList ++ frames.underline.around session.mode.title

/-- The line of parameters is dice notation with the mode behind it. -/
theorem parametersText_eq (session : Session) (frames : Frames) :
    session.parametersText frames =
      "Parameters: ".toList ++ (session.settings.parameters ++ session.modeText frames) := by
  rcases session with ⟨only | ⟨keep, first, second⟩, settings⟩ <;> simp [parametersText, modeText]

/-- What stands behind the parameters tells the mode. -/
theorem mode_eq_of_modeText (same : first.modeText frames = second.modeText frames) :
    second.mode = first.mode := by
  -- The title of a mode is one word, and no two modes share it.
  have titles : ∀ mode other : Mode, mode.title = other.title → other = mode := by
    intro mode other
    cases mode <;> cases other <;> decide
  rcases first with ⟨_ | _, settings⟩ <;> rcases second with ⟨_ | _, settings'⟩
  · rfl
  · simp [modeText] at same
  · simp [modeText] at same
  · simp only [modeText, Frame.around, List.append_cancel_left_eq, List.append_cancel_right_eq] at same
    exact titles _ _ same

/-- Neither a digit nor a sign stands ahead behind the parameters. -/
theorem modeText_staysApart (session : Session) (frames : Frames) :
    Notation.NoDigitAhead (session.modeText frames) ∧ Notation.NoSignAhead (session.modeText frames) := by
  rcases session with ⟨only | ⟨keep, first, second⟩, settings⟩
  · exact ⟨Notation.noDigitAhead_nil, Notation.noSignAhead_nil⟩
  · -- The first visible character is that of a word.
    have word : ∀ rest : Text, firstVisible (" with ".toList ++ rest) = some 'w' := fun rest => rfl
    constructor
    · intro c ahead
      obtain rfl := Option.some.inj ((word _).symm.trans ahead)
      decide
    · intro c ahead
      obtain rfl := Option.some.inj ((word _).symm.trans ahead)
      decide

/-- The line of parameters tells the dice that were asked for, and the mode. -/
theorem sameDice_of_parametersText (notated : first.settings.IsNotated)
    (notated' : second.settings.IsNotated)
    (same : first.parametersText frames = second.parametersText frames) :
    first.settings.SameDice second.settings ∧ second.mode = first.mode := by
  rw [parametersText_eq, parametersText_eq, List.append_cancel_left_eq] at same
  -- Reading the parameters back gives the settings, with the mode for a label.
  obtain ⟨digit, sign⟩ := first.modeText_staysApart frames
  obtain ⟨digit', sign'⟩ := second.modeText_staysApart frames
  have read := Notation.parse_parameters_append notated digit fun _ => sign
  rw [same, Notation.parse_parameters_append notated' digit' fun _ => sign'] at read
  injection Except.ok.inj read with number sides modifier
  have dice : first.settings.SameDice second.settings := ⟨number, sides, modifier⟩
  rw [dice.parameters_eq.1, List.append_cancel_left_eq] at same
  exact ⟨dice, mode_eq_of_modeText same⟩

/-- Two sessions show the same faces: in the same mode, for the same dice, and in the same order in every attempt. -/
structure SameFaces (session other : Session) : Prop where
  /-- The mode is the same. -/
  mode : other.mode = session.mode
  /-- The same dice were asked for, with the same modifier. -/
  dice : session.settings.SameDice other.settings
  /-- Every attempt shows the same faces. -/
  values : other.rolls.map Roll.values = session.rolls.map Roll.values

/-- A session was rolled for settings that dice notation can describe. -/
structure IsRolled (session : Session) : Prop where
  /-- The settings are small. -/
  notated : session.settings.IsNotated
  /-- Every attempt throws the dice that were asked for. -/
  thrown : ∀ roll ∈ session.rolls, roll.IsThrown session.settings

/-- Rolling what dice notation can describe makes a rolled session. -/
theorem isRolled_roll {settings : Settings} (notated : settings.IsNotated) (mode : Mode) (die : Die) :
    (settings.roll mode die).1.IsRolled := by
  -- What is rolled was thrown with the settings that were asked for.
  have asked := settings.settings_roll mode die
  refine ⟨asked.symm ▸ notated, fun roll member => ?_⟩
  rw [asked]
  exact Settings.isThrown_of_mem_rolls notated.sides.1 member

/-- Two sessions of the same mode have the same number of attempts, and keep the same one of two. -/
theorem attempts_of_mode_eq (same : second.mode = first.mode) :
    (∃ only only', first.attempts = .one only ∧ second.attempts = .one only') ∨
      ∃ keep one two one' two', first.attempts = .two keep one two ∧
        second.attempts = .two keep one' two' := by
  -- The mode tells how many attempts there are, and which of them is kept.
  rcases first with ⟨only | ⟨keep, one, two⟩, settings⟩ <;>
    rcases second with ⟨only' | ⟨keep', one', two'⟩, settings'⟩
  · exact .inl ⟨only, only', rfl, rfl⟩
  · cases keep' <;> cases same
  · cases keep <;> cases same
  · have kept : keep' = keep := by cases keep <;> cases keep' <;> first | rfl | cases same
    subst kept
    exact .inr ⟨keep', one, two, one', two', rfl, rfl⟩

/-- Totals and the mode tell which attempt counts, and its total. -/
theorem winner_eq_of_totals (mode : second.mode = first.mode)
    (totals : second.rolls.map Roll.total = first.rolls.map Roll.total) :
    second.winner = first.winner ∧ second.adopted.total = first.adopted.total := by
  -- A single attempt always counts; of two, the better total does.
  rcases attempts_of_mode_eq mode with ⟨only, only', one, other⟩ |
    ⟨keep, one, two, one', two', both, others⟩
  · simp only [rolls, one, other, List.map_cons, List.map_nil, List.cons.injEq, and_true] at totals
    simp [winner, adopted, one, other, totals]
  · simp only [rolls, both, others, List.map_cons, List.map_nil, List.cons.injEq, and_true] at totals
    cases keep <;>
      simp [winner, adopted, both, others, totals, Roll.total_higher, Roll.total_lower]

section SameFaces

variable (same : first.SameFaces second) (rolled : first.IsRolled) (rolled' : second.IsRolled)

include same rolled rolled'

/-- The same faces make the same totals. -/
theorem SameFaces.totals_eq : second.rolls.map Roll.total = first.rolls.map Roll.total := by
  -- A total is the sum of the faces with the modifier.
  have total : ∀ session : Session, session.IsRolled → session.rolls.map Roll.total =
      (session.rolls.map Roll.values).map (·.sum + session.settings.modifier.getD 0) := by
    intro session rolled
    rw [List.map_map]
    exact List.map_congr_left fun roll member => (rolled.thrown roll member).total
  rw [total first rolled, total second rolled', same.values, same.dice.modifier]

/-- The same faces make the same come up, and the same attempt counts. -/
theorem SameFaces.outcome_eq : second.outcome = first.outcome := by
  -- Faces tell the totals, and the totals tell the winner.
  have totals := same.totals_eq rolled rolled'
  have pairs : ∀ rolls : List Roll, rolls.map (fun roll => (roll.values, roll.total)) =
      (rolls.map Roll.values).zip (rolls.map Roll.total) := fun rolls => List.zip_map'.symm
  rw [outcome, outcome, pairs, pairs, same.values, totals, (winner_eq_of_totals same.mode totals).1]

/-- The same faces are shown alike where no dice are cut. -/
theorem SameFaces.texts_eq (frames : Frames) :
    second.texts Roll.sumText frames = first.texts Roll.sumText frames := by
  obtain ⟨counts, total⟩ := winner_eq_of_totals same.mode (same.totals_eq rolled rolled')
  have parameters := same.dice.parameters_eq.1
  have thrown := rolled.thrown
  have thrown' := rolled'.thrown
  have values := same.values
  -- The first line and the last are told apart from the lines of the attempts.
  rw [texts, texts, total]
  rcases attempts_of_mode_eq same.mode with ⟨only, only', one, other⟩ |
    ⟨keep, one, two, one', two', both, others⟩
  · -- One attempt: its text is told by its values.
    simp only [rolls, one, other, List.forall_mem_singleton, List.map_cons, List.map_nil,
      List.cons.injEq, and_true] at thrown thrown' values
    have text := thrown.text_eq thrown' same.dice values
    simp only [parametersText, attemptTexts, one, other, parameters, text]
  · -- Two attempts: both texts are, and the one that counts is the same.
    simp only [rolls, both, others, List.forall_mem_cons, List.map_cons, List.map_nil,
      List.cons.injEq, and_true] at thrown thrown' values
    have text := thrown.1.text_eq thrown'.1 same.dice values.1
    have text' := thrown.2.1.text_eq thrown'.2.1 same.dice values.2
    simp only [parametersText, attemptTexts, both, others, parameters, text, text', counts, same.mode]

end SameFaces

/-- Lines that show all faces tell the faces, the dice and the mode. -/
theorem sameFaces_of_texts (member : frames ∈ Frames.known) (rolled : first.IsRolled)
    (rolled' : second.IsRolled)
    (same : first.texts Roll.sumText frames = second.texts Roll.sumText frames) :
    first.SameFaces second := by
  -- The first line tells what was asked for, and with it each attempt is read from its own line.
  obtain ⟨notated, thrown⟩ := rolled
  obtain ⟨notated', thrown'⟩ := rolled'
  obtain ⟨parameters, behind⟩ := List.cons.inj same
  obtain ⟨dice, mode⟩ := sameDice_of_parametersText notated notated' parameters
  -- Some die was thrown, so the line of an attempt holds a numeral.
  have some_dice : 0 < first.settings.diceCount := by
    have number := notated.number
    rw [Settings.diceCount]
    omega
  refine ⟨mode, dice, ?_⟩
  rcases attempts_of_mode_eq mode with ⟨only, only', one, other⟩ |
    ⟨keep, one, two, one', two', both, others⟩
  · -- With one attempt the second line is its text.
    simp only [attemptTexts, rolls, one, other, List.forall_mem_singleton, List.cons_append,
      List.nil_append, List.cons.injEq, List.append_cancel_left_eq, and_true] at thrown thrown' behind ⊢
    exact congrArg (fun values => [values]) (thrown.values_eq thrown' dice some_dice behind.1)
  · -- With two the name and the marks are taken off both lines first.
    simp only [attemptTexts, rolls, both, others, List.forall_mem_cons, List.cons_append,
      List.nil_append, List.cons.injEq, and_true] at thrown thrown' behind
    have shown := thrown.1.values_eq thrown'.1 dice some_dice (eq_of_attemptText member behind.1)
    have shown' := thrown.2.1.values_eq thrown'.2.1 dice some_dice
      (eq_of_attemptText member behind.2.1)
    simp [rolls, both, others, shown, shown']

end Session

/-- How many lines a display has: two of two attempts, or one, between the first line and the last. -/
def Mode.lineCount : Mode → Nat
  | .straight => 3
  | .advantage | .disadvantage => 4

namespace Session

variable {first second session : Session}

/-- All dice of a session are within the limit of a display, so none of them is cut. -/
def IsUncut (session : Session) (display : Display) : Prop :=
  ∀ roll ∈ session.rolls, (session.limit display).exceededBy roll.sumText = false

instance (session : Session) (display : Display) : Decidable (session.IsUncut display) :=
  inferInstanceAs (Decidable (∀ roll ∈ session.rolls, _ = _))

/-- A limit that is not exceeded shows all dice. -/
theorem IsUncut.cut? {display : Display} (uncut : session.IsUncut display) :
    ∀ roll ∈ session.rolls, (session.limit display).cut? roll.sumText = some roll.sumText := by
  intro roll member
  -- A line is cut only where it exceeds the limit.
  have within := uncut roll member
  cases limit : session.limit display with
  | whole count =>
    rw [limit, Limit.exceededBy, decide_eq_false_iff_not] at within
    rw [Limit.cut?, truncate, if_neg within]
  | fraction count =>
    rw [limit] at within
    rw [Limit.cut?, within]
    rfl

/-- A display is made if its numbers have numerals and the dice can be shown. -/
theorem display_of_cut? (short : HaveNumerals session.displayed)
    {display : Display} {dice : Roll → Text}
    (cut : ∀ roll ∈ session.rolls, (session.limit display).cut? roll.sumText = some (dice roll)) :
    session.display display frames.markup = .ok (joinWith ['\n'] (session.texts dice frames)) := by
  -- The numbers are those of the parameters, of the attempts, and the total in the last line.
  obtain ⟨asked, thrown, total⟩ := haveNumerals_displayed_iff.mp short
  have final := finalLine_eq total frames
  have titled := emphasise_mode frames.underline session.mode
  have parameters : spelled session.settings.integers session.settings.parameters =
      .ok session.settings.parameters := spelled_of_haveNumerals asked _
  -- It is enough to find the lines, since the display joins them.
  suffices made : session.lines display frames.markup = .ok (session.texts dice frames) by
    rw [Session.display, made]
    rfl
  -- The attempts are shown in one or in two lines, each from its own dice.
  rcases session with ⟨only | ⟨keep, first, second⟩, settings⟩
  · simp only [rolls, limit, List.forall_mem_singleton] at cut thrown
    have shown := Roll.display_eq_ok_iff.mpr ⟨thrown, _, cut, rfl⟩
    simp only [lines, shown, final, parameters]
    rfl
  · simp only [rolls, limit, List.forall_mem_cons] at cut thrown
    have line : ∀ name roll counts dice, HaveNumerals roll.displayed →
        display.double.cut? roll.sumText = some dice →
        attemptLine name roll counts display.double frames.markup =
          .ok (attemptText name (roll.text fun _ => dice) counts frames) :=
      fun _ _ _ _ known cut => attemptLine_eq_ok_iff.mpr ⟨known, _, cut, rfl⟩
    simp only [lines, line _ _ _ _ thrown.1 cut.1, line _ _ _ _ thrown.2.1 cut.2.1, final, parameters]
    simp only [Frames.markup, titled]
    rfl

/-- The text of a display splits into its lines. -/
theorem exists_lines_of_display (member : frames ∈ Frames.known) {display : Display} {text : Text}
    (shown : session.display display frames.markup = .ok text) :
    ∃ dice : Roll → Text, splitOnChar '\n' text = session.texts dice frames := by
  -- Every line is made of parts without a line end.
  obtain ⟨dice, cut, rfl⟩ := exists_dice_of_display shown
  refine ⟨dice, splitOnChar_joinWith (by simp [texts]) (notMem_texts ?_ ?_)⟩
  · exact Frames.isInline_of_mem_known member
  · exact fun roll known => notMem_of_cut? (cut roll known)

/-- The mode tells how many lines there are. -/
theorem length_texts_eq (session : Session) (dice : Roll → Text) (frames : Frames) :
    (session.texts dice frames).length = session.mode.lineCount := by
  rcases session with ⟨only | ⟨_ | _, first, second⟩, settings⟩ <;> rfl

/-- Displays that show all dice are the same exactly if they show the same faces. -/
theorem texts_eq_iff_sameFaces (member : frames ∈ Frames.known) (rolled : first.IsRolled)
    (rolled' : second.IsRolled) :
    joinWith ['\n'] (first.texts Roll.sumText frames) =
      joinWith ['\n'] (second.texts Roll.sumText frames) ↔ first.SameFaces second := by
  constructor
  · intro same
    -- No line of either is broken, so the texts split into them.
    have split : ∀ session : Session,
        splitOnChar '\n' (joinWith ['\n'] (session.texts Roll.sumText frames)) =
          session.texts Roll.sumText frames := fun session =>
      splitOnChar_joinWith (by simp [texts])
        (notMem_texts (Frames.isInline_of_mem_known member) fun roll _ => roll.notMem_sumText)
    refine sameFaces_of_texts member rolled rolled' ?_
    rw [← split first, ← split second, same]
  · intro same
    rw [same.texts_eq rolled rolled']

end Session

/-- The record that the program prints starts in the line behind the display, which the mode tells. -/
theorem Program.drop_lineCount_roll {source : Text} {settings : Settings}
    (parsed : Notation.parse source = .ok settings) (mode : Mode) {program : Program}
    (fresh : program.output = []) :
    ∃ document, (settings.roll mode program.die).1.record.dump = .ok document ∧
      (splitOnChar '\n' (program.roll (.asking source mode)).1.output).drop mode.lineCount =
        splitOnChar '\n' (document ++ ['\n']) := by
  have notated := Notation.isNotated_of_parse parsed
  have short := Session.haveNumerals_roll notated mode program.die
  have dumped := notated.dump_record mode program.die
  -- The number of lines depends on the mode alone.
  have lines : ∀ limit, (splitOnChar '\n' (joinWith ['\n']
      ((settings.roll mode program.die).1.texts (Roll.diceWithin limit) .plain))).length =
        mode.lineCount := by
    intro limit
    rw [Session.splitOnChar_texts (Frames.isInline_of_mem_known (by simp [Frames.known])),
      Session.length_texts_eq, settings.mode_roll]
  refine ⟨_, dumped, ?_⟩
  rw [roll_of_parse parsed, printSession_eq short dumped]
  -- A line feed ends the display, and another one ends the record.
  simp only [print, log, fresh, List.nil_append, List.append_assoc, List.singleton_append]
  exact drop_splitOnChar (lines _) _

/-- What the displays of two rolled sessions tell, of which the first was rolled for the settings of a source. -/
structure DisplaysTell (source : Text) (settings : Settings) (mode : Mode) (markup : Markup)
    (first : Session) (display : Display) (second : Session) (display' : Display) : Prop where
  /-- Both are displayed, alike exactly if they show the same faces. -/
  alike : ∃ text text', first.display display markup = .ok text ∧
    second.display display' markup = .ok text' ∧ (text = text' ↔ first.SameFaces second)
  /-- The same faces make the same come up. -/
  outcome : first.SameFaces second → second.outcome = first.outcome
  /-- The first one is displayed within any whole limits. -/
  whole : ∀ single double, ∃ text, first.display (.ofWhole single double) markup = .ok text
  /-- The mode tells how many lines any display of the first one has. -/
  lines : ∀ display text, first.display display markup = .ok text →
    (splitOnChar '\n' text).length = mode.lineCount
  /-- Where the source is rolled by the program, the record starts in the line behind as many. -/
  record : ∀ program : Program, program.output = [] →
    ∃ document, (settings.roll mode program.die).1.record.dump = .ok document ∧
      (splitOnChar '\n' (program.roll (.asking source mode)).1.output).drop mode.lineCount =
        splitOnChar '\n' (document ++ ['\n'])

/-- Displays that are not cut are the same exactly if the sessions show the same faces; their labels may differ. -/
theorem Settings.display_roll_eq_iff {name source source' : Text} {markup : Markup}
    {settings settings' : Settings} {mode mode' : Mode} {die die' : Die} {display display' : Display}
    (named : Markup.ofName? name = some markup)
    (parsed : Notation.parse source = .ok settings)
    (parsed' : Notation.parse source' = .ok settings')
    (uncut : (settings.roll mode die).1.IsUncut display)
    (uncut' : (settings'.roll mode' die').1.IsUncut display') :
    DisplaysTell source settings mode markup (settings.roll mode die).1 display
      (settings'.roll mode' die').1 display' := by
  -- Both sessions are rolled from notation, so all their numbers are short.
  let first := (settings.roll mode die).1
  let second := (settings'.roll mode' die').1
  obtain ⟨frames, member, rfl⟩ := Frames.exists_known named
  have notated := Notation.isNotated_of_parse parsed
  have notated' := Notation.isNotated_of_parse parsed'
  have short := Session.haveNumerals_roll notated mode die
  have short' := Session.haveNumerals_roll notated' mode' die'
  have rolled : first.IsRolled := Session.isRolled_roll notated mode die
  have rolled' : second.IsRolled := Session.isRolled_roll notated' mode' die'
  have moded : first.mode = mode := settings.mode_roll mode die
  -- Each part is a fact about uncut displays of rolled sessions.
  exact {
    alike := ⟨_, _, Session.display_of_cut? short uncut.cut?,
      Session.display_of_cut? short' uncut'.cut?,
      Session.texts_eq_iff_sameFaces member rolled rolled'⟩
    outcome := fun same => same.outcome_eq rolled rolled'
    whole := fun single double => ⟨_, Session.display_eq short single double⟩
    lines := by
      intro display text shown
      obtain ⟨dice, lines⟩ := Session.exists_lines_of_display member shown
      rw [lines, Session.length_texts_eq, moded]
    record := fun _ fresh => Program.drop_lineCount_roll parsed mode fresh }

/-- Expressions that differ in labels and blanks are shown alike on the same dice, and unlike without the modifier. -/
theorem Settings.display_roll_eq_iff_relabelled :
    let die := Die.cycling #[0, 1, 4, 4]
    let fire : Settings := ⟨2, 6, some 1, some "Fire".toList⟩
    let ice : Settings := ⟨2, 6, some 1, some "Ice + 3".toList⟩
    let weaker : Settings := ⟨2, 6, none, some "+1".toList⟩
    Markup.ofName? "discord".toList = some .discord ∧
      Notation.parse "2d6+1 Fire".toList = .ok fire ∧
      Notation.parse " 2 D 6 + 1 Ice + 3".toList = .ok ice ∧
      Notation.parse "2d6+0+1".toList = .ok weaker ∧
      (fire.roll .advantage die).1.IsUncut .standard ∧
      (ice.roll .advantage die).1.IsUncut (.ofWhole 0 5) ∧
      (weaker.roll .advantage die).1.IsUncut .standard ∧
      ∃ text other, (fire.roll .advantage die).1.display .standard .discord = .ok text ∧
        (ice.roll .advantage die).1.display (.ofWhole 0 5) .discord = .ok text ∧
        (weaker.roll .advantage die).1.display .standard .discord = .ok other ∧
        text ≠ other ∧ (splitOnChar '\n' text).length = 4 := by
  intro die fire ice weaker
  have named : Markup.ofName? "discord".toList = some .discord := rfl
  have parsed : Notation.parse "2d6+1 Fire".toList = .ok fire := by decide
  have parsed' : Notation.parse " 2 D 6 + 1 Ice + 3".toList = .ok ice := by decide
  have parsed'' : Notation.parse "2d6+0+1".toList = .ok weaker := by decide
  have uncut : (fire.roll .advantage die).1.IsUncut .standard := by decide
  have uncut' : (ice.roll .advantage die).1.IsUncut (.ofWhole 0 5) := by decide
  have uncut'' : (weaker.roll .advantage die).1.IsUncut .standard := by decide
  -- The label is not one of the faces.
  have faces : (fire.roll .advantage die).1.SameFaces (ice.roll .advantage die).1 :=
    ⟨rfl, ⟨rfl, rfl, rfl⟩, rfl⟩
  have tell := Settings.display_roll_eq_iff named parsed parsed' uncut uncut'
  obtain ⟨text, same, shown, shown', alike⟩ := tell.alike
  -- Against the third roll the modifier differs, so the texts do.
  obtain ⟨text', other, again, weaker_shown, unlike⟩ :=
    (Settings.display_roll_eq_iff named parsed parsed'' uncut uncut'').alike
  obtain rfl := Except.ok.inj (shown.symm.trans again)
  obtain rfl := alike.mpr faces
  refine ⟨named, parsed, parsed', parsed'', uncut, uncut', uncut'', text, other, shown, shown',
    weaker_shown, ?_, tell.lines _ _ shown⟩
  intro equal
  exact absurd (unlike.mp equal).dice.modifier (by decide)

end DiceChat
