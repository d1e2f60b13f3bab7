import DiceChat.Proofs.Chat.Displays
import DiceChat.Proofs.Display.Fit
import DiceChat.Proofs.Display.Winner
import DiceChat.Proofs.Notation.Trim

/-! The framed reply to a roll: at any time of a run it fits the platform, and only dice are cut from it. -/

namespace DiceChat

/-- A text is shown whole, or as its beginning with the mark that it was cut. -/
def IsCut (whole shown : Text) : Prop :=
  shown = whole ∨ ∃ count < whole.length, shown = whole.take count ++ ellipsis

/-- A frame shows a session within the limits of the platform, and nothing but dice is cut. -/
structure Embed.Shows (embed : Embed) (session : Session) : Prop where
  /-- There is a title, and it is not too long. -/
  title : 1 ≤ embed.title.length ∧ embed.title.length ≤ 256
  /-- The text is not too long. -/
  description : embed.description.length ≤ 4096
  /-- The first line is the complete line of parameters. -/
  first : (splitOnChar '\n' embed.description).head? = some (session.parametersText .discord)
  /-- The last line is the complete line with the total of the attempt that counts. -/
  last : (splitOnChar '\n' embed.description).getLast? =
    some (finalText session.adopted.total .discord)
  /-- The lines are complete but for the dice, which may be cut. -/
  lines : ∃ dice : Roll → Text, (∀ roll, IsCut roll.sumText (dice roll)) ∧
    splitOnChar '\n' embed.description = session.texts dice .discord

/-- Cutting to a limit that is not negative leaves the text or its beginning. -/
theorem isCut_truncate (text : Text) {limit : Int} (positive : 0 ≤ limit) :
    IsCut text (truncate text limit) := by
  -- A limit that is not negative is the number of characters that are left.
  by_cases long : limit < text.length
  · refine .inr ⟨limit.toNat, by omega, ?_⟩
    rw [truncate, if_pos long, cutAt, if_pos positive]
  · exact .inl (by rw [truncate, if_neg long])

/-- The plain die that is rolled without an expression is notated. -/
theorem isNotated_defaultSettings : defaultSettings.IsNotated :=
  ⟨by decide, by decide, by simp [defaultSettings], by simp [defaultSettings]⟩

namespace DiceCommand

variable {expression : Text}

/-- Blanks ask for a plain die. -/
theorem wish_of_allBlank (command : DiceCommand) (blank : AllBlank expression) :
    command.wish expression = .rolled defaultSettings .straight false := by
  -- Blanks are trimmed away, and nothing is no word for eyes.
  have empty : trim expression = [] := trim_eq_nil_iff.mpr blank
  have seen : [] ∉ eyeWords := by decide
  simp [wish, empty, seen]

/-- Notation asks for what it describes. -/
theorem wish_of_parse (command : DiceCommand) {settings : Settings}
    (parsed : Notation.parse expression = .ok settings) :
    command.wish expression = .rolled settings command.mode command.withRecord := by
  rw [← Notation.parse_trim] at parsed
  -- Neither eyes nor an empty text are notation.
  have refused : ∀ text ∈ [] :: eyeWords, (Notation.parse text).isOk = false := by decide
  have other : trim expression ∉ [] :: eyeWords := by
    intro member
    have refusal := refused _ member
    rw [parsed] at refusal
    cases refusal
  obtain ⟨some_text, seen⟩ := not_or.mp (List.mem_cons.not.mp other)
  simp [wish, seen, some_text, parsed]

/-- What is neither blank nor eyes nor notation is refused, with the error of all that was written. -/
theorem wish_of_parse_error (command : DiceCommand) {error : NotationError}
    (visible : trim expression ≠ []) (other : trim expression ∉ eyeWords)
    (failed : Notation.parse expression = .error error) :
    command.wish expression = .refused error := by
  rw [← Notation.parse_trim] at failed
  simp [wish, visible, other, failed]

end DiceCommand

/-- A title that is not too long is made from the label, or stands in for a missing one. -/
theorem Session.length_title {session : Session} (notated : session.settings.IsNotated) :
    1 ≤ session.title.length ∧ session.title.length ≤ 256 := by
  -- A notated label has something visible, so it is not replaced.
  rw [title]
  cases labelled : session.settings.label with
  | none => decide
  | some label =>
    have visible : label ≠ [] := (notated.label label labelled).1
    have some_character := List.length_pos_iff.mpr visible
    simp only [List.isEmpty_iff, if_neg visible, List.length_take, titleLimit]
    omega

/-- A session that is fitted, displayed and recorded is sent as a frame, or else as its last line. -/
theorem Session.sending_eq {session : Session} {config : GuildConfig} {display fitted : Display}
    {text line : Text} (shown : config.display? = some display)
    (fit : session.fit descriptionLimit display .discord = .ok fitted)
    (displayed : session.display fitted .discord = .ok text)
    (dumped : session.record.dump = .ok session.record.write)
    (final : finalLine session.adopted.total .discord = .ok line) (withRecord : Bool) :
    session.sending config withRecord =
      .ok
        { messages :=
            [⟨.reply, none, some ⟨session.title, text, rollColor⟩,
                if withRecord then some ⟨"roll.json".toList, session.record.write⟩ else none⟩,
              .textReply line]
          onFailure := fun failure => [undeliveredRecord session.settings failure] } := by
  -- Rendering repeats the display, and its record is made only where it is asked for.
  have rendered :
      session.render fitted .discord (if withRecord then some "session".toList else none) =
        .ok ⟨text, if withRecord then some session.record else none⟩ := by
    rw [Session.render, displayed]
    cases withRecord <;> rfl
  have attached : recordFile session.record = .ok ⟨"roll.json".toList, session.record.write⟩ := by
    rw [recordFile, dumped]
    rfl
  -- The pieces are put together in the order in which the session is sent.
  rw [sending, shown]
  simp only [fit, rendered, final, Except.mapError, Bind.bind, Except.bind]
  cases withRecord with
  | false => rfl
  | true =>
    simp only [if_pos, Option.mapM_some, attached]
    rfl

/-- How many characters of the dice of each attempt a frame shows under the budgets of a guild. -/
def Session.frameLimit (session : Session) (single double : Nat) : Int :=
  session.fittedLimit descriptionLimit .discord single double

/-- A session that was rolled for small settings is sent as a frame with its lines, or else as its last line. -/
theorem Settings.IsNotated.sending_eq {settings : Settings} (notated : settings.IsNotated)
    {config : GuildConfig} {single double : Nat}
    (shown : config.display? = some (.ofWhole single double)) (mode : Mode) (die : Die)
    (withRecord : Bool) {session : Session} (rolled : (settings.roll mode die).1 = session) :
    session.sending config withRecord =
      .ok
        { messages :=
            [⟨.reply, none,
                some ⟨session.title, joinWith ['\n']
                  (session.texts (Roll.diceWithin (session.frameLimit single double)) .discord),
                  rollColor⟩,
                if withRecord then some ⟨"roll.json".toList, session.record.write⟩ else none⟩,
              .textReply (finalText session.adopted.total .discord)]
          onFailure := fun failure => [undeliveredRecord session.settings failure] } := by
  -- The budgets are lowered to what the platform leaves, and the dice are cut to them.
  have short := Session.haveNumerals_roll notated mode die
  have dumped := notated.dump_record mode die
  rw [rolled] at short dumped
  have final := finalLine_eq (Session.haveNumerals_displayed_iff.mp short).2.2 .discord
  -- The bare lines are short enough, so a display within the limit exists.
  obtain ⟨fitted, fit, displayed⟩ := session.exists_fit short .discord descriptionLimit single double
  rw [Frames.markup_discord] at final fit displayed
  exact Session.sending_eq shown fit displayed dumped final withRecord

/-- A session that was rolled for small settings is framed within the limits of the platform. -/
theorem Settings.IsNotated.sending_roll {settings : Settings} (notated : settings.IsNotated)
    {config : GuildConfig} {single double : Nat}
    (shown : config.display? = some (.ofWhole single double)) (mode : Mode) (die : Die)
    (withRecord : Bool) :
    ∃ embed attachment fallback onFailure,
      (settings.roll mode die).1.sending config withRecord =
        .ok ⟨[⟨.reply, none, some embed, attachment⟩, fallback], onFailure⟩ ∧
      embed.Shows (settings.roll mode die).1 := by
  -- The throws are used through what they have in common only.
  have positive : 0 < settings.sides := notated.sides.1
  have asked := settings.settings_roll mode die
  have thrown : ∀ roll ∈ (settings.roll mode die).1.rolls, roll.IsThrown settings :=
    fun _ => isThrown_of_mem_rolls positive
  have sending := notated.sending_eq shown mode die withRecord rfl
  generalize (settings.roll mode die).1 = session at asked thrown sending ⊢
  -- The fixed part is short, so what is left for the dice keeps the embed within its limit.
  have bare := session.bareLength_le notated asked thrown
  have single_ok := Int.natCast_nonneg single
  have double_ok := Int.natCast_nonneg double
  have cut_ok := (session.fittedLimit_le descriptionLimit .discord single_ok double_ok).1
  have length := session.length_fit_le descriptionLimit .discord single_ok double_ok
  have lines := Session.splitOnChar_texts Frames.isInline_discord session
    (session.frameLimit single double)
  refine ⟨_, _, _, _, sending, ?_⟩
  exact {
    title := Session.length_title (asked ▸ notated)
    description := by
      have limit : (descriptionLimit : Int) = 4096 := rfl
      simp only [Session.frameLimit]
      omega
    first := (congrArg List.head? lines).trans (session.head?_texts _ _)
    last := (congrArg List.getLast? lines).trans (session.getLast?_texts _ _)
    lines := ⟨_, fun roll => isCut_truncate roll.sumText cut_ok, lines⟩ }

namespace Room

/-- The first attempt to answer is made with the first message, and fails if any attempt is to fail. -/
theorem head?_deliver (failures : List Failure) (message : Message) (others : List Message) :
    (deliver failures (message :: others)).head? = some ⟨message, failures.head?⟩ := by
  -- The first message is the first to be attempted in any case.
  cases failures <;> rfl

/-- Whatever is to be sent, its first message is the first to be attempted. -/
theorem head?_serve {room : Room} {exchange : Exchange} {message : Message}
    {others : List Message} {onFailure : Failure → List LogRecord}
    (outcome : (room.turn exchange).outcome = .ok ⟨message :: others, onFailure⟩) :
    (room.serve exchange).2.deliveries.head? = some ⟨message, exchange.failures.head?⟩ := by
  simp only [serve, outcome]
  exact head?_deliver exchange.failures message others

/-- A dice command with something to roll is answered by a frame that shows the session. -/
theorem serve_dice {room : Room} {caller : Caller} {command : DiceCommand} {expression : Text}
    (displays : room.store.HasDisplays)
    (legible : AllBlank expression ∨ ∃ settings, Notation.parse expression = .ok settings)
    (failures : List Failure) (stack : Stack) :
    ∃ settings mode withRecord embed attachment,
      command.wish expression = .rolled settings mode withRecord ∧
      (room.serve ⟨caller, .dice command expression, failures, stack⟩).2.deliveries.head? =
        some ⟨⟨.reply, none, some embed, attachment⟩, failures.head?⟩ ∧
      embed.Shows (settings.roll mode room.die).1 := by
  -- In both cases something small is rolled.
  have asked : ∃ settings mode withRecord,
      command.wish expression = .rolled settings mode withRecord ∧ settings.IsNotated := by
    rcases legible with blank | ⟨settings, parsed⟩
    · exact ⟨_, _, _, command.wish_of_allBlank blank, isNotated_defaultSettings⟩
    · exact ⟨_, _, _, command.wish_of_parse parsed, Notation.isNotated_of_parse parsed⟩
  -- The budgets of the guild are whole, so what was asked for can be shown.
  obtain ⟨settings, mode, withRecord, wish, notated⟩ := asked
  obtain ⟨single, double, shown⟩ := displays caller.guild
  obtain ⟨embed, attachment, fallback, onFailure, sending, shows⟩ :=
    notated.sending_roll shown mode room.die withRecord
  -- The turn sends what the session gives, and the first message is the embed.
  have outcome : (room.turn ⟨caller, .dice command expression, failures, stack⟩).outcome =
      .ok ⟨[⟨.reply, none, some embed, attachment⟩, fallback], onFailure⟩ := by
    simp only [turn, rollTurn, wish]
    exact sending
  exact ⟨settings, mode, withRecord, embed, attachment, wish, head?_serve outcome, shows⟩

/-- At any time of a run, whoever rolls gets a frame within the limits of the platform, cut in nothing but its dice. -/
theorem run_embeds {path slot : Text} {disk : Disk} {opening stack : Stack}
    {exchanges : List Exchange} {index : Nat} {failures : List Failure}
    {caller : Caller} {command : DiceCommand} {expression : Text}
    (start : disk.Keeps path slot ∧ disk.file? slot = none ∨ ∃ opened store,
      Store.openAt opening path disk = (opened, .ok store) ∧
        ∀ entry ∈ store.guilds, entry.2.HasBudgets)
    (budgets : ∀ exchange ∈ exchanges, exchange.update? ≠ none → exchange.request.HasBudgets)
    (here : exchanges[index]? = some ⟨caller, .dice command expression, failures, stack⟩)
    (legible : AllBlank expression ∨ ∃ settings, Notation.parse expression = .ok settings) :
    ∃ opened store, Store.openAt opening path disk = (opened, .ok store) ∧ ∀ die,
      let room : Room := ⟨store, opened, die⟩
      let before := room.after (exchanges.take index)
      ∃ reached report settings mode withRecord embed attachment,
        (room.run exchanges)[index]? = some (reached, report) ∧
        command.wish expression = .rolled settings mode withRecord ∧
        report.deliveries.head? =
          some ⟨⟨.reply, none, some embed, attachment⟩, failures.head?⟩ ∧
        embed.Shows (settings.roll mode before.die).1 := by
  -- An absent file is made from the standard store, which knows no guild.
  have opened_whole : ∃ opened store, Store.openAt opening path disk = (opened, .ok store) ∧
      ∀ entry ∈ store.guilds, entry.2.HasBudgets := by
    rcases start with ⟨kept, absent⟩ | loaded
    · exact ⟨_, _, Store.openAt_of_absent kept absent, by simp [Store.standard]⟩
    · exact loaded
  obtain ⟨opened, store, success, stored⟩ := opened_whole
  refine ⟨opened, store, success, ?_⟩
  intro die room before
  -- Everybody has a display at the start, and no exchange before takes one away.
  have displays : before.store.HasDisplays :=
    hasDisplays_after (Store.hasDisplays_of_openAt success stored)
      fun exchange member => budgets exchange (List.mem_of_mem_take member)
  obtain ⟨settings, mode, withRecord, embed, attachment, wish, delivered, shows⟩ :=
    serve_dice displays legible failures stack
  have served := getElem?_run room exchanges index
  rw [here, Option.map_some] at served
  exact ⟨_, _, settings, mode, withRecord, embed, attachment, served, wish, delivered, shows⟩

/-- The largest roll fits its frame in a guild that set its budgets before, also when the frame does not get through. -/
theorem run_embeds_largest :
    let path : Text := "config.json".toList
    let disk : Disk := ⟨.plain [path], []⟩
    let stack : Stack := .ofLevels 1 4
    let failure : Failure := ⟨[], "HTTPException".toList, "500".toList⟩
    let exchanges : List Exchange :=
      [⟨⟨some 1, true⟩, .budget (.word "4000".toList) (.value (.whole 0)), [], stack⟩,
        ⟨⟨some 1, false⟩, .dice .advantageData "9999d9999-9999 all of them".toList, [failure], stack⟩]
    (∀ exchange ∈ exchanges, exchange.update? ≠ none → exchange.request.HasBudgets) ∧
      ∃ opened store, Store.openAt stack path disk = (opened, .ok store) ∧
        ∃ reached report embed attachment,
          (Room.run ⟨store, opened, .seeded 0⟩ exchanges)[1]? = some (reached, report) ∧
          report.deliveries.head? =
            some ⟨⟨.reply, none, some embed, attachment⟩, some failure⟩ ∧
          embed.description.length ≤ 4096 := by
  intro path disk stack failure exchanges
  -- Only the first exchange sets budgets, one of them by a word.
  have budgets : ∀ exchange ∈ exchanges, exchange.update? ≠ none → exchange.request.HasBudgets := by
    intro exchange member _
    simp only [exchanges, List.mem_cons, List.not_mem_nil, or_false] at member
    rcases member with rfl | rfl
    · exact ⟨trivial, Json.isBudget_whole (by decide)⟩
    · exact trivial
  -- The expression is read with the largest numbers.
  have legible : AllBlank "9999d9999-9999 all of them".toList ∨
      ∃ settings, Notation.parse "9999d9999-9999 all of them".toList = .ok settings :=
    .inr ⟨⟨9999, 9999, some (-9999), some "all of them".toList⟩, rfl⟩
  have here : exchanges[1]? = some ⟨⟨some 1, false⟩,
      .dice .advantageData "9999d9999-9999 all of them".toList, [failure], stack⟩ := rfl
  have absent : disk.Keeps path path ∧ disk.file? path = none := ⟨rfl, rfl⟩
  -- The general law gives the reply to the second exchange.
  obtain ⟨opened, store, success, replies⟩ := run_embeds (.inl absent) budgets here legible
  obtain ⟨reached, report, _, _, _, embed, attachment, served, -, delivered, shows⟩ :=
    replies (.seeded 0)
  exact ⟨budgets, opened, store, success, reached, report, embed, attachment, served, delivered,
    shows.description⟩

end Room

end DiceChat
