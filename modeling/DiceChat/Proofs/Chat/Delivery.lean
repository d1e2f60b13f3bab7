import DiceChat.Proofs.Chat.Draws
import DiceChat.Proofs.Log.Console

/-! Messages that do not get through: the last line of a roll stands in for it once, and the roll stays what it was. -/

namespace DiceChat

/-- One attempt more is made than fails, as far as there are messages. -/
theorem deliver_eq (failures : List Failure) (messages : List Message) :
    deliver failures messages =
      (messages.take (failures.length + 1)).mapIdx fun index message =>
        ⟨message, failures[index]?⟩ := by
  -- Each attempt that fails takes a message, and one of the failures that are left.
  fun_induction deliver failures messages with
  | case1 => simp
  | case2 message others => simp
  | case3 failure failures message others ih => simp [ih]

/-- No message gets through if there is a failure for the last of them, and that one is told. -/
theorem undelivered?_deliver (failures : List Failure) {messages : List Message}
    (some_message : messages ≠ []) :
    undelivered? (deliver failures messages) = failures[messages.length - 1]? := by
  fun_induction deliver failures messages with
  | case1 => exact absurd rfl some_message
  -- A message that arrives is the last one.
  | case2 message others => rfl
  | case3 failure failures message others ih =>
    -- The last message failed, so its failure is the one that counts.
    cases others with
    | nil => simp [deliver, undelivered?]
    | cons other others =>
      -- Something is attempted after the first failure, and it is the last attempt that counts.
      obtain ⟨delivery, later, attempts⟩ : ∃ delivery later,
          deliver failures (other :: others) = delivery :: later := by
        cases failures <;> exact ⟨_, _, rfl⟩
      have rest := ih (List.cons_ne_nil other others)
      rw [attempts, undelivered?] at rest
      rw [attempts, undelivered?, List.getLast?_cons_cons, rest]
      rfl

/-- At any threshold that errors pass, the console shows these records of errors and no others. -/
def Report.ShowsErrors (report : Report) (errors : List LogRecord) : Prop :=
  ∀ (logging : Logging) (disk : Disk) (time : Text),
    Severity.error.passes logging.ready.logger.threshold = true →
      (logging.writeAll disk time report.records).2.2 =
          (logging.shown report.records).flatMap (fun record => record.line time) ∧
        (logging.shown report.records).filter LogRecord.isError = errors

/-- An answer for which nothing stands in when attempts fail. -/
structure Report.HasNoSubstitute (report : Report) (failures : List Failure) : Prop where
  /-- One reply is attempted. -/
  attempts : ∃ message, message.manner = .reply ∧ report.deliveries = [⟨message, failures.head?⟩]
  /-- The request fails as the reply does. -/
  error : report.error = failures.head?.map .undelivered
  /-- No error is logged. -/
  logged : report.ShowsErrors []

/-- A failed answer about a session is logged as an error with the failure behind it. -/
structure Report.LogsUndelivered (report : Report) (session : Session) (failure : Failure) : Prop where
  /-- One error is logged: what could not be sent, and the failure. -/
  once : report.ShowsErrors
    [⟨.error, "無法發送擲骰結果 ".toList ++ session.settings.parameters, some failure⟩]
  /-- It is written as one line, and behind it the failure in full. -/
  line : ∀ time, (undeliveredRecord session.settings failure).line time =
    time ++ " - DiceBot - ERROR - 無法發送擲骰結果 ".toList ++ session.settings.parameters ++
      "\n".toList ++ failure.text ++ "\n".toList

/-- An answer about a session for which its last line stands in when attempts fail. -/
structure Report.HasSubstitute (report : Report) (session : Session) (failures : List Failure) :
    Prop where
  /-- A frame is attempted, and if it fails its last line, without a frame or a file: the total that counts. -/
  attempts : ∃ embed attachment line,
    report.deliveries = ⟨⟨.reply, none, some embed, attachment⟩, failures.head?⟩ ::
      (if failures = [] then [] else [⟨⟨.reply, some line, none, none⟩, failures[1]?⟩]) ∧
    (splitOnChar '\n' embed.description).getLast? = some line ∧
    line = finalText session.adopted.total .discord
  /-- The request fails if both attempts do, as the second one does. -/
  error : report.error = failures[1]?.map .undelivered
  /-- Without a failure no error is logged. -/
  quiet : failures = [] → report.ShowsErrors []
  /-- The first failure is logged, and nothing else is logged as an error. -/
  logged : ∀ failure, failures.head? = some failure → report.LogsUndelivered session failure

/-- The errors that are shown are those that were logged. -/
theorem Report.showsErrors_of_filter {report : Report} {errors : List LogRecord}
    (logged : report.records.filter LogRecord.isError = errors) : report.ShowsErrors errors := by
  -- Every record that passes is shown in a line, and errors pass.
  intro logging disk time passing
  exact ⟨logging.console_writeAll disk time report.records,
    (Logging.filter_isError_shown passing report.records).trans logged⟩

/-- A name leads to the command that bears it, and to no other. -/
theorem DiceCommand.ofName?_eq_some_iff {name : Text} {command : DiceCommand} :
    DiceCommand.ofName? name = some command ↔ command.name = name := by
  constructor
  · intro found
    simpa using List.find?_some found
  · -- No two commands share a name, so the first that bears it is the one.
    rintro rfl
    cases command <;> decide

/-- There is a dice command for every mode, with the record and without it. -/
theorem DiceCommand.exists_mode_withRecord (mode : Mode) (withRecord : Bool) :
    ∃ command : DiceCommand, command.mode = mode ∧ command.withRecord = withRecord := by
  -- There is one command for each mode, with a record and without.
  cases mode with
  | straight =>
    cases withRecord with
    | false => exact ⟨.roll, rfl, rfl⟩
    | true => exact ⟨.data, rfl, rfl⟩
  | advantage =>
    cases withRecord with
    | false => exact ⟨.advantage, rfl, rfl⟩
    | true => exact ⟨.advantageData, rfl, rfl⟩
  | disadvantage =>
    cases withRecord with
    | false => exact ⟨.disadvantage, rfl, rfl⟩
    | true => exact ⟨.disadvantageData, rfl, rfl⟩

/-- No error is logged about reading an expression. -/
theorem filter_isError_expressionRecords (expression : Text) :
    (expressionRecords expression).filter LogRecord.isError = [] := by
  rw [List.filter_eq_nil_iff]
  intro record logged
  -- Either nothing is read, or reading it is logged.
  rw [expressionRecords] at logged
  split at logged
  · cases logged
  · simp [Notation.isError_of_mem_journal logged]

/-- Behind the message of an undelivered session the failure starts a line. -/
theorem behind_undeliveredRecord (settings : Settings) (failure : Failure) :
    (undeliveredRecord settings failure).behind = '\n' :: failure.text := by
  have cause : (undeliveredRecord settings failure).cause = some failure := rfl
  -- The message has no end of its own, since no parameters break a line.
  have unbroken : (undeliveredRecord settings failure).message.getLast? ≠ some '\n' := by
    intro last
    have told : (undeliveredRecord settings failure).message =
        "無法發送擲骰結果 ".toList ++ settings.parameters := rfl
    rw [told] at last
    rcases List.mem_append.mp (List.mem_of_getLast? last) with heading | parameters
    · exact absurd heading (by decide)
    · exact settings.notMem_parameters parameters
  rw [LogRecord.behind, cause]
  simp only [if_neg unbroken, List.singleton_append]

/-- A record of an undelivered session is written as its line, and behind it the failure. -/
theorem line_undeliveredRecord (settings : Settings) (failure : Failure) (time : Text) :
    (undeliveredRecord settings failure).line time =
      time ++ " - DiceBot - ERROR - 無法發送擲骰結果 ".toList ++ settings.parameters ++
        "\n".toList ++ failure.text ++ "\n".toList := by
  -- The parts of the line are put next to each other.
  have heading : " - DiceBot - ERROR - 無法發送擲骰結果 ".toList =
      " - DiceBot - ".toList ++ Severity.error.name ++ " - ".toList ++
        "無法發送擲骰結果 ".toList := by decide
  have told : (undeliveredRecord settings failure).message =
      "無法發送擲骰結果 ".toList ++ settings.parameters := rfl
  have severity : (undeliveredRecord settings failure).severity = .error := rfl
  have ending : "\n".toList = ['\n'] := rfl
  rw [LogRecord.line_eq, behind_undeliveredRecord, heading, told, severity, ending]
  simp only [List.append_assoc, List.singleton_append]

namespace Room

variable {room : Room} {exchange : Exchange}

/-- What is to be sent is attempted, and the request fails if the last message does. -/
theorem report_of_outcome {sending : Sending} (outcome : (room.turn exchange).outcome = .ok sending)
    (some_message : sending.messages ≠ []) :
    (room.serve exchange).2 =
      { deliveries := deliver exchange.failures sending.messages
        records := (room.turn exchange).records ++ exchange.failures.head?.elim [] sending.onFailure
        error := exchange.failures[sending.messages.length - 1]?.map .undelivered } := by
  simp only [serve, outcome, undelivered?_deliver exchange.failures some_message]

/-- A single reply is attempted once, whatever fails. -/
theorem hasNoSubstitute_serve {message : Message}
    (outcome : (room.turn exchange).outcome = .ok (.only message)) (manner : message.manner = .reply)
    (quiet : (room.turn exchange).records.filter LogRecord.isError = []) :
    (room.serve exchange).2.HasNoSubstitute exchange.failures := by
  rw [report_of_outcome outcome (by simp [Sending.only])]
  -- Only the first failure is for the one message.
  rcases exchange.failures with _ | ⟨failure, failures⟩
  all_goals
    exact {
      attempts := ⟨message, manner, by simp [Sending.only, deliver]⟩
      error := rfl
      logged := Report.showsErrors_of_filter (by simpa [Sending.only] using quiet) }

/-- A frame is attempted first, and its last line only if the frame fails. -/
theorem hasSubstitute_serve {session : Session} {embed : Embed} {attachment : Option Attachment}
    {line : Text}
    (outcome : (room.turn exchange).outcome =
      .ok ⟨[⟨.reply, none, some embed, attachment⟩, .textReply line],
        fun failure => [undeliveredRecord session.settings failure]⟩)
    (last : (splitOnChar '\n' embed.description).getLast? = some line)
    (total : line = finalText session.adopted.total .discord)
    (quiet : (room.turn exchange).records.filter LogRecord.isError = []) :
    (room.serve exchange).2.HasSubstitute session exchange.failures := by
  rw [report_of_outcome outcome (by simp)]
  -- How many messages fail decides what is attempted; whether any does, what is logged.
  exact {
    attempts := by
      refine ⟨embed, attachment, line, ?_, last, total⟩
      -- No failure, one, or more are told apart by how many attempts are made and fail.
      rcases exchange.failures with _ | ⟨first, _ | ⟨second, failures⟩⟩
      · rfl
      · rfl
      · simp [deliver, Message.textReply]
    error := rfl
    quiet := by
      intro none
      refine Report.showsErrors_of_filter ?_
      rw [none]
      simpa using quiet
    logged := by
      intro failure first
      refine ⟨Report.showsErrors_of_filter ?_, line_undeliveredRecord session.settings failure⟩
      rw [first, List.filter_append, quiet, List.nil_append]
      rfl }

/-- Eyes and what is neither blank nor notation are answered by a single reply, and the room stays as it is. -/
theorem hasNoSubstitute_serve_dice {command : DiceCommand} {expression : Text}
    (refused : trim expression ∈ eyeWords ∨
      ¬AllBlank expression ∧ ∃ error, Notation.parse expression = .error error)
    (room : Room) (caller : Caller) (failures : List Failure) (stack : Stack) :
    let served := room.serve ⟨caller, .dice command expression, failures, stack⟩
    served.1 = room ∧ served.2.HasNoSubstitute failures := by
  intro served
  -- Reading the expression logs no error, whatever comes of it.
  have quiet := filter_isError_expressionRecords expression
  obtain ⟨message, manner, turn⟩ : ∃ message, message.manner = .reply ∧
      room.turn ⟨caller, .dice command expression, failures, stack⟩ =
        ⟨room, expressionRecords expression, .ok (.only message)⟩ := by
    -- Eyes are looked for first, and then the notation is read.
    by_cases seen : trim expression ∈ eyeWords
    · have eyes : command.wish expression = .eyes := by simp [DiceCommand.wish, seen]
      exact ⟨.textReply sillyText, rfl, by simp only [Room.turn, rollTurn, eyes]⟩
    · obtain ⟨visible, error, failed⟩ := refused.resolve_left seen
      have wish := command.wish_of_parse_error (mt trim_eq_nil_iff.mp visible) seen failed
      exact ⟨refusal error, rfl, by simp only [Room.turn, rollTurn, wish]⟩
  refine ⟨?_, hasNoSubstitute_serve (by rw [turn]) manner (by rw [turn]; exact quiet)⟩
  rw [serve_fst, turn]

/-- What is rolled is answered by a frame, for which its last line stands in. -/
theorem hasSubstitute_serve_dice {caller : Caller} {command : DiceCommand} {expression : Text}
    {single double : Nat} {settings : Settings} {mode : Mode} {withRecord : Bool}
    (budgets : (room.store.guild caller.guild).display? = some (.ofWhole single double))
    (wish : command.wish expression = .rolled settings mode withRecord)
    (notated : settings.IsNotated) (failures : List Failure) (stack : Stack) :
    (room.serve ⟨caller, .dice command expression, failures, stack⟩).2.HasSubstitute
      (settings.roll mode room.die).1 failures := by
  -- An expression is journalled without an error, and the session is what the turn sends.
  have quiet := filter_isError_expressionRecords expression
  have sending := notated.sending_eq budgets mode room.die withRecord rfl
  have turn : room.turn ⟨caller, .dice command expression, failures, stack⟩ =
      ⟨{ room with die := (settings.roll mode room.die).2 }, expressionRecords expression ++
        [.plain .debug ("Dice roll: ".toList ++ (settings.roll mode room.die).1.inline)],
        (settings.roll mode room.die).1.sending (room.store.guild caller.guild) withRecord⟩ := by
    simp only [Room.turn, rollTurn, wish]
  generalize (settings.roll mode room.die).1 = session at sending turn ⊢
  -- The frame holds the lines of the session, and no line is broken.
  have lines := Session.splitOnChar_texts Frames.isInline_discord session
    (session.frameLimit single double)
  refine hasSubstitute_serve (by rw [turn]; exact sending) ?_ rfl ?_
  · exact (congrArg List.getLast? lines).trans (session.getLast?_texts _ _)
  · rw [turn, List.filter_append, quiet]
    rfl

/-- Whatever fails to be sent, a dice command leaves the store and the disk alone and draws its dice once; eyes and
what is no notation have nothing to stand in for their reply, and a roll has its last line. -/
theorem serve_undelivered {room : Room} {caller : Caller} {single double : Nat}
    (budgets : (room.store.guild caller.guild).display? = some (.ofWhole single double)) :
    (∀ mode withRecord, ∃ command : DiceCommand,
      command.mode = mode ∧ command.withRecord = withRecord) ∧
    ∀ (command : DiceCommand) (expression : Text) (failures : List Failure) (stack : Stack),
      let served := room.serve ⟨caller, .dice command expression, failures, stack⟩
      (served.1.store = room.store ∧ served.1.disk = room.disk) ∧
      (trim expression ∈ eyeWords ∨
          ¬AllBlank expression ∧ (∃ error, Notation.parse expression = .error error) →
        served.1.die = room.die ∧ served.2.HasNoSubstitute failures) ∧
      (AllBlank expression ∨ (∃ settings, Notation.parse expression = .ok settings) →
        ∃ settings mode, command.roll? expression = some (settings, mode) ∧
          served.1.die = (settings.roll mode room.die).2 ∧
          served.2.HasSubstitute (settings.roll mode room.die).1 failures) := by
  refine ⟨DiceCommand.exists_mode_withRecord, ?_⟩
  intro command expression failures stack served
  let exchange : Exchange := ⟨caller, .dice command expression, failures, stack⟩
  -- A dice command is no update of the budgets.
  have unchanged : exchange.update? = none := rfl
  refine ⟨next_of_update?_eq_none unchanged room, ?_, ?_⟩
  · -- What is refused is answered by one message, and nothing is drawn for it.
    intro refused
    obtain ⟨same, answered⟩ := hasNoSubstitute_serve_dice refused room caller failures stack
    exact ⟨congrArg Room.die same, answered⟩
  · -- What is legible leads to a roll, blank or not.
    intro legible
    obtain ⟨settings, mode, withRecord, wish⟩ : ∃ settings mode withRecord,
        command.wish expression = .rolled settings mode withRecord := by
      rcases legible with blank | ⟨settings, parsed⟩
      · exact ⟨_, _, _, command.wish_of_allBlank blank⟩
      · exact ⟨_, _, _, command.wish_of_parse parsed⟩
    have rolls : exchange.roll? = some (settings, mode) :=
      DiceCommand.roll?_eq_some_iff.mpr ⟨withRecord, wish⟩
    exact ⟨settings, mode, rolls, die_next_of_roll? rolls room,
      hasSubstitute_serve_dice budgets wish (Exchange.isNotated_of_roll? rolls) failures stack⟩

/-- A roll that does not get through is replied to by its last line, and the failure is logged. -/
theorem serve_undelivered_once :
    let room : Room := ⟨.standard "config.json".toList, ⟨.plain [], []⟩, .cycling #[5, 0, 3, 1]⟩
    let caller : Caller := ⟨some 7, false⟩
    let settings : Settings := ⟨2, 6, some 1, some "Fire".toList⟩
    let failure : Failure := ⟨["Traceback (most recent call last):".toList],
      "discord.errors.HTTPException".toList, "413 Payload Too Large".toList⟩
    let served := room.serve
      { caller := caller, request := .dice .advantageData " 2d6 + 1 Fire ".toList
        failures := [failure], stack := .ofLevels 1 4 }
    (room.store.guild caller.guild).display? = some (.ofWhole (4000 : Nat) (2000 : Nat)) ∧
      Notation.parse " 2d6 + 1 Fire ".toList = .ok settings ∧
      (served.1.store = room.store ∧ served.1.disk = room.disk) ∧
      served.1.die = (settings.roll .advantage room.die).2 ∧
      (∃ frame, served.2.deliveries =
        [⟨frame, some failure⟩, ⟨.textReply "Your final roll is: 🎲 **8** 🎲".toList, none⟩]) ∧
      served.2.error = none ∧
      served.2.LogsUndelivered (settings.roll .advantage room.die).1 failure := by
  intro room caller settings failure served
  have budgets : (room.store.guild caller.guild).display? =
      some (.ofWhole (4000 : Nat) (2000 : Nat)) := rfl
  have parsed : Notation.parse " 2d6 + 1 Fire ".toList = .ok settings := by decide
  -- The theorem is taken at this request, which asks for an advantage with its record.
  obtain ⟨-, answered⟩ := serve_undelivered budgets
  obtain ⟨kept, -, rolled⟩ :=
    answered .advantageData " 2d6 + 1 Fire ".toList [failure] (.ofLevels 1 4)
  obtain ⟨_, _, asked, die, substitute⟩ := rolled (.inr ⟨settings, parsed⟩)
  have known : DiceCommand.advantageData.roll? " 2d6 + 1 Fire ".toList =
      some (settings, .advantage) := by decide
  obtain ⟨rfl, rfl⟩ := Prod.mk.inj (Option.some.inj (known.symm.trans asked))
  -- The line that stands in for the embed tells the total that was rolled.
  obtain ⟨embed, attachment, line, attempts, -, total⟩ := substitute.attempts
  have told : line = "Your final roll is: 🎲 **8** 🎲".toList := total.trans (by decide)
  exact ⟨budgets, parsed, kept, die, ⟨_, told ▸ attempts⟩, substitute.error,
    substitute.logged failure rfl⟩

end Room

end DiceChat
