import DiceChat.Proofs.Disk
import DiceChat.Proofs.Log.Console
import DiceChat.Proofs.Text.Quoted

/-! Lines of the log: what is logged about reading a text shows itself on one line, but for the text that an error tells. -/

namespace DiceChat

/-- A text is one line: its only line end stands at its end. -/
def IsOneLine (text : Text) : Prop :=
  ∃ body, text = body ++ ['\n'] ∧ '\n' ∉ body

/-- A text that ends a line is one line exactly if it does not end any other. -/
theorem isOneLine_append_iff {body : Text} : IsOneLine (body ++ ['\n']) ↔ '\n' ∉ body := by
  -- The line end at the end is the only one that may be there.
  constructor
  · rintro ⟨other, same, clear⟩
    rwa [List.append_cancel_right same]
  · intro clear
    exact ⟨body, rfl, clear⟩

/-- A missing number or text shows itself. -/
theorem allPrintable_none : AllPrintable "None".toList :=
  allPrintable_of_all (by decide)

/-- Settings show themselves in the log, whatever their label is. -/
theorem Settings.allPrintable_inline (settings : Settings) : AllPrintable settings.inline := by
  -- A modifier and a label that are missing are told by a word.
  have modifier : AllPrintable (Json.ofInt? settings.modifier).inline := by
    cases settings.modifier with
    | none => exact allPrintable_none
    | some value => exact allPrintable_writeInt value
  have label : AllPrintable (inlineText? settings.label) := by
    cases settings.label with
    | none => exact allPrintable_none
    | some text => exact allPrintable_quote text
  -- Numbers and the label stand between fixed words.
  have opening : AllPrintable "RollSettings(number=".toList := allPrintable_of_all (by decide)
  have sides : AllPrintable ", sides=".toList := allPrintable_of_all (by decide)
  have added : AllPrintable ", modifier=".toList := allPrintable_of_all (by decide)
  have named : AllPrintable ", label=".toList := allPrintable_of_all (by decide)
  have closing : AllPrintable ")".toList := allPrintable_of_all (by decide)
  exact ((((((((opening.append (allPrintable_writeInt _)).append sides).append
    (allPrintable_writeInt _)).append added).append modifier).append named).append label).append
    closing)

/-- What a fault is reported as shows itself. -/
theorem NotationFault.allPrintable_heading (fault : NotationFault) : AllPrintable fault.heading := by
  cases fault <;> exact allPrintable_of_all (by decide)

/-- What stands before the message of a record. -/
def Severity.opening (severity : Severity) : Text :=
  "DiceBot - ".toList ++ severity.name ++ " - ".toList

/-- What stands before a message shows itself. -/
theorem Severity.allPrintable_opening (severity : Severity) : AllPrintable severity.opening := by
  cases severity <;> exact allPrintable_of_all (by decide)

namespace LogRecord

/-- A record without a failure is its message behind the severity. -/
theorem text_plain (severity : Severity) (message : Text) :
    (plain severity message).text = severity.opening ++ message :=
  rfl

/-- A record whose message shows itself shows itself. -/
theorem allPrintable_plain {severity : Severity} {message : Text} (shown : AllPrintable message) :
    AllPrintable (plain severity message).text :=
  severity.allPrintable_opening.append shown

variable {time : Text}

/-- A record has the line ends that are in it, and the one behind it. -/
theorem count_line (clear : '\n' ∉ time) (record : LogRecord) :
    (record.line time).count '\n' = record.text.count '\n' + 1 := by
  -- Only the record itself and the end of the line can hold line ends.
  have dash : " - ".toList.count '\n' = 0 := rfl
  rw [line, List.count_append, List.count_append, List.count_append, List.count_eq_zero.mpr clear,
    dash, List.count_singleton_self]
  omega

/-- A record is one line exactly if there is no line end in it. -/
theorem isOneLine_line_iff (clear : '\n' ∉ time) (record : LogRecord) :
    IsOneLine (record.line time) ↔ '\n' ∉ record.text := by
  rw [line, isOneLine_append_iff]
  simp [clear]

/-- A record that shows itself is one line. -/
theorem isOneLine_of_allPrintable (clear : '\n' ∉ time) {record : LogRecord}
    (shown : AllPrintable record.text) : IsOneLine (record.line time) :=
  (isOneLine_line_iff clear record).mpr (List.count_eq_zero.mp shown.count_newline)

end LogRecord

namespace Notation

variable {time : Text}

/-- The record that is logged before a text is read. -/
def inputRecord (text : Text) : LogRecord :=
  .plain .debug ("Parsing input ".toList ++ quote text)

/-- It shows itself. -/
theorem allPrintable_inputRecord (text : Text) : AllPrintable (inputRecord text).text :=
  LogRecord.allPrintable_plain
    ((allPrintable_of_all (by decide)).append (allPrintable_quote text))

/-- What is logged about a text that is accepted shows itself. -/
theorem allPrintable_acceptedRecord (text : Text) (settings : Settings) :
    AllPrintable (outcomeRecord text (.ok settings)).text := by
  -- The words between the parts are printable, and so is each part.
  have parsed : AllPrintable "Parsed ".toList := allPrintable_of_all (by decide)
  have as : AllPrintable " as ".toList := allPrintable_of_all (by decide)
  exact LogRecord.allPrintable_plain
    (((parsed.append (allPrintable_quote text)).append as).append settings.allPrintable_inline)

/-- What is logged about a text that is refused, up to the text as the error tells it. -/
def refusalOpening (text : Text) (fault : NotationFault) : Text :=
  Severity.opening .warning ++ ("無法解析骰子表達式 ".toList ++ quote text ++ ": ".toList ++ fault.heading)

/-- The text as the error tells it stands at the end of the record. -/
theorem text_refusedRecord (text : Text) (error : NotationError) :
    (outcomeRecord text (.error error)).text = refusalOpening text error.fault ++ error.fragment := by
  simp [outcomeRecord, LogRecord.text_plain, refusalOpening, NotationError.message]

/-- All before it shows itself. -/
theorem allPrintable_refusalOpening (text : Text) (fault : NotationFault) :
    AllPrintable (refusalOpening text fault) := by
  -- The words are printable, the text is quoted, and the heading holds no line end.
  have failed : AllPrintable "無法解析骰子表達式 ".toList := allPrintable_of_all (by decide)
  have colon : AllPrintable ": ".toList := allPrintable_of_all (by decide)
  exact (Severity.allPrintable_opening .warning).append
    (((failed.append (allPrintable_quote text)).append colon).append fault.allPrintable_heading)

/-- An error tells the trimmed text. -/
theorem fragment_of_parse {text : Text} {error : NotationError} (refused : parse text = .error error) :
    error.fragment = trim text := by
  -- Reading fails with a fault, and the text is added to it.
  rw [parse] at refused
  cases read : readSettings text with
  | ok settings =>
    rw [read] at refused
    cases refused
  | error fault =>
    rw [read] at refused
    rw [← Except.error.inj refused]

/-- The console shows the line ends of those of the two records that pass. -/
theorem count_console_journal (clear : '\n' ∉ time) (logging : Logging) (disk : Disk)
    (text : Text) :
    (logging.writeAll disk time (journal text)).2.2.count '\n' =
      (if Severity.debug.passes logging.ready.logger.threshold then 1 else 0) +
        if (outcomeRecord text (parse text)).severity.passes logging.ready.logger.threshold then
          (outcomeRecord text (parse text)).text.count '\n' + 1
        else 0 := by
  have records : journal text = [inputRecord text, outcomeRecord text (parse text)] := rfl
  have severity : (inputRecord text).severity = .debug := rfl
  have input := (allPrintable_inputRecord text).count_newline
  rw [Logging.console_writeAll, Logging.shown, records]
  simp only [List.filter_cons, List.filter_nil, severity]
  -- Each of the two records passes or not.
  split <;> split <;> simp [LogRecord.count_line clear, input, Nat.add_comm]

/-- What is logged about reading a text is a detail on one line and, behind it, another one if the text is accepted; if it
is refused there is one warning, whose only line ends but the last are those of the trimmed text. -/
theorem lines_journal (clear : '\n' ∉ time) (logging : Logging) (disk : Disk) (text : Text) :
    let passing := fun severity : Severity => severity.passes logging.ready.logger.threshold
    let console := (logging.writeAll disk time (journal text)).2.2
    (∀ settings, parse text = .ok settings →
        (∀ record ∈ journal text, record.severity = .debug ∧ AllPrintable record.text ∧
          IsOneLine (record.line time)) ∧
        console.count '\n' = if passing .debug then 2 else 0) ∧
      ∀ error, parse text = .error error →
        ∃ detail warning opening, journal text = [detail, warning] ∧
          detail.severity = .debug ∧ AllPrintable detail.text ∧ IsOneLine (detail.line time) ∧
          warning.severity = .warning ∧ warning.text = opening ++ trim text ∧ AllPrintable opening ∧
          (IsOneLine (warning.line time) ↔ '\n' ∉ trim text) ∧
          console.count '\n' = (if passing .debug then 1 else 0) +
            if passing .warning then (trim text).count '\n' + 1 else 0 := by
  intro passing console
  have input := allPrintable_inputRecord text
  have input_line := LogRecord.isOneLine_of_allPrintable clear input
  refine ⟨?_, ?_⟩
  · intro settings accepted
    -- The text and its label are quoted in both records.
    have outcome := allPrintable_acceptedRecord text settings
    have count := count_console_journal clear logging disk text
    rw [accepted, outcome.count_newline] at count
    refine ⟨?_, ?_⟩
    · rw [journal, accepted]
      refine List.forall_mem_cons.mpr ⟨⟨rfl, input, input_line⟩, List.forall_mem_singleton.mpr ?_⟩
      exact ⟨rfl, outcome, LogRecord.isOneLine_of_allPrintable clear outcome⟩
    · -- Both records are details, so both pass or none.
      have severity : (outcomeRecord text (.ok settings)).severity = .debug := rfl
      rw [severity] at count
      refine count.trans ?_
      split <;> simp_all
  · intro error refused
    -- Only the text behind the opening is told as it is.
    have opening := allPrintable_refusalOpening text error.fault
    have told := text_refusedRecord text error
    rw [fragment_of_parse refused] at told
    have count := count_console_journal clear logging disk text
    rw [refused, told, List.count_append, opening.count_newline, Nat.zero_add] at count
    refine ⟨inputRecord text, outcomeRecord text (.error error), _, ?_, rfl, input, input_line, rfl, told,
      opening, ?_, count⟩
    · rw [← refused]
      rfl
    · rw [LogRecord.isOneLine_line_iff clear, told, List.mem_append, not_or]
      exact and_iff_right (List.count_eq_zero.mp opening.count_newline)

/-- A label with a quote mark, a line end and a terminal code takes two lines where details pass, one for each record. -/
theorem lines_journal_label :
    let time := "2024-01-01 00:00:00,000".toList
    let text := "2d6 + 1 it's\n\x1b[2J".toList
    let logging : Logging := ⟨⟨.debug, none⟩, true⟩
    let disk : Disk := ⟨.plain [], []⟩
    '\n' ∉ time ∧ (∃ settings, parse text = .ok settings) ∧
      (∀ record ∈ journal text, IsOneLine (record.line time)) ∧
      (logging.writeAll disk time (journal text)).2.2.count '\n' = 2 := by
  -- The theorem is taken at a text whose label holds a line end and an escape.
  intro time text logging disk
  have clear : '\n' ∉ time := by decide
  have accepted : parse text = .ok ⟨2, 6, some 1, some "it's\n\x1b[2J".toList⟩ := by decide
  obtain ⟨lines, -⟩ := lines_journal clear logging disk text
  obtain ⟨records, count⟩ := lines _ accepted
  exact ⟨clear, ⟨_, accepted⟩, fun record member => (records record member).2.2, count⟩

/-- A text with a line end in it is told by its warning on two lines, the second of which looks like a record. -/
theorem lines_journal_forged :
    let time := "2024-01-01 00:00:00,000".toList
    let text := "x\nDiceBot - ERROR - forged".toList
    let logging : Logging := ⟨⟨.warning, none⟩, true⟩
    let disk : Disk := ⟨.plain [], []⟩
    parse text = .error ⟨.invalidFormat, text⟩ ∧
      (logging.writeAll disk time (journal text)).2.2 =
        "2024-01-01 00:00:00,000 - DiceBot - WARNING - 無法解析骰子表達式 'x\\nDiceBot - ERROR - forged': ".toList ++
          "Invalid roll format: x\nDiceBot - ERROR - forged\n".toList ∧
      ∃ record ∈ journal text, ¬IsOneLine (record.line time) := by
  intro time text logging disk
  have refused : parse text = .error ⟨.invalidFormat, text⟩ := by decide
  refine ⟨refused, by decide +kernel, outcomeRecord text (parse text), by simp [journal], ?_⟩
  -- What is left is that the quoted fragment holds the line end of the text.
  have clear : '\n' ∉ time := by decide
  rw [LogRecord.isOneLine_line_iff clear, refused, text_refusedRecord, List.mem_append]
  exact not_not_intro (.inr (by decide))

end Notation

end DiceChat
