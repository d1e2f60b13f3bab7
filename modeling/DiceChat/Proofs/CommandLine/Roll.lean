import DiceChat.CommandLine.Program
import DiceChat.Proofs.Chat.Draws

/-! The command line and the chat roll alike: they refuse the same expressions and show the same sessions. -/

namespace DiceChat

/-- The options that ask for a roll of a text in a mode, with its record. -/
def RollOptions.asking (text : Text) (mode : Mode) : RollOptions :=
  ⟨[text], mode = .advantage, mode = .disadvantage, true⟩

/-- The dice command that rolls in a mode and sends the record. -/
def DiceCommand.recording : Mode → DiceCommand
  | .straight => data
  | .advantage => advantageData
  | .disadvantage => disadvantageData

namespace DiceCommand

/-- The command that sends the record of a mode rolls in it. -/
theorem mode_recording (mode : Mode) : (recording mode).mode = mode := by
  cases mode <;> rfl

/-- The command that sends the record of a mode sends records. -/
theorem withRecord_recording (mode : Mode) : (recording mode).withRecord = true := by
  cases mode <;> rfl

/-- Notation is what the command that sends the record of a mode rolls. -/
theorem wish_recording {text : Text} {settings : Settings}
    (parsed : Notation.parse text = .ok settings) (mode : Mode) :
    (recording mode).wish text = .rolled settings mode true := by
  rw [wish_of_parse _ parsed, mode_recording, withRecord_recording]

end DiceCommand

/-- The mark that inline code stands between. -/
def codeMark : Char := '\x60'

/-- An expression is refused with a message: printed by the program, and in inline code in the chat. -/
structure RefusedAlike (program : Program) (room : Room) (printed : Program × Exit)
    (answered : Room × Report) (failure : Option Failure) (text message : Text) : Prop where
  /-- The program exits as for a refused command line. -/
  exit : printed.2.code = 2
  /-- Behind what is logged, the program reports the message. -/
  errors : printed.1.errors =
    (program.log (Notation.journal text)).errors ++ message ++ ['\n']
  /-- Nothing is printed otherwise. -/
  output : printed.1.output = program.output
  /-- The first attempt to answer has the message between the only marks around it. -/
  reply : ∃ title before after color, codeMark ∉ before ∧ codeMark ∉ after ∧
    answered.2.deliveries.head? = some
      ⟨.embedReply ⟨title, before ++ codeMark :: message ++ codeMark :: after, color⟩, failure⟩
  /-- No die is drawn. -/
  dice : printed.1.die = program.die ∧ answered.1.die = room.die

/-- How many characters of dice the program prints for each attempt. -/
def Session.printLimit (session : Session) : Int :=
  session.diceLimit 4000 2000

/-- A session is shown by the program and in the chat, each within its own limit, with the same document. -/
structure RolledAlike (program : Program) (printed : Program × Exit) (answered : Room × Report)
    (failure : Option Failure) (single double : Nat) (session : Session) (shown document : Text)
    (embed : Embed) : Prop where
  /-- The program exits as if all was done. -/
  exit : printed.2.code = 0
  /-- Afterwards both have the same die. -/
  dice : printed.1.die = answered.1.die
  /-- The program prints its display and behind it the document. -/
  output : printed.1.output = program.output ++ shown ++ '\n' :: document ++ ['\n']
  /-- The first attempt to answer has the document as a file. -/
  reply : answered.2.deliveries.head? =
    some ⟨⟨.reply, none, some embed, some ⟨"roll.json".toList, document⟩⟩, failure⟩
  /-- The document is the record of the session. -/
  record : session.record.dump = .ok document
  /-- The program shows the lines of the session without marks. -/
  printedLines : splitOnChar '\n' shown =
    session.texts (Roll.diceWithin session.printLimit) .plain
  /-- The chat gets the lines of the session with its marks. -/
  framedLines : splitOnChar '\n' embed.description =
    session.texts (Roll.diceWithin (session.frameLimit single double)) .discord
  /-- Both end with the total that counts. -/
  totals : (splitOnChar '\n' shown).getLast? = some (finalText session.adopted.total .plain) ∧
    (splitOnChar '\n' embed.description).getLast? = some (finalText session.adopted.total .discord)
  /-- If neither of them cuts, both show the same lines with all dice, and differ in the marks only. -/
  uncut : (∀ roll ∈ session.rolls, (roll.sumText.length : Int) ≤ session.printLimit ∧
      (roll.sumText.length : Int) ≤ session.frameLimit single double) →
    splitOnChar '\n' shown = session.texts Roll.sumText .plain ∧
      splitOnChar '\n' embed.description = session.texts Roll.sumText .discord

variable {text : Text}

/-- An error is put between the only two marks of its reply. -/
theorem exists_refusal :
    ∃ title before after color, codeMark ∉ before ∧ codeMark ∉ after ∧ ∀ error,
      refusal error = .embedReply
        ⟨title, before ++ codeMark :: error.message ++ codeMark :: after, color⟩ := by
  -- The fixed text before the error ends with the first mark.
  refine ⟨"Roll error".toList, sillyText ++
    ("\n\nIn other words, it is likely you have made a mistake " ++
      "and I definitely cannot help you to fix it. Try again!\n\n💣 ").toList, " 💣".toList, errorColor,
    by decide +kernel, by decide, ?_⟩
  intro error
  simp [refusal, codeMark]

namespace Program

/-- The options that ask for a mode roll in it. -/
theorem modeOf_asking (text : Text) (mode : Mode) : modeOf (.asking text mode) = mode := by
  cases mode <;> rfl

/-- The program reports why it refuses a text, and leaves the die alone. -/
theorem roll_of_parse_error {error : NotationError} (failed : Notation.parse text = .error error)
    (program : Program) (mode : Mode) :
    program.roll (.asking text mode) =
      ((program.log (Notation.journal text)).complain error.message, .refused) := by
  -- A single word is the whole text.
  rw [roll, RollOptions.asking, joinWith, failed]

/-- The program rolls what a text describes, and prints the session. -/
theorem roll_of_parse {settings : Settings} (parsed : Notation.parse text = .ok settings)
    (program : Program) (mode : Mode) :
    program.roll (.asking text mode) =
      ({ program.log (Notation.journal text) with
        die := (settings.roll mode program.die).2 } : Program).printSession
          (settings.roll mode program.die).1 true := by
  -- The words are joined before they are read, and here there is one.
  have expression : (RollOptions.asking text mode).expression = [text] := rfl
  simp only [roll, expression, joinWith, parsed, modeOf_asking]
  rfl

/-- A session whose numbers have numerals is printed without marks, and its record behind it. -/
theorem printSession_eq {session : Session}
    (short : HaveNumerals session.displayed)
    (dumped : session.record.dump = .ok session.record.write) (program : Program) :
    program.printSession session true =
      ((program.print
        (joinWith ['\n'] (session.texts (Roll.diceWithin session.printLimit) .plain))).print
          session.record.write, .success) := by
  -- The display is the standard one, without emphasis.
  have displayed := @Session.display_eq .plain session short 4000 2000
  rw [Frames.markup_plain] at displayed
  have rendered : session.render .standard .plain (some "session".toList) =
      .ok ⟨joinWith ['\n'] (session.texts (Roll.diceWithin session.printLimit) .plain),
        some session.record⟩ := by
    rw [Session.render, Display.standard, displayed]
    rfl
  simp only [printSession, if_pos, rendered, dumped]

end Program

/-- What is no notation is refused alike. -/
theorem refusedAlike_of_parse_error {error : NotationError} (visible : trim text ≠ [])
    (other : trim text ∉ eyeWords) (failed : Notation.parse text = .error error)
    (program : Program) (room : Room) (caller : Caller) (mode : Mode) (failures : List Failure)
    (stack : Stack) :
    RefusedAlike program room (program.roll (.asking text mode))
      (room.serve ⟨caller, .dice (.recording mode) text, failures, stack⟩) failures.head? text
      error.message := by
  -- The expression is neither empty nor a word for an eye roll, so the reader decides.
  have wish := (DiceCommand.recording mode).wish_of_parse_error visible other failed
  have turn : room.turn ⟨caller, .dice (.recording mode) text, failures, stack⟩ =
      ⟨room, expressionRecords text, .ok (.only (refusal error))⟩ := by
    simp only [Room.turn, Room.rollTurn, wish]
  obtain ⟨title, before, after, color, opening, ending, framed⟩ := exists_refusal
  rw [Program.roll_of_parse_error failed]
  -- Both sides hand on the message of the one error.
  exact {
    exit := rfl
    errors := rfl
    output := rfl
    reply := by
      refine ⟨title, before, after, color, opening, ending, ?_⟩
      rw [← framed]
      exact Room.head?_serve (by rw [turn, Sending.only])
    dice := ⟨rfl, by rw [Room.serve_fst, turn]⟩ }

/-- What is notation is rolled alike. -/
theorem rolledAlike_of_parse {settings : Settings} (parsed : Notation.parse text = .ok settings)
    {program : Program} {room : Room} {caller : Caller} {single double : Nat}
    (same : program.die = room.die)
    (budgets : (room.store.guild caller.guild).display? = some (.ofWhole single double))
    (mode : Mode) (failures : List Failure) (stack : Stack) :
    ∃ shown document embed, RolledAlike program (program.roll (.asking text mode))
      (room.serve ⟨caller, .dice (.recording mode) text, failures, stack⟩) failures.head? single double
      (settings.roll mode room.die).1 shown document embed := by
  -- The settings are small, so what is sent and printed has all its numerals.
  have notated := Notation.isNotated_of_parse parsed
  have short := Session.haveNumerals_roll notated mode room.die
  have dumped := notated.dump_record mode room.die
  have sending := notated.sending_eq budgets mode room.die true rfl
  have wish := DiceCommand.wish_recording parsed mode
  let exchange : Exchange := ⟨caller, .dice (.recording mode) text, failures, stack⟩
  have outcome : (room.turn exchange).outcome =
      (settings.roll mode room.die).1.sending (room.store.guild caller.guild) true := by
    simp only [exchange, Room.turn, Room.rollTurn, wish]
  -- The turn leaves the die behind the rolls.
  have answered : (room.serve exchange).1.die = (settings.roll mode room.die).2 := by
    rw [Room.serve_fst]
    simp only [exchange, Room.turn, Room.rollTurn, wish]
  have printed := Program.roll_of_parse parsed program mode
  rw [same] at printed
  -- From here on the session matters only through its lines and its record.
  generalize (settings.roll mode room.die).1 = session at short dumped sending outcome printed ⊢
  rw [Program.printSession_eq short dumped] at printed
  -- Neither frame breaks a line, so both texts split into the lines of the session.
  have plain := @Session.splitOnChar_texts .plain
    (Frames.isInline_of_mem_known (by simp [Frames.known])) session session.printLimit
  have framed := Session.splitOnChar_texts Frames.isInline_discord session
    (session.frameLimit single double)
  rw [printed]
  refine ⟨joinWith ['\n'] (session.texts (Roll.diceWithin session.printLimit) .plain),
    session.record.write, ⟨session.title, joinWith ['\n']
      (session.texts (Roll.diceWithin (session.frameLimit single double)) .discord), rollColor⟩, ?_⟩
  exact {
    exit := rfl
    dice := answered.symm
    output := by simp [Program.print, Program.log]
    reply := Room.head?_serve (outcome.trans sending)
    record := dumped
    printedLines := plain
    framedLines := framed
    totals := ⟨by rw [plain, session.getLast?_texts], by rw [framed, session.getLast?_texts]⟩
    -- A budget that no line exceeds cuts nothing in either frame.
    uncut := by
      intro within
      rw [plain, framed]
      exact ⟨Session.texts_congr (fun roll known => Roll.diceWithin_of_le (within roll known).1) _,
        Session.texts_congr (fun roll known => Roll.diceWithin_of_le (within roll known).2) _⟩ }

/-- From the same die, the command line and the chat refuse a text alike or roll it alike. -/
theorem Program.roll_agrees {program : Program} {room : Room} {caller : Caller}
    {single double : Nat} (visible : trim text ≠ []) (other : trim text ∉ eyeWords)
    (same : program.die = room.die)
    (budgets : (room.store.guild caller.guild).display? = some (.ofWhole single double))
    (mode : Mode) (failures : List Failure) (stack : Stack) :
    let printed := program.roll (.asking text mode)
    let answered := room.serve ⟨caller, .dice (.recording mode) text, failures, stack⟩
    (∃ error, Notation.parse text = .error error ∧
      RefusedAlike program room printed answered failures.head? text error.message) ∨
    ∃ settings, Notation.parse text = .ok settings ∧
      room.die.Drew answered.1.die (settings.draws mode) ∧
      ∃ shown document embed, RolledAlike program printed answered failures.head? single double
        (settings.roll mode room.die).1 shown document embed := by
  intro printed answered
  cases parsed : Notation.parse text with
  -- An expression that is refused is refused alike.
  | error error =>
    exact .inl ⟨error, rfl, refusedAlike_of_parse_error visible other parsed _ _ _ mode failures
      stack⟩
  | ok settings =>
    -- A parsed one is rolled from the same die on both sides.
    have alike := rolledAlike_of_parse parsed same budgets mode failures stack
    -- The draws of the exchange are those of the settings.
    have rolls : Exchange.roll? ⟨caller, .dice (.recording mode) text, failures, stack⟩ =
        some (settings, mode) :=
      DiceCommand.roll?_eq_some_iff.mpr ⟨true, DiceCommand.wish_recording parsed mode⟩
    have drew := room.drew_next ⟨caller, .dice (.recording mode) text, failures, stack⟩
    rw [Exchange.draws, rolls] at drew
    exact .inr ⟨settings, rfl, drew, alike⟩

/-- Both show the higher of two totals where the chat does not get its first answer through. -/
theorem Program.roll_agrees_higher :
    let text := " 2d6 + 1 Fire ".toList
    let disk : Disk := ⟨.plain [], []⟩
    let program := Program.start disk (.cycling #[5, 0, 3, 1]) []
    let room : Room := ⟨.standard "config.json".toList, disk, .cycling #[5, 0, 3, 1]⟩
    let failure : Failure := ⟨[], "HTTPException".toList, "500".toList⟩
    let caller : Caller := ⟨some 7, false⟩
    trim text ≠ [] ∧ trim text ∉ eyeWords ∧ program.die = room.die ∧
      (room.store.guild caller.guild).display? = some (.ofWhole (4000 : Nat) (2000 : Nat)) ∧
      ∃ session shown document embed,
        RolledAlike program (program.roll (.asking text .advantage))
          (room.serve ⟨caller, .dice .advantageData text, [failure], .ofLevels 1 4⟩) (some failure)
          4000 2000 session shown document embed ∧
        (splitOnChar '\n' shown).getLast? = some "Your final roll is: 🎲 8 🎲".toList ∧
        (splitOnChar '\n' embed.description).getLast? =
          some "Your final roll is: 🎲 **8** 🎲".toList := by
  intro text disk program room failure caller
  have visible : trim text ≠ [] := by decide
  have other : trim text ∉ eyeWords := by decide
  have budgets : (room.store.guild caller.guild).display? =
      some (.ofWhole (4000 : Nat) (2000 : Nat)) := rfl
  have read : Notation.parse text = .ok ⟨2, 6, some 1, some "Fire".toList⟩ := by decide
  -- The general law says that the line is refused or rolled.
  obtain ⟨error, failed, -⟩ | ⟨settings, parsed, -, shown, document, embed, alike⟩ :=
    @Program.roll_agrees text program room caller 4000 2000 visible other rfl budgets .advantage
      [failure] (.ofLevels 1 4)
  · -- It is not refused, for the expression is well formed.
    cases read.symm.trans failed
  · -- The session is the one the law gives, so only its two totals are worked out here.
    obtain rfl := Except.ok.inj (read.symm.trans parsed)
    exact ⟨visible, other, rfl, budgets, _, shown, document, embed, alike,
      alike.totals.1.trans (by decide), alike.totals.2.trans (by decide)⟩

end DiceChat
