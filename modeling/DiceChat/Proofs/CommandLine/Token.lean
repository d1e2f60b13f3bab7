import DiceChat.Proofs.CommandLine.Preparation
import DiceChat.Proofs.Text.Blank

/-! The search for the token: where it is looked for, what can be wrong there, and how the program ends with a token
and without one. -/

namespace DiceChat

/-- The text that a flag stands for: the one it was last used with, or else the one of the surroundings; empty where
there is neither. -/
def chosenText (environment : Environment) (uses : List Use) (flag : Flag) : Text :=
  Given.orEmpty ((lastGiven? uses flag).or ((environment.defaults flag).map .text))

/-- The token that the options lead to is the text that its flag stands for. -/
theorem orEmpty_token (environment : Environment) (uses : List Use) :
    Given.orEmpty ((BotOptions.standard environment).applyAll uses).token =
      chosenText environment uses .botToken := by
  rw [BotOptions.token_applyAll]
  rfl

/-- The path that the options lead to is the text that its flag stands for. -/
theorem orEmpty_tokenFile (environment : Environment) (uses : List Use) :
    Given.orEmpty ((BotOptions.standard environment).applyAll uses).tokenFile =
      chosenText environment uses .botTokenFile := by
  rw [BotOptions.tokenFile_applyAll]
  rfl

/-- What comes of looking for a token that is given as a text or as the path of a file. -/
inductive TokenSearch (disk : Disk) (direct path : Text) : Except TokenError Text → Prop where
  /-- The token is given as a text. -/
  | given (some_direct : direct ≠ []) : TokenSearch disk direct path (.ok direct)
  /-- Neither a text nor a file is given. -/
  | notGiven (no_direct : direct = []) (no_path : path = []) :
      TokenSearch disk direct path (.error .notGiven)
  /-- The file is missing, it is a folder, or it cannot be opened for another reason. -/
  | unopened {error : FileError} (no_direct : direct = []) (some_path : path ≠ [])
      (failed : disk.open? (tidyPath path) = .error error) :
      TokenSearch disk direct path (.error (.file error))
  /-- The file is not UTF-8. -/
  | undecoded {body : Body} {error : Utf8Error} (no_direct : direct = []) (some_path : path ≠ [])
      (opened : disk.open? (tidyPath path) = .ok body) (failed : body.decoded = .error error) :
      TokenSearch disk direct path (.error (.encoding error))
  /-- The token is what the file holds between the blanks around it. -/
  | read {body : Body} {text : Text} (no_direct : direct = []) (some_path : path ≠ [])
      (opened : disk.open? (tidyPath path) = .ok body) (decoded : body.decoded = .ok text) :
      TokenSearch disk direct path (.ok (trim (unifyLineEnds text)))

/-- Other line ends are as blank as the ones before. -/
theorem allBlank_unifyLineEnds (text : Text) : AllBlank (unifyLineEnds text) ↔ AllBlank text := by
  -- A line end is blank in every spelling.
  have feed : isBlank '\n' = true := by decide
  have carriage : isBlank '\r' = true := by decide
  fun_induction unifyLineEnds text with
  | case1 => rfl
  | case2 rest ih => simpa [AllBlank, feed, carriage] using ih
  | case3 rest _ ih => simpa [AllBlank, feed, carriage] using ih
  | case4 c rest _ _ ih => simpa [AllBlank] using fun _ => ih

/-- A token file is opened, read as text, and trimmed. -/
theorem readToken_eq (disk : Disk) (path : Text) :
    readToken disk path =
      match disk.open? (tidyPath path) with
      | .error error => .error (.file error)
      | .ok body =>
        match body.decoded with
        | .error error => .error (.encoding error)
        | .ok text => .ok (trim (unifyLineEnds text)) := by
  -- Opening may fail first, and decoding behind it.
  rw [readToken]
  cases disk.open? (tidyPath path) with
  | error error => rfl
  | ok body =>
    simp only [Except.mapError, Body.read, bind, Except.bind]
    cases body.decoded <;> rfl

namespace TokenSearch

variable {disk : Disk} {direct path : Text}

/-- The search finds what the program finds. -/
theorem iff_findToken {token file : Option Given} {outcome : Except TokenError Text} :
    TokenSearch disk (Given.orEmpty token) (Given.orEmpty file) outcome ↔
      findToken disk token file = outcome := by
  constructor
  · -- Each rule says what the function tests, in the same order.
    intro search
    cases search with
    | given some_direct => simp [findToken, some_direct]
    | notGiven no_direct no_path => simp [findToken, no_direct, no_path]
    | unopened no_direct some_path failed => simp [findToken, no_direct, some_path, readToken_eq, failed]
    | undecoded no_direct some_path opened failed =>
      simp [findToken, no_direct, some_path, readToken_eq, opened, failed]
    | read no_direct some_path opened decoded =>
      simp [findToken, no_direct, some_path, readToken_eq, opened, decoded]
  · -- The tests of the function choose the rule.
    rintro rfl
    by_cases some_direct : Given.orEmpty token ≠ []
    · rw [findToken, if_pos some_direct]
      exact .given some_direct
    · have no_direct := not_not.mp some_direct
      rw [findToken, if_neg some_direct]
      by_cases some_path : Given.orEmpty file ≠ []
      · -- The file decides; it is opened first and decoded then.
        rw [if_pos some_path, readToken_eq]
        cases opened : disk.open? (tidyPath (Given.orEmpty file)) with
        | error error => exact .unopened no_direct some_path opened
        | ok body =>
          dsimp only
          cases decoded : body.decoded with
          | error error => exact .undecoded no_direct some_path opened decoded
          | ok text => exact .read no_direct some_path opened decoded
      · rw [if_neg some_path]
        exact .notGiven no_direct (not_not.mp some_path)

/-- The token that is found is empty exactly if it is read from a file that holds nothing but blanks. -/
theorem ok_nil_iff : TokenSearch disk direct path (.ok []) ↔
    direct = [] ∧ path ≠ [] ∧ ∃ body text, disk.open? (tidyPath path) = .ok body ∧
      body.decoded = .ok text ∧ AllBlank text := by
  constructor
  · -- A given token is not empty, so it was read, and what trims to nothing is blank.
    intro search
    generalize empty : (Except.ok [] : Except TokenError Text) = outcome at search
    cases search with
    | given some_direct => exact absurd (Except.ok.inj empty).symm some_direct
    | read no_direct some_path opened decoded =>
      have blank := trim_eq_nil_iff.mp (Except.ok.inj empty).symm
      exact ⟨no_direct, some_path, _, _, opened, decoded, (allBlank_unifyLineEnds _).mp blank⟩
    | notGiven | unopened | undecoded => cases empty
  · -- The blanks are trimmed away, and nothing else is there.
    rintro ⟨no_direct, some_path, body, text, opened, decoded, blank⟩
    have empty := trim_eq_nil_iff.mpr ((allBlank_unifyLineEnds text).mpr blank)
    rw [← empty]
    exact .read no_direct some_path opened decoded

/-- The search depends on what is read at the path of the file, and on nothing else on the disk. -/
theorem of_open? {other : Disk} {outcome : Except TokenError Text}
    (same : other.open? (tidyPath path) = disk.open? (tidyPath path))
    (search : TokenSearch disk direct path outcome) : TokenSearch other direct path outcome := by
  -- Only what is read at the path enters a search.
  cases search with
  | given some_direct => exact .given some_direct
  | notGiven no_direct no_path => exact .notGiven no_direct no_path
  | unopened no_direct some_path failed => exact .unopened no_direct some_path (same.trans failed)
  | undecoded no_direct some_path opened failed =>
    exact .undecoded no_direct some_path (same.trans opened) failed
  | read no_direct some_path opened decoded =>
    exact .read no_direct some_path (same.trans opened) decoded

/-- Two disks on which the same is read at the path give the same token. -/
theorem congr {other : Disk} {outcome : Except TokenError Text}
    (same : other.open? (tidyPath path) = disk.open? (tidyPath path)) :
    TokenSearch other direct path outcome ↔ TokenSearch disk direct path outcome :=
  ⟨of_open? same.symm, of_open? same⟩

end TokenSearch

/-- An error passes every threshold but the highest one. -/
theorem Severity.passes_error {threshold : Severity} (low : threshold ≠ .critical) :
    error.passes threshold = true := by
  -- Nothing is more severe than an error but what stops everything.
  cases threshold with
  | critical => exact absurd rfl low
  | debug | info | warning | error => rfl

namespace Program

/-- The line that tells why there is no token. -/
def tokenlessLine (time : Text) (error : TokenError) : Text :=
  time ++ " - DiceBot - ERROR - 錯誤：".toList ++ error.message ++ "\n".toList

/-- The record that there is no token reads like this. -/
theorem line_tokenlessRecord (time : Text) (error : TokenError) :
    (tokenlessRecord error).line time = tokenlessLine time error := by
  -- Name, severity and colon of the record stand together in the line.
  have opening : " - DiceBot - ERROR - 錯誤：".toList =
      " - DiceBot - ".toList ++ "ERROR".toList ++ " - ".toList ++ "錯誤：".toList := rfl
  rw [LogRecord.line_eq, tokenlessLine, opening, show (tokenlessRecord error).behind = [] from rfl,
    show (tokenlessRecord error).severity.name = "ERROR".toList from rfl,
    show (tokenlessRecord error).message = "錯誤：".toList ++ error.message from rfl]
  simp only [List.append_assoc, List.nil_append]

/-- Without a token the program logs an error and exits with one; nothing is started. -/
structure GivesUp (program ready : Program) (store : Store) (error : TokenError)
    (result : Program × Except ProgramError Exit) : Prop where
  /-- The console shows the error, unless the configuration says that only what stops everything is written. -/
  shown : Severity.ofJson? store.globals.logLevel ≠ some .critical →
    result.1.errors = ready.errors ++ tokenlessLine program.time error
  /-- So does the log file, if there is one. -/
  filed : Severity.ofJson? store.globals.logLevel ≠ some .critical →
    ∀ log, Logging.fileOf program.disk.system store.globals.logFile = some log →
      result.1.disk = ready.disk.log log (tokenlessLine program.time error)
  /-- Nothing is started. -/
  idle : result.1.started = program.started
  /-- The program exits with one. -/
  exit : result.2.map Exit.code = .ok 1

/-- With a token the program starts one bot and ends as the work of the bot does. -/
structure StartsOnce (program : Program) (token : Text) (ending : Ending)
    (result : Program × Except ProgramError Exit) : Prop where
  /-- One bot is started, with the token. -/
  started : ∃ start, start.token = token ∧ result.1.started = program.started ++ [start]
  /-- The program exits with one where the platform fails the bot. -/
  failed : ∀ failure, ending = .failed failure → result.2.map Exit.code = .ok 1
  /-- It exits with zero where the work is over or interrupted. -/
  done : ending = .finished ∨ ending = .interrupted → result.2.map Exit.code = .ok 0
  /-- What nobody is prepared for breaks the program off. -/
  crashed : ∀ failure, ending = .crashed failure → result.2 = .error (.bot failure)

/-- How a prepared program ends, by what its search for a token finds. -/
structure EndsAsFound (program : Program) (config : Given) (store : Store) (direct path : Text)
    (fate : Fate) (result : Program × Except ProgramError Exit) : Prop where
  /-- The search finds one thing, on the disk as it is by then. -/
  decided : ∃! outcome, TokenSearch (program.prepare fate.stack config).1.disk direct path outcome
  /-- Without a token the program gives up. -/
  tokenless : ∀ error,
    TokenSearch (program.prepare fate.stack config).1.disk direct path (.error error) →
      program.GivesUp (program.prepare fate.stack config).1 store error result
  /-- With a token it starts the bot, even if the token is empty. -/
  started : ∀ token,
    TokenSearch (program.prepare fate.stack config).1.disk direct path (.ok token) →
      program.StartsOnce token fate.ending result
  /-- An empty token is read from a file that holds nothing but blanks, and found in no other way. -/
  empty : TokenSearch (program.prepare fate.stack config).1.disk direct path (.ok []) ↔
    direct = [] ∧ path ≠ [] ∧ ∃ body text,
      (program.prepare fate.stack config).1.disk.open? (tidyPath path) = .ok body ∧
        body.decoded = .ok text ∧ AllBlank text
  /-- A token file that the program has not written itself is read as it was given. -/
  untouched : (∀ slot, program.disk.system.slot? (tidyPath path) = some slot →
      ¬program.Writes config store slot) →
    ∀ outcome, TokenSearch (program.prepare fate.stack config).1.disk direct path outcome ↔
      TokenSearch program.disk direct path outcome

/-- A record that passes is shown, and goes to the log file if there is one. -/
theorem log_of_passes {program : Program} {severity : Severity} {file : Option Text}
    {record : LogRecord} (logging : program.logging = ⟨⟨severity, file⟩, true⟩)
    (passing : record.severity.passes severity = true) :
    (program.log [record]).errors = program.errors ++ record.line program.time ∧
      ∀ name, file = some name →
        (program.log [record]).disk = program.disk.log name (record.line program.time) := by
  have ready : program.logging.ready = ⟨⟨severity, file⟩, true⟩ := by
    rw [logging]
    exact Logging.ready_of_chosen rfl
  -- One record is written once, to both places.
  simp only [log, Logging.writeAll, Logging.write, ready, passing, if_true]
  cases file with
  | none => simp
  | some log => simp

/-- Logging the error and doing nothing else is giving up. -/
theorem givesUp_log {program : Program} {stack : Stack} {config : Given} {store : Store}
    (prepared : (program.prepare stack config).2 = .ok store)
    (kept : (program.prepare stack config).1.started = program.started) (error : TokenError) :
    program.GivesUp (program.prepare stack config).1 store error
      ((program.prepare stack config).1.log [tokenlessRecord error], .ok .failure) := by
  obtain ⟨severity, accepted, logging⟩ := logging_prepare prepared
  -- The record tells of an error, so it passes a threshold that is not the highest.
  have written (low : Severity.ofJson? store.globals.logLevel ≠ some .critical) :=
    @log_of_passes _ _ _ (tokenlessRecord error) logging
      (Severity.passes_error fun highest => low (by rw [accepted, highest]))
  rw [line_tokenlessRecord, time_prepare prepared] at written
  exact {
    shown := fun low => (written low).1
    filed := fun low => (written low).2
    idle := kept
    exit := rfl }

/-- Starting a bot starts one, and the program ends as its work does. -/
theorem startsOnce_startBot {program ready after : Program} {bot : Bot} {token : Text}
    {ending : Ending} {exit : Except ProgramError Exit} (kept : ready.started = program.started)
    (ran : ready.startBot bot token ending = (after, exit)) :
    program.StartsOnce token ending (after, exit) := by
  -- How the program ends is told by the ending alone.
  obtain ⟨rfl, start, with_token, one⟩ := started_startBot ran
  exact {
    started := ⟨start, with_token, by rw [one, kept]⟩
    failed := fun failure fails => by rw [fails]; rfl
    done := fun ended => by rcases ended with ended | ended <;> rw [ended] <;> rfl
    crashed := fun failure crashes => by rw [crashes]; rfl }

/-- A prepared program looks for the token, and gives up without it or starts the bot with it. -/
theorem run_of_prepare {program : Program} {options : BotOptions} {store : Store} {fate : Fate}
    (prepared : (program.prepare fate.stack options.config).2 = .ok store) :
    let ready := (program.prepare fate.stack options.config).1
    let found := findToken ready.disk options.token options.tokenFile
    (∀ error, found = .error error →
      program.GivesUp ready store error (program.run options fate)) ∧
      ∀ token, found = .ok token → program.StartsOnce token fate.ending (program.run options fate) := by
  obtain ⟨after, error, failed, -⟩ | ⟨before, store', after, exit, split, ran, result, kept⟩ :=
    program.run_cases options fate
  · -- The preparation succeeded, so this case does not occur.
    rw [failed] at prepared
    cases prepared
  · -- The program that is ready is the one that logged the record about the token.
    have ready : (program.prepare fate.stack options.config).1 = before.log [tokenRecord] := by
      rw [split]
    have started : (program.prepare fate.stack options.config).1.started = program.started := by
      rw [ready]
      exact kept
    -- From here on the bot is run by the prepared program.
    rw [runBot, ← ready] at ran
    rw [result]
    constructor
    · -- Without a token the error is logged and nothing is started.
      intro error missing
      rw [missing] at ran
      obtain ⟨rfl, rfl⟩ := Prod.mk.inj ran
      exact givesUp_log prepared started error
    · -- With a token the client is started by the program that is ready.
      intro token found
      rw [found] at ran
      exact startsOnce_startBot started ran

/-- However the program ends, it has started one bot at most. -/
theorem Launch.atMostOnce {program : Program} {config : Given} {fate : Fate}
    {source : Disk → Except TokenError Text} {result : Program × Except ProgramError Exit}
    (launch : program.Launch config fate source result) :
    ∃ starts, starts.length ≤ 1 ∧ result.1.started = program.started ++ starts := by
  -- Only one of the three ways to end starts anything.
  cases launch with
  | broken _ same | tokenless _ _ same => exact ⟨[], Nat.zero_le 1, by rw [same, List.append_nil]⟩
  | started _ _ _ one => exact ⟨[_], Nat.le_refl 1, one⟩

variable {environment : Environment} {arguments : List Text} {invocation : Invocation}

/-- The bot is started at most once. A prepared program logs an error and exits with one where no token is found;
otherwise it starts the bot with the token, even with an empty one, which only a file of blanks can give. -/
theorem perform_tokenSearch (accepted : Invocation.read environment arguments = .ok invocation)
    (bot : ∀ roll, invocation.command ≠ .roll roll) :
    ∃ uses, BotLine arguments uses invocation.command ∧
      (∀ others, BotLine arguments others invocation.command → others = uses) ∧
      ∀ (program : Program) (fate : Fate),
        (∃ starts, starts.length ≤ 1 ∧
          (program.perform invocation fate).1.started = program.started ++ starts) ∧
        ∀ store, (program.prepare fate.stack invocation.options.config).2 = .ok store →
          program.EndsAsFound invocation.options.config store
            (chosenText environment uses .botToken) (chosenText environment uses .botTokenFile) fate
            (program.perform invocation fate) := by
  obtain ⟨uses, line, options⟩ := Invocation.botLine_of_read accepted bot
  refine ⟨uses, line, fun others again => line.unique again, ?_⟩
  intro program fate
  rw [perform_eq_run bot]
  refine ⟨(program.launch_run invocation.options fate).atMostOnce, ?_⟩
  intro store prepared
  -- The two flags decide what is looked for, and the search finds what the program finds.
  have finds_iff (outcome : Except TokenError Text) :
      TokenSearch (program.prepare fate.stack invocation.options.config).1.disk
          (chosenText environment uses .botToken) (chosenText environment uses .botTokenFile) outcome ↔
        findToken (program.prepare fate.stack invocation.options.config).1.disk
          invocation.options.token invocation.options.tokenFile = outcome := by
    rw [← TokenSearch.iff_findToken, options, orEmpty_token, orEmpty_tokenFile]
  obtain ⟨gives_up, starts⟩ := run_of_prepare prepared
  exact {
    decided := ⟨_, (finds_iff _).mpr rfl, fun other found => ((finds_iff other).mp found).symm⟩
    tokenless := fun error missing => gives_up error ((finds_iff _).mp missing)
    started := fun token found => starts token ((finds_iff _).mp found)
    empty := TokenSearch.ok_nil_iff
    untouched := fun apart _ => TokenSearch.congr (open?_prepare prepared apart) }

/-- The program gives up on a token file that it may not read and on one that is no text, and starts a bot with the token
in one; the surroundings name the file, which lies in a folder, beside an empty token. -/
theorem perform_tokenSearch_file :
    let config : Text := "config.json".toList
    let path : Text := "secrets/t.txt".toList
    let denied : FileFault := { number := 13, reason := "Permission denied".toList }
    let barred : System := .ofTable [] [(encodeUtf8 config, .file { slot := config }),
      (encodeUtf8 path, .file { slot := path, reading := some denied })]
    let environment : Environment := ⟨some [], some path⟩
    let arguments := ["run".toList]
    let invocation : Invocation := ⟨⟨some (.text []), some (.text path), false, .text config⟩, .run⟩
    let failure : Failure := ⟨[], "discord.errors.GatewayNotFound".toList, "no gateway".toList⟩
    let begin := fun system body => start (tokenDisk system body) (.seeded 0) []
    let performed := fun system body ending =>
      (begin system body).perform invocation ⟨.ofLevels 1 4, ending⟩
    let plain : System := .plain [config, path]
    Invocation.read environment arguments = .ok invocation ∧
      (∀ roll, invocation.command ≠ .roll roll) ∧
      GivesUp (begin barred (.text "abc".toList))
        ((begin barred (.text "abc".toList)).prepare (.ofLevels 1 4) (.text config)).1
        (silentStore config) (.file (.refused denied (.whole path)))
        (performed barred (.text "abc".toList) .finished) ∧
      GivesUp (begin plain (.bytes [0xFF]))
        ((begin plain (.bytes [0xFF])).prepare (.ofLevels 1 4) (.text config)).1
        (silentStore config) (.encoding ⟨.start, 0xFF, 0, 1⟩)
        (performed plain (.bytes [0xFF]) .finished) ∧
      StartsOnce (begin plain (.text "abc\n".toList)) "abc".toList (.failed failure)
        (performed plain (.text "abc\n".toList) (.failed failure)) := by
  intro config path denied barred environment arguments invocation failure begin performed plain
  have accepted : Invocation.read environment arguments = .ok invocation := by decide
  have bot : ∀ roll, invocation.command ≠ .roll roll := fun roll same => by cases same
  obtain ⟨uses, -, only, ends⟩ := perform_tokenSearch accepted bot
  -- No flag stands on the line, so nothing but the surroundings counts.
  obtain rfl := only _ (.run .none .none)
  have found (system : System) (body : Body) (ending : Ending)
      (kept : (tokenDisk system body).Keeps config config) :
      EndsAsFound (begin system body) (.text config) (silentStore config) [] path
        ⟨.ofLevels 1 4, ending⟩ (performed system body ending) :=
    (ends (begin system body) ⟨.ofLevels 1 4, ending⟩).2 _
      (prepare_silent kept rfl (.seeded 0) []).1
  -- The prepared disk is replaced as a whole; computing it would read the configuration again.
  have same (system : System) (body : Body) (kept : (tokenDisk system body).Keeps config config) :
      ((begin system body).prepare (.ofLevels 1 4) (.text config)).1.disk = tokenDisk system body :=
    (prepare_silent kept rfl (.seeded 0) []).2
  refine ⟨accepted, bot, ?_, ?_, ?_⟩
  · -- The system refuses to open the file.
    refine (found barred (.text "abc".toList) .finished rfl).tokenless _ ?_
    rw [same barred _ rfl]
    exact .unopened rfl (by decide) (by decide)
  · -- The file opens, but its byte is no text.
    refine (found plain (.bytes [0xFF]) .finished rfl).tokenless _ ?_
    rw [same plain _ rfl]
    exact .undecoded rfl (by decide) rfl (by decide)
  · -- The file is read, and the client fails afterwards.
    have token : trim (unifyLineEnds "abc\n".toList) = "abc".toList := by decide
    refine (found plain (.text "abc\n".toList) (.failed failure) rfl).started _ ?_
    rw [same plain _ rfl, ← token]
    exact .read rfl (by decide) rfl rfl

/-- A file that holds nothing but blanks starts a bot with an empty token. -/
theorem started_blank_file :
    let config : Text := "config.json".toList
    let path : Text := "t.txt".toList
    let disk : Disk := ⟨.plain [config, path],
      [(config, .text silentText), (path, .text " \n".toList)]⟩
    let environment : Environment := ⟨none, none⟩
    let arguments := ["run".toList, "--bot-token-file".toList, path]
    let invocation : Invocation := ⟨⟨none, some (.text path), false, .text config⟩, .run⟩
    let result := (start disk (.seeded 0) []).perform invocation ⟨.ofLevels 1 4, .finished⟩
    Invocation.read environment arguments = .ok invocation ∧ AllBlank " \n".toList ∧
      result.2.map Exit.code = .ok 0 ∧ ∃ start, start.token = [] ∧ result.1.started = [start] := by
  intro config path disk environment arguments invocation result
  have accepted : Invocation.read environment arguments = .ok invocation := by decide
  have blank : AllBlank " \n".toList := trim_eq_nil_iff.mp (by decide)
  obtain ⟨ready, same⟩ := @prepare_silent disk config config rfl rfl (.seeded 0) []
  -- The file is opened and decoded, and nothing is left of it.
  have found : findToken disk none (some (.text path)) = .ok [] := by decide
  have ends := @run_of_prepare _ invocation.options _ ⟨.ofLevels 1 4, .finished⟩ ready
  dsimp only [invocation] at ends
  rw [same] at ends
  have started : StartsOnce (start disk (.seeded 0) []) [] .finished result := ends.2 [] found
  exact ⟨accepted, blank, started.done (.inl rfl), started.started⟩

end Program

end DiceChat
