import DiceChat.CommandLine.Program
import DiceChat.Proofs.CommandLine.Line
import DiceChat.Proofs.Config.Reopen

/-! Starting the bot: a token given by a flag comes before the surroundings, but a file with a token only
where they have no token. -/

namespace DiceChat

/-- The value of the last use of a flag. -/
def lastGiven? (uses : List Use) (flag : Flag) : Option Given :=
  (uses.reverse.find? fun use => use.flag = flag).map Use.value

/-- One use more is the last one of its flag. -/
theorem lastGiven?_append_singleton (uses : List Use) (use : Use) (flag : Flag) :
    lastGiven? (uses ++ [use]) flag =
      if use.flag = flag then some use.value else lastGiven? uses flag := by
  by_cases same : use.flag = flag <;> simp [lastGiven?, same]

/-- A text that may be missing is empty where it is. -/
theorem orEmpty_map_text (text : Option Text) : Given.orEmpty (text.map .text) = text.getD [] := by
  cases text <;> rfl

namespace BotOptions

/-- The token is that of the last use of its flag, if there is any. -/
theorem token_applyAll (options : BotOptions) (uses : List Use) :
    (options.applyAll uses).token = (lastGiven? uses .botToken).or options.token := by
  -- Each use either sets the token or leaves it.
  induction uses using List.reverseRecOn with
  | nil => rfl
  | append_singleton uses use ih =>
    obtain ⟨flag, value⟩ := use
    rw [applyAll_append, lastGiven?_append_singleton]
    cases flag <;> simp [applyAll, apply, ← ih]

/-- The file with the token is that of the last use of its flag, if there is any. -/
theorem tokenFile_applyAll (options : BotOptions) (uses : List Use) :
    (options.applyAll uses).tokenFile = (lastGiven? uses .botTokenFile).or options.tokenFile := by
  -- Each use either sets the path or leaves it.
  induction uses using List.reverseRecOn with
  | nil => rfl
  | append_singleton uses use ih =>
    obtain ⟨flag, value⟩ := use
    rw [applyAll_append, lastGiven?_append_singleton]
    cases flag <;> simp [applyAll, apply, ← ih]

end BotOptions

namespace Program

/-- The program when it looks for the token, with its store, or why it breaks off before. -/
def prepare (program : Program) (stack : Stack) (config : Given) :
    Program × Except ProgramError Store :=
  match openConfig stack config program.disk with
  | (disk, .error error) => ({ program with disk := disk }, .error (.config error))
  | (disk, .ok store) =>
    match { program with disk := disk }.configureLogging store.globals with
    | (program, some error) => (program, .error (.logging error))
    | (program, none) => (program.log [tokenRecord], .ok store)

/-- What comes of starting the bot with a token that is looked for on the disk as it is by then. -/
inductive Launch (program : Program) (config : Given) (fate : Fate)
    (source : Disk → Except TokenError Text) : Program × Except ProgramError Exit → Prop where
  /-- The program breaks off before the token is looked for, and starts nothing. -/
  | broken {after : Program} {error : ProgramError}
      (failed : (program.prepare fate.stack config).2 = .error error)
      (same : after.started = program.started) : Launch program config fate source (after, .error error)
  /-- There is no token, and nothing is started. -/
  | tokenless {after : Program} {store : Store} {error : TokenError}
      (ready : (program.prepare fate.stack config).2 = .ok store)
      (missing : source (program.prepare fate.stack config).1.disk = .error error)
      (same : after.started = program.started) :
      Launch program config fate source (after, .ok .failure)
  /-- One bot is started, with the token, and the program ends as the work of the bot does. -/
  | started {after : Program} {store : Store} {token : Text} {start : Start}
      (ready : (program.prepare fate.stack config).2 = .ok store)
      (found : source (program.prepare fate.stack config).1.disk = .ok token)
      (with_token : start.token = token) (one : after.started = program.started ++ [start]) :
      Launch program config fate source (after, exitAfter fate.ending)

/-- What is logged starts nothing. -/
@[simp] theorem started_log (program : Program) (records : List LogRecord) :
    (program.log records).started = program.started :=
  rfl

/-- One bot is started, with the given token, and the program ends as its work does. -/
theorem started_startBot {program after : Program} {bot : Bot} {token : Text} {ending : Ending}
    {exit : Except ProgramError Exit} (ran : program.startBot bot token ending = (after, exit)) :
    exit = exitAfter ending ∧
      ∃ start, start.token = token ∧ after.started = program.started ++ [start] := by
  obtain ⟨rfl, rfl⟩ := Prod.mk.inj ran
  exact ⟨rfl, ⟨token, bot.commandPrefix, (sortCommands commandInfos).map CommandInfo.name⟩, rfl, rfl⟩

/-- The program breaks off where it is prepared, or it goes on to look for the token. -/
theorem run_cases (program : Program) (options : BotOptions) (fate : Fate) :
    (∃ after error, program.prepare fate.stack options.config = (after, .error error) ∧
      program.run options fate = (after, .error error) ∧ after.started = program.started) ∨
    ∃ ready store after exit,
      program.prepare fate.stack options.config = (Program.log ready [tokenRecord], .ok store) ∧
      ready.runBot store options fate.ending = (after, exit) ∧
      program.run options fate = (after, exit) ∧ ready.started = program.started := by
  cases opened : openConfig fate.stack options.config program.disk with
  | mk disk found =>
    cases found with
    | error error =>
      -- The configuration cannot be opened, and the program ends with its error.
      exact .inl ⟨{ program with disk := disk }, .config error, by rw [prepare, opened],
        by rw [run, opened], rfl⟩
    | ok store =>
      -- The logger is configured on the disk that opening the configuration left.
      cases configured : { program with disk := disk }.configureLogging store.globals with
      | mk ready failed =>
        -- Configuring the logger starts no client.
        have kept : ready.started = program.started := by
          rw [configureLogging] at configured
          rw [← (Prod.mk.inj configured).1]
        cases failed with
        | some error =>
          -- The log file cannot be opened.
          exact .inl ⟨ready, .logging error, by simp only [prepare, opened, configured],
            by simp only [run, opened, configured], kept⟩
        | none =>
          -- Everything is ready, and the bot is run.
          cases ran : ready.runBot store options fate.ending with
          | mk after exit =>
            exact .inr ⟨ready, store, after, exit, by simp only [prepare, opened, configured], ran,
              by simp only [run, opened, configured, ran], kept⟩

/-- The bot is started with the token that its options lead to. -/
theorem launch_run (program : Program) (options : BotOptions) (fate : Fate) :
    program.Launch options.config fate
      (fun disk => findToken disk options.token options.tokenFile) (program.run options fate) := by
  obtain ⟨after, error, prepared, result, kept⟩ | ⟨ready, store, after, exit, prepared, ran, result, kept⟩ :=
    program.run_cases options fate
  · -- The preparation failed, so no token was looked for.
    rw [result]
    exact .broken (by rw [prepared]) kept
  · rw [result]
    -- The preparation succeeded, and the search goes over the disk it left.
    have found : (program.prepare fate.stack options.config).2 = .ok store := by rw [prepared]
    have disk : (program.prepare fate.stack options.config).1.disk =
        (ready.log [tokenRecord]).disk := by rw [prepared]
    -- What is found on this disk decides between the two ways to go on.
    simp only [runBot] at ran
    cases search : findToken (ready.log [tokenRecord]).disk options.token options.tokenFile with
    -- No token: the program gives up without a client.
    | error error =>
      rw [search] at ran
      obtain ⟨rfl, rfl⟩ := Prod.mk.inj ran
      exact .tokenless found (by rw [disk, search]) (by simpa using kept)
    | ok token =>
      -- With a token the client is started once.
      rw [search] at ran
      obtain ⟨rfl, start, with_token, one⟩ := started_startBot ran
      exact .started found (by rw [disk, search]) with_token (by rw [one, started_log, kept])

/-- Without a roll to make, the bot is run. -/
theorem perform_eq_run {invocation : Invocation} (bot : ∀ roll, invocation.command ≠ .roll roll)
    (program : Program) (fate : Fate) :
    program.perform invocation fate = program.run invocation.options fate := by
  -- A command that is not a roll is none or that of the bot.
  rw [perform]
  split
  · rfl
  · rfl
  · rename_i roll rolls
    exact absurd rolls (bot roll)

/-- Where the token of a bot comes from, by the flags that are used and by what the surroundings hold. -/
structure TokenSources (environment : Environment) (uses : List Use)
    (launches : (Disk → Except TokenError Text) → Prop) : Prop where
  /-- A token that is given by a flag is used, whatever the surroundings hold. -/
  flagged : ∀ token, token ≠ [] → lastGiven? uses .botToken = some (.text token) →
    launches fun _ => .ok token
  /-- A file that is given by a flag is read where the surroundings have no token. -/
  file : lastGiven? uses .botToken = none →
    ∀ path, path ≠ [] → lastGiven? uses .botTokenFile = some (.text path) →
      environment.token.getD [] = [] → launches fun disk => readToken disk path
  /-- A token of the surroundings is used in place of a file that is given by a flag. -/
  overruled : lastGiven? uses .botToken = none →
    ∀ path, path ≠ [] → lastGiven? uses .botTokenFile = some (.text path) →
      ∀ token, token ≠ [] → environment.token = some token → launches fun _ => .ok token
  /-- The surroundings decide where neither flag is given. -/
  surroundings : lastGiven? uses .botToken = none → lastGiven? uses .botTokenFile = none →
    launches fun disk =>
      findToken disk (environment.token.map .text) (environment.tokenFile.map .text)

variable {environment : Environment} {arguments : List Text} {invocation : Invocation}

/-- A token that is given by a flag is the one the bot is started with, on every system and whatever its files hold; a
file that is given so counts only where the surroundings have no token. -/
theorem launch_perform (accepted : Invocation.read environment arguments = .ok invocation)
    (bot : ∀ roll, invocation.command ≠ .roll roll) :
    ∃ uses, BotLine arguments uses invocation.command ∧
      (∀ others, BotLine arguments others invocation.command → others = uses) ∧
      ∀ (program : Program) (fate : Fate), TokenSources environment uses fun source =>
        program.Launch invocation.options.config fate source (program.perform invocation fate) := by
  obtain ⟨uses, line, options⟩ := Invocation.botLine_of_read accepted bot
  refine ⟨uses, line, fun others again => line.unique again, ?_⟩
  intro program fate
  -- The bot is run with the options that the line gives.
  have launch := program.launch_run invocation.options fate
  rw [← perform_eq_run bot] at launch
  -- What is looked for depends on the uses of the two flags and on the surroundings.
  have token_eq : invocation.options.token =
      (lastGiven? uses .botToken).or (environment.token.map .text) := by
    rw [options, BotOptions.token_applyAll]
    rfl
  have file_eq : invocation.options.tokenFile =
      (lastGiven? uses .botTokenFile).or (environment.tokenFile.map .text) := by
    rw [options, BotOptions.tokenFile_applyAll]
    rfl
  rw [token_eq, file_eq] at launch
  -- The sources are tried in the order of the search.
  constructor
  case flagged =>
    intro token some_token given
    simpa only [given, Option.some_or, findToken, Given.orEmpty, ne_eq, some_token, not_false_eq_true,
      if_true] using launch
  case file =>
    intro no_token path some_path given unset
    -- An empty token is no better than none.
    have same : (fun disk => findToken disk (environment.token.map .text) (some (.text path))) =
        fun disk => readToken disk path := by
      funext disk
      rw [findToken, orEmpty_map_text, unset, if_neg (not_not_intro rfl), Given.orEmpty,
        if_pos some_path]
    rw [no_token, Option.none_or, given, Option.some_or, same] at launch
    exact launch
  case overruled =>
    intro no_token path _ given token some_token set
    rw [no_token, Option.none_or, given, Option.some_or] at launch
    simpa only [set, Option.map_some, findToken, Given.orEmpty, ne_eq, some_token,
      not_false_eq_true, if_true] using launch
  case surroundings =>
    -- Nothing on the line leaves the two variables.
    intro no_token no_file
    rwa [no_token, Option.none_or, no_file, Option.none_or] at launch

/-- Once the program is prepared and the token is found, one bot is started with it. -/
theorem Launch.started_of_found {program : Program} {config : Given} {fate : Fate}
    {source : Disk → Except TokenError Text} {result : Program × Except ProgramError Exit}
    (launch : program.Launch config fate source result) {store : Store}
    (ready : (program.prepare fate.stack config).2 = .ok store) {token : Text}
    (found : source (program.prepare fate.stack config).1.disk = .ok token) :
    result.2 = exitAfter fate.ending ∧
      ∃ start, start.token = token ∧ result.1.started = program.started ++ [start] := by
  -- The other two ways to end contradict one of the two facts.
  cases launch with
  | broken failed => cases failed.symm.trans ready
  | tokenless _ missing => cases missing.symm.trans found
  | started _ other with_token one =>
    exact ⟨rfl, _, with_token.trans (Except.ok.inj (other.symm.trans found)), one⟩

/-- Once the program is prepared and no token is found, it exits with a failure and starts nothing. -/
theorem Launch.idle_of_missing {program : Program} {config : Given} {fate : Fate}
    {source : Disk → Except TokenError Text} {result : Program × Except ProgramError Exit}
    (launch : program.Launch config fate source result) {store : Store}
    (ready : (program.prepare fate.stack config).2 = .ok store) {error : TokenError}
    (missing : source (program.prepare fate.stack config).1.disk = .error error) :
    result.2 = .ok .failure ∧ result.1.started = program.started := by
  -- The other two ways to end contradict one of the two facts.
  cases launch with
  | broken failed => cases failed.symm.trans ready
  | tokenless _ _ same => exact ⟨rfl, same⟩
  | started _ found => cases found.symm.trans missing

/-- Where the configuration is there and asks for no log file, the disk stays as it is until the token is
looked for. -/
theorem prepare_of_no_log {program : Program} {stack : Stack} {config : Given} {store : Store}
    {level : JsonText} {severity : Severity}
    (opened : openConfig stack config program.disk = (program.disk, .ok store))
    (no_log : store.globals.logFile.isEmpty = true) (named : store.globals.logLevel = .string level)
    (known : Severity.ofJsonText level = .ok severity) :
    (program.prepare stack config).2 = .ok store ∧
      (program.prepare stack config).1.disk = program.disk := by
  have configured : program.configureLogging store.globals =
      ({ program with logging := ⟨⟨severity, none⟩, true⟩ }, none) := by
    simp only [configureLogging, Logging.configure, named, known, no_log, if_true]
  have prepared : program.prepare stack config =
      (Program.log { program with logging := ⟨⟨severity, none⟩, true⟩ } [tokenRecord], .ok store) := by
    simp only [prepare, opened, configured]
  rw [prepared]
  refine ⟨rfl, ?_⟩
  -- A record goes to the console or nowhere.
  simp only [log, Logging.writeAll, Logging.write, Logging.ready, if_true]
  split <;> rfl

/-- A configuration file that asks for no log. -/
def silentText : Text := "\x7b\"global\": \x7b\"log_file\": null\x7d\x7d".toList

/-- The store that is opened from such a file. -/
def silentStore (path : Text) : Store :=
  { Store.standard path with globals := { GlobalConfig.standard with logFile := .null } }

/-- Where the configuration asks for no log, it is opened and the disk stays as it is. -/
theorem prepare_silent {disk : Disk} {path slot : Text} (kept : disk.Keeps path slot)
    (held : disk.file? slot = some (.text silentText)) (die : Die) (time : Text) :
    ((start disk die time).prepare (.ofLevels 1 4) (.text path)).2 = .ok (silentStore path) ∧
      ((start disk die time).prepare (.ofLevels 1 4) (.text path)).1.disk = disk := by
  let document : Json :=
    .object [(.whole "global".toList, .object [(.whole "log_file".toList, .null)])]
  -- The text is read and merged as it stands; its one field replaces the standard log.
  have parsed : Json.readWithin ⟨some maxNumeralDigits, some 4⟩ silentText = .ok document := by
    -- The reader's work is a small closed term here, so it is computed.
    unfold silentText document
    cbv
  have read : (Store.standard path).readDocument (.ofLevels 1 4) disk = .ok document := by
    have within : Store.fileLimits (.ofLevels 1 4) = ⟨some maxNumeralDigits, some 4⟩ := rfl
    rw [Store.readDocument_text (by decide) kept held, within, parsed]
    rfl
  have merged : (Store.standard path).merge document = (silentStore path, none) := rfl
  have opened : Store.openAt (.ofLevels 1 4) path disk = (disk, .ok (silentStore path)) :=
    (Store.openAt_eq_ok_iff kept held).mpr ⟨rfl, document, read, merged⟩
  -- No file is named, so the logger needs only its threshold.
  have known : Severity.ofJsonText (.whole "INFO".toList) = .ok .info := by decide
  exact prepare_of_no_log opened rfl rfl known

/-- The disk of a system that holds a configuration without a log, and a token file in a folder. -/
def tokenDisk (system : System) (body : Body) : Disk :=
  ⟨system, [("config.json".toList, .text silentText), ("secrets/t.txt".toList, body)]⟩

/-- A token file given before and behind the name of the command: the last one counts, whatever the empty token and the
other file of the surroundings are. A bot is started if the file can be read, and none if it cannot. -/
theorem launch_perform_file :
    let config : Text := "config.json".toList
    let path : Text := "secrets/t.txt".toList
    let denied : FileFault := { number := 13, reason := "Permission denied".toList }
    let barred : System := .ofTable [] [(encodeUtf8 config, .file { slot := config }),
      (encodeUtf8 path, .file { slot := path, reading := some denied })]
    let environment : Environment := ⟨some [], some "other.txt".toList⟩
    let arguments := ["--bot-token-file=old.txt".toList, "run".toList, "--bot-token-file".toList, path]
    let invocation : Invocation := ⟨⟨some (.text []), some (.text path), false, .text config⟩, .run⟩
    let fate : Fate := ⟨.ofLevels 1 4, .finished⟩
    let performed := fun system =>
      (Program.start (tokenDisk system (.text "abc\n".toList)) (.seeded 0) []).perform invocation fate
    Invocation.read environment arguments = .ok invocation ∧
      (∀ roll, invocation.command ≠ .roll roll) ∧
      ((performed (.plain [config, path])).2 = .ok .success ∧
        ∃ start, start.token = "abc".toList ∧
          (performed (.plain [config, path])).1.started = [start]) ∧
      (performed barred).2 = .ok .failure ∧ (performed barred).1.started = [] := by
  intro config path denied barred environment arguments invocation fate performed
  -- The line names the file once before the command and once behind it.
  have accepted : Invocation.read environment arguments = .ok invocation := by decide
  have bot : ∀ roll, invocation.command ≠ .roll roll := fun roll same => by cases same
  obtain ⟨uses, -, only, sources⟩ := launch_perform accepted bot
  have role : roleOf Flag.ofBot "--bot-token-file=old.txt".toList =
      .ok (.flag .botTokenFile (some "old.txt".toList)) := by decide
  have own : FlagRow ["--bot-token-file=old.txt".toList]
      [⟨.botTokenFile, .ofAttached "old.txt".toList⟩] := .attached role rfl .none
  have others : FlagRow ["--bot-token-file".toList, path] [⟨.botTokenFile, .text path⟩] :=
    .apart (by decide) rfl (by decide) .none
  obtain rfl := only _ (.run own others)
  -- The two systems differ in nothing but the right to read the file.
  have launches (system : System) :
      Launch (Program.start (tokenDisk system (.text "abc\n".toList)) (.seeded 0) [])
        (.text config) fate (fun disk => readToken disk path) (performed system) :=
    (sources _ fate).file rfl path (by decide) rfl rfl
  refine ⟨accepted, bot, ?_, ?_⟩
  · -- The file can be read, and its text without the line end is the token.
    let disk := tokenDisk (.plain [config, path]) (.text "abc\n".toList)
    obtain ⟨ready, same⟩ := @prepare_silent disk config config rfl rfl (.seeded 0) []
    have token : readToken disk path = .ok "abc".toList := by decide
    exact (launches _).started_of_found ready (by rw [same, token])
  · -- Reading is refused, so there is no token.
    let disk := tokenDisk barred (.text "abc\n".toList)
    obtain ⟨ready, same⟩ := @prepare_silent disk config config rfl rfl (.seeded 0) []
    have token : readToken disk path =
        .error (.file (.refused denied (tidyPath path))) := by decide
    exact (launches _).idle_of_missing ready (by rw [same, token])

/-- The token of the surroundings is used although a flag gives a file with another one. -/
theorem started_surroundings_token :
    let config : Text := "config.json".toList
    let path : Text := "t.txt".toList
    let disk : Disk := ⟨.plain [config, path],
      [(config, .text silentText), (path, .text "filetoken".toList)]⟩
    let environment : Environment := ⟨some "envtoken".toList, none⟩
    let arguments := ["run".toList, "--bot-token-file".toList, path]
    let invocation : Invocation :=
      ⟨⟨some (.text "envtoken".toList), some (.text path), false, .text config⟩, .run⟩
    let result := (Program.start disk (.seeded 0) []).perform invocation ⟨.ofLevels 1 4, .finished⟩
    Invocation.read environment arguments = .ok invocation ∧
      readToken disk path = .ok "filetoken".toList ∧ result.2 = .ok .success ∧
      ∃ start, start.token = "envtoken".toList ∧ result.1.started = [start] := by
  intro config path disk environment arguments invocation result
  -- The line is accepted with both, for the token of the surroundings is its default.
  have accepted : Invocation.read environment arguments = .ok invocation := by decide
  have token : readToken disk path = .ok "filetoken".toList := by decide
  -- The options lead to the token of the surroundings before the file is looked at.
  have launch : Launch (Program.start disk (.seeded 0) []) (.text config) ⟨.ofLevels 1 4, .finished⟩
      (fun disk => findToken disk (some (.text "envtoken".toList)) (some (.text path))) result :=
    launch_run _ invocation.options _
  obtain ⟨ready, same⟩ := @prepare_silent disk config config rfl rfl (.seeded 0) []
  have found : findToken disk (some (.text "envtoken".toList)) (some (.text path)) =
      .ok "envtoken".toList := rfl
  exact ⟨accepted, token, launch.started_of_found ready (by rw [same, found])⟩

end Program

end DiceChat
