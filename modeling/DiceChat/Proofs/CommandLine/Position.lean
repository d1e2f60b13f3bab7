import DiceChat.Proofs.CommandLine.Start

/-! The flags of the bot before and behind the name of the command: where they stand matters only for two flags that
exclude each other, because each side is looked through for such flags by itself. -/

namespace DiceChat

/-- Two of the flags exclude each other, and both count. -/
def Clash (defaults : Defaults) (uses : List Use) : Prop :=
  ∃ one ∈ uses, ∃ other ∈ uses, one.flag.rival? = some other.flag ∧ one.counts defaults = true ∧
    other.counts defaults = true

/-- What excludes a flag is excluded by it. -/
theorem Flag.rival?_comm {flag other : Flag} :
    flag.rival? = some other ↔ other.rival? = some flag := by
  cases flag <;> cases other <;> decide

/-- No flag excludes itself. -/
theorem Flag.rival?_ne_self (flag : Flag) : flag.rival? ≠ some flag := by
  cases flag <;> decide

/-- Without uses there is no clash. -/
theorem not_clash_nil (defaults : Defaults) : ¬Clash defaults [] :=
  fun ⟨_, member, _⟩ => nomatch member

/-- More uses do not undo a clash. -/
theorem Clash.mono {defaults : Defaults} {uses more : List Use} (clash : Clash defaults uses)
    (within : uses ⊆ more) : Clash defaults more := by
  obtain ⟨one, one_used, other, other_used, rest⟩ := clash
  exact ⟨one, within one_used, other, within other_used, rest⟩

namespace Scan

variable {defaults : Defaults}

/-- A use has a rival before it exactly if it makes the first clash. -/
theorem isSome_rivalBefore?_iff {prior : List Use} (peaceful : ¬Clash defaults prior) (use : Use) :
    (rivalBefore? defaults prior use).isSome = true ↔ Clash defaults (prior ++ [use]) := by
  have found : (rivalBefore? defaults prior use).isSome = true ↔ use.counts defaults = true ∧
      ∃ earlier ∈ prior, use.flag.rival? = some earlier.flag ∧ earlier.counts defaults = true := by
    -- A use that does not count has no rival; one that counts has it among the earlier ones.
    rw [rivalBefore?]
    cases use.counts defaults with
    | false => simp
    | true =>
      cases use.flag.rival? with
      | none => simp
      | some rival => simp [Option.isSome_filter, eq_comm (a := rival)]
  rw [found]
  constructor
  · -- The rival before and the use behind it are the two that clash.
    rintro ⟨counts, earlier, member, rival, earlier_counts⟩
    exact ⟨use, List.mem_append_right _ List.mem_cons_self, earlier, List.mem_append_left _ member,
      rival, counts, earlier_counts⟩
  · rintro ⟨one, one_used, other, other_used, rival, one_counts, other_counts⟩
    simp only [List.mem_append, List.mem_singleton] at one_used other_used
    -- The two uses are not both among the earlier ones, and they are not the same one.
    rcases one_used with one_used | rfl
    · rcases other_used with other_used | rfl
      · exact absurd ⟨one, one_used, other, other_used, rival, one_counts, other_counts⟩ peaceful
      · exact ⟨other_counts, one, one_used, Flag.rival?_comm.mp rival, one_counts⟩
    · rcases other_used with other_used | rfl
      · exact ⟨one_counts, other, other_used, rival, other_counts⟩
      · exact absurd rival (Flag.rival?_ne_self _)

/-- Uses without a clash are all accepted, and otherwise some use is refused for its rival. -/
theorem foldlM_use {scan : Scan} (ready : scan.waiting = none) (peaceful : ¬Clash defaults scan.uses)
    (uses : List Use) :
    (¬Clash defaults (scan.uses ++ uses) →
      uses.foldlM (Scan.use defaults) scan = .ok { scan with uses := scan.uses ++ uses }) ∧
    (Clash defaults (scan.uses ++ uses) →
      ∃ flag rival, uses.foldlM (Scan.use defaults) scan = .error (.usage (.rivals flag rival))) := by
  -- Every use is accepted up to the first clash.
  induction uses generalizing scan with
  | nil =>
    rw [List.append_nil]
    exact ⟨fun _ => rfl, fun clash => absurd clash peaceful⟩
  | cons use rest ih =>
    have split : scan.uses ++ use :: rest = (scan.uses ++ [use]) ++ rest := by simp
    rw [List.foldlM_cons, split]
    have first := isSome_rivalBefore?_iff peaceful use
    cases rival : rivalBefore? defaults scan.uses use with
    | some earlier =>
      -- The use clashes with one before it, so the scan stops here whatever follows.
      have clash : Clash defaults (scan.uses ++ [use]) := first.mp (by rw [rival]; rfl)
      have refused : scan.use defaults use = .error (.usage (.rivals use.flag earlier)) := by
        rw [Scan.use, rival]
      rw [refused]
      exact ⟨fun none => absurd (clash.mono (List.subset_append_left _ _)) none,
        fun _ => ⟨use.flag, earlier, rfl⟩⟩
    | none =>
      -- The use is accepted, and the rest is scanned with it among the earlier ones.
      have still : ¬Clash defaults (scan.uses ++ [use]) := by
        rw [← first, rival]
        exact Bool.false_ne_true
      have accepted : scan.use defaults use = .ok { scan with uses := scan.uses ++ [use] } := by
        rw [Scan.use, rival, ready]
      rw [accepted]
      exact @ih { scan with uses := scan.uses ++ [use] } ready still

/-- What follows a use only has to agree where no value is awaited. -/
theorem bind_use_congr {scan : Scan} {use : Use} {next other : Scan → Except Stop Scan}
    (same : ∀ after, after.waiting = none → after.phase = scan.phase → next after = other after) :
    (scan.use defaults use >>= next) = scan.use defaults use >>= other := by
  -- A use that is accepted is only remembered, so the scan is still where it was.
  cases used : scan.use defaults use with
  | error stop => rfl
  | ok after =>
    obtain rfl := use_eq_ok used
    exact same _ rfl rfl

/-- Where there cannot be an expression, a flag with its value attached is used. -/
theorem step_attached {scan : Scan} (free : scan.waiting = none) (behind : scan.phase = .behind)
    {flag : Flag} (takes : flag.takesValue = true) (argument value : Text) :
    scan.step defaults ⟨argument, .flag flag (some value)⟩ =
      scan.use defaults ⟨flag, .ofAttached value⟩ := by
  simp [step, Scan.free, pause, Scan.flag, free, behind, takes]

/-- A flag whose value is to come waits for it. -/
theorem step_awaiting {scan : Scan} (free : scan.waiting = none) (behind : scan.phase = .behind)
    {flag : Flag} (takes : flag.takesValue = true) (argument : Text) :
    scan.step defaults ⟨argument, .flag flag none⟩ = .ok { scan with waiting := some flag } := by
  simp [step, Scan.free, pause, Scan.flag, free, behind, takes]

/-- The value that is awaited is used. -/
theorem step_value (scan : Scan) (flag : Flag) (value : Text) :
    Scan.step defaults { scan with waiting := some flag } ⟨value, .plain⟩ =
      scan.use defaults ⟨flag, .text value⟩ := by
  simp only [step, if_true, Scan.use]

/-- A flag without a value is used, unless it asks for help. -/
theorem step_bare {scan : Scan} (free : scan.waiting = none) (behind : scan.phase = .behind)
    {flag : Flag} (takes : flag.takesValue = false) (other : flag ≠ .help) (argument : Text) :
    scan.step defaults ⟨argument, .flag flag none⟩ = scan.use defaults ⟨flag, .blank⟩ := by
  simp [step, Scan.free, pause, Scan.flag, free, behind, takes, other]

end Scan

/-- What the words of flags are to the readers of a command line. -/
structure RowWords (arguments : List Text) (uses : List Use) (words : List Word) : Prop where
  /-- The arguments are read as the words, in front of any others. -/
  read : ∀ rest others, readWords Flag.ofBot rest = .ok others →
    readWords Flag.ofBot (arguments ++ rest) = .ok (words ++ others)
  /-- The name of the command is found behind them. -/
  split : ∀ others, splitCommand false (words ++ ⟨runName, .plain⟩ :: others) =
    (words, ⟨runName, .plain⟩ :: others)
  /-- Scanning the words comes down to their uses. -/
  scan : ∀ (defaults : Defaults) (scan : Scan), scan.waiting = none → scan.phase = .behind →
    words.foldlM (Scan.step defaults) scan = uses.foldlM (Scan.use defaults) scan

/-- Flags other than that for help are read as words. -/
theorem FlagRow.exists_words {arguments : List Text} {uses : List Use} (row : FlagRow arguments uses)
    (helpless : ∀ use ∈ uses, use.flag ≠ .help) : ∃ words, RowWords arguments uses words := by
  -- Each flag makes one word or two, and the words of the others follow.
  induction row with
  | none =>
    exact ⟨[], fun rest others read => read, fun others => by simp [splitCommand],
      fun defaults scan _ _ => rfl⟩
  | @attached argument value flag rest uses role takes _ ih =>
    -- An attached value: one word, which awaits nothing.
    obtain ⟨words, read, split, scan⟩ :=
      ih fun use member => helpless use (List.mem_cons_of_mem _ member)
    refine ⟨⟨argument, .flag flag (some value)⟩ :: words, ?_, ?_, ?_⟩
    · intro behind others others_read
      exact readWords_cons_iff.mpr ⟨_, _, role, rfl, .inr ⟨by simp, read _ _ others_read⟩⟩
    · intro others
      have awaits : Word.awaits ⟨argument, .flag flag (some value)⟩ = false := rfl
      rw [List.cons_append, splitCommand, if_neg (by simp), awaits, split]
    · intro defaults start free behind
      rw [List.foldlM_cons, List.foldlM_cons, Scan.step_attached free behind takes]
      exact Scan.bind_use_congr fun after still phase => scan _ _ still (phase.trans behind)
  | @apart argument value flag rest uses role takes plain _ ih =>
    -- A value apart: two words, of which the second is taken by the first.
    obtain ⟨words, read, split, scan⟩ :=
      ih fun use member => helpless use (List.mem_cons_of_mem _ member)
    refine ⟨⟨argument, .flag flag .none⟩ :: ⟨value, .plain⟩ :: words, ?_, ?_, ?_⟩
    · intro behind others others_read
      refine readWords_cons_iff.mpr ⟨_, _, role, rfl, .inr ⟨by simp, ?_⟩⟩
      exact readWords_cons_iff.mpr ⟨_, _, plain, rfl, .inr ⟨by simp, read _ _ others_read⟩⟩
    · intro others
      have awaits : Word.awaits ⟨argument, .flag flag .none⟩ = true := takes
      have given : Word.awaits ⟨value, .plain⟩ = false := rfl
      rw [List.cons_append, splitCommand, if_neg (by simp), awaits, List.cons_append, splitCommand,
        if_neg (by simp), given, split]
    · intro defaults start free behind
      -- The flag waits for a single step, and then it is used like one with its value attached.
      have value_next :
          (⟨argument, .flag flag .none⟩ :: ⟨value, .plain⟩ :: words).foldlM (Scan.step defaults) start =
            Scan.step defaults { start with waiting := some flag } ⟨value, .plain⟩ >>=
              words.foldlM (Scan.step defaults) := by
        rw [List.foldlM_cons, Scan.step_awaiting free behind takes]
        rfl
      rw [value_next, Scan.step_value, List.foldlM_cons]
      exact Scan.bind_use_congr fun after still phase => scan _ _ still (phase.trans behind)
  | @bare argument flag rest uses role takes _ ih =>
    -- A flag without value: one word again, but it must not be the one for help.
    obtain ⟨words, read, split, scan⟩ :=
      ih fun use member => helpless use (List.mem_cons_of_mem _ member)
    have other : flag ≠ .help := helpless _ List.mem_cons_self
    refine ⟨⟨argument, .flag flag .none⟩ :: words, ?_, ?_, ?_⟩
    · intro behind others others_read
      exact readWords_cons_iff.mpr ⟨_, _, role, rfl, .inr ⟨by simp, read _ _ others_read⟩⟩
    · intro others
      have awaits : Word.awaits ⟨argument, .flag flag .none⟩ = false := takes
      rw [List.cons_append, splitCommand, if_neg (by simp), awaits, split]
    · intro defaults start free behind
      rw [List.foldlM_cons, List.foldlM_cons, Scan.step_bare free behind takes other]
      exact Scan.bind_use_congr fun after still phase => scan _ _ still (phase.trans behind)

/-- A command line is refused because two of its flags exclude each other. -/
def IsRivalry {α : Type} (outcome : Except Stop α) : Prop :=
  ∃ flag rival, outcome = .error (.usage (.rivals flag rival))

/-- What is refused before something else is refused with it. -/
theorem IsRivalry.bind {α β : Type} {first : Except Stop α} (refused : IsRivalry first)
    (next : α → Except Stop β) : IsRivalry (first >>= next) := by
  obtain ⟨flag, rival, rfl⟩ := refused
  exact ⟨flag, rival, rfl⟩

namespace RowWords

variable {arguments : List Text} {uses : List Use} {words : List Word} {defaults : Defaults}

/-- Flags without a clash are scanned to their uses. -/
theorem ofWords_eq (row : RowWords arguments uses words) (peaceful : ¬Clash defaults uses) :
    Scan.ofWords defaults .behind words = .ok { Scan.start .behind with uses := uses } := by
  -- Without a clash the uses are collected one by one, and nothing waits at the end.
  have ready : (Scan.start .behind).waiting = none := rfl
  have folded := (Scan.foldlM_use ready (not_clash_nil defaults) uses).1 peaceful
  rw [Scan.ofWords, row.scan defaults (Scan.start .behind) rfl rfl, folded]
  rfl

/-- Flags with a clash are refused. -/
theorem isRivalry_ofWords (row : RowWords arguments uses words) (clash : Clash defaults uses) :
    IsRivalry (Scan.ofWords defaults .behind words) := by
  -- The first use that clashes ends the scan.
  have ready : (Scan.start .behind).waiting = none := rfl
  obtain ⟨flag, rival, folded⟩ := (Scan.foldlM_use ready (not_clash_nil defaults) uses).2 clash
  exact ⟨flag, rival, by rw [Scan.ofWords, row.scan defaults (Scan.start .behind) rfl rfl, folded]; rfl⟩

/-- Flags alone are read as their words. -/
theorem read_alone (row : RowWords arguments uses words) :
    readWords Flag.ofBot arguments = .ok words := by
  simpa using row.read [] [] rfl

end RowWords

/-- A command line that runs the bot is scanned on both sides of the name of the command, each for itself. -/
theorem Invocation.read_rows (environment : Environment) {before behind : List Text}
    {first second : List Use} {own others : List Word} (own_row : RowWords before first own)
    (others_row : RowWords behind second others) :
    read environment (before ++ runName :: behind) = (do
      let scan ← Scan.ofWords environment.defaults .behind own
      let last ← Scan.ofWords (fun _ => none) .behind others
      withoutExtras ⟨((BotOptions.standard environment).applyAll scan.uses).applyAll last.uses, .run⟩
        (scan.extras ++ last.extras)) := by
  have named : readWords Flag.ofBot (runName :: behind) = .ok (⟨runName, .plain⟩ :: others) :=
    readWords_cons_iff.mpr ⟨.plain, others, rfl, rfl, .inr ⟨by simp, others_row.read_alone⟩⟩
  -- The words of the command tell the arguments that were given.
  have texts : others.map Word.text = behind := map_text_readWords others_row.read_alone
  -- From its name on, the command takes the other flags as they were given.
  have from_name : ∀ (options : BotOptions) (extras : List Text),
      readCommand options extras (⟨runName, .plain⟩ :: others) = (do
        let last ← Scan.ofWords (fun _ => none) .behind others
        withoutExtras ⟨options.applyAll last.uses, .run⟩ (extras ++ last.extras)) := by
    intro options extras
    have running : readCommand options extras (⟨runName, .plain⟩ :: others) =
        readRun options extras (others.map Word.text) := rfl
    rw [running, readRun, Scan.ofArguments, texts, others_row.read_alone]
    rfl
  -- So the line splits at the name, and the flags before it are scanned first.
  rw [read, own_row.read _ _ named]
  simp only [Except.mapError, Bind.bind, Except.bind, own_row.split, from_name]

/-- A command line that runs the bot is accepted, with the options after all its flags, unless there is a clash on one
side of the name of the command. -/
theorem Invocation.read_run (environment : Environment) {before behind : List Text}
    {first second : List Use} (own_row : FlagRow before first) (others_row : FlagRow behind second)
    (helpless : ∀ use ∈ first ++ second, use.flag ≠ .help) :
    (¬Clash environment.defaults first → ¬Clash (fun _ => none) second →
      read environment (before ++ runName :: behind) =
        .ok ⟨(BotOptions.standard environment).applyAll (first ++ second), .run⟩) ∧
    (Clash environment.defaults first ∨ Clash (fun _ => none) second →
      IsRivalry (read environment (before ++ runName :: behind))) := by
  obtain ⟨own, own_words⟩ := own_row.exists_words (List.forall_mem_append.mp helpless).1
  obtain ⟨others, others_words⟩ := others_row.exists_words (List.forall_mem_append.mp helpless).2
  rw [read_rows environment own_words others_words]
  -- The side before the name comes first, and the other one is not looked at if it fails.
  refine ⟨?_, ?_⟩
  · intro peaceful still
    rw [own_words.ofWords_eq peaceful, others_words.ofWords_eq still, BotOptions.applyAll_append]
    rfl
  · intro clash
    by_cases early : Clash environment.defaults first
    · exact (own_words.isRivalry_ofWords early).bind _
    · rw [own_words.ofWords_eq early]
      exact (others_words.isRivalry_ofWords (clash.resolve_left early)).bind _

/-- The arguments that use a flag: its name, and behind it the value if it has one. -/
def Use.arguments : Use → List Text
  | ⟨flag, .text value⟩ => [flag.spelling, value]
  | ⟨flag, .blank⟩ => [flag.spelling]

/-- The arguments that use flags in order. -/
def argumentsOf (uses : List Use) : List Text :=
  uses.flatMap Use.arguments

/-- A flag of the bot is used with a value that starts with no dash, or without a value if it takes none. -/
inductive Use.IsWellFormed : Use → Prop where
  /-- The token is given. -/
  | token {value : Text} (undashed : value.head? ≠ some '-') : IsWellFormed ⟨.botToken, .text value⟩
  /-- The file with the token is given. -/
  | tokenFile {value : Text} (undashed : value.head? ≠ some '-') :
      IsWellFormed ⟨.botTokenFile, .text value⟩
  /-- The commands are to be announced. -/
  | setMyCommands : IsWellFormed ⟨.setMyCommands, .blank⟩
  /-- The configuration is given. -/
  | config {value : Text} (undashed : value.head? ≠ some '-') : IsWellFormed ⟨.config, .text value⟩

/-- Well-formed uses are about the bot, and none asks for help. -/
theorem Use.IsWellFormed.flag_mem {use : Use} (wellFormed : use.IsWellFormed) :
    use.flag ∈ [Flag.botToken, .botTokenFile, .setMyCommands, .config] := by
  cases wellFormed <;> simp

/-- An argument without a dash at its start is a plain word. -/
theorem roleOf_of_undashed {flags : List Flag} {value : Text} (undashed : value.head? ≠ some '-') :
    roleOf flags value = .ok .plain := by
  -- A text that does not begin with a dash is not the separator, which is made of dashes.
  have other : value ≠ separatorText := by
    rintro rfl
    exact undashed rfl
  rw [roleOf, if_neg other, if_pos undashed]

/-- Well-formed uses are flags with their values. -/
theorem flagRow_argumentsOf {uses : List Use} (wellFormed : ∀ use ∈ uses, use.IsWellFormed) :
    FlagRow (argumentsOf uses) uses := by
  -- Each use is a flag and its value, unless it is a flag without one.
  induction uses with
  | nil => exact .none
  | cons use rest ih =>
    obtain ⟨first, others⟩ := List.forall_mem_cons.mp wellFormed
    cases first with
    | token undashed | tokenFile undashed | config undashed =>
      exact .apart rfl rfl (roleOf_of_undashed undashed) (ih others)
    | setMyCommands => exact .bare rfl rfl (ih others)

/-- Both the token and the file with the token are given. -/
def GivesBoth (uses : List Use) : Prop :=
  (∃ use ∈ uses, use.flag = .botToken) ∧ ∃ use ∈ uses, use.flag = .botTokenFile

/-- More uses give no less. -/
theorem GivesBoth.mono {uses more : List Use} (both : GivesBoth uses) (within : uses ⊆ more) :
    GivesBoth more := by
  obtain ⟨⟨one, one_used, token⟩, other, other_used, file⟩ := both
  exact ⟨⟨one, within one_used, token⟩, other, within other_used, file⟩

/-- Flags of the bot clash exactly if both the token and its file are given with values that count. -/
theorem clash_iff {defaults : Defaults} {uses : List Use}
    (wellFormed : ∀ use ∈ uses, use.IsWellFormed) :
    Clash defaults uses ↔ GivesBoth (uses.filter (Use.counts defaults)) := by
  -- Of the flags of the bot, only these two exclude each other.
  have rivals : ∀ flag ∈ [Flag.botToken, .botTokenFile, .setMyCommands, .config],
      ∀ other, flag.rival? = some other →
        flag = .botToken ∧ other = .botTokenFile ∨ flag = .botTokenFile ∧ other = .botToken := by
    intro flag member other
    cases flag <;> cases other <;> revert member <;> decide
  constructor
  · -- Two uses that clash are a token and a file, in one order or the other.
    rintro ⟨one, one_used, other, other_used, rival, one_counts, other_counts⟩
    have one_in := List.mem_filter.mpr ⟨one_used, one_counts⟩
    have other_in := List.mem_filter.mpr ⟨other_used, other_counts⟩
    rcases rivals _ (wellFormed one one_used).flag_mem _ rival with ⟨token, file⟩ | ⟨file, token⟩
    · exact ⟨⟨one, one_in, token⟩, other, other_in, file⟩
    · exact ⟨⟨other, other_in, token⟩, one, one_in, file⟩
  · -- A token and a file that both count are rivals.
    rintro ⟨⟨one, one_in, token⟩, other, other_in, file⟩
    obtain ⟨one_used, one_counts⟩ := List.mem_filter.mp one_in
    obtain ⟨other_used, other_counts⟩ := List.mem_filter.mp other_in
    exact ⟨one, one_used, other, other_used, by rw [token, file]; rfl, one_counts, other_counts⟩

/-- Behind the name of the command there are no defaults, and every value counts. -/
theorem filter_counts_none (uses : List Use) : uses.filter (Use.counts fun _ => none) = uses := by
  refine List.filter_eq_self.mpr fun use _ => ?_
  obtain ⟨flag, value | _⟩ := use <;> rfl

namespace BotOptions

/-- The commands are announced if any use asks for it. -/
theorem setCommands_applyAll (options : BotOptions) (uses : List Use) :
    (options.applyAll uses).setCommands =
      (options.setCommands || uses.any fun use => use.flag = .setMyCommands) := by
  -- Once asked for, it is not taken back by a later use.
  induction uses using List.reverseRecOn with
  | nil => simp [applyAll]
  | append_singleton uses use ih =>
    obtain ⟨flag, value⟩ := use
    rw [applyAll_append, List.any_append]
    cases flag <;> simp [applyAll, apply] <;> simpa [applyAll] using ih

/-- The configuration is that of the last use of its flag, if there is any. -/
theorem config_applyAll (options : BotOptions) (uses : List Use) :
    (options.applyAll uses).config = (lastGiven? uses .config).getD options.config := by
  -- The last use either gives another configuration or leaves it as it was.
  induction uses using List.reverseRecOn with
  | nil => rfl
  | append_singleton uses use ih =>
    obtain ⟨flag, value⟩ := use
    rw [applyAll_append, lastGiven?_append_singleton]
    cases flag <;> simp [applyAll, apply, ← ih]

/-- Of each flag the last use counts, and the surroundings where there is none. -/
theorem applyAll_standard (environment : Environment) (uses : List Use) :
    (standard environment).applyAll uses =
      ⟨(lastGiven? uses .botToken).or (environment.token.map .text),
        (lastGiven? uses .botTokenFile).or (environment.tokenFile.map .text),
        uses.any fun use => use.flag = .setMyCommands,
        (lastGiven? uses .config).getD (.text "config.json".toList)⟩ := by
  -- Each of the four options is set by the uses of its own flag.
  have token := token_applyAll (standard environment) uses
  have file := tokenFile_applyAll (standard environment) uses
  have announced := setCommands_applyAll (standard environment) uses
  have config := config_applyAll (standard environment) uses
  generalize (standard environment).applyAll uses = options at *
  obtain ⟨_, _, _, _⟩ := options
  simp_all [standard]

end BotOptions

/-- What is refused is not accepted. -/
theorem IsRivalry.not_accepted {α : Type} {outcome : Except Stop α} (refused : IsRivalry outcome) :
    ¬∃ value, outcome = .ok value := by
  -- What is refused has no value.
  rintro ⟨value, rfl⟩
  obtain ⟨_, _, equal⟩ := refused
  exact nomatch equal

/-- Flags give the same options before and behind the name of the command, the last use of each; a token beside a file
with a token is refused behind the name, and on either side by itself, but not across it. -/
theorem Invocation.read_position (environment : Environment) {first second : List Use}
    (wellFormed : ∀ use ∈ first ++ second, use.IsWellFormed) :
    let uses := first ++ second
    let options : BotOptions :=
      ⟨(lastGiven? uses .botToken).or (environment.token.map .text),
        (lastGiven? uses .botTokenFile).or (environment.tokenFile.map .text),
        uses.any fun use => use.flag = .setMyCommands,
        (lastGiven? uses .config).getD (.text "config.json".toList)⟩
    let together := read environment (runName :: argumentsOf uses)
    let divided := read environment (argumentsOf first ++ runName :: argumentsOf second)
    let counted := first.filter (Use.counts environment.defaults)
    (¬GivesBoth uses → together = .ok ⟨options, .run⟩) ∧
      (GivesBoth uses → IsRivalry together) ∧
      (¬GivesBoth counted → ¬GivesBoth second → divided = .ok ⟨options, .run⟩) ∧
      (GivesBoth counted ∨ GivesBoth second → IsRivalry divided) ∧
      (((∃ invocation, divided = .ok invocation) ↔ ∃ invocation, together = .ok invocation) ↔
        (GivesBoth uses → GivesBoth counted ∨ GivesBoth second)) := by
  intro uses options together divided counted
  obtain ⟨first_formed, second_formed⟩ := List.forall_mem_append.mp wellFormed
  -- None of these flags asks for help.
  have helpless : ∀ use ∈ uses, use.flag ≠ .help := by
    intro use member help
    have about := (wellFormed use member).flag_mem
    rw [help] at about
    exact absurd about (by decide)
  have applied : (BotOptions.standard environment).applyAll uses = options :=
    BotOptions.applyAll_standard environment uses
  -- Behind the name every use counts, and before it only those that do not repeat a default.
  have before_iff : Clash environment.defaults first ↔ GivesBoth counted := clash_iff first_formed
  have behind_iff : Clash (fun _ => none) second ↔ GivesBoth second := by
    rw [clash_iff second_formed, filter_counts_none]
  have uses_iff : Clash (fun _ => none) uses ↔ GivesBoth uses := by
    rw [clash_iff wellFormed, filter_counts_none]
  have nothing : FlagRow [] [] := FlagRow.none
  -- Both lines are read by the same law, with nothing before the name in the first one.
  obtain ⟨together_read, together_refused⟩ := read_run environment nothing
    (flagRow_argumentsOf wellFormed) helpless
  obtain ⟨divided_read, divided_refused⟩ := read_run environment (flagRow_argumentsOf first_formed)
    (flagRow_argumentsOf second_formed) helpless
  rw [List.nil_append] at together_read together_refused
  rw [applied] at divided_read
  rw [List.nil_append, applied] at together_read
  rw [uses_iff] at together_read together_refused
  rw [before_iff, behind_iff] at divided_read divided_refused
  have read_together := together_read (not_clash_nil _)
  refine ⟨read_together, fun both => together_refused (.inr both), divided_read, divided_refused, ?_⟩
  -- A line is accepted exactly where its rivalry is missing.
  have together_iff : (∃ invocation, together = .ok invocation) ↔ ¬GivesBoth uses :=
    ⟨fun accepted both => (together_refused (.inr both)).not_accepted accepted,
      fun one => ⟨_, read_together one⟩⟩
  have divided_iff : (∃ invocation, divided = .ok invocation) ↔
      ¬(GivesBoth counted ∨ GivesBoth second) :=
    ⟨fun accepted clash => (divided_refused clash).not_accepted accepted,
      fun none => ⟨_, divided_read (fun early => none (.inl early)) fun late => none (.inr late)⟩⟩
  -- What clashes on one side clashes together.
  have within : GivesBoth counted ∨ GivesBoth second → GivesBoth uses := by
    rintro (early | late)
    · exact early.mono fun use member => List.mem_append_left _ (List.mem_filter.mp member).1
    · exact late.mono (List.subset_append_right _ _)
  rw [together_iff, divided_iff, not_iff_not]
  exact ⟨fun same both => same.mpr both, fun across => ⟨within, across⟩⟩

/-- Of two tokens on either side of the name of the command the last one counts, and the other flags are kept. -/
theorem Invocation.read_position_tokens :
    let first : List Use := [⟨.botToken, .text "run".toList⟩, ⟨.config, .text "a.json".toList⟩]
    let second : List Use := [⟨.setMyCommands, .blank⟩, ⟨.botToken, .text "Y".toList⟩]
    let environment : Environment := ⟨none, some "t.txt".toList⟩
    let invocation : Invocation :=
      ⟨⟨some (.text "Y".toList), some (.text "t.txt".toList), true, .text "a.json".toList⟩, .run⟩
    (∀ use ∈ first ++ second, use.IsWellFormed) ∧
      read environment (["--bot-token", "run", "--config", "a.json", "run", "--set-my-commands",
        "--bot-token", "Y"].map String.toList) = .ok invocation ∧
      read environment (["run", "--bot-token", "run", "--config", "a.json", "--set-my-commands",
        "--bot-token", "Y"].map String.toList) = .ok invocation := by
  intro first second environment invocation
  -- Each use is written as the flag and a value that is no flag itself.
  have wellFormed : ∀ use ∈ first ++ second, use.IsWellFormed := by
    intro use member
    simp only [first, second, List.cons_append, List.nil_append, List.mem_cons, List.not_mem_nil,
      or_false] at member
    rcases member with rfl | rfl | rfl | rfl
    · exact .token (by decide)
    · exact .config (by decide)
    · exact .setMyCommands
    · exact .token (by decide)
  -- No token file is given.
  have single : ¬GivesBoth (first ++ second) := by
    rintro ⟨-, use, member, file⟩
    revert use
    decide
  -- The theorem is taken at these uses, which give a token and no file.
  obtain ⟨together, -, divided, -⟩ := read_position environment wellFormed
  refine ⟨wellFormed, divided (fun both => single (both.mono ?_)) (fun both => single (both.mono ?_)),
    together single⟩
  · exact fun use member => List.mem_append_left _ (List.mem_filter.mp member).1
  · exact List.subset_append_right _ _

/-- A token before the name of the command and a file with a token behind it are accepted, although they exclude each
other. -/
theorem Invocation.read_position_apart :
    let first : List Use := [⟨.botToken, .text "X".toList⟩]
    let second : List Use := [⟨.botTokenFile, .text "Y".toList⟩]
    let environment : Environment := ⟨none, none⟩
    (∀ use ∈ first ++ second, use.IsWellFormed) ∧
      read environment (runName :: argumentsOf (first ++ second)) =
        .error (.usage (.rivals .botTokenFile .botToken)) ∧
      read environment (argumentsOf first ++ runName :: argumentsOf second) =
        .ok ⟨⟨some (.text "X".toList), some (.text "Y".toList), false, .text "config.json".toList⟩,
          .run⟩ := by
  intro first second environment
  -- Both lines are read as they stand; what is left is that the uses make sense.
  refine ⟨?_, by decide, by decide⟩
  intro use member
  simp only [first, second, List.cons_append, List.nil_append, List.mem_cons, List.not_mem_nil,
    or_false] at member
  rcases member with rfl | rfl
  · exact .token (by decide)
  · exact .tokenFile (by decide)

end DiceChat
