import DiceChat.CommandLine.Invocation
import DiceChat.Proofs.Outcome
import Mathlib

/-! The command lines that run the bot: flags with their values, and the name of the command among them at most once. -/

namespace DiceChat

/-- Arguments are flags of the bot, each with its value if it takes one; these are their uses, in order. -/
inductive FlagRow : List Text → List Use → Prop where
  /-- There are no arguments. -/
  | none : FlagRow [] []
  /-- The value is attached to the flag. -/
  | attached {argument value : Text} {flag : Flag} {rest : List Text} {uses : List Use}
      (role : roleOf Flag.ofBot argument = .ok (.flag flag (some value)))
      (takes : flag.takesValue = true) (behind : FlagRow rest uses) :
      FlagRow (argument :: rest) (⟨flag, .ofAttached value⟩ :: uses)
  /-- The value is the next argument. -/
  | apart {argument value : Text} {flag : Flag} {rest : List Text} {uses : List Use}
      (role : roleOf Flag.ofBot argument = .ok (.flag flag none)) (takes : flag.takesValue = true)
      (plain : roleOf Flag.ofBot value = .ok .plain) (behind : FlagRow rest uses) :
      FlagRow (argument :: value :: rest) (⟨flag, .text value⟩ :: uses)
  /-- The flag takes no value. -/
  | bare {argument : Text} {flag : Flag} {rest : List Text} {uses : List Use}
      (role : roleOf Flag.ofBot argument = .ok (.flag flag none)) (takes : flag.takesValue = false)
      (behind : FlagRow rest uses) : FlagRow (argument :: rest) (⟨flag, .blank⟩ :: uses)

/-- Arguments from some place on: where a value is awaited it comes first, and then there are flags. -/
inductive FlagRest : Option Flag → List Text → List Use → Prop where
  /-- No value is awaited. -/
  | free {arguments : List Text} {uses : List Use} (row : FlagRow arguments uses) :
      FlagRest none arguments uses
  /-- The value of a flag is awaited. -/
  | awaited {flag : Flag} {value : Text} {rest : List Text} {uses : List Use}
      (plain : roleOf Flag.ofBot value = .ok .plain) (row : FlagRow rest uses) :
      FlagRest (some flag) (value :: rest) (⟨flag, .text value⟩ :: uses)

/-- The name of the command that runs the bot. -/
def runName : Text := "run".toList

/-- A command line runs the bot with these uses of flags. -/
inductive BotLine : List Text → List Use → Command → Prop where
  /-- There are only flags. -/
  | unnamed {arguments : List Text} {uses : List Use} (row : FlagRow arguments uses) :
      BotLine arguments uses .unnamed
  /-- The command is named, with flags before its name and behind it. -/
  | run {before behind : List Text} {first second : List Use} (own : FlagRow before first)
      (others : FlagRow behind second) :
      BotLine (before ++ runName :: behind) (first ++ second) .run

/-- The first argument makes the first word; unless it separates, the others are read alike. -/
theorem readWords_cons_iff {flags : List Flag} {argument : Text} {rest : List Text}
    {words : List Word} :
    readWords flags (argument :: rest) = .ok words ↔
      ∃ role others, roleOf flags argument = .ok role ∧ words = ⟨argument, role⟩ :: others ∧
        (role = .separator ∧ others = rest.map (⟨·, .plain⟩) ∨
          role ≠ .separator ∧ readWords flags rest = .ok others) := by
  -- Behind the separator every argument is a plain word; before it the next one is read in turn.
  rw [readWords, bind_eq_ok_iff]
  refine exists_congr fun role => ?_
  by_cases separates : role = .separator
  · -- A separator is not followed by anything that is read.
    simp [separates, eq_comm]
  · -- Anything else is, and the words behind it are read in turn.
    constructor
    · rintro ⟨role_read, read⟩
      rw [if_neg separates] at read
      obtain ⟨others, others_read, made⟩ := bind_eq_ok_iff.mp read
      exact ⟨others, role_read, (Except.ok.inj made).symm, .inr ⟨separates, others_read⟩⟩
    · rintro ⟨others, role_read, rfl, ⟨separator, -⟩ | ⟨-, others_read⟩⟩
      · exact absurd separator separates
      · refine ⟨role_read, ?_⟩
        rw [if_neg separates, others_read]
        rfl

/-- Words keep the texts of the arguments. -/
theorem map_text_readWords {flags : List Flag} {arguments : List Text} {words : List Word}
    (read : readWords flags arguments = .ok words) : words.map Word.text = arguments := by
  -- Every word keeps its argument, whichever role it was given.
  induction arguments generalizing words with
  | nil =>
    obtain rfl := Except.ok.inj read
    rfl
  | cons argument rest ih =>
    obtain ⟨role, others, -, rfl, ⟨-, rfl⟩ | ⟨-, others_read⟩⟩ := readWords_cons_iff.mp read
    · simp [Function.comp_def]
    · rw [List.map_cons, ih others_read]

/-- Up to the first separator, words are read as if no other arguments followed. -/
theorem readWords_append {flags : List Flag} {arguments : List Text} {own others : List Word}
    (read : readWords flags arguments = .ok (own ++ others))
    (open_words : ∀ word ∈ own, word.role ≠ .separator) :
    ∃ first rest, arguments = first ++ rest ∧ readWords flags first = .ok own ∧
      readWords flags rest = .ok others := by
  -- None of the words before the cut is a separator, so the arguments are cut where the words are.
  induction own generalizing arguments with
  | nil => exact ⟨[], arguments, rfl, rfl, read⟩
  | cons word own ih =>
    cases arguments with
    -- Without arguments there are no words to cut.
    | nil => exact nomatch read
    | cons argument rest =>
      obtain ⟨role, words, role_read, split, ⟨separates, -⟩ | ⟨other, words_read⟩⟩ :=
        readWords_cons_iff.mp read
      · obtain ⟨rfl, -⟩ := List.cons.inj split
        exact absurd separates (open_words _ List.mem_cons_self)
      · obtain ⟨rfl, rfl⟩ := List.cons.inj split
        obtain ⟨first, last, rfl, first_read, last_read⟩ :=
          ih words_read fun word member => open_words word (List.mem_cons_of_mem _ member)
        exact ⟨argument :: first, last, rfl,
          readWords_cons_iff.mpr ⟨role, own, role_read, rfl, .inr ⟨other, first_read⟩⟩, last_read⟩

/-- The words before the command are no separators, and the command is a separator or a plain word. -/
theorem splitCommand_spec (awaited : Bool) (words : List Word) :
    words = (splitCommand awaited words).1 ++ (splitCommand awaited words).2 ∧
      (∀ word ∈ (splitCommand awaited words).1, word.role ≠ .separator) ∧
      ∀ word ∈ (splitCommand awaited words).2.head?, word.role = .separator ∨ word.role = .plain := by
  -- The walk ends at the first word that is a separator, or plain and not awaited by a flag.
  induction words generalizing awaited with
  | nil => simp [splitCommand]
  | cons word rest ih =>
    rw [splitCommand]
    split
    · -- The word ends the walk.
      rename_i command
      refine ⟨rfl, by simp, ?_⟩
      rintro _ ⟨⟩
      exact command.imp_right And.left
    · -- The word is passed, and the rest is split in the same way.
      rename_i other
      obtain ⟨split, open_words, command⟩ := ih word.awaits
      refine ⟨congrArg (List.cons word) split, ?_, command⟩
      exact List.forall_mem_cons.mpr ⟨fun separates => other (.inl separates), open_words⟩

namespace Scan

variable {defaults : Defaults} {scan after : Scan} {word : Word}

/-- What a word does to a scan without an expression. -/
inductive Passes (scan : Scan) (word : Word) : Scan → Prop where
  /-- It means nothing. -/
  | extra {argument : Text} (free : scan.waiting = none) : Passes scan word (scan.extra argument)
  /-- It is a flag with its value. -/
  | attached {flag : Flag} {value : Text} (free : scan.waiting = none)
      (role : word.role = .flag flag (some value)) (takes : flag.takesValue = true) :
      Passes scan word
        { scan with waiting := none, uses := scan.uses ++ [⟨flag, .ofAttached value⟩] }
  /-- It is a flag whose value comes next. -/
  | await {flag : Flag} (free : scan.waiting = none) (role : word.role = .flag flag none)
      (takes : flag.takesValue = true) : Passes scan word { scan with waiting := some flag }
  /-- It is a flag without a value. -/
  | bare {flag : Flag} (free : scan.waiting = none) (role : word.role = .flag flag none)
      (takes : flag.takesValue = false) :
      Passes scan word { scan with waiting := none, uses := scan.uses ++ [⟨flag, .blank⟩] }
  /-- It is the value that is awaited. -/
  | value {flag : Flag} (awaited : scan.waiting = some flag) (plain : word.role = .plain) :
      Passes scan word { scan with waiting := none, uses := scan.uses ++ [⟨flag, .text word.text⟩] }

/-- A use that is accepted is the last one. -/
theorem use_eq_ok {use : Use} (accepted : scan.use defaults use = .ok after) :
    after = { scan with waiting := none, uses := scan.uses ++ [use] } := by
  -- Only a rival keeps a use from being accepted.
  rw [Scan.use] at accepted
  split at accepted
  · exact nomatch accepted
  · exact (Except.ok.inj accepted).symm

/-- Where there cannot be an expression, a word that is accepted does one of few things. -/
theorem passes_of_step (behind : scan.phase = .behind)
    (stepped : scan.step defaults word = .ok after) : Passes scan word after := by
  -- Behind the name of the command nothing pauses the scan.
  have unpaused : scan.pause = scan := by simp [pause, behind]
  rw [step] at stepped
  -- A flag that waits takes a plain word as its value, and nothing else.
  cases waiting : scan.waiting with
  | some flag =>
    simp only [waiting] at stepped
    split at stepped
    · rename_i plain
      rw [use_eq_ok stepped]
      exact .value waiting plain
    · exact nomatch stepped
  -- Without one, the role of the word decides.
  | none =>
    simp only [waiting, free, unpaused, plain, separator, behind] at stepped
    cases role : word.role with
    | plain | separator | unknown =>
      simp only [role] at stepped
      obtain rfl := Except.ok.inj stepped
      exact .extra waiting
    | flag flag attached =>
      simp only [role, Scan.flag] at stepped
      -- A flag with a value takes the one attached to it, or waits for the next word.
      cases takes : flag.takesValue with
      | true =>
        cases attached with
        | some value =>
          simp only [takes] at stepped
          rw [use_eq_ok stepped]
          exact .attached waiting role takes
        | none =>
          simp only [takes] at stepped
          obtain rfl := Except.ok.inj stepped
          exact .await waiting role takes
      -- A flag without a value must have none attached.
      | false =>
        cases attached with
        | some value => simp [takes] at stepped
        | none =>
          simp only [takes] at stepped
          split at stepped
          · exact nomatch stepped
          · rw [use_eq_ok stepped]
            exact .bare waiting role takes

/-- There is still no expression after a word. -/
theorem Passes.phase (passes : Passes scan word after) : after.phase = scan.phase := by
  cases passes <;> rfl

/-- What meant nothing so far is not forgotten. -/
theorem Passes.extras (passes : Passes scan word after) : scan.extras <+: after.extras := by
  -- Only a word that means nothing is added to them.
  cases passes with
  | extra => exact List.prefix_append _ _
  | _ => exact List.prefix_rfl

/-- A scan that ends without anything unknown met nothing unknown before. -/
theorem extras_foldlM {words : List Word} (behind : scan.phase = .behind)
    (scanned : words.foldlM (step defaults) scan = .ok after) : scan.extras <+: after.extras := by
  -- Each word adds to the arguments that mean nothing, or leaves them alone.
  induction words generalizing scan with
  | nil =>
    obtain rfl := Except.ok.inj scanned
    exact List.prefix_rfl
  | cons word rest ih =>
    rw [List.foldlM_cons] at scanned
    obtain ⟨next, stepped, scanned⟩ := bind_eq_ok_iff.mp scanned
    have passes := passes_of_step behind stepped
    exact passes.extras.trans (ih (passes.phase.trans behind) scanned)

/-- Arguments that are scanned to the end without anything unknown go on as the scan expects. -/
theorem flagRest_of_foldlM {arguments : List Text} {words : List Word}
    (read : readWords Flag.ofBot arguments = .ok words) (behind : scan.phase = .behind)
    (scanned : words.foldlM (step defaults) scan = .ok after) (done : after.waiting = none)
    (known : after.extras = []) :
    ∃ uses, FlagRest scan.waiting arguments uses ∧ after.uses = scan.uses ++ uses := by
  -- Every argument passes the scan in one of five ways, and the others follow by induction.
  induction arguments generalizing words scan with
  -- Nothing is left, and no flag may be waiting.
  | nil =>
    obtain rfl := Except.ok.inj read
    obtain rfl := Except.ok.inj scanned
    rw [done]
    exact ⟨[], .free .none, (List.append_nil _).symm⟩
  | cons argument rest ih =>
    obtain ⟨role, others, role_read, rfl, reading⟩ := readWords_cons_iff.mp read
    have others_read : role ≠ .separator → readWords Flag.ofBot rest = .ok others := fun other =>
      (reading.resolve_left fun separates => other separates.1).2
    rw [List.foldlM_cons] at scanned
    obtain ⟨next, stepped, others_scanned⟩ := bind_eq_ok_iff.mp scanned
    -- Each of the five ways leaves the scan behind the command.
    have passes := passes_of_step behind stepped
    have next_behind := passes.phase.trans behind
    cases passes with
    -- An extra word would still be listed at the end.
    | extra =>
      have shown := extras_foldlM next_behind others_scanned
      rw [known, List.prefix_nil] at shown
      simp [Scan.extra] at shown
    -- A value is attached, so the flag is used at once.
    | attached free role_eq takes =>
      simp only at role_eq
      subst role_eq
      obtain ⟨uses, ⟨row⟩, same⟩ := ih (others_read (by simp)) next_behind others_scanned
      rw [free]
      exact ⟨_, .free (.attached role_read takes row), by simpa using same⟩
    -- The flag waits, and the next word must be its value.
    | await free role_eq takes =>
      simp only at role_eq
      subst role_eq
      obtain ⟨uses, continued, same⟩ := ih (others_read (by simp)) next_behind others_scanned
      rw [free]
      cases continued with
      | awaited plain row => exact ⟨_, .free (.apart role_read takes plain row), same⟩
    -- A flag without value is used at once.
    | bare free role_eq takes =>
      simp only at role_eq
      subst role_eq
      obtain ⟨uses, ⟨row⟩, same⟩ := ih (others_read (by simp)) next_behind others_scanned
      rw [free]
      exact ⟨_, .free (.bare role_read takes row), by simpa using same⟩
    -- The word is the value that was awaited.
    | value awaited plain =>
      simp only at plain
      subst plain
      obtain ⟨uses, ⟨row⟩, same⟩ := ih (others_read (by simp)) next_behind others_scanned
      rw [awaited]
      exact ⟨_, .awaited role_read row, by simpa using same⟩

/-- Words that are scanned without anything unknown are flags with their values, and the uses are theirs. -/
theorem flagRow_of_ofWords {arguments : List Text} {words : List Word}
    (read : readWords Flag.ofBot arguments = .ok words)
    (scanned : ofWords defaults .behind words = .ok scan) (known : scan.extras = []) :
    FlagRow arguments scan.uses := by
  obtain ⟨last, folded, finished⟩ := bind_eq_ok_iff.mp scanned
  -- At the end no value is awaited, and the scan is the last one.
  obtain ⟨done, rfl⟩ : last.waiting = none ∧ scan = last := by
    rw [finish] at finished
    split at finished
    · rename_i done
      exact ⟨done, (Except.ok.inj finished).symm⟩
    · exact nomatch finished
  obtain ⟨uses, ⟨row⟩, same⟩ := flagRest_of_foldlM read rfl folded done known
  rw [same]
  exact row

end Scan

/-- The options after flags, and after further flags, are those after all of them. -/
theorem BotOptions.applyAll_append (options : BotOptions) (first second : List Use) :
    options.applyAll (first ++ second) = (options.applyAll first).applyAll second :=
  List.foldl_append

/-- An invocation is what it is without extras exactly if there are none. -/
theorem Invocation.withoutExtras_eq_ok_iff {invocation read : Invocation} {extras : List Text} :
    withoutExtras invocation extras = .ok read ↔ extras = [] ∧ read = invocation := by
  -- An invocation is accepted where no argument is left over.
  rw [withoutExtras]
  cases extras with
  | nil => simp [eq_comm]
  | cons => simp

/-- From the command on, there is nothing, or the name of the command that runs the bot and further flags. -/
theorem Invocation.readCommand_cases {options : BotOptions} {extras : List Text} {others : List Word}
    {invocation : Invocation} (accepted : readCommand options extras others = .ok invocation)
    (command : ∀ word ∈ others.head?, word.role = .separator ∨ word.role = .plain)
    (bot : ∀ roll, invocation.command ≠ .roll roll) :
    extras = [] ∧ (others = [] ∧ invocation = ⟨options, .unnamed⟩ ∨
      ∃ rest scan, others = ⟨runName, .plain⟩ :: rest ∧
        Scan.ofArguments Flag.ofBot (fun _ => none) .behind (rest.map Word.text) = .ok scan ∧
        scan.extras = [] ∧ invocation = ⟨options.applyAll scan.uses, .run⟩) := by
  -- The line is over, or goes on with a separator, with the bot's command, or with another word.
  unfold readCommand at accepted
  split at accepted
  · obtain ⟨known, rfl⟩ := withoutExtras_eq_ok_iff.mp accepted
    exact ⟨known, .inl ⟨rfl, rfl⟩⟩
  · -- A separator at the end means nothing.
    obtain ⟨known, -⟩ := withoutExtras_eq_ok_iff.mp accepted
    exact absurd known (by simp)
  · rename_i word rest _
    simp only at accepted
    split at accepted
    · exact nomatch accepted
    · rename_i other
      have plain := (command word rfl).resolve_left other
      split at accepted
      · rename_i run
        -- The bot's command: its own extras and those before it are none.
        obtain ⟨scan, scanned, accepted⟩ := bind_eq_ok_iff.mp accepted
        obtain ⟨known, rfl⟩ := withoutExtras_eq_ok_iff.mp accepted
        obtain ⟨own_known, others_known⟩ := List.append_eq_nil_iff.mp known
        obtain ⟨text, role⟩ := word
        simp only at plain run
        exact ⟨own_known, .inr ⟨rest, scan, by rw [plain, run, runName], scanned, others_known, rfl⟩⟩
      · split at accepted
        · -- The other command rolls.
          obtain ⟨scan, -, accepted⟩ := bind_eq_ok_iff.mp accepted
          split at accepted
          · exact nomatch accepted
          · obtain ⟨-, rfl⟩ := withoutExtras_eq_ok_iff.mp accepted
            exact absurd rfl (bot _)
        · exact nomatch accepted

/-- A command line that is accepted and asks for no roll runs the bot, with the options after its uses of flags. -/
theorem Invocation.botLine_of_read {environment : Environment} {arguments : List Text}
    {invocation : Invocation} (accepted : read environment arguments = .ok invocation)
    (bot : ∀ roll, invocation.command ≠ .roll roll) :
    ∃ uses, BotLine arguments uses invocation.command ∧
      invocation.options = (BotOptions.standard environment).applyAll uses := by
  -- The line is read in three stages: words, the flags before the command, and the command.
  obtain ⟨words, words_read, line⟩ := bind_eq_ok_iff.mp accepted
  obtain ⟨scan, scanned, from_command⟩ := bind_eq_ok_iff.mp line
  obtain ⟨split, open_words, command⟩ := splitCommand_spec false words
  rw [mapError_eq_ok_iff, split] at words_read
  obtain ⟨first, rest, rfl, own_read, others_read⟩ := readWords_append words_read open_words
  obtain ⟨known, ⟨nothing, rfl⟩ | ⟨behind, last, named, behind_scanned, last_known, rfl⟩⟩ :=
    readCommand_cases from_command command bot
  · -- Without a command, all words are flags of the bot.
    have row := Scan.flagRow_of_ofWords own_read scanned known
    obtain rfl : rest = [] := by
      rw [← map_text_readWords others_read, nothing, List.map_nil]
    rw [List.append_nil]
    exact ⟨scan.uses, .unnamed row, rfl⟩
  · -- With the command named, the flags stand before and behind it.
    have own := Scan.flagRow_of_ofWords own_read scanned known
    obtain ⟨words, words_read, words_scanned⟩ := bind_eq_ok_iff.mp behind_scanned
    have others := Scan.flagRow_of_ofWords (mapError_eq_ok_iff.mp words_read) words_scanned last_known
    obtain rfl : rest = runName :: behind.map Word.text := by
      rw [← map_text_readWords others_read, named, List.map_cons]
    exact ⟨_, .run own others, (BotOptions.applyAll_append _ _ _).symm⟩

/-- What follows flags does not go on with a flag. -/
def EndsFlags (rest : List Text) : Prop :=
  ∀ argument ∈ rest.head?, roleOf Flag.ofBot argument = .ok .plain

/-- Nothing follows. -/
theorem endsFlags_nil : EndsFlags [] :=
  nofun

/-- The name of the command is no flag. -/
theorem endsFlags_runName (rest : List Text) : EndsFlags (runName :: rest) := by
  rintro _ ⟨⟩
  rfl

/-- A flag goes on with flags. -/
theorem not_endsFlags {argument : Text} {flag : Flag} {attached : Option Text}
    (role : roleOf Flag.ofBot argument = .ok (.flag flag attached)) (rest : List Text) :
    ¬EndsFlags (argument :: rest) := by
  intro ends
  exact nomatch role.symm.trans (ends argument rfl)

section FirstFlag

variable {argument : Text} {flag : Flag} {tail row others : List Text} {uses : List Use}

/-- A row that starts with an attached value takes the argument alone. -/
theorem FlagRow.of_attached {value : Text} (flags : FlagRow row uses)
    (role : roleOf Flag.ofBot argument = .ok (.flag flag (some value)))
    (same : argument :: tail = row ++ others) (ends : EndsFlags others) :
    ∃ rest behind, row = argument :: rest ∧ uses = ⟨flag, .ofAttached value⟩ :: behind ∧
      FlagRow rest behind ∧ tail = rest ++ others := by
  cases flags with
  | none =>
    -- The argument is a flag, so it is not what ends a row.
    rw [List.nil_append] at same
    exact absurd (same ▸ ends) (not_endsFlags role _)
  | attached role_too _ behind =>
    obtain ⟨rfl, tails⟩ := List.cons.inj same
    cases role.symm.trans role_too
    exact ⟨_, _, rfl, rfl, behind, tails⟩
  | apart role_too | bare role_too =>
    obtain ⟨rfl, -⟩ := List.cons.inj same
    cases role.symm.trans role_too

/-- A row that starts with a flag whose value stands apart takes the next argument with it. -/
theorem FlagRow.of_apart (flags : FlagRow row uses)
    (role : roleOf Flag.ofBot argument = .ok (.flag flag .none)) (takes : flag.takesValue = true)
    (same : argument :: tail = row ++ others) (ends : EndsFlags others) :
    ∃ value rest behind, row = argument :: value :: rest ∧ uses = ⟨flag, .text value⟩ :: behind ∧
      FlagRow rest behind ∧ tail = value :: (rest ++ others) := by
  cases flags with
  | none =>
    rw [List.nil_append] at same
    exact absurd (same ▸ ends) (not_endsFlags role _)
  | attached role_too =>
    obtain ⟨rfl, -⟩ := List.cons.inj same
    cases role.symm.trans role_too
  | apart role_too _ _ behind =>
    obtain ⟨rfl, tails⟩ := List.cons.inj same
    cases role.symm.trans role_too
    exact ⟨_, _, _, rfl, rfl, behind, tails⟩
  | bare role_too bare =>
    -- One flag does not take a value in one row and none in the other.
    obtain ⟨rfl, -⟩ := List.cons.inj same
    cases role.symm.trans role_too
    exact nomatch takes.symm.trans bare

/-- A row that starts with a flag that takes no value takes the argument alone. -/
theorem FlagRow.of_bare (flags : FlagRow row uses)
    (role : roleOf Flag.ofBot argument = .ok (.flag flag .none)) (bare : flag.takesValue = false)
    (same : argument :: tail = row ++ others) (ends : EndsFlags others) :
    ∃ rest behind, row = argument :: rest ∧ uses = ⟨flag, .blank⟩ :: behind ∧
      FlagRow rest behind ∧ tail = rest ++ others := by
  cases flags with
  | none =>
    rw [List.nil_append] at same
    exact absurd (same ▸ ends) (not_endsFlags role _)
  | attached role_too =>
    obtain ⟨rfl, -⟩ := List.cons.inj same
    cases role.symm.trans role_too
  | apart role_too takes =>
    -- One flag does not take a value in one row and none in the other.
    obtain ⟨rfl, -⟩ := List.cons.inj same
    cases role.symm.trans role_too
    exact nomatch takes.symm.trans bare
  | bare role_too _ behind =>
    obtain ⟨rfl, tails⟩ := List.cons.inj same
    cases role.symm.trans role_too
    exact ⟨_, _, rfl, rfl, behind, tails⟩

end FirstFlag

/-- Flags in front of what follows them are told apart from it in one way only. -/
theorem FlagRow.unique {first second rest others : List Text} {uses again : List Use}
    (row : FlagRow first uses) (other : FlagRow second again)
    (same : first ++ rest = second ++ others) (ends : EndsFlags rest) (ends_too : EndsFlags others) :
    first = second ∧ uses = again := by
  -- The same argument has the same role, so it starts both rows alike, and what is behind is unique.
  induction row generalizing second again with
  | none =>
    cases other with
    | none => exact ⟨rfl, rfl⟩
    | attached role | apart role | bare role =>
      rw [List.nil_append] at same
      exact absurd (same ▸ ends) (not_endsFlags role _)
  | attached role _ _ ih =>
    obtain ⟨_, _, rfl, rfl, behind, tails⟩ := other.of_attached role same ends_too
    obtain ⟨rfl, rfl⟩ := ih behind tails
    exact ⟨rfl, rfl⟩
  | apart role takes _ _ ih =>
    obtain ⟨_, _, _, rfl, rfl, behind, values⟩ := other.of_apart role takes same ends_too
    obtain ⟨rfl, tails⟩ := List.cons.inj values
    obtain ⟨rfl, rfl⟩ := ih behind tails
    exact ⟨rfl, rfl⟩
  | bare role bare _ ih =>
    obtain ⟨_, _, rfl, rfl, behind, tails⟩ := other.of_bare role bare same ends_too
    obtain ⟨rfl, rfl⟩ := ih behind tails
    exact ⟨rfl, rfl⟩

/-- A command line makes one list of uses. -/
theorem BotLine.unique {arguments : List Text} {uses others : List Use} {command : Command}
    (line : BotLine arguments uses command) (again : BotLine arguments others command) :
    others = uses := by
  generalize same : arguments = equal at again
  cases line with
  | unnamed row =>
    cases again with
    | unnamed other =>
      exact (other.unique row (congrArg (· ++ []) same.symm) endsFlags_nil endsFlags_nil).2
  | run own rest =>
    cases again with
    | run other last =>
      -- The name of the command ends the flags before it, and what is behind it is the same.
      obtain ⟨rfl, rfl⟩ := own.unique other same (endsFlags_runName _) (endsFlags_runName _)
      obtain ⟨-, tails⟩ := List.cons.inj (List.append_cancel_left same)
      rw [(rest.unique last (congrArg (· ++ []) tails) endsFlags_nil endsFlags_nil).2]

end DiceChat
