import DiceChat.Proofs.Log.Opening
import DiceChat.Proofs.Numeral
import Mathlib

/-! A log file with its earlier files: lines are added to the latest page, and a full page moves one number on. -/

namespace DiceChat

/-- The bytes that a file holds. -/
def Body.content : Body → List UInt8
  | .text content => encodeUtf8 content
  | .bytes content => content

/-- What is added to a file stands behind what it held. -/
@[simp] theorem Body.content_append (body : Body) (added : Text) :
    (body.append added).content = body.content ++ encodeUtf8 added := by
  -- Text and bytes are both kept as bytes in the end.
  cases body with
  | text content => exact List.flatMap_append
  | bytes content => rfl

/-- The pages of a log file, the latest first, with one more line. -/
def turnPage (pages : List Body) (line : Text) : List Body :=
  match pages with
  | [] => [.text line]
  | latest :: earlier =>
    -- A line that has no room on the latest page opens a new one.
    if latest.size + line.length < maxFileSize then latest.append line :: earlier
    else .text line :: latest :: earlier

/-- The pages of a log file that held something at first, with lines added one by one. -/
def pagesAfter (start : Body) (lines : List Text) : List Body :=
  lines.foldl turnPage [start]

/-- A line makes the pages longer by itself, at their end. -/
theorem content_turnPage (pages : List Body) (line : Text) :
    (turnPage pages line).reverse.flatMap Body.content =
      pages.reverse.flatMap Body.content ++ encodeUtf8 line := by
  -- The line is last whether it shares a page with earlier ones or not.
  cases pages with
  | nil => simp [turnPage, Body.content]
  | cons latest earlier =>
    rw [turnPage]
    split
    · simp
    · simp [Body.content]

/-- The pages in order hold what the file held at first and then every line once. -/
theorem content_pagesAfter (start : Body) (lines : List Text) :
    (pagesAfter start lines).reverse.flatMap Body.content =
      start.content ++ lines.flatMap encodeUtf8 := by
  -- The lines are taken from the end, as the last one is added last.
  induction lines using List.reverseRecOn with
  | nil => simp [pagesAfter]
  | append_singleton lines line ih =>
    rw [pagesAfter, List.foldl_append, List.foldl_cons, List.foldl_nil, content_turnPage,
      ← pagesAfter, ih]
    simp

/-- There is always a page to write on. -/
theorem turnPage_ne_nil (pages : List Body) (line : Text) : turnPage pages line ≠ [] := by
  cases pages with
  | nil => exact List.cons_ne_nil _ _
  -- The line goes to the latest page, or to a new one before it.
  | cons latest earlier =>
    rw [turnPage]
    split <;> exact List.cons_ne_nil _ _

/-- There is always a page. -/
theorem pagesAfter_ne_nil (start : Body) (lines : List Text) : pagesAfter start lines ≠ [] := by
  -- Only the last line matters, as every turn leaves a page.
  induction lines using List.reverseRecOn with
  | nil => exact List.cons_ne_nil _ _
  | append_singleton lines line _ =>
    rw [pagesAfter, List.foldl_append]
    exact turnPage_ne_nil _ _

/-- The name under which a page is kept: that of the log file, or that of an earlier file. -/
def pageName (name : Text) : Nat → Text
  | 0 => name
  | number + 1 => backupName name (number + 1)

/-- The name of an earlier file tells the log file and the number. -/
theorem backupName_inj {name other : Text} {number count : Nat}
    (same : backupName name number = backupName other count) : name = other ∧ number = count := by
  -- The number is what follows the last point, as no digit is one.
  have digits : ∀ {number : Nat} {before after : Text},
      writeNat number ≠ before ++ '.' :: after := fun equal =>
    absurd (isDigit_of_mem_writeNat (equal ▸ List.mem_append_right _ List.mem_cons_self)) (by decide)
  have same_name : name = other := by
    -- If one name were longer, the number behind the other would hold the point.
    rcases List.append_eq_append_iff.mp same with ⟨between, longer, rest⟩ | ⟨between, longer, rest⟩
    · cases between with
      | nil => simpa using longer.symm
      | cons c between => exact absurd (List.cons.inj rest).2 digits
    · cases between with
      | nil => simpa using longer
      | cons c between => exact absurd (List.cons.inj rest).2 digits
  subst same_name
  have same_digits : writeNat number = writeNat count :=
    (List.cons.inj (List.append_cancel_left same)).2
  exact ⟨rfl, by simpa using congrArg asciiValue same_digits⟩

/-- An earlier file has a longer name than its log file. -/
theorem backupName_ne (name : Text) (number : Nat) : backupName name number ≠ name := by
  intro same
  -- A backup's name is longer by its number.
  have lengths := congrArg List.length same
  rw [backupName, List.length_append, List.length_cons] at lengths
  omega

/-- None of the names is that of an earlier file of another one. -/
def NoBackups (names : List Text) : Prop :=
  ∀ name ∈ names, ∀ other ∈ names, ∀ number ≤ backupCount, 0 < number → backupName other number ≠ name

/-- Fewer names are still apart. -/
theorem NoBackups.of_append_left {names others : List Text} (apart : NoBackups (names ++ others)) :
    NoBackups names := fun name member other other_member =>
  apart name (List.mem_append_left _ member) other (List.mem_append_left _ other_member)

/-- Log files of which none is an earlier file of another one share no page. -/
theorem NoBackups.pageName_ne {names : List Text} (apart : NoBackups names) {name other : Text}
    (member : name ∈ names) (other_member : other ∈ names) (differ : name ≠ other)
    {number count : Nat} (within : number ≤ backupCount) (other_within : count ≤ backupCount) :
    pageName name number ≠ pageName other count := by
  -- Only between two earlier files the numbers do not matter.
  cases number with
  | zero =>
    cases count with
    | zero => exact differ
    | succ count => exact (apart name member other other_member _ other_within (Nat.succ_pos _)).symm
  | succ number =>
    cases count with
    | zero => exact apart other other_member name member _ within (Nat.succ_pos _)
    | succ count => exact fun same => differ (backupName_inj same).1

namespace Disk

/-- Renaming does not touch the system. -/
theorem system_rename (disk : Disk) (old new : Text) : (disk.rename old new).system = disk.system := by
  rw [rename]
  split <;> rfl

/-- Shifting does not touch the system. -/
theorem system_shiftBackups (disk : Disk) (name : Text) (count : Nat) :
    (disk.shiftBackups name count).system = disk.system := by
  induction count generalizing disk with
  | zero => rfl
  -- Each backup is moved by a rename, and a rename keeps the system.
  | succ count ih => rw [shiftBackups, ih, system_rename]

/-- Adding a line does not touch the system. -/
theorem system_log (disk : Disk) (name line : Text) : (disk.log name line).system = disk.system := by
  -- The file is stored, and rotated before if the line has no room.
  rw [log]
  split
  · rfl
  · rw [system_store, rotate, system_store, system_rename, system_shiftBackups]

/-- What a disk holds without a file. -/
@[simp] theorem file?_remove (disk : Disk) (name other : Text) :
    (disk.remove name).file? other = if name = other then none else disk.file? other :=
  Ordered.find?_erase disk.files name other

/-- A file under a new name replaces the one that had it, and nothing is left under the old name. -/
theorem file?_rename (disk : Disk) {old new : Text} (differ : old ≠ new) (other : Text) :
    (disk.rename old new).file? other =
      if new = other then (disk.file? old).or (disk.file? new)
      else if old = other then none
      else disk.file? other := by
  rw [rename]
  cases held : disk.file? old with
  | none =>
    -- Nothing is moved, and there was nothing under the old name.
    by_cases wanted : old = other
    · subst wanted
      simp [held, Ne.symm differ]
    · by_cases target : new = other <;> simp [wanted, target]
  | some body =>
    -- What stood under the new name is removed first, so that its place is free.
    rw [file?_store, file?_remove, file?_remove]
    split <;> rfl

/-- Shifting moves every earlier file up to a number one number on; the last one replaces its successor if it exists. -/
theorem file?_shiftBackups (disk : Disk) (name : Text) (count : Nat) {number : Nat}
    (positive : 0 < number) :
    (disk.shiftBackups name count).file? (backupName name number) =
      if number ≤ count then
        if number = 1 then none else disk.file? (backupName name (number - 1))
      else if number = count + 1 ∧ 0 < count then
        (disk.file? (backupName name count)).or (disk.file? (backupName name number))
      else disk.file? (backupName name number) := by
  -- The highest number moves first, and the lower ones find its place free.
  induction count generalizing disk with
  | zero => simp [shiftBackups, Nat.ne_of_gt positive]
  | succ count ih =>
    let moved := disk.rename (backupName name (count + 1)) (backupName name (count + 2))
    have differ : backupName name (count + 1) ≠ backupName name (count + 2) := fun same => by
      have := (backupName_inj same).2
      omega
    -- The first move fills the highest place, empties the one below, and touches no other.
    have target : moved.file? (backupName name (count + 2)) =
        (disk.file? (backupName name (count + 1))).or
          (disk.file? (backupName name (count + 2))) := by
      rw [file?_rename disk differ, if_pos rfl]
    have left : moved.file? (backupName name (count + 1)) = none := by
      rw [file?_rename disk differ, if_neg differ.symm, if_pos rfl]
    have others : ∀ other, other ≠ count + 1 → other ≠ count + 2 →
        moved.file? (backupName name other) = disk.file? (backupName name other) := by
      intro other first second
      rw [file?_rename disk differ, if_neg fun same => second (backupName_inj same).2.symm,
        if_neg fun same => first (backupName_inj same).2.symm]
    rw [shiftBackups, ih]
    change (if number ≤ count then
      if number = 1 then none else moved.file? (backupName name (number - 1))
      else if number = count + 1 ∧ 0 < count then
        (moved.file? (backupName name count)).or (moved.file? (backupName name number))
      else moved.file? (backupName name number)) = _
    rcases Nat.lt_trichotomy number (count + 1) with below | rfl | above
    · -- What a lower number finds in its place is not touched by the first move.
      have within : number ≤ count := by omega
      rw [if_pos within, if_pos (Nat.le_succ_of_le within), others _ (by omega) (by omega)]
    · -- The first move leaves this place free.
      have beyond : ¬count + 1 ≤ count := by omega
      rw [if_neg beyond, left, Option.or_none, if_pos (Nat.le_refl _)]
      rcases Nat.eq_zero_or_pos count with rfl | some_count
      · rfl
      · rw [if_pos ⟨rfl, some_count⟩, others _ (by omega) (by omega), if_neg (by omega)]
        rfl
    · -- Above the two places nothing is moved, but for the highest one that was filled.
      have beyond : ¬number ≤ count ∧ ¬(number = count + 1 ∧ 0 < count) ∧ ¬number ≤ count + 1 := by
        omega
      rw [if_neg beyond.1, if_neg beyond.2.1, if_neg beyond.2.2]
      by_cases last : number = count + 2
      · rw [last, target, if_pos ⟨rfl, Nat.succ_pos _⟩]
      · rw [others number (by omega) last, if_neg fun same => last same.1]

/-- Shifting touches earlier files only. -/
theorem file?_shiftBackups_of_ne (disk : Disk) (name : Text) (count : Nat) {other : Text}
    (apart : ∀ number, 0 < number → number ≤ count + 1 → backupName name number ≠ other) :
    (disk.shiftBackups name count).file? other = disk.file? other := by
  -- Every single move is between two names that are not the other one.
  induction count generalizing disk with
  | zero => rfl
  | succ count ih =>
    have differ : backupName name (count + 1) ≠ backupName name (count + 2) := fun same => by
      have := (backupName_inj same).2
      omega
    rw [shiftBackups, ih _ fun number positive within => apart number positive (by omega),
      file?_rename disk differ, if_neg (apart _ (by omega) (by omega)),
      if_neg (apart _ (by omega) (by omega))]

/-- Rotation moves every page one number on; the last one replaces its successor if it exists. -/
theorem file?_rotate (disk : Disk) (name : Text) {number : Nat}
    (within : number < backupCount) :
    (disk.rotate name).file? (pageName name (number + 1)) =
      (disk.file? (pageName name number)).or
        (if number + 1 = backupCount then disk.file? (pageName name (number + 1)) else none) := by
  have outside : name ≠ pageName name (number + 1) := (backupName_ne name _).symm
  have last : backupCount - 1 + 1 = backupCount := rfl
  rw [rotate, file?_store, if_neg outside, file?_rename _ (backupName_ne name 1).symm,
    if_neg outside]
  have kept : (disk.shiftBackups name (backupCount - 1)).file? name = disk.file? name :=
    file?_shiftBackups_of_ne disk name _ fun number _ _ => backupName_ne name number
  cases number with
  | zero =>
    -- The file itself moves to the place that the first earlier one has left.
    rw [if_pos (by rfl), kept, file?_shiftBackups disk name _ Nat.one_pos]
    rfl
  | succ number =>
    have further : backupName name 1 ≠ pageName name (number + 1 + 1) := fun same => by
      have := (backupName_inj same).2
      omega
    rw [if_neg further, pageName, file?_shiftBackups disk name _ (Nat.succ_pos _)]
    -- Of the places that are left, only the last one may keep what it held.
    rcases Nat.lt_or_ge (number + 2) backupCount with middle | full
    · rw [if_pos (by omega), if_neg (by omega), if_neg (by omega), Option.or_none]
      rfl
    · have full : number + 2 = backupCount := by omega
      have place : backupCount - 1 = number + 1 := by omega
      rw [if_neg (by omega), if_pos ⟨by omega, by decide⟩, if_pos full, place]
      rfl

/-- Rotation touches nothing but the pages. -/
theorem file?_rotate_of_ne (disk : Disk) (name : Text) {other : Text}
    (apart : ∀ number ≤ backupCount, pageName name number ≠ other) :
    (disk.rotate name).file? other = disk.file? other := by
  -- Neither the shift nor the last move nor the new empty file has this name.
  have earlier : ∀ number, 0 < number → number ≤ backupCount → backupName name number ≠ other := by
    intro number positive within
    obtain ⟨count, rfl⟩ := Nat.exists_eq_succ_of_ne_zero (Nat.ne_of_gt positive)
    exact apart (count + 1) within
  have itself : name ≠ other := apart 0 (Nat.zero_le _)
  rw [rotate, file?_store, if_neg itself, file?_rename _ (backupName_ne name 1).symm,
    if_neg (earlier 1 Nat.one_pos (by decide)), if_neg itself]
  exact file?_shiftBackups_of_ne disk name _ earlier

/-- A line goes to the pages of its file and nowhere else. -/
theorem file?_log_of_ne (disk : Disk) (name line : Text) {other : Text}
    (apart : ∀ number ≤ backupCount, pageName name number ≠ other) :
    (disk.log name line).file? other = disk.file? other := by
  -- With room or without, only pages are written.
  have itself : name ≠ other := apart 0 (Nat.zero_le _)
  rw [log]
  split
  · rw [file?_store, if_neg itself]
  · rw [file?_store, if_neg itself, file?_rotate_of_ne disk name apart]

/-- A disk keeps pages of a log file, and behind them earlier files that another disk had. -/
structure Shelves (before after : Disk) (name : Text) (pages : List Body) : Prop where
  /-- As many pages as there are names are kept, the latest first. -/
  kept : ∀ number ≤ backupCount, ∀ page, pages[number]? = some page →
    after.file? (pageName name number) = some page
  /-- Behind the pages there is nothing but what was there before, perhaps under a higher number. -/
  former : ∀ number ≤ backupCount, pages.length ≤ number → ∃ origin, 0 < origin ∧ origin ≤ number ∧
    after.file? (pageName name number) = before.file? (backupName name origin)

namespace Shelves

variable {before after : Disk} {name : Text} {pages : List Body}

/-- What happens to other files does not matter. -/
theorem congr {later : Disk} (shelves : before.Shelves after name pages)
    (same : ∀ number ≤ backupCount,
      later.file? (pageName name number) = after.file? (pageName name number)) :
    before.Shelves later name pages where
  kept number within page held := (same number within).trans (shelves.kept number within page held)
  former number within beyond := by
    obtain ⟨origin, positive, earlier, held⟩ := shelves.former number within beyond
    exact ⟨origin, positive, earlier, (same number within).trans held⟩

/-- A file with its earlier files is a single page at first. -/
theorem start {page : Body} (held : after.file? name = some page)
    (same : ∀ number ≤ backupCount, 0 < number →
      after.file? (backupName name number) = before.file? (backupName name number)) :
    before.Shelves after name [page] where
  kept number within other found := by
    cases number with
    | zero => exact held.trans found
    -- The page is the one at the name itself.
    | succ number => cases found
  former number within beyond := by
    cases number with
    | zero => exact absurd beyond (by simp)
    -- The name itself has a page, so only the backups are what they were.
    | succ number =>
      exact ⟨number + 1, Nat.succ_pos _, Nat.le_refl _, same _ within (Nat.succ_pos _)⟩

/-- A line is added to the pages. -/
theorem log (shelves : before.Shelves after name pages) (some_page : pages ≠ []) (line : Text) :
    before.Shelves (after.log name line) name (turnPage pages line) := by
  -- The file itself is the latest page, so its size is the one that decides.
  obtain ⟨latest, earlier, rfl⟩ := List.exists_cons_of_ne_nil some_page
  have held : after.file? name = some latest := shelves.kept 0 (Nat.zero_le _) latest rfl
  have others : ∀ number, name ≠ pageName name (number + 1) := fun number =>
    (backupName_ne name _).symm
  rw [Disk.log, held, Option.getD_some, turnPage]
  split
  · -- Only the latest page changes.
    constructor
    · intro number within page found
      cases number with
      | zero => rw [pageName, file?_store, if_pos rfl]; exact found
      | succ number =>
        rw [file?_store, if_neg (others number)]
        exact shelves.kept _ within page found
    · intro number within beyond
      cases number with
      | zero => exact absurd beyond (by simp)
      | succ number =>
        rw [file?_store, if_neg (others number)]
        exact shelves.former _ within beyond
  · -- Every page moves one number on, and the line opens a new one.
    constructor
    · intro number within page found
      cases number with
      | zero => rw [pageName, file?_store, if_pos rfl]; exact found
      | succ number =>
        have moved := shelves.kept number (Nat.le_of_succ_le within) page found
        rw [file?_store, if_neg (others number), file?_rotate after name within, moved,
          Option.some_or]
    · intro number within beyond
      cases number with
      | zero => exact absurd beyond (by simp)
      | succ number =>
        rw [file?_store, if_neg (others number), file?_rotate after name within]
        have behind : (latest :: earlier).length ≤ number := Nat.le_of_succ_le_succ beyond
        obtain ⟨origin, positive, lower, from_origin⟩ :=
          shelves.former number (Nat.le_of_succ_le within) behind
        -- What moved here was there before; where nothing moved, the last place keeps what it had.
        cases moved : after.file? (pageName name number) with
        | some body =>
          exact ⟨origin, positive, Nat.le_succ_of_le lower, by
            rw [Option.some_or, ← moved, from_origin]⟩
        | none =>
          rw [Option.none_or]
          split
          · exact shelves.former _ within (Nat.le_succ_of_le behind)
          · exact ⟨origin, positive, Nat.le_succ_of_le lower, moved.symm.trans from_origin⟩

end Shelves

/-- A disk keeps the pages of several log files, and every file beside them as another disk had it. -/
structure Archives (before after : Disk) (names : List Text) (pages : Text → List Body) : Prop where
  /-- The pages of each log file are kept. -/
  shelves : ∀ name ∈ names, before.Shelves after name (pages name)
  /-- Nothing else has changed. -/
  elsewhere : ∀ other, (∀ name ∈ names, ∀ number ≤ backupCount, pageName name number ≠ other) →
    after.file? other = before.file? other

namespace Archives

variable {before after : Disk} {names : List Text} {pages : Text → List Body}

/-- A log file holds its latest page. -/
theorem exists_latest (archives : before.Archives after names pages) {name : Text}
    (known : name ∈ names) (some_page : pages name ≠ []) :
    ∃ latest, after.file? name = some latest := by
  -- A book with pages has its latest one at the name itself.
  obtain ⟨latest, earlier, filled⟩ := List.exists_cons_of_ne_nil some_page
  have first : (pages name)[0]? = some latest := by rw [filled]; rfl
  exact ⟨latest, (archives.shelves name known).kept 0 (Nat.zero_le _) latest first⟩

/-- Opening a log file again changes nothing. -/
theorem reopened (archives : before.Archives after names pages) {name : Text} (known : name ∈ names)
    (some_page : pages name ≠ []) (other : Text) :
    (after.opened name).file? other = after.file? other := by
  -- The file is there, so opening stores in it what it holds.
  obtain ⟨latest, held⟩ := archives.exists_latest known some_page
  rw [file?_opened]
  split
  · rename_i same
    rw [← Option.some.inj same, held]
    rfl
  · rfl

/-- Opening another log file adds its first page. -/
theorem opened (archives : before.Archives after names pages) {name : Text}
    (apart : NoBackups (names ++ [name])) (some_page : pages name ≠ [])
    (fresh : name ∉ names → pages name = [(before.file? name).getD (.text [])]) :
    before.Archives (after.opened name) (names ++ [name]) pages := by
  have last : name ∈ names ++ [name] := List.mem_append_right _ (List.mem_singleton.mpr rfl)
  have former : ∀ other ∈ names, other ∈ names ++ [name] := fun other =>
    List.mem_append_left _
  by_cases known : name ∈ names
  -- A name that is known already adds nothing to the names, and no file changes.
  · have unchanged := archives.reopened known some_page
    constructor
    · intro other member
      have listed : other ∈ names := by
        rcases List.mem_append.mp member with listed | same
        · exact listed
        · exact List.mem_singleton.mp same ▸ known
      exact (archives.shelves other listed).congr fun number _ => unchanged _
    · intro other outside
      exact (unchanged other).trans
        (archives.elsewhere other fun other member => outside other (former other member))
  · -- Neither the file nor an earlier one of it is a page of the log files before.
    have differs : ∀ other ∈ names, other ≠ name := fun other member same => known (same ▸ member)
    have untouched : ∀ number ≤ backupCount,
        after.file? (pageName name number) = before.file? (pageName name number) :=
      fun number within => archives.elsewhere _ fun other member count below =>
        apart.pageName_ne (former other member) last (differs other member) below within
    constructor
    -- An older file keeps its pages; the new one starts with what it holds.
    · intro other member
      rcases List.mem_append.mp member with listed | same
      · refine (archives.shelves other listed).congr fun number within => ?_
        have page : pageName other number ≠ name :=
          apart.pageName_ne member last (differs other listed) within (Nat.zero_le backupCount)
        rw [file?_opened, if_neg fun same => page (Option.some.inj same).symm]
      · obtain rfl := List.mem_singleton.mp same
        rw [fresh known]
        refine .start ?_ fun number within positive => ?_
        · have same : after.file? other = before.file? other := untouched 0 (Nat.zero_le _)
          rw [file?_opened, if_pos rfl, same]
        · obtain ⟨count, rfl⟩ := Nat.exists_eq_succ_of_ne_zero (Nat.ne_of_gt positive)
          rw [file?_opened, if_neg fun same => backupName_ne other _ (Option.some.inj same).symm]
          exact untouched _ within
    · intro other outside
      -- Anything else is touched neither by the opening nor by the files before.
      have itself : name ≠ other := outside name last 0 (Nat.zero_le _)
      rw [file?_opened, if_neg fun same => itself (Option.some.inj same)]
      exact archives.elsewhere other fun other member => outside other (former other member)

/-- A line that is added to a log file leaves the pages of the others as they are. -/
theorem log (archives : before.Archives after names pages) (apart : NoBackups names) {name : Text}
    (member : name ∈ names) (some_page : pages name ≠ []) (line : Text) {later : Text → List Body}
    (turned : later name = turnPage (pages name) line)
    (others : ∀ other, other ≠ name → later other = pages other) :
    before.Archives (after.log name line) names later := by
  -- The pages of the file are turned, and those of another one have other names.
  constructor
  · intro other known
    by_cases same : other = name
    · rw [same, turned]
      exact (archives.shelves name member).log some_page line
    · rw [others other same]
      refine (archives.shelves other known).congr fun number within => ?_
      exact file?_log_of_ne after name line fun count below =>
        apart.pageName_ne member known (Ne.symm same) below within
  · intro other outside
    rw [file?_log_of_ne after name line (outside name member)]
    exact archives.elsewhere other outside

end Archives

end Disk

namespace Logging

/-- Writing a record changes no file but the pages of the log. -/
theorem file?_write {logging : Logging} (disk : Disk) (time : Text) (record : LogRecord)
    {name : Text} (apart : ∀ log, logging.ready.logger.file = some log →
      ∀ number ≤ backupCount, pageName log number ≠ name) :
    (logging.write disk time record).2.1.file? name = disk.file? name := by
  rw [write]
  dsimp only
  -- A record that does not pass, or passes without a file, is written nowhere on the disk.
  split
  · split
    · rfl
    · rename_i log kept
      exact Disk.file?_log_of_ne disk log _ (apart log kept)
  · rfl

/-- Writing a record does not touch the system. -/
theorem system_write (logging : Logging) (disk : Disk) (time : Text) (record : LogRecord) :
    (logging.write disk time record).2.1.system = disk.system := by
  rw [write]
  dsimp only
  -- A record is added to a file at most.
  split
  · split
    · rfl
    · exact Disk.system_log ..
  · rfl

end Logging

end DiceChat
