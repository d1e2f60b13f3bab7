import DiceChat.Log.Logger
import DiceChat.Proofs.Disk
import Mathlib

/-! Which log file a value opens is a matter of the system alone: every path that leads to a file that can be written opens this file. -/

namespace DiceChat

namespace Disk

/-- The disk with a log file opened, if one is. -/
def opened (disk : Disk) : Option Text → Disk
  | none => disk
  | some name => disk.store name ((disk.file? name).getD (.text []))

/-- Opening a log file makes it if it is missing, and changes nothing else. -/
theorem file?_opened (disk : Disk) (opening : Option Text) (other : Text) :
    (disk.opened opening).file? other =
      if opening = some other then some ((disk.file? other).getD (.text []))
      else disk.file? other := by
  -- A file that is there already is stored as it was.
  cases opening with
  | none => rfl
  | some name =>
    rw [opened, file?_store]
    by_cases same : name = other
    · subst same
      rw [if_pos rfl, if_pos rfl]
    · rw [if_neg same, if_neg fun equal => same (Option.some.inj equal)]

/-- Opening a log file does not touch the system. -/
@[simp] theorem system_opened (disk : Disk) (opening : Option Text) :
    (disk.opened opening).system = disk.system := by
  cases opening <;> rfl

end Disk

/-- The severity that a value sets as threshold, if it sets one. -/
def Severity.ofJson? : Json → Option Severity
  | .string name => (ofJsonText name).toOption
  | _ => none

/-- A name sets the severity that it is read as. -/
theorem Severity.ofJson?_string {name : JsonText} {severity : Severity} :
    ofJson? (.string name) = some severity ↔ ofJsonText name = .ok severity := by
  rw [ofJson?]
  cases ofJsonText name <;> simp [Except.toOption]

/-- A name that is refused sets no severity. -/
theorem Severity.ofJson?_string_eq_none {name : JsonText} :
    ofJson? (.string name) = none ↔ ∃ error, ofJsonText name = .error error := by
  rw [ofJson?]
  cases ofJsonText name <;> simp [Except.toOption]

namespace Logging

/-- The log file that a value opens: the one that is written at its path, once that is made absolute. -/
def opening? (system : System) : Json → Option Text
  | .string path => system.written? (absolutePath system.working path)
  | _ => none

/-- A value opens its log file, and fails exactly if there is none that it can open. -/
theorem openLogAt_eq (disk : Disk) (file : Json) :
    (∃ name, opening? disk.system file = some name ∧
        openLogAt disk file = .ok (disk.opened (some name), name)) ∨
      opening? disk.system file = none ∧ ∃ error, openLogAt disk file = .error error := by
  -- Only a text is a path, and opening it fails only if nothing can be written there.
  cases file with
  | string path =>
    rw [opening?, openLogAt, Disk.openLog]
    rcases disk.target_eq (absolutePath disk.system.working path) with
      ⟨name, written, target⟩ | ⟨unwritten, error, target⟩
    · exact .inl ⟨name, written, by rw [target]; rfl⟩
    · exact .inr ⟨unwritten, _, by rw [target]; rfl⟩
  | _ => exact .inr ⟨rfl, _, rfl⟩

/-- The log file that records go to once a value was to be opened: none for no file, and none if it fails. -/
def fileOf (system : System) (file : Json) : Option Text :=
  if file.isEmpty then none else opening? system file

/-- A threshold that is no severity is told of and changes nothing. -/
theorem configure_of_rejected (logging : Logging) (disk : Disk) (file : Json) {threshold : Json}
    (rejected : Severity.ofJson? threshold = none) :
    ∃ error, logging.configure disk file threshold = (logging, disk, some error) := by
  -- A name may be no severity, and what is no name is none at all.
  cases threshold with
  | string name =>
    obtain ⟨error, read⟩ := Severity.ofJson?_string_eq_none.mp rejected
    exact ⟨.threshold error, by rw [configure, read]⟩
  | _ => exact ⟨.thresholdKind, rfl⟩

/-- With a severity, the threshold is set in any case, and the file is the one that could be opened. -/
theorem configure_of_severity (logging : Logging) (disk : Disk) (file : Json) {threshold : Json}
    {severity : Severity} (accepted : Severity.ofJson? threshold = some severity) :
    ∃ error, logging.configure disk file threshold =
        (⟨⟨severity, fileOf disk.system file⟩, error.isNone || logging.chosen⟩,
          disk.opened (fileOf disk.system file), error) ∧
      (error = none ↔ file.isEmpty = true ∨ (opening? disk.system file).isSome = true) := by
  cases threshold with
  | string name =>
    have read : Severity.ofJsonText name = .ok severity := Severity.ofJson?_string.mp accepted
    -- The threshold is set before the file is looked at, so only the file may still fail.
    simp only [configure, read, fileOf]
    by_cases no_file : file.isEmpty = true
    · simp [no_file, Disk.opened]
    · rw [if_neg no_file]
      rcases openLogAt_eq disk file with ⟨name, opens, opened⟩ | ⟨opens, error, failed⟩
      · exact ⟨none, by simp [opened, opens, no_file]⟩
      · exact ⟨some error, by simp [failed, opens, no_file, Disk.opened]⟩
  | _ => cases accepted

end Logging

end DiceChat
