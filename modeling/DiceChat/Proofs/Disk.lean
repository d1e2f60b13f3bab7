import DiceChat.Disk
import DiceChat.Proofs.Outcome

/-! The disk by its paths: a path that leads to a file of its own is read and written like the file. -/

namespace DiceChat

/-- The system with a working folder in which each of some paths leads to a file of its own. -/
def System.plain (paths : List Text) : System :=
  .ofTable ("/work".toList.map Char.toNat)
    (paths.map fun path => (encodeUtf8 path, .file { slot := path }))

/-- The file that is written at a path, if one can be written there. -/
def System.written? (system : System) (path : JsonText) : Option Text :=
  match system.follow path with
  | .ok (.file place) => if place.writing.isNone then some place.slot else none
  | _ => none

namespace Disk

/-- A path leads to the place of a file that can be read and written. -/
def Keeps (disk : Disk) (path : JsonText) (slot : Text) : Prop :=
  disk.system.follow path = .ok (.file { slot := slot })

variable {disk : Disk} {path : JsonText} {slot : Text}

/-- What a path leads to is the business of the system alone, whatever is stored. -/
@[simp] theorem keeps_store (disk : Disk) (path : JsonText) (slot name : Text) (body : Body) :
    (disk.store name body).Keeps path slot ↔ disk.Keeps path slot :=
  Iff.rfl

/-- A path to a file is found exactly if the file is there. -/
theorem Keeps.has_eq (keeps : disk.Keeps path slot) :
    disk.has path = (disk.file? slot).isSome := by
  rw [has, keeps]

/-- A path to a file is read as what the file holds. -/
theorem Keeps.open?_eq (keeps : disk.Keeps path slot) {body : Body}
    (held : disk.file? slot = some body) : disk.open? path = .ok body := by
  -- Nothing on the way to the file can fail.
  simp only [open?, show disk.system.follow path = _ from keeps, bind, Except.bind, held]

/-- What is written at a path is a matter of the system alone, but for what is told where nothing can be written. -/
theorem target_eq (disk : Disk) (path : JsonText) :
    (∃ slot, disk.system.written? path = some slot ∧ disk.target path = .ok slot) ∨
      disk.system.written? path = none ∧ ∃ error, disk.target path = .error error := by
  -- Only the place of a file can be written, and only if nothing speaks against it.
  simp only [System.written?, target, bind, Except.bind]
  cases disk.system.follow path with
  | error error => exact .inr ⟨rfl, error, rfl⟩
  | ok spot =>
    cases spot with
    | file place =>
      obtain ⟨slot, reading, _ | fault⟩ := place
      · exact .inl ⟨slot, rfl, rfl⟩
      · exact .inr ⟨rfl, _, rfl⟩
    | folder | behind | blocked => exact .inr ⟨rfl, _, rfl⟩

/-- A path that leads to a file is written there. -/
theorem Keeps.written? (keeps : disk.Keeps path slot) : disk.system.written? path = some slot := by
  rw [System.written?, show disk.system.follow path = _ from keeps]
  rfl

/-- A file that can be written at a path, and is there, is found there. -/
theorem has_of_written (written : disk.system.written? path = some slot)
    (held : disk.file? slot ≠ none) : disk.has path = true := by
  rw [System.written?] at written
  rw [has]
  -- Only the place of a file can be written.
  split at written
  · rename_i place reached
    split_ifs at written
    rw [← Option.some.inj written] at held
    rw [reached]
    exact Option.isSome_iff_ne_none.mpr held
  · cases written

/-- A path to a file is written as the file. -/
theorem Keeps.write_eq (keeps : disk.Keeps path slot) (text : Text) :
    disk.write path text = .ok (disk.store slot (.text text)) := by
  -- A path that is kept has a file that can be written, so the other case does not occur.
  rcases disk.target_eq path with ⟨other, written, target⟩ | ⟨unwritten, -⟩
  · obtain rfl := Option.some.inj (keeps.written?.symm.trans written)
    rw [write, target]
    rfl
  · cases keeps.written?.symm.trans unwritten

/-- What was stored in a file is what it holds, and other files hold what they held. -/
@[simp] theorem file?_store (disk : Disk) (name other : Text) (body : Body) :
    (disk.store name body).file? other = if name = other then some body else disk.file? other :=
  Ordered.find?_put disk.files name other body

/-- A file holds what was stored in it. -/
theorem file?_store_self (disk : Disk) (name : Text) (body : Body) :
    (disk.store name body).file? name = some body := by
  rw [file?_store, if_pos rfl]

/-- Storing does not touch the system. -/
@[simp] theorem system_store (disk : Disk) (name : Text) (body : Body) :
    (disk.store name body).system = disk.system :=
  rfl

/-- Writing does not touch the system. -/
theorem system_of_write {written : Disk} {text : Text} (success : disk.write path text = .ok written) :
    written.system = disk.system := by
  obtain ⟨slot, -, rfl⟩ := map_eq_ok_iff.mp success
  rfl

/-- Where the system is the same, a path leads to the same file. -/
theorem Keeps.of_system {other : Disk} (keeps : disk.Keeps path slot)
    (same : other.system = disk.system) : other.Keeps path slot := by
  rw [Keeps, same]
  exact keeps

end Disk

end DiceChat
