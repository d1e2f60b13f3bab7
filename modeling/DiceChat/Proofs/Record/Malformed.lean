import DiceChat.Proofs.Outcome
import DiceChat.Record.Decode
import Mathlib

/-! Malformed records: a record is refused for the first of its faults, and not every fault is a documented one. -/

namespace DiceChat

/-- Whether records are documented to be refused for a fault: a field is missing, or its value stands for nothing there. -/
def RecordError.isDocumented : RecordError → Bool
  -- A value of the wrong kind and an infinite number are reported in ways that are not documented.
  | .wrongKind | .notFields | .endless => false
  | .missing _ | .notNumeral _ _ | .notNumber | .unknownMode _ | .oneTooMany | .oneTooFew _ => true

section

variable {α β : Type} {before behind faults : List RecordError}

/-- A step gives a value where there are no faults, and stops at the first of them otherwise. -/
def StopsAt (faults : List RecordError) (step : Except RecordError α) : Prop :=
  match faults with
  | [] => ∃ value, step = .ok value
  | first :: _ => step = .error first

/-- The fault of a step, if it has one. -/
def faultOf : Except RecordError α → List RecordError
  | .ok _ => []
  | .error error => [error]

/-- A step stops at its own fault. -/
theorem stopsAt_faultOf (step : Except RecordError α) : StopsAt (faultOf step) step := by
  -- A step has one fault or none.
  cases step with
  | ok value => exact ⟨value, rfl⟩
  | error error => exact rfl

/-- Two steps stop at the first fault of the first one, and behind it at those of the second one. -/
theorem StopsAt.bind {first : Except RecordError α} {next : α → Except RecordError β}
    (one : StopsAt before first) (other : ∀ value, first = .ok value → StopsAt behind (next value)) :
    StopsAt (before ++ behind) (first >>= next) := by
  cases before with
  | nil =>
    obtain ⟨value, rfl⟩ := one
    exact other value rfl
  | cons error others =>
    -- The second step is not reached.
    have stopped : first = .error error := one
    rw [stopped]
    exact rfl

/-- A step behind which nothing can fail keeps its faults. -/
theorem StopsAt.finish {first : Except RecordError α} {next : α → Except RecordError β}
    (one : StopsAt faults first) (other : ∀ value, ∃ result, next value = .ok result) :
    StopsAt faults (first >>= next) := by
  rw [← List.append_nil faults]
  exact one.bind fun value _ => other value

/-- A step is refused exactly for the first of its faults. -/
theorem StopsAt.eq_error_iff {step : Except RecordError α} (stops : StopsAt faults step)
    {error : RecordError} : step = .error error ↔ faults.head? = some error := by
  -- With faults the step fails with the first one, without any it succeeds.
  cases faults with
  | nil =>
    obtain ⟨value, rfl⟩ := stops
    simp
  | cons first others =>
    have stopped : step = .error first := stops
    simp [stopped]

/-- A step gives a value exactly if it has no faults. -/
theorem StopsAt.exists_eq_ok_iff {step : Except RecordError α} (stops : StopsAt faults step) :
    (∃ value, step = .ok value) ↔ faults = [] := by
  -- A step succeeds where there is no first fault.
  cases faults with
  | nil =>
    obtain ⟨value, rfl⟩ := stops
    simp
  | cons first others =>
    have stopped : step = .error first := stops
    simp [stopped]

end

namespace Json

/-- The fault of a value that should stand for an integer. -/
def intFaults (value : Json) : List RecordError :=
  faultOf value.toInt

/-- The faults of a value that should hold the faces of a roll. -/
def facesFaults (value : Json) : List RecordError :=
  match value.elements with
  | .ok items => items.flatMap intFaults
  | .error error => [error]

/-- The faults of a required field, whose value has the given ones. -/
def fieldFaults (record : Json) (name : Text) (faults : Json → List RecordError) :
    List RecordError :=
  match record.require name with
  | .ok value => faults value
  | .error error => [error]

/-- A field that is read stops at its faults if its value does. -/
theorem stopsAt_field {α : Type} {read : Json → Except RecordError α}
    {faults : Json → List RecordError} {record : Json} {name : Text}
    (each : ∀ value, record.require name = .ok value → StopsAt (faults value) (read value)) :
    StopsAt (record.fieldFaults name faults) (record.require name >>= read) := by
  rw [fieldFaults]
  -- A field that is missing is the only fault; otherwise its value decides.
  cases required : record.require name with
  | ok value => exact each value required
  | error error => exact rfl

/-- Integers are taken up to the first value that stands for none. -/
theorem stopsAt_toInts (items : List Json) :
    StopsAt (items.flatMap intFaults) (toInts items) := by
  -- Each item is taken before the ones behind it are looked at.
  induction items with
  | nil => exact ⟨[], rfl⟩
  | cons item rest ih =>
    rw [List.flatMap_cons]
    exact (stopsAt_faultOf item.toInt).bind fun value _ => ih.finish fun values => ⟨_, rfl⟩

/-- The faces are taken from a value that has elements. -/
theorem stopsAt_faces (value : Json) : StopsAt value.facesFaults (value.elements >>= toInts) := by
  rw [facesFaults]
  -- What is no list is one fault; otherwise the items are looked at.
  cases value.elements with
  | ok items => exact stopsAt_toInts items
  | error error => exact rfl

end Json

/-- The modifier and the label of settings, where they are given, are an integer and a text. -/
structure Settings.HasFittingOptions (record : Json) : Prop where
  /-- The modifier is an integer, null, or missing. -/
  modifier : ∃ value, record.optional "modifier".toList = .ofInt? value
  /-- The label is a text, null, or missing. -/
  label : ∃ text, record.optional "label".toList = .ofText? text

/-- All settings in the record of a session have fitting modifiers and labels. -/
structure Session.HasFittingOptions (record : Json) : Prop where
  /-- Those of the first attempt. -/
  first : Settings.HasFittingOptions ((record.optional "try_one".toList).optional "settings".toList)
  /-- Those of the second attempt. -/
  second : Settings.HasFittingOptions ((record.optional "try_two".toList).optional "settings".toList)
  /-- Those of the session. -/
  whole : Settings.HasFittingOptions (record.optional "settings".toList)

/-- The faults of settings in the order in which they are noticed. -/
def Settings.faults (record : Json) : List RecordError :=
  record.fieldFaults "number".toList Json.intFaults ++
    record.fieldFaults "sides".toList Json.intFaults

/-- The faults of a roll in the order in which they are noticed. -/
def Roll.faults (record : Json) : List RecordError :=
  record.fieldFaults "rolls".toList Json.facesFaults ++
    record.fieldFaults "total".toList Json.intFaults ++
    record.fieldFaults "settings".toList Settings.faults

/-- The fault of a mode that does not go with whether there is a second attempt. -/
def Mode.countFaults (mode : Except RecordError Mode) (alone : Bool) : List RecordError :=
  match mode, alone with
  | .ok .straight, false => [.oneTooMany]
  | .ok .advantage, true => [.oneTooFew .higher]
  | .ok .disadvantage, true => [.oneTooFew .lower]
  | _, _ => []

/-- The faults of a session in the order in which they are noticed. -/
def Session.faults (record : Json) : List RecordError :=
  let second := record.optional "try_two".toList
  -- What is no object has no fields to look at.
  match record with
  | .object _ =>
    record.fieldFaults "roll_type".toList (fun value => faultOf (Mode.ofJson value)) ++
      record.fieldFaults "try_one".toList Roll.faults ++
      (if second.isEmpty then [] else Roll.faults second) ++
      record.fieldFaults "settings".toList Settings.faults ++
      Mode.countFaults (Mode.ofJson (record.optional "roll_type".toList)) second.isEmpty
  | _ => [.notFields]

/-- A required field of a record that is there is what is found under its name. -/
theorem Json.optional_of_require {record value : Json} {name : Text}
    (required : record.require name = .ok value) : record.optional name = value := by
  -- Only an object has fields, and a field that is required is there.
  cases record with
  | object fields =>
    rw [require] at required
    rw [optional]
    split at required
    · rename_i found
      rw [found, Except.ok.inj required]
      rfl
    · cases required
  | _ => cases required

/-- Settings are refused for their first fault. -/
theorem Settings.stopsAt_ofRecord {record : Json} (options : HasFittingOptions record) :
    StopsAt (faults record) (ofRecord record) := by
  obtain ⟨⟨modifier, modifier_given⟩, label, label_given⟩ := options
  -- Values of the right kinds are taken as they are.
  have modifier_read : (record.optional "modifier".toList).toInt? = .ok modifier := by
    rw [modifier_given]
    cases modifier <;> rfl
  have label_read : (record.optional "label".toList).toText? = .ok label := by
    rw [label_given]
    cases label <;> rfl
  -- Number and sides are read one after the other, and nothing behind them can fail.
  have steps : ofRecord record = (do
      let number ← record.require "number".toList >>= Json.toInt
      let sides ← record.require "sides".toList >>= Json.toInt
      pure ⟨number, sides, modifier, label⟩) := by
    simp only [ofRecord, modifier_read, label_read, bind_assoc]
    rfl
  rw [steps, faults]
  -- The first of the two parts that fails decides.
  refine (Json.stopsAt_field fun value _ => stopsAt_faultOf value.toInt).bind fun number _ => ?_
  exact (Json.stopsAt_field fun value _ => stopsAt_faultOf value.toInt).finish fun sides => ⟨_, rfl⟩

/-- A roll is refused for its first fault. -/
theorem Roll.stopsAt_ofRecord {record : Json}
    (options : Settings.HasFittingOptions (record.optional "settings".toList)) :
    StopsAt (faults record) (ofRecord record) := by
  -- The three fields are read in order, and making the roll of them cannot fail.
  have steps : ofRecord record = (do
      let values ← record.require "rolls".toList >>= fun value => value.elements >>= Json.toInts
      let total ← record.require "total".toList >>= Json.toInt
      let settings ← record.require "settings".toList >>= Settings.ofRecord
      pure ⟨values, total, settings⟩) := by
    simp only [ofRecord, bind_assoc]
  rw [steps, faults, List.append_assoc]
  refine (Json.stopsAt_field fun value _ => value.stopsAt_faces).bind fun values _ => ?_
  refine (Json.stopsAt_field fun value _ => stopsAt_faultOf value.toInt).bind fun total _ => ?_
  refine StopsAt.finish (Json.stopsAt_field fun value required => ?_) fun settings => ⟨_, rfl⟩
  rw [Json.optional_of_require required] at options
  exact Settings.stopsAt_ofRecord options

/-- A second attempt is refused for its first fault, unless it is empty. -/
theorem Roll.stopsAt_ofRecord? {record : Json}
    (options : Settings.HasFittingOptions (record.optional "settings".toList)) :
    StopsAt (if record.isEmpty then [] else faults record) (ofRecord? record) := by
  rw [ofRecord?]
  -- An empty record stands for no roll, and nothing about it can be wrong.
  split
  · exact ⟨none, rfl⟩
  · exact (stopsAt_ofRecord options).finish fun roll => ⟨some roll, rfl⟩

/-- There is a second attempt exactly if its value is not empty. -/
theorem Roll.isNone_of_ofRecord? {record : Json} {second : Option Roll}
    (read : ofRecord? record = .ok second) : second.isNone = record.isEmpty := by
  -- The record is read only if it holds something.
  rw [ofRecord?] at read
  split at read
  · rename_i empty
    rw [← Except.ok.inj read, empty]
    rfl
  · rename_i given
    obtain ⟨roll, -, rfl⟩ := map_eq_ok_iff.mp read
    simpa using given

/-- The attempts of a mode are refused if there are too many or too few of them. -/
theorem Attempts.stopsAt_ofMode (mode : Mode) (first : Roll) (second : Option Roll) :
    StopsAt (Mode.countFaults (.ok mode) second.isNone) (ofMode mode first second) := by
  cases mode <;> cases second <;> first | exact rfl | exact ⟨_, rfl⟩

/-- A session is refused for the first fault of its record. -/
theorem Session.stopsAt_ofRecord {record : Json} (options : HasFittingOptions record) :
    StopsAt (faults record) (ofRecord record) := by
  obtain ⟨first_options, second_options, whole_options⟩ := options
  cases record with
  | object fields =>
    -- Every part is read, also a second attempt that is one too many, before the attempts are counted.
    have steps : ofRecord (.object fields) = (do
        let mode ← (Json.object fields).require "roll_type".toList >>= Mode.ofJson
        let first ← (Json.object fields).require "try_one".toList >>= Roll.ofRecord
        let second ← Roll.ofRecord? ((Json.object fields).optional "try_two".toList)
        let settings ← (Json.object fields).require "settings".toList >>= Settings.ofRecord
        let attempts ← Attempts.ofMode mode first second
        pure ⟨attempts, settings⟩) := by
      simp only [ofRecord, bind_assoc]
    rw [steps, faults]
    simp only [List.append_assoc]
    -- Mode, first attempt, second attempt and settings come in this order.
    refine (Json.stopsAt_field fun value _ => stopsAt_faultOf (Mode.ofJson value)).bind
      fun mode mode_read => ?_
    refine (Json.stopsAt_field fun value required => ?_).bind fun first _ => ?_
    · rw [Json.optional_of_require required] at first_options
      exact Roll.stopsAt_ofRecord first_options
    refine (Roll.stopsAt_ofRecord? second_options).bind fun second second_read => ?_
    refine (Json.stopsAt_field fun value required => ?_).bind fun settings _ => ?_
    · rw [Json.optional_of_require required] at whole_options
      exact Settings.stopsAt_ofRecord whole_options
    -- The number of attempts is compared with the mode that was read.
    obtain ⟨value, required, named⟩ := bind_eq_ok_iff.mp mode_read
    rw [Json.optional_of_require required, named, ← Roll.isNone_of_ofRecord? second_read]
    exact (Attempts.stopsAt_ofMode mode first second).finish fun attempts => ⟨_, rfl⟩
  | _ => exact rfl

/-- A value that has fields. -/
def Json.IsObject (value : Json) : Prop :=
  ∃ fields, value = .object fields

/-- A value that an integer is looked for in: a truth value, a text, or a number that is not infinite. -/
def Json.IsNumeric : Json → Prop
  | .null | .array _ | .object _ | .fraction (.infinite _) => False
  | .bool _ | .whole _ | .fraction _ | .string _ => True

/-- What is given in the record of settings is of the kinds that belong there. -/
structure Settings.IsShaped (record : Json) : Prop where
  /-- The record has fields. -/
  object : record.IsObject
  /-- The number of dice is numeric. -/
  number : ∀ value, record.require "number".toList = .ok value → value.IsNumeric
  /-- The number of sides is numeric. -/
  sides : ∀ value, record.require "sides".toList = .ok value → value.IsNumeric

/-- What is given in the record of a roll is of the kinds that belong there. -/
structure Roll.IsShaped (record : Json) : Prop where
  /-- The record has fields. -/
  object : record.IsObject
  /-- The faces are numeric. -/
  rolls : ∀ value, record.require "rolls".toList = .ok value →
    ∃ items, value.elements = .ok items ∧ ∀ item ∈ items, item.IsNumeric
  /-- The total is numeric. -/
  total : ∀ value, record.require "total".toList = .ok value → value.IsNumeric
  /-- The settings are shaped. -/
  settings : ∀ value, record.require "settings".toList = .ok value → Settings.IsShaped value

/-- What is given in the record of a session is of the kinds that belong there. -/
structure Session.IsShaped (record : Json) : Prop where
  /-- The record has fields. -/
  object : record.IsObject
  /-- The first attempt is shaped. -/
  first : ∀ value, record.require "try_one".toList = .ok value → Roll.IsShaped value
  /-- The second attempt is shaped unless it is empty. -/
  second : (record.optional "try_two".toList).isEmpty = false →
    Roll.IsShaped (record.optional "try_two".toList)
  /-- The settings are shaped. -/
  settings : ∀ value, record.require "settings".toList = .ok value → Settings.IsShaped value

/-- All of the faults are documented. -/
def AreDocumented (faults : List RecordError) : Prop :=
  ∀ error ∈ faults, error.isDocumented = true

/-- Faults are documented together exactly if they are apart. -/
theorem areDocumented_append_iff {first second : List RecordError} :
    AreDocumented (first ++ second) ↔ AreDocumented first ∧ AreDocumented second :=
  List.forall_mem_append

/-- Without faults there is nothing to document. -/
theorem areDocumented_nil : AreDocumented [] :=
  nofun

/-- A single fault is documented or not. -/
theorem areDocumented_singleton_iff {error : RecordError} :
    AreDocumented [error] ↔ error.isDocumented = true :=
  List.forall_mem_singleton

namespace Json

/-- Only a value that is not numeric fails to stand for an integer in a way that is not documented. -/
theorem areDocumented_intFaults_iff {value : Json} :
    AreDocumented value.intFaults ↔ value.IsNumeric := by
  cases value with
  | bool value =>
    cases value <;> exact iff_of_true areDocumented_nil trivial
  -- A fraction that is infinite has no whole part, and that error is not in the documents.
  | fraction value =>
    cases value with
    | finite negative significand exponent =>
      -- A finite number has a whole part.
      exact iff_of_true areDocumented_nil trivial
    | infinite negative =>
      exact iff_of_false (fun documented => nomatch areDocumented_singleton_iff.mp documented) id
    | nan => exact iff_of_true (areDocumented_singleton_iff.mpr rfl) trivial
  | string text =>
    refine iff_of_true ?_ trivial
    -- A text is read as a numeral, and a fault of it is documented.
    rw [intFaults, toInt]
    cases readInt text.plain with
    | ok value => exact areDocumented_nil
    | error fault => exact areDocumented_singleton_iff.mpr rfl
  | whole value => exact iff_of_true areDocumented_nil trivial
  | null | array items | object fields =>
    exact iff_of_false (fun documented => nomatch areDocumented_singleton_iff.mp documented) id

/-- Faces fail in a documented way exactly if there are elements and all of them are numeric. -/
theorem areDocumented_facesFaults_iff {value : Json} :
    AreDocumented value.facesFaults ↔
      ∃ items, value.elements = .ok items ∧ ∀ item ∈ items, item.IsNumeric := by
  rw [facesFaults]
  cases found : value.elements with
  | ok items =>
    have each : AreDocumented (items.flatMap intFaults) ↔
        ∀ item ∈ items, AreDocumented item.intFaults := List.forall_mem_flatMap
    simp only [each, areDocumented_intFaults_iff, Except.ok.injEq, exists_eq_left']
  | error error =>
    -- Elements are missing for no other reason than the kind of the value.
    have kind : error = .wrongKind := by
      cases value <;> simp_all [elements]
    subst kind
    exact iff_of_false (fun documented => nomatch areDocumented_singleton_iff.mp documented)
      fun ⟨_, given, _⟩ => nomatch given

/-- A required field fails in a documented way exactly if there are fields, and its value does so where it is given. -/
theorem areDocumented_fieldFaults_iff {record : Json} {name : Text}
    {faults : Json → List RecordError} :
    AreDocumented (record.fieldFaults name faults) ↔
      record.IsObject ∧ ∀ value, record.require name = .ok value → AreDocumented (faults value) := by
  rw [fieldFaults]
  cases record with
  | object fields =>
    have object : (Json.object fields).IsObject := ⟨fields, rfl⟩
    cases required : (Json.object fields).require name with
    | ok value => simp [object]
    | error error =>
      -- Among fields, only a missing one is a fault.
      have missing : error = .missing name := by
        rw [require] at required
        split at required
        · exact nomatch required
        · exact (Except.error.inj required).symm
      subst missing
      exact iff_of_true (areDocumented_singleton_iff.mpr rfl) ⟨object, nofun⟩
  | _ =>
    exact iff_of_false (fun documented => nomatch areDocumented_singleton_iff.mp documented)
      fun ⟨⟨_, equal⟩, _⟩ => nomatch equal

end Json

/-- All faults of settings are documented exactly if the record is shaped. -/
theorem Settings.areDocumented_faults_iff {record : Json} :
    AreDocumented (faults record) ↔ IsShaped record := by
  simp only [faults, areDocumented_append_iff, Json.areDocumented_fieldFaults_iff,
    Json.areDocumented_intFaults_iff]
  -- Each field is required of the same object.
  constructor
  · rintro ⟨⟨object, number⟩, -, sides⟩
    exact ⟨object, number, sides⟩
  · rintro ⟨object, number, sides⟩
    exact ⟨⟨object, number⟩, object, sides⟩

/-- All faults of a roll are documented exactly if the record is shaped. -/
theorem Roll.areDocumented_faults_iff {record : Json} :
    AreDocumented (faults record) ↔ IsShaped record := by
  simp only [faults, areDocumented_append_iff, Json.areDocumented_fieldFaults_iff,
    Json.areDocumented_intFaults_iff, Json.areDocumented_facesFaults_iff,
    Settings.areDocumented_faults_iff]
  -- Each field is required of the same object.
  constructor
  · rintro ⟨⟨⟨object, rolls⟩, -, total⟩, -, settings⟩
    exact ⟨object, rolls, total, settings⟩
  · rintro ⟨object, rolls, total, settings⟩
    exact ⟨⟨⟨object, rolls⟩, object, total⟩, object, settings⟩

/-- A wrong number of attempts is documented. -/
theorem Mode.areDocumented_countFaults (mode : Except RecordError Mode) (alone : Bool) :
    AreDocumented (countFaults mode alone) := by
  unfold countFaults
  split <;> first | exact areDocumented_singleton_iff.mpr rfl | exact areDocumented_nil

/-- A value that names no mode is documented. -/
theorem Mode.areDocumented_ofJson (value : Json) : AreDocumented (faultOf (ofJson value)) := by
  -- A mode is a text, and one of the known ones.
  unfold ofJson
  split
  · split
    · exact areDocumented_nil
    · exact areDocumented_singleton_iff.mpr rfl
  · exact areDocumented_singleton_iff.mpr rfl

/-- All faults of a session are documented exactly if the record is shaped. -/
theorem Session.areDocumented_faults_iff {record : Json} :
    AreDocumented (faults record) ↔ IsShaped record := by
  -- Only an object has fields; anything else is refused in an undocumented way.
  cases record with
  | object fields =>
    -- A second attempt is looked at only if the field holds something.
    have second {value : Json} :
        AreDocumented (if value.isEmpty then [] else Roll.faults value) ↔
          (value.isEmpty = false → Roll.IsShaped value) := by
      cases value.isEmpty <;> simp [Roll.areDocumented_faults_iff, areDocumented_nil]
    simp only [faults, areDocumented_append_iff, Json.areDocumented_fieldFaults_iff, second,
      Roll.areDocumented_faults_iff, Settings.areDocumented_faults_iff, Mode.areDocumented_ofJson,
      Mode.areDocumented_countFaults, implies_true, and_true]
    constructor
    · rintro ⟨⟨⟨object, -, first⟩, two⟩, -, settings⟩
      exact ⟨object, first, two, settings⟩
    · rintro ⟨object, first, two, settings⟩
      exact ⟨⟨⟨object, object, first⟩, two⟩, object, settings⟩
  | _ =>
    exact iff_of_false (fun documented => nomatch areDocumented_singleton_iff.mp documented)
      fun shaped => nomatch shaped.object.choose_spec

/-- A session is rolled in the mode that its record names, and has as many attempts as that mode makes. -/
def Session.GoesWith (session : Session) (record : Json) : Prop :=
  Mode.ofJson (record.optional "roll_type".toList) = .ok session.mode ∧
    session.rolls.length = if session.mode = .straight then 1 else 2

/-- The attempts of a mode are as many as it makes. -/
theorem Attempts.mode_of_ofMode {mode : Mode} {first : Roll} {second : Option Roll}
    {attempts : Attempts} (made : ofMode mode first second = .ok attempts) (settings : Settings) :
    (Session.mk attempts settings).mode = mode ∧
      (Session.mk attempts settings).rolls.length = if mode = .straight then 1 else 2 := by
  -- Three of the five cases fit the mode, and the other two are errors.
  unfold ofMode at made
  split at made
  case h_1 | h_3 | h_5 =>
    obtain rfl := Except.ok.inj made
    exact ⟨rfl, rfl⟩
  all_goals exact nomatch made

/-- A session that is read goes with its record. -/
theorem Session.goesWith_of_ofRecord {record : Json} {session : Session}
    (read : ofRecord record = .ok session) : session.GoesWith record := by
  cases record with
  | object fields =>
    -- The record was read, so each of its parts was.
    obtain ⟨value, required, read⟩ := bind_eq_ok_iff.mp read
    obtain ⟨mode, named, read⟩ := bind_eq_ok_iff.mp read
    obtain ⟨_, -, read⟩ := bind_eq_ok_iff.mp read
    obtain ⟨first, -, read⟩ := bind_eq_ok_iff.mp read
    obtain ⟨second, -, read⟩ := bind_eq_ok_iff.mp read
    obtain ⟨_, -, read⟩ := bind_eq_ok_iff.mp read
    obtain ⟨settings, -, read⟩ := bind_eq_ok_iff.mp read
    obtain ⟨attempts, made, read⟩ := bind_eq_ok_iff.mp read
    obtain rfl := Except.ok.inj read
    -- The attempts were made for the mode that was named.
    obtain ⟨same, count⟩ := Attempts.mode_of_ofMode made settings
    refine ⟨?_, ?_⟩
    · rw [Json.optional_of_require required, named, same]
    · rw [same, count]
  | _ => exact nomatch read

/-- A record gives a session that goes with it, or is refused for its first fault; every fault is documented exactly if
the record is shaped, and the refusal is documented exactly if its first fault is. -/
theorem Session.ofRecord_classifies {record : Json} (options : HasFittingOptions record) :
    ((∃ session, ofRecord record = .ok session ∧ session.GoesWith record) ↔ faults record = []) ∧
      (∀ error, ofRecord record = .error error ↔ (faults record).head? = some error) ∧
      (AreDocumented (faults record) ↔ IsShaped record) ∧
      (((∃ session, ofRecord record = .ok session ∧ session.GoesWith record) ∨
          ∃ error, ofRecord record = .error error ∧ error.isDocumented = true) ↔
        ∀ error ∈ (faults record).head?, error.isDocumented = true) := by
  have stops := stopsAt_ofRecord options
  -- What is given always goes with its record, so the faults alone decide.
  have given : (∃ session, ofRecord record = .ok session ∧ session.GoesWith record) ↔
      faults record = [] := by
    rw [← stops.exists_eq_ok_iff]
    exact exists_congr fun session => and_iff_left_of_imp goesWith_of_ofRecord
  refine ⟨given, fun error => stops.eq_error_iff, areDocumented_faults_iff, ?_⟩
  simp only [given, stops.eq_error_iff]
  cases faults record <;> simp

/-- Of two faults the first one decides: the null among the faces is noticed before the missing total, and it is not
documented. -/
theorem Session.ofRecord_classifies_faces :
    let settings : Json := .object [(.whole "number".toList, .string "2".toList),
      (.whole "sides".toList, .whole 6), (.whole "label".toList, .string "Fire".toList)]
    let attempt : Json := .object [(.whole "rolls".toList, .array [.whole 3, .null]),
      (.whole "settings".toList, settings)]
    let record : Json := .object [(.whole "roll_type".toList, .string "advantage".toList),
      (.whole "try_one".toList, attempt), (.whole "settings".toList, settings)]
    HasFittingOptions record ∧
      faults record = [.wrongKind, .missing "total".toList, .oneTooFew .higher] ∧
      ofRecord record = .error .wrongKind ∧ ¬IsShaped record := by
  intro settings attempt record
  have fitting : Settings.HasFittingOptions settings := ⟨⟨none, rfl⟩, some "Fire".toList, rfl⟩
  have options : HasFittingOptions record := ⟨fitting, ⟨⟨none, rfl⟩, none, rfl⟩, fitting⟩
  obtain ⟨-, refused, shaped, -⟩ := ofRecord_classifies options
  have all : faults record = [.wrongKind, .missing "total".toList, .oneTooFew .higher] := rfl
  refine ⟨options, all, (refused .wrongKind).mpr (by rw [all]; rfl), ?_⟩
  -- Being shaped does not depend on which fault is noticed first.
  rw [← shaped, all]
  exact fun documented => nomatch documented .wrongKind List.mem_cons_self

/-- A first attempt that is null is refused for its kind, which is not documented. -/
theorem Session.ofRecord_undocumented :
    let settings : Json := .object [(.whole "number".toList, .whole 1), (.whole "sides".toList, .whole 6)]
    let record : Json := .object [(.whole "roll_type".toList, .string "straight".toList),
      (.whole "try_one".toList, .null), (.whole "settings".toList, settings)]
    HasFittingOptions record ∧
      ¬((∃ session, ofRecord record = .ok session ∧ session.GoesWith record) ∨
        ∃ error, ofRecord record = .error error ∧ error.isDocumented = true) := by
  intro settings record
  -- Both options of the settings are missing, which is allowed.
  have fitting : Settings.HasFittingOptions settings := ⟨⟨none, rfl⟩, none, rfl⟩
  have refused : ofRecord record = .error .wrongKind := rfl
  refine ⟨⟨⟨⟨none, rfl⟩, none, rfl⟩, ⟨⟨none, rfl⟩, none, rfl⟩, fitting⟩, ?_⟩
  -- The one error is neither a session nor documented.
  rintro (⟨session, given, -⟩ | ⟨error, told, documented⟩)
  · exact nomatch refused.symm.trans given
  · obtain rfl := Except.error.inj (refused.symm.trans told)
    exact nomatch documented

end DiceChat
