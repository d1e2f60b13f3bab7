import DiceChat.Config.Store
import DiceChat.Proofs.Json.Draft
import DiceChat.Proofs.Json.RoundTrip
import DiceChat.Record.Decode
import DiceChat.Record.Encode

/-! Records lose nothing: a session is read back from its record, and from the document of its record. -/

namespace DiceChat

/-- Whole numbers in an array are taken from it one by one. -/
theorem Json.toInts_whole (values : List Int) : Json.toInts (values.map .whole) = .ok values := by
  -- A whole number is taken as it is.
  induction values with
  | nil => rfl
  | cons value values ih =>
    rw [List.map_cons, Json.toInts, ih]
    rfl

/-- Settings are read back from their record. -/
theorem Settings.ofRecord_record (settings : Settings) :
    Settings.ofRecord (settings.record true) = .ok settings := by
  -- A missing modifier or label is recorded as nothing and read as such.
  rcases settings with ⟨number, sides, _ | modifier, _ | label⟩ <;> rfl

/-- A roll is read back from its record. -/
theorem Roll.ofRecord_record (roll : Roll) : Roll.ofRecord (roll.record true) = .ok roll := by
  -- The three fields are found under their names.
  have values : (roll.record true).require "rolls".toList =
      .ok (.array (roll.values.map .whole)) := rfl
  have total : (roll.record true).require "total".toList = .ok (.whole roll.total) := rfl
  have settings : (roll.record true).require "settings".toList = .ok (roll.settings.record true) :=
    rfl
  simp only [Roll.ofRecord, values, total, settings, bind, Except.bind, Json.elements,
    Json.toInts_whole, Json.toInt, Settings.ofRecord_record, pure, Except.pure]

/-- The record of a roll holds something, so it is read back as a second attempt. -/
theorem Roll.ofRecord?_record (roll : Roll) : Roll.ofRecord? (roll.record true) = .ok (some roll) :=
  congrArg (Except.map some) (Roll.ofRecord_record roll)

/-- A session is read back from its record. -/
theorem Session.ofRecord_record (session : Session) :
    Session.ofRecord session.record = .ok session := by
  -- Every field is found under its name, so the fields are read one after the other.
  have steps : Session.ofRecord session.record = (do
      let mode ← Mode.ofJson (.string session.mode.name)
      let first ← Roll.ofRecord (session.attempts.first.record true)
      let second ← Roll.ofRecord? session.attempts.secondRecord
      let settings ← Settings.ofRecord (session.settings.record true)
      let attempts ← Attempts.ofMode mode first second
      pure ⟨attempts, settings⟩) := rfl
  rw [steps, Roll.ofRecord_record, Settings.ofRecord_record]
  -- A second attempt is read back where there is one.
  rcases session with ⟨only | ⟨_ | _, first, second⟩, settings⟩
  · rfl
  · rw [Attempts.secondRecord, Roll.ofRecord?_record]
    rfl
  · rw [Attempts.secondRecord, Roll.ofRecord?_record]
    rfl

/-- The numbers of a roll. -/
def Roll.integers (roll : Roll) : List Int :=
  roll.values ++ roll.total :: roll.settings.integers

/-- The numbers of a session. -/
def Session.integers (session : Session) : List Int :=
  session.rolls.flatMap Roll.integers ++ session.settings.integers

section

variable {holds : Json → Prop} (others : ∀ value, (∀ n, value ≠ .whole n) → holds value)

include others

/-- What is true of all but numbers holds throughout a record if it holds of the numbers in it. -/
theorem Settings.throughout_record_iff (settings : Settings) :
    (settings.record true).Throughout holds ↔ ∀ n ∈ settings.integers, holds (.whole n) := by
  -- Only a modifier that is there is a number.
  rcases settings with ⟨number, sides, _ | modifier, _ | label⟩ <;>
    simp [record, bareFields, integers, others, Json.ofInt?, Json.ofText?]

/-- What is true of all but numbers holds throughout a record if it holds of the numbers in it. -/
theorem Roll.throughout_record_iff (roll : Roll) :
    (roll.record true).Throughout holds ↔ ∀ n ∈ roll.integers, holds (.whole n) := by
  have settings := Settings.throughout_record_iff others roll.settings
  simp [record, integers, others, settings, or_imp, forall_and]

/-- What is true of all but numbers holds throughout a record if it holds of the numbers in it. -/
theorem Session.throughout_record_iff (session : Session) :
    session.record.Throughout holds ↔ ∀ n ∈ session.integers, holds (.whole n) := by
  -- The numbers of a record are those of its attempts and its settings.
  have settings := Settings.throughout_record_iff others
  have rolls := Roll.throughout_record_iff others
  rcases session with ⟨only | ⟨_ | _, one, two⟩, asked⟩ <;>
    simp [record, integers, others, settings, rolls, or_imp, forall_and, Attempts.first,
      Attempts.secondRecord, Session.rolls]

end

/-- The names in a record of settings are whole and distinct. -/
theorem Settings.isSound_record (settings : Settings) :
    (settings.record true).Throughout Json.IsSound := by
  -- Whether the two options are there decides which fields there are.
  rcases settings with ⟨number, sides, _ | modifier, _ | label⟩ <;>
    simp [record, bareFields, Json.ofInt?, Json.ofText?, Json.IsSound, Json.IsExact,
      Json.HasDistinctNames]

/-- The names in a record of a roll are whole and distinct. -/
theorem Roll.isSound_record (roll : Roll) : (roll.record true).Throughout Json.IsSound := by
  simp [record, roll.settings.isSound_record, Json.IsSound, Json.IsExact, Json.HasDistinctNames]

/-- The names in a record of a session are whole and distinct. -/
theorem Session.isSound_record (session : Session) : session.record.Throughout Json.IsSound := by
  -- The attempts decide which fields there are.
  rcases session with ⟨only | ⟨_ | _, one, two⟩, asked⟩ <;>
    simp [record, Attempts.first, Attempts.secondRecord, Settings.isSound_record,
      Roll.isSound_record, Json.IsSound, Json.IsExact, Json.HasDistinctNames]

/-- The numbers in a record of settings hold no further values. -/
theorem Settings.depth_record_le (settings : Settings) : (settings.record true).depth ≤ 1 := by
  rcases settings with ⟨number, sides, _ | modifier, _ | label⟩ <;>
    simp [record, bareFields, Json.ofInt?, Json.ofText?, Json.depth, Json.depthOfFields]

/-- The deepest values in a record of a roll are those of its settings and its faces. -/
theorem Roll.depth_record_le (roll : Roll) : (roll.record true).depth ≤ 2 := by
  -- Faces are numbers, so only the settings are nested deeper.
  have faces : Json.depthOfItems (roll.values.map .whole) ≤ 0 := by
    rw [Json.depthOfItems_le_iff]
    simp [Json.depth]
  have settings := roll.settings.depth_record_le
  simp only [record, Json.depth, Json.depthOfFields]
  omega

/-- The deepest values in a record of a session are those of its attempts. -/
theorem Session.depth_record_le (session : Session) : session.record.depth ≤ 3 := by
  -- The two attempts and the settings lie one level below the record.
  have first := session.attempts.first.depth_record_le
  have settings := session.settings.depth_record_le
  have second : session.attempts.secondRecord.depth ≤ 2 := by
    cases session.attempts with
    | one only => simp [Attempts.secondRecord, Json.depth]
    | two keep one two => exact two.depth_record_le
  simp only [record, Json.depth, Json.depthOfFields]
  omega

/-- A record is read back from its document if its numbers are short enough. -/
theorem Session.readWithin_write {session : Session} {limits : JsonLimits}
    (short : ∀ n ∈ session.integers, (Json.whole n).IsWithin limits.digits)
    (deep : ∀ most, limits.depth = some most → 3 ≤ most) :
    Json.readWithin limits session.record.write = .ok session.record := by
  -- A record has no fraction and no torn text, and it is never deep.
  have within := (Session.throughout_record_iff (fun _ => Json.isWithin_of_ne_whole) session).mpr
    short
  have legible : session.record.Throughout (Json.IsLegible limits.digits) :=
    session.isSound_record.and within
  exact Json.readWithin_write legible fun most limit =>
    Nat.le_trans session.depth_record_le (deep most limit)

/-- The record of a session is written in full if all its numbers have numerals, else not at all. -/
theorem Session.dump_record (session : Session) :
    ((∀ n ∈ session.integers, digitCount n ≤ maxNumeralDigits) →
      session.record.dump = .ok session.record.write) ∧
    ((∃ n ∈ session.integers, maxNumeralDigits < digitCount n) →
      session.record.dump = .error .tooLong) := by
  -- Whether a record can be written depends on its numbers alone.
  have exact : session.record.Throughout Json.IsExact :=
    session.isSound_record.imp fun _ sound => sound.1
  have writable : session.record.Throughout Json.IsWritable ↔
      ∀ n ∈ session.integers, (Json.whole n).IsWritable :=
    Session.throughout_record_iff (fun _ => Json.isWithin_of_ne_whole) session
  obtain ⟨written, refused⟩ := Json.dump_of_exact exact
  -- Both parts are said about all numbers of the session.
  constructor
  · intro short
    refine written (writable.mpr ?_)
    rintro n member most ⟨⟩
    exact short n member
  · rintro ⟨n, member, long⟩
    refine refused fun all => ?_
    exact Nat.not_lt.mpr (writable.mp all n member maxNumeralDigits rfl) long

/-- A number of a session may be too long to be written, though every part of the session is valid. -/
theorem Session.dump_record_tooLong :
    let settings : Settings := ⟨1, 1, some (10 ^ 4300 - 1), none⟩
    (Session.mk (.one ⟨[1], 10 ^ 4300, settings⟩) settings).record.dump = .error .tooLong := by
  intro settings
  -- The total is one of the numbers of the record, and it is the one that is too long.
  refine (Session.dump_record _).2 ⟨10 ^ 4300, .tail _ (.head _), ?_⟩
  have long : ¬(writeNat (10 ^ 4300)).length ≤ 4300 := by
    rw [length_writeNat_le_iff (by decide)]
    exact Nat.lt_irrefl _
  -- The length is taken without the sign.
  have magnitude : ∀ n : Nat, Int.natAbs (10 ^ n) = 10 ^ n := Int.natAbs_pow 10
  rw [digitCount, magnitude]
  exact Nat.not_le.mp long

/-- A reader takes numbers as long as numerals may be, and values as deep as records are. -/
structure JsonLimits.TakeRecords (limits : JsonLimits) : Prop where
  /-- Every number with a numeral can be read. -/
  digits : ∀ most, limits.digits = some most → maxNumeralDigits ≤ most
  /-- A value inside three others can be read. -/
  depth : ∀ most, limits.depth = some most → 3 ≤ most

/-- A session is read back from the document of its record, which is written wherever numbers have numerals. -/
theorem Session.record_roundTrip :
    (∀ session : Session,
      ((∃ n ∈ session.integers, maxNumeralDigits < digitCount n) →
        session.record.dump = .error .tooLong) ∧
      ((∀ n ∈ session.integers, digitCount n ≤ maxNumeralDigits) →
        ∃ text, session.record.dump = .ok text ∧
          ∀ limits : JsonLimits, limits.TakeRecords →
            ∃ record again, Json.readWithin limits text = .ok record ∧
              Session.ofRecord record = .ok again ∧ again = session ∧
              again.record.dump = .ok text)) ∧
    ∀ record session, Session.ofRecord record = .ok session →
      Session.ofRecord session.record = .ok session := by
  -- The text is the document of the record, whatever limits it is read with.
  refine ⟨fun session => ⟨session.dump_record.2, ?_⟩, fun _ session _ => session.ofRecord_record⟩
  intro short
  have written := session.dump_record.1 short
  refine ⟨session.record.write, written, ?_⟩
  intro limits taken
  refine ⟨session.record, session, ?_, session.ofRecord_record, rfl, written⟩
  refine Session.readWithin_write (fun n member most limit => ?_) taken.depth
  exact Nat.le_trans (short n member) (taken.digits most limit)

/-- A session of two attempts with no dice, odd totals and a label of escapes is read back. -/
theorem Session.record_roundTrip_escapes :
    let settings : Settings := ⟨0, -3, some 0, some "a\"\\\n\x01é😀".toList⟩
    let session : Session :=
      ⟨.two .lower ⟨[], -7, settings⟩ ⟨[3, -4], 10, ⟨2, 6, none, some []⟩⟩, settings⟩
    (∀ n ∈ session.integers, digitCount n ≤ maxNumeralDigits) ∧
      (∃ text, session.record.dump = .ok text ∧
        ∀ limits : JsonLimits, limits.TakeRecords →
          ∃ record again, Json.readWithin limits text = .ok record ∧
            Session.ofRecord record = .ok again ∧ again = session ∧ again.record.dump = .ok text) := by
  intro settings session
  -- All numbers are short, so the theorem gives the text and everything about it.
  have short : ∀ n ∈ session.integers, digitCount n ≤ maxNumeralDigits := by decide
  exact ⟨short, (Session.record_roundTrip.1 session).2 short⟩

end DiceChat
