import DiceChat.Proofs.Chat.Delivery
import DiceChat.Proofs.Notation.Faults

/-! Refusals: what is no notation is told back in full, so a refusal fits the platform only if the
expression is short. -/

namespace DiceChat

/-- The most characters of an expression with this fault that a refusal can hold beside its own text. -/
def NotationFault.spare : NotationFault → Nat
  | .invalidFormat => 3864
  | .tooBig => 3843
  | .cannotBeZero => 3838

/-- A frame is within the limits of the platform. -/
structure Embed.Fits (embed : Embed) : Prop where
  /-- The title is not too long. -/
  title : embed.title.length ≤ 256
  /-- The text is not too long. -/
  description : embed.description.length ≤ 4096

/-- What has the fault as soon as letters follow. -/
def NotationFault.opening : NotationFault → Text
  | .invalidFormat => []
  | .tooBig => "99999".toList
  | .cannotBeZero => "0d1".toList

/-- An expression with the fault: its opening and so many letters. -/
def NotationFault.lettered (fault : NotationFault) (count : Nat) : Text :=
  fault.opening ++ List.replicate count 'x'

/-- The frame of a refusal. -/
def NotationError.embed (error : NotationError) : Embed :=
  (refusal error).embed.getD ⟨[], [], 0⟩

/-- A refusal is the reply of its frame. -/
theorem refusal_eq (error : NotationError) : refusal error = .embedReply error.embed :=
  rfl

/-- The text of a refusal has 211 characters around the message of its error. -/
theorem length_around (error : NotationError) :
    error.embed.description.length = 211 + error.message.length := by
  -- What stands around the message is the same for every error.
  have empty : (NotationError.embed ⟨.invalidFormat, []⟩).description.length = 232 := by
    decide +kernel
  have heading : NotationFault.invalidFormat.heading.length = 21 := by decide
  simp only [NotationError.embed, refusal, Message.embedReply, Option.getD_some,
    NotationError.message, List.length_append, List.length_nil] at empty ⊢
  omega

/-- The text of a refusal grows with what it refuses, without bound. -/
theorem length_embed (error : NotationError) :
    error.embed.description.length + error.fault.spare = 4096 + error.fragment.length := by
  -- What a heading takes is not spare.
  have heading : error.fault.heading.length + error.fault.spare = 3885 := by
    cases error.fault <;> decide
  rw [length_around, NotationError.message, List.length_append]
  omega

/-- A refusal fits exactly if what it refuses is no longer than what is spare. -/
theorem fits_embed_iff (error : NotationError) :
    error.embed.Fits ↔ error.fragment.length ≤ error.fault.spare := by
  have length := length_embed error
  constructor
  · rintro ⟨-, within⟩
    omega
  · intro short
    -- The title is the same for every refusal.
    exact ⟨show "Roll error".toList.length ≤ 256 by decide, by omega⟩

namespace NotationFault

variable (fault : NotationFault) (count : Nat)

/-- Each letter is one character more. -/
theorem length_lettered : (fault.lettered count).length = fault.opening.length + count := by
  rw [lettered, List.length_append, List.length_replicate]

/-- There are no blanks around an expression that ends in a letter. -/
theorem trim_lettered : trim (fault.lettered (count + 1)) = fault.lettered (count + 1) := by
  have letter : isBlank 'x' = false := by decide
  refine IsTrimmed.trim_eq ⟨?_, ?_⟩
  · -- The first character is one of the opening, or the first letter where there is none.
    cases fault <;> simp [lettered, opening, List.replicate_succ] <;> decide
  · simpa [lettered, List.getLast?_append, List.getLast?_replicate] using letter

/-- Whatever the number of letters, they are refused for the fault. -/
theorem parse_lettered :
    Notation.parse (fault.lettered (count + 1)) =
      .error ⟨fault, fault.lettered (count + 1)⟩ := by
  -- No reader looks past the first letter.
  have read : Notation.readSettings (fault.lettered (count + 1)) = .error fault := by
    cases fault <;> rfl
  rw [Notation.parse, read, trim_lettered]
  rfl

/-- An expression of five letters is neither blank nor a word for eyes. -/
theorem visible_lettered (many : 4 ≤ count) :
    ¬AllBlank (fault.lettered (count + 1)) ∧ trim (fault.lettered (count + 1)) ∉ eyeWords := by
  have long : 5 ≤ (fault.lettered (count + 1)).length := by
    rw [length_lettered]
    omega
  rw [← trim_eq_nil_iff, trim_lettered]
  constructor
  · intro empty
    rw [empty] at long
    exact absurd long (by decide)
  · intro seen
    -- The words for eyes are shorter.
    have short : ∀ word ∈ eyeWords, word.length ≤ 4 := by decide
    have := short _ seen
    omega

end NotationFault

namespace Room

variable {expression : Text} {error : NotationError}

/-- An expression that is refused is answered by the frame of its error, and nothing stands in for it. -/
theorem deliveries_refused (visible : ¬AllBlank expression) (unseen : trim expression ∉ eyeWords)
    (refused : Notation.parse expression = .error error) (room : Room) (caller : Caller)
    (command : DiceCommand) (failures : List Failure) (stack : Stack) :
    (room.serve ⟨caller, .dice command expression, failures, stack⟩).2.deliveries =
      [⟨.embedReply error.embed, failures.head?⟩] := by
  -- The refusal is the only message, so it is attempted once.
  have wish := command.wish_of_parse_error (mt trim_eq_nil_iff.mp visible) unseen refused
  have turn : (room.turn ⟨caller, .dice command expression, failures, stack⟩).outcome =
      .ok (.only (refusal error)) := by
    simp only [Room.turn, rollTurn, wish]
  rw [report_of_outcome turn (by simp [Sending.only]), refusal_eq]
  cases failures <;> simp [Sending.only, deliver]

/-- A refusal tells the whole expression, so its frame fits exactly if the expression is short enough for the fault. -/
theorem refusal_fits_iff (visible : ¬AllBlank expression) (unseen : trim expression ∉ eyeWords)
    (refused : Notation.parse expression = .error error) (room : Room) (caller : Caller)
    (command : DiceCommand) (failures : List Failure) (stack : Stack) :
    ∃ embed, (room.serve ⟨caller, .dice command expression, failures, stack⟩).2.deliveries =
        [⟨.embedReply embed, failures.head?⟩] ∧
      embed.description.length + error.fault.spare = 4096 + (trim expression).length ∧
      (embed.Fits ↔ (trim expression).length ≤ error.fault.spare) := by
  -- What an error tells is the expression without the blanks around it.
  obtain ⟨fields, scans⟩ := Notation.Fields.exists_scans expression
  rw [← (scans.refused_iff.mp refused).1]
  exact ⟨error.embed, deliveries_refused visible unseen refused room caller command failures stack,
    length_embed error, fits_embed_iff error⟩

/-- As many letters as a refusal can hold are answered by a frame of the greatest length. -/
theorem refusal_fits_iff_letters :
    let expression := NotationFault.invalidFormat.lettered 3864
    let room : Room := ⟨.standard "config.json".toList, ⟨.plain [], []⟩, .seeded 0⟩
    ¬AllBlank expression ∧ trim expression ∉ eyeWords ∧
      Notation.parse expression = .error ⟨.invalidFormat, expression⟩ ∧
      ∃ embed,
        (room.serve ⟨⟨none, false⟩, .dice .roll expression, [], .ofLevels 1 4⟩).2.deliveries =
          [⟨.embedReply embed, none⟩] ∧ embed.description.length = 4096 ∧ embed.Fits := by
  intro expression room
  obtain ⟨visible, unseen⟩ : ¬AllBlank expression ∧ trim expression ∉ eyeWords :=
    NotationFault.invalidFormat.visible_lettered 3863 (by decide)
  have refused : Notation.parse expression = .error ⟨.invalidFormat, expression⟩ :=
    NotationFault.invalidFormat.parse_lettered 3863
  -- The theorem tells the length of the embed from that of the expression.
  obtain ⟨embed, delivered, length, fits⟩ :=
    refusal_fits_iff visible unseen refused room ⟨none, false⟩ .roll [] (.ofLevels 1 4)
  -- The trimmed text is the text itself, and its letters use up what is spare.
  have letters : (trim expression).length = 3864 := by
    rw [NotationFault.trim_lettered, NotationFault.length_lettered]
    rfl
  have spare : NotationFault.invalidFormat.spare = 3864 := rfl
  rw [letters, spare] at length fits
  exact ⟨visible, unseen, refused, embed, delivered, by omega, fits.mpr (Nat.le_refl _)⟩

/-- One letter more is too many: the frame that answers it is not cut, and it does not fit. -/
theorem refusal_too_long :
    let expression := NotationFault.invalidFormat.lettered 3865
    let room : Room := ⟨.standard "config.json".toList, ⟨.plain [], []⟩, .seeded 0⟩
    trim expression ∉ eyeWords ∧
      Notation.parse expression = .error ⟨.invalidFormat, expression⟩ ∧
      ∃ embed,
        (room.serve ⟨⟨none, false⟩, .dice .roll expression, [], .ofLevels 1 4⟩).2.deliveries =
          [⟨.embedReply embed, none⟩] ∧ embed.description.length = 4097 ∧ ¬embed.Fits := by
  intro expression room
  obtain ⟨visible, unseen⟩ : ¬AllBlank expression ∧ trim expression ∉ eyeWords :=
    NotationFault.invalidFormat.visible_lettered 3864 (by decide)
  have refused : Notation.parse expression = .error ⟨.invalidFormat, expression⟩ :=
    NotationFault.invalidFormat.parse_lettered 3864
  -- A refused expression is answered by one embed.
  have delivered := deliveries_refused visible unseen refused room ⟨none, false⟩ .roll []
    (.ofLevels 1 4)
  -- The length of the embed is one more than what fits.
  have length := length_embed ⟨.invalidFormat, expression⟩
  have fits := fits_embed_iff ⟨.invalidFormat, expression⟩
  have letters : expression.length = 3865 :=
    NotationFault.invalidFormat.length_lettered 3865
  have spare : NotationFault.invalidFormat.spare = 3864 := rfl
  rw [letters, spare] at length fits
  refine ⟨unseen, refused, _, delivered, by omega, fun within => ?_⟩
  exact absurd (fits.mp within) (by decide)

end Room

end DiceChat
