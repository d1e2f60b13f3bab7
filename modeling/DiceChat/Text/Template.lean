import DiceChat.Text.Template.Steps

/-! Templates are texts with places for one inserted value; braces mark the places. -/

namespace DiceChat

/-- A template is a sequence of pieces. -/
inductive Piece where
  /-- Text that stands as it is. -/
  | literal (text : Text)
  /-- A place for the inserted value. -/
  | place (place : Place)
  /-- A fault, met when the template is filled up to here. -/
  | fault (error : TemplateError)
deriving DecidableEq

/-- A text with places for one inserted value. -/
abbrev Template := List Piece

/-- The pieces of a template text, read from the left with so much fuel. -/
def piecesOf : Nat → Text → Template
  -- Doubled braces stand for themselves; any other opening brace starts a place.
  | 0, _ => []
  | _ + 1, [] => []
  | fuel + 1, c :: rest =>
    if c = openBrace then
      match rest with
      | [] => [.fault .loneOpen]
      | next :: after =>
        if next = openBrace then .literal [openBrace] :: piecesOf fuel after
        else
          match Place.read rest with
          | .ok (place, remaining) => .place place :: piecesOf fuel remaining
          | .error error => [.fault error]
    else if c = closeBrace then
      match rest with
      | next :: after =>
        if next = closeBrace then .literal [closeBrace] :: piecesOf fuel after
        else [.fault .loneClose]
      | [] => [.fault .loneClose]
    else .literal [c] :: piecesOf fuel rest

/-- The template that a text with braces describes. -/
def Template.ofText (text : Text) : Template :=
  -- Every step consumes a character, so the length is fuel enough.
  piecesOf text.length text

/-- The template that surrounds the inserted value with two fixed texts. -/
def Template.around (before after : Text) : Template :=
  [.literal before, .place .bare, .literal after]

/-- How the places met so far were written. -/
inductive Numbering where
  /-- No place was met yet. -/
  | undecided
  /-- Places were left empty, and so many were met. -/
  | plain (count : Nat)
  /-- Places were numbered. -/
  | numbered
deriving DecidableEq

/-- Checks that the place of a name exists, and tells how places are numbered from then on. -/
def Numbering.next (numbering : Numbering) (name : Text) : Except TemplateError Numbering := do
  -- Only place zero exists, and the two ways of numbering do not mix.
  if name.isEmpty then
    match numbering with
    | .undecided => .ok (.plain 1)
    | .plain _ => .error .noSuchPlace
    | .numbered => .error .plainAfterNumbered
  else
    match ← readIndex name, numbering with
    | none, _ => .error (.noSuchName name)
    | some _, .plain _ => .error .numberedAfterPlain
    | some place, _ => if place = 0 then .ok .numbered else .error .noSuchPlace

/-- What is written so far, and how its places were numbered. -/
structure Filling where
  /-- What is written. -/
  text : Text
  /-- How the places were numbered. -/
  numbering : Numbering
deriving DecidableEq

namespace Filling

/-- More text was written. -/
def add (filling : Filling) (text : Text) : Filling :=
  { filling with text := filling.text ++ text }

end Filling

/-- The value at the place of the given name, and how places are numbered from then on. -/
def Place.find (place : Place) (subject : Subject) (numbering : Numbering) :
    Except TemplateError (Subject × Numbering) := do
  -- The first step starts at the first point or bracket.
  let isStep := fun c => c = '.' || c = '['
  let head := place.name.takeWhile (!isStep ·)
  let steps := place.name.drop head.length
  let numbering ← numbering.next head
  let subject ← Subject.follow steps.length subject steps
  match place.conversion with
  | some conversion => pure (← subject.convert conversion, numbering)
  | none => pure (subject, numbering)

/-- Fills a place: the value is found and converted, its format is filled, and it is laid out. -/
def fillPlace (fillFormat : Template → Numbering → Except TemplateError Filling)
    (subject : Subject) (filling : Filling) (place : Place) : Except TemplateError Filling := do
  -- A format without braces needs no filling.
  let (found, numbering) ← place.find subject filling.numbering
  if place.format.contains openBrace then
    let format ← fillFormat (Template.ofText place.format) numbering
    pure ⟨filling.text ++ (← found.layOut format.text), format.numbering⟩
  else pure ⟨filling.text ++ (← found.layOut place.format), numbering⟩

/-- Fills one piece after the other, with formats filled in the given way. -/
def fillPieces (fillFormat : Template → Numbering → Except TemplateError Filling)
    (subject : Subject) (filling : Filling) : Template → Except TemplateError Filling
  -- Pieces are taken from the left, so the first fault is the one reported.
  | [] => .ok filling
  | .literal text :: rest => fillPieces fillFormat subject (filling.add text) rest
  | .place place :: rest => do
    fillPieces fillFormat subject (← fillPlace fillFormat subject filling place) rest
  | .fault error :: _ => .error error

/-- A template with a value inserted, whose formats may hold places so many levels deep. -/
def fillWithin (subject : Subject) : Nat → Template → Numbering → Except TemplateError Filling
  | 0, _, _ => .error .tooDeep
  | levels + 1, template, numbering =>
    fillPieces (fillWithin subject levels) subject ⟨[], numbering⟩ template

/-- A template with a value inserted, unless a fault is met first. -/
def Template.fill (template : Template) (subject : Subject) : Except TemplateError Text :=
  -- The formats of places may hold places, and the formats of those none.
  (fillWithin subject 2 template .undecided).map Filling.text

/-- A value without a format is shown as in running text. -/
theorem layOut_nil (subject : Subject) : subject.layOut [] = subject.plain.mapError .format := by
  -- An empty format changes neither texts nor numerals.
  cases subject <;> rfl

/-- Surrounding keeps the inserted value whole, and fails only if it cannot be shown. -/
@[simp] theorem fill_around (before after : Text) (subject : Subject) :
    (Template.around before after).fill subject =
      (subject.plain.mapError .format).map fun shown => before ++ (shown ++ after) := by
  -- Three pieces are filled one after the other.
  have shown := layOut_nil subject
  have failed : ∀ fault, (Except.error fault : Except FormatError Text).mapError
      TemplateError.format = .error (.format fault) := fun _ => rfl
  have made : ∀ text, (Except.ok text : Except FormatError Text).mapError
      TemplateError.format = .ok text := fun _ => rfl
  cases plain : subject.plain <;> rw [plain] at shown <;>
    simp [Template.around, Template.fill, fillWithin, fillPieces, fillPlace, Place.find, Place.bare,
      Numbering.next, Subject.follow, Filling.add, shown, failed, made, Except.map, Bind.bind,
      Except.bind, Pure.pure, Except.pure]

end DiceChat
