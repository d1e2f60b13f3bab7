import DiceChat.Display.Layout
import DiceChat.Record.Encode

/-! A rendered session: its display and, where it is asked for, its record. -/

namespace DiceChat

/-- What is shown of a session. -/
structure Rendered where
  /-- The display. -/
  text : Text
  /-- The record, if one was asked for. -/
  record : Option Json

/-- Why a session cannot be rendered. -/
inductive RenderError where
  /-- Its display fails. -/
  | display (error : DisplayError)
  /-- Its record was asked for in a view that does not exist. -/
  | unknownView (name : Text)
deriving DecidableEq

/-- The record in the view of the given name. -/
def Session.recordNamed (session : Session) (name : Text) : Except RenderError Json :=
  match RecordView.ofName? name with
  | some view => .ok (session.recordIn view)
  | none => .error (.unknownView name)

/-- The display of a session, and its record in the named view if there is a name. -/
def Session.render (session : Session) (display : Display) (markup : Markup) (view : Option Text) :
    Except RenderError Rendered := do
  -- The display is made first, so its faults are the first to be reported.
  let text ← (session.display display markup).mapError .display
  match view with
  | none => pure ⟨text, none⟩
  | some name => do
    let record ← session.recordNamed name
    pure ⟨text, some record⟩

end DiceChat
