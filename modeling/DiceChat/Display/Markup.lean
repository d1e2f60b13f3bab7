import DiceChat.Text.Template

/-! Markup emphasises parts of a display: three templates, one for each kind of emphasis. -/

namespace DiceChat

/-- How emphasised text is written. -/
structure Markup where
  /-- The total that counts. -/
  bold : Template
  /-- The attempt that does not count. -/
  strike : Template
  /-- The mode of two attempts. -/
  underline : Template
deriving DecidableEq

namespace Markup

/-- Emphasis by HTML tags. -/
def html : Markup :=
  { bold := .around "<b>".toList "</b>".toList
    strike := .around "<s>".toList "</s>".toList
    underline := .around "<u>".toList "</u>".toList }

/-- Emphasis by the marks of the chat platform. -/
def discord : Markup :=
  { bold := .around "**".toList "**".toList
    strike := .around "~~".toList "~~".toList
    underline := .around "__".toList "__".toList }

/-- No emphasis. -/
def plain : Markup :=
  { bold := .around [] []
    strike := .around [] []
    underline := .around [] [] }

/-- The markup of the given name. -/
def ofName? (name : Text) : Option Markup :=
  -- Three markups come with the library.
  if name = "html".toList then some html
  else if name = "discord".toList then some discord
  else if name = "plain".toList then some plain
  else none

end Markup

end DiceChat
