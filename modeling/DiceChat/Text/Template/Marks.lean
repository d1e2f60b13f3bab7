import DiceChat.Text.Template.Hint

/-! Markups as things that recipes of functions mention. -/

namespace DiceChat

/-- A markup as a thing, from its templates. -/
def markupThing (bold strike underline : String) : Subject :=
  let own := [entry "bold" (.say bold), entry "strike" (.say strike),
    entry "underline" (.say underline)]
  let shown := own.map fun (name, template) => name ++ '=' :: template.inline.toOption.getD []
  .thing (.listed "utils.render.Markup")
    ("Markup(".toList ++ joinWith ", ".toList shown ++ ")".toList)
    (own ++ [entry "__dict__" (.table own)])

/-- The markup of pages. -/
def htmlMarkup : Subject :=
  markupThing "<b>\x7b\x7d</b>" "<s>\x7b\x7d</s>" "<u>\x7b\x7d</u>"

/-- The markup of the chat. -/
def chatMarkup : Subject :=
  markupThing "**\x7b\x7d**" "~~\x7b\x7d~~" "__\x7b\x7d__"

/-- The markup that marks nothing. -/
def plainMarkup : Subject :=
  markupThing "\x7b\x7d" "\x7b\x7d" "\x7b\x7d"

end DiceChat
