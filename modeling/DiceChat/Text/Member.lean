import DiceChat.Text.Quoted

/-! Members of fixed lists of values, such as the modes of a roll, and how logs and running text show them. -/

namespace DiceChat

/-- A member of a fixed list of values. -/
structure Member where
  /-- The name of the member. -/
  name : Text
  /-- The value that the member stands for. -/
  value : Text
  /-- The member in running text. -/
  title : Text
deriving DecidableEq

/-- A fixed list of values. -/
structure Family where
  /-- The name of the list. -/
  name : Text
  /-- The name of the collection of kinds that it belongs to. -/
  home : Text
  /-- What the list is about. -/
  about : Text
  /-- The members, in order. -/
  members : List Member
deriving DecidableEq

namespace Family

/-- How a log shows a member of a list. -/
def inline (family : Family) (member : Member) : Text :=
  "<".toList ++ family.name ++ ".".toList ++ member.name ++ ": ".toList ++ quote member.value ++
    ">".toList

end Family

end DiceChat
