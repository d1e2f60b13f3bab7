import DiceChat.Chat.Room

/-! Runs of a room: what holds after every exchange, from what a single exchange does. -/

namespace DiceChat

namespace Room

/-- The room after an exchange. -/
def next (room : Room) (exchange : Exchange) : Room :=
  (room.serve exchange).1

/-- The room after several exchanges. -/
def after (room : Room) (exchanges : List Exchange) : Room :=
  exchanges.foldl next room

/-- One more exchange starts from the room after those before it. -/
theorem after_append_singleton (room : Room) (earlier : List Exchange) (exchange : Exchange) :
    room.after (earlier ++ [exchange]) = (room.after earlier).next exchange := by
  -- The last exchange is the last step of the fold.
  simp [after]

/-- Each exchange of a run is served by the room after the exchanges before it. -/
theorem getElem?_run (room : Room) (exchanges : List Exchange) (index : Nat) :
    (room.run exchanges)[index]? = exchanges[index]?.map fun exchange =>
      (room.after (exchanges.take index)).serve exchange := by
  -- The first exchange is served by the room itself, and the others by what it leaves.
  induction exchanges generalizing room index with
  | nil => rfl
  | cons exchange rest ih =>
    cases index with
    | zero => rfl
    | succ index => exact ih (room.next exchange) index

/-- What a room has at first and no exchange takes away, it has after all exchanges. -/
theorem after_induction (holds : Room → Prop) {room : Room} {exchanges : List Exchange}
    (start : holds room)
    (step : ∀ room, ∀ exchange ∈ exchanges, holds room → holds (room.next exchange)) :
    holds (room.after exchanges) := by
  -- The exchanges are taken from the front, so the starting room varies.
  induction exchanges generalizing room with
  | nil => exact start
  | cons exchange rest ih =>
    exact ih (step room exchange List.mem_cons_self start)
      fun room other member => step room other (List.mem_cons_of_mem _ member)

end Room

end DiceChat
