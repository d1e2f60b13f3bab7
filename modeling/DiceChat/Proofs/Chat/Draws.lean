import DiceChat.Proofs.Chat.Embed
import DiceChat.Proofs.Die

/-! Draws over a run: what is rolled takes its dice from one sequence of answers, in order, and nothing else draws. -/

namespace DiceChat

/-- How many attempts a mode makes. -/
def Mode.attempts : Mode → Nat
  | straight => 1
  | advantage | disadvantage => 2

/-- The sides of the draws that settings ask for in a mode. -/
def Settings.draws (settings : Settings) (mode : Mode) : List Int :=
  List.replicate (mode.attempts * settings.diceCount) settings.sides

/-- What an expression rolls: blanks a plain die, and notation what it describes. -/
def DiceCommand.roll? (command : DiceCommand) (expression : Text) : Option (Settings × Mode) :=
  if (trim expression).isEmpty then some (defaultSettings, .straight)
  else
    match Notation.parse expression with
    | .ok settings => some (settings, command.mode)
    | .error _ => none

/-- What an exchange rolls, if it rolls. -/
def Exchange.roll? (exchange : Exchange) : Option (Settings × Mode) :=
  match exchange.request with
  | .dice command expression => command.roll? expression
  | _ => none

/-- The sides of the draws that an exchange makes. -/
def Exchange.draws (exchange : Exchange) : List Int :=
  match exchange.roll? with
  | some (settings, mode) => settings.draws mode
  | none => []

/-- A session answers a request with the next of several answers, one attempt behind the other. -/
structure Session.TakesFrom (session : Session) (settings : Settings) (mode : Mode)
    (answers : List Int) : Prop where
  /-- The session was rolled in the mode. -/
  rolled : session.mode = mode
  /-- The session has the settings. -/
  asked : session.settings = settings
  /-- It has as many attempts as the mode makes. -/
  attempts : session.rolls.length = mode.attempts
  /-- Each attempt takes the answers behind those that the attempt before it took. -/
  values : ∀ attempt roll, session.rolls[attempt]? = some roll →
    roll.values = (answers.drop (attempt * settings.diceCount)).take settings.diceCount
  /-- There is one face for every die, and every face is one of the sides. -/
  faces : ∀ roll ∈ session.rolls, roll.values.length = settings.number ∧
    ∀ value ∈ roll.values, 1 ≤ value ∧ value ≤ settings.sides
  /-- The total is the sum with the modifier. -/
  total : ∀ roll ∈ session.rolls, roll.total = roll.values.sum + settings.modifier.getD 0
  /-- The total lies between that of ones and that of highest faces. -/
  bounds : ∀ roll ∈ session.rolls,
    settings.number + settings.modifier.getD 0 ≤ roll.total ∧
      roll.total ≤ settings.number * settings.sides + settings.modifier.getD 0

/-- A report tells of a session: it is logged, and whatever is attempted to be sent is about it. -/
structure Report.Tells (report : Report) (session : Session) : Prop where
  /-- The session is logged. -/
  logged : LogRecord.plain .debug ("Dice roll: ".toList ++ session.inline) ∈ report.records
  /-- Every message that was attempted is one about the session. -/
  sent : ∀ delivery ∈ report.deliveries, ∃ config withRecord sending,
    session.sending config withRecord = .ok sending ∧ delivery.message ∈ sending.messages

namespace Settings

variable {settings : Settings}

/-- Throwing all dice once makes a draw for each of them. -/
theorem drew_throw (settings : Settings) (die : Die) :
    die.Drew (settings.throw die).2 (List.replicate settings.diceCount settings.sides) :=
  die.drew_advance settings.sides settings.diceCount

/-- The faces of a throw are the answers to its draws. -/
theorem values_throw (settings : Settings) (die : Die) :
    (settings.throw die).1.values =
      die.answers (List.replicate settings.diceCount settings.sides) :=
  (die.answers_replicate settings.sides settings.diceCount).symm

/-- Two attempts draw one behind the other. -/
theorem draws_two (settings : Settings) {mode : Mode} (two : mode.attempts = 2) :
    settings.draws mode =
      List.replicate settings.diceCount settings.sides ++
        List.replicate settings.diceCount settings.sides := by
  rw [draws, two, Nat.two_mul, List.replicate_append_replicate]

/-- Rolling makes the draws of the settings in the mode. -/
theorem drew_roll (settings : Settings) (mode : Mode) (die : Die) :
    die.Drew (settings.roll mode die).2 (settings.draws mode) := by
  -- The second attempt is thrown with the die that the first one left.
  have first := settings.drew_throw die
  have second := settings.drew_throw (settings.throw die).2
  cases mode with
  | straight =>
    rw [draws, Mode.attempts, Nat.one_mul]
    exact first
  | advantage | disadvantage =>
    rw [draws_two settings rfl]
    exact first.trans second

/-- The attempts of a rolled session take the answers to its draws in turn. -/
theorem values_roll (settings : Settings) (mode : Mode) (die : Die) (later : List Int)
    {attempt : Nat} {roll : Roll}
    (made : (settings.roll mode die).1.rolls[attempt]? = some roll) :
    roll.values = ((die.answers (settings.draws mode) ++ later).drop
      (attempt * settings.diceCount)).take settings.diceCount := by
  -- An attempt takes as many answers as there are dice, so the next one starts right behind.
  have first := settings.values_throw die
  have second := settings.values_throw (settings.throw die).2
  have count : (settings.throw die).1.values.length = settings.diceCount := by simp [first]
  have count' : (settings.throw (settings.throw die).2).1.values.length = settings.diceCount := by
    simp [second]
  cases mode with
  -- With one attempt there is one block of answers.
  | straight =>
    match attempt with
    | 0 =>
      obtain rfl : (settings.throw die).1 = roll := Option.some.inj made
      rw [draws, Mode.attempts, Nat.one_mul, ← first, Nat.zero_mul, List.drop_zero,
        List.take_left' count]
  -- With two the second block stands behind the first.
  | advantage | disadvantage =>
    rw [draws_two settings rfl, (settings.drew_throw die).answers_append, ← first, ← second,
      List.append_assoc]
    match attempt with
    | 0 =>
      obtain rfl : (settings.throw die).1 = roll := Option.some.inj made
      rw [Nat.zero_mul, List.drop_zero, List.take_left' count]
    | 1 =>
      obtain rfl : (settings.throw (settings.throw die).2).1 = roll := Option.some.inj made
      rw [Nat.one_mul, List.drop_left' count, List.take_left' count']

/-- A throw of small settings shows a face for each of its dice. -/
theorem IsNotated.length_values (notated : settings.IsNotated) {roll : Roll}
    (thrown : roll.IsThrown settings) : (roll.values.length : Int) = settings.number := by
  -- The number of dice is positive, so none is dropped when they are counted.
  have positive := notated.number
  rw [thrown.count, diceCount]
  omega

/-- The total of a throw of small settings lies between that of ones and that of highest faces. -/
theorem IsNotated.total_bounds (notated : settings.IsNotated) {roll : Roll}
    (thrown : roll.IsThrown settings) :
    settings.number + settings.modifier.getD 0 ≤ roll.total ∧
      roll.total ≤ settings.number * settings.sides + settings.modifier.getD 0 := by
  -- There are as many faces as dice, each between one and the number of sides.
  have bounds := sum_bounds thrown.faces
  have total := thrown.total
  rw [notated.length_values thrown, Int.mul_one] at bounds
  omega

/-- A rolled session of small settings takes the answers to its draws, whatever is drawn later. -/
theorem IsNotated.takesFrom_roll (notated : settings.IsNotated) (mode : Mode) (die : Die)
    (later : List Int) :
    (settings.roll mode die).1.TakesFrom settings mode
      (die.answers (settings.draws mode) ++ later) where
  -- Each part is one fact about what is drawn, and the later answers are not touched.
  rolled := settings.mode_roll mode die
  asked := settings.settings_roll mode die
  attempts := by cases mode <;> rfl
  values _ _ made := settings.values_roll mode die later made
  faces _ made :=
    have thrown := isThrown_of_mem_rolls notated.sides.1 made
    ⟨notated.length_values thrown, thrown.faces⟩
  total _ made := (isThrown_of_mem_rolls notated.sides.1 made).total
  bounds _ made := notated.total_bounds (isThrown_of_mem_rolls notated.sides.1 made)

end Settings

/-- A dice command rolls exactly what its expression asks it for. -/
theorem DiceCommand.roll?_eq_some_iff {command : DiceCommand} {expression : Text}
    {settings : Settings} {mode : Mode} :
    command.roll? expression = some (settings, mode) ↔
      ∃ withRecord, command.wish expression = .rolled settings mode withRecord := by
  by_cases blank : AllBlank expression
  · have empty : trim expression = [] := trim_eq_nil_iff.mpr blank
    simp [roll?, empty, command.wish_of_allBlank blank]
  · have visible : trim expression ≠ [] := mt trim_eq_nil_iff.mp blank
    cases parsed : Notation.parse expression with
    | ok read => simp [roll?, visible, parsed, command.wish_of_parse parsed]
    | error error =>
      -- Eyes are no notation either, so nothing is rolled in both cases.
      by_cases seen : trim expression ∈ eyeWords
      · simp [roll?, visible, parsed, wish, seen]
      · simp [roll?, visible, parsed, command.wish_of_parse_error visible seen parsed]

/-- Whatever is rolled has small settings. -/
theorem Exchange.isNotated_of_roll? {exchange : Exchange} {settings : Settings} {mode : Mode}
    (rolls : exchange.roll? = some (settings, mode)) : settings.IsNotated := by
  -- What is read as notation is small, and so is the plain die.
  simp only [roll?, DiceCommand.roll?] at rolls
  split at rolls
  · split at rolls
    · obtain ⟨rfl, -⟩ := Prod.mk.inj (Option.some.inj rolls)
      exact isNotated_defaultSettings
    · split at rolls
      · rename_i parsed
        obtain ⟨rfl, -⟩ := Prod.mk.inj (Option.some.inj rolls)
        exact Notation.isNotated_of_parse parsed
      · cases rolls
  · cases rolls

/-- Only given messages are attempted. -/
theorem mem_of_mem_deliver {failures : List Failure} {messages : List Message}
    {delivery : Delivery} (attempted : delivery ∈ deliver failures messages) :
    delivery.message ∈ messages := by
  -- Each attempt takes the next message.
  fun_induction deliver failures messages with
  | case1 => cases attempted
  | case2 message others =>
    obtain rfl := List.mem_singleton.mp attempted
    exact List.mem_cons_self
  | case3 failure failures message others ih =>
    rcases List.mem_cons.mp attempted with rfl | later
    · exact List.mem_cons_self
    · exact List.mem_cons_of_mem message (ih later)

namespace Room

variable {exchange : Exchange} {settings : Settings} {mode : Mode}

/-- An exchange that rolls leaves the die that its dice were drawn with. -/
theorem die_next_of_roll? (rolls : exchange.roll? = some (settings, mode)) (room : Room) :
    (room.next exchange).die = (settings.roll mode room.die).2 := by
  -- Only a dice command rolls, and it hands back the die that its roll left.
  rcases exchange with ⟨caller, request, failures, stack⟩
  cases request with
  | dice command expression =>
    obtain ⟨withRecord, wish⟩ := DiceCommand.roll?_eq_some_iff.mp rolls
    rw [next, serve_fst]
    simp only [turn, rollTurn, wish]
  | help | budget single double => cases rolls

/-- An exchange that does not roll leaves the die alone. -/
theorem die_next_of_roll?_eq_none (rolls : exchange.roll? = none) (room : Room) :
    (room.next exchange).die = room.die := by
  rcases exchange with ⟨caller, request, failures, stack⟩
  rw [next, serve_fst]
  cases request with
  | dice command expression =>
    -- A wish to roll would be a roll of the exchange.
    cases wish : command.wish expression with
    | rolled settings mode withRecord =>
      have rolled := DiceCommand.roll?_eq_some_iff.mpr ⟨withRecord, wish⟩
      cases rolls.symm.trans rolled
    | eyes | refused => simp only [turn, rollTurn, wish]
  | help => rfl
  | budget single double =>
    -- Budgets change the store and the disk at most.
    simp only [turn, budgetTurn]
    split
    · rfl
    · split
      · rfl
      · rfl
      · split
        · rfl
        · rw [setBudget_room]

/-- An exchange makes its draws and no others. -/
theorem drew_next (room : Room) (exchange : Exchange) :
    room.die.Drew (room.next exchange).die exchange.draws := by
  -- Without a roll nothing is drawn, and with one exactly its draws.
  rw [Exchange.draws]
  cases rolls : exchange.roll? with
  | none =>
    rw [die_next_of_roll?_eq_none rolls]
    exact .refl room.die
  | some asked =>
    rw [die_next_of_roll? rolls]
    exact asked.1.drew_roll asked.2 room.die

/-- A run makes the draws of its exchanges, one exchange after the other. -/
theorem drew_after (room : Room) (exchanges : List Exchange) :
    room.die.Drew (room.after exchanges).die (exchanges.flatMap Exchange.draws) := by
  -- The first exchange draws first, and the others go on with the die that it left.
  induction exchanges generalizing room with
  | nil => exact .refl room.die
  | cons exchange rest ih => exact (room.drew_next exchange).trans (ih (room.next exchange))

/-- Whoever rolls is told of the session that was rolled. -/
theorem tells_serve (rolls : exchange.roll? = some (settings, mode)) (room : Room) :
    (room.serve exchange).2.Tells (settings.roll mode room.die).1 := by
  -- Only a dice command rolls, and whatever it sends is made from the session.
  rcases exchange with ⟨caller, request, failures, stack⟩
  cases request with
  | dice command expression =>
    obtain ⟨withRecord, wish⟩ := DiceCommand.roll?_eq_some_iff.mp rolls
    cases sending : (settings.roll mode room.die).1.sending (room.store.guild caller.guild)
        withRecord with
    -- A session that cannot be shown is told by its record alone.
    | error error =>
      simp only [serve, turn, rollTurn, wish, sending]
      exact ⟨by simp, by rintro _ ⟨⟩⟩
    | ok sent =>
      -- What is delivered is taken from the messages of the session.
      simp only [serve, turn, rollTurn, wish, sending]
      exact ⟨by simp, fun delivery attempted =>
        ⟨_, withRecord, sent, sending, mem_of_mem_deliver attempted⟩⟩
  | help | budget single double => cases rolls

/-- The answers that an exchange gets stand in the sequence behind those before it. -/
theorem drop_answers (room : Room) {exchanges : List Exchange} {index : Nat}
    (here : exchanges[index]? = some exchange) :
    ∃ later, (room.die.answers (exchanges.flatMap Exchange.draws)).drop
        ((exchanges.take index).flatMap Exchange.draws).length =
      (room.after (exchanges.take index)).die.answers exchange.draws ++ later := by
  -- The run is what comes before the exchange, the exchange, and what comes after it.
  obtain ⟨inside, found⟩ := List.getElem?_eq_some_iff.mp here
  have split : exchanges.flatMap Exchange.draws =
      (exchanges.take index).flatMap Exchange.draws ++
        (exchange.draws ++ (exchanges.drop (index + 1)).flatMap Exchange.draws) := by
    conv_lhs => rw [← List.take_append_drop index exchanges, List.drop_eq_getElem_cons inside]
    rw [List.flatMap_append, List.flatMap_cons, found]
  have before := room.drew_after (exchanges.take index)
  have now := (room.after (exchanges.take index)).drew_next exchange
  rw [split, before.answers_append, List.drop_left' (Die.length_answers _ _), now.answers_append]
  exact ⟨_, rfl⟩

/-- At any time of a run the draws made are those that its exchanges ask for, and whoever rolls is told of attempts
that take the next answers, while any answers within range may come up. -/
theorem run_draws (room : Room) (exchanges : List Exchange) :
    let sides := exchanges.flatMap Exchange.draws
    (∀ values, List.Forall₂ (fun value sides => 1 ≤ value ∧ value ≤ sides) values sides →
      ∃ raw, ({ room.die with raw := raw } : Die).answers sides = values) ∧
    ∀ index exchange, exchanges[index]? = some exchange → ∃ reached report,
      (room.run exchanges)[index]? = some (reached, report) ∧
      room.die.Drew reached.die ((exchanges.take (index + 1)).flatMap Exchange.draws) ∧
      ∀ settings mode, exchange.roll? = some (settings, mode) → ∃ session,
        report.Tells session ∧
        session.TakesFrom settings mode ((room.die.answers sides).drop
          ((exchanges.take index).flatMap Exchange.draws).length) := by
  refine ⟨fun values within => room.die.exists_answers within, ?_⟩
  intro index exchange here
  -- The run serves the exchange in the room behind the ones before it.
  have served := getElem?_run room exchanges index
  rw [here, Option.map_some] at served
  refine ⟨_, _, served, ?_, ?_⟩
  · -- The room that is reached is the room after one exchange more.
    have drew := room.drew_after (exchanges.take (index + 1))
    rw [List.take_add_one, here, Option.toList_some, after_append_singleton] at drew
    rw [List.take_add_one, here, Option.toList_some]
    exact drew
  · intro settings mode rolls
    -- The answers still to come are those of this exchange and of the later ones.
    obtain ⟨later, answers⟩ := room.drop_answers here
    have notated := Exchange.isNotated_of_roll? rolls
    rw [answers, Exchange.draws, rolls]
    exact ⟨_, tells_serve rolls _, notated.takesFrom_roll mode _ later⟩

/-- The second attempt of a roll that does not get through at first goes on where the first one stopped. -/
theorem run_draws_second :
    let stack : Stack := .ofLevels 1 4
    let failure : Failure := ⟨[], "HTTPException".toList, "500".toList⟩
    let exchanges : List Exchange :=
      [⟨⟨none, false⟩, .dice .data " 2d6 + 1 ".toList, [], stack⟩,
        ⟨⟨none, false⟩, .dice .disadvantage "d20".toList, [], stack⟩,
        ⟨⟨some 1, false⟩, .dice .adv "2d4-1 bite".toList, [failure], stack⟩]
    let room : Room :=
      ⟨.standard "config.json".toList, ⟨.plain [], []⟩, .cycling #[5, 0, 3, 1]⟩
    ∃ reached report session, (room.run exchanges)[2]? = some (reached, report) ∧
      reached.die.drawn = [6, 6, 4, 4, 4, 4] ∧ report.Tells session ∧
      session.mode = .advantage ∧ session.rolls.length = 2 ∧
      ∀ roll, session.rolls[1]? = some roll → roll.values = [2, 1] ∧ roll.total = 2 := by
  intro stack failure exchanges room
  -- The refused expression in between draws nothing.
  obtain ⟨-, runs⟩ := run_draws room exchanges
  -- The third exchange is served, and the law says which answers it takes.
  obtain ⟨reached, report, served, drew, told⟩ := runs 2 _ rfl
  obtain ⟨session, tells, takes⟩ :=
    told ⟨2, 4, some (-1), some "bite".toList⟩ .advantage rfl
  refine ⟨reached, report, session, served, drew.drawn, tells, takes.rolled, takes.attempts, ?_⟩
  -- The second attempt takes the last two answers.
  intro roll second
  have values : roll.values = [2, 1] := (takes.values 1 roll second).trans (by decide)
  have total := takes.total roll (List.mem_of_getElem? second)
  rw [values] at total
  exact ⟨values, total⟩

end Room

end DiceChat
