/-! A die draws raw numbers from an endless sequence and remembers which draws were made. -/

namespace DiceChat

/-- Draws made one after the other with the same number of sides. -/
structure Draws where
  /-- The highest face. -/
  sides : Int
  /-- How many draws were made. -/
  count : Nat
deriving DecidableEq

/-- A source of draws, how many were taken from it, and with which sides. -/
structure Die where
  /-- The raw number at each position of the sequence. -/
  raw : Nat → Int
  /-- The position of the next draw. -/
  position : Nat
  /-- The draws made so far, the latest first. -/
  history : List Draws

/-- The face that a raw number shows on a die with so many sides. -/
def face (sides raw : Int) : Int :=
  1 + Int.fmod raw sides

/-- One more run of draws, joined to the latest one if the sides are the same. -/
def recordDraws (sides : Int) (count : Nat) : List Draws → List Draws
  -- No draw leaves no trace.
  | latest :: earlier =>
    if count = 0 then latest :: earlier
    else if latest.sides = sides then ⟨sides, latest.count + count⟩ :: earlier
    else ⟨sides, count⟩ :: latest :: earlier
  | [] => if count = 0 then [] else [⟨sides, count⟩]

namespace Die

/-- The faces of the next draws, in order. -/
def faces (die : Die) (sides : Int) (count : Nat) : List Int :=
  (List.range count).map fun index => face sides (die.raw (die.position + index))

/-- The die after so many further draws. -/
def advance (die : Die) (sides : Int) (count : Nat) : Die :=
  { die with
    position := die.position + count
    history := recordDraws sides count die.history }

/-- Draws so many times: the faces, and the die afterwards. -/
def draw (die : Die) (sides : Int) (count : Nat) : List Int × Die :=
  (die.faces sides count, die.advance sides count)

/-- A die whose raw numbers are the given ones over and over. -/
def cycling (numbers : Array Int) : Die :=
  { raw := fun index => numbers.getD (index % numbers.size) 0, position := 0, history := [] }

end Die

/-- A step of a congruential generator: multiply, add, and keep 31 bits. -/
structure Step where
  /-- The factor. -/
  factor : Nat
  /-- The summand. -/
  summand : Nat
deriving DecidableEq

namespace Step

/-- How many states a generator has. -/
def modulus : Nat := Nat.pow 2 31

/-- The state after a step. -/
def apply (step : Step) (state : Nat) : Nat :=
  (step.factor * state + step.summand) % modulus

/-- The step that does one step and then another. -/
def andThen (first second : Step) : Step :=
  ⟨first.factor * second.factor % modulus,
    (first.summand * second.factor + second.summand) % modulus⟩

/-- The step that does the same step so many times, found by repeated squaring with so much fuel. -/
def repeated : Nat → Step → Nat → Step
  -- Halving the count at each square takes as many rounds as the count has bits.
  | 0, _, _ => ⟨1, 0⟩
  | fuel + 1, step, count =>
    if count = 0 then ⟨1, 0⟩
    else
      let half := repeated fuel (step.andThen step) (count / 2)
      if count % 2 = 1 then step.andThen half else half

end Step

namespace Die

/-- The step between two draws of a generated sequence. -/
def generator : Step := ⟨1103515245, 12345⟩

/-- A die whose raw numbers are the upper bits of a congruential generator. -/
def seeded (seed : Nat) : Die :=
  -- The first draw already follows a step.
  { raw := fun index =>
      ((Step.repeated (index + 1).log2.succ generator (index + 1)).apply seed / 65536 : Nat)
    position := 0
    history := [] }

end Die

end DiceChat
