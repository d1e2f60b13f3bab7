import DiceChat.CommandLine.Word
import DiceChat.Token

/-! A scan takes words from the left: flags with their values, the words of an expression, and the rest. -/

namespace DiceChat

/-- Why reading a command line ends before its end. -/
inductive Stop where
  /-- Help is asked for. -/
  | help
  /-- Something is wrong with it. -/
  | usage (error : UsageError)
deriving DecidableEq

/-- How far an expression was read. -/
inductive Phase where
  /-- None of its words was met. -/
  | before
  /-- The last word belongs to it. -/
  | within
  /-- It is over, or there cannot be one. -/
  | behind
deriving DecidableEq

/-- The values that flags have where they are not given. -/
abbrev Defaults := Flag → Option Text

/-- A flag that was used, with its value; a flag without a value has a blank one. -/
structure Use where
  /-- The flag. -/
  flag : Flag
  /-- Its value. -/
  value : Given
deriving DecidableEq

/-- A scan of words up to some place. -/
structure Scan where
  /-- The flag whose value comes next. -/
  waiting : Option Flag
  /-- The flags used so far, in order. -/
  uses : List Use
  /-- How far the expression was read. -/
  phase : Phase
  /-- The words of the expression. -/
  expression : List Text
  /-- The arguments that mean nothing, in order. -/
  extras : List Text
deriving DecidableEq

/-- Whether a text repeats the value that a flag has where it is not given. -/
def repeatsDefault (defaults : Defaults) (flag : Flag) (value : Text) : Bool :=
  -- Only characters below code point 256, one at most, are so slight.
  defaults flag = some value && value.length ≤ 1 && value.all fun c => c.toNat < 256

/-- Whether a use counts beside a rival; a slight value that repeats the default does not. -/
def Use.counts (defaults : Defaults) (use : Use) : Bool :=
  match use.value with
  | .text value => !repeatsDefault defaults use.flag value
  | .blank => true

/-- The value that is attached to a flag; the separator in its place leaves it blank. -/
def Given.ofAttached (value : Text) : Given :=
  if value = separatorText then .blank else .text value

namespace Scan

/-- A scan before the first word; the phase says whether there can be an expression. -/
def start (phase : Phase) : Scan := ⟨none, [], phase, [], []⟩

/-- The rival of a use that counted before it, if the use itself counts. -/
def rivalBefore? (defaults : Defaults) (uses : List Use) (use : Use) : Option Flag :=
  -- A flag has at most one rival.
  if use.counts defaults then
    use.flag.rival?.filter fun rival =>
      uses.any fun earlier => earlier.flag = rival && earlier.counts defaults
  else none

/-- The scan after a flag was used. -/
def use (defaults : Defaults) (scan : Scan) (use : Use) : Except Stop Scan :=
  match rivalBefore? defaults scan.uses use with
  | some rival => .error (.usage (.rivals use.flag rival))
  | none => .ok { scan with waiting := none, uses := scan.uses ++ [use] }

/-- The scan after an argument that means nothing. -/
def extra (scan : Scan) (argument : Text) : Scan :=
  { scan with extras := scan.extras ++ [argument] }

/-- The scan once a flag ended the expression. -/
def pause (scan : Scan) : Scan :=
  if scan.phase = .within then { scan with phase := .behind } else scan

/-- The scan after a plain word. -/
def plain (scan : Scan) (text : Text) : Scan :=
  -- Words of an expression stand side by side.
  if scan.phase = .behind then scan.extra text
  else { scan with phase := .within, expression := scan.expression ++ [text] }

/-- The scan after a separator, which belongs to an expression and is not one of its words. -/
def separator (scan : Scan) : Scan :=
  if scan.phase = .behind then scan.extra separatorText else scan

/-- The scan after a flag that may have a value attached. -/
def flag (defaults : Defaults) (scan : Scan) (flag : Flag) (attached : Option Text) :
    Except Stop Scan :=
  -- A value that is not attached has to be the next word.
  match flag.takesValue, attached with
  | true, some value => scan.use defaults ⟨flag, .ofAttached value⟩
  | true, none => .ok { scan with waiting := some flag }
  | false, some value => .error (.usage (.needlessValue flag value))
  | false, none => if flag = .help then .error .help else scan.use defaults ⟨flag, .blank⟩

/-- The scan after a word when no value is awaited. -/
def free (defaults : Defaults) (scan : Scan) (word : Word) : Except Stop Scan :=
  match word.role with
  | .plain => .ok (scan.plain word.text)
  | .separator => .ok scan.separator
  | .flag flag attached => scan.pause.flag defaults flag attached
  | .unknown => .ok (scan.pause.extra word.text)

/-- The scan after a word. -/
def step (defaults : Defaults) (scan : Scan) (word : Word) : Except Stop Scan :=
  -- Only a plain word can be the value that is awaited.
  match scan.waiting with
  | none => scan.free defaults word
  | some flag =>
    if word.role = .plain then scan.use defaults ⟨flag, .text word.text⟩
    else .error (.usage (.missingValue flag))

/-- The scan at the end, where no value may be awaited. -/
def finish (scan : Scan) : Except Stop Scan :=
  match scan.waiting with
  | none => .ok scan
  | some flag => .error (.usage (.missingValue flag))

/-- The scan of words from the first to the last. -/
def ofWords (defaults : Defaults) (phase : Phase) (words : List Word) : Except Stop Scan :=
  (words.foldlM (step defaults) (start phase)).bind finish

/-- The scan of arguments, whose flags are the given ones. -/
def ofArguments (flags : List Flag) (defaults : Defaults) (phase : Phase)
    (arguments : List Text) : Except Stop Scan := do
  let words ← (readWords flags arguments).mapError .usage
  ofWords defaults phase words

end Scan

end DiceChat
