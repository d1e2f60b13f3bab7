import DiceChat.CommandLine.Flag
import DiceChat.Text.Digit

/-! Words of the command line: each argument is a flag, a separator, a plain word, or unknown. -/

namespace DiceChat

/-- What an argument is taken for. -/
inductive Role where
  /-- A word that is not a flag. -/
  | plain
  /-- The mark behind which every argument is a plain word. -/
  | separator
  /-- A flag, with a value that is attached to it. -/
  | flag (flag : Flag) (attached : Option Text)
  /-- What looks like a flag and is none. -/
  | unknown
deriving DecidableEq

/-- An argument and what it is taken for. -/
structure Word where
  /-- The argument as it was given. -/
  text : Text
  /-- What it is taken for. -/
  role : Role
deriving DecidableEq

/-- The argument that separates flags from plain words. -/
def separatorText : Text := "--".toList

/-- A text up to the first equals sign, and what stands behind that sign if there is one. -/
def splitAttached (text : Text) : Text × Option Text :=
  -- Further equals signs belong to the value.
  match text.dropWhile (· ≠ '=') with
  | [] => (text, none)
  | _ :: value => (text.takeWhile (· ≠ '='), some value)

/-- Whether a text is a row of at least one decimal digit of any script. -/
def isDigitRow (text : Text) : Bool :=
  !text.isEmpty && text.all fun c => (digitValue? c).isSome

/-- A text without one line end at its end. -/
def withoutLineEnd (text : Text) : Text :=
  if text.getLast? = some '\n' then text.dropLast else text

/-- Whether an argument is a negative number, which may have a fraction. -/
def isNegativeNumber (argument : Text) : Bool :=
  -- Digits may be missing before the point, and a line may end behind the number.
  match withoutLineEnd argument with
  | '-' :: number =>
    let whole := number.takeWhile (· ≠ '.')
    match number.dropWhile (· ≠ '.') with
    | [] => isDigitRow whole
    | _ :: fraction => (whole.isEmpty || isDigitRow whole) && isDigitRow fraction
  | _ => false

/-- The role of an argument that starts with the short flag for help and goes on with a text. -/
def helpRow (tail : Text) : Role :=
  -- The letter of the flag may be repeated; anything else behind it is too much.
  match tail.dropWhile (· = 'h') with
  | [] => .flag .help (if tail.isEmpty then some [] else none)
  | rest => .flag .help (some rest)

/-- The role of an argument that starts with a dash and is no flag. -/
def strangeRole (argument : Text) : Role :=
  if isNegativeNumber argument || argument.contains ' ' then .plain else .unknown

/-- The role of an argument as an abbreviation, if only one flag has a spelling that starts so. -/
def abbreviatedRole (flags : List Flag) (argument : Text) : Except UsageError Role :=
  -- What is attached does not belong to the abbreviation.
  let (name, attached) := splitAttached argument
  match (Flag.spellings flags).filter fun entry => name.isPrefixOf entry.1 with
  | [] => .ok (strangeRole argument)
  | [entry] => .ok (.flag entry.2 attached)
  | entries => .error (.ambiguous argument (entries.map Prod.fst))

/-- The flag that is spelled so in full. -/
def spelledFlag? (flags : List Flag) (text : Text) : Option Flag :=
  ((Flag.spellings flags).find? fun entry => entry.1 = text).map Prod.snd

/-- The role of an argument that starts with a dash and is not spelled like a flag in full. -/
def dashedRole (flags : List Flag) (argument : Text) : Except UsageError Role :=
  -- Only long spellings can be abbreviated; a value at the short one counts as further letters.
  let (name, attached) := splitAttached argument
  match attached, spelledFlag? flags name with
  | some value, some flag =>
    .ok (if name = Flag.shortHelp then helpRow value else .flag flag (some value))
  | _, _ =>
    match argument with
    | [_] => .ok .plain
    | '-' :: '-' :: _ => abbreviatedRole flags argument
    | '-' :: 'h' :: tail => .ok (helpRow tail)
    | _ => .ok (strangeRole argument)

/-- The role of an argument that stands before any separator. -/
def roleOf (flags : List Flag) (argument : Text) : Except UsageError Role :=
  if argument = separatorText then .ok .separator
  else if argument.head? ≠ some '-' then .ok .plain
  else
    match spelledFlag? flags argument with
    | some flag => .ok (.flag flag none)
    | none => dashedRole flags argument

/-- The words of a command line, whose flags are the given ones. -/
def readWords (flags : List Flag) : List Text → Except UsageError (List Word)
  -- Behind a separator nothing else is looked at.
  | [] => .ok []
  | argument :: rest => do
    let role ← roleOf flags argument
    if role = .separator then
      .ok (⟨argument, role⟩ :: rest.map fun text => ⟨text, .plain⟩)
    else
      let words ← readWords flags rest
      .ok (⟨argument, role⟩ :: words)

end DiceChat
