import DiceChat.Text.Template.Subject

/-! Recipes of functions: their code, what they take where nothing is given, and what they keep. -/

namespace DiceChat

/-- A named thing as an entry of a table. -/
def entry (name : String) (thing : Subject) : Text × Subject :=
  (name.toList, thing)

namespace Subject

/-- A text as a subject. -/
def say (words : String) : Subject :=
  .text words.toList

/-- Lines as a subject. -/
def sayLines (lines : List String) : Subject :=
  .text (joinWith ['\n'] (lines.map String.toList))

/-- The words of lines as a row of texts. -/
def rowOfWords (lines : List String) : Subject :=
  .row ((wordsOf lines).map .text)

end Subject

/-- The value of a hexadecimal digit. -/
def hexValue (c : Char) : Nat :=
  if c.isDigit then c.toNat - '0'.toNat else c.toNat - 'a'.toNat + 10

/-- The bytes that pairs of hexadecimal digits spell. -/
def bytesOfHex : List Char → List UInt8
  | high :: low :: rest => (16 * hexValue high + hexValue low).toUInt8 :: bytesOfHex rest
  | _ => []

/-- The code of a function. -/
structure Code where
  /-- The name of the function behind the names of what it stands in. -/
  path : String
  /-- How many things are given to it, besides those that are given only by name. -/
  arguments : Nat
  /-- How many things are given to it only by their place. -/
  unnamed : Nat := 0
  /-- How many things are given to it only by name. -/
  onlyNamed : Nat := 0
  /-- How much room its work needs. -/
  stack : Nat
  /-- Its marks. -/
  flags : Nat
  /-- What it was read from, empty where that is not told. -/
  file : String := ""
  /-- The line that it starts at. -/
  line : Nat
  /-- The things that have a name inside it. -/
  holders : List String := []
  /-- The names that it looks for outside. -/
  names : List String := []
  /-- The things inside that functions within it share. -/
  cells : List String := []
  /-- The things that it shares with the function around it. -/
  free : List String := []
  /-- The fixed things that it uses. -/
  constants : List Subject
  /-- The steps of its work in hexadecimal digits, empty where they are not told. -/
  steps : List String := []
  /-- Where its steps come from, in hexadecimal digits. -/
  places : List String := []
  /-- Which lines its steps come from, in hexadecimal digits. -/
  lines : List String := []
  /-- What is done about faults, in hexadecimal digits. -/
  faults : List String := []

namespace Code

/-- The name of the function alone. -/
def name (code : Code) : Text :=
  ((splitOnChar '.' code.path.toList).getLast?).getD []

/-- The parts of the code that are bytes. -/
def byteEntries (code : Code) : List (Text × Subject) :=
  let part := fun name (digits : List String) =>
    entry name (.bytes (bytesOfHex (digits.flatMap String.toList)))
  if code.steps.isEmpty then []
  else [part "co_code" code.steps, part "_co_code_adaptive" code.steps,
    part "co_linetable" code.places, part "co_lnotab" code.lines,
    part "co_exceptiontable" code.faults]

/-- The part of the code that tells what it was read from. -/
def fileEntries (code : Code) : List (Text × Subject) :=
  if code.file.isEmpty then [] else [entry "co_filename" (.say code.file)]

/-- The code as a thing. -/
def subject (code : Code) : Subject :=
  let shown := "<code object ".toList ++ code.name ++ ", file \"".toList ++ code.file.toList ++
    "\", line ".toList ++ writeNat code.line ++ ">".toList
  .thing .code shown
    ([entry "co_name" (.text code.name), entry "co_qualname" (.say code.path),
      entry "co_argcount" (.whole code.arguments), entry "co_posonlyargcount" (.whole code.unnamed),
      entry "co_kwonlyargcount" (.whole code.onlyNamed),
      entry "co_nlocals" (.whole (wordsOf code.holders).length),
      entry "co_stacksize" (.whole code.stack), entry "co_flags" (.whole code.flags),
      entry "co_firstlineno" (.whole code.line),
      entry "co_varnames" (.rowOfWords code.holders), entry "co_names" (.rowOfWords code.names),
      entry "co_cellvars" (.rowOfWords code.cells), entry "co_freevars" (.rowOfWords code.free),
      entry "co_consts" (.row code.constants)] ++
      code.fileEntries ++ code.byteEntries)

end Code

/-- What is known of a function. -/
structure Recipe where
  /-- The collection that the function looks for names in. -/
  collection : String
  /-- Its code. -/
  code : Code
  /-- What it takes for things that are not given, in their order. -/
  defaults : Subject := .nothing
  /-- What it takes for things that are not given, by name. -/
  namedDefaults : Subject := .nothing
  /-- What its things are said to be. -/
  hints : List (Text × Subject) := []
  /-- The things that it shares with the function around it. -/
  shared : Subject := .nothing
  /-- What it keeps. -/
  kept : List (Text × Subject) := []

end DiceChat
