import DiceChat.Text.Kind.Entry

/-! Kinds of faults. -/

namespace DiceChat.Catalogue

/-- The kind `BaseException`. -/
def baseExceptionEntry : KindEntry where
  name := "BaseException"
  measures := [72, 0, 1074287872, 16, 0]
  about := ["Common base class for all exceptions"]
  parts :=
    partsOf .maker ["__new__"] ++
    partsOf .operation ["__repr__ __str__ __getattribute__ __setattr__ __delattr__ __init__"] ++
    partsOf .method ["__reduce__ __setstate__"] ++
    [⟨"with_traceback", .method, "", ["Exception.with_traceback(tb) --",
       "    set self.__traceback__ to tb and return self."]⟩,
     ⟨"add_note", .method, "", ["Exception.add_note(note) --",
       "    add a note to the exception"]⟩,
     ⟨"__suppress_context__", .field, "", []⟩] ++
    partsOf .quality ["__dict__ args __traceback__"] ++
    [⟨"__context__", .quality, "", ["exception context"]⟩,
     ⟨"__cause__", .quality, "", ["exception cause"]⟩,
     ⟨"__doc__", .account, "", []⟩]

/-- The kind `BaseExceptionGroup`. -/
def baseExceptionGroupEntry : KindEntry where
  name := "BaseExceptionGroup"
  above := ["BaseException", "object"]
  measures := [88, 0, 1074287872, 16, 0]
  about := ["A combination of multiple unrelated exceptions."]
  parts :=
    partsOf .maker ["__new__"] ++
    partsOf .operation ["__str__ __init__"] ++
    [⟨"__class_getitem__", .kindMethod, "", ["See PEP 585"]⟩] ++
    partsOf .method ["derive split subgroup"] ++
    [⟨"message", .field, "", ["exception message"]⟩,
     ⟨"exceptions", .field, "", ["nested exceptions"]⟩,
     ⟨"__doc__", .account, "", []⟩]

/-- The kind `Exception`. -/
def exceptionEntry : KindEntry where
  name := "Exception"
  above := ["BaseException", "object"]
  measures := [72, 0, 1074287872, 16, 0]
  about := ["Common base class for all non-exit exceptions."]
  parts :=
    partsOf .maker ["__new__"] ++
    partsOf .operation ["__init__"] ++
    partsOf .account ["__doc__"]

/-- The kind `GeneratorExit`. -/
def generatorExitEntry : KindEntry where
  name := "GeneratorExit"
  above := ["BaseException", "object"]
  measures := [72, 0, 1074287872, 16, 0]
  about := ["Request that a generator exit."]
  parts :=
    partsOf .maker ["__new__"] ++
    partsOf .operation ["__init__"] ++
    partsOf .account ["__doc__"]

/-- The kind `KeyboardInterrupt`. -/
def keyboardInterruptEntry : KindEntry where
  name := "KeyboardInterrupt"
  above := ["BaseException", "object"]
  measures := [72, 0, 1074287872, 16, 0]
  about := ["Program interrupted by user."]
  parts :=
    partsOf .maker ["__new__"] ++
    partsOf .operation ["__init__"] ++
    partsOf .account ["__doc__"]

/-- The kind `SystemExit`. -/
def systemExitEntry : KindEntry where
  name := "SystemExit"
  above := ["BaseException", "object"]
  measures := [80, 0, 1074287872, 16, 0]
  about := ["Request to exit from the interpreter."]
  parts :=
    partsOf .operation ["__init__"] ++
    [⟨"code", .field, "", ["exception code"]⟩,
     ⟨"__doc__", .account, "", []⟩]

/-- The kind `ArithmeticError`. -/
def arithmeticErrorEntry : KindEntry where
  name := "ArithmeticError"
  above := ["Exception", "BaseException", "object"]
  measures := [72, 0, 1074287872, 16, 0]
  about := ["Base class for arithmetic errors."]
  parts :=
    partsOf .maker ["__new__"] ++
    partsOf .operation ["__init__"] ++
    partsOf .account ["__doc__"]

/-- The kind `AssertionError`. -/
def assertionErrorEntry : KindEntry where
  name := "AssertionError"
  above := ["Exception", "BaseException", "object"]
  measures := [72, 0, 1074287872, 16, 0]
  about := ["Assertion failed."]
  parts :=
    partsOf .maker ["__new__"] ++
    partsOf .operation ["__init__"] ++
    partsOf .account ["__doc__"]

/-- The kind `AttributeError`. -/
def attributeErrorEntry : KindEntry where
  name := "AttributeError"
  above := ["Exception", "BaseException", "object"]
  measures := [88, 0, 1074287872, 16, 0]
  about := ["Attribute not found."]
  parts :=
    partsOf .operation ["__str__ __init__"] ++
    [⟨"name", .field, "", ["attribute name"]⟩,
     ⟨"obj", .field, "", ["object"]⟩,
     ⟨"__doc__", .account, "", []⟩]

/-- The kind `BufferError`. -/
def bufferErrorEntry : KindEntry where
  name := "BufferError"
  above := ["Exception", "BaseException", "object"]
  measures := [72, 0, 1074287872, 16, 0]
  about := ["Buffer error."]
  parts :=
    partsOf .maker ["__new__"] ++
    partsOf .operation ["__init__"] ++
    partsOf .account ["__doc__"]

/-- The kind `EOFError`. -/
def eofErrorEntry : KindEntry where
  name := "EOFError"
  above := ["Exception", "BaseException", "object"]
  measures := [72, 0, 1074287872, 16, 0]
  about := ["Read beyond end of file."]
  parts :=
    partsOf .maker ["__new__"] ++
    partsOf .operation ["__init__"] ++
    partsOf .account ["__doc__"]

/-- The kind `ImportError`. -/
def importErrorEntry : KindEntry where
  name := "ImportError"
  above := ["Exception", "BaseException", "object"]
  measures := [96, 0, 1074287872, 16, 0]
  about := ["Import can't find module, or can't find name in module."]
  parts :=
    partsOf .operation ["__str__ __init__"] ++
    partsOf .method ["__reduce__"] ++
    [⟨"msg", .field, "", ["exception message"]⟩,
     ⟨"name", .field, "", ["module name"]⟩,
     ⟨"path", .field, "", ["module path"]⟩,
     ⟨"__doc__", .account, "", []⟩]

/-- The kind `LookupError`. -/
def lookupErrorEntry : KindEntry where
  name := "LookupError"
  above := ["Exception", "BaseException", "object"]
  measures := [72, 0, 1074287872, 16, 0]
  about := ["Base class for lookup errors."]
  parts :=
    partsOf .maker ["__new__"] ++
    partsOf .operation ["__init__"] ++
    partsOf .account ["__doc__"]

/-- The kind `MemoryError`. -/
def memoryErrorEntry : KindEntry where
  name := "MemoryError"
  above := ["Exception", "BaseException", "object"]
  measures := [72, 0, 1074287872, 16, 0]
  about := ["Out of memory."]
  parts :=
    partsOf .maker ["__new__"] ++
    partsOf .operation ["__init__"] ++
    partsOf .account ["__doc__"]

/-- The kind `NameError`. -/
def nameErrorEntry : KindEntry where
  name := "NameError"
  above := ["Exception", "BaseException", "object"]
  measures := [80, 0, 1074287872, 16, 0]
  about := ["Name not found globally."]
  parts :=
    partsOf .operation ["__str__ __init__"] ++
    [⟨"name", .field, "", ["name"]⟩,
     ⟨"__doc__", .account, "", []⟩]

/-- The kind `ReferenceError`. -/
def referenceErrorEntry : KindEntry where
  name := "ReferenceError"
  above := ["Exception", "BaseException", "object"]
  measures := [72, 0, 1074287872, 16, 0]
  about := ["Weak ref proxy used after referent went away."]
  parts :=
    partsOf .maker ["__new__"] ++
    partsOf .operation ["__init__"] ++
    partsOf .account ["__doc__"]

/-- The kind `RuntimeError`. -/
def runtimeErrorEntry : KindEntry where
  name := "RuntimeError"
  above := ["Exception", "BaseException", "object"]
  measures := [72, 0, 1074287872, 16, 0]
  about := ["Unspecified run-time error."]
  parts :=
    partsOf .maker ["__new__"] ++
    partsOf .operation ["__init__"] ++
    partsOf .account ["__doc__"]

/-- The kind `StopAsyncIteration`. -/
def stopAsyncIterationEntry : KindEntry where
  name := "StopAsyncIteration"
  above := ["Exception", "BaseException", "object"]
  measures := [72, 0, 1074287872, 16, 0]
  about := ["Signal the end from iterator.__anext__()."]
  parts :=
    partsOf .maker ["__new__"] ++
    partsOf .operation ["__init__"] ++
    partsOf .account ["__doc__"]

/-- The kind `StopIteration`. -/
def stopIterationEntry : KindEntry where
  name := "StopIteration"
  above := ["Exception", "BaseException", "object"]
  measures := [80, 0, 1074287872, 16, 0]
  about := ["Signal the end from iterator.__next__()."]
  parts :=
    partsOf .operation ["__init__"] ++
    [⟨"value", .field, "", ["generator return value"]⟩,
     ⟨"__doc__", .account, "", []⟩]

/-- The kind `SyntaxError`. -/
def syntaxErrorEntry : KindEntry where
  name := "SyntaxError"
  above := ["Exception", "BaseException", "object"]
  measures := [136, 0, 1074287872, 16, 0]
  about := ["Invalid syntax."]
  parts :=
    partsOf .operation ["__str__ __init__"] ++
    [⟨"msg", .field, "", ["exception msg"]⟩,
     ⟨"filename", .field, "", ["exception filename"]⟩,
     ⟨"lineno", .field, "", ["exception lineno"]⟩,
     ⟨"offset", .field, "", ["exception offset"]⟩,
     ⟨"text", .field, "", ["exception text"]⟩,
     ⟨"end_lineno", .field, "", ["exception end lineno"]⟩,
     ⟨"end_offset", .field, "", ["exception end offset"]⟩,
     ⟨"print_file_and_line", .field, "", ["exception print_file_and_line"]⟩,
     ⟨"__doc__", .account, "", []⟩]

/-- The kind `SystemError`. -/
def systemErrorEntry : KindEntry where
  name := "SystemError"
  above := ["Exception", "BaseException", "object"]
  measures := [72, 0, 1074287872, 16, 0]
  about := ["Internal error in the Python interpreter.", "",
    "Please report this to the Python maintainer, along with the traceback,",
    "the Python version, and the hardware/OS platform and version."]
  parts :=
    partsOf .maker ["__new__"] ++
    partsOf .operation ["__init__"] ++
    partsOf .account ["__doc__"]

/-- The kind `TypeError`. -/
def typeErrorEntry : KindEntry where
  name := "TypeError"
  above := ["Exception", "BaseException", "object"]
  measures := [72, 0, 1074287872, 16, 0]
  about := ["Inappropriate argument type."]
  parts :=
    partsOf .maker ["__new__"] ++
    partsOf .operation ["__init__"] ++
    partsOf .account ["__doc__"]

/-- The kind `ValueError`. -/
def valueErrorEntry : KindEntry where
  name := "ValueError"
  above := ["Exception", "BaseException", "object"]
  measures := [72, 0, 1074287872, 16, 0]
  about := ["Inappropriate argument value (of correct type)."]
  parts :=
    partsOf .maker ["__new__"] ++
    partsOf .operation ["__init__"] ++
    partsOf .account ["__doc__"]

/-- The kind `FloatingPointError`. -/
def floatingPointErrorEntry : KindEntry where
  name := "FloatingPointError"
  above := ["ArithmeticError", "Exception", "BaseException", "object"]
  measures := [72, 0, 1074287872, 16, 0]
  about := ["Floating point operation failed."]
  parts :=
    partsOf .maker ["__new__"] ++
    partsOf .operation ["__init__"] ++
    partsOf .account ["__doc__"]

/-- The kind `OverflowError`. -/
def overflowErrorEntry : KindEntry where
  name := "OverflowError"
  above := ["ArithmeticError", "Exception", "BaseException", "object"]
  measures := [72, 0, 1074287872, 16, 0]
  about := ["Result too large to be represented."]
  parts :=
    partsOf .maker ["__new__"] ++
    partsOf .operation ["__init__"] ++
    partsOf .account ["__doc__"]

/-- The kind `ZeroDivisionError`. -/
def zeroDivisionErrorEntry : KindEntry where
  name := "ZeroDivisionError"
  above := ["ArithmeticError", "Exception", "BaseException", "object"]
  measures := [72, 0, 1074287872, 16, 0]
  about := ["Second argument to a division or modulo operation was zero."]
  parts :=
    partsOf .maker ["__new__"] ++
    partsOf .operation ["__init__"] ++
    partsOf .account ["__doc__"]

/-- The kind `IndentationError`. -/
def indentationErrorEntry : KindEntry where
  name := "IndentationError"
  above := ["SyntaxError", "Exception", "BaseException", "object"]
  measures := [136, 0, 1074287872, 16, 0]
  about := ["Improper indentation."]
  parts :=
    partsOf .operation ["__init__"] ++
    partsOf .account ["__doc__"]

/-- The kind `IndexError`. -/
def indexErrorEntry : KindEntry where
  name := "IndexError"
  above := ["LookupError", "Exception", "BaseException", "object"]
  measures := [72, 0, 1074287872, 16, 0]
  about := ["Sequence index out of range."]
  parts :=
    partsOf .maker ["__new__"] ++
    partsOf .operation ["__init__"] ++
    partsOf .account ["__doc__"]

/-- The kind `KeyError`. -/
def keyErrorEntry : KindEntry where
  name := "KeyError"
  above := ["LookupError", "Exception", "BaseException", "object"]
  measures := [72, 0, 1074287872, 16, 0]
  about := ["Mapping key not found."]
  parts :=
    partsOf .operation ["__str__ __init__"] ++
    partsOf .account ["__doc__"]

/-- The kind `ModuleNotFoundError`. -/
def moduleNotFoundErrorEntry : KindEntry where
  name := "ModuleNotFoundError"
  above := ["ImportError", "Exception", "BaseException", "object"]
  measures := [96, 0, 1074287872, 16, 0]
  about := ["Module not found."]
  parts :=
    partsOf .operation ["__init__"] ++
    partsOf .account ["__doc__"]

/-- The kind `NotImplementedError`. -/
def notImplementedErrorEntry : KindEntry where
  name := "NotImplementedError"
  above := ["RuntimeError", "Exception", "BaseException", "object"]
  measures := [72, 0, 1074287872, 16, 0]
  about := ["Method or function hasn't been implemented yet."]
  parts :=
    partsOf .maker ["__new__"] ++
    partsOf .operation ["__init__"] ++
    partsOf .account ["__doc__"]

/-- The kind `RecursionError`. -/
def recursionErrorEntry : KindEntry where
  name := "RecursionError"
  above := ["RuntimeError", "Exception", "BaseException", "object"]
  measures := [72, 0, 1074287872, 16, 0]
  about := ["Recursion limit exceeded."]
  parts :=
    partsOf .maker ["__new__"] ++
    partsOf .operation ["__init__"] ++
    partsOf .account ["__doc__"]

/-- The kind `UnboundLocalError`. -/
def unboundLocalErrorEntry : KindEntry where
  name := "UnboundLocalError"
  above := ["NameError", "Exception", "BaseException", "object"]
  measures := [80, 0, 1074287872, 16, 0]
  about := ["Local name referenced but not bound to a value."]
  parts :=
    partsOf .operation ["__init__"] ++
    partsOf .account ["__doc__"]

/-- The kind `UnicodeError`. -/
def unicodeErrorEntry : KindEntry where
  name := "UnicodeError"
  above := ["ValueError", "Exception", "BaseException", "object"]
  measures := [72, 0, 1074287872, 16, 0]
  about := ["Unicode related error."]
  parts :=
    partsOf .maker ["__new__"] ++
    partsOf .operation ["__init__"] ++
    partsOf .account ["__doc__"]

/-- The kind `TabError`. -/
def tabErrorEntry : KindEntry where
  name := "TabError"
  above := ["IndentationError", "SyntaxError", "Exception", "BaseException", "object"]
  measures := [136, 0, 1074287872, 16, 0]
  about := ["Improper mixture of spaces and tabs."]
  parts :=
    partsOf .operation ["__init__"] ++
    partsOf .account ["__doc__"]

/-- The kind `UnicodeDecodeError`. -/
def unicodeDecodeErrorEntry : KindEntry where
  name := "UnicodeDecodeError"
  above := ["UnicodeError", "ValueError", "Exception", "BaseException", "object"]
  measures := [112, 0, 1074287872, 16, 0]
  about := ["Unicode decoding error."]
  parts :=
    partsOf .maker ["__new__"] ++
    partsOf .operation ["__str__ __init__"] ++
    [⟨"encoding", .field, "", ["exception encoding"]⟩,
     ⟨"object", .field, "", ["exception object"]⟩,
     ⟨"start", .field, "", ["exception start"]⟩,
     ⟨"end", .field, "", ["exception end"]⟩,
     ⟨"reason", .field, "", ["exception reason"]⟩,
     ⟨"__doc__", .account, "", []⟩]

/-- The kind `UnicodeEncodeError`. -/
def unicodeEncodeErrorEntry : KindEntry where
  name := "UnicodeEncodeError"
  above := ["UnicodeError", "ValueError", "Exception", "BaseException", "object"]
  measures := [112, 0, 1074287872, 16, 0]
  about := ["Unicode encoding error."]
  parts :=
    partsOf .maker ["__new__"] ++
    partsOf .operation ["__str__ __init__"] ++
    [⟨"encoding", .field, "", ["exception encoding"]⟩,
     ⟨"object", .field, "", ["exception object"]⟩,
     ⟨"start", .field, "", ["exception start"]⟩,
     ⟨"end", .field, "", ["exception end"]⟩,
     ⟨"reason", .field, "", ["exception reason"]⟩,
     ⟨"__doc__", .account, "", []⟩]

/-- The kind `UnicodeTranslateError`. -/
def unicodeTranslateErrorEntry : KindEntry where
  name := "UnicodeTranslateError"
  above := ["UnicodeError", "ValueError", "Exception", "BaseException", "object"]
  measures := [112, 0, 1074287872, 16, 0]
  about := ["Unicode translation error."]
  parts :=
    partsOf .maker ["__new__"] ++
    partsOf .operation ["__str__ __init__"] ++
    [⟨"encoding", .field, "", ["exception encoding"]⟩,
     ⟨"object", .field, "", ["exception object"]⟩,
     ⟨"start", .field, "", ["exception start"]⟩,
     ⟨"end", .field, "", ["exception end"]⟩,
     ⟨"reason", .field, "", ["exception reason"]⟩,
     ⟨"__doc__", .account, "", []⟩]

/-- The kind `ExceptionGroup`. -/
def exceptionGroupEntry : KindEntry where
  name := "ExceptionGroup"
  above := ["BaseExceptionGroup", "Exception", "BaseException", "object"]
  bases := ["BaseExceptionGroup", "Exception"]
  measures := [96, 0, 1074288128, 16, 88]
  parts :=
    partsOf .home ["__module__"] ++
    [⟨"__weakref__", .quality, "", ["list of weak references to the object"]⟩,
     ⟨"__doc__", .account, "", []⟩]

/-- The kinds of this module. -/
def faultsEntries : List KindEntry :=
  [baseExceptionEntry, baseExceptionGroupEntry, exceptionEntry, generatorExitEntry,
    keyboardInterruptEntry, systemExitEntry, arithmeticErrorEntry, assertionErrorEntry,
    attributeErrorEntry, bufferErrorEntry, eofErrorEntry, importErrorEntry, lookupErrorEntry,
    memoryErrorEntry, nameErrorEntry, referenceErrorEntry, runtimeErrorEntry,
    stopAsyncIterationEntry, stopIterationEntry, syntaxErrorEntry, systemErrorEntry,
    typeErrorEntry, valueErrorEntry, floatingPointErrorEntry, overflowErrorEntry,
    zeroDivisionErrorEntry, indentationErrorEntry, indexErrorEntry, keyErrorEntry,
    moduleNotFoundErrorEntry, notImplementedErrorEntry, recursionErrorEntry,
    unboundLocalErrorEntry, unicodeErrorEntry, tabErrorEntry, unicodeDecodeErrorEntry,
    unicodeEncodeErrorEntry, unicodeTranslateErrorEntry, exceptionGroupEntry]

end DiceChat.Catalogue
