import DiceChat.Text.Kind.Entry

/-! Kinds of faults that the system tells, and of warnings. -/

namespace DiceChat.Catalogue

/-- The kind `OSError`. -/
def osErrorEntry : KindEntry where
  name := "OSError"
  above := ["Exception", "BaseException", "object"]
  measures := [112, 0, 1074287872, 16, 0]
  about := ["Base class for I/O related errors."]
  parts :=
    partsOf .maker ["__new__"] ++
    partsOf .operation ["__str__ __init__"] ++
    partsOf .method ["__reduce__"] ++
    [⟨"errno", .field, "", ["POSIX exception code"]⟩,
     ⟨"strerror", .field, "", ["exception strerror"]⟩,
     ⟨"filename", .field, "", ["exception filename"]⟩,
     ⟨"filename2", .field, "", ["second exception filename"]⟩,
     ⟨"characters_written", .quality, "", []⟩,
     ⟨"__doc__", .account, "", []⟩]

/-- The kind `Warning`. -/
def warningEntry : KindEntry where
  name := "Warning"
  above := ["Exception", "BaseException", "object"]
  measures := [72, 0, 1074287872, 16, 0]
  about := ["Base class for warning categories."]
  parts :=
    partsOf .maker ["__new__"] ++
    partsOf .operation ["__init__"] ++
    partsOf .account ["__doc__"]

/-- The kind `BytesWarning`. -/
def bytesWarningEntry : KindEntry where
  name := "BytesWarning"
  above := ["Warning", "Exception", "BaseException", "object"]
  measures := [72, 0, 1074287872, 16, 0]
  about := ["Base class for warnings about bytes and buffer related problems, mostly",
    "related to conversion from str or comparing to str."]
  parts :=
    partsOf .maker ["__new__"] ++
    partsOf .operation ["__init__"] ++
    partsOf .account ["__doc__"]

/-- The kind `DeprecationWarning`. -/
def deprecationWarningEntry : KindEntry where
  name := "DeprecationWarning"
  above := ["Warning", "Exception", "BaseException", "object"]
  measures := [72, 0, 1074287872, 16, 0]
  about := ["Base class for warnings about deprecated features."]
  parts :=
    partsOf .maker ["__new__"] ++
    partsOf .operation ["__init__"] ++
    partsOf .account ["__doc__"]

/-- The kind `EncodingWarning`. -/
def encodingWarningEntry : KindEntry where
  name := "EncodingWarning"
  above := ["Warning", "Exception", "BaseException", "object"]
  measures := [72, 0, 1074287872, 16, 0]
  about := ["Base class for warnings about encodings."]
  parts :=
    partsOf .maker ["__new__"] ++
    partsOf .operation ["__init__"] ++
    partsOf .account ["__doc__"]

/-- The kind `FutureWarning`. -/
def futureWarningEntry : KindEntry where
  name := "FutureWarning"
  above := ["Warning", "Exception", "BaseException", "object"]
  measures := [72, 0, 1074287872, 16, 0]
  about := ["Base class for warnings about constructs that will change semantically",
    "in the future."]
  parts :=
    partsOf .maker ["__new__"] ++
    partsOf .operation ["__init__"] ++
    partsOf .account ["__doc__"]

/-- The kind `ImportWarning`. -/
def importWarningEntry : KindEntry where
  name := "ImportWarning"
  above := ["Warning", "Exception", "BaseException", "object"]
  measures := [72, 0, 1074287872, 16, 0]
  about := ["Base class for warnings about probable mistakes in module imports"]
  parts :=
    partsOf .maker ["__new__"] ++
    partsOf .operation ["__init__"] ++
    partsOf .account ["__doc__"]

/-- The kind `PendingDeprecationWarning`. -/
def pendingDeprecationWarningEntry : KindEntry where
  name := "PendingDeprecationWarning"
  above := ["Warning", "Exception", "BaseException", "object"]
  measures := [72, 0, 1074287872, 16, 0]
  about := ["Base class for warnings about features which will be deprecated", "in the future."]
  parts :=
    partsOf .maker ["__new__"] ++
    partsOf .operation ["__init__"] ++
    partsOf .account ["__doc__"]

/-- The kind `ResourceWarning`. -/
def resourceWarningEntry : KindEntry where
  name := "ResourceWarning"
  above := ["Warning", "Exception", "BaseException", "object"]
  measures := [72, 0, 1074287872, 16, 0]
  about := ["Base class for warnings about resource usage."]
  parts :=
    partsOf .maker ["__new__"] ++
    partsOf .operation ["__init__"] ++
    partsOf .account ["__doc__"]

/-- The kind `RuntimeWarning`. -/
def runtimeWarningEntry : KindEntry where
  name := "RuntimeWarning"
  above := ["Warning", "Exception", "BaseException", "object"]
  measures := [72, 0, 1074287872, 16, 0]
  about := ["Base class for warnings about dubious runtime behavior."]
  parts :=
    partsOf .maker ["__new__"] ++
    partsOf .operation ["__init__"] ++
    partsOf .account ["__doc__"]

/-- The kind `SyntaxWarning`. -/
def syntaxWarningEntry : KindEntry where
  name := "SyntaxWarning"
  above := ["Warning", "Exception", "BaseException", "object"]
  measures := [72, 0, 1074287872, 16, 0]
  about := ["Base class for warnings about dubious syntax."]
  parts :=
    partsOf .maker ["__new__"] ++
    partsOf .operation ["__init__"] ++
    partsOf .account ["__doc__"]

/-- The kind `UnicodeWarning`. -/
def unicodeWarningEntry : KindEntry where
  name := "UnicodeWarning"
  above := ["Warning", "Exception", "BaseException", "object"]
  measures := [72, 0, 1074287872, 16, 0]
  about := ["Base class for warnings about Unicode related problems, mostly",
    "related to conversion problems."]
  parts :=
    partsOf .maker ["__new__"] ++
    partsOf .operation ["__init__"] ++
    partsOf .account ["__doc__"]

/-- The kind `UserWarning`. -/
def userWarningEntry : KindEntry where
  name := "UserWarning"
  above := ["Warning", "Exception", "BaseException", "object"]
  measures := [72, 0, 1074287872, 16, 0]
  about := ["Base class for warnings generated by user code."]
  parts :=
    partsOf .maker ["__new__"] ++
    partsOf .operation ["__init__"] ++
    partsOf .account ["__doc__"]

/-- The kind `BlockingIOError`. -/
def blockingIOErrorEntry : KindEntry where
  name := "BlockingIOError"
  above := ["OSError", "Exception", "BaseException", "object"]
  measures := [112, 0, 1074287872, 16, 0]
  about := ["I/O operation would block."]
  parts :=
    partsOf .operation ["__init__"] ++
    partsOf .account ["__doc__"]

/-- The kind `ChildProcessError`. -/
def childProcessErrorEntry : KindEntry where
  name := "ChildProcessError"
  above := ["OSError", "Exception", "BaseException", "object"]
  measures := [112, 0, 1074287872, 16, 0]
  about := ["Child process error."]
  parts :=
    partsOf .operation ["__init__"] ++
    partsOf .account ["__doc__"]

/-- The kind `ConnectionError`. -/
def connectionErrorEntry : KindEntry where
  name := "ConnectionError"
  above := ["OSError", "Exception", "BaseException", "object"]
  measures := [112, 0, 1074287872, 16, 0]
  about := ["Connection error."]
  parts :=
    partsOf .operation ["__init__"] ++
    partsOf .account ["__doc__"]

/-- The kind `FileExistsError`. -/
def fileExistsErrorEntry : KindEntry where
  name := "FileExistsError"
  above := ["OSError", "Exception", "BaseException", "object"]
  measures := [112, 0, 1074287872, 16, 0]
  about := ["File already exists."]
  parts :=
    partsOf .operation ["__init__"] ++
    partsOf .account ["__doc__"]

/-- The kind `FileNotFoundError`. -/
def fileNotFoundErrorEntry : KindEntry where
  name := "FileNotFoundError"
  above := ["OSError", "Exception", "BaseException", "object"]
  measures := [112, 0, 1074287872, 16, 0]
  about := ["File not found."]
  parts :=
    partsOf .operation ["__init__"] ++
    partsOf .account ["__doc__"]

/-- The kind `InterruptedError`. -/
def interruptedErrorEntry : KindEntry where
  name := "InterruptedError"
  above := ["OSError", "Exception", "BaseException", "object"]
  measures := [112, 0, 1074287872, 16, 0]
  about := ["Interrupted by signal."]
  parts :=
    partsOf .operation ["__init__"] ++
    partsOf .account ["__doc__"]

/-- The kind `IsADirectoryError`. -/
def isADirectoryErrorEntry : KindEntry where
  name := "IsADirectoryError"
  above := ["OSError", "Exception", "BaseException", "object"]
  measures := [112, 0, 1074287872, 16, 0]
  about := ["Operation doesn't work on directories."]
  parts :=
    partsOf .operation ["__init__"] ++
    partsOf .account ["__doc__"]

/-- The kind `NotADirectoryError`. -/
def notADirectoryErrorEntry : KindEntry where
  name := "NotADirectoryError"
  above := ["OSError", "Exception", "BaseException", "object"]
  measures := [112, 0, 1074287872, 16, 0]
  about := ["Operation only works on directories."]
  parts :=
    partsOf .operation ["__init__"] ++
    partsOf .account ["__doc__"]

/-- The kind `PermissionError`. -/
def permissionErrorEntry : KindEntry where
  name := "PermissionError"
  above := ["OSError", "Exception", "BaseException", "object"]
  measures := [112, 0, 1074287872, 16, 0]
  about := ["Not enough permissions."]
  parts :=
    partsOf .operation ["__init__"] ++
    partsOf .account ["__doc__"]

/-- The kind `ProcessLookupError`. -/
def processLookupErrorEntry : KindEntry where
  name := "ProcessLookupError"
  above := ["OSError", "Exception", "BaseException", "object"]
  measures := [112, 0, 1074287872, 16, 0]
  about := ["Process not found."]
  parts :=
    partsOf .operation ["__init__"] ++
    partsOf .account ["__doc__"]

/-- The kind `TimeoutError`. -/
def timeoutErrorEntry : KindEntry where
  name := "TimeoutError"
  above := ["OSError", "Exception", "BaseException", "object"]
  measures := [112, 0, 1074287872, 16, 0]
  about := ["Timeout expired."]
  parts :=
    partsOf .operation ["__init__"] ++
    partsOf .account ["__doc__"]

/-- The kind `BrokenPipeError`. -/
def brokenPipeErrorEntry : KindEntry where
  name := "BrokenPipeError"
  above := ["ConnectionError", "OSError", "Exception", "BaseException", "object"]
  measures := [112, 0, 1074287872, 16, 0]
  about := ["Broken pipe."]
  parts :=
    partsOf .operation ["__init__"] ++
    partsOf .account ["__doc__"]

/-- The kind `ConnectionAbortedError`. -/
def connectionAbortedErrorEntry : KindEntry where
  name := "ConnectionAbortedError"
  above := ["ConnectionError", "OSError", "Exception", "BaseException", "object"]
  measures := [112, 0, 1074287872, 16, 0]
  about := ["Connection aborted."]
  parts :=
    partsOf .operation ["__init__"] ++
    partsOf .account ["__doc__"]

/-- The kind `ConnectionRefusedError`. -/
def connectionRefusedErrorEntry : KindEntry where
  name := "ConnectionRefusedError"
  above := ["ConnectionError", "OSError", "Exception", "BaseException", "object"]
  measures := [112, 0, 1074287872, 16, 0]
  about := ["Connection refused."]
  parts :=
    partsOf .operation ["__init__"] ++
    partsOf .account ["__doc__"]

/-- The kind `ConnectionResetError`. -/
def connectionResetErrorEntry : KindEntry where
  name := "ConnectionResetError"
  above := ["ConnectionError", "OSError", "Exception", "BaseException", "object"]
  measures := [112, 0, 1074287872, 16, 0]
  about := ["Connection reset."]
  parts :=
    partsOf .operation ["__init__"] ++
    partsOf .account ["__doc__"]

/-- The kinds of this module. -/
def systemFaultsEntries : List KindEntry :=
  [osErrorEntry, warningEntry, bytesWarningEntry, deprecationWarningEntry, encodingWarningEntry,
    futureWarningEntry, importWarningEntry, pendingDeprecationWarningEntry, resourceWarningEntry,
    runtimeWarningEntry, syntaxWarningEntry, unicodeWarningEntry, userWarningEntry,
    blockingIOErrorEntry, childProcessErrorEntry, connectionErrorEntry, fileExistsErrorEntry,
    fileNotFoundErrorEntry, interruptedErrorEntry, isADirectoryErrorEntry,
    notADirectoryErrorEntry, permissionErrorEntry, processLookupErrorEntry, timeoutErrorEntry,
    brokenPipeErrorEntry, connectionAbortedErrorEntry, connectionRefusedErrorEntry,
    connectionResetErrorEntry]

end DiceChat.Catalogue
