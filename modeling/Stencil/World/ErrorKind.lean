import Stencil.Diagnostic.SourceFault

/-!
# Kinds of errors

The kinds of errors that scripts and templates can fail with.  Every kind but the topmost one stands below others; a
handler for a kind also handles the kinds below it.
-/

namespace Stencil

/-- What an operation on files, processes or connections failed with. -/
inductive SystemTrouble where
  | blocking | childProcess
  | connection | brokenPipe | connectionAborted | connectionRefused | connectionReset
  | fileExists | fileMissing | interrupted | isDirectory | notDirectory | permission
  | processMissing | timeout
  deriving DecidableEq, Repr

/-- What a warning is about. -/
inductive WarningTopic where
  | bytes | deprecation | encoding | future | importing | pendingDeprecation | resource | runtime
  | syntactic | unicode | user
  deriving DecidableEq, Repr

/-- The kinds of errors. -/
inductive ErrorKind where
  | base | baseGroup | generatorExit | interrupt | exit
  | exception
  | arithmetic | floatingPoint | overflow | zeroDivision
  | assertion | noAttribute | buffer | endOfFile | group
  | importing | moduleMissing
  | lookup | index | key
  | memory
  | name | unboundLocal
  | system (trouble : Option SystemTrouble)
  | reference
  | runtime | notImplemented | recursion
  | stopAsyncIteration | stopIteration
  | malformed | indentation | tabs
  | internal
  | typing
  | value | unicode | decoding | encoding | translating
  | warning (topic : Option WarningTopic)
  | template | unreadable | missing
  | source (category : SourceFault.Category)
  | rendering
  | quiet
  deriving DecidableEq, Repr

namespace SystemTrouble

/-- Every trouble. -/
def all : List SystemTrouble :=
  [blocking, childProcess, connection, brokenPipe, connectionAborted, connectionRefused,
    connectionReset, fileExists, fileMissing, interrupted, isDirectory, notDirectory, permission,
    processMissing, timeout]

/-- The name of a trouble. -/
def toText : SystemTrouble → Text
  | blocking => "BlockingIOError"
  | childProcess => "ChildProcessError"
  | connection => "ConnectionError"
  | brokenPipe => "BrokenPipeError"
  | connectionAborted => "ConnectionAbortedError"
  | connectionRefused => "ConnectionRefusedError"
  | connectionReset => "ConnectionResetError"
  | fileExists => "FileExistsError"
  | fileMissing => "FileNotFoundError"
  | interrupted => "InterruptedError"
  | isDirectory => "IsADirectoryError"
  | notDirectory => "NotADirectoryError"
  | permission => "PermissionError"
  | processMissing => "ProcessLookupError"
  | timeout => "TimeoutError"

/-- The trouble directly above. -/
def parent? : SystemTrouble → Option SystemTrouble
  | brokenPipe | connectionAborted | connectionRefused | connectionReset => some connection
  | _ => none

/-- The trouble that the number of a system failure stands for. -/
def ofNumber? (number : Int) : Option SystemTrouble :=
  [((1 : Int), permission), (2, fileMissing), (3, processMissing), (4, interrupted),
    (10, childProcess), (11, blocking), (13, permission), (17, fileExists), (20, notDirectory),
    (21, isDirectory), (32, brokenPipe), (103, connectionAborted), (104, connectionReset),
    (108, brokenPipe), (110, timeout), (111, connectionRefused), (114, blocking),
    (115, blocking)].lookup number

end SystemTrouble

namespace WarningTopic

/-- Every topic. -/
def all : List WarningTopic :=
  [bytes, deprecation, encoding, future, importing, pendingDeprecation, resource, runtime, syntactic,
    unicode, user]

/-- The name of the warnings about a topic. -/
def toText : WarningTopic → Text
  | bytes => "BytesWarning"
  | deprecation => "DeprecationWarning"
  | encoding => "EncodingWarning"
  | future => "FutureWarning"
  | importing => "ImportWarning"
  | pendingDeprecation => "PendingDeprecationWarning"
  | resource => "ResourceWarning"
  | runtime => "RuntimeWarning"
  | syntactic => "SyntaxWarning"
  | unicode => "UnicodeWarning"
  | user => "UserWarning"

end WarningTopic

namespace ErrorKind

/-- The name of a category of reports on sources. -/
def categoryName : SourceFault.Category → Text
  | .general => "TemplateSyntaxError"
  | .unterminated => "LexerError"
  | .unbalanced => "UnbalancedBlockError"
  | .unmatched => "UnmatchedCloserError"
  | .malformed => "MalformedCloserError"
  | .ambiguous _ => "AmbiguousArmError"
  | .expression => "ExpressionSyntaxError"

/-- The name of a kind. -/
def toText : ErrorKind → Text
  | base => "BaseException"
  | baseGroup => "BaseExceptionGroup"
  | generatorExit => "GeneratorExit"
  | interrupt => "KeyboardInterrupt"
  | exit => "SystemExit"
  | exception => "Exception"
  | arithmetic => "ArithmeticError"
  | floatingPoint => "FloatingPointError"
  | overflow => "OverflowError"
  | zeroDivision => "ZeroDivisionError"
  | assertion => "AssertionError"
  | noAttribute => "AttributeError"
  | buffer => "BufferError"
  | endOfFile => "EOFError"
  | group => "ExceptionGroup"
  | importing => "ImportError"
  | moduleMissing => "ModuleNotFoundError"
  | lookup => "LookupError"
  | index => "IndexError"
  | key => "KeyError"
  | memory => "MemoryError"
  | name => "NameError"
  | unboundLocal => "UnboundLocalError"
  | system none => "OSError"
  | system (some trouble) => trouble.toText
  | reference => "ReferenceError"
  | runtime => "RuntimeError"
  | notImplemented => "NotImplementedError"
  | recursion => "RecursionError"
  | stopAsyncIteration => "StopAsyncIteration"
  | stopIteration => "StopIteration"
  | malformed => "SyntaxError"
  | indentation => "IndentationError"
  | tabs => "TabError"
  | internal => "SystemError"
  | typing => "TypeError"
  | value => "ValueError"
  | unicode => "UnicodeError"
  | decoding => "UnicodeDecodeError"
  | encoding => "UnicodeEncodeError"
  | translating => "UnicodeTranslateError"
  | warning none => "Warning"
  | warning (some topic) => topic.toText
  | template => "TemplateError"
  | unreadable => "TemplateLoadError"
  | missing => "TemplateNotFoundError"
  | source category => categoryName category
  | rendering => "TemplateRuntimeError"
  | quiet => "Quiet"

/-- The kinds that scripts can name. -/
def named : List ErrorKind :=
  [base, baseGroup, generatorExit, interrupt, exit, exception, arithmetic, floatingPoint, overflow,
    zeroDivision, assertion, noAttribute, buffer, endOfFile, group, importing, moduleMissing, lookup,
    index, key, memory, name, unboundLocal, system none, reference, runtime, notImplemented, recursion,
    stopAsyncIteration, stopIteration, malformed, indentation, tabs, internal, typing, value, unicode,
    decoding, encoding, translating, warning none]
  ++ SystemTrouble.all.map (fun trouble => system (some trouble))
  ++ WarningTopic.all.map (fun topic => warning (some topic))

/-- Further names of kinds. -/
def aliases : List (Text × ErrorKind) :=
  [("EnvironmentError", system none), ("IOError", system none)]

/-- The kinds that only values from outside can be of. -/
def foreign : List ErrorKind := [template, unreadable, missing, quiet]

/-- The kind that a script means by a name. -/
def named? (text : Text) : Option ErrorKind :=
  (named.find? fun kind => kind.toText == text).or (aliases.lookup text)

/-- The kind with a name. -/
def ofText? (text : Text) : Option ErrorKind :=
  (named? text).or (foreign.find? fun kind => kind.toText == text)

/-- The kinds directly above. -/
def parents : ErrorKind → List ErrorKind
  | base => []
  | baseGroup | generatorExit | interrupt | exit | exception => [base]
  | floatingPoint | overflow | zeroDivision => [arithmetic]
  | group => [baseGroup, exception]
  | moduleMissing => [importing]
  | index | key => [lookup]
  | unboundLocal => [name]
  | system (some trouble) => [system trouble.parent?]
  | notImplemented | recursion => [runtime]
  | indentation => [malformed]
  | tabs => [indentation]
  | unicode => [value]
  | decoding | encoding | translating => [unicode]
  | warning (some _) => [warning none]
  | unreadable | source _ | rendering => [template]
  | missing => [unreadable]
  | arithmetic | assertion | noAttribute | buffer | endOfFile | importing | lookup | memory | name
  | system none | reference | runtime | stopAsyncIteration | stopIteration | malformed | internal
  | typing | value | warning none | template | quiet => [exception]

/-- A kind and the kinds above it, up to a bound. -/
def lineageWithin : (steps : Nat) → ErrorKind → List ErrorKind
  | 0, kind => [kind]
  | steps + 1, kind => kind :: kind.parents.flatMap (lineageWithin steps)

/-- Whether a handler for `other` handles a kind.  There are at most five levels above a kind. -/
def isA (kind other : ErrorKind) : Bool := (lineageWithin 5 kind).contains other

/-- The names of what the errors of a kind say about themselves beside their arguments. -/
def fields (kind : ErrorKind) : List Text :=
  if kind.isA (system none) then ["errno", "strerror", "filename", "filename2"]
  else if kind.isA malformed then
    ["msg", "filename", "lineno", "offset", "text", "end_lineno", "end_offset", "print_file_and_line"]
  else if kind.isA name then ["name"]
  else if kind.isA importing then ["msg", "name", "path"]
  else if kind = noAttribute then ["name", "obj"]
  else if kind = stopIteration then ["value"]
  else if kind = exit then ["code"]
  else []

/-- The code of the errors of a kind. -/
def code : ErrorKind → Option ErrorCode
  | unreadable => some .templateUnreadable
  | missing => some .templateNotFound
  | source category => category.code
  | rendering => some .runtimeError
  | _ => none

/-- The kind of error that a refused script raises. -/
def ofBlame : Script.Blame → ErrorKind
  | .form => malformed
  | .indentation => indentation
  | .tabs => tabs

end ErrorKind
end Stencil
