import Stencil.Diagnostic.Code
import Stencil.Diagnostic.Snippet
import Stencil.Flaw

/-!
# Reports of refused templates

A report says what is wrong with a template's source and where.  The long message shows the line by itself,
the compact one shows it among its neighbours; both point at the column when it is known.
-/

namespace Stencil

/-- Where a template comes from, as far as its reports need to know. -/
structure Origin where
  name : Option Text
  file : Option Text
  source : Option Text
  deriving DecidableEq, Repr

/-- The first of the texts that is given and not empty. -/
def firstGiven? (texts : List (Option Text)) : Option Text :=
  texts.findSome? fun
    | some (char :: text) => some (char :: text)
    | _ => none

/-- The categories of reports on a source. -/
inductive SourceFault.Category where
  | general
  | unterminated
  | unbalanced
  | unmatched
  | malformed
  | ambiguous (closer : Int)
  | expression
  deriving DecidableEq, Repr

/-- A report on a source that is refused. -/
structure SourceFault where
  category : SourceFault.Category
  text : Text
  line : Option Int
  origin : Origin
  column : Option Int
  code : Option ErrorCode
  deriving DecidableEq, Repr

namespace SourceFault

/-- The code of a category of reports. -/
def Category.code : Category → Option ErrorCode
  | general => none
  | unterminated => some .unterminatedInterpolation
  | unbalanced => some .unbalancedBlock
  | unmatched => some .unmatchedCloser
  | malformed => some .malformedCloser
  | ambiguous _ => some .ambiguousArm
  | expression => some .expressionSyntax

/-- The category of reports that a flaw leads to. -/
def Category.ofFlaw : Flaw → Category
  | .unterminatedFragment _ _ => unterminated
  | .unclosedBlock _ _ => unbalanced
  | .unmatchedCloser _ => unmatched
  | .malformedCloser _ _ => malformed
  | .separatedArm _ closer _ => ambiguous closer
  | .rejected _ _ _ => expression

/-- The report of a flaw. -/
def ofFlaw (origin : Origin) (flaw : Flaw) : SourceFault :=
  let category := Category.ofFlaw flaw
  ⟨category, flaw.message, flaw.line?, origin, flaw.column?.map Int.ofNat, category.code⟩

/-- The line, unless it is missing or zero. -/
def knownLine? (line : Option Int) : Option Int := line.filter (· != 0)

/-- The file or name, with the line when it is known. -/
def location (fault : SourceFault) : Text :=
  let place := (firstGiven? [fault.origin.file, fault.origin.name]).getD "<template>"
  match knownLine? fault.line with
  | some line => place ++ ":" ++ Text.ofInt line
  | none => place

/-- The source, when it and the line are known. -/
def shownSource? (fault : SourceFault) : Option (Text × Int) := do
  let source ← firstGiven? [fault.origin.source]
  let line ← knownLine? fault.line
  return (source, line)

/-- The content of the line at fault, if the source has such a line. -/
def sourceLine? (fault : SourceFault) : Option (Int × Text) := do
  let (source, line) ← fault.shownSource?
  let piece ← match line with
    | .ofNat (position + 1) => (Text.splitOn '\n' source)[position]?
    | _ => none
  return (line, Snippet.content piece)

/-- The caret below the line at fault in the long message. -/
def caret (column : Option Int) : Text :=
  match column with
  | some column => "\n   | " ++ Text.spaces column ++ ['^']
  | none => []

/-- The line at fault as the long message shows it. -/
def excerpt (fault : SourceFault) : Text :=
  match fault.sourceLine? with
  | some (line, content) =>
    "\n   |\n" ++ Text.padLeft 3 (Text.ofInt line) ++ " | " ++ content ++ caret fault.column
  | none => []

/-- The column after the location in the long message. -/
def columnSuffix (fault : SourceFault) : Text :=
  match knownLine? fault.line, fault.column with
  | some _, some column => ':' :: Text.ofInt column
  | _, _ => []

/-- The long message, which is never coloured. -/
def message (fault : SourceFault) : Text :=
  "Syntax Error: " ++ fault.text ++ "\n  --> " ++ fault.location ++ fault.columnSuffix
    ++ fault.excerpt

/-- The line that names the documentation page of a code. -/
def documentationRows (colours : Bool) : Option ErrorCode → List Text
  | none => []
  | some code =>
    ["  " ++ Paint.faint colours "Docs:" ++ " " ++ Paint.link colours code.documentation]

/-- The compact message. -/
def compact (colours : Bool) (fault : SourceFault) : Text :=
  let snippet := match fault.shownSource? with
    | some (source, line) => [(Snippet.around source line 2 fault.column).toText colours]
    | none => []
  Text.join ['\n'] (Paint.header colours (fault.code.map ErrorCode.toText) fault.text
    :: ("  --> " ++ Paint.location colours fault.location)
    :: (snippet ++ documentationRows colours fault.code))

end SourceFault
end Stencil
