import Stencil.Diagnostic.SourceFault

/-!
# Reports of failed renderings

A report says what went wrong, in which template and at which line, and through which enclosing templates
the failure passed.
-/

namespace Stencil

/-- A report on a rendering that failed. -/
structure RenderFault where
  text : Text
  /-- Name of the template that failed. -/
  name : Option Text
  line : Option Int
  suggestion : Option Text
  snippet : Option Snippet
  /-- The enclosing templates, innermost first. -/
  stack : List EnclosingFrame
  code : Option ErrorCode
  deriving DecidableEq, Repr

namespace RenderFault

/-- Record a template that the failure passed through. -/
def enclose (frame : EnclosingFrame) (fault : RenderFault) : RenderFault :=
  { fault with stack := fault.stack ++ [frame] }

/-- The template's name, with the line when it is known. -/
def location (fault : RenderFault) : Text :=
  let place := (firstGiven? [fault.name]).getD "<template>"
  match SourceFault.knownLine? fault.line with
  | some line => place ++ ":" ++ Text.ofInt line
  | none => place

/-- Whether anything is known about the place. -/
def hasLocation (fault : RenderFault) : Bool :=
  (firstGiven? [fault.name]).isSome || (SourceFault.knownLine? fault.line).isSome

/-- The row that names the place. -/
def locationRow (colours : Bool) (fault : RenderFault) : Text :=
  "  Location: " ++ Paint.location colours fault.location

/-- The rows of the snippet and of the enclosing templates. -/
def contextRows (colours : Bool) (fault : RenderFault) : List Text :=
  (match fault.snippet with
    | some snippet => [snippet.toText colours]
    | none => [])
  ++ if fault.stack.isEmpty then [] else [[], stackText colours fault.stack]

/-- The rows of the suggestion, under a given title. -/
def suggestionRows (title : Text) (fault : RenderFault) : List Text :=
  match firstGiven? [fault.suggestion] with
  | some suggestion => [title ++ " " ++ suggestion]
  | none => []

/-- The long message. -/
def message (colours : Bool) (fault : RenderFault) : Text :=
  Text.join ['\n'] (("Runtime Error: " ++ fault.text)
    :: ((if fault.hasLocation then [fault.locationRow colours] else [])
      ++ fault.contextRows colours
      ++ fault.suggestionRows ("\n  " ++ Paint.hint colours "Suggestion:")))

/-- The compact message. -/
def compact (colours : Bool) (fault : RenderFault) : Text :=
  Text.join ['\n'] (Paint.header colours (fault.code.map ErrorCode.toText) fault.text
    :: fault.locationRow colours
    :: (fault.contextRows colours
      ++ fault.suggestionRows ("  " ++ Paint.hint colours "Hint:")
      ++ SourceFault.documentationRows colours fault.code))

end RenderFault

/-- The compact form of an error that has only a message: its code in front, unless the message
shows it already, and its documentation page below. -/
def compactMessage (code : Option ErrorCode) (message : Text) : Text :=
  match code with
  | none => message
  | some code =>
    (if Text.occursIn code.toText message then message else code.toText ++ ": " ++ message)
      ++ "\n  Docs: " ++ code.documentation

end Stencil
