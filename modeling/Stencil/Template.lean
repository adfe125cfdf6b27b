import Stencil.Block.Matching
import Stencil.EscapePolicy
import Stencil.Line.Classify
import Stencil.Loading.Loader
import Stencil.Plan.Layout
import Stencil.Routine.Compile

/-!
# Templates

A template is compiled in stages: its lines are classified, their blocks matched, the tree laid out as a plan,
and the plan written and read as a routine.  The first stage that finds a flaw ends the compilation.
-/

namespace Stencil

/-- The source of a template, with the content type that its name or suffix decides. -/
structure TemplateSource where
  text : Text
  name : Option Text
  file : Option Text
  contentType : Text
  deriving DecidableEq, Repr

namespace TemplateSource

/-- What reports need to know of a source. -/
def origin (source : TemplateSource) : Origin := ⟨source.name, source.file, some source.text⟩

/-- The block tree of a source. -/
def tree (marker : Text) (source : TemplateSource) : Except Flaw Tree := do
  let lines ← Line.ofSource marker source.text
  Tree.ofLines source.name lines

/-- The plan of a source. -/
def plan (marker : Text) (escape : Bool) (source : TemplateSource) : Except Flaw Plan :=
  (source.tree marker).map (Tree.plan escape)

/-- The routine of a source. -/
def routine (marker : Text) (escape : Bool) (source : TemplateSource) :
    Except CompileError Routine :=
  match source.plan marker escape with
  | .error flaw => .error (.flawed flaw)
  | .ok plan => Routine.ofPlan source.origin plan

end TemplateSource

/-- How templates are found and compiled. -/
structure Environment where
  loader : Option Loader
  /-- The number of the escape policy. -/
  policy : Nat
  /-- What directive lines start with. -/
  marker : Text
  deriving Repr

namespace Environment

/-- The marker of directive lines unless another one is given. -/
def standardMarker : Text := ['%', '%']

/-- Whether a marker can be used: it is not empty, and trimming leaves it as it is. -/
def acceptsMarker (marker : Text) : Bool := !marker.isEmpty && marker == marker.trim

/-- What is said of a marker that cannot be used. -/
def markerMessage (marker : Text) : Text :=
  "directive_marker must be non-empty without spaces: " ++ Quoted.encode marker

/-- The source of a template by its name. -/
def source (library : Library) (name : Text) (environment : Environment) :
    Except LoadError TemplateSource :=
  match environment.loader with
  | none => .error (.missing ("Template '" ++ name ++ "' not found: no loader configured"))
  | some loader =>
    (loader.read library name).map fun found =>
      ⟨found.text, some name, found.file, contentTypeOf (some name)⟩

/-- An environment as it is shown. -/
def toText (environment : Environment) : Text :=
  let loader : Text := match environment.loader with
    | none => "None"
    | some loader => loader.typeName
  "<Environment loader=" ++ loader ++ " marker=" ++ Quoted.encode environment.marker ++ ">"

end Environment
end Stencil
