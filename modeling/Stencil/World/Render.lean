import Stencil.Template
import Stencil.World.Convert

/-!
# Rendering templates

A template is built once and rendered any number of times.  A failure that is not a report yet becomes one with the
line of the innermost call of the template's routine; a report that passes through a template records the line of
the outermost one.
-/

namespace Stencil

/-- What is said of an error: its kind and its text, or what else its arguments say. -/
def describedBy (kind : ErrorKind) (text : Text) (arguments : List Text) : Text :=
  let given := arguments.filter fun argument => !argument.trim.isEmpty
  if !text.trim.isEmpty then kind.toText ++ ": " ++ text.trim
  else if !given.isEmpty then kind.toText ++ ": " ++ Text.join [',', ' '] given
  else kind.toText ++ " (no details available)"

/-- What is suggested about an error with a certain text. -/
def suggestionFor (kind : ErrorKind) (text : Text) : Option Text :=
  if kind.isA .noAttribute && Text.occursIn "NoneType" text then
    some "A value used in this expression is None; guard it with an if block"
  else if kind.isA .name then
    some "Module-level names are visible; everything else goes through self"
  else none

namespace Template

/-- The lines of a trace that are lines of the template's routine, outermost first. -/
def ownLines (template : Template) (trace : List TraceLine) : List Nat :=
  (trace.filter fun line => line.file == template.routine.file).map TraceLine.line

/-- The template line of a generated line. -/
def lineOf? (template : Template) (line : Option Nat) : Option Int :=
  line.bind fun line => template.routine.originOf line

/-- The report of an error with a certain text that left the template's routine. -/
def faultFor (template : Template) (incident : Incident) (text described : Text) : RenderFault :=
  let line := template.lineOf? (template.ownLines incident.trace).getLast?
  let snippet := match SourceFault.knownLine? line with
    | some line =>
      if template.source.text.isEmpty then none
      else some (Snippet.around template.source.text line 2 none)
    | none => none
  ⟨described, template.source.name, line, suggestionFor incident.kind text, snippet, [],
    ErrorKind.code .rendering⟩

/-- What a report that left the template's routine with a certain trace records of it. -/
def frameFor (template : Template) (trace : List TraceLine) : EnclosingFrame :=
  ((firstGiven? [template.source.name]).getD "<template>",
    (template.lineOf? (template.ownLines trace).head?).getD 0)

end Template

namespace Effect

/-- The texts of values. -/
def textsOf (call : Caller) : List Value → Effect (List Text)
  | [] => return []
  | value :: values => do
    let text ← call (.builtin .text) [value]
    return contentOf text :: (← textsOf call values)

/-- The report of an error that left a template's routine. -/
def faultOf (call : Caller) (template : Template) (error : Nat) (incident : Incident) :
    Effect RenderFault := do
  let text := contentOf (← call (.builtin .text) [.object error])
  let arguments ← if text.trim.isEmpty then textsOf call incident.arguments else pure []
  return template.faultFor incident text (describedBy incident.kind text arguments)

/-- Record in a report that it passed through a template. -/
def enclose (template : Template) (incident : Incident) : Incident :=
  match incident.report with
  | some (.rendering fault) =>
    { incident with report := some (.rendering (fault.enclose (template.frameFor incident.trace))) }
  | _ => incident

/-- Deal with an error that left a template's routine. -/
def explain (call : Caller) (template : Template) (error : Nat) : Effect Value := do
  let world ← Effect.world
  match world.incident? error with
  | none => failWith error
  | some incident =>
    if incident.kind.isA .rendering then
      change (World.changeIncident error (enclose template))
      failWith error
    else if incident.kind.isA .template || !incident.kind.isA .exception then failWith error
    else
      let fault ← faultOf call template error incident
      raiseReport .rendering (some incident.kind) (.rendering fault) fault.text

/-- Render a template with a context. -/
def render (call : Caller) (number : Nat) (context : Value) : Effect Value := do
  let world ← Effect.world
  match world.templates[number]? with
  | none => return .none
  | some template =>
    recover (call (.object template.function) [context]) (explain call template)

/-- Raise what keeps a template from being compiled. -/
def raiseCompileError {α : Type} (origin : Origin) : CompileError → Effect α
  | .nullCharacter => raiseText .value "source code string cannot contain null bytes"
  | .unbalancedPlan => raise .assertion []
  | .flawed flaw =>
    let fault := SourceFault.ofFlaw origin flaw
    let cause := match flaw with
      | .rejected blame _ _ => some (ErrorKind.ofBlame blame)
      | _ => none
    raiseReport (.source fault.category) cause (.source fault) fault.message

/-- The qualified name of every routine. -/
def routineName : Text := Routine.factoryName ++ ".<locals>." ++ Routine.renderName

/-- Make a template of a routine: the routine becomes a function whose scope holds the two converters. -/
def install (source : TemplateSource) (escape : Bool) (globals : Nat) (routine : Routine) :
    Effect Nat := do
  let names := [Routine.escapeParameter, Routine.textParameter, Routine.renderName]
  let scope ← openScope ⟨names, [(Routine.escapeParameter, .builtin .escape),
    (Routine.textParameter, .builtin .text)], none⟩
  let function ← allocate (.function
    ⟨routineName, ["self"], routine.body, scope, routine.file, globals⟩ [])
  changeScope scope (putEntry Routine.renderName (.object function))
  let world ← Effect.world
  change fun world =>
    { world with templates := world.templates.push ⟨source, escape, routine, function⟩ }
  return world.templates.size

/-- The policy of an environment. -/
def policyOf (environment : Environment) : Effect EscapePolicy := do
  let world ← Effect.world
  return (world.policies[environment.policy]?).getD .standard

/-- Compile a source.  Unless it is given whether values are escaped, the content type decides. -/
def compile (environment : Environment) (source : TemplateSource) (escape : Option Bool)
    (globals : Nat) : Effect Nat := do
  let policy ← policyOf environment
  let escape := escape.getD (policy.escapes source.contentType)
  match source.routine environment.marker escape with
  | .ok routine => install source escape globals routine
  | .error error => raiseCompileError source.origin error

/-- Raise what keeps a source from being loaded. -/
def raiseLoadError {α : Type} : LoadError → Effect α
  | .missing message => raiseText .missing message
  | .unreadable message => do
    failWith (← allocate (.error ⟨.unreadable, [.plain message], [], none, [], some .decoding⟩))
  | .unopened message number => do
    let trouble := SystemTrouble.ofNumber? number
    failWith (← allocate (.error ⟨.unreadable, [.plain message], [], none, [], some (.system trouble)⟩))
  | .tooLong path =>
    let (number, text) := (Value.number 36, Value.plain "File name too long")
    let notes := [("errno".toList, number), ("strerror".toList, text),
      ("filename".toList, .plain path)]
    raiseNoting (.system none) [number, text] notes
  | .unknownEncoding name => raiseText .lookup ("unknown encoding: " ++ name)

/-- Do what can go wrong like loading. -/
def ofLoading {α : Type} : Except LoadError α → Effect α
  | .ok value => return value
  | .error error => raiseLoadError error

/-- The source of a template by its name. -/
def sourceOf (environment : Environment) (name : Text) : Effect TemplateSource := do
  let world ← Effect.world
  ofLoading (environment.source world.library name)

/-- Build the template of a class. -/
def build (binding : Binding) : Effect Nat := do
  let source ← match binding.text with
    | some text => pure ⟨text, some binding.name, none, binding.contentType⟩
    | none => sourceOf binding.environment binding.name
  compile binding.environment source (some binding.escape) binding.namespaceNumber

end Effect
end Stencil
