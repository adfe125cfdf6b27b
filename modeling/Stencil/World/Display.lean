import Stencil.Naming
import Stencil.World.Call

/-!
# Displayed classes

Displaying a class binds it to a template, which from then on is the text of its instances.  A template that escapes
also makes that text trusted markup.  Nothing about the class changes unless its template can be built.
-/

namespace Stencil

/-- How a class is to be displayed. -/
structure DisplayOptions where
  /-- The text of the template, instead of a file. -/
  text : Option Text
  /-- The name of the template, instead of the one that follows from the name of the class. -/
  path : Option Text
  suffix : Option Text
  loader : Option Loader
  environment : Option Environment
  /-- Whether values are escaped, instead of what the content type decides. -/
  escape : Option Bool
  /-- Whether the template is built again for every rendering. -/
  reload : Bool

namespace DisplayOptions

/-- All defaults. -/
def standard : DisplayOptions := ⟨none, none, none, none, none, none, false⟩

end DisplayOptions

namespace Effect

/-- The class with a given number. -/
def classRecord (number : Nat) : Effect ClassRecord := do
  let world ← Effect.world
  return (world.classes[number]?).getD ⟨[], [], [], none, []⟩

/-- Set an attribute of a class itself. -/
def putClassAttribute (number : Nat) (name : Text) (value : Value) : Effect Unit :=
  change fun world =>
    { world with classes := world.classes.modify number fun record =>
        { record with attributes := putEntry name value record.attributes } }

/-- The name of the directory for templates without a loader. -/
def templatesName : Text := "templates"

/-- The file that a module comes from, if its namespace names one. -/
def moduleFile? (world : World) (module : Text) : Option Text :=
  let globals := ((world.modules.lookup module).bind (world.namespaces[·]?)).getD []
  match globals.lookup "__file__".toList with
  | some (.text _ _ file) => firstGiven? [some file]
  | _ => none

/-- The directory of templates next to the file of a class's module, or below the current directory. -/
def defaultLoader (record : ClassRecord) : Effect Loader := do
  let world ← Effect.world
  let base := match moduleFile? world record.module with
    | some file => (Path.ofText file).parent
    | none => Path.workplace
  return .directories [base.join (.ofText templatesName)] "utf-8"

/-- An environment with the standard policy and marker. -/
def standardEnvironment (loader : Option Loader) : Effect Environment := do
  let world ← Effect.world
  change fun world => { world with policies := world.policies.push .standard }
  return ⟨loader, world.policies.size, Environment.standardMarker⟩

/-- The environment that the template of a class is built in. -/
def environmentFor (record : ClassRecord) (options : DisplayOptions) : Effect Environment := do
  match options.environment, options.loader with
  | none, some loader => standardEnvironment (some loader)
  | none, none =>
    if options.text.isSome then standardEnvironment none
    else standardEnvironment (some (← defaultLoader record))
  | some environment, some loader => return { environment with loader := some loader }
  | some environment, none => return environment

/-- The name and the content type of the template of a class. -/
def templateOf (record : ClassRecord) (options : DisplayOptions) : Effect (Text × Text) := do
  if options.text.isSome then
    return (record.qualifiedName, contentTypeOf options.suffix)
  else
    let name ← match firstGiven? [options.path] with
      | some path => pure path
      | none => match Naming.fileName record.name options.suffix with
        | .ok name => pure name
        | .error error => raiseText .value error.message
    return (name, contentTypeOf (some name))

/-- Work out how the template of a class is built. -/
def bindClass (record : ClassRecord) (options : DisplayOptions) : Effect Binding := do
  if options.text.isSome && options.path.isSome then
    raiseText .typing "display() takes either text= or path=, not both"
  else
    let environment ← environmentFor record options
    let (name, contentType) ← templateOf record options
    let policy ← policyOf environment
    let escape := options.escape.getD (policy.escapes contentType)
    let world ← Effect.world
    match world.modules.lookup record.module with
    | some namespaceNumber =>
      return ⟨environment, name, options.text, contentType, escape, namespaceNumber⟩
    | none => raiseText .typing ("cannot find module " ++ Quoted.encode record.module ++ " of "
        ++ record.qualifiedName)

/-- Make a class convert to text through its template. -/
def installDisplay (number : Nat) (record : ClassRecord) (binding : Binding) (reload : Bool) :
    Effect Unit := do
  if reload then
    putClassAttribute number "__kiln_template__" .none
    putClassAttribute number "__str__" (.hook (.reloads binding record.qualifiedName))
  else
    let template ← build binding
    putClassAttribute number "__str__" (.hook (.renders template record.qualifiedName))
    putClassAttribute number "__kiln_template__" (.template template)
  let own (name : Text) : Bool := (record.attributes.lookup name).isSome
  if !own "content_type" then
    putClassAttribute number "content_type" (.plain binding.contentType)
  if binding.escape && !own "__html__" then
    putClassAttribute number "__html__" (.hook (.trusts record.qualifiedName))

/-- Display a class. -/
def display (number : Nat) (options : DisplayOptions) : Effect Unit := do
  let record ← classRecord number
  let binding ← bindClass record options
  installDisplay number record binding options.reload

end Effect
end Stencil
