import Stencil.Session.Request

/-!
# Sessions

A session answers requests one after the other.  A request that fails leaves the names of the session as they were;
what it changed in the world before it failed stays changed.
-/

namespace Stencil

open Effect

/-- The state of a session. -/
structure Session where
  world : World
  registry : Registry

namespace LoaderSketch

/-- The number of a new mapping. -/
def newShelf (shelf : Shelf) : Effect Nat := do
  let (number, library) := (← Effect.world).library.addShelf shelf
  change fun world => { world with library := library }
  return number

mutual

/-- Build the loader that a sketch describes. -/
def build (registry : Registry) : LoaderSketch → Effect Loader
  | known id => found id registry.loaders
  | directories paths encoding => return .directories (paths.map Path.ofText) encoding
  | mapping shelf => do return .mapping (← newShelf shelf)
  | silent shelf => do return .silent (← newShelf shelf)
  | choice sketches => do return .choice (← buildAll registry sketches)

/-- Build the loaders that sketches describe. -/
def buildAll (registry : Registry) : List LoaderSketch → Effect (List Loader)
  | [] => return []
  | sketch :: sketches => do
    let loader ← sketch.build registry
    return loader :: (← buildAll registry sketches)

end

end LoaderSketch

namespace Session

/-- Build a loader if one is described. -/
def loaderIfAny (registry : Registry) : Option LoaderSketch → Effect (Option Loader)
  | none => return none
  | some sketch => do return some (← sketch.build registry)

/-- The decision of a given name. -/
def decisionOf (name : Text) : Effect Escaping :=
  match Escaping.ofName? name with
  | some decision => return decision
  | none => raiseText .value (Quoted.encode name ++ " is not a valid Escaping")

/-- The decisions of given names. -/
def decisionsOf : List (Text × Text) → Effect (List (Text × Escaping))
  | [] => return []
  | (contentType, name) :: entries => do
    let decision ← decisionOf name
    return (contentType, decision) :: (← decisionsOf entries)

/-- The policy of a number. -/
def policyAt (number : Nat) : Effect EscapePolicy := do
  let world ← Effect.world
  return (world.policies[number]?).getD .standard

/-- The template of a number, as an answer. -/
def templateAnswer (number : Nat) : Effect Answer := do
  let world ← Effect.world
  return ((world.templates[number]?).map Answer.template).getD .noTemplate

/-- An environment with the parts that are given, or the standard ones. -/
def environmentOf (registry : Registry) (loader : Option LoaderSketch) (policy : Option Text)
    (marker : Text) : Effect Environment := do
  let loader ← loaderIfAny registry loader
  let environment ← standardEnvironment loader
  let policy ← match policy with
    | none => pure environment.policy
    | some id => found id registry.policies
  if Environment.acceptsMarker marker then return ⟨loader, policy, marker⟩
  else raiseText .value (Environment.markerMessage marker)

/-- The environment of a name, or a new one. -/
def environmentIfAny (registry : Registry) : Option Text → Effect Environment
  | none => standardEnvironment none
  | some id => found id registry.environments

/-- Compile a source with options. -/
def compileWith (registry : Registry) (options : TemplateOptions) (environment : Environment)
    (source : TemplateSource) : Effect Nat := do
  let globals ← openNamespace (← Sketch.buildNamed registry options.globals)
  Effect.compile environment source options.escape globals

/-- The qualified name of an attribute of a class itself that was installed by displaying it. -/
def installedName? (record : ClassRecord) (name : Text) : Option Text :=
  match record.attributes.lookup name with
  | some (.hook (.renders _ owner)) | some (.hook (.reloads _ owner)) | some (.hook (.trusts owner)) =>
    some (owner ++ ['.'] ++ name)
  | _ => none

/-- What there is to know about a class. -/
def infoOf (number : Nat) : Effect ClassInfo := do
  let record ← classRecord number
  let world ← Effect.world
  let template := match world.attributeOfClass? number "__kiln_template__" with
    | some (.template template) => world.templates[template]?
    | _ => none
  let contentType := match world.attributeOfClass? number "content_type" with
    | some value => Sketch.ofValue world World.shownDepth value
    | none => .none
  return ⟨template, contentType, installedName? record "__str__", installedName? record "__html__",
    (world.attributeOfClass? number "__html__").isSome⟩

/-- The description of a value as it is now. -/
def sketchOf (value : Value) : Effect Sketch := do
  return Sketch.ofValue (← Effect.world) World.shownDepth value

/-- The global names that every module has. -/
def moduleNames (name : Text) (file : Option Text) : List (Text × Value) :=
  [("__name__".toList, .plain name), ("__doc__".toList, .none), ("__package__".toList, .none),
    ("__loader__".toList, .none), ("__spec__".toList, .none)]
  ++ match file with
    | some file => [("__file__".toList, .plain file)]
    | none => []

/-- Define a module; one of the same name is replaced. -/
def defineModule (name : Text) (file : Option Text) (globals : List (Text × Value)) :
    Effect Unit := do
  let entries := globals.foldl (fun entries entry => putEntry entry.1 entry.2 entries)
    (moduleNames name file)
  let number ← openNamespace entries
  change fun world => { world with modules := putEntry name number world.modules }

/-- Set a global name of a module. -/
def putGlobal (module name : Text) (value : Value) : Effect Unit := do
  let number ← found module (← Effect.world).modules
  change fun world =>
    { world with namespaces := world.namespaces.modify number (putEntry name value) }

/-- Define a class and give its number. -/
def defineClass (registry : Registry) (sketch : ClassSketch) : Effect Nat := do
  let base ← match sketch.base with
    | none => pure none
    | some id => do pure (some (← found id registry.classes))
  let attributes ← Sketch.buildNamed registry sketch.attributes
  let world ← Effect.world
  change fun world =>
    let record := ⟨sketch.name, sketch.qualifiedName, sketch.module, base, attributes⟩
    { world with classes := world.classes.push record }
  return world.classes.size

/-- Display a class. -/
def displayClass (registry : Registry) (number : Nat) (sketch : DisplaySketch) : Effect Unit := do
  let loader ← loaderIfAny registry sketch.loader
  let environment ← match sketch.environment with
    | none => pure none
    | some id => do pure (some (← found id registry.environments))
  Effect.display number ⟨sketch.text, sketch.path, sketch.suffix, loader, environment, sketch.escape,
    sketch.reload⟩

/-- The number of the mapping that a loader holds. -/
def shelfOf? : Loader → Option Nat
  | .mapping shelf | .silent shelf => some shelf
  | .directories _ _ | .choice _ => none

/-- Raise the error about something that a loader does not have. -/
def raiseLacking {α : Type} (loader : Loader) (name : Text) : Effect α :=
  raiseText .noAttribute (['\''] ++ loader.typeName ++ "' object has no attribute '" ++ name ++ ['\''])

/-- Change the files. -/
def changeFiles (f : FileTree → FileTree) : Effect Unit :=
  change fun world => { world with library := { world.library with files := f world.library.files } }

/-- Make a part of a session, and give the names with the one that it gets. -/
def define (registry : Registry) (id : Text) : Definition → Effect (Answer × Registry)
  | .loader sketch => do
    let loader ← sketch.build registry
    return (.done, { registry with loaders := putEntry id loader registry.loaders })
  | .policy extra => do
    let policy := EscapePolicy.withExtra (← decisionsOf extra)
    let number := (← Effect.world).policies.size
    change fun world => { world with policies := world.policies.push policy }
    return (.policy policy, { registry with policies := putEntry id number registry.policies })
  | .environment loader policy marker => do
    let environment ← environmentOf registry loader policy marker
    return (.environment environment,
      { registry with environments := putEntry id environment registry.environments })
  | .template environment text name suffix options => do
    let environment ← environmentIfAny registry environment
    let number ← compileWith registry options environment
      ⟨text, name, none, contentTypeOf suffix⟩
    return (← templateAnswer number,
      { registry with templates := putEntry id number registry.templates })
  | .namedTemplate environment name options => do
    let environment ← found environment registry.environments
    let number ← compileWith registry options environment (← sourceOf environment name)
    return (← templateAnswer number,
      { registry with templates := putEntry id number registry.templates })
  | .classOf sketch => do
    let number ← defineClass registry sketch
    return (.done, { registry with classes := putEntry id number registry.classes })

/-- Answer a query. -/
def fulfil (registry : Registry) : Query → Effect Answer
  | .writeFile path contents => do
    changeFiles (FileTree.write (Path.ofText path).components (.bytes contents))
    return .done
  | .removeFile path => do
    changeFiles (FileTree.remove (Path.ofText path).components)
    return .done
  | .putSource loader name source => do
    let loader ← found loader registry.loaders
    match shelfOf? loader with
    | some shelf =>
      change fun world => { world with library := world.library.putSource shelf name source }
      return .done
    | none => raiseLacking loader "_mapping"
  | .load loader name => do
    let loader ← found loader registry.loaders
    let source ← ofLoading (loader.read (← Effect.world).library name)
    return .loaded source
  | .listTemplates loader => do
    match ← found loader registry.loaders with
    | .silent shelf => raiseLacking (.silent shelf) "list_templates"
    | loader => return .templates (← ofLoading (loader.list (← Effect.world).library))
  | .listPaths loader => do
    match ← found loader registry.loaders with
    | .directories paths _ =>
      return .paths (paths.map (Path.toText (← Effect.world).library.home))
    | loader => raiseLacking loader "paths"
  | .register policy contentType decision => do
    let number ← found policy registry.policies
    let decision ← decisionOf decision
    change fun world =>
      { world with policies := world.policies.modify number (·.register contentType decision) }
    return .policy (← policyAt number)
  | .decide policy contentType => do
    let policy ← policyAt (← found policy registry.policies)
    return .decision (policy.decide contentType) (policy.covers contentType)
  | .covers policy contentType => do
    let policy ← policyAt (← found policy registry.policies)
    return .covered (contentType.any policy.covers)
  | .readSource environment name => do
    let environment ← found environment registry.environments
    return .source (← sourceOf environment name)
  | .render template context => do
    match registry.templates.lookup template with
    | none => return .noTemplate
    | some number =>
      let context ← context.build registry
      return .output (← sketchOf (← Effect.render callValue number context))
  | .defineModule name file globals => do
    defineModule name file (← Sketch.buildNamed registry globals)
    return .done
  | .putGlobal module name value => do
    putGlobal module name (← value.build registry)
    return .done
  | .display className options => do
    let number ← found className registry.classes
    displayClass registry number options
    return .displayed (← infoOf number)
  | .inspect className => do
    return .classInfo (← infoOf (← found className registry.classes))
  | .toText value => do
    let value ← value.build registry
    return .output (← sketchOf (← callValue (.builtin .text) [value]))
  | .toMarkup value => do
    let value ← value.build registry
    let markup ← callValue (← attributeAt value "__html__") []
    let trusted := match markup with
      | .text _ trusted _ => trusted
      | _ => false
    return .markup (← sketchOf markup) trusted
  | .escape value => do
    let value ← value.build registry
    return .output (← sketchOf (← callValue (.builtin .escape) [value]))

/-- Answer a request, and give the names of the session after it. -/
def answer (registry : Registry) : Request → Effect (Answer × Registry)
  | .define id definition => define registry id definition
  | .ask query => do return (← fulfil registry query, registry)

/-- Explain the error at an address. -/
def failureOf (error : Nat) : Effect Answer := do
  let text ← callValue (.builtin .text) [.object error]
  match (← Effect.world).incident? error with
  | some incident =>
    return .failed ⟨incident.kind, contentOf text, incident.report, incident.cause⟩
  | none => return .unfinished

/-- Answer a request and go on with the session after it. -/
def step (session : Session) (request : Request) : Answer × Session :=
  match answer session.registry request session.world with
  | .done (answer, registry) world => (answer, ⟨world, registry⟩)
  | .exhausted => (.unfinished, session)
  | .failed error world =>
    match failureOf error world with
    | .done answer world => (answer, ⟨world, session.registry⟩)
    | .failed _ world => (.unfinished, ⟨world, session.registry⟩)
    | .exhausted => (.unfinished, ⟨world, session.registry⟩)

/-- Answer requests one after the other. -/
def run (session : Session) : List Request → List Answer
  | [] => []
  | request :: requests =>
    let (answer, session) := session.step request
    answer :: session.run requests

/-- A session that has files, and nothing else but a module without global names; `home` is how the
current directory's full path is written. -/
def start (home module : Text) (files : List (Text × List UInt8)) (colours : Bool) : Session :=
  let tree := files.foldl (fun tree file =>
    tree.write (Path.ofText file.1).components (.bytes file.2)) FileTree.empty
  ⟨⟨⟨tree, [], home⟩, #[], #[], #[], #[moduleNames module none], [(module, 0)], #[], #[], 0, [], colours⟩,
    Registry.empty⟩

end Session
end Stencil
