import Stencil.Proofs.DisplayedClasses
import Stencil.Proofs.VeiledReads

/-!
# Effects that run no script

Building values, loaders and templates only adds to the world.  When it fails, the error holds no objects, so that saying
what it is runs no script either and only adds to the world as well.
-/

namespace Stencil

open Effect Routine

/-- The answer that an action gives when it ends, and the session after that; an error is explained. -/
def Session.conclude (session : Session) : Outcome (Answer × Registry) → Answer × Session
  | .done (answer, registry) world => (answer, ⟨world, registry⟩)
  | .exhausted => (.unfinished, session)
  | .failed error world =>
    match Session.failureOf error world with
    | .done answer world => (answer, ⟨world, session.registry⟩)
    | .failed _ world => (.unfinished, ⟨world, session.registry⟩)
    | .exhausted => (.unfinished, ⟨world, session.registry⟩)

theorem Session.step_conclude (session : Session) (request : Request) :
    session.step request = session.conclude (Session.answer session.registry request session.world) := by
  unfold Session.step
  cases Session.answer session.registry request session.world <;> rfl

/-! ## Errors that hold no objects -/

/-- Whether a value is no object. -/
def Value.Immediate : Value → Prop
  | .object _ => False
  | _ => True

/-- Whether an error holds no objects. -/
structure Incident.Immediate (incident : Incident) : Prop where
  arguments : ∀ argument ∈ incident.arguments, argument.Immediate
  attributes : ∀ entry ∈ incident.attributes, entry.2.Immediate

namespace Incident

variable {kind : ErrorKind} {cause : Option ErrorKind} {report : Option Report}

theorem immediate_message (message : Text) : Incident.Immediate ⟨kind, [.plain message], [], report, [], cause⟩ :=
  ⟨fun _ inside => List.mem_singleton.mp inside ▸ trivial, fun _ inside => absurd inside List.not_mem_nil⟩

theorem Immediate.only {incident : Incident} (immediate : incident.Immediate) {argument : Value}
    (given : incident.arguments = [argument]) : argument.Immediate :=
  immediate.arguments argument (given ▸ List.mem_singleton_self argument)

theorem immediate_empty : Incident.Immediate ⟨kind, [], [], none, [], none⟩ :=
  ⟨fun _ inside => absurd inside List.not_mem_nil, fun _ inside => absurd inside List.not_mem_nil⟩

end Incident

/-- Whether an effect fails with errors that hold no objects. -/
def FailsPlainly {α : Type} (effect : Effect α) : Prop :=
  ∀ (world next : World) (error : Nat), effect world = .failed error next →
    ∃ incident, next.objects[error]? = some (.error incident) ∧ incident.Immediate

namespace FailsPlainly

variable {α β : Type}

theorem pure (value : α) : FailsPlainly (Pure.pure value) := fun _ _ _ failed => nomatch failed

theorem world : FailsPlainly Effect.world := fun _ _ _ failed => nomatch failed

theorem change (f : World → World) : FailsPlainly (Effect.change f) := fun _ _ _ failed => nomatch failed

theorem bind {effect : Effect α} {next : α → Effect β} (first : FailsPlainly effect)
    (second : ∀ value, FailsPlainly (next value)) : FailsPlainly (effect >>= next) := by
  intro world after error failed
  rcases of_bind_failed failed with failed | ⟨value, between, -, failed⟩
  · exact first _ _ _ failed
  · exact second value _ _ _ failed

theorem raise {incident : Incident} (immediate : incident.Immediate) :
    FailsPlainly (α := α) (do failWith (← allocate (.error incident))) := by
  intro world next error failed
  cases failed
  exact ⟨incident, Array.getElem?_push_size, immediate⟩

theorem raiseText (kind : ErrorKind) (message : Text) : FailsPlainly (α := α) (Effect.raiseText kind message) :=
  raise (Incident.immediate_message message)

theorem policyOf (environment : Environment) : FailsPlainly (Effect.policyOf environment) :=
  bind world fun _ => pure _

theorem ofLoading (loaded : Except LoadError α) : FailsPlainly (Effect.ofLoading loaded) := by
  cases loaded with
  | ok value => exact pure value
  | error error =>
    cases error with
    | missing message => exact raiseText _ _
    | unreadable message => exact raise (Incident.immediate_message message)
    | unopened message number => exact raise (Incident.immediate_message message)
    | unknownEncoding name => exact raiseText _ _
    | tooLong path =>
      refine raise ⟨fun argument inside => ?_, fun entry inside => ?_⟩
      · simp only [List.mem_cons, List.not_mem_nil, or_false] at inside
        rcases inside with rfl | rfl <;> trivial
      · simp only [List.mem_cons, List.not_mem_nil, or_false] at inside
        rcases inside with rfl | rfl | rfl <;> trivial

theorem install (source : TemplateSource) (escape : Bool) (globals : Nat) (routine : Routine) :
    FailsPlainly (Effect.install source escape globals routine) := by
  intro world next error failed
  rw [install_installed] at failed
  cases failed

theorem compile (environment : Environment) (source : TemplateSource) (escape : Option Bool) (globals : Nat) :
    FailsPlainly (Effect.compile environment source escape globals) := by
  refine bind (policyOf environment) fun policy => ?_
  dsimp only
  split
  · exact install _ _ _ _
  · rename_i error _
    cases error with
    | nullCharacter => exact raiseText _ _
    | unbalancedPlan => exact raise Incident.immediate_empty
    | flawed flaw => exact raise (Incident.immediate_message _)

theorem build (binding : Binding) : FailsPlainly (Effect.build binding) := by
  unfold Effect.build
  cases binding.text with
  | some text => exact bind (pure _) fun _ => compile _ _ _ _
  | none => exact bind (bind world fun _ => ofLoading _) fun _ => compile _ _ _ _

theorem standardEnvironment (loader : Option Loader) : FailsPlainly (Effect.standardEnvironment loader) :=
  bind world fun _ => bind (change _) fun _ => pure _

theorem environmentFor (record : ClassRecord) (options : DisplayOptions) :
    FailsPlainly (Effect.environmentFor record options) := by
  unfold Effect.environmentFor
  split
  · exact standardEnvironment _
  · split
    · exact standardEnvironment _
    · exact bind (bind world fun _ => pure _) fun _ => standardEnvironment _
  · exact pure _
  · exact pure _

theorem templateOf (record : ClassRecord) (options : DisplayOptions) :
    FailsPlainly (Effect.templateOf record options) := by
  unfold Effect.templateOf
  split
  · exact pure _
  · dsimp only
    split
    · exact bind (pure _) fun _ => pure _
    · split
      · exact bind (pure _) fun _ => pure _
      · exact bind (raiseText _ _) fun _ => pure _

theorem bindClass (record : ClassRecord) (options : DisplayOptions) :
    FailsPlainly (Effect.bindClass record options) := by
  unfold Effect.bindClass
  split
  · exact raiseText _ _
  · refine bind (environmentFor _ _) fun environment => bind (templateOf _ _) fun found => ?_
    refine bind (policyOf _) fun policy => bind world fun _ => ?_
    split
    · exact pure _
    · exact raiseText _ _

end FailsPlainly

/-! ## Quiet effects -/

/-- Whether a relation between worlds holds between a world and one with more in it, or with identities used up. -/
structure Accruing (related : World → World → Prop) : Prop extends Additive related where
  identities : ∀ world, related world { world with identities := world.identities + 1 }

/-- Whether an effect only adds to the world, as a relation between worlds says, and fails with errors that hold no
objects. -/
structure Quiet {α : Type} (related : World → World → Prop) (effect : Effect α) : Prop where
  leads : Leads related effect
  fails : FailsPlainly effect

theorem Quiet.exhausted {α : Type} (related : World → World → Prop) : Quiet related (Effect.exhausted (α := α)) where
  leads _ := trivial
  fails _ _ _ failed := by cases failed

namespace Quiet

variable {α β : Type} {related : World → World → Prop} (accruing : Accruing related)
include accruing

theorem pure (value : α) : Quiet related (Pure.pure value) := ⟨.pure accruing.toAdditive value, .pure value⟩

theorem world : Quiet related Effect.world := ⟨.world accruing.toAdditive, .world⟩

theorem bind {effect : Effect α} {next : α → Effect β} (first : Quiet related effect)
    (second : ∀ value, Quiet related (next value)) : Quiet related (effect >>= next) :=
  ⟨.bind accruing.toAdditive first.leads fun value => (second value).leads, .bind first.fails fun value => (second value).fails⟩

theorem allocate (object : Object) : Quiet related (Effect.allocate object) :=
  ⟨.allocate accruing.toAdditive object, fun _ _ _ failed => nomatch failed⟩

theorem newIdentity : Quiet related Effect.newIdentity := ⟨accruing.identities, fun _ _ _ failed => nomatch failed⟩

theorem raiseText (kind : ErrorKind) (message : Text) : Quiet related (Effect.raiseText (α := α) kind message) :=
  ⟨.raiseText accruing.toAdditive kind message, .raiseText kind message⟩

theorem found (id : Text) (entries : List (Text × α)) : Quiet related (Effect.found id entries) := by
  unfold Effect.found
  split
  · exact pure accruing _
  · exact raiseText accruing _ _

/-! ### Values -/

theorem newInt (value : Int) : Quiet related (Effect.newInt value) := by
  unfold Effect.newInt
  split
  · exact pure accruing _
  · exact bind accruing (newIdentity accruing) fun _ => pure accruing _

theorem newText (content : Text) : Quiet related (Effect.newText content) := by
  unfold Effect.newText
  extract_lets shared
  split
  · exact pure accruing _
  · exact bind accruing (newIdentity accruing) fun _ => pure accruing _

theorem newTuple (items : List Value) : Quiet related (Effect.newTuple items) := by
  unfold Effect.newTuple
  split
  · exact pure accruing _
  · exact bind accruing (newIdentity accruing) fun _ => pure accruing _

theorem checkKey (key : Value) : Quiet related (Effect.checkKey key) := by
  refine bind accruing (world accruing) fun _ => ?_
  split
  · exact raiseText accruing _ _
  · exact pure accruing _

theorem checkKeys (entries : List (Value × Value)) :
    Quiet related (forIn entries PUnit.unit fun entry _ => do
      Effect.checkKey entry.1
      Pure.pure (ForInStep.yield PUnit.unit)) := by
  induction entries with
  | nil => exact pure accruing _
  | cons entry entries ih =>
    rw [List.forIn_cons]
    exact bind accruing (bind accruing (checkKey accruing entry.1) fun _ => pure accruing _) fun step =>
      match step with
      | .done _ => pure accruing _
      | .yield _ => ih

theorem putEntries (before entries : List (Value × Value)) : Quiet related (Effect.putEntries before entries) := by
  induction entries generalizing before with
  | nil => exact pure accruing _
  | cons entry entries ih =>
    refine bind accruing (world accruing) fun world => ?_
    have decides : Quiet related (decided (world.putKey? entry.1 entry.2 before)) := by
      cases world.putKey? entry.1 entry.2 before with
      | some _ => exact pure accruing _
      | none => exact raiseText accruing _ _
    exact bind accruing decides fun _ => ih _

theorem newDict (entries : List (Value × Value)) : Quiet related (Effect.newDict entries) :=
  bind accruing (checkKeys accruing entries) fun _ => bind accruing (putEntries accruing [] entries) fun _ =>
    bind accruing (allocate accruing _) fun _ => pure accruing _

mutual

theorem slot (registry : Registry) : ∀ sketch : Sketch, Quiet related (sketch.slot registry)
  | .none | .bool _ => pure accruing _
  | .int value => bind accruing (newInt accruing value) fun _ => pure accruing _
  | .text true _ => bind accruing (bind accruing (newIdentity accruing) fun _ => pure accruing _) fun _ => pure accruing _
  | .text false content => bind accruing (newText accruing content) fun _ => pure accruing _
  | .list items => bind accruing (slots registry items) fun _ =>
    bind accruing (bind accruing (allocate accruing _) fun _ => pure accruing _) fun _ => pure accruing _
  | .tuple items => bind accruing (slots registry items) fun _ => bind accruing (newTuple accruing _) fun _ => pure accruing _
  | .dict entries => bind accruing (pairs registry entries) fun _ =>
    bind accruing (newDict accruing _) fun _ => pure accruing _
  | .context attributes => bind accruing (namedSlots registry attributes) fun _ =>
    bind accruing (allocate accruing _) fun _ => pure accruing _
  | .guest none shown => bind accruing (pure accruing _) fun _ => bind accruing (slot registry shown) fun _ =>
    bind accruing (allocate accruing _) fun _ => pure accruing _
  | .guest (some html) shown => bind accruing (slot registry html) fun _ => bind accruing (pure accruing _) fun _ =>
    bind accruing (slot registry shown) fun _ => bind accruing (allocate accruing _) fun _ => pure accruing _
  | .member className attributes => bind accruing (found accruing className _) fun _ =>
    bind accruing (namedSlots registry attributes) fun _ => bind accruing (allocate accruing _) fun _ => pure accruing _
  | .template id => bind accruing (found accruing id _) fun _ => pure accruing _
  | .failing _ arguments => bind accruing (slots registry arguments) fun _ => pure accruing _

theorem slots (registry : Registry) : ∀ sketches : List Sketch, Quiet related (Sketch.slots registry sketches)
  | [] => pure accruing _
  | sketch :: sketches => bind accruing (slot registry sketch) fun _ =>
    bind accruing (slots registry sketches) fun _ => pure accruing _

theorem pairs (registry : Registry) : ∀ entries : List (Sketch × Sketch), Quiet related (Sketch.pairs registry entries)
  | [] => pure accruing _
  | (key, content) :: entries => bind accruing (slot registry key) fun _ => bind accruing (slot registry content) fun _ =>
    bind accruing (pairs registry entries) fun _ => pure accruing _

theorem namedSlots (registry : Registry) : ∀ attributes : List (Text × Sketch),
    Quiet related (Sketch.namedSlots registry attributes)
  | [] => pure accruing _
  | (_, sketch) :: attributes => bind accruing (slot registry sketch) fun _ =>
    bind accruing (namedSlots registry attributes) fun _ => pure accruing _

end

/-- Building the value that a sketch describes runs no script. -/
theorem sketched (registry : Registry) (sketch : Sketch) : Quiet related (sketch.build registry) :=
  bind accruing (slot accruing registry sketch) fun _ => pure accruing _

theorem buildNamed (registry : Registry) (sketches : List (Text × Sketch)) :
    Quiet related (Sketch.buildNamed registry sketches) :=
  bind accruing (namedSlots accruing registry sketches) fun _ => pure accruing _

/-! ### Templates -/

theorem build (binding : Binding) : Quiet related (Effect.build binding) :=
  ⟨.build accruing.toAdditive binding, .build binding⟩

theorem bindClass (record : ClassRecord) (options : DisplayOptions) : Quiet related (Effect.bindClass record options) :=
  ⟨.bindClass accruing.toAdditive record options, .bindClass record options⟩

/-! ### What errors say -/

theorem shown (value : Value) : Quiet related (Effect.shown value) := by
  refine bind accruing (world accruing) fun _ => ?_
  split
  · exact pure accruing _
  · rename_i reason _
    cases reason with
    | tooLong | tooDeep => exact raiseText accruing _ _

/-- The text of a value that is no object. -/
theorem textOf (call : Caller) {value : Value} (immediate : value.Immediate) : Quiet related (Effect.textOf call value) := by
  refine bind accruing (world accruing) fun _ => ?_
  cases value with
  | object address => exact absurd immediate id
  | text identity trusted content =>
    cases trusted with
    | true => exact newText accruing content
    | false => exact pure accruing _
  | _ => exact bind accruing (shown accruing _) fun _ => newText accruing _

theorem text_immediate (steps depth : Nat) {value : Value} (immediate : value.Immediate) :
    Quiet related (callWithin steps (depth + 1) (.builtin .text) [value]) :=
  bind accruing (world accruing) fun _ => textOf accruing (callWithin steps depth) immediate

section Errors

variable {call : Caller} (texts : ∀ {value : Value}, value.Immediate → Quiet related (call (.builtin .text) [value]))
  {incident : Incident} (immediate : incident.Immediate)
include texts

theorem plainText {value : Value} (immediate : value.Immediate) : Quiet related (Effect.plainText call value) :=
  bind accruing (texts immediate) fun _ => pure accruing _

theorem systemText {number text : Value} (numbered : number.Immediate) (said : text.Immediate) (files : List Value) :
    Quiet related (Effect.systemText call number text files) := by
  refine bind accruing (plainText accruing texts numbered) fun _ => bind accruing (plainText accruing texts said) fun _ => ?_
  split
  · exact pure accruing _
  · exact bind accruing (shown accruing _) fun _ => pure accruing _
  · exact bind accruing (shown accruing _) fun _ => bind accruing (shown accruing _) fun _ => pure accruing _

theorem malformedText {message : Value} (said : message.Immediate) (file line : Option Value) :
    Quiet related (Effect.malformedText call message file line) := by
  refine bind accruing (plainText accruing texts said) fun _ => ?_
  split <;> exact pure accruing _

include immediate

theorem argumentsText : Quiet related (Effect.argumentsText call incident) := by
  unfold Effect.argumentsText
  split
  · exact pure accruing _
  · exact pure accruing _
  · exact shown accruing _
  · rename_i given _ _
    exact plainText accruing texts (immediate.only given)
  · exact shown accruing _

theorem incidentText : Quiet related (Effect.incidentText call incident) := by
  have field {name : String} {value : Value} (there : incident.attributes.lookup name.toList = some value) :
      value.Immediate := by
    obtain ⟨entry, inside, rfl⟩ := Veil.mem_of_lookup there
    exact immediate.attributes entry inside
  have message : ((incident.attributes.lookup "msg".toList).getD .none).Immediate := by
    cases there : incident.attributes.lookup "msg".toList with
    | none => trivial
    | some value => exact field there
  unfold Effect.incidentText
  extract_lets field? kind
  split
  · split
    · rename_i number text numbered said
      exact systemText accruing texts (field numbered) (field said) _
    · exact argumentsText accruing texts immediate
  · split
    · exact malformedText accruing texts message _ _
    · split
      · rename_i said _
        exact bind accruing (plainText accruing texts (field said)) fun _ => pure accruing _
      · rename_i said _
        exact bind accruing (plainText accruing texts (field said)) fun _ => pure accruing _
      · exact pure accruing _
      · exact pure accruing _
      · exact argumentsText accruing texts immediate

theorem textOfIncident : Quiet related (Effect.textOfIncident call incident) := by
  unfold Effect.textOfIncident
  split
  · exact bind accruing (world accruing) fun _ => newText accruing _
  · exact bind accruing (incidentText accruing texts immediate) fun _ => newText accruing _
  · exact bind accruing (incidentText accruing texts immediate) fun _ => newText accruing _
  · rename_i given _ _
    split
    · exact texts (immediate.only given)
    · exact bind accruing (incidentText accruing texts immediate) fun _ => newText accruing _
  · exact bind accruing (incidentText accruing texts immediate) fun _ => newText accruing _

end Errors

/-- What explaining an error that holds no objects comes down to. -/
theorem failureOf {world : World} {error : Nat} {incident : Incident}
    (there : world.objects[error]? = some (.error incident)) (immediate : incident.Immediate) :
    ∃ saying : Effect Answer, Quiet related saying ∧ Session.failureOf error world = saying world := by
  have said : Quiet related (Effect.textOfIncident (callWithin loopBound 999) incident) :=
    textOfIncident accruing (fun immediate => text_immediate accruing loopBound 998 immediate) immediate
  have text : callValue (.builtin .text) [.object error] world =
      Effect.textOfIncident (callWithin loopBound 999) incident world := by
    show Effect.textOf (callWithin loopBound 999) (.object error) world = _
    rw [Effect.textOf, world_bind]
    dsimp only
    rw [there]
  refine ⟨_, bind accruing said fun text => bind accruing (Quiet.world accruing) fun world => ?_, bind_congr text _⟩
  split <;> exact pure accruing _

/-- An action that is quiet only adds to the world, also when it fails and the error is explained. -/
theorem conclude {session : Session} {action : Effect (Answer × Registry)} (quiet : Quiet related action) :
    related session.world (session.conclude (action session.world)).2.world := by
  have leads := quiet.leads session.world
  cases ended : action session.world with
  | done pair world =>
    rw [ended] at leads
    exact leads
  | exhausted => exact accruing.refl _
  | failed error world =>
    rw [ended] at leads
    obtain ⟨incident, there, immediate⟩ := quiet.fails _ _ _ ended
    obtain ⟨saying, quiet', explained⟩ := failureOf accruing there immediate
    have more := quiet'.leads world
    dsimp only at leads
    unfold Session.conclude
    dsimp only
    rw [explained]
    cases said : saying world with
    | done answer after =>
      rw [said] at more
      exact accruing.trans leads more
    | failed error after =>
      rw [said] at more
      exact accruing.trans leads more
    | exhausted => exact leads

end Quiet

/-! ## Requests that run no script -/

/-- Changes of what loaders read. -/
inductive Session.Edit : Query → Prop where
  | writeFile (path : Text) (contents : List UInt8) : Edit (.writeFile path contents)
  | removeFile (path : Text) : Edit (.removeFile path)
  | putSource (loader name : Text) (source : Option Text) : Edit (.putSource loader name source)

/-- Requests that have to do with loaders, policies and environments, and questions about them and about classes. -/
inductive Session.Chore : Request → Prop where
  | loader (id : Text) (sketch : LoaderSketch) : Chore (.define id (.loader sketch))
  | policy (id : Text) (extra : List (Text × Text)) : Chore (.define id (.policy extra))
  | environment (id : Text) (loader : Option LoaderSketch) (policy : Option Text) (marker : Text) :
    Chore (.define id (.environment loader policy marker))
  | edit {query : Query} (edit : Edit query) : Chore (.ask query)
  | load (loader name : Text) : Chore (.ask (.load loader name))
  | listTemplates (loader : Text) : Chore (.ask (.listTemplates loader))
  | listPaths (loader : Text) : Chore (.ask (.listPaths loader))
  | register (policy contentType decision : Text) : Chore (.ask (.register policy contentType decision))
  | decide (policy contentType : Text) : Chore (.ask (.decide policy contentType))
  | covers (policy : Text) (contentType : Option Text) : Chore (.ask (.covers policy contentType))
  | readSource (environment name : Text) : Chore (.ask (.readSource environment name))
  | inspect (className : Text) : Chore (.ask (.inspect className))

namespace Quiet

variable {related : World → World → Prop} (accruing : Accruing related)
  (library : ∀ world library, related world { world with library := library })
include accruing

theorem ofLoading {α : Type} (loaded : Except LoadError α) : Quiet related (Effect.ofLoading loaded) :=
  ⟨.ofLoading accruing.toAdditive loaded, .ofLoading loaded⟩

theorem sourceOf (environment : Environment) (name : Text) : Quiet related (Effect.sourceOf environment name) :=
  bind accruing (world accruing) fun _ => ofLoading accruing _

theorem standardEnvironment (loader : Option Loader) : Quiet related (Effect.standardEnvironment loader) :=
  bind accruing (world accruing) fun _ =>
    bind accruing ⟨fun world => accruing.standard world, .change _⟩ fun _ => pure accruing _

theorem infoOf (number : Nat) : Quiet related (Session.infoOf number) :=
  bind accruing (bind accruing (world accruing) fun _ => pure accruing _) fun _ =>
    bind accruing (world accruing) fun _ => pure accruing _

theorem policyAt (number : Nat) : Quiet related (Session.policyAt number) :=
  bind accruing (world accruing) fun _ => pure accruing _

theorem decisionOf (name : Text) : Quiet related (Session.decisionOf name) := by
  unfold Session.decisionOf
  split
  · exact pure accruing _
  · exact raiseText accruing _ _

theorem decisionsOf : ∀ extra : List (Text × Text), Quiet related (Session.decisionsOf extra)
  | [] => pure accruing _
  | (_, name) :: extra => bind accruing (decisionOf accruing name) fun _ =>
    bind accruing (decisionsOf extra) fun _ => pure accruing _

/-- A request that is done quietly is answered quietly. -/
theorem asked {registry : Registry} {query : Query} (quiet : Quiet related (Session.fulfil registry query)) :
    Quiet related (Session.answer registry (.ask query)) :=
  bind accruing quiet fun _ => pure accruing _

include library

omit accruing in
theorem changeLibrary (f : World → Library) :
    Quiet related (Effect.change fun world => { world with library := f world }) :=
  ⟨fun world => library world _, .change _⟩

theorem newShelf (shelf : Shelf) : Quiet related (LoaderSketch.newShelf shelf) :=
  bind accruing (world accruing) fun _ =>
    bind accruing (changeLibrary library _) fun _ => pure accruing _

set_option linter.unusedSectionVars false in
mutual

theorem loader (registry : Registry) : ∀ sketch : LoaderSketch, Quiet related (sketch.build registry)
  | .known id => found accruing id _
  | .directories _ _ => pure accruing _
  | .mapping shelf => bind accruing (newShelf accruing library shelf) fun _ => pure accruing _
  | .silent shelf => bind accruing (newShelf accruing library shelf) fun _ => pure accruing _
  | .choice sketches => bind accruing (loaders registry sketches) fun _ => pure accruing _

theorem loaders (registry : Registry) : ∀ sketches : List LoaderSketch,
    Quiet related (LoaderSketch.buildAll registry sketches)
  | [] => pure accruing _
  | sketch :: sketches => bind accruing (loader registry sketch) fun _ =>
    bind accruing (loaders registry sketches) fun _ => pure accruing _

end

theorem loaderIfAny (registry : Registry) : ∀ sketch : Option LoaderSketch,
    Quiet related (Session.loaderIfAny registry sketch)
  | none => pure accruing _
  | some sketch => bind accruing (loader accruing library registry sketch) fun _ => pure accruing _

/-- Changing what loaders read runs no script. -/
theorem edited (registry : Registry) {query : Query} (edit : Session.Edit query) :
    Quiet related (Session.fulfil registry query) := by
  cases edit with
  | writeFile | removeFile => exact bind accruing (changeLibrary library _) fun _ => pure accruing _
  | putSource loader name source =>
    refine bind accruing (found accruing loader _) fun loader => ?_
    split
    · exact bind accruing (changeLibrary library _) fun _ => pure accruing _
    · exact raiseText accruing _ _

theorem environmentOf (registry : Registry) (sketch : Option LoaderSketch) (policy : Option Text) (marker : Text) :
    Quiet related (Session.environmentOf registry sketch policy marker) := by
  have finishing (loader : Option Loader) (policy : Nat) : Quiet related
      (if Environment.acceptsMarker marker then Pure.pure ⟨loader, policy, marker⟩
        else Effect.raiseText .value (Environment.markerMessage marker) : Effect Environment) := by
    split
    · exact pure accruing _
    · exact raiseText accruing _ _
  refine bind accruing (loaderIfAny accruing library registry sketch) fun loader =>
    bind accruing (standardEnvironment accruing loader) fun environment => ?_
  cases policy with
  | none => exact bind accruing (pure accruing _) fun policy => finishing loader policy
  | some id => exact bind accruing (found accruing id _) fun policy => finishing loader policy

/-- A chore runs no script. -/
theorem chore (policies : ∀ world policies, related world { world with policies := policies }) (registry : Registry)
    {request : Request} (chore : Session.Chore request) : Quiet related (Session.answer registry request) := by
  have changePolicies (f : World → Array EscapePolicy) :
      Quiet related (Effect.change fun world => { world with policies := f world }) :=
    ⟨fun world => policies world _, .change _⟩
  cases chore with
  | loader id sketch => exact bind accruing (loader accruing library registry sketch) fun _ => pure accruing _
  | policy id extra =>
    exact bind accruing (decisionsOf accruing extra) fun _ => bind accruing (world accruing) fun _ =>
      bind accruing (changePolicies _) fun _ => pure accruing _
  | environment id loader policy marker =>
    exact bind accruing (environmentOf accruing library registry loader policy marker) fun _ => pure accruing _
  | edit edit => exact asked accruing (edited accruing library registry edit)
  | load loader name =>
    exact asked accruing (bind accruing (found accruing loader _) fun _ => bind accruing (world accruing) fun _ =>
      bind accruing (ofLoading accruing _) fun _ => pure accruing _)
  | listTemplates loader =>
    refine asked accruing (bind accruing (found accruing loader _) fun _ => ?_)
    split
    · exact raiseText accruing _ _
    · exact bind accruing (world accruing) fun _ => bind accruing (ofLoading accruing _) fun _ => pure accruing _
  | listPaths loader =>
    refine asked accruing (bind accruing (found accruing loader _) fun _ => ?_)
    split
    · exact bind accruing (world accruing) fun _ => pure accruing _
    · exact raiseText accruing _ _
  | register policy contentType decision =>
    exact asked accruing (bind accruing (found accruing policy _) fun _ => bind accruing (decisionOf accruing _) fun _ =>
      bind accruing (changePolicies _) fun _ => bind accruing (policyAt accruing _) fun _ => pure accruing _)
  | decide policy contentType | covers policy contentType =>
    exact asked accruing (bind accruing (found accruing policy _) fun _ => bind accruing (policyAt accruing _) fun _ =>
      pure accruing _)
  | readSource environment name =>
    exact asked accruing (bind accruing (found accruing environment _) fun _ =>
      bind accruing (sourceOf accruing _ _) fun _ => pure accruing _)
  | inspect className =>
    exact asked accruing (bind accruing (found accruing className _) fun _ => bind accruing (infoOf accruing _) fun _ =>
      pure accruing _)

end Quiet
end Stencil
