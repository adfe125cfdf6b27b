import Stencil.Proofs.CheckedCalls
import Stencil.Proofs.LoweredRuns
import Stencil.Proofs.TreeRendering

/-!
# Calls of routines that differ in how they convert values

A routine whose conversions are checked and one that escapes values, or does not, are called with the same context in
worlds that are alike.  Both bind their own names and begin to gather their output; from there on they run recodings of
one script, and what they join at the end says the same.
-/

namespace Stencil

open Effect Script Routine Manners

/-! ## Routines -/

/-- Whether two bodies of routines differ in how they convert values only: one of them escapes, the other one decides as
given. -/
inductive Routine.RecodedBody (reticence : Reticence) (escape : Bool) : List Stmt → List Stmt → Prop where
  | written {statements statements' : List Stmt} (line : Nat)
    (inside : RecodedBlock reticence (some escape) statements statements') :
    RecodedBody reticence escape (preparing ++ (statements ++ [returning line]))
      (preparing ++ (statements' ++ [returning line]))
  | unsupported : RecodedBody reticence escape unsupported unsupported

/-- The scope that holds the converters of a routine, the first of which is a given value. -/
def Routine.homeOf (converter : Value) (function : Nat) : Scope :=
  ⟨[escapeParameter, textParameter, renderName],
    [(escapeParameter, converter), (textParameter, .builtin .text), (renderName, .object function)], none⟩

theorem Routine.converters_homeOf (converter : Value) (function : Nat) :
    Converters converter (homeOf converter function) where
  belong := (by decide : ∀ name ∈ [escapeParameter, textParameter],
    [escapeParameter, textParameter, renderName].contains name)
  escape := rfl
  text := rfl

/-- Whether a world has a template whose routine is a function made in a scope with a given converter. -/
structure Routine.Hosted (converter : Value) (template : Template) (number globals home : Nat) (world : World) : Prop where
  listed : world.templates[number]? = some template
  function : ∃ attributes, world.objects[template.function]? = some (.function
    ⟨routineName, ["self"], template.routine.body, home, template.routine.file, globals⟩ attributes)
  home : world.scopes[home]? = some (homeOf converter template.function)

/-- What a routine gives back, when its statements have ended in a certain way. -/
def Effect.givenBack : Flow → Effect Value
  | .finish value => pure value
  | _ => pure .none

/-- Whether calls join the texts of lists. -/
def Caller.Joins (call : Caller) : Prop :=
  ∃ inner, ∀ identity list, call (.method identity (.text 0 false []) "join") [.object list] =
    callOnText inner [] "join" [.object list]

theorem Routine.runBlock_finish {call : Caller} {rounds : Nat} {here : Activation} {statement : Stmt} {value : Value}
    {world after : World} (ran : run call rounds here statement world = .done (.finish value) after) :
    runBlock call rounds here [statement] world = .done (.finish value) after := by
  rw [runBlock, bind_done ran]
  rfl

/-! ## Beginning to gather -/

/-- A bond that also says that the scopes of two calls belong together in which output begins to be gathered. -/
def Bond.withGathering (bond : Bond) (place : Gathering) (home home' : Nat)
    (still : bond.still home ∧ bond.still' home')
    (fresh : ∀ {within : Bool} {a a' : Nat}, bond.frames within a a' → a ≠ place.scope ∧ a' ≠ place.scope')
    (free : ¬ bond.still place.scope ∧ ¬ bond.still' place.scope')
    (unkept : ¬ bond.kept place.list ∧ ¬ bond.kept' place.list')
    (apart : ∀ {a a' : Nat}, bond.objects a a' → a ≠ place.list ∧ a' ≠ place.list') : Bond :=
  { bond with
    frames := fun within a a' => bond.frames within a a' ∨ within = true ∧ a = place.scope ∧ a' = place.scope'
    bases := fun within a a' => bond.bases within a a' ∨ within = true ∧ a = home ∧ a' = home'
    gathering := some place
    frames_unique := by
      rintro a b a' b' ⟨_, old | ⟨-, rfl, rfl⟩⟩ ⟨_, old' | ⟨-, rfl, rfl⟩⟩
      · exact bond.frames_unique ⟨_, old⟩ ⟨_, old'⟩
      · exact iff_of_false (fresh old).1 (fresh old).2
      · exact iff_of_false (Ne.symm (fresh old').1) (Ne.symm (fresh old').2)
      · exact iff_of_true rfl rfl
    frames_apart := by
      rintro a b a' b' (old | ⟨-, rfl, rfl⟩) (old' | ⟨other, rfl, rfl⟩)
      · exact bond.frames_apart old old'
      · cases other
      · exact (fresh old').1.symm
      · cases other
    frames_gathered := fun _ => rfl
    frames_free := by
      rintro within a a' (old | ⟨-, rfl, rfl⟩)
      · exact bond.frames_free old
      · exact free
    bases_still := by
      rintro within a a' (old | ⟨-, rfl, rfl⟩)
      · exact bond.bases_still old
      · exact still
    gathering_frame := by
      rintro _ ⟨⟩
      exact .inr ⟨rfl, rfl, rfl⟩
    gathering_free := by
      rintro _ ⟨⟩
      exact unkept
    gathering_apart := by
      rintro _ _ _ ⟨⟩ pair
      exact apart pair }

/-- The world behind the first statements of a call. -/
theorem Routine.prepared_begun (converter : Value) (template : Template) (globals : Nat) (names : List Text) (outer : Nat)
    (context : Value) (world : World) :
    prepared converter (callOf template globals world) (begun names outer context world) =
      { world with
        objects := world.objects.push (.list #[])
        identities := world.identities + 1
        scopes := world.scopes.push ⟨names,
          ("self".toList, context) :: ownValues converter world.objects.size (world.identities + 1), some outer⟩ } := by
  rw [prepared, begun, callOf]
  dsimp only
  rw [modify_push_self]
  rfl

namespace Manners

variable {manners : Manners} {bond : Bond} {world world' : World}

/-- The terms on which everything in two worlds is said to be alike. -/
def strictly (manners : Manners) : Terms := { manners with guarded := False, converter := checker }

/-- The terms on which nothing is said once the calls of the one world give up. -/
def guardedly (manners : Manners) : Terms := { manners with guarded := True, converter := checker }

/-- When no output is gathered, it does not matter on which terms two worlds are compared. -/
theorem guarded_of_strict (matched : manners.strictly.Matched bond world world') :
    manners.guardedly.Matched bond world world' :=
  { matched with gathers := fun known => (matched.gathers known).guarded.elim }

theorem gathering_of_strict (matched : manners.strictly.Matched bond world world') : bond.gathering = none := by
  cases known : bond.gathering with
  | none => rfl
  | some place => exact (matched.gathers known).guarded.elim

/-- The scopes that hold converters are alike for what is in the routines, which mentions none of their names. -/
theorem sameScope_home (number number' : Nat) (converter converter' : Value) (function function' : Nat) :
    manners.SameScope true bond number number' (homeOf converter function) (homeOf converter' function') where
  names := rfl
  values := .cons ⟨rfl, .inl (by decide : escapeParameter ∈ reserved)⟩
    (.cons ⟨rfl, .inl (by decide : textParameter ∈ reserved)⟩
      (.cons ⟨rfl, .inl (by decide : renderName ∈ reserved)⟩ .nil))
  outer := .none

theorem held_ownValues (converter converter' : Value) (list list' identity identity' : Nat) :
    Alike (manners.Held true bond) (ownValues converter list identity) (ownValues converter' list' identity') :=
  .cons ⟨rfl, .inl (by decide : escapeName ∈ reserved)⟩
    (.cons ⟨rfl, .inl (by decide : textName ∈ reserved)⟩
      (.cons ⟨rfl, .inl (by decide : bufferName ∈ reserved)⟩
        (.cons ⟨rfl, .inl (by decide : appendName ∈ reserved)⟩ .nil)))

/-- What the names of a routine's own stand for behind its first statements. -/
theorem equips_own (converter : Value) (place : Gathering) (context context' : Value) (identity identity' : Nat) : ∀ name ∈ equipment,
    ∃ value value', (("self".toList, context) :: ownValues converter place.list identity).lookup name = some value ∧
      (("self".toList, context') :: ownValues (.builtin .escape) place.list' identity').lookup name = some value' ∧
        Equips converter place name value value' := by
  intro name own
  simp only [equipment, List.mem_cons, List.not_mem_nil, or_false] at own
  rcases own with rfl | rfl | rfl | rfl
  · exact ⟨_, _, rfl, rfl, .escape⟩
  · exact ⟨_, _, rfl, rfl, .text⟩
  · exact ⟨_, _, rfl, rfl, .list⟩
  · exact ⟨_, _, rfl, rfl, .append identity identity'⟩

/-- Behind the first statements of two routines the worlds are alike, and output is gathered. -/
theorem prepared_matched (matched : manners.strictly.Matched bond world world') (place : Gathering) {home home' function function' : Nat}
    (scope : place.scope = world.scopes.size ∧ place.scope' = world'.scopes.size)
    (list : place.list = world.objects.size ∧ place.list' = world'.objects.size)
    (there : world.scopes[home]? = some (homeOf checker function))
    (there' : world'.scopes[home']? = some (homeOf (.builtin .escape) function'))
    (still : bond.still home ∧ bond.still' home') {names : List Text} (own : ∀ name ∈ equipment, names.contains name)
    {context context' : Value} (same : manners.Same bond context context') (template template' : Template) (globals : Nat) :
    ∃ later, manners.guardedly.Moves bond later world world'
        (prepared checker (callOf template globals world) (begun names home context world))
        (prepared (.builtin .escape) (callOf template' globals world') (begun names home' context' world')) ∧
      later.frames true place.scope place.scope' ∧ later.gathering = some place := by
  obtain ⟨here, here'⟩ := scope
  obtain ⟨list, list'⟩ := list
  have strict := gathering_of_strict matched
  let bond' := bond.withGathering place home home' still
    (fun pair => here ▸ here' ▸ ⟨(matched.insideScopes (.inl pair)).1.ne, (matched.insideScopes (.inl pair)).2.ne⟩)
    (here ▸ here' ▸ ⟨fun still => lt_irrefl _ (matched.still still), fun still => lt_irrefl _ (matched.still' still)⟩)
    (list ▸ list' ▸ ⟨fun kept => lt_irrefl _ (matched.kept kept), fun kept => lt_irrefl _ (matched.kept' kept)⟩)
    fun pair => list ▸ list' ▸ ⟨(matched.inside pair).1.ne, (matched.inside pair).2.ne⟩
  have grown : bond ≤ bond' :=
    ⟨id, id, id, id, .inl, .inl, id, id, id, id, id, fun known => absurd (strict.symm.trans known).symm (Option.some_ne_none _)⟩
  have before := (Array.getElem?_eq_some_iff.mp there).1
  have before' := (Array.getElem?_eq_some_iff.mp there').1
  refine ⟨bond', ?_, .inr ⟨rfl, rfl, rfl⟩, rfl⟩
  rw [prepared_begun, prepared_begun, ← list, ← list']
  let opened : Scope := ⟨names, ("self".toList, context) :: ownValues checker place.list (world.identities + 1), some home⟩
  let opened' : Scope := ⟨names, ("self".toList, context') :: ownValues (.builtin .escape) place.list' (world'.identities + 1), some home'⟩
  let after : World := { world with
    objects := world.objects.push (.list #[]), identities := world.identities + 1, scopes := world.scopes.push opened }
  let after' : World := { world' with
    objects := world'.objects.push (.list #[]), identities := world'.identities + 1, scopes := world'.scopes.push opened' }
  have first : world.Grows after :=
    ⟨fun found => World.Grows.getElem?_push_of found _, fun found => World.Grows.getElem?_push_of found _, id, rfl⟩
  have second : world'.Grows after' :=
    ⟨fun found => World.Grows.getElem?_push_of found _, fun found => World.Grows.getElem?_push_of found _, id, rfl⟩
  have entered : after.scopes[place.scope]? = some opened := here ▸ Array.getElem?_push_size
  have entered' : after'.scopes[place.scope']? = some opened' := here' ▸ Array.getElem?_push_size
  refine (guarded_of_strict matched).moves grown (first.stays matched.kept matched.still)
    (second.stays matched.kept' matched.still') matched.handled
    (fun pair => ⟨(matched.identities pair).1.trans (Nat.le_succ _), (matched.identities pair).2.trans (Nat.le_succ _)⟩)
    (fun kept => first.object_lt (matched.kept kept)) (fun kept => second.object_lt (matched.kept' kept))
    (fun still => first.scope_lt (matched.still still)) (fun still => second.scope_lt (matched.still' still))
    (fun pair => ?_) ?_ .inl id ?_
  · obtain ⟨object, object', found, found', alike⟩ := matched.objects pair
    exact ⟨object, object', first.objects found, second.objects found', alike.mono grown⟩
  · have old {inside : Bool} {number number' : Nat} (pair : bond.scopes inside number number') :
        ∃ scope scope', after.scopes[number]? = some scope ∧ after'.scopes[number']? = some scope' ∧
          manners.SameScope inside bond' number number' scope scope' := by
      obtain ⟨scope, scope', found, found', alike⟩ := matched.scopes pair
      exact ⟨scope, scope', first.scopes found, second.scopes found', alike.mono grown⟩
    rintro inside number number' ((pair | ⟨rfl, rfl, rfl⟩) | pair | ⟨rfl, rfl, rfl⟩)
    · exact old (.inl pair)
    · exact ⟨opened, opened', entered, entered', rfl, .cons ⟨rfl, .inr (same.mono grown)⟩ (held_ownValues ..),
        .some ⟨.inr (.inr ⟨rfl, rfl, rfl⟩), here ▸ before, here' ▸ before'⟩⟩
    · exact old (.inr pair)
    · exact ⟨_, _, first.scopes there, second.scopes there', sameScope_home ..⟩
  · rintro _ ⟨⟩
    refine ⟨trivial, ⟨#[], #[], list ▸ Array.getElem?_push_size, list' ▸ Array.getElem?_push_size, .nil⟩,
      ⟨opened, opened', entered, entered', fun name inside => ⟨own name inside, own name inside, ?_⟩⟩, ?_⟩
    · exact equips_own checker place context context' _ _ name inside
    · rintro number number' (pair | ⟨-, rfl, rfl⟩)
      · exact nomatch strict ▸ bond.frames_gathered pair
      · exact .inl ⟨rfl, rfl⟩

/-! ## Joining what was gathered -/

/-- Whether two values are texts without trust that say the same, or the same values. -/
def Shows (manners : Manners) (bond : Bond) (value value' : Value) : Prop :=
  (∃ identity identity' content, value = .text identity false content ∧ value' = .text identity' false content) ∨
    manners.Same bond value value'

/-- Texts that say the same one by one make the same text together. -/
theorem outputOf?_same {items items' : List Value} (each : List.Forall₂ SaysSame items items') :
    ∃ text, outputOf? items = some text ∧ outputOf? items' = some text := by
  induction each with
  | nil => exact ⟨[], rfl, rfl⟩
  | cons alike _ ih =>
      obtain ⟨_, _, _, _, content, rfl, rfl⟩ := alike
      obtain ⟨text, found, found'⟩ := ih
      exact ⟨content ++ text, by rw [outputOf?, found]; rfl, by rw [outputOf?, found']; rfl⟩

variable {call call' : Caller} {here here' : Activation} {place : Gathering}

/-- What is gathered in two routines is joined alike. -/
theorem ends_returning (matched : manners.guardedly.Matched bond world world') (known : bond.gathering = some place)
    (own : here.scope = place.scope ∧ here'.scope = place.scope') (joins : call.Joins) (joins' : call'.Joins)
    (rounds line : Nat) :
    manners.guardedly.Ends bond manners.Shows world world' ((runBlock call rounds here [returning line] >>= givenBack) world)
      ((runBlock call' rounds here' [returning line] >>= givenBack) world') := by
  obtain ⟨-, ⟨items, items', there, there', each⟩, ⟨scope, scope', inner, inner', equipped⟩, -⟩ := matched.gathers known
  obtain ⟨belongs, belongs', _, _, buffer, buffer', equips⟩ := equipped bufferName (by decide)
  obtain ⟨rfl, rfl⟩ := equips.buffer
  obtain ⟨text, output, output'⟩ := outputOf?_same each
  obtain ⟨under, joined⟩ := joins
  obtain ⟨under', joined'⟩ := joins'
  obtain ⟨identity, count, ran, more⟩ := run_returning_of output there
    (run_joining (own.1 ▸ inner) belongs buffer (joined _ _) rounds line)
  obtain ⟨identity', count', ran', more'⟩ := run_returning_of output' there'
    (run_joining (own.2 ▸ inner') belongs' buffer' (joined' _ _) rounds line)
  rw [bind_done (runBlock_finish ran), bind_done (runBlock_finish ran')]
  exact .done (matched.grows (.identities world count) (.identities world' count') more more')
    (.inl ⟨identity, identity', text, rfl, rfl⟩)

/-- Running recodings of one script and joining what they gathered gives texts that say the same. -/
theorem twin_written {escape : Bool} {statements statements' : List Stmt} (known : bond.gathering = some place)
    (inside : RecodedBlock (manners.reticence true) (some escape) statements statements') (decided : place.escape = escape)
    (own : here.scope = place.scope ∧ here'.scope = place.scope') (same : Terms.SameActivation true bond here here')
    (calls : manners.guardedly.TwinCalls bond call call') (outputs : manners.guardedly.TwinOutputs bond call call')
    (joins : call.Joins) (joins' : call'.Joins) (rounds line : Nat) :
    manners.guardedly.Twin bond manners.Shows (runBlock call rounds here (statements ++ [returning line]) >>= givenBack)
      (runBlock call' rounds here' (statements' ++ [returning line]) >>= givenBack) := by
  intro later grown world world' matched
  have known := grown.gathering known
  have converts : Converts later true (some escape) := by
    rintro _ ⟨⟩
    exact ⟨rfl, place, known, decided⟩
  rw [bind_congr (runBlock_append statements _ world), bind_congr (runBlock_append statements' _ world'), bind_bind,
    bind_bind]
  refine Terms.Ends.bind (Terms.twin_runBlock rounds inside converts (calls.mono grown) (fun _ => outputs.mono grown)
    (same.mono grown) later le_rfl world world' matched) fun last more between between' matched flow flow' ends => ?_
  cases ends with
  | proceed => exact ends_returning matched (more.gathering known) own joins joins' rounds line
  | finish same => exact .done matched.rest (.inr same)
  | leave | again => exact .done matched.rest (.inr .none)

/-! ## Calls -/

/-- The names in the scope of a call, when what is in its routine mentions none that the routine keeps to itself. -/
theorem namesOfCall_written {escape : Bool} {statements statements' : List Stmt} (line : Nat)
    (inside : RecodedBlock (manners.reticence true) (some escape) statements statements') :
    let names := namesOfCall (preparing ++ (statements ++ [returning line]))
    namesOfCall (preparing ++ (statements' ++ [returning line])) = names ∧
      (∀ name ∈ [escapeParameter, textParameter], names.contains name = false) ∧
        ∀ name ∈ equipment, names.contains name := by
  obtain ⟨same, spares⟩ := inside.bound
  dsimp only
  rw [namesOfCall_body, namesOfCall_body, same]
  refine ⟨rfl, fun name parameter => ?_, fun name own => ?_⟩
  · have free : name ∈ reserved ∧ name ∉ ["self".toList, escapeName, textName, bufferName, appendName] := by
      revert name
      decide
    rw [List.contains_eq_mem, decide_eq_false_iff_not, List.mem_append]
    exact not_or_intro free.2 fun bound => spares name bound free.1
  · rw [List.contains_iff_mem]
    exact List.mem_append_left _ (List.mem_cons_of_mem _ own)

variable {template template' : Template} {number number' globals home home' steps depth depth' : Nat} {escape : Bool}
  {context context' : Value}

/-- What is left of a call behind its first statements. -/
theorem call_written {converter : Value} (hosted : Hosted converter template number globals home world)
    {statements : List Stmt} {line : Nat} (body : template.routine.body = preparing ++ (statements ++ [returning line]))
    (foreign : ∀ name ∈ [escapeParameter, textParameter], (namesOfCall template.routine.body).contains name = false)
    (own : ∀ name ∈ equipment, (namesOfCall template.routine.body).contains name) :
    callStep call steps (.object template.function) [context] world =
      (runBlock call steps (callOf template globals world) (statements ++ [returning line]) >>= givenBack)
        (prepared converter (callOf template globals world)
          (begun (namesOfCall template.routine.body) home context world)) := by
  obtain ⟨attributes, function⟩ := hosted.function
  have entered := entered_begun template globals foreign hosted.home (converters_homeOf converter template.function) context
  have fresh : ∀ entry ∈ [("self".toList, context)], isOwnName entry.1 = false :=
    List.forall_mem_singleton.mpr (by decide : isOwnName "self".toList = false)
  refine (callStep_function function call steps context).trans ?_
  rw [← bind_congr (run_preparing steps entered own fresh _), ← body]
  rfl

/-- The scopes of the call of a routine whose script cannot be run have no names but their own. -/
theorem valueOf_beyond {converter : Value} (hosted : Hosted converter template number globals home world) {name : Text}
    (other : name ∉ ["self".toList, escapeParameter, textParameter, renderName]) :
    (begun ["self".toList] home context world).valueOf (callOf template globals world) name =
      world.globalValue globals name := by
  rw [List.mem_cons, not_or] at other
  have own : (["self".toList] : List Text).contains name = false := by simpa using other.1
  have outer : (homeOf converter template.function).names.contains name = false := by simpa [homeOf] using other.2
  have around : (begun ["self".toList] home context world).scopes[home]? = some (homeOf converter template.function) :=
    (World.Grows.begun world _ _ _).scopes hosted.home
  have owner (steps : Nat) : (begun ["self".toList] home context world).ownerOf? name steps home = none := by
    cases steps with
    | zero => rfl
    | succ steps =>
        rw [World.ownerOf?, around]
        dsimp only
        rw [if_neg (Bool.eq_false_iff.mp outer)]
        rfl
  have here : (begun ["self".toList] home context world).scopes[(callOf template globals world).scope]? =
      some ⟨["self".toList], [("self".toList, context)], some home⟩ := Array.getElem?_push_size
  rw [World.valueOf, here, Option.filter_some, if_neg (Bool.eq_false_iff.mp own)]
  dsimp only [Option.bind_some]
  rw [owner]
  rfl

/-- Routines whose scripts cannot be run fail alike, where what they fail with is found alike. -/
theorem ends_unsupported (matched : manners.guardedly.Matched bond world world') (file : here'.file = here.file)
    (found : Terms.Settled Eq (manners.Same bond) (world.valueOf here "NotImplementedError")
      (world'.valueOf here' "NotImplementedError")) (calls : manners.guardedly.TwinCalls bond call call') :
    manners.guardedly.Ends bond manners.Shows world world' ((runBlock call steps here unsupported >>= givenBack) world)
      ((runBlock call' steps here' unsupported >>= givenBack) world') := by
  have named : manners.guardedly.Ends bond manners.Same world world'
      (evaluate call here (.name 1 "NotImplementedError") world)
      (evaluate call' here' (.name 1 "NotImplementedError") world') := by
    rw [evaluate, evaluate, if_neg (by decide)]
    exact (Terms.ends_nameIn matched found).located file 1
  have failed : manners.guardedly.Ends bond (fun _ _ _ => False) world world'
      (run call steps here (.fail 1 (some (.name 1 "NotImplementedError"))) world)
      (run call' steps here' (.fail 1 (some (.name 1 "NotImplementedError"))) world') := by
    rw [run, run]
    refine named.bind fun later grown between between' matched value value' same => ?_
    exact Terms.twin_located file 1 (Terms.twin_raiseValue (calls.mono grown) same) later le_rfl between between' matched
  rw [unsupported, bind_congr (runBlock_cons _ _ _), bind_congr (runBlock_cons _ _ _), bind_bind, bind_bind]
  exact failed.bind fun _ _ _ _ _ _ _ none => none.elim

/-- Checked calls do what calls do as always, as far as they go. -/
theorem twin_guarded (manners : Manners) (bond : Bond) (steps : Nat) (deeper : depth ≤ depth') :
    manners.guardedly.TwinCalls bond (checkedWithin steps depth) (callWithin steps depth') ∧
      manners.guardedly.TwinRoutines bond (checkedWithin steps depth) (callWithin steps depth') ∧
        manners.guardedly.TwinOutputs bond (checkedWithin steps depth) (callWithin steps depth') :=
  Terms.twin_checkedWithin trivial rfl deeper

/-- Calls of routines that differ in how they convert values only end alike. -/
theorem ends_call (matched : manners.strictly.Matched bond world world')
    (hosted : Hosted checker template number globals home world)
    (hosted' : Hosted (.builtin .escape) template' number' globals home' world')
    (still : bond.still home ∧ bond.still' home') (traces : template'.routine.Traces template.routine)
    (body : RecodedBody (manners.reticence true) escape template.routine.body template'.routine.body)
    (same : manners.Same bond context context') (deeper : depth ≤ depth') :
    manners.guardedly.Ends bond manners.Shows world world'
      (checkedWithin steps (depth + 2) (.object template.function) [context] world)
      (callWithin steps (depth' + 2) (.object template'.function) [context'] world') := by
  have checked (later : Bond) := manners.twin_guarded later steps (Nat.succ_le_succ deeper)
  show manners.guardedly.Ends bond manners.Shows world world'
    (callStep (checkedWithin steps (depth + 1)) steps (.object template.function) [context] world)
    (callStep (callWithin steps (depth' + 1)) steps (.object template'.function) [context'] world')
  generalize first : template.routine.body = left, second : template'.routine.body = right at body
  cases body with
  | unsupported =>
      obtain ⟨attributes, function⟩ := hosted.function
      obtain ⟨attributes', function'⟩ := hosted'.function
      rw [callStep_function function, callStep_function function', first, second]
      have moves := (guarded_of_strict matched).grows (.begun world ["self".toList] home context)
        (.begun world' ["self".toList] home' context') le_rfl le_rfl
      refine Terms.Ends.behind moves (ends_unsupported moves.matched traces.file ?_ (checked bond).1)
      have other : ("NotImplementedError".toList : Text) ∉ ["self".toList, escapeParameter, textParameter, renderName] := by
        decide
      have alike := Terms.globalValue_same (guarded_of_strict matched) globals "NotImplementedError".toList
      rw [← valueOf_beyond hosted other, ← valueOf_beyond hosted' other] at alike
      exact alike
  | written line inside =>
      obtain ⟨names, foreign, own⟩ := namesOfCall_written line inside
      rw [← first] at foreign own
      have names' : namesOfCall template'.routine.body = namesOfCall template.routine.body := by rw [first, second, names]
      rw [call_written hosted first foreign own,
        call_written hosted' second (names' ▸ foreign) (names' ▸ own), names']
      let place : Gathering := ⟨escape, world.scopes.size, world'.scopes.size, world.objects.size, world'.objects.size⟩
      obtain ⟨later, moves, frame, known⟩ := prepared_matched matched place ⟨rfl, rfl⟩ ⟨rfl, rfl⟩ hosted.home
        hosted'.home still own same template template' globals
      refine Terms.Ends.behind moves ?_
      obtain ⟨calls, -, outputs⟩ := checked later
      have running : Terms.SameActivation true later (callOf template globals world) (callOf template' globals world') :=
        ⟨rfl, traces.file, rfl, frame⟩
      exact twin_written known inside rfl ⟨rfl, rfl⟩ running calls outputs
        ⟨checkedWithin steps depth, fun _ _ => rfl⟩ ⟨callWithin steps depth', fun _ _ => rfl⟩ steps line later le_rfl _ _
        moves.matched

/-- Rendering templates whose routines differ in how they convert values only ends alike. -/
theorem ends_render (matched : manners.strictly.Matched bond world world')
    (hosted : Hosted checker template number globals home world)
    (hosted' : Hosted (.builtin .escape) template' number' globals home' world')
    (still : bond.still home ∧ bond.still' home') (source : template'.source = template.source)
    (traces : template'.routine.Traces template.routine)
    (body : RecodedBody (manners.reticence true) escape template.routine.body template'.routine.body)
    (same : manners.Same bond context context') (deeper : depth ≤ depth') :
    manners.guardedly.Ends bond manners.Shows world world'
      (render (checkedWithin steps (depth + 2)) number context world)
      (render (callWithin steps (depth' + 2)) number' context' world') := by
  rw [render, render, world_bind, world_bind, hosted.listed, hosted'.listed]
  refine (ends_call matched hosted hosted' still traces body same deeper).recover
    fun later grown between between' matched error error' pair => ?_
  have calls := (manners.twin_guarded later steps (Nat.add_le_add_right deeper 2)).1
  exact (Terms.twin_explain calls source traces pair).weaken (fun _ _ _ => .inr) later le_rfl between between' matched

end Manners
end Stencil
