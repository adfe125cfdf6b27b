import Stencil.Proofs.ClosedWorlds
import Stencil.Proofs.LoweredRuns
import Stencil.Proofs.RoutineCalls
import Stencil.Proofs.TextOutput

/-!
# Rendering block trees

Rendering a template with a context gives the text that the steps of its block tree put out, and fails where the steps
fail: an error that is no report yet becomes one with the template line of the step it left.
-/

namespace Stencil

open Effect Script

variable {template : Template} {world : World} {context : Value} {outer globals : Nat} {names : List Text}

namespace Routine

/-- When a call begins in a closed world, nothing but the routine's own names leads to the list of its output. -/
theorem sealed_prepared (closed : world.Closed) (known : world.Knows context) (around : outer < world.scopes.size) :
    (⟨world.objects.size, world.scopes.size⟩ : Veil).Sealed
      (prepared (.builtin .escape) (callOf template globals world) (begun names outer context world)) := by
  have beyond : (⟨world.objects.size, world.scopes.size⟩ : Veil).Beyond world := ⟨le_rfl, le_rfl⟩
  have unreached := closed _ beyond
  refine ⟨?_, ?_, fun address object found => ?_, fun number scope found => ?_, unreached.namespaces, unreached.classes,
    unreached.templates, unreached.handled⟩
  · show world.objects.size < (world.objects.push _).size
    rw [Array.size_push]
    exact Nat.lt_succ_self _
  · show world.scopes.size < ((world.scopes.push _).modify _ _).size
    rw [Array.size_modify, Array.size_push]
    exact Nat.lt_succ_self _
  · rw [prepared, begun, Array.getElem?_push] at found
    split at found
    · cases found
      exact fun item member => absurd member (Array.not_mem_empty item)
    · exact unreached.objects address object found
  · rw [prepared, begun, callOf, Array.getElem?_modify] at found
    split at found
    · rename_i same
      obtain ⟨before, there, rfl⟩ := Option.map_eq_some_iff.mp found
      rw [← same, Array.getElem?_push_size] at there
      cases there
      refine ⟨fun loops => ?_, fun entry member free => ?_⟩
      · cases loops
        exact absurd around (Nat.lt_irrefl _)
      · rcases List.mem_append.mp member with given | own
        · rw [List.mem_singleton.mp given]
          exact known _ beyond
        · have foreign := free same.symm
          simp only [ownValues, List.mem_cons, List.not_mem_nil, or_false] at own
          rcases own with rfl | rfl | rfl | rfl <;> cases foreign
    · rename_i other
      rw [Array.getElem?_push, if_neg (Ne.symm other)] at found
      exact unreached.scopes number scope found

/-! ## Running the steps of a template -/

end Routine

/-- Run the steps of a template in a call of its function with a context.  A list that nothing leads to is set aside, as
the routine gathers its output in one. -/
def directly (call : Caller) (rounds : Nat) (template : Template) (steps : List Step) (context : Value) :
    Effect Yield := do
  let world ← Effect.world
  match world.objects[template.function]? with
  | some (.function function _) => do
    let _ ← newList []
    let _ ← newIdentity
    let scope ← openScope ⟨"self".toList :: boundInSteps steps, [("self".toList, context)], some function.outer⟩
    runSteps call rounds ⟨function.name, function.file, scope, function.globals⟩
      (Routine.conversion template.escape) steps
  | _ => Effect.exhausted

namespace Routine

theorem boundByBlock_append (statements more : List Stmt) :
    boundByBlock (statements ++ more) = boundByBlock statements ++ boundByBlock more := by
  induction statements with
  | nil => rfl
  | cons statement statements ih => rw [List.cons_append, boundByBlock, boundByBlock, ih, List.append_assoc]

/-- The world behind the veil, when the first statements of a routine were run. -/
theorem hide_prepared : (⟨world.objects.size, world.scopes.size⟩ : Veil).hide
    (prepared (.builtin .escape) (callOf template globals world) (begun names outer context world)) =
      { world with
        objects := world.objects.push (.list #[]),
        identities := world.identities + 1,
        scopes := world.scopes.push ⟨foreignOf names, [("self", context)], some outer⟩ } := by
  have objects : (world.objects.push (.list #[])).setIfInBounds world.objects.size (.list #[]) =
      world.objects.push (.list #[]) := by
    apply Array.ext_getElem?
    intro place
    grind
  rw [Veil.hide, prepared, begun, callOf]
  dsimp only
  rw [objects, modify_push_self, modify_push_self]
  rfl

theorem directly_standing {attributes : List (Text × Value)} {body : List Stmt} {steps : List Step}
    (call : Caller) (rounds : Nat)
    (function : world.objects[template.function]? = some (.function
      ⟨routineName, ["self"], body, outer, template.routine.file, globals⟩ attributes))
    (bound : foreignOf names = "self".toList :: boundInSteps steps) :
    directly call rounds template steps context world =
      runSteps call rounds (callOf template globals world) (conversion template.escape) steps
        ((⟨world.objects.size, world.scopes.size⟩ : Veil).hide
          (prepared (.builtin .escape) (callOf template globals world) (begun names outer context world))) := by
  rw [hide_prepared, bound, directly, world_bind, function]
  rfl

/-! ## Errors that leave a routine -/

end Routine

/-- Whether an error of a kind leaves a template as it is: a report does, and an error that is no exception. -/
def ErrorKind.goesOn (kind : ErrorKind) : Bool := kind.isA .rendering || kind.isA .template || !kind.isA .exception

/-- How a rendering ends when an error leaves the template's routine in some world.  An error that is to be reported is
described first, which can fail or not end. -/
inductive Reported (call : Caller) (template : Template) (error : Nat) (line : Int) (there : World) :
    Outcome Value → Prop where
  /-- The error goes on. -/
  | onward {after : World} (kind : ∀ incident, there.incident? error = some incident → incident.kind.goesOn) :
      Reported call template error line there (.failed error after)
  /-- A report is raised; it has the line, unless the error passed another line of a file that is called like the
  routine's. -/
  | located {incident : Incident} {fault : RenderFault} {error' : Nat} {between after : World}
      (found : there.incident? error = some incident) (kind : incident.kind.goesOn = false)
      (described : faultOf call template error incident there = .done fault between)
      (place : (∀ passed ∈ incident.trace.tail, passed.file ≠ template.routine.file) → fault.line = some line)
      (made : after.incident? error' =
        some ⟨.rendering, [.plain fault.text], [], some (.rendering fault), [], some incident.kind⟩) :
      Reported call template error line there (.failed error' after)
  | undescribed {incident : Incident} {error' : Nat} {after : World} (found : there.incident? error = some incident)
      (kind : incident.kind.goesOn = false) (described : faultOf call template error incident there = .failed
        error' after) :
      Reported call template error line there (.failed error' after)
  | endless {incident : Incident} (found : there.incident? error = some incident)
      (kind : incident.kind.goesOn = false) (described : faultOf call template error incident there = .exhausted) :
      Reported call template error line there .exhausted

namespace Routine

/-- A report of an error that passed a generated line last has its template line. -/
theorem line_faultFor {incident : Incident} {line : Nat} {place : Int} (text described : Text)
    (last : incident.trace.head? = some ⟨template.routine.file, line⟩)
    (alone : ∀ passed ∈ incident.trace.tail, passed.file ≠ template.routine.file)
    (known : template.routine.originOf line = some place) :
    (template.faultFor incident text described).line = some place := by
  have lines : template.ownLines incident.trace = [line] := by
    cases passed : incident.trace with
    | nil =>
        rw [passed] at last
        cases last
    | cons first rest =>
        rw [passed] at last alone
        cases last
        have others : rest.filter (fun passed => passed.file == template.routine.file) = [] := by
          rw [List.filter_eq_nil_iff]
          exact fun passed member => by simpa using alone passed member
        rw [Template.ownLines, List.filter_cons, others]
        exact congrArg (List.map TraceLine.line) (if_pos (beq_self_eq_true template.routine.file))
  show template.lineOf? (template.ownLines incident.trace).getLast? = some place
  rw [lines]
  exact known

theorem explain_reported (call : Caller) {error line : Nat} {place : Int} {there : World}
    (last : there.Passed error ⟨template.routine.file, line⟩)
    (known : template.routine.originOf line = some place) :
    Reported call template error place there (explain call template error there) := by
  rw [explain, world_bind]
  cases found : there.incident? error with
  | none =>
      refine .onward fun incident other => ?_
      cases found.symm.trans other
  | some incident =>
      have only (kind : incident.kind.goesOn) :
          ∀ incident, there.incident? error = some incident → incident.kind.goesOn := by
        intro incident' other
        cases found.symm.trans other
        exact kind
      dsimp only
      by_cases report : incident.kind.isA .rendering
      · rw [if_pos report]
        refine .onward (only ?_)
        rw [ErrorKind.goesOn, report, Bool.true_or, Bool.true_or]
      · rw [if_neg report]
        by_cases passes : (incident.kind.isA .template || !incident.kind.isA .exception) = true
        · rw [if_pos passes]
          refine .onward (only ?_)
          rw [ErrorKind.goesOn, Bool.or_assoc, passes, Bool.or_true]
        · rw [if_neg passes]
          have kind : incident.kind.goesOn = false := by
            rw [ErrorKind.goesOn, Bool.or_assoc, Bool.eq_false_iff.mpr passes, Bool.eq_false_iff.mpr report]
            rfl
          cases described : faultOf call template error incident there with
          | failed error' after =>
              rw [bind_failed described]
              exact .undescribed found kind described
          | exhausted =>
              rw [bind_exhausted described]
              exact .endless found kind described
          | done fault between =>
              rw [bind_done described]
              have place (alone : ∀ passed ∈ incident.trace.tail, passed.file ≠ template.routine.file) :
                  fault.line = some place := by
                obtain ⟨text, _, -, rest⟩ := of_bind_done described
                dsimp only at rest
                split at rest
                · obtain ⟨arguments, _, -, rest⟩ := of_bind_done rest
                  cases rest
                  exact line_faultFor _ _ (last incident found) alone known
                · cases rest
                  exact line_faultFor _ _ (last incident found) alone known
              have made : (between.objects.push (.error
                  ⟨.rendering, [.plain fault.text], [], some (.rendering fault), [],
                  some incident.kind⟩))[between.objects.size]? = some _ := Array.getElem?_push_size
              exact .located found kind described place (by rw [World.incident?, made])

/-! ## Calls of a template's routine -/

theorem namesOfCall_body (statements : List Stmt) (line : Nat) :
    namesOfCall (preparing ++ (statements ++ [returning line])) =
      ["self".toList, escapeName, textName, bufferName, appendName] ++ boundByBlock statements := by
  have last : boundByBlock [returning line] = [] := rfl
  rw [namesOfCall, boundByBlock_append, boundByBlock_append, last, List.append_nil]
  rfl

/-- The scope of a call has the names that the steps bind, and the routine's own ones. -/
theorem Lowers.names_of_call {origin : Nat → Option Int} {escape : Bool} {steps : List Step} {statements : List Stmt}
    (lowers : Lowers origin escape steps statements) (foreign : ∀ name ∈ namesInSteps steps, isOwnName name = false)
    (line : Nat) :
    foreignOf (namesOfCall (preparing ++ (statements ++ [returning line]))) = "self".toList :: boundInSteps steps ∧
      ∀ name ∈ [escapeParameter, textParameter],
        (namesOfCall (preparing ++ (statements ++ [returning line]))).contains name = false := by
  rw [namesOfCall_body]
  refine ⟨?_, fun name member => ?_⟩
  · rw [foreignOf_append, lowers.foreignOf_bound foreign]
    rfl
  · have own : isOwnName name = true ∧ name ≠ valueName ∧
        name ∉ ["self".toList, escapeName, textName, bufferName, appendName] := by
      revert name
      decide
    rw [List.contains_eq_mem, decide_eq_false_iff_not, List.mem_append]
    rintro (first | later)
    · exact own.2.2 first
    · exact own.2.1 (lowers.own_bound foreign name later own.1)

theorem placed_append {around : Surroundings} {statements more : List Stmt}
    (placed : misplacedInBlock? around (statements ++ more) = none) :
    misplacedInBlock? around statements = none ∧ misplacedInBlock? around more = none := by
  induction statements with
  | nil => exact ⟨rfl, placed⟩
  | cons statement statements ih =>
      obtain ⟨first, rest⟩ := Option.or_eq_none_iff.mp placed
      obtain ⟨inside, behind⟩ := ih rest
      exact ⟨Option.or_eq_none_iff.mpr ⟨first, inside⟩, behind⟩

/-- The statements of an accepted routine are well placed outside of loops. -/
theorem placed_of_routine {statements : List Stmt} {line : Nat}
    (placed : misplacedIn? (routineScript statements line) = none) :
    misplacedInBlock? .outermost statements = none := by
  obtain ⟨-, placed⟩ := Option.or_eq_none_iff.mp placed
  obtain ⟨factory, -⟩ := Option.or_eq_none_iff.mp placed
  obtain ⟨inside, -⟩ := Option.or_eq_none_iff.mp factory
  obtain ⟨routine, -⟩ := Option.or_eq_none_iff.mp inside
  obtain ⟨body, -⟩ := Option.or_eq_none_iff.mp routine
  exact (placed_append (placed_append body).2).1

/-- A call of a routine begins like a run of its steps. -/
theorem Lowers.begins {origin : Nat → Option Int} {escape : Bool} {steps : List Step} {statements : List Stmt}
    (lowers : Lowers origin escape steps statements)
      (foreign : ∀ name ∈ namesInSteps steps, isOwnName name = false) {line : Nat}
    (body : template.routine.body = preparing ++ (statements ++ [returning line]))
    (closed : world.Closed) (known : world.Knows context) (around : outer < world.scopes.size)
    (entered : Entered (.builtin .escape) (callOf template globals world) (namesOfCall template.routine.body) [("self", context)]
      (begun (namesOfCall template.routine.body) outer context world)) (rounds depth : Nat) : ∃ start,
    runBlock (callWithin rounds (depth + 1)) rounds (callOf template globals world) template.routine.body
      (begun (namesOfCall template.routine.body) outer context world) =
        (runBlock (callWithin rounds (depth + 1)) rounds (callOf template globals world) statements >>=
          onward (runBlock (callWithin rounds (depth + 1)) rounds
            (callOf template globals world) [returning line])) start ∧
    Follows ⟨world.objects.size, world.scopes.size⟩ template.routine.file origin
      (Gathering ⟨world.objects.size, world.scopes.size⟩ escape (namesOfCall template.routine.body) [])
      (runBlock (callWithin rounds (depth + 1)) rounds (callOf template globals world) statements start)
      (runSteps (callWithin rounds (depth + 1)) rounds (callOf template globals world) (conversion escape) steps
        ((⟨world.objects.size, world.scopes.size⟩ : Veil).hide
          (prepared (.builtin .escape) (callOf template globals world)
            (begun (namesOfCall template.routine.body) outer context world)))) := by
  have names := namesOfCall_body statements line
  rw [← body] at names
  have own : ∀ name ∈ [escapeName, textName, bufferName, appendName],
      (namesOfCall template.routine.body).contains name := by
    intro name member
    rw [names, List.contains_eq_mem, decide_eq_true_eq]
    exact List.mem_append_left _ (List.mem_cons_of_mem _ member)
  have fresh : ∀ entry ∈ [("self".toList, context)], isOwnName entry.1 = false := by
    intro entry member
    rw [List.mem_singleton.mp member]
    rfl
  have belongs : ∀ name ∈ boundByBlock statements, (namesOfCall template.routine.body).contains name := by
    intro name member
    rw [names, List.contains_eq_mem, decide_eq_true_eq]
    exact List.mem_append_right _ member
  have equipped : Equipped ⟨world.objects.size, world.scopes.size⟩ escape (namesOfCall template.routine.body) []
      (prepared (.builtin .escape) (callOf template globals world) (begun (namesOfCall template.routine.body) outer context world)) :=
    { toHolding := holding_prepared escape entered own fresh
      shut := sealed_prepared closed known around }
  have here : (callOf template globals world).scope = (⟨world.objects.size, world.scopes.size⟩ : Veil).scope := rfl
  refine ⟨_, ?_, lowers.follows here rounds depth foreign belongs [] _ equipped⟩
  rw [← runBlock_append, ← run_preparing rounds entered own fresh, body]

end Routine

/-! ## Rendering -/

/-- How the run of a template's steps ends, and how rendering the template ends.  Where the steps fail, the error passed a
template line last, and the routine failed with the error in a world that is the same behind its veil. -/
inductive Mirrored (call : Caller) (template : Template) (veil : Veil) : Outcome Yield → Outcome Value → Prop where
  | done {yield : Yield} {after final : World} {identity : Nat} {text : Text} (makes : outputOf? yield.2 = some text) :
      Mirrored call template veil (.done yield after) (.done (.text identity false text) final)
  | failed {error line : Nat} {after there : World} {outcome : Outcome Value}
      (passed : after.Passed error ⟨template.routine.file, line⟩)
      (same : (veil.hide there).repass error ⟨template.routine.file, line⟩ = after)
      (reported : Reported call template error line there outcome) :
      Mirrored call template veil (.failed error after) outcome
  | exhausted : Mirrored call template veil .exhausted .exhausted

section Main

open Routine

theorem passed_repass (world : World) (error : Nat) (line : TraceLine) :
    (world.repass error line).Passed error line := by
  intro incident found
  rw [World.repass, incident?_changeIncident] at found
  obtain ⟨before, -, rfl⟩ := Option.map_eq_some_iff.mp found
  rfl

section Renderings

variable {marker : Text} {tree : Tree} {steps : List Step} {number : Nat}
  (accepted : template.source.routine marker template.escape = .ok template.routine)
  (matched : template.source.tree marker = .ok tree) (found : tree.steps? = some steps)
  (foreign : ∀ name ∈ namesInSteps steps, isOwnName name = false)
  (returns : ∀ piece ∈ piecesAmong tree.body, '\r' ∉ piece.2)
  (standing : Standing template number world) (closed : world.Closed) (known : world.Knows context)
  (rounds depth : Nat)
include accepted matched found foreign returns standing closed known

/-- Rendering a template whose block tree can be read as steps ends like the run of the steps, unless something is put
out that is no text; then its routine complains.  An error that leaves the steps is not at the place of the output. -/
theorem rendering_mirrors :
    (Mirrored (callWithin rounds (depth + 2)) template ⟨world.objects.size, world.scopes.size⟩
        (directly (callWithin rounds (depth + 1)) rounds template steps context world)
        (render (callWithin rounds (depth + 2)) number context world) ∧
      ∀ error after, directly (callWithin rounds (depth + 1)) rounds template steps context world =
        .failed error after → error ≠ world.objects.size) ∨
      (∃ yield after, directly (callWithin rounds (depth + 1)) rounds template steps context world =
        .done yield after ∧ outputOf? yield.2 = none) ∧
      ∃ error there, callWithin rounds (depth + 2) (.object template.function) [context] world = .failed error there ∧
        Complains error there := by
  obtain ⟨statements, line, body, -, lowers, placed⟩ := body_of_routine accepted matched found returns
  obtain ⟨bound, params⟩ := lowers.names_of_call foreign line
  rw [← body] at bound params
  obtain ⟨outer, globals, attributes, function, around, entered, rendered⟩ :=
    render_standing standing params rounds (depth + 1) context
  obtain ⟨start, runs, follows⟩ := lowers.begins foreign body closed known around entered rounds depth
  rw [← directly_standing (callWithin rounds (depth + 1)) rounds function bound] at follows
  have stays : ∀ flow after, runBlock (callWithin rounds (depth + 1)) rounds (callOf template globals world) statements
      start = .done flow after → Stays false flow := lowers.stays (placed_of_routine placed) start
  generalize ran : runBlock (callWithin rounds (depth + 1)) rounds (callOf template globals world) statements start =
    outcome at follows
  generalize directly (callWithin rounds (depth + 1)) rounds template steps context world = outcome' at follows ⊢
  cases follows with
  | @done flow yield after gathering =>
      obtain ⟨-, items, makes, equipped⟩ := gathering
      rcases stays _ _ ran with rfl | ⟨inside, -⟩
      · have here : (callOf template globals world).scope =
          (⟨world.objects.size, world.scopes.size⟩ : Veil).scope := rfl
        have whole := runs.trans (bind_done ran)
        cases output : outputOf? yield.2 with
        | some text =>
            obtain ⟨identity, count, returned⟩ :=
              run_returning here equipped.toHolding (makes.trans output) rounds depth rounds line
            rw [onward, runBlock, bind_done returned] at whole
            rw [rendered, recover, bind_done whole]
            exact .inl ⟨.done output, fun _ _ failed => by cases failed⟩
        | none =>
            obtain ⟨error, final, failed, complains⟩ :=
              run_returning_failed here equipped.toHolding (makes.trans output) rounds depth rounds line
            rw [onward, runBlock, bind_failed failed] at whole
            have called := call_function function rounds (depth + 1) context
            exact .inr ⟨⟨yield, _, rfl, output⟩, error, final, called.trans (bind_failed whole), complains⟩
      · cases inside
  | @failed error place line there known last apart shut =>
      rw [rendered, recover, bind_failed (runs.trans (bind_failed ran))]
      refine .inl ⟨.failed (passed_repass _ _ _) rfl (explain_reported _ last known), fun _ _ failed => ?_⟩
      cases failed
      exact apart
  | exhausted =>
      rw [rendered, recover, bind_exhausted (runs.trans (bind_exhausted ran))]
      exact .inl ⟨.exhausted, fun _ _ failed => by cases failed⟩

end Renderings

/-- The steps of a template that does not escape put out texts. -/
theorem directly_putsText (plain : template.escape = false) (rounds depth : Nat) (steps : List Step) (context : Value) :
    PutsText (directly (callWithin rounds depth) rounds template steps context) := by
  refine putsText_bind fun world => ?_
  split
  · refine putsText_bind fun _ => putsText_bind fun _ => putsText_bind fun _ => ?_
    rw [plain]
    exact putsText_runSteps rounds depth rounds steps
  · intro world yield after ended
    cases ended

/-- Rendering a template whose block tree can be read as steps ends like the run of the steps, in a world in which
nothing leads to what is not there.  Assumed are that no name of the steps is one of the routine's own, that no fragment,
statement or head has a carriage return inside, and that what is put out is text where values say themselves what they are
in markup. -/
theorem rendering_follows_tree {marker : Text} {tree : Tree} {steps : List Step} {number : Nat}
    (accepted : template.source.routine marker template.escape = .ok template.routine)
    (matched : template.source.tree marker = .ok tree) (found : tree.steps? = some steps)
    (foreign : ∀ name ∈ namesInSteps steps, isOwnName name = false)
    (returns : ∀ piece ∈ piecesAmong tree.body, '\r' ∉ piece.2)
    (standing : Standing template number world) (closed : world.Closed) (known : world.Knows context)
      (rounds depth : Nat)
    (strings : template.escape = true → ∀ yield after,
      directly (callWithin rounds (depth + 1)) rounds template steps context world = .done yield after →
        AllTexts yield.2) :
    Mirrored (callWithin rounds (depth + 2)) template ⟨world.objects.size, world.scopes.size⟩
      (directly (callWithin rounds (depth + 1)) rounds template steps context world)
      (render (callWithin rounds (depth + 2)) number context world) := by
  refine ((rendering_mirrors accepted matched found foreign returns standing closed known rounds depth).resolve_right
    ?_).1
  rintro ⟨⟨yield, after, ended, none⟩, -⟩
  have texts : AllTexts yield.2 := by
    cases decision : template.escape with
    | true => exact strings decision yield _ ended
    | false => exact directly_putsText decision rounds (depth + 1) steps context _ _ _ ended
  obtain ⟨text, output⟩ := outputOf?_of_texts texts
  cases none.symm.trans output

/-! ## A listing -/

/-- A loop over the items of the context, and a block behind it that is chained to it. -/
def listing : TemplateSource :=
  ⟨"%% n = 0\n%% for x in self.items \x7b\n\x7b\x7b x \x7d\x7d,\n%% n += 1\n%% \x7d if n \x7b\n$$ n\n%% \x7d\n",
    none, none, "text/html"⟩

/-- A context with a number and a text that needs escaping. -/
def itemsObject : Object := .context [("items", .value (.tuple 1 [.int 0 1, .plain "<"]))]

/-- The world in which a session started, with that context. -/
def listingWorld : World :=
  let world := (Session.start [] "site" [] false).world
  { world with objects := world.objects.push itemsObject }

/-- Whether the pieces and the names of a source are such as rendering asks for. -/
def TemplateSource.isPlain (marker : Text) (source : TemplateSource) : Bool :=
  match source.tree marker with
  | .ok tree => (piecesAmong tree.body).all (fun piece => !piece.2.contains '\r') &&
    (tree.steps?.map fun steps => (namesInSteps steps).all fun name => !isOwnName name) == some true
  | .error _ => false

/-- The text that the steps of a source put out, with a context in the world in which the source was compiled. -/
def outputOfSteps? (rounds depth : Nat) (marker : Text) (escape : Bool) (source : TemplateSource) (context : Value)
    (world : World) : Option Text :=
  match source.tree marker, source.routine marker escape with
  | .ok tree, .ok routine => tree.steps?.bind fun steps =>
    match directly (callWithin rounds depth) rounds ⟨source, escape, routine, world.objects.size⟩ steps context
        (installed source escape routine 0 world) with
    | .done yield _ => outputOf? yield.2
    | _ => none
  | _, _ => none

theorem plain_pieces {source : TemplateSource} {marker : Text} {tree : Tree} {steps : List Step}
    (plain : source.isPlain marker) (matched : source.tree marker = .ok tree) (found : tree.steps? = some steps) :
    (∀ piece ∈ piecesAmong tree.body, '\r' ∉ piece.2) ∧ ∀ name ∈ namesInSteps steps, isOwnName name = false := by
  rw [TemplateSource.isPlain, matched] at plain
  dsimp only at plain
  rw [found] at plain
  simpa using plain

theorem closed_listingWorld : listingWorld.Closed := by
  refine closed_push (closed_start [] "site" [] false) fun veil _ entry member => ?_
  rw [List.mem_singleton.mp member]
  have items : veil.Clears [.int 0 1, .plain "<"] := by
    intro item inside
    rcases List.mem_cons.mp inside with rfl | inside
    · trivial
    · rw [List.mem_singleton.mp inside]
      trivial
  show veil.Clear (.tuple 1 [.int 0 1, .plain "<"])
  exact Veil.clear_tuple.mpr items

theorem listing_renders : ∃ routine, listing.routine Environment.standardMarker true = .ok routine ∧
    ∃ identity final, render (callWithin 4 6) 0 (.object 0) (installed listing true routine 0 listingWorld) =
      .done (.text identity false "1,\n&lt;,\n2\n") final := by
  have plain : listing.isPlain Environment.standardMarker = true := by decide +kernel
  have output : outputOfSteps? 4 5 Environment.standardMarker true listing (.object 0) listingWorld =
      some "1,\n&lt;,\n2\n".toList := by decide +kernel
  rw [outputOfSteps?] at output
  split at output
  · rename_i tree routine matched accepted
    obtain ⟨steps, found, output⟩ := Option.bind_eq_some_iff.mp output
    split at output
    · rename_i yield after ended
      obtain ⟨returns, foreign⟩ := plain_pieces plain matched found
      have standing := standing_installed listing true routine 0 listingWorld
      have known : (installed listing true routine 0 listingWorld).Knows (.object 0) := by
        intro veil beyond
        have size : listingWorld.objects.size + 1 ≤ veil.list := (Array.size_push _).symm.trans_le beyond.1
        exact (Nat.zero_lt_of_lt size).ne
      have strings : true = true → ∀ yield after, directly (callWithin 4 5) 4
          ⟨listing, true, routine, listingWorld.objects.size⟩ steps (.object 0)
          (installed listing true routine 0 listingWorld) = .done yield after → AllTexts yield.2 := by
        intro _ yield' after' ended'
        cases ended.symm.trans ended'
        exact texts_of_outputOf? output
      have mirrored : Mirrored (callWithin 4 6) _ _ _
          (render (callWithin 4 6) 0 (.object 0) (installed listing true routine 0 listingWorld)) :=
        @rendering_follows_tree ⟨listing, true, routine, listingWorld.objects.size⟩
          (installed listing true routine 0 listingWorld)
            (.object 0) _ tree steps 0 accepted matched found foreign returns
          standing (closed_installed closed_listingWorld _ _ _ _) known 4 4 strings
      rw [ended] at mirrored
      refine ⟨routine, accepted, ?_⟩
      generalize render (callWithin 4 6) 0 (.object 0) (installed listing true routine 0 listingWorld) = outcome
        at mirrored ⊢
      cases mirrored with
      | done makes =>
          cases makes.symm.trans output
          exact ⟨_, _, rfl⟩
    · cases output
  · cases output

/-! ## An error that is a report already -/

/-- A fragment that asks the context for a value. -/
def asking : TemplateSource := ⟨"\x7b\x7b self.x \x7d\x7d\n", none, none, "text/plain; charset=utf-8"⟩

/-- The line that the error that leaves the steps of a source passed last, with a context in the world in which the source
was compiled. -/
def lineOfSteps? (rounds depth : Nat) (marker : Text) (escape : Bool) (source : TemplateSource) (context : Value)
    (world : World) : Option Nat :=
  match source.tree marker, source.routine marker escape with
  | .ok tree, .ok routine => tree.steps?.bind fun steps =>
    match directly (callWithin rounds depth) rounds ⟨source, escape, routine, world.objects.size⟩ steps context
        (installed source escape routine 0 world) with
    | .failed error after => (after.incident? error).bind fun incident => incident.trace.head?.map TraceLine.line
    | _ => none
  | _, _ => none

/-- The world in which a session started, with a context that raises an error about templates. -/
def raisingWorld : World :=
  let world := (Session.start [] "site" [] false).world
  { world with objects := world.objects.push (.context [("x", .failing .template [.plain "boom"])]) }

/-- A template is made of the fragment, and rendered with such a context. -/
def raisingRequests : List Request :=
  [.define "t" (.template none asking.text none none ⟨none, []⟩),
    .ask (.render "t" (.context [("x", .failing .template [.text false "boom"])]))]

/-- The failures among answers. -/
def failuresAmong (answers : List Answer) : List Failure :=
  answers.filterMap fun
    | .failed failure => some failure
    | _ => none

/-- An error about templates leaves a rendering as it is: it does not get the line on which the fragment stands. -/
theorem template_error_goes_on :
    asking.isPlain Environment.standardMarker = true ∧
      lineOfSteps? 1 2 Environment.standardMarker false asking (.object 0) raisingWorld = some 1 ∧
      failuresAmong ((Session.start [] "site" [] false).run raisingRequests) = [⟨.template, "boom", none, none⟩] := by
  decide +kernel

end Main

end Stencil
