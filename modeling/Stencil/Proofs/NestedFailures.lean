import Stencil.Proofs.NestedMarkup

/-!
# Failures in nested templates

An error that leaves the routine of a template is reported once, by that template; the templates around it add their
names and lines to the report, innermost first, and pass it on.
-/

namespace Stencil

open Effect Script Routine

namespace Template

/-- The name of a template as stacks show it. -/
def title (template : Template) : Text := (firstGiven? [template.source.name]).getD "<template>"

/-- The report on an error of a kind with a text at a line of a template, inside of the templates of a stack. -/
def reportAt (template : Template) (line : Int) (kind : ErrorKind) (text described : Text)
    (stack : List EnclosingFrame) : RenderFault where
  text := described
  name := template.source.name
  line := some line
  suggestion := suggestionFor kind text
  snippet :=
    if line = 0 ∨ template.source.text = [] then none else some (Snippet.around template.source.text line 2 none)
  stack := stack
  code := ErrorKind.code .rendering

variable {template : Template} {incident : Incident}

/-- A report is about the line of the innermost call of the template's routine. -/
theorem faultFor_eq {line : Int} (place : template.lineOf? (template.ownLines incident.trace).getLast? = some line)
    (text described : Text) :
    template.faultFor incident text described = template.reportAt line incident.kind text described [] := by
  rw [faultFor, place, reportAt]
  congr 1
  by_cases zero : line = 0
  · rw [if_pos (.inl zero), zero]
    rfl
  · have known : SourceFault.knownLine? (some line) = some line := by simp [SourceFault.knownLine?, zero]
    rw [known]
    simp [zero]

/-- A template adds the line of the outermost call of its routine. -/
theorem frameFor_eq {line : Nat} {place : Int} {lines : List TraceLine}
    (known : template.routine.originOf line = some place) :
    template.frameFor (⟨template.routine.file, line⟩ :: lines) = (template.title, place) := by
  have own : template.ownLines (⟨template.routine.file, line⟩ :: lines) = line :: template.ownLines lines := by
    simp [ownLines]
  rw [frameFor, own, List.head?_cons, lineOf?, Option.bind_some, known, Option.getD_some, title]

end Template

/-- Whether describing an error succeeds: it has a text and, where the text is blank, its arguments have texts. -/
def Effect.Describes (call : Caller) (error : Nat) (incident : Incident) (world : World) (text : Text)
    (arguments : List Text) : Prop :=
  ∃ value between after, call (.builtin .text) [.object error] world = .done value between ∧ contentOf value = text ∧
    (if text.trim.isEmpty then textsOf call incident.arguments else pure []) between = .done arguments after

/-- A failure in nested templates.  An error that is an exception but no report leaves the routine of a template, and
rendering that template is a part of calling the routine of the next one, and so on; a frame of the stack names a
template around the failing one and the template line of the outermost line of its routine on the way.  The templates
can be one and the same. -/
inductive Nested (rounds : Nat) (template : Template) (incident : Incident) (text : Text) (arguments : List Text) :
    (depth number : Nat) → Value → World → List EnclosingFrame → Prop
  | innermost {depth number error : Nat} {context : Value} {world after : World}
    (listed : world.templates[number]? = some template)
    (raised : callWithin rounds depth (.object template.function) [context] world = .failed error after)
    (found : after.incident? error = some incident) (foreign : incident.kind.goesOn = false)
    (described : Describes (callWithin rounds depth) error incident after text arguments) :
    Nested rounds template incident text arguments depth number context world []
  | enclosing {depth number outerDepth outerNumber line : Nat} {context outerContext : Value} {world around : World}
    {frames : List EnclosingFrame} {outer : Template} {lines : List TraceLine} {place : Int}
    (nested : Nested rounds template incident text arguments depth number context world frames)
    (listed : around.templates[outerNumber]? = some outer)
    (within : Within (·.isA .rendering) (render (callWithin rounds depth) number context) world
      (callWithin rounds outerDepth (.object outer.function) [outerContext]) around
      (⟨outer.routine.file, line⟩ :: lines))
    (known : outer.routine.originOf line = some place) :
    Nested rounds template incident text arguments outerDepth outerNumber outerContext around
      (frames ++ [(outer.title, place)])

/-- An error that carries the report on a failure. -/
def reporting (fault : RenderFault) (cause : ErrorKind) (trace : List TraceLine) : Incident :=
  ⟨.rendering, [.plain fault.text], [], some (.rendering fault), trace, some cause⟩

section Steps

variable {template : Template} {incident : Incident} {text : Text} {arguments : List Text} {call : Caller}
  {number error : Nat} {context : Value} {world after : World}

theorem faultOf_describes (described : Describes call error incident world text arguments) (template : Template) :
    ∃ after, faultOf call template error incident world = .done
      (template.faultFor incident text (describedBy incident.kind text arguments)) after := by
  obtain ⟨value, between, after, said, rfl, listed⟩ := described
  refine ⟨after, ?_⟩
  rw [faultOf, bind_done said]
  cases blank : (contentOf value).trim.isEmpty <;> rw [blank] at listed <;> exact bind_done listed

/-- A template reports an error that leaves its routine. -/
theorem render_reports (listed : world.templates[number]? = some template)
    (raised : call (.object template.function) [context] world = .failed error after)
    (found : after.incident? error = some incident) (foreign : incident.kind.goesOn = false)
    (described : Describes call error incident after text arguments) : ∃ error' final,
    render call number context world = .failed error' final ∧ final.incident? error' = some (reporting
      (template.faultFor incident text (describedBy incident.kind text arguments)) incident.kind []) := by
  obtain ⟨between, fault⟩ := faultOf_describes described template
  rw [ErrorKind.goesOn, Bool.or_assoc, Bool.or_eq_false_iff] at foreign
  obtain ⟨report, passes⟩ := foreign
  generalize template.faultFor incident text (describedBy incident.kind text arguments) = built at fault ⊢
  have explained : explain call template error after =
      raiseReport .rendering (some incident.kind) (.rendering built) built.text between := by
    rw [explain, world_bind, found]
    dsimp only
    rw [if_neg (by rw [report]; exact Bool.false_ne_true), if_neg (by rw [passes]; exact Bool.false_ne_true),
      bind_done fault]
  refine ⟨between.objects.size,
    { between with objects := between.objects.push (.error (reporting built incident.kind [])) }, ?_, ?_⟩
  · rw [render, world_bind, listed]
    dsimp only
    rw [recover, raised]
    exact explained
  · rw [World.incident?, Array.getElem?_push_size]

/-- A template that a report passes through adds its name and line to it, and lets it go on. -/
theorem render_encloses {fault : RenderFault} {cause : ErrorKind} {line : Nat} {lines : List TraceLine} {place : Int}
    (listed : world.templates[number]? = some template)
    (raised : call (.object template.function) [context] world = .failed error after)
    (found : after.incident? error = some (reporting fault cause (⟨template.routine.file, line⟩ :: lines)))
    (known : template.routine.originOf line = some place) : ∃ final,
    render call number context world = .failed error final ∧ final.incident? error = some
      (reporting (fault.enclose (template.title, place)) cause (⟨template.routine.file, line⟩ :: lines)) := by
  refine ⟨after.changeIncident error (enclose template), ?_, ?_⟩
  · rw [render, world_bind, listed]
    dsimp only
    rw [recover, raised]
    show explain call template error after = _
    rw [explain, world_bind, found]
    dsimp only
    rw [if_pos (by rfl)]
    rfl
  · rw [incident?_changeIncident, found, Option.map_some, enclose, reporting]
    dsimp only
    rw [Template.frameFor_eq known]
    rfl

end Steps

section Main

variable {rounds depth number : Nat} {context : Value} {world : World} {template : Template} {incident : Incident}
  {text : Text} {arguments : List Text} {frames : List EnclosingFrame} {line : Int}

/-- What the rendering of nested templates fails with: an error with the report on the innermost one. -/
theorem Nested.fails (nested : Nested rounds template incident text arguments depth number context world frames)
    (place : template.lineOf? (template.ownLines incident.trace).getLast? = some line) : ∃ error after trace,
    render (callWithin rounds depth) number context world = .failed error after ∧
      after.incident? error = some (reporting (template.reportAt line incident.kind text
        (describedBy incident.kind text arguments) frames) incident.kind trace) := by
  induction nested with
  | innermost listed raised found foreign described =>
      obtain ⟨error, final, failed, reported⟩ := render_reports listed raised found foreign described
      rw [Template.faultFor_eq place] at reported
      exact ⟨error, final, [], failed, reported⟩
  | enclosing _ listed within known ih =>
      obtain ⟨error, after, trace, failed, found⟩ := ih
      obtain ⟨between, raised, found⟩ := within.fails failed found rfl
      obtain ⟨final, failed, found⟩ := render_encloses listed raised found known
      exact ⟨error, final, _, failed, found⟩

theorem object_of_incident? {incident : Incident} {error : Nat} (found : world.incident? error = some incident) :
    world.objects[error]? = some (.error incident) := by
  rw [World.incident?] at found
  split at found
  · rename_i object
    rw [object, Option.some.inj found]
  · cases found

end Main

/-! ## Chains of contexts -/

/-- Whether the template of a context comes to a fragment on a template line, which asks for an attribute of the
context, behind literals and attributes with texts. -/
inductive World.ComesTo (world : World) (template : Template) (number address line : Nat) (name : Text) : Prop
  | fragment {owner row place : Nat} {attributes : List (Text × Slot)} {marker : Text} {tree : Tree}
    {before rest : List Step} {parts : List ContextPart} (standing : Standing template number world)
    (accepted : template.source.routine marker true = .ok template.routine)
    (matched : template.source.tree marker = .ok tree)
    (read : tree.steps? = some (before ++ .value line (.attribute row (.name place "self") name) :: rest))
    (returns : ∀ piece ∈ piecesAmong tree.body, '\r' ∉ piece.2)
    (foreign : ∀ name' ∈ namesInSteps (before ++ .value line (.attribute row (.name place "self") name) :: rest),
      isOwnName name' = false)
    (member : world.objects[address]? = some (.member owner attributes))
    (filled : PartsStand world (fun _ => False) before parts address) : ComesTo world template number address line name

/-- A chain of contexts: an attribute that the template of the first one asks for raises an error, and the template of
every other one inserts the context before it.  The frames are those of the other contexts. -/
inductive World.Chain (world : World) (template : Template) (line : Nat) (kind : ErrorKind) (arguments : List Value) :
    (links number address : Nat) → List EnclosingFrame → Prop
  | failing {number address : Nat} {name : Text} (comes : world.ComesTo template number address line name)
    (raises : world.slotOf? (.object address) name = some (.failing kind arguments)) :
    Chain world template line kind arguments 0 number address []
  | inserting {links number address owner outerNumber outerAddress place : Nat} {frames : List EnclosingFrame}
    {outer : Template} {attributes : List (Text × Slot)} {name trusted shown : Text}
    (below : Chain world template line kind arguments links number address frames)
    (comes : world.ComesTo outer outerNumber outerAddress place name)
    (inserts : world.slotOf? (.object outerAddress) name = some (.value (.object address)))
    (member : world.objects[address]? = some (.member owner attributes))
    (bare : attributes.lookup "__html__".toList = none)
    (trusts : world.attributeOfClass? owner "__html__" = some (.hook (.trusts trusted)))
    (renders : world.attributeOfClass? owner "__str__" = some (.hook (.renders number shown))) :
    Chain world template line kind arguments (links + 1) outerNumber outerAddress
      (frames ++ [(outer.title, (place : Int))])

section Chains

variable {here : Activation} {rounds depth number address line : Nat} {bound : List Text} {context value : Value}
  {items : List Value} {world after : World} {template : Template} {name : Text}

theorem World.ComesTo.grows (comes : world.ComesTo template number address line name) (grows : world.Grows after) :
    after.ComesTo template number address line name := by
  obtain ⟨standing, accepted, matched, read, returns, foreign, member, filled⟩ := comes
  exact .fragment (grows.standing standing) accepted matched read returns foreign (grows.objects member)
    (filled.grows grows member fun _ _ _ none => none)

theorem World.ComesTo.slotOf? (comes : world.ComesTo template number address line name) (grows : world.Grows after)
    (asked : Text) : after.slotOf? (.object address) asked = world.slotOf? (.object address) asked := by
  obtain ⟨-, -, -, -, -, -, member, -⟩ := comes
  exact grows.slotOf?_member member asked

/-- The statements of a fragment, at the end of what a call of a template comes to. -/
structure AtFragment (rounds depth : Nat) (template : Template) (address line : Nat) (name : Text) (world : World)
    (code : Expr) (first second : Nat) (here : Activation) (bound : List Text) (items : List Value) (start : World) :
    Prop where
  scope : here.scope = world.scopes.size
  file : here.file = template.routine.file
  self : bound.contains "self".toList
  kept : bound.contains valueName
  shape : ∃ row place, code.at line = .attribute row (.name place "self") name
  one : template.routine.originOf first = some (line : Int)
  other : template.routine.originOf second = some (line : Int)
  serving : Serving ⟨world.objects.size, world.scopes.size⟩ bound (.object address) items start
  grows : world.Grows start
  comes : ∃ statements last, callWithin rounds (depth + 3) (.object template.function) [.object address] world =
    ((runBlock (callWithin rounds (depth + 2)) rounds here (.assign first [.name valueName] (code.at first) ::
        appending second (.call second (.name second (Writing.converter true)) [.name second valueName]) ::
        statements) >>=
      onward (runBlock (callWithin rounds (depth + 2)) rounds here [returning last])) >>= returned) start

theorem World.ComesTo.at (comes : world.ComesTo template number address line name) (rounds depth : Nat) :
    ∃ code first second here bound items start,
      AtFragment rounds depth template address line name world code first second here bound items start := by
  obtain ⟨standing, accepted, matched, read, returns, foreign, member, filled⟩ := comes
  obtain ⟨here, last, bound, items, start, later, scope, file, self, left, called, -, serving, grown⟩ :=
    call_parts rounds depth standing accepted matched read returns foreign (.inr ⟨line, _, _, rfl⟩) member filled
      fun _ _ _ none => none.elim
  generalize written : Expr.attribute _ (.name _ "self") name = asked at left
  cases left with
  | @fragment first second _ _ statements code one other kept =>
    exact ⟨code, first, second, here, bound, items, start, scope, file, self, kept, ⟨_, _, written.symm⟩, one, other,
      serving, grown, statements, last, called⟩

namespace AtFragment

variable {code : Expr} {first second : Nat} {start : World}

/-- Reading the attribute is met at a generated line of the fragment. -/
theorem reading
    (there : AtFragment rounds depth template address line name world code first second here bound items start)
    (kinds : ErrorKind → Bool) : Within kinds (attributeAt (.object address) name) start
      (callWithin rounds (depth + 3) (.object template.function) [.object address]) world
      [⟨template.routine.file, first⟩] := by
  obtain ⟨statements, last, called⟩ := there.comes
  obtain ⟨row, place, shape⟩ := there.shape
  refine .same called (.first (.first (within_statement ?_)))
  rw [run, at_attribute shape, ← there.file, evaluate]
  exact .first (.behind (there.serving.evaluate_self there.scope there.self _ first) (.located .here))

/-- Inserting the value of the attribute is met at a generated line of the fragment. -/
theorem inserting
    (there : AtFragment rounds depth template address line name world code first second here bound items start)
    (slot : start.slotOf? (.object address) name = some (.value value)) : ∃ met, world.Grows met ∧
      ∀ {α : Type} {kinds : ErrorKind → Bool} {inner : Effect α} {begun : World} {lines : List TraceLine},
        Within kinds inner begun (callWithin rounds (depth + 2) (.builtin .escape) [value]) met lines →
        Within kinds inner begun (callWithin rounds (depth + 3) (.object template.function) [.object address]) world
          (⟨template.routine.file, second⟩ :: lines) := by
  obtain ⟨statements, last, called⟩ := there.comes
  obtain ⟨row, place, shape⟩ := there.shape
  refine ⟨keep ⟨world.objects.size, world.scopes.size⟩ value start, there.grows.modifyScope le_rfl _, fun within => ?_⟩
  have found := there.serving.evaluate_attribute there.scope there.self shape slot (callWithin rounds (depth + 2)) first
  refine .same called (.first (.first ?_))
  rw [← there.file]
  exact within_fragment there.scope found there.serving.toHolding there.kept within

end AtFragment

variable {kind : ErrorKind} {arguments : List Value} {text : Text} {texts : List Text} {links : Nat}
  {frames : List EnclosingFrame}

theorem World.ComesTo.listed (comes : world.ComesTo template number address line name) :
    world.templates[number]? = some template := by
  obtain ⟨standing, -⟩ := comes
  exact standing.listed

/-- An attribute that raises an error makes the error. -/
theorem attributeAt_failing (raises : world.slotOf? context name = some (.failing kind arguments)) : ∃ error after,
    attributeAt context name world = .failed error after ∧
      after.incident? error = some ⟨kind, arguments, [], none, [], none⟩ := by
  refine ⟨world.objects.size,
    { world with objects := world.objects.push (.error ⟨kind, arguments, [], none, [], none⟩) },
    attributeAt_of_slot raises, ?_⟩
  rw [World.incident?, Array.getElem?_push_size]

/-- A chain of contexts leads to a failure in nested templates, with the frames of the chain; the error passes the
routine of the first template on one line only, which comes from the template line of the fragment. -/
theorem World.Chain.nested (chain : world.Chain template line kind arguments links number address frames)
    (foreign : kind.goesOn = false)
    (described : ∀ depth error lines after, after.incident? error = some ⟨kind, arguments, [], none, lines, none⟩ →
      Describes (callWithin rounds (depth + 3)) error ⟨kind, arguments, [], none, lines, none⟩ after text texts)
    (grows : world.Grows after) (depth : Nat) : ∃ first, template.routine.originOf first = some (line : Int) ∧
      Nested rounds template ⟨kind, arguments, [], none, [⟨template.routine.file, first⟩], none⟩ text texts
        (depth + 5 * links + 3) number (.object address) after frames := by
  induction chain generalizing after with
  | failing comes raises =>
      obtain ⟨code, first, second, here, bound, items, start, there⟩ := (comes.grows grows).at rounds depth
      obtain ⟨error, between, failed, found⟩ :=
        attributeAt_failing ((comes.slotOf? (grows.trans there.grows) _).trans raises)
      obtain ⟨final, raised, found⟩ := (there.reading fun _ => true).fails failed found rfl
      exact ⟨first, there.one, .innermost (comes.grows grows).listed raised found foreign (described depth _ _ _ found)⟩
  | @inserting links number address owner outerNumber outerAddress place frames outer attributes name trusted shown _
      comes inserts member bare trusts renders ih =>
      obtain ⟨code, first, second, here, bound, items, start, there⟩ :=
        (comes.grows grows).at rounds (depth + 5 * links + 5)
      obtain ⟨met, grown, leads⟩ :=
        there.inserting ((comes.slotOf? (grows.trans there.grows) name).trans inserts)
      have met' := grows.trans grown
      have begun := met'.trans (.identities met (met.identities + 1))
      obtain ⟨innermost, origin, nested⟩ := ih begun
      have within : Within (·.isA .rendering) _ _ _ _ _ :=
        leads (within_markup (met'.objects member) bare ((met'.attributeOfClass? _ _).trans trusts)
          (within_text (begun.objects member) ((begun.attributeOfClass? _ _).trans renders) .here))
      exact ⟨innermost, origin, .enclosing nested (comes.grows grows).listed within there.other⟩

end Chains

/-- A template that inserts what the context has as a child. -/
def nodeSource : TemplateSource := ⟨"a\n\x7b\x7b self.child \x7d\x7d\n", some "node.html", none, "text/html"⟩

/-- A class whose instances are rendered by the first template, and three instances of it: the first one fails, and the
others have the one before as a child. -/
def nodesWorld : World :=
  ⟨⟨.empty, [], []⟩, #[.member 0 [("child", .failing .value [.plain "boom"])],
    .member 0 [("child", .value (.object 0))], .member 0 [("child", .value (.object 1))]], #[],
    #[⟨"Node", "Node", "site", none, [("__str__", .hook (.renders 0 "Node")), ("__html__", .hook (.trusts "Node"))]⟩],
    #[[]], [("site", 0)], #[], #[], 0, [], false⟩

/-- Describing an error that says one thing succeeds. -/
theorem describes_message {kind : ErrorKind} {message : Text} {world : World} {error rounds : Nat}
    {lines : List TraceLine} (key : kind ≠ .key) (quiet : kind ≠ .quiet) (said : message.trim.isEmpty = false)
    (depth : Nat) (found : world.incident? error = some ⟨kind, [.plain message], [], none, lines, none⟩) :
    Describes (callWithin rounds (depth + 2)) error ⟨kind, [.plain message], [], none, lines, none⟩ world message
      [] := by
  have told : textOfIncident (callWithin rounds (depth + 1)) ⟨kind, [.plain message], [], none, lines, none⟩ world =
      .done (.plain message) world := by
    unfold textOfIncident
    simp only [List.isEmpty_nil, if_true]
    rfl
  refine ⟨.plain message, world, world, ?_, rfl, ?_⟩
  · show textOf (callWithin rounds (depth + 1)) (.object error) world = _
    rw [textOf, world_bind]
    dsimp only
    rw [object_of_incident? found]
    exact told
  · rw [said]
    rfl

/-- Rendering an instance whose child is a slot comes to the fragment, and reading the child comes to the slot. -/
theorem node_comes_to_child : ∃ routine, nodeSource.routine Environment.standardMarker true = .ok routine ∧
    ∀ (address : Nat) (slot : Slot), nodesWorld.objects[address]? = some (.member 0 [("child", slot)]) →
      (installed nodeSource true routine 0 nodesWorld).ComesTo ⟨nodeSource, true, routine, nodesWorld.objects.size⟩ 0
          address 2 "child" ∧
        (installed nodeSource true routine 0 nodesWorld).slotOf? (.object address) "child" = some slot := by
  obtain ⟨routine, accepted⟩ := accepts_of_isOk (by decide +kernel :
    (nodeSource.routine Environment.standardMarker true).isOk)
  obtain ⟨tree, steps, matched, read, inserts⟩ := of_inserts? (by decide +kernel :
    nodeSource.inserts? Environment.standardMarker =
      some [some (.literal "a"), some (.literal "\n"), some (.attribute 2 "child"), some (.literal "\n")])
  obtain ⟨returns, foreign⟩ := plain_pieces (by decide +kernel) matched read
  have standing := standing_installed nodeSource true routine 0 nodesWorld
  have grown := World.Grows.installed nodesWorld nodeSource true routine 0
  refine ⟨routine, accepted, fun address slot member => ?_⟩
  generalize installed nodeSource true routine 0 nodesWorld = world at standing grown ⊢
  simp only [List.map_eq_cons_iff, List.map_eq_nil_iff] at inserts
  obtain ⟨_, _, rfl, first, _, _, rfl, second, _, _, rfl, third, rest, _, rfl, -, rfl⟩ := inserts
  obtain rfl := Step.of_insert_literal first
  obtain rfl := Step.of_insert_literal second
  obtain ⟨_, _, rfl⟩ := Step.of_insert_attribute third
  have there := grown.objects member
  refine ⟨.fragment standing accepted matched read returns foreign there (.literal _ (.literal _ (.nil address))), ?_⟩
  refine World.slotOf?_own ?_
  rw [World.ownSlots, there]
  rfl

/-- Describing the error that reading the child of the first instance raises succeeds. -/
theorem describes_boom (depth error : Nat) (lines : List TraceLine) (world : World)
    (found : world.incident? error = some ⟨.value, [.plain "boom"], [], none, lines, none⟩) :
    Describes (callWithin 4 (depth + 3)) error ⟨.value, [.plain "boom"], [], none, lines, none⟩ world "boom" [] :=
  describes_message (by decide) (by decide) (by decide) (depth + 1) found

end Stencil
