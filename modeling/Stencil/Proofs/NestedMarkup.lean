import Stencil.Proofs.DisplayedClasses
import Stencil.Proofs.ErrorPaths
import Stencil.Proofs.TreeRendering

/-!
# Markup inside of markup

Instances of displayed classes can be inserted into each other at any depth.  When the templates escape, the text of the
outermost one is put together from the literals of all templates as they stand and from the texts of the other values,
each of which is escaped once.
-/

namespace Stencil

open Effect Script Routine

/-! ## Trees of contexts -/

mutual

/-- A context, by the address of its object, with what its template puts out. -/
inductive ContextTree where
  | context (address : Nat) (parts : List ContextPart)

/-- What a template puts out: a literal, or the value of an attribute of its context. -/
inductive ContextPart where
  | literal (content : Text)
  /-- A value with a certain text. -/
  | leaf (name : Text) (said : Text)
  | child (name : Text) (tree : ContextTree)

end

namespace ContextTree

/-- The address of the context. -/
def address : ContextTree → Nat
  | context address _ => address

/-- What the template of the context puts out. -/
def parts : ContextTree → List ContextPart
  | context _ parts => parts

mutual

/-- The text of a tree: literals and the texts of inner contexts as they stand, and other texts escaped. -/
def text : ContextTree → Text
  | context _ parts => textOfParts parts

/-- The text of parts, in order. -/
def textOfParts : List ContextPart → Text
  | [] => []
  | part :: parts => textOfPart part ++ textOfParts parts

/-- The text of a part. -/
def textOfPart : ContextPart → Text
  | .literal content => content
  | .leaf _ said => Html.escape said
  | .child _ tree => tree.text

end

mutual

/-- How deep contexts are nested. -/
def height : ContextTree → Nat
  | context _ parts => heightOfParts parts + 1

/-- How deep contexts are nested in parts. -/
def heightOfParts : List ContextPart → Nat
  | [] => 0
  | part :: parts => max (heightOfPart part) (heightOfParts parts)

/-- How deep contexts are nested in a part. -/
def heightOfPart : ContextPart → Nat
  | .child _ tree => tree.height
  | _ => 0

end

end ContextTree

/-- Whether a value has a certain text and nothing else in markup, however the world grows. -/
structure World.Yields (world : World) (value : Value) (said : Text) : Prop where
  bare : ∀ after, world.Grows after → after.slotOf? value "__html__" = none
  text : ∀ after, world.Grows after → ∀ rounds depth, ∃ identity trusted final,
    callWithin rounds (depth + 1) (.builtin .text) [value] after = .done (.text identity trusted said) final ∧
      after.Grows final

/-- Whether steps put out literals and attributes of the context at an address as parts say; `inner` is about the
contexts among the attributes. -/
inductive PartsStand (world : World) (inner : ContextTree → Prop) : List Step → List ContextPart → Nat → Prop
  | nil (address : Nat) : PartsStand world inner [] [] address
  | literal {address : Nat} {steps : List Step} {parts : List ContextPart} (content : Text)
    (rest : PartsStand world inner steps parts address) :
    PartsStand world inner (.text content :: steps) (.literal content :: parts) address
  | leaf {address line row place : Nat} {steps : List Step} {parts : List ContextPart} {name said : Text}
    {value : Value} (slot : world.slotOf? (.object address) name = some (.value value))
    (yields : world.Yields value said) (rest : PartsStand world inner steps parts address) :
    PartsStand world inner (.value line (.attribute row (.name place "self") name) :: steps)
      (.leaf name said :: parts) address
  | child {address line row place : Nat} {steps : List Step} {parts : List ContextPart} {name : Text}
    {tree : ContextTree} (slot : world.slotOf? (.object address) name = some (.value (.object tree.address)))
    (stands : inner tree) (rest : PartsStand world inner steps parts address) :
    PartsStand world inner (.value line (.attribute row (.name place "self") name) :: steps)
      (.child name tree :: parts) address

/-- Whether a tree stands in a world: its contexts are instances of displayed classes whose templates escape and consist
of literals and attributes, and have the contexts below them and values with certain texts as attributes.  A fragment
stands on one line, so that there is no carriage return inside. -/
inductive ContextTree.StandsIn (world : World) : ContextTree → Prop
  | context {address owner : Nat} {attributes : List (Text × Slot)} {hook : Hook} {name marker : Text}
    {source : TemplateSource} {routine : Routine} {tree : Tree} {steps : List Step} {parts : List ContextPart}
    (member : world.objects[address]? = some (.member owner attributes))
    (bare : attributes.lookup "__html__".toList = none)
    (trusts : world.attributeOfClass? owner "__html__" = some (.hook (.trusts name)))
    (converts : world.attributeOfClass? owner "__str__" = some (.hook hook))
    (renders : Renders world marker source routine hook)
    (accepted : source.routine marker true = .ok routine) (matched : source.tree marker = .ok tree)
    (read : tree.steps? = some steps) (returns : ∀ piece ∈ piecesAmong tree.body, '\r' ∉ piece.2)
    (filled : PartsStand world (ContextTree.StandsIn world) steps parts address) :
    StandsIn world (.context address parts)

namespace ContextTree

theorem heightOfPart_le {part : ContextPart} {parts : List ContextPart} (inside : part ∈ parts) :
    heightOfPart part ≤ heightOfParts parts := by
  induction parts with
  | nil => cases inside
  | cons first parts ih =>
      rw [heightOfParts]
      rcases List.mem_cons.mp inside with rfl | later
      · exact Nat.le_max_left _ _
      · exact (ih later).trans (Nat.le_max_right _ _)

/-- What holds of a context when it holds of the contexts below it holds of every tree. -/
theorem induct {motive : ContextTree → Prop}
    (context : ∀ address parts, (∀ name tree, .child name tree ∈ parts → motive tree) →
      motive (.context address parts)) (tree : ContextTree) : motive tree := by
  have within (height : Nat) : ∀ tree : ContextTree, tree.height ≤ height → motive tree := by
    induction height with
    | zero =>
        rintro ⟨address, parts⟩ low
        rw [ContextTree.height] at low
        omega
    | succ height ih =>
        rintro ⟨address, parts⟩ low
        refine context address parts fun name tree inside => ih tree ?_
        have below := heightOfPart_le inside
        rw [heightOfPart] at below
        rw [ContextTree.height] at low
        omega
  exact within tree.height tree le_rfl

end ContextTree

/-! ## Trees in growing worlds -/

section Growing

variable {world after : World} {marker : Text} {source : TemplateSource} {routine : Routine} {hook : Hook}
  {inner inner' : ContextTree → Prop} {steps : List Step} {parts : List ContextPart} {address : Nat}

theorem World.Yields.grows {value : Value} {said : Text} (yields : world.Yields value said)
    (grows : world.Grows after) : after.Yields value said where
  bare final later := yields.bare final (grows.trans later)
  text final later := yields.text final (grows.trans later)

theorem PartsStand.grows (stand : PartsStand world inner steps parts address) (grows : world.Grows after)
    {owner : Nat} {attributes : List (Text × Slot)}
    (member : world.objects[address]? = some (.member owner attributes))
    (below : ∀ name tree, .child name tree ∈ parts → inner tree → inner' tree) :
    PartsStand after inner' steps parts address := by
  induction stand with
  | nil address => exact .nil address
  | literal content _ ih =>
      exact .literal content (ih member fun name tree inside => below name tree (List.mem_cons_of_mem _ inside))
  | leaf slot yields _ ih =>
      exact .leaf ((grows.slotOf?_member member _).trans slot) (yields.grows grows)
        (ih member fun name tree inside => below name tree (List.mem_cons_of_mem _ inside))
  | child slot stands _ ih =>
      exact .child ((grows.slotOf?_member member _).trans slot) (below _ _ List.mem_cons_self stands)
        (ih member fun name tree inside => below name tree (List.mem_cons_of_mem _ inside))

theorem ContextTree.StandsIn.grows {tree : ContextTree} (stands : tree.StandsIn world) (grows : world.Grows after) :
    tree.StandsIn after := by
  induction tree using ContextTree.induct with
  | context address parts ih =>
    obtain ⟨member, bare, trusts, converts, renders, accepted, matched, read, returns, filled⟩ := stands
    exact .context (grows.objects member) bare ((grows.attributeOfClass? _ _).trans trusts)
      ((grows.attributeOfClass? _ _).trans converts) (renders.develops grows.develops) accepted matched read returns
      (filled.grows grows member ih)

end Growing

/-! ## Inserting values -/

/-- Whether inserting a value in markup puts out a certain text, however the world grows. -/
def World.Inserts (rounds depth : Nat) (world : World) (value : Value) (content : Text) : Prop :=
  ∀ after, world.Grows after → ∃ identity trusted final,
    callWithin rounds depth (.builtin .escape) [value] after = .done (.text identity trusted content) final ∧
      after.Grows final

section Inserting

variable {world : World} {address owner rounds depth : Nat} {attributes : List (Text × Slot)} {name content : Text}

/-- A value with a text is escaped. -/
theorem World.Yields.inserts {value : Value} {said : Text} (yields : world.Yields value said) (rounds depth : Nat) :
    world.Inserts rounds (depth + 2) value (Html.escape said) := by
  intro after grows
  have asked := attributeIfAny_lacking (yields.bare after grows)
  have noted := World.Grows.pushObject after (.error (lackingIncident after value "__html__"))
  obtain ⟨identity, trusted, between, text, grown⟩ := yields.text _ (grows.trans noted) rounds depth
  obtain ⟨identity', count, made, -⟩ := newText_done (Html.escape said) between
  refine ⟨identity', false, _, ?_, (noted.trans grown).trans (.identities between count)⟩
  show markupOf (callWithin rounds (depth + 1)) value after = _
  rw [markupOf, bind_done asked]
  exact (bind_done text).trans made

/-- An instance of a displayed class that is trusted is inserted as it stands. -/
theorem inserts_member (member : world.objects[address]? = some (.member owner attributes))
    (bare : attributes.lookup "__html__".toList = none)
    (trusts : world.attributeOfClass? owner "__html__" = some (.hook (.trusts name)))
    (text : ∀ after, world.Grows after → ∃ identity final,
      callWithin rounds depth (.builtin .text) [.object address] after = .done (.text identity false content) final ∧
        after.Grows final) :
    world.Inserts rounds (depth + 2) (.object address) content := by
  intro after grows
  have used := World.Grows.identities after (after.identities + 1)
  obtain ⟨identity, between, ended, grown⟩ := text _ (grows.trans used)
  have trusts' := (grows.attributeOfClass? owner "__html__").trans trusts
  refine ⟨between.identities + 1, true, _, ?_, (used.trans grown).trans (.identities between (between.identities + 1))⟩
  show markupOf (callWithin rounds (depth + 1)) (.object address) after = _
  rw [markupOf_member rounds depth (grows.objects member) bare trusts']
  exact bind_done ended

end Inserting

/-! ## Plain values -/

section Plain

variable {world : World}

/-- The text of a plain value: a text that is not trusted, a number that can be written, a truth value or nothing. -/
inductive Value.Plain : Value → Text → Prop
  | text (identity : Nat) (content : Text) : Plain (.text identity false content) content
  | number {number : Int} {said : Text} (identity : Nat) (written : Numeral.ofInt number = .ok said) :
    Plain (.int identity number) said
  | truth (value : Bool) : Plain (.bool value) (if value then "True" else "False" : Text)
  | nothing : Plain .none "None"

/-- Showing a value whose written form is known makes a text of it. -/
theorem newText_shown {value : Value} {said : Text} (written : world.shownWithin World.shownDepth [] value = .ok said) :
    ∃ identity final, (shown value >>= newText) world = .done (.text identity false said) final ∧
      world.Grows final := by
  obtain ⟨identity, count, made, -⟩ := newText_done said world
  refine ⟨identity, _, ?_, .identities world count⟩
  have ended : shown value world = .done said world := by
    rw [shown, world_bind, written]
    rfl
  exact (bind_done ended).trans made

/-- A plain value has its text, and nothing else in markup. -/
theorem World.yields_plain (world : World) {value : Value} {said : Text} (plain : value.Plain said) :
    world.Yields value said where
  bare after _ := by cases plain <;> rfl
  text after _ rounds depth := by
    show ∃ identity trusted final, textOf (callWithin rounds depth) value after =
      .done (.text identity trusted said) final ∧ after.Grows final
    have written (form : after.shownWithin World.shownDepth [] value = .ok said)
        (converts : textOf (callWithin rounds depth) value after = (shown value >>= newText) after) :
        ∃ identity trusted final, textOf (callWithin rounds depth) value after =
          .done (.text identity trusted said) final ∧ after.Grows final := by
      obtain ⟨identity, final, ended, grown⟩ := newText_shown form
      exact ⟨identity, false, final, converts.trans ended, grown⟩
    cases plain with
    | text identity content => exact ⟨identity, false, after, rfl, .refl after⟩
    | number identity form =>
      refine written ?_ (by rw [textOf, world_bind])
      rw [World.shownDepth, World.shownWithin]
      exact form
    | truth value => exact written (by cases value <;> rfl) rfl
    | nothing => exact written rfl rfl

end Plain

/-! ## Running a template -/

/-- An attribute of the context can be written on any line. -/
theorem at_attribute {code : Expr} {line row place : Nat} {name : Text}
    (shape : code.at line = .attribute row (.name place "self") name) (other : Nat) :
    code.at other = .attribute other (.name other "self") name := by
  match code with
  | .attribute _ (.name _ _) _ =>
    cases shape
    rfl

/-- Whether a routine that has gathered some values serves a context. -/
structure Serving (veil : Veil) (bound : List Text) (context : Value) (items : List Value) (world : World) : Prop
    extends Holding veil true bound items world where
  serves : ∃ scope, world.scopes[veil.scope]? = some scope ∧ scope.names = bound ∧
    scope.values.lookup "self".toList = some context

namespace Serving

variable {veil : Veil} {bound : List Text} {context value : Value} {items : List Value} {world after : World}
  {here : Activation}

theorem grows (serving : Serving veil bound context items world) (grows : world.Grows after) :
    Serving veil bound context items after where
  toHolding := grows.holding serving.toHolding
  serves := by
    obtain ⟨scope, there, names, self⟩ := serving.serves
    exact ⟨scope, grows.scopes there, names, self⟩

theorem gather (serving : Serving veil bound context items world) (value : Value) :
    Serving veil bound context (items ++ [value]) (Routine.gather veil value world) where
  toHolding := holding_gather serving.toHolding value
  serves := serving.serves

theorem keep (serving : Serving veil bound context items world) (value : Value) :
    Serving veil bound context items (Routine.keep veil value world) where
  toHolding := holding_keep serving.toHolding value
  serves := by
    obtain ⟨scope, there, names, self⟩ := serving.serves
    refine ⟨_, there_keep value there, names, ?_⟩
    exact (lookup_putEntry_ne (by decide : "self".toList ≠ valueName) _ _).trans self

/-- A routine serves the context that it is called with. -/
theorem prepared (entered : Entered (.builtin .escape) here bound [("self", context)] world)
    (own : ∀ name ∈ [escapeName, textName, bufferName, appendName], bound.contains name) :
    Serving ⟨world.objects.size, here.scope⟩ bound context [] (Routine.prepared (.builtin .escape) here world) where
  toHolding := by
    refine holding_prepared true entered own fun entry member => ?_
    rw [List.mem_singleton.mp member]
    rfl
  serves := by
    obtain ⟨outer, scope, inner, -, -⟩ := entered.scopes
    let own := ownValues (.builtin .escape) world.objects.size (world.identities + 1)
    refine ⟨⟨bound, ("self".toList, context) :: own, some outer⟩, ?_, rfl, rfl⟩
    rw [Routine.prepared, Array.getElem?_modify, if_pos rfl, inner, Option.map_some]
    rfl

/-- The context itself, on whatever line it is written. -/
theorem evaluate_self (serving : Serving veil bound context items world) (own : here.scope = veil.scope)
    (belongs : bound.contains "self".toList) (call : Caller) (line : Nat) :
    evaluate call here (.name line "self") world = .done context world := by
  obtain ⟨scope, there, names, self⟩ := serving.serves
  have found : nameIn here "self" world = .done context world := nameIn_bound (own ▸ there) (names ▸ belongs) self
  rw [evaluate, if_neg (by decide)]
  exact located_done found

/-- An attribute of the context, on whatever line it is written. -/
theorem evaluate_attribute (serving : Serving veil bound context items world) (own : here.scope = veil.scope)
    (belongs : bound.contains "self".toList) {code : Expr} {line row place : Nat} {name : Text}
    (shape : code.at line = .attribute row (.name place "self") name)
    (slot : world.slotOf? context name = some (.value value)) (call : Caller) (other : Nat) :
    evaluate call here (code.at other) world = .done value world := by
  rw [at_attribute shape, evaluate, bind_done (serving.evaluate_self own belongs call other)]
  exact located_done (attributeAt_of_slot slot)

end Serving

/-! ## What a template puts out -/

namespace ContextTree

theorem textOfParts_append (first second : List ContextPart) :
    textOfParts (first ++ second) = textOfParts first ++ textOfParts second := by
  induction first with
  | nil => rfl
  | cons part first ih => rw [List.cons_append, textOfParts, textOfParts, ih, List.append_assoc]

theorem textOfParts_literals (contents : List Text) :
    textOfParts (contents.map ContextPart.literal) = contents.flatten := by
  induction contents with
  | nil => rfl
  | cons content contents ih =>
      rw [List.map_cons, textOfParts, textOfPart, ih]
      rfl

end ContextTree

open ContextTree

section Parts

variable {world : World} {inner : ContextTree → Prop} {address : Nat}

/-- Literals stand for steps that put out texts. -/
theorem PartsStand.texts {contents : List Text} {steps : List Step} {parts : List ContextPart}
    (stand : PartsStand world inner (contents.map .text ++ steps) parts address) :
    ∃ rest, parts = contents.map .literal ++ rest ∧ PartsStand world inner steps rest address := by
  induction contents generalizing parts with
  | nil => exact ⟨parts, rfl, stand⟩
  | cons content contents ih =>
      cases stand with
      | literal _ rest =>
          obtain ⟨more, rfl, behind⟩ := ih rest
          exact ⟨more, rfl, behind⟩

/-- A part that stands for a fragment is an attribute of the context, and inserting it puts out the text of the part. -/
theorem PartsStand.inserted {line rounds depth : Nat} {code : Expr} {steps : List Step} {parts : List ContextPart}
    (stand : PartsStand world inner (.value line code :: steps) parts address)
    (children : ∀ name tree, .child name tree ∈ parts → inner tree →
      world.Inserts rounds (depth + 2) (.object tree.address) tree.text) :
    ∃ row place name value part rest, code = .attribute row (.name place "self") name ∧
      world.slotOf? (.object address) name = some (.value value) ∧ parts = part :: rest ∧
      world.Inserts rounds (depth + 2) value (textOfPart part) ∧ PartsStand world inner steps rest address := by
  cases stand with
  | leaf slot yields rest => exact ⟨_, _, _, _, _, _, rfl, slot, rfl, yields.inserts rounds depth, rest⟩
  | child slot stands rest =>
      exact ⟨_, _, _, _, _, _, rfl, slot, rfl, children _ _ List.mem_cons_self stands, rest⟩

variable {veil : Veil} {bound : List Text} {here : Activation} {origin : Nat → Option Int} {owner rounds depth : Nat}
  {attributes : List (Text × Slot)}

/-- Putting out what the kept value of a fragment is converted to gathers it. -/
theorem run_fragment {items : List Value} {start after : World} {value output : Value}
    (own : here.scope = veil.scope) (holding : Holding veil true bound items start) (belongs : bound.contains valueName)
    (line : Nat)
    (converted : callWithin rounds (depth + 2) (.builtin .escape) [value] (keep veil value start) = .done output after)
    (held : Holding veil true bound items after) :
    run (callWithin rounds (depth + 2)) rounds here
      (appending line (.call line (.name line (Writing.converter true)) [.name line valueName]))
      (keep veil value start) = .done .proceed (gather veil output after) := by
  obtain ⟨identity, appended⟩ := run_appending (callWithin rounds (depth + 2)) own (holding_keep holding value)
    rounds line (.call line (.name line (Writing.converter true)) [.name line valueName])
  have evaluated := (evaluate_converting own holding belongs line value).trans (located_done converted)
  rw [appended, bind_done evaluated]
  exact bind_done (located_done (call_append rounds (depth + 1) held identity output))

/-- What is left of the statements of a template when everything before some steps was run: nothing, or the statements
of a fragment and what is behind them. -/
inductive Left (origin : Nat → Option Int) (bound : List Text) : List Step → List Stmt → Prop
  | nothing : Left origin bound [] []
  | fragment {first second line : Nat} {steps : List Step} {statements : List Stmt} (code : Expr)
    (one : origin first = some (line : Int)) (other : origin second = some (line : Int))
    (belongs : bound.contains valueName) :
    Left origin bound (.value line (code.at line) :: steps) (.assign first [.name valueName] (code.at first) ::
      appending second (.call second (.name second (Writing.converter true)) [.name second valueName]) :: statements)

/-- Steps of which no text is the first one. -/
def Textless (steps : List Step) : Prop := ∀ content more, steps ≠ .text content :: more

theorem texts_eq_append {contents : List Text} {steps before rest : List Step} (textless : Textless rest)
    (same : contents.map Step.text ++ steps = before ++ rest) :
    ∃ behind, before = contents.map .text ++ behind ∧ steps = behind ++ rest := by
  induction contents generalizing before with
  | nil => exact ⟨before, rfl, same⟩
  | cons content contents ih =>
      cases before with
      | nil => exact absurd same.symm (textless content _)
      | cons step before =>
          obtain ⟨rfl, tail⟩ := List.cons.inj same
          obtain ⟨behind, rfl, rfl⟩ := ih tail
          exact ⟨behind, rfl, rfl⟩

theorem PartsStand.head {step : Step} {steps before rest : List Step} {parts : List ContextPart}
    (stand : PartsStand world inner before parts address) (shape : step :: steps = before ++ rest)
    (ending : rest = [] ∨ ∃ line code more, rest = .value line code :: more) :
    (∃ content, step = .text content) ∨ ∃ line code, step = .value line code := by
  cases stand with
  | nil =>
      rcases ending with rfl | ⟨line, code, more, rfl⟩
      · cases shape
      · exact .inr ⟨line, code, (List.cons.inj shape).1⟩
  | literal content => exact .inl ⟨content, (List.cons.inj shape).1⟩
  | leaf => exact .inr ⟨_, _, (List.cons.inj shape).1⟩
  | child => exact .inr ⟨_, _, (List.cons.inj shape).1⟩

/-- Whether a run of statements comes to what is left for some steps, and has put out a text by then. -/
def RunsTo (rounds depth : Nat) (here : Activation) (veil : Veil) (origin : Nat → Option Int) (bound : List Text)
    (context : Value) (world : World) (rest : List Step) (items : List Value) (statements : List Stmt) (start : World)
    (text : Text) : Prop :=
  ∃ more after later, Left origin bound rest later ∧
    runBlock (callWithin rounds (depth + 2)) rounds here statements start =
      runBlock (callWithin rounds (depth + 2)) rounds here later after ∧
    outputOf? more = some text ∧ Serving veil bound context (items ++ more) after ∧ world.Grows after

/-- What was put out in front comes first. -/
theorem RunsTo.behind {context : Value} {rest : List Step} {items : List Value} {first statements : List Stmt}
    {start between : World} {identity : Nat} {trusted : Bool} {content text : Text}
    (runs : RunsTo rounds depth here veil origin bound context world rest
      (items ++ [.text identity trusted content]) statements between text)
    (ran : runBlock (callWithin rounds (depth + 2)) rounds here first start =
      runBlock (callWithin rounds (depth + 2)) rounds here statements between) :
    RunsTo rounds depth here veil origin bound context world rest items first start (content ++ text) := by
  obtain ⟨more, after, later, left, behind, output, served, grown⟩ := runs
  refine ⟨.text identity trusted content :: more, after, later, left, ran.trans behind, ?_, ?_, grown⟩
  · rw [outputOf?, output]
    rfl
  · rw [List.append_cons]
    exact served

/-- The statements for the steps that parts stand for gather the texts of the parts; what is left is the statements for
the steps behind. -/
theorem run_parts (rounds depth : Nat) {steps before rest : List Step} {statements : List Stmt}
    (lowers : Lowers origin true steps statements) (shape : steps = before ++ rest)
    (ending : rest = [] ∨ ∃ line code more, rest = .value line code :: more)
    (own : here.scope = veil.scope) (self : bound.contains "self".toList)
    (belongs : ∀ name ∈ boundByBlock statements, bound.contains name)
    (list : world.objects.size ≤ veil.list) (scope : world.scopes.size ≤ veil.scope)
    (member : world.objects[address]? = some (.member owner attributes)) {parts : List ContextPart}
    (stand : PartsStand world inner before parts address)
    (children : ∀ name tree, .child name tree ∈ parts → inner tree →
      world.Inserts rounds (depth + 2) (.object tree.address) tree.text) {items : List Value} {start : World}
    (serving : Serving veil bound (.object address) items start) (grows : world.Grows start) :
    RunsTo rounds depth here veil origin bound (.object address) world rest items statements start
      (textOfParts parts) := by
  have textless : Textless rest := by
    rintro content more rfl
    rcases ending with empty | ⟨_, _, _, fragment⟩
    · cases empty
    · cases fragment
  induction lowers generalizing before parts items start with
  | nil =>
      obtain ⟨rfl, rfl⟩ := List.append_eq_nil_iff.mp shape.symm
      cases stand
      exact ⟨[], start, [], .nothing, rfl, rfl, (List.append_nil items).symm ▸ serving, grows⟩
  | blank _ ih =>
      cases before with
      | nil => exact absurd shape.symm (textless [] _)
      | cons step before =>
          obtain ⟨rfl, tail⟩ := List.cons.inj shape
          cases stand with
          | literal _ stand =>
              exact ih tail belongs stand (fun name tree inside => children name tree (.tail _ inside)) serving grows
  | idle _ ih =>
      rw [RunsTo, runBlock_cons]
      exact ih shape belongs stand children serving grows
  | @texts steps statements line contents _ ih =>
      obtain ⟨before, rfl, tail⟩ := texts_eq_append textless shape
      obtain ⟨parts, rfl, behind⟩ := stand.texts
      have runs := ih tail belongs behind (fun name tree inside => children name tree (List.mem_append_right _ inside))
        (serving.gather (.plain contents.flatten)) (grows.modifyObject list _)
      have appended := run_appending_text own serving.toHolding rounds (depth + 1) rounds line contents.flatten
      rw [textOfParts_append, textOfParts_literals]
      exact runs.behind (runBlock_proceed appended statements)
  | @value steps statements first second template code one other _ ih =>
      obtain ⟨named, belong⟩ := List.forall_mem_cons.mp belongs
      cases before with
      | nil =>
          cases stand
          obtain rfl : rest = _ := shape.symm
          exact ⟨[], start, _, .fragment code one other named, rfl, rfl, (List.append_nil items).symm ▸ serving, grows⟩
      | cons step before =>
          obtain ⟨rfl, tail⟩ := List.cons.inj shape
          obtain ⟨row, place, name, value, part, parts, written, slot, rfl, inserts, behind⟩ := stand.inserted children
          have found := serving.evaluate_attribute own self written ((grows.slotOf?_member member name).trans slot)
            (callWithin rounds (depth + 2)) first
          have kept := serving.keep value
          obtain ⟨identity, trusted, between, converted, grown⟩ := inserts _ (grows.modifyScope scope _)
          have put := run_fragment own serving.toHolding named second converted (grown.holding kept.toHolding)
          have runs := ih tail belong behind
            (fun name tree inside => children name tree (List.mem_cons_of_mem _ inside))
            ((kept.grows grown).gather (.text identity trusted (textOfPart part)))
            (((grows.modifyScope scope _).trans grown).modifyObject list _)
          exact runs.behind ((runBlock_proceed (run_keeping own found) _).trans (runBlock_proceed put statements))
  | perform | branch | loop | each => rcases stand.head shape ending with ⟨_, same⟩ | ⟨_, _, same⟩ <;> cases same

/-- The steps of such a template mention no name but that of the context. -/
theorem PartsStand.names {steps : List Step} {parts : List ContextPart}
    (stand : PartsStand world inner steps parts address) : ∀ name ∈ namesInSteps steps, isOwnName name = false := by
  have free : ∀ name ∈ ["self".toList], isOwnName name = false := by decide
  induction stand with
  | nil => exact List.forall_mem_nil _
  | literal _ _ ih => exact ih
  | leaf _ _ _ ih => exact List.forall_mem_append.mpr ⟨free, ih⟩
  | child _ _ _ ih => exact List.forall_mem_append.mpr ⟨free, ih⟩

/-- What a call of a routine comes to when its statements end in some way. -/
def returned : Flow → Effect Value
  | .finish value => return value
  | _ => return .none

/-- A call of a template with a context gathers the texts of the parts in front, and what is left runs in the same
call. -/
theorem call_parts (rounds depth : Nat) {template : Template} {number : Nat} {marker : Text} {tree : Tree}
    {before rest : List Step} {parts : List ContextPart} (standing : Standing template number world)
    (accepted : template.source.routine marker true = .ok template.routine)
    (matched : template.source.tree marker = .ok tree) (read : tree.steps? = some (before ++ rest))
    (returns : ∀ piece ∈ piecesAmong tree.body, '\r' ∉ piece.2)
    (foreign : ∀ name ∈ namesInSteps (before ++ rest), isOwnName name = false)
    (ending : rest = [] ∨ ∃ line code more, rest = .value line code :: more)
    (member : world.objects[address]? = some (.member owner attributes))
    (stand : PartsStand world inner before parts address)
    (children : ∀ name tree, .child name tree ∈ parts → inner tree →
      world.Inserts rounds (depth + 2) (.object tree.address) tree.text) :
    ∃ here line bound items start later, here.scope = world.scopes.size ∧ here.file = template.routine.file ∧
      bound.contains "self".toList ∧ Left template.routine.originOf bound rest later ∧
      callWithin rounds (depth + 3) (.object template.function) [.object address] world =
        ((runBlock (callWithin rounds (depth + 2)) rounds here later >>=
          onward (runBlock (callWithin rounds (depth + 2)) rounds here [returning line])) >>= returned) start ∧
      outputOf? items = some (textOfParts parts) ∧
      Serving ⟨world.objects.size, world.scopes.size⟩ bound (.object address) items start ∧ world.Grows start := by
  obtain ⟨statements, line, body, -, lowers, -⟩ := body_of_routine accepted matched read returns
  obtain ⟨-, params⟩ := lowers.names_of_call foreign line
  have names := namesOfCall_body statements line
  rw [← body] at params names
  obtain ⟨outer, globals, _, function, _, around, converters⟩ := standing.function
  have entered := entered_begun template globals params around converters (.object address)
  have named : ∀ name ∈ ["self".toList, escapeName, textName, bufferName, appendName] ++ boundByBlock statements,
      (namesOfCall template.routine.body).contains name := by
    intro name inside
    rw [names, List.contains_eq_mem, decide_eq_true_eq]
    exact inside
  have own : ∀ name ∈ [escapeName, textName, bufferName, appendName],
      (namesOfCall template.routine.body).contains name :=
    fun name inside => named name (List.mem_append_left _ (List.mem_cons_of_mem _ inside))
  have self := named _ (List.mem_append_left _ List.mem_cons_self)
  have fresh : ∀ entry ∈ [("self".toList, Value.object address)], isOwnName entry.1 = false := by
    intro entry inside
    rw [List.mem_singleton.mp inside]
    rfl
  have scope : (callOf template globals world).scope = world.scopes.size := rfl
  obtain ⟨items, start, later, left, ran, output, serving, grown⟩ := run_parts rounds depth lowers
    rfl ending scope self (fun name inside => named name (List.mem_append_right _ inside)) le_rfl le_rfl member stand
    children (Serving.prepared entered own)
    (.prepared world template globals (namesOfCall template.routine.body) outer (.object address))
  refine ⟨callOf template globals world, line, _, items, start, later, scope, rfl, self, left, ?_, output, serving,
    grown⟩
  refine (call_function function rounds (depth + 2) (.object address)).trans ?_
  refine bind_congr (Eq.trans ?_ (bind_congr ran _)) returned
  rw [← runBlock_append, ← run_preparing rounds entered own fresh, body]

/-- Rendering a template that consists of literals and attributes puts out the texts of its parts. -/
theorem render_parts (rounds depth : Nat) {template : Template} {number : Nat} {marker : Text} {tree : Tree}
    {steps : List Step} {parts : List ContextPart} (standing : Standing template number world)
    (accepted : template.source.routine marker true = .ok template.routine)
    (matched : template.source.tree marker = .ok tree) (read : tree.steps? = some steps)
    (returns : ∀ piece ∈ piecesAmong tree.body, '\r' ∉ piece.2)
    (member : world.objects[address]? = some (.member owner attributes))
    (stand : PartsStand world inner steps parts address)
    (children : ∀ name tree, .child name tree ∈ parts → inner tree →
      world.Inserts rounds (depth + 2) (.object tree.address) tree.text) :
    ∃ identity after, render (callWithin rounds (depth + 3)) number (.object address) world =
      .done (.text identity false (textOfParts parts)) after ∧ world.Grows after := by
  rw [← List.append_nil steps] at read
  obtain ⟨here, line, bound, items, start, later, scope, -, -, left, called, output, serving, grown⟩ :=
    call_parts rounds depth standing accepted matched read returns ((List.append_nil steps).symm ▸ stand.names)
      (.inl rfl) member stand children
  cases left
  obtain ⟨identity, count, ended⟩ := run_returning scope serving.toHolding output rounds (depth + 1) rounds line
  refine ⟨identity, _, ?_, grown.trans (.identities start count)⟩
  have finished : (runBlock (callWithin rounds (depth + 2)) rounds here [] >>=
      onward (runBlock (callWithin rounds (depth + 2)) rounds here [returning line])) start =
        .done (.finish (.text identity false (textOfParts parts))) { start with identities := count } := by
    show runBlock (callWithin rounds (depth + 2)) rounds here [returning line] start = _
    rw [runBlock, bind_done ended]
    rfl
  rw [bind_done finished] at called
  rw [render, world_bind, standing.listed]
  dsimp only
  rw [recover, called]
  rfl

end Parts

/-! ## What sources put out -/

/-- What a step puts out. -/
inductive Insert where
  | literal (content : Text)
  /-- An attribute of the context, in a fragment on a template line. -/
  | attribute (line : Nat) (name : Text)
  deriving DecidableEq, Repr

/-- The literal or the attribute that a step puts out. -/
def Step.insert? : Step → Option Insert
  | .text content => some (.literal content)
  | .value line (.attribute _ (.name _ object) name) =>
    if object = "self".toList then some (.attribute line name) else none
  | _ => none

theorem Step.of_insert_literal {step : Step} {content : Text} (found : step.insert? = some (.literal content)) :
    step = .text content := by
  unfold Step.insert? at found
  split at found
  · cases found
    rfl
  · split at found <;> cases found
  · cases found

theorem Step.of_insert_attribute {step : Step} {line : Nat} {name : Text}
    (found : step.insert? = some (.attribute line name)) :
    ∃ row place, step = .value line (.attribute row (.name place "self") name) := by
  unfold Step.insert? at found
  split at found
  · cases found
  · split at found
    · rename_i row place object name self
      cases found
      exact ⟨row, place, self ▸ rfl⟩
    · cases found
  · cases found

/-- What the steps of a source put out, if it can be read as steps. -/
def TemplateSource.inserts? (marker : Text) (source : TemplateSource) : Option (List (Option Insert)) :=
  match source.tree marker with
  | .ok tree => tree.steps?.map (List.map Step.insert?)
  | .error _ => none

theorem of_inserts? {marker : Text} {source : TemplateSource} {inserts : List (Option Insert)}
    (found : source.inserts? marker = some inserts) :
    ∃ tree steps, source.tree marker = .ok tree ∧ tree.steps? = some steps ∧ steps.map Step.insert? = inserts := by
  unfold TemplateSource.inserts? at found
  split at found
  · rename_i tree matched
    obtain ⟨steps, read, same⟩ := Option.map_eq_some_iff.mp found
    exact ⟨tree, steps, matched, read, same⟩
  · cases found

/-- Whether the routine of a source can be made, when values are escaped. -/
theorem accepts_of_isOk {marker : Text} {source : TemplateSource} (compiles : (source.routine marker true).isOk) :
    ∃ routine, source.routine marker true = .ok routine := by
  cases made : source.routine marker true with
  | ok routine => exact ⟨routine, rfl⟩
  | error => rw [made] at compiles; cases compiles

/-! ## Whole trees -/

/-- The text of the context at the root of a tree is the text of the tree, and getting it changes nothing that was
there.  It takes five calls inside of each other for every context on the longest way down. -/
theorem context_tree_renders {tree : ContextTree} {world : World} (stands : tree.StandsIn world) {rounds depth : Nat}
    (deep : 5 * tree.height ≤ depth) : ∃ identity after,
      callWithin rounds depth (.builtin .text) [.object tree.address] world =
        .done (.text identity false tree.text) after ∧ world.Grows after := by
  induction tree using ContextTree.induct generalizing world depth with
  | context address parts ih =>
    rw [ContextTree.height] at deep
    obtain ⟨inside, rfl⟩ : ∃ inside, depth = inside + 5 := ⟨depth - 5, by omega⟩
    obtain ⟨member, bare, trusts, converts, renders, accepted, matched, read, returns, filled⟩ := stands
    obtain ⟨number, function, between, grows, standing, hooked⟩ := renders.rendered accepted
    have children : ∀ name tree, .child name tree ∈ parts → tree.StandsIn between →
        between.Inserts rounds (inside + 2) (.object tree.address) tree.text := by
      rintro name tree among stands
      have low := heightOfPart_le among
      rw [heightOfPart] at low
      have text : ∀ after, between.Grows after → ∃ identity final, callWithin rounds inside (.builtin .text)
          [.object tree.address] after = .done (.text identity false tree.text) final ∧ after.Grows final :=
        fun after grows => ih name tree among (stands.grows grows) (by omega)
      cases stands with
      | context member bare trusts => exact inserts_member member bare trusts text
    have filled' : PartsStand between (StandsIn between) _ parts address :=
      filled.grows grows member fun name tree _ stands => stands.grows grows
    obtain ⟨identity, after, rendered, grown⟩ := render_parts rounds inside standing accepted matched read returns
      (grows.objects member) filled' children
    refine ⟨identity, after, ?_, grows.trans grown⟩
    have text := text_member member converts rounds (inside + 3)
    rw [bind_apply, hooked, rendered] at text
    exact text

/-! ## Items in items -/

/-- An item with a label and what comes behind the label. -/
def itemSource : TemplateSource :=
  ⟨"<li>\x7b\x7b self.label \x7d\x7d\x7b\x7b self.more \x7d\x7d</li>", some "Item", none, "text/html; charset=utf-8"⟩

/-- A class with three instances, two of which hold another one. -/
def itemsWorld : World :=
  let item (label more : Value) : Object := .member 0 [("label", .value label), ("more", .value more)]
  ⟨⟨.empty, [], []⟩,
    #[item (.plain "a & b") (.plain []), item (.plain "<b>") (.object 0), item (.bool true) (.object 1)],
    #[], #[⟨"Item", "Item", "site", none, []⟩], #[[]], [("site", 0)], #[], #[], 0, [], false⟩

/-- How the class is displayed. -/
def itemOptions : DisplayOptions := { DisplayOptions.standard with text := some itemSource.text, suffix := some "html" }

theorem items_escaped_once : ∃ world, display 0 itemOptions itemsWorld = .done () world ∧ ∃ identity after,
    callWithin 4 15 (.builtin .text) [.object 2] world =
      .done (.text identity false "<li>True<li>&lt;b&gt;<li>a &amp; b</li></li></li>") after := by
  obtain ⟨binding, between, bound, escapes, marked, found⟩ : ∃ binding between,
      (classRecord 0 >>= fun record => bindClass record itemOptions) itemsWorld = .done binding between ∧
        binding.escape = true ∧ Environment.standardMarker = binding.environment.marker ∧
          itemsWorld.sourceFor binding = .ok itemSource := ⟨_, _, rfl, rfl, rfl, rfl⟩
  obtain ⟨routine, accepted⟩ := accepts_of_isOk (by decide +kernel :
    (itemSource.routine Environment.standardMarker true).isOk)
  obtain ⟨tree, steps, matched, read, inserts⟩ := of_inserts? (by decide +kernel :
    itemSource.inserts? Environment.standardMarker = some [some (.literal "<li>"), some (.attribute 1 "label"),
      some (.attribute 1 "more"), some (.literal "</li>"), some (.literal [])])
  obtain ⟨returns, -⟩ := plain_pieces (by decide +kernel) matched read
  obtain ⟨world, done, displays⟩ := display_accepted (by decide) rfl bound escapes found (marked ▸ accepted)
  have grown := display_develops done
  obtain ⟨⟨name, trusts⟩, hook, converts, renders⟩ := displays
  have stands (address : Nat) {label more : Value} {said : Text} {part : ContextPart} (plain : label.Plain said)
      (member : itemsWorld.objects[address]? = some (.member 0 [("label", .value label), ("more", .value more)]))
      (behind : ∀ {steps parts row place}, PartsStand world (ContextTree.StandsIn world) steps parts address →
        world.slotOf? (.object address) "more" = some (.value more) → PartsStand world (ContextTree.StandsIn world)
          (.value 1 (.attribute row (.name place "self") "more") :: steps) (part :: parts) address) :
      ContextTree.StandsIn world
        (.context address [.literal "<li>", .leaf "label" said, part, .literal "</li>", .literal []]) := by
    have there := grown.objects member
    have own {name : Text} {slot : Slot}
        (given : [("label".toList, Slot.value label), ("more".toList, .value more)].lookup name = some slot) :
        world.slotOf? (.object address) name = some slot := by
      refine World.slotOf?_own ?_
      rw [World.ownSlots, there]
      exact given
    refine .context there rfl (World.attributeOfClass?_own trusts) (World.attributeOfClass?_own converts) renders
      (marked ▸ accepted) (marked ▸ matched) read returns ?_
    simp only [List.map_eq_cons_iff, List.map_eq_nil_iff] at inserts
    obtain ⟨_, _, rfl, first, _, _, rfl, second, _, _, rfl, third, _, _, rfl, fourth, _, _, rfl, fifth, rfl⟩ := inserts
    obtain rfl := Step.of_insert_literal first
    obtain ⟨_, _, rfl⟩ := Step.of_insert_attribute second
    obtain ⟨_, _, rfl⟩ := Step.of_insert_attribute third
    obtain rfl := Step.of_insert_literal fourth
    obtain rfl := Step.of_insert_literal fifth
    exact .literal _ (.leaf (own rfl) (world.yields_plain plain)
      (behind (.literal _ (.literal _ (.nil address))) (own rfl)))
  have inner := stands 0 (.text 0 "a & b") rfl fun rest slot => .leaf slot (world.yields_plain (.text 0 [])) rest
  have middle := stands 1 (.text 0 "<b>") rfl fun rest slot => .child (by exact slot) inner rest
  have outer := stands 2 (.truth true) rfl fun rest slot => .child (by exact slot) middle rest
  obtain ⟨identity, after, rendered, -⟩ := context_tree_renders outer (by decide : 5 * _ ≤ 15)
  exact ⟨world, done, identity, after, rendered⟩

end Stencil
