import Stencil.Proofs.OwnNames
import Stencil.Proofs.WholeRoutine

/-!
# Calls of a routine

A call of a routine opens a scope with its names, binds its own names to the converters and to an empty list of
output, runs the statements of its template, and gives back the joined output.
-/

namespace Stencil

open Effect Script

namespace Routine

/-! ## The first statements -/

/-- Whether a scope binds the parameters of the factory to the two converters, the first of which is a given value. -/
structure Converters (converter : Value) (scope : Scope) : Prop where
  belong : ∀ name ∈ [escapeParameter, textParameter], scope.names.contains name
  escape : scope.values.lookup escapeParameter = some converter
  text : scope.values.lookup textParameter = some (.builtin .text)

/-- Whether a call of a routine has the given names and values in its scope, and the converters in the scope around
it. -/
structure Entered (converter : Value) (here : Activation) (bound : List Text) (values : List (Text × Value))
    (world : World) : Prop where
  scopes : ∃ outer scope, world.scopes[here.scope]? = some ⟨bound, values, some outer⟩ ∧
    world.scopes[outer]? = some scope ∧ Converters converter scope
  foreign : ∀ name ∈ [escapeParameter, textParameter], bound.contains name = false

variable {here : Activation} {bound : List Text} {values : List (Text × Value)} {world after : World}
  {converter value : Value} {call : Caller}

/-- The world with a name of the running call bound to a value. -/
def binding (here : Activation) (name : Text) (value : Value) (world : World) : World :=
  { world with scopes := world.scopes.modify here.scope fun scope =>
      { scope with values := putEntry name value scope.values } }

theorem Entered.outer_ne {outer : Nat} {scope : Scope} (entered : Entered converter here bound values world)
    (around : world.scopes[outer]? = some scope) (converters : Converters converter scope) : here.scope ≠ outer := by
  rintro rfl
  obtain ⟨outer', scope', inner, -, -⟩ := entered.scopes
  obtain rfl := Option.some.inj (around.symm.trans inner)
  have own := entered.foreign escapeParameter List.mem_cons_self
  have other := converters.belong escapeParameter List.mem_cons_self
  cases own.symm.trans other

theorem Entered.binding (entered : Entered converter here bound values world) (name : Text) (value : Value) :
    Entered converter here bound (putEntry name value values) (binding here name value world) where
  scopes := by
    obtain ⟨outer, scope, inner, around, converters⟩ := entered.scopes
    refine ⟨outer, scope, ?_, ?_, converters⟩
    · rw [Routine.binding, Array.getElem?_modify, if_pos rfl, inner, Option.map_some]
    · rw [Routine.binding, Array.getElem?_modify, if_neg (entered.outer_ne around converters), around]
  foreign := entered.foreign

/-- Only the scopes matter to what has been entered. -/
theorem Entered.ofScopes (entered : Entered converter here bound values world) (same : after.scopes = world.scopes) :
    Entered converter here bound values after :=
  ⟨same ▸ entered.scopes, entered.foreign⟩

/-- A name of the scope around a call has a value. -/
theorem Entered.nameIn_outer (entered : Entered converter here bound values world) {name : Text}
    (foreign : bound.contains name = false)
    (found : ∀ scope, Converters converter scope → scope.names.contains name ∧ scope.values.lookup name = some value) :
    nameIn here name world = .done value world := by
  obtain ⟨outer, scope, inner, around, converters⟩ := entered.scopes
  obtain ⟨member, there⟩ := found scope converters
  have inside : here.scope < world.scopes.size := by
    by_contra outside
    rw [Array.getElem?_eq_none (Nat.le_of_not_lt outside)] at inner
    cases inner
  have owner : world.ownerOf? name world.scopes.size outer = some scope := by
    obtain ⟨steps, size⟩ := Nat.exists_eq_add_of_lt inside
    rw [size, World.ownerOf?, around]
    exact if_pos member
  have known : world.valueOf here name = .ok value := by
    have apart : Option.filter (fun own : Scope => own.names.contains name)
        (some ⟨bound, values, some outer⟩) = none := by
      rw [Option.filter_some, if_neg (by rw [foreign]; exact Bool.false_ne_true)]
    rw [World.valueOf, inner, apart]
    dsimp only [Option.bind_some]
    rw [owner]
    dsimp only
    rw [there]
  rw [nameIn, world_bind, known]
  rfl

/-- Assigning to a name of the running call. -/
theorem run_assign {rounds line : Nat} {name : Text} {code : Expr} {between : World}
    (found : evaluate call here code world = .done value between) :
    run call rounds here (.assign line [.name name] code) world = .done .proceed (binding here name value between) := by
  rw [run, bind_done found]
  rfl

theorem runBlock_proceed {rounds : Nat} {statement : Stmt}
    (ran : run call rounds here statement world = .done .proceed after)
    (statements : List Stmt) :
    runBlock call rounds here (statement :: statements) world = runBlock call rounds here statements after := by
  rw [runBlock, bind_done ran]

/-- The values of a routine's own names behind its first statements, with the list of its output at an address. -/
def ownValues (converter : Value) (list identity : Nat) : List (Text × Value) :=
  [(escapeName, converter), (textName, .builtin .text), (bufferName, .object list),
    (appendName, .method identity (.object list) "append")]

/-- The world behind the first statements of a routine: there is a list for the output, and the routine's own names are
bound. -/
def prepared (converter : Value) (here : Activation) (world : World) : World :=
  let own := ownValues converter world.objects.size (world.identities + 1)
  { world with
    objects := world.objects.push (.list #[]),
    identities := world.identities + 1,
    scopes := world.scopes.modify here.scope fun scope => { scope with values := scope.values ++ own } }

theorem slotOf?_append {address : Nat} {items : Array Value} (found : world.objects[address]? = some (.list items)) :
    world.slotOf? (.object address) "append" = some (.operation (.object address) "append") := by
  have slots : world.ownSlots (.object address) = [] := by rw [World.ownSlots, found]
  have operations : world.operationsOf (.object address) = ["append".toList] := by rw [World.operationsOf, found]
  rw [World.slotOf?, slots, operations]
  rfl

theorem putEntry_own {values : List (Text × Value)} (fresh : ∀ entry ∈ values, isOwnName entry.1 = false)
    (list identity : Nat) :
    putEntry appendName (.method identity (.object list) "append") (putEntry bufferName (.object list)
      (putEntry textName (.builtin .text) (putEntry escapeName converter values))) =
        values ++ ownValues converter list identity := by
  have apart {name : Text} (owned : isOwnName name = true) : ∀ entry ∈ values, entry.1 ≠ name := by
    rintro entry inside rfl
    cases owned.symm.trans (fresh entry inside)
  have behind {name : Text} (owned : isOwnName name = true) {entries : List (Text × Value)}
      (others : name ∉ entries.map Prod.fst) : ∀ entry ∈ values ++ entries, entry.1 ≠ name := by
    rintro entry inside rfl
    rcases List.mem_append.mp inside with earlier | later
    · exact apart owned entry earlier rfl
    · exact others (List.mem_map_of_mem later)
  have second : ∀ entry ∈ values ++ [(escapeName, converter)], entry.1 ≠ textName :=
    behind (by decide) (by decide : textName ∉ [escapeName])
  have third : ∀ entry ∈ values ++ [(escapeName, converter), (textName, .builtin .text)],
      entry.1 ≠ bufferName := behind owned_bufferName (by decide : bufferName ∉ [escapeName, textName])
  have fourth : ∀ entry ∈ values ++ [(escapeName, converter), (textName, .builtin .text),
      (bufferName, .object list)], entry.1 ≠ appendName :=
    behind owned_appendName (by decide : appendName ∉ [escapeName, textName, bufferName])
  rw [putEntry_fresh (apart (by decide)), putEntry_fresh second, List.append_assoc, List.singleton_append,
    putEntry_fresh third, List.append_assoc, List.cons_append, List.singleton_append, putEntry_fresh fourth,
    List.append_assoc]
  rfl

/-- Binding the routine's own names one behind the other. -/
theorem bindings_prepared {outer : Option Nat} (inner : world.scopes[here.scope]? = some ⟨bound, values, outer⟩)
    (fresh : ∀ entry ∈ values, isOwnName entry.1 = false) :
    let second := binding here textName (.builtin .text) (binding here escapeName converter world)
    let third := binding here bufferName (.object second.objects.size)
      { second with objects := second.objects.push (.list #[]) }
    binding here appendName (.method (third.identities + 1) (.object second.objects.size) "append")
      { third with identities := third.identities + 1 } = prepared converter here world := by
  simp only [binding, prepared, World.mk.injEq, true_and, and_true]
  apply Array.ext_getElem?
  intro place
  simp only [Array.getElem?_modify]
  by_cases same : here.scope = place
  · subst same
    simp only [if_pos, inner, Option.map_some]
    rw [putEntry_own fresh]
  · simp only [if_neg same]

/-- Behind the first statements, the routine's names are bound and the list of its output is empty. -/
theorem run_preparing (rounds : Nat) (entered : Entered converter here bound values world)
    (own : ∀ name ∈ [escapeName, textName, bufferName, appendName], bound.contains name)
    (fresh : ∀ entry ∈ values, isOwnName entry.1 = false) (statements : List Stmt) :
    runBlock call rounds here (preparing ++ statements) world =
      runBlock call rounds here statements (prepared converter here world) := by
  have first : evaluate call here (.name 3 escapeParameter) world = .done converter world :=
    evaluate_own (by decide) (entered.nameIn_outer (entered.foreign _ (by simp))
      fun scope converters => ⟨converters.belong _ (by simp), converters.escape⟩)
  have one := entered.binding escapeName converter
  have second : evaluate call here (.name 4 textParameter) (binding here escapeName converter world) =
      .done (.builtin .text) (binding here escapeName converter world) :=
    evaluate_own (by decide) (one.nameIn_outer (entered.foreign _ (by simp))
      fun scope converters => ⟨converters.belong _ (by simp), converters.text⟩)
  have two := one.binding textName (.builtin .text)
  generalize madeTwo : binding here textName (.builtin .text) (binding here escapeName converter world) =
    worldTwo at two
  have third : evaluate call here (.list []) worldTwo =
      .done (.object worldTwo.objects.size) { worldTwo with objects := worldTwo.objects.push (.list #[]) } := rfl
  have three : Entered converter here bound _ { worldTwo with objects := worldTwo.objects.push (.list #[]) } :=
    two.ofScopes rfl
  have three := three.binding bufferName (.object worldTwo.objects.size)
  generalize madeThree : binding here bufferName (.object worldTwo.objects.size)
    { worldTwo with objects := worldTwo.objects.push (.list #[]) } = worldThree at three
  have fourth : evaluate call here (.attribute 6 (.name 6 bufferName) "append") worldThree = .done
      (.method (worldThree.identities + 1) (.object worldTwo.objects.size) "append")
      { worldThree with identities := worldThree.identities + 1 } := by
    obtain ⟨outer, scope, inner, -, -⟩ := three.scopes
    have named : evaluate call here (.name 6 bufferName) worldThree = .done
        (.object worldTwo.objects.size) worldThree :=
      evaluate_own owned_bufferName (nameIn_bound inner (own bufferName (by simp)) (lookup_putEntry _ _ _))
    rw [evaluate, bind_done named]
    have there : worldThree.objects[worldTwo.objects.size]? = some (.list #[]) := by
      rw [← madeThree]
      exact Array.getElem?_push_size
    exact located_done (attributeAt_of_operation (slotOf?_append there))
  rw [preparing, List.cons_append, List.cons_append, List.cons_append, List.cons_append, List.nil_append,
    runBlock_proceed (run_assign first), runBlock_proceed (run_assign second), madeTwo,
    runBlock_proceed (run_assign third), madeThree, runBlock_proceed (run_assign fourth)]
  subst madeThree madeTwo
  obtain ⟨outer, scope, inner, -, -⟩ := entered.scopes
  exact congrArg (runBlock call rounds here statements) (bindings_prepared inner fresh)

/-- The routine's own names are bound in the world behind its first statements. -/
theorem holding_prepared (escape : Bool) (entered : Entered (.builtin .escape) here bound values world)
    (own : ∀ name ∈ [escapeName, textName, bufferName, appendName], bound.contains name)
    (fresh : ∀ entry ∈ values, isOwnName entry.1 = false) :
    Holding ⟨world.objects.size, here.scope⟩ escape bound [] (prepared (.builtin .escape) here world) where
  buffer := Array.getElem?_push_size
  names := by
    obtain ⟨outer, scope, inner, -, -⟩ := entered.scopes
    have found {name : Text} (owned : isOwnName name = true) (more : List (Text × Value)) :
        (values ++ more).lookup name = more.lookup name := by
      rw [List.lookup_append]
      have absent : values.lookup name = none := by
        rw [List.lookup_eq_none_iff]
        intro entry inside
        refine bne_iff_ne.mpr fun same => ?_
        rw [same, fresh entry inside] at owned
        cases owned
      rw [absent, Option.none_or]
    refine ⟨⟨bound, values ++ ownValues (.builtin .escape) world.objects.size (world.identities + 1), some outer⟩, ?_, rfl, ?_, ?_, ?_,
      world.identities + 1, ?_⟩
    · rw [prepared, Array.getElem?_modify, if_pos rfl, inner, Option.map_some]
    · intro name member
      rcases List.mem_cons.mp member with rfl | member
      · cases escape
        · exact own textName (by simp)
        · exact own escapeName (by simp)
      · rcases List.mem_cons.mp member with rfl | member
        · exact own appendName (by simp)
        · obtain rfl := List.mem_singleton.mp member
          exact own bufferName (by simp)
    · cases escape
      · exact (found (by decide) _).trans rfl
      · exact (found (by decide) _).trans rfl
    · exact (found owned_bufferName _).trans rfl
    · exact (found owned_appendName _).trans rfl

/-! ## The last statement -/

/-- Values that are all texts can be joined. -/
theorem joinTexts_done {items : List Value} {text : Text} (found : outputOf? items = some text) (position : Nat)
    (world : World) : ∃ texts, joinTexts position items world = .done texts world ∧ Text.join [] texts = text := by
  induction items generalizing text position with
  | nil =>
      cases found
      exact ⟨[], rfl, rfl⟩
  | cons item items ih =>
      cases item with
      | text identity trusted content =>
          obtain ⟨more, behind, rfl⟩ := Option.map_eq_some_iff.mp found
          obtain ⟨texts, joined, same⟩ := ih behind (position + 1)
          refine ⟨content :: texts, ?_, ?_⟩
          · rw [joinTexts, bind_done joined]
            rfl
          · cases texts with
            | nil =>
                cases same
                exact (List.append_nil content).symm
            | cons next texts =>
                rw [Text.join, same, List.append_nil]
                exact List.cons_ne_nil next texts
      | _ => cases found

theorem newText_done (text : Text) (world : World) : ∃ identity count,
    newText text world = .done (.text identity false text) { world with identities := count } ∧
      world.identities ≤ count := by
  have made (shared : Bool) : ∃ identity count,
      (if shared then pure (.text 0 false text) else newIdentity >>= fun identity => pure (.text identity false text) :
        Effect Value) world = .done (.text identity false text) { world with identities := count } ∧
          world.identities ≤ count := by
    cases shared
    · exact ⟨world.identities + 1, world.identities + 1, rfl, Nat.le_succ _⟩
    · exact ⟨0, world.identities, rfl, le_rfl⟩
  exact made _

/-- Whether an error says, in words, that a value has the wrong type, and reports nothing yet. -/
def Complains (error : Nat) (world : World) : Prop :=
  ∃ char rest lines, isBlank char = false ∧
    world.incident? error = some ⟨.typing, [.plain (char :: rest)], [], none, lines, none⟩

theorem raiseAbout_complains {α : Type} {char : Char} (shown : isBlank char = false) (value : Value) (lead tail : Text)
    (world : World) : ∃ error after,
      (raiseAbout value (char :: lead) tail : Effect α) world = .failed error after ∧ Complains error after :=
  ⟨_, _, rfl, char, _, [], shown, by rw [World.incident?, Array.getElem?_push_size]; rfl⟩

/-- Values that are not all texts cannot be joined. -/
theorem joinTexts_failed {items : List Value} (found : outputOf? items = none) (position : Nat) (world : World) :
    ∃ error after, joinTexts position items world = .failed error after ∧ Complains error after := by
  induction items generalizing position with
  | nil => cases found
  | cons item items ih =>
      cases item with
      | text identity trusted content =>
          obtain ⟨error, after, failed, complains⟩ := ih (Option.map_eq_none_iff.mp found) (position + 1)
          exact ⟨error, after, bind_failed failed, complains⟩
      | _ => exact raiseAbout_complains (by decide : isBlank 's' = false) _ _ _ _

theorem valuesIn?_list {address : Nat} {items : List Value}
    (there : world.objects[address]? = some (.list items.toArray)) (call : Caller) :
    valuesIn? call (.object address) world = .done (some items) world := by
  have known : world.valuesOf? (.object address) = some items := by
    rw [World.valuesOf?, there]
  rw [valuesIn?, world_bind, known]
  rfl

/-- Joining the texts of a list puts them together, and nothing but identities is used up. -/
theorem join_list {address : Nat} {items : List Value} {text : Text} (output : outputOf? items = some text)
    (there : world.objects[address]? = some (.list items.toArray)) (call : Caller) :
    ∃ identity count, callOnText call [] "join" [.object address] world =
      .done (.text identity false text) { world with identities := count } ∧ world.identities ≤ count := by
  have values := valuesIn?_list there call
  obtain ⟨texts, found, same⟩ := joinTexts_done output 0 world
  have many (joined : callOnText call [] "join" [.object address] world =
      (joinTexts 0 items >>= fun texts => newText (Text.join [] texts)) world) :
      ∃ identity count, callOnText call [] "join" [.object address] world =
        .done (.text identity false text) { world with identities := count } ∧ world.identities ≤ count := by
    rw [joined, bind_done found, same]
    exact newText_done text world
  -- A single text that is not trusted is given back as it is.
  cases items with
  | nil => exact many (bind_done values)
  | cons item rest =>
      cases item with
      | text own trusted single =>
          cases trusted with
          | true => exact many (bind_done values)
          | false =>
              cases rest with
              | cons next rest => exact many (bind_done values)
              | nil =>
                  obtain rfl : single = text := (List.append_nil single).symm.trans (Option.some.inj output)
                  exact ⟨own, world.identities, bind_done values, le_rfl⟩
      | _ => cases output

/-- Joining a list fails when it holds anything but texts. -/
theorem join_list_failed {address : Nat} {items : List Value} (output : outputOf? items = none)
    (there : world.objects[address]? = some (.list items.toArray)) (call : Caller) : ∃ error after,
      callOnText call [] "join" [.object address] world = .failed error after ∧ Complains error after := by
  have values := valuesIn?_list there call
  obtain ⟨error, after, failed, complains⟩ := joinTexts_failed output 0 world
  have many (joined : callOnText call [] "join" [.object address] world =
      (joinTexts 0 items >>= fun texts => newText (Text.join [] texts)) world) :
      ∃ error after, callOnText call [] "join" [.object address] world = .failed error after ∧ Complains error after :=
    ⟨error, after, joined.trans (bind_failed failed), complains⟩
  cases items with
  | nil => cases output
  | cons item rest =>
      cases item with
      | text own trusted single =>
          cases trusted with
          | true => exact many (bind_done values)
          | false =>
              cases rest with
              | cons next rest => exact many (bind_done values)
              | nil => cases output
      | _ => exact many (bind_done values)

/-- The statement that returns joins the buffer; the operation that joins is made before the buffer is read. -/
theorem run_joining {scope : Scope} {list : Nat} (there : world.scopes[here.scope]? = some scope)
    (belongs : scope.names.contains bufferName) (buffer : scope.values.lookup bufferName = some (.object list))
    {inner : Caller} (joins : call (.method (world.identities + 1) (.text 0 false []) "join") [.object list] =
      callOnText inner [] "join" [.object list]) (rounds line : Nat) :
    run call rounds here (returning line) world =
      (located here line (callOnText inner [] "join" [.object list]) >>= fun value =>
        pure (.finish value)) { world with identities := world.identities + 1 } := by
  let between : World := { world with identities := world.identities + 1 }
  have operation : evaluate call here (.attribute line (.constant (.text [])) "join") world =
      .done (.method (world.identities + 1) (.text 0 false []) "join") between := by
    have slot : world.slotOf? (.text 0 false []) "join" = some (.operation (.text 0 false []) "join") := rfl
    rw [evaluate, evaluate]
    exact located_done (attributeAt_of_operation slot)
  have there : between.scopes[here.scope]? = some scope := there
  have own : evaluate call here (.name line bufferName) between = .done (.object list) between :=
    evaluate_own owned_bufferName (nameIn_bound there belongs buffer)
  have arguments : evaluateAll call here [.name line bufferName] between = .done [.object list] between := by
    rw [evaluateAll, bind_done own]
    rfl
  have called : evaluate call here (.call line (.attribute line (.constant (.text [])) "join") [.name line bufferName])
      world = located here line (callOnText inner [] "join" [.object list]) between := by
    rw [evaluate, bind_done operation, bind_done arguments, joins]
  rw [returning, run]
  show (evaluate _ _ _ >>= fun value => pure (Flow.finish value)) world = _
  exact bind_congr called _

/-- The statement that returns gives back what the texts of a list make together. -/
theorem run_returning_of {list : Nat} {items : List Value} {text : Text} (output : outputOf? items = some text)
    (gathered : world.objects[list]? = some (.list items.toArray)) {inner : Caller} {line rounds : Nat}
    (joining : run call rounds here (returning line) world =
      (located here line (callOnText inner [] "join" [.object list]) >>= fun value =>
        pure (.finish value)) { world with identities := world.identities + 1 }) :
    ∃ identity count, run call rounds here (returning line) world =
      .done (.finish (.text identity false text)) { world with identities := count } ∧ world.identities ≤ count := by
  have there : ({ world with identities := world.identities + 1 } : World).objects[list]? = some (.list items.toArray) :=
    gathered
  obtain ⟨identity, count, joined, more⟩ := join_list output there inner
  refine ⟨identity, count, ?_, (Nat.le_succ _).trans more⟩
  rw [joining, bind_done (located_done joined)]
  rfl

section Returning

variable {veil : Veil} {escape : Bool} {items : List Value} (own : here.scope = veil.scope)
  (holding : Holding veil escape bound items world)
include own holding

theorem run_joining_held (steps depth rounds line : Nat) : run (callWithin steps (depth + 1)) rounds here (returning line) world =
    (located here line (callOnText (callWithin steps depth) [] "join" [.object veil.list]) >>= fun value =>
      pure (.finish value)) { world with identities := world.identities + 1 } := by
  obtain ⟨scope, there, owns⟩ := holding.names
  exact run_joining (own ▸ there) (owns.names ▸ owns.belong bufferName (by simp)) owns.buffer rfl rounds line

/-- The statement that returns gives back what the gathered texts make together. -/
theorem run_returning {text : Text} (output : outputOf? items = some text) (steps depth rounds line : Nat) :
    ∃ identity count, run (callWithin steps (depth + 1)) rounds here (returning line) world =
      .done (.finish (.text identity false text)) { world with identities := count } := by
  obtain ⟨identity, count, returned, -⟩ :=
    run_returning_of output holding.buffer (run_joining_held own holding steps depth rounds line)
  exact ⟨identity, count, returned⟩

/-- The statement that returns fails when anything but texts was gathered. -/
theorem run_returning_failed (output : outputOf? items = none) (steps depth rounds line : Nat) : ∃ error after,
    run (callWithin steps (depth + 1)) rounds here (returning line) world = .failed error after ∧
      Complains error after := by
  have gathered : ({ world with identities := world.identities + 1 } : World).objects[veil.list]? =
      some (.list items.toArray) := holding.buffer
  obtain ⟨error, after, failed, complains⟩ := join_list_failed output gathered (callWithin steps depth)
  obtain ⟨char, rest, lines, shown, found⟩ := complains
  refine ⟨error, _, (run_joining_held own holding steps depth rounds line).trans (bind_failed (located_failed failed)),
    char, rest, ⟨here.file, line⟩ :: lines, shown, ?_⟩
  rw [incident?_changeIncident, found]
  rfl

end Returning

/-! ## Whole calls -/

/-- Whether a template of a world has its routine as a function there, with the converters in the scope around it. -/
structure Standing (template : Template) (number : Nat) (world : World) : Prop where
  listed : world.templates[number]? = some template
  function : ∃ outer globals attributes, world.objects[template.function]? = some (.function
      ⟨routineName, ["self"], template.routine.body, outer, template.routine.file, globals⟩ attributes) ∧
    ∃ scope, world.scopes[outer]? = some scope ∧ Converters (.builtin .escape) scope

/-- Compiling a source without a decision about escaping is compiling it with the decision of the policy. -/
theorem compile_decided (environment : Environment) (source : TemplateSource) (decision : Option Bool) (globals : Nat)
    (world : World) : ∃ escape, (∀ given, decision = some given → escape = given) ∧
      compile environment source decision globals world = compile environment source (some escape) globals world := by
  cases decision with
  | some escape => exact ⟨escape, fun _ same => Option.some.inj same, rfl⟩
  | none =>
      let policy := (world.policies[environment.policy]?).getD .standard
      exact ⟨policy.escapes source.contentType, fun _ absent => absurd absent (Option.some_ne_none _).symm, rfl⟩

theorem modify_push_self {α : Type} (xs : Array α) (x : α) (f : α → α) :
    (xs.push x).modify xs.size f = xs.push (f x) := by
  apply Array.ext_getElem?
  intro place
  rw [Array.getElem?_modify, Array.getElem?_push, Array.getElem?_push]
  by_cases same : xs.size = place
  · rw [if_pos same, if_pos same.symm, if_pos same.symm, Option.map_some]
  · rw [if_neg same, if_neg (Ne.symm same), if_neg (Ne.symm same)]

/-- The scope that holds the converters of a template whose routine is a certain function. -/
def scopeAround (function : Nat) : Scope :=
  ⟨[escapeParameter, textParameter, renderName],
    [(escapeParameter, .builtin .escape), (textParameter, .builtin .text), (renderName, .object function)], none⟩

/-- The world in which a source was compiled: its routine is a function, and there is a template of it. -/
def installed (source : TemplateSource) (escape : Bool) (routine : Routine) (globals : Nat) (world : World) : World :=
  { world with
    scopes := world.scopes.push (scopeAround world.objects.size)
    objects := world.objects.push (.function
      ⟨routineName, ["self"], routine.body, world.scopes.size, routine.file, globals⟩ [])
    templates := world.templates.push ⟨source, escape, routine, world.objects.size⟩ }

/-- Installing a routine makes a template of it. -/
theorem install_installed (source : TemplateSource) (escape : Bool) (routine : Routine) (globals : Nat)
    (world : World) :
    install source escape globals routine world =
      .done world.templates.size (installed source escape routine globals world) := by
  have scopes : (world.scopes.push ⟨[escapeParameter, textParameter, renderName],
      [(escapeParameter, .builtin .escape), (textParameter, .builtin .text)], none⟩).modify world.scopes.size
        (fun found => { found with values := putEntry renderName (.object world.objects.size) found.values }) =
      world.scopes.push (scopeAround world.objects.size) := modify_push_self _ _ _
  rw [installed, ← scopes]
  rfl

/-- What is left of compiling a source when its routine is written. -/
theorem compile_installed {environment : Environment} {source : TemplateSource} {escape : Bool} {routine : Routine}
    (accepted : source.routine environment.marker escape = .ok routine) (globals : Nat) (world : World) :
    compile environment source (some escape) globals world =
      .done world.templates.size (installed source escape routine globals world) := by
  have policy : policyOf environment world = .done ((world.policies[environment.policy]?).getD .standard) world := rfl
  rw [compile, bind_done policy]
  dsimp only [Option.getD_some]
  rw [accepted]
  exact install_installed source escape routine globals world

theorem compile_refused {environment : Environment} {source : TemplateSource} {escape : Bool} {error : CompileError}
    (refused : source.routine environment.marker escape = .error error) (globals : Nat) (world : World) :
    compile environment source (some escape) globals world = raiseCompileError source.origin error world := by
  have policy : policyOf environment world = .done ((world.policies[environment.policy]?).getD .standard) world := rfl
  rw [compile, bind_done policy]
  dsimp only [Option.getD_some]
  rw [refused]

theorem standing_installed (source : TemplateSource) (escape : Bool) (routine : Routine) (globals : Nat)
    (world : World) :
    Standing ⟨source, escape, routine, world.objects.size⟩ world.templates.size
      (installed source escape routine globals world) where
  listed := Array.getElem?_push_size
  function := by
    refine ⟨world.scopes.size, globals, [], Array.getElem?_push_size, scopeAround world.objects.size,
      Array.getElem?_push_size, ?_, rfl, rfl⟩
    exact (by decide : ∀ name ∈ [escapeParameter, textParameter],
      [escapeParameter, textParameter, renderName].contains name)

/-- The names of the scope of a call of a routine. -/
def namesOfCall (body : List Stmt) : List Text := ["self".toList] ++ boundByBlock body

/-- The call of a template's routine that begins next in a world. -/
def callOf (template : Template) (globals : Nat) (world : World) : Activation :=
  ⟨routineName, template.routine.file, world.scopes.size, globals⟩

/-- The world in which a call with a context has begun. -/
def begun (names : List Text) (outer : Nat) (context : Value) (world : World) : World :=
  { world with scopes := world.scopes.push ⟨names, [("self", context)], some outer⟩ }

/-- When a call has begun, its scope has the context, and the converters are in the scope around it. -/
theorem entered_begun (template : Template) (globals : Nat) {names : List Text} {outer : Nat} {scope : Scope}
    (foreign : ∀ name ∈ [escapeParameter, textParameter], names.contains name = false)
    (there : world.scopes[outer]? = some scope) (converters : Converters converter scope) (context : Value) :
    Entered converter (callOf template globals world) names [("self", context)] (begun names outer context world) where
  foreign := foreign
  scopes := by
    have earlier : outer < world.scopes.size := (Array.getElem?_eq_some_iff.mp there).1
    refine ⟨outer, scope, Array.getElem?_push_size, ?_, converters⟩
    rw [begun, Array.getElem?_push_lt earlier, ← Array.getElem?_eq_getElem earlier]
    exact there

/-- A call of a template's function runs the statements of the routine in a scope of their own. -/
theorem callStep_function {template : Template} {outer globals : Nat} {attributes : List (Text × Value)}
    (function : world.objects[template.function]? = some (.function
      ⟨routineName, ["self"], template.routine.body, outer, template.routine.file, globals⟩ attributes))
    (call : Caller) (steps : Nat) (context : Value) :
    callStep call steps (.object template.function) [context] world = (do
      match ← runBlock call steps (callOf template globals world) template.routine.body with
      | .finish value => return value
      | _ => return .none : Effect Value) (begun (namesOfCall template.routine.body) outer context world) := by
  rw [callStep, world_bind]
  dsimp only
  rw [function]
  rfl

theorem call_function {template : Template} {outer globals : Nat} {attributes : List (Text × Value)}
    (function : world.objects[template.function]? = some (.function
      ⟨routineName, ["self"], template.routine.body, outer, template.routine.file, globals⟩ attributes))
    (steps depth : Nat) (context : Value) :
    callWithin steps (depth + 1) (.object template.function) [context] world = (do
      match ← runBlock (callWithin steps depth) steps (callOf template globals world) template.routine.body with
      | .finish value => return value
      | _ => return .none : Effect Value) (begun (namesOfCall template.routine.body) outer context world) :=
  callStep_function function (callWithin steps depth) steps context

/-- Rendering runs the statements of the routine in a scope of their own. -/
theorem render_standing {template : Template} {number : Nat} (standing : Standing template number world)
    (foreign : ∀ name ∈ [escapeParameter, textParameter], (namesOfCall template.routine.body).contains name = false)
    (steps depth : Nat) (context : Value) : ∃ outer globals attributes,
      world.objects[template.function]? = some (.function
        ⟨routineName, ["self"], template.routine.body, outer, template.routine.file, globals⟩ attributes) ∧
      outer < world.scopes.size ∧
      Entered (.builtin .escape) (callOf template globals world) (namesOfCall template.routine.body) [("self", context)]
        (begun (namesOfCall template.routine.body) outer context world) ∧
      render (callWithin steps (depth + 1)) number context world =
        recover (do
          match ← runBlock (callWithin steps depth) steps (callOf template globals world) template.routine.body with
          | .finish value => return value
          | _ => return .none) (explain (callWithin steps (depth + 1)) template)
          (begun (namesOfCall template.routine.body) outer context world) := by
  obtain ⟨outer, globals, attributes, function, around, there, converters⟩ := standing.function
  refine ⟨outer, globals, attributes, function, (Array.getElem?_eq_some_iff.mp there).1,
    entered_begun template globals foreign there converters context, ?_⟩
  rw [render, world_bind, standing.listed]
  exact recover_congr (call_function function steps depth context) _

end Routine
end Stencil
