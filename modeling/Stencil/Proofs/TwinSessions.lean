import Stencil.Proofs.QuietEffects
import Stencil.Proofs.TwinCalls

/-!
# Sessions in two worlds that are alike

The same values can be described in worlds that are alike, and what they become is described alike; so the same
requests get the same answers.
-/

namespace Stencil

open Effect Manners

/-- Whether two worlds differ at most in what scripts cannot change. -/
structure World.SameStores (world after : World) : Prop where
  objects : after.objects = world.objects
  scopes : after.scopes = world.scopes
  templates : after.templates = world.templates
  identities : after.identities = world.identities
  handled : after.handled = world.handled

/-- Whether the templates that a session has named belong together. -/
def Bond.Lists (bond : Bond) (registry : Registry) : Prop :=
  ∀ (id : Text) (number : Nat), registry.templates.lookup id = some number → bond.templates number number

theorem Bond.Lists.mono {bond bond' : Bond} {registry : Registry} (lists : bond.Lists registry) (grown : bond ≤ bond') :
    bond'.Lists registry :=
  fun id number found => grown.templates (lists id number found)

namespace Terms

variable {terms : Terms} {bond : Bond} {world world' : World} {α : Type} {good : Bond → α → α → Prop}
  {value value' : Value} {registry : Registry}

/-! ## Building what sketches describe -/

theorem twin_found (id : Text) (entries : List (Text × α)) :
    terms.Twin bond Equal (found id entries) (found id entries) := by
  unfold found
  split
  · exact twin_equal _
  · exact twin_raise _ (.cons (.plain id) .nil)

theorem twin_listed (lists : bond.Lists registry) (id : Text) :
    terms.Twin bond Bond.templates (found id registry.templates) (found id registry.templates) := by
  unfold found
  split
  · rename_i number found
    exact twin_pure fun _ grown => grown.templates (lists _ _ found)
  · exact twin_raise _ (.cons (.plain id) .nil)

theorem settled_same {slot slot' : Slot} (same : terms.SameSlot bond slot slot') :
    terms.Same bond slot.settled slot'.settled := by
  cases same with
  | value same => exact same
  | operation | failing => exact .none

/-- Whether what is read off a list of attributes is the same. -/
abbrev AllSlots (terms : Terms) (bond : Bond) : List Slot → List Slot → Prop := List.Forall₂ (terms.SameSlot bond)

theorem allSettled_same {slots slots' : List Slot} (each : terms.AllSlots bond slots slots') :
    terms.Sames bond (slots.map Slot.settled) (slots'.map Slot.settled) :=
  List.forall₂_map_left_iff.mpr (List.forall₂_map_right_iff.mpr (each.imp fun _ _ => settled_same))

theorem twin_slotValue {action action' : Effect Value} (twin : terms.Twin bond terms.Same action action') :
    terms.Twin bond terms.SameSlot (do return .value (← action)) (do return .value (← action')) :=
  twin.bind fun _ _ _ _ same => twin_pure fun _ grown => .value (same.mono grown)

theorem twin_slotObject {object object' : Object} (same : terms.SameObject bond object object') :
    terms.Twin bond terms.SameSlot (do return .value (.object (← allocate object)))
      (do return .value (.object (← allocate object'))) :=
  (twin_allocate same).bind fun _ _ _ _ pair => twin_pure fun _ grown => .value (.object (grown.objects pair))

mutual

/-- Building what a sketch describes makes the same in worlds that are alike. -/
theorem twin_slot : ∀ (sketch : Sketch) {bond : Bond}, bond.Lists registry →
    terms.Twin bond terms.SameSlot (sketch.slot registry) (sketch.slot registry)
  | .none, _, _ => twin_pure fun _ _ => .value .none
  | .bool value, _, _ => twin_pure fun _ _ => .value (.bool value)
  | .int value, _, _ => by
    rw [Sketch.slot]
    exact twin_slotValue (twin_newInt value)
  | .text true content, _, _ => by
    rw [Sketch.slot]
    exact twin_slotValue (twin_newMarkup content)
  | .text false content, _, _ => by
    rw [Sketch.slot]
    exact twin_slotValue (twin_newText content)
  | .list items, _, lists => by
    rw [Sketch.slot]
    exact (twin_slots items lists).bind fun _ _ _ _ each => twin_slotValue (twin_newList (allSettled_same each))
  | .tuple items, _, lists => by
    rw [Sketch.slot]
    exact (twin_slots items lists).bind fun _ _ _ _ each => twin_slotValue (twin_newTuple (allSettled_same each))
  | .dict entries, _, lists => by
    rw [Sketch.slot]
    exact (twin_pairs entries lists).bind fun _ _ _ _ each => twin_slotValue (twin_newDict each)
  | .context attributes, _, lists => by
    rw [Sketch.slot]
    exact (twin_namedSlots attributes lists).bind fun _ _ _ _ each => twin_slotObject (.context each)
  | .guest none shown, _, lists => by
    rw [Sketch.slot]
    exact (twin_slot shown lists).bind fun _ _ _ _ same => twin_slotObject (.guest .none same .nil)
  | .guest (some html) shown, _, lists => by
    rw [Sketch.slot]
    refine (twin_slot html lists).bind fun _ grown _ _ trusted => ?_
    exact (twin_slot shown (lists.mono grown)).bind fun _ more _ _ same =>
      twin_slotObject (.guest (.some (trusted.mono more)) same .nil)
  | .member className attributes, _, lists => by
    rw [Sketch.slot]
    refine (twin_found className registry.classes).bind fun _ grown owner _ equal => ?_
    subst equal
    exact (twin_namedSlots attributes (lists.mono grown)).bind fun _ _ _ _ each => twin_slotObject (.member owner each)
  | .template id, _, lists => by
    rw [Sketch.slot]
    exact (twin_listed lists id).bind fun _ _ _ _ pair => twin_pure fun _ grown => .value (.template (grown.templates pair))
  | .failing kind arguments, _, lists => by
    rw [Sketch.slot]
    exact (twin_slots arguments lists).bind fun _ _ _ _ each =>
      twin_pure fun _ grown => .failing kind (Sames.mono grown (allSettled_same each))

theorem twin_slots : ∀ (sketches : List Sketch) {bond : Bond}, bond.Lists registry →
    terms.Twin bond terms.AllSlots (Sketch.slots registry sketches) (Sketch.slots registry sketches)
  | [], _, _ => twin_pure fun _ _ => .nil
  | sketch :: sketches, _, lists => by
    rw [Sketch.slots]
    exact (twin_slot sketch lists).bind fun _ grown _ _ same =>
      (twin_slots sketches (lists.mono grown)).bind fun _ more _ _ each => twin_pure fun _ last =>
        .cons ((same.mono more).mono last) (each.imp fun _ _ same => same.mono last)

theorem twin_pairs : ∀ (entries : List (Sketch × Sketch)) {bond : Bond}, bond.Lists registry →
    terms.Twin bond terms.SamePairs (Sketch.pairs registry entries) (Sketch.pairs registry entries)
  | [], _, _ => twin_pure fun _ _ => .nil
  | (key, content) :: entries, _, lists => by
    rw [Sketch.pairs]
    refine (twin_slot key lists).bind fun _ grown _ _ first =>
      (twin_slot content (lists.mono grown)).bind fun _ more _ _ second => ?_
    exact (twin_pairs entries (lists.mono (grown.trans more))).bind fun _ yet _ _ each => twin_pure fun _ last =>
      .cons ⟨(settled_same first).mono (more.trans (yet.trans last)), (settled_same second).mono (yet.trans last)⟩
        (SamePairs.mono last each)

theorem twin_namedSlots : ∀ (attributes : List (Text × Sketch)) {bond : Bond}, bond.Lists registry →
    terms.Twin bond terms.SameSlots (Sketch.namedSlots registry attributes) (Sketch.namedSlots registry attributes)
  | [], _, _ => twin_pure fun _ _ => .nil
  | (name, sketch) :: attributes, _, lists => by
    rw [Sketch.namedSlots]
    exact (twin_slot sketch lists).bind fun _ grown _ _ same =>
      (twin_namedSlots attributes (lists.mono grown)).bind fun _ more _ _ each => twin_pure fun _ last =>
        .cons ⟨rfl, (same.mono more).mono last⟩ (SameSlots.mono last each)

end

theorem twin_sketched (lists : bond.Lists registry) (sketch : Sketch) :
    terms.Twin bond terms.Same (sketch.build registry) (sketch.build registry) :=
  (twin_slot sketch lists).bind fun _ _ _ _ same => twin_value (settled_same same)

/-! ## Answering -/

theorem ofValue_same (matched : terms.Matched bond world world') (steps : Nat) :
    ∀ {value value' : Value}, terms.Same bond value value' →
      Sketch.ofValue world' steps value' = Sketch.ofValue world steps value := by
  induction steps with
  | zero => exact fun _ => rfl
  | succ steps ih =>
      intro value value' same
      have all {values values' : List Value} (each : terms.Sames bond values values') :
          values'.map (Sketch.ofValue world' steps) = values.map (Sketch.ofValue world steps) := by
        induction each with
        | nil => rfl
        | cons same _ rest => rw [List.map_cons, List.map_cons, ih same, rest]
      have items := itemsOf?_same matched same
      have entries := entriesOf?_same matched same
      have shown := shownWithin_same matched World.shownDepth .nil same
      have both {found found' : List (Value × Value)} (each : terms.SamePairs bond found found') :
          found'.map (fun entry => (Sketch.ofValue world' steps entry.1, Sketch.ofValue world' steps entry.2)) =
            found.map (fun entry => (Sketch.ofValue world steps entry.1, Sketch.ofValue world steps entry.2)) := by
        induction each with
        | nil => rfl
        | cons same _ rest => rw [List.map_cons, List.map_cons, ih same.1, ih same.2, rest]
      cases same with
      | none | bool | int | text => rfl
      | tuple _ each =>
          unfold Sketch.ofValue
          exact congrArg Sketch.tuple (all (allSame_iff.mp each))
      | _ =>
          unfold Sketch.ofValue
          dsimp only
          generalize World.itemsOf? world _ = found, World.itemsOf? world' _ = found' at items ⊢
          generalize World.entriesOf? world _ = pairs, World.entriesOf? world' _ = pairs' at entries ⊢
          generalize World.shownWithin world _ _ _ = text, World.shownWithin world' _ _ _ = text' at shown ⊢
          subst shown
          cases items with
          | some each => exact congrArg Sketch.list (all each)
          | none =>
              cases entries with
              | some each => exact congrArg Sketch.dict (both each)
              | none => rfl

theorem twin_sketchOf (same : terms.Same bond value value') :
    terms.Twin bond Equal (Session.sketchOf value) (Session.sketchOf value') := by
  refine twin_read fun later grown world world' matched => ?_
  rw [ofValue_same matched _ (same.mono grown)]
  exact twin_equal _

theorem twin_callValue (strict : ¬ terms.guarded) (bond : Bond) {function function' : Value} {arguments arguments' : List Value}
    (same : terms.Same bond function function') (each : terms.Sames bond arguments arguments') :
    terms.Twin bond terms.Same (callValue function arguments) (callValue function' arguments') :=
  (twin_callWithin strict bond loopBound callDepth).1 bond le_rfl same each

theorem twin_failureOf (strict : ¬ terms.guarded) {error error' : Nat} (pair : bond.objects error error') :
    terms.Twin bond Equal (Session.failureOf error) (Session.failureOf error') := by
  refine (twin_callValue strict bond (.builtin .text) (.cons (.object pair) .nil)).bind fun _ grown _ _ said =>
    twin_read fun later more world world' matched => ?_
  have raised := incident?_same matched (more.objects (grown.objects pair))
  rw [contentOf_same said]
  generalize world.incident? error = found, world'.incident? error' = found' at raised ⊢
  cases raised with
  | none => exact twin_equal _
  | some same =>
      dsimp only
      rw [same.kind, same.report, same.cause]
      exact twin_equal _

end Terms

namespace Session

/-- Conversions to text and to markup. -/
inductive Rendering : Query → Prop where
  | render (template : Text) (context : Sketch) : Rendering (.render template context)
  | toText (value : Sketch) : Rendering (.toText value)
  | toMarkup (value : Sketch) : Rendering (.toMarkup value)
  | escape (value : Sketch) : Rendering (.escape value)

/-- Changes of what loaders read, and conversions to text and to markup. -/
inductive Turn : Request → Prop where
  | edit {query : Query} (edit : Edit query) : Turn (.ask query)
  | rendering {query : Query} (rendering : Rendering query) : Turn (.ask query)

theorem fulfil_putSource {registry : Registry} {loader : Text} {found : Loader}
    (named : registry.loaders.lookup loader = some found) (name : Text) (source : Option Text) :
    fulfil registry (.putSource loader name source) =
      match shelfOf? found with
      | some shelf => do
        change fun world => { world with library := world.library.putSource shelf name source }
        return .done
      | none => raiseLacking found "_mapping" := by
  rw [fulfil, Effect.found, named]
  rfl

/-- The session after requests were answered. -/
def after (session : Session) : List Request → Session
  | [] => session
  | request :: requests => (session.step request).2.after requests

theorem run_cons (session : Session) (request : Request) (requests : List Request) :
    session.run (request :: requests) = (session.step request).1 :: (session.step request).2.run requests :=
  rfl

/-- The session before, between and after the answers to requests. -/
def states (session : Session) : List Request → List Session
  | [] => [session]
  | request :: requests => session :: (session.step request).2.states requests

theorem mem_states (session : Session) (requests : List Request) : session ∈ session.states requests := by
  cases requests with
  | nil => exact List.mem_singleton_self session
  | cons => exact List.mem_cons_self

/-- The answer that an action gives in a world, and the world after that; an error is explained. -/
def answered (action : Effect Answer) (world : World) : Answer × World :=
  match action world with
  | .done answer after => (answer, after)
  | .exhausted => (.unfinished, world)
  | .failed error after => match failureOf error after with
    | .done answer after => (answer, after)
    | .failed _ after => (.unfinished, after)
    | .exhausted => (.unfinished, after)

theorem step_ask (session : Session) (query : Query) : session.step (.ask query) =
    ((answered (fulfil session.registry query) session.world).1,
      ⟨(answered (fulfil session.registry query) session.world).2, session.registry⟩) := by
  have answers : answer session.registry (.ask query) session.world =
      match fulfil session.registry query session.world with
      | .done answer world => .done (answer, session.registry) world
      | .failed error world => .failed error world
      | .exhausted => .exhausted := by
    show (fulfil session.registry query >>= fun answer => pure (answer, session.registry)) session.world = _
    rw [Effect.bind_apply]
    cases fulfil session.registry query session.world <;> rfl
  rw [step, answers, answered]
  cases fulfil session.registry query session.world with
  | done answer world => rfl
  | exhausted => rfl
  | failed error world =>
      dsimp only
      cases failureOf error world <;> rfl

end Session

namespace Terms

variable {terms : Terms} {bond : Bond} {world world' after after' : World} {registry : Registry}

/-- Converting to text or to markup does the same in worlds that are alike. -/
theorem twin_rendering (strict : ¬ terms.guarded) (lists : bond.Lists registry) {query : Query} (rendering : Session.Rendering query) :
    terms.Twin bond Equal (Session.fulfil registry query) (Session.fulfil registry query) := by
  have output {later : Bond} {value value' : Value} (same : terms.Same later value value') :
      terms.Twin later Equal (do return .output (← Session.sketchOf value) : Effect Answer)
        (do return .output (← Session.sketchOf value') : Effect Answer) :=
    (twin_sketchOf same).bind fun _ _ sketch _ equal => equal ▸ twin_equal (Answer.output sketch)
  cases rendering with
  | render template context =>
      rw [Session.fulfil]
      cases found : registry.templates.lookup template with
      | none => exact twin_equal _
      | some number =>
          refine (twin_sketched lists context).bind fun later grown value value' same => ?_
          obtain ⟨calls, routines⟩ := twin_callWithin strict later loopBound callDepth
          have pair := later.programs_of_templates (grown.templates (lists _ _ found))
          exact (twin_render calls routines pair same).bind fun _ _ _ _ said => output said
  | toText value | escape value =>
      exact (twin_sketched lists value).bind fun later _ _ _ same =>
        (twin_callValue strict later (.builtin _) (.cons same .nil)).bind fun _ _ _ _ said => output said
  | toMarkup value =>
      refine (twin_sketched lists value).bind fun _ _ _ _ same =>
        (twin_attributeAt same terms.html_read).bind fun later _ _ _ convert =>
          (twin_callValue strict later convert .nil).bind fun _ _ markup markup' said => ?_
      have described : terms.Twin _ Equal _ _ := twin_sketchOf said
      cases said <;> exact described.bind fun _ _ sketch _ equal => equal ▸ twin_equal (Answer.markup sketch _)

/-- Actions that are twins give the same answer. -/
theorem Twin.answered (strict : ¬ terms.guarded) {action action' : Effect Answer} (twin : terms.Twin bond Equal action action')
    (matched : terms.Matched bond world world') :
    (Session.answered action' world').1 = (Session.answered action world).1 ∧ ∃ later,
      terms.Moves bond later world world' (Session.answered action world).2 (Session.answered action' world').2 := by
  have ends := twin bond le_rfl world world' matched
  unfold Session.answered
  generalize action world = outcome, action' world' = outcome' at ends ⊢
  cases ends with
  | done moves equal => exact ⟨equal.symm, _, moves⟩
  | exhausted => exact ⟨rfl, _, matched.rest⟩
  | unfinished guarded => exact absurd guarded strict
  | @failed _ error error' between between' moves pair =>
      have explained := (twin_failureOf strict pair : terms.Twin _ Equal _ _) _ le_rfl _ _ moves.matched
      dsimp only
      generalize Session.failureOf error between = outcome, Session.failureOf error' between' = outcome' at explained ⊢
      cases explained with
      | done more equal => exact ⟨equal.symm, _, moves.trans more⟩
      | failed more => exact ⟨rfl, _, moves.trans more⟩
      | exhausted => exact ⟨rfl, _, moves⟩
      | unfinished guarded => exact absurd guarded strict

/-! ## Turns of a history -/

/-- Worlds that are alike stay so when only what scripts cannot change is changed. -/
theorem Matched.reframed (matched : terms.Matched bond world world') (same : world.SameStores after)
    (same' : world'.SameStores after') (library : after'.library = after.library)
    (known : terms.libraries after.library) (colours : after'.colours = after.colours)
    (namespaces : ∀ number : Nat,
      Option.Rel (terms.SameEntries bond) (after.namespaces[number]?) (after'.namespaces[number]?))
    (size : after'.classes.size = after.classes.size)
    (classes : ∀ number : Nat, Option.Rel (terms.SameRecord bond) (after.classes[number]?) (after'.classes[number]?))
    (found : ∀ {binding : Binding} {number : Nat}, bond.rebuilds binding number →
      after.sourceFor binding = world.sourceFor binding) : terms.Matched bond after after' where
  library := library
  colours := colours
  known := known
  namespaces := namespaces
  size := size
  classes := classes
  handled := by
    rw [same.handled, same'.handled]
    exact matched.handled
  identities pair := by
    rw [same.identities, same'.identities]
    exact matched.identities pair
  kept own := by
    rw [same.objects]
    exact matched.kept own
  kept' own := by
    rw [same'.objects]
    exact matched.kept' own
  still own := by
    rw [same.scopes]
    exact matched.still own
  still' own := by
    rw [same'.scopes]
    exact matched.still' own
  objects pair := by
    rw [same.objects, same'.objects]
    exact matched.objects pair
  scopes pair := by
    rw [same.scopes, same'.scopes]
    exact matched.scopes pair
  programs pair := by
    rw [same.templates, same'.templates]
    obtain ⟨template, template', there, there', alike⟩ := matched.programs pair
    refine ⟨template, template', there, there', alike.source, alike.escape, alike.routine, ?_⟩
    rw [same.objects, same'.objects]
    exact alike.function
  rebuilds built := by
    rw [same'.templates]
    obtain ⟨template, outer, there, ready⟩ := matched.rebuilds built
    refine ⟨template, outer, there, (found built).trans ready.found, ready.accepted, ready.escape, ready.kept,
      ready.still, ?_, ready.concealed, ready.discreet⟩
    obtain ⟨attributes, function⟩ := ready.hosts.function
    exact ⟨⟨attributes, by rw [same'.objects]; exact function⟩, by rw [same'.scopes]; exact ready.hosts.scope⟩
  gathers placed := (matched.gathers placed).carried le_rfl id (by rw [same.objects]) (by rw [same'.objects])
    (by rw [same.scopes]; exact id) (by rw [same'.scopes]; exact id)

/-- Whether turns have led to worlds that are alike; what loaders read may have changed. -/
structure Passes (terms : Terms) (bond later : Bond) (world world' after after' : World) : Prop where
  grown : bond ≤ later
  matched : terms.Matched later after after'
  rebuilds : ∀ {binding : Binding} {number : Nat}, later.rebuilds binding number → bond.rebuilds binding number
  first : world.Stays bond.kept bond.still { after with library := world.library }
  second : world'.Stays bond.kept' bond.still' { after' with library := world'.library }

theorem Moves.passes {later : Bond} (moves : terms.Moves bond later world world' after after') :
    terms.Passes bond later world world' after after' where
  grown := moves.grown
  matched := moves.matched
  rebuilds := moves.rebuilds
  first := by
    rw [← moves.first.library]
    exact moves.first
  second := by
    rw [← moves.second.library]
    exact moves.second

theorem Passes.trans {bond' later : Bond} {between between' : World}
    (passes : terms.Passes bond bond' world world' between between')
    (more : terms.Passes bond' later between between' after after') : terms.Passes bond later world world' after after' where
  grown := passes.grown.trans more.grown
  matched := more.matched
  rebuilds built := passes.rebuilds (more.rebuilds built)
  first := passes.first.throughLibrary more.first passes.grown.kept passes.grown.still
  second := passes.second.throughLibrary more.second passes.grown.kept' passes.grown.still'

variable (matched : terms.Matched bond world world')
  (settled : ∀ {binding : Binding} {number : Nat}, ¬ bond.rebuilds binding number)
include matched settled

theorem Matched.withLibrary {library : Library} (known : terms.libraries library) :
    terms.Passes bond bond world world' { world with library := library } { world' with library := library } where
  grown := le_rfl
  matched := matched.reframed ⟨rfl, rfl, rfl, rfl, rfl⟩ ⟨rfl, rfl, rfl, rfl, rfl⟩ rfl known matched.colours
    matched.namespaces matched.size matched.classes fun built => absurd built settled
  rebuilds := id
  first := .refl world
  second := .refl world'

theorem passes_change (f : Library → Library) (known : terms.libraries (f world.library)) :
    terms.Passes bond bond world world' { world with library := f world.library }
      { world' with library := f world'.library } := by
  rw [matched.library]
  exact matched.withLibrary settled known

/-- A change of what loaders read leaves worlds alike. -/
theorem passes_edit (strict : ¬ terms.guarded) {query : Query} (edit : Session.Edit query)
    (known : terms.libraries (Session.answered (Session.fulfil registry query) world).2.library) :
    (Session.answered (Session.fulfil registry query) world').1 = (Session.answered (Session.fulfil registry query) world).1 ∧
      ∃ later, terms.Passes bond later world world' (Session.answered (Session.fulfil registry query) world).2
        (Session.answered (Session.fulfil registry query) world').2 := by
  have asking {action : Effect Answer} (twin : terms.Twin bond Equal action action) :
      (Session.answered action world').1 = (Session.answered action world).1 ∧ ∃ later,
        terms.Passes bond later world world' (Session.answered action world).2 (Session.answered action world').2 := by
    obtain ⟨same, later, moves⟩ := twin.answered strict matched
    exact ⟨same, later, moves.passes⟩
  cases edit with
  | writeFile path contents =>
      exact ⟨rfl, bond, passes_change matched settled (fun library =>
        { library with files := library.files.write (Path.ofText path).components (.bytes contents) }) known⟩
  | removeFile path =>
      exact ⟨rfl, bond, passes_change matched settled (fun library =>
        { library with files := library.files.remove (Path.ofText path).components }) known⟩
  | putSource loader name source =>
      cases found : registry.loaders.lookup loader with
      | none =>
          have lacking : Session.fulfil registry (.putSource loader name source) = raise .key [.plain loader] := by
            rw [Session.fulfil, Stencil.Effect.found, found]
            rfl
          rw [lacking]
          exact asking (twin_raise _ (.cons (.plain _) .nil))
      | some loader' =>
          cases holds : Session.shelfOf? loader' with
          | none =>
              have lacking : Session.fulfil registry (.putSource loader name source) =
                  Session.raiseLacking loader' "_mapping" := by
                rw [Session.fulfil_putSource found, holds]
              rw [lacking]
              exact asking (twin_raiseText _ _)
          | some shelf =>
              have putting : Session.fulfil registry (.putSource loader name source) = (do
                  change fun world => { world with library := world.library.putSource shelf name source }
                  return .done) := by
                rw [Session.fulfil_putSource found, holds]
              rw [putting] at known ⊢
              exact ⟨rfl, bond, passes_change matched settled (Library.putSource shelf name source) known⟩

/-- A turn gets the same answer in worlds that are alike, and leaves them alike. -/
theorem passes_turn (strict : ¬ terms.guarded) (lists : bond.Lists registry) {request : Request} (turn : Session.Turn request)
    (known : terms.libraries ((⟨world, registry⟩ : Session).step request).2.world.library) :
    ((⟨world', registry⟩ : Session).step request).1 = ((⟨world, registry⟩ : Session).step request).1 ∧
      ∃ later after after', terms.Passes bond later world world' after after' ∧
        ((⟨world, registry⟩ : Session).step request).2 = ⟨after, registry⟩ ∧
          ((⟨world', registry⟩ : Session).step request).2 = ⟨after', registry⟩ := by
  cases turn with
  | edit edit =>
      rw [Session.step_ask] at known ⊢
      rw [Session.step_ask]
      obtain ⟨same, later, passes⟩ := passes_edit matched settled strict edit known
      exact ⟨same, later, _, _, passes, rfl, rfl⟩
  | rendering rendering =>
      rw [Session.step_ask, Session.step_ask]
      obtain ⟨same, later, moves⟩ := (twin_rendering strict lists rendering).answered strict matched
      exact ⟨same, later, _, _, moves.passes, rfl, rfl⟩

/-- A history gets the same answers in worlds that are alike. -/
theorem run_same (strict : ¬ terms.guarded) (lists : bond.Lists registry) {requests : List Request} (turns : ∀ request ∈ requests, Session.Turn request)
    (known : ∀ state ∈ (⟨world, registry⟩ : Session).states requests, terms.libraries state.world.library) :
    (⟨world', registry⟩ : Session).run requests = (⟨world, registry⟩ : Session).run requests := by
  induction requests generalizing bond world world' with
  | nil => rfl
  | cons request requests ih =>
      obtain ⟨turn, others⟩ := List.forall_mem_cons.mp turns
      obtain ⟨-, next⟩ := List.forall_mem_cons.mp known
      have first : terms.libraries ((⟨world, registry⟩ : Session).step request).2.world.library :=
        next _ (Session.mem_states _ _)
      obtain ⟨same, later, after, after', passes, there, there'⟩ := passes_turn matched settled strict lists turn first
      rw [there] at next
      rw [Session.run_cons, Session.run_cons, same, there, there']
      exact congrArg _ (ih passes.matched (fun built => settled (passes.rebuilds built)) (lists.mono passes.grown) others next)

end Terms

end Stencil
