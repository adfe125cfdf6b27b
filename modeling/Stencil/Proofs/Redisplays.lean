import Stencil.Proofs.ErrorPaths
import Stencil.Proofs.TidySessions

/-!
# Displaying a class again in one world only

A class that is displayed again, in one of two worlds that are alike, becomes text there by another template.  The worlds
stay alike when the template renders like the one that the class had before, or is what the class would build.
-/

namespace Stencil

open Effect Routine Script Manners

/-! ## What a history leaves of a class -/

/-- Whether a class, the modules and the decisions of the policies are the same in two worlds. -/
structure World.Leaves (number : Nat) (world after : World) : Prop where
  ground : world.SameGround after
  record : after.classes[number]? = world.classes[number]?

namespace World.Leaves

variable {number other : Nat} {world between after : World}

theorem refl (number : Nat) (world : World) : world.Leaves number world := ⟨.refl world, rfl⟩

theorem trans (first : world.Leaves number between) (second : between.Leaves number after) : world.Leaves number after :=
  ⟨first.ground.trans second.ground, second.record.trans first.record⟩

theorem accruing (number : Nat) : Accruing (World.Leaves number) where
  refl := refl number
  trans := trans
  object _ _ := ⟨⟨rfl, rfl, fun _ => rfl⟩, rfl⟩
  standard world := ⟨ground_withStandard world, rfl⟩
  template _ _ _ _ _ := ⟨⟨rfl, rfl, fun _ => rfl⟩, rfl⟩
  identities _ := ⟨⟨rfl, rfl, fun _ => rfl⟩, rfl⟩

theorem library (number : Nat) (world : World) (library : Library) :
    world.Leaves number { world with library := library } :=
  ⟨⟨rfl, rfl, fun _ => rfl⟩, rfl⟩

theorem put (apart : number ≠ other) (world : World) (name : Text) (value : Value) :
    world.Leaves number (world.put other name value) := by
  refine ⟨⟨rfl, rfl, fun _ => rfl⟩, ?_⟩
  rw [World.put, Array.getElem?_modify, if_neg apart.symm]

theorem putIf (apart : number ≠ other) (condition : Bool) (world : World) (name : Text) (value : Value) :
    world.Leaves number (world.putIf condition other name value) := by
  cases condition with
  | false => exact refl number world
  | true => exact put apart world name value

theorem completing (apart : number ≠ other) (record : ClassRecord) (binding : Binding) (world : World) :
    world.Leaves number (Stencil.completing other record binding world) :=
  (putIf apart _ _ _ _).trans (putIf apart _ _ _ _)

/-- Displaying another class leaves a class as it is. -/
theorem decorates (apart : number ≠ other) {record : ClassRecord} {binding : Binding} {reload : Bool}
    (decorates : Decorates other record binding world reload after) : world.Leaves number after := by
  cases decorates with
  | @built source routine =>
      have made : world.Leaves number (installed source binding.escape routine binding.namespaceNumber world) :=
        ⟨⟨rfl, rfl, fun _ => rfl⟩, rfl⟩
      exact made.trans (((put apart _ _ _).trans (put apart _ _ _)).trans (completing apart _ _ _))
  | reloaded => exact ((put apart _ _ _).trans (put apart _ _ _)).trans (completing apart _ _ _)

theorem either (number : Nat) (either : between = world ∨ between = withStandard world) : world.Leaves number between := by
  rcases either with rfl | rfl
  · exact refl number _
  · exact (accruing number).standard world

end World.Leaves

/-- What can happen to a class that was displayed: what loaders read is changed, values are converted to text and to
markup, and other classes are displayed. -/
inductive Session.Happening (registry : Registry) (number : Nat) : Request → Prop where
  | turn {request : Request} (turn : Turn request) : Happening registry number request
  | display (className : Text) (sketch : DisplaySketch) (apart : registry.classes.lookup className ≠ some number) :
    Happening registry number (.ask (.display className sketch))

namespace Terms

variable {terms : Terms} {bond later : Bond} {world world' after after' : World} {session : Session} {number : Nat}

/-- What happens leaves a class as it is. -/
theorem TidySession.leaves (whole : terms.TidySession bond session) {request : Request}
    (happening : Session.Happening session.registry number request) :
    session.world.Leaves number (session.step request).2.world ∧ (session.step request).2.registry = session.registry := by
  have asked {query : Query} (leaves : session.world.Leaves number (session.step (.ask query)).2.world) :
      session.world.Leaves number (session.step (.ask query)).2.world ∧
        (session.step (.ask query)).2.registry = session.registry :=
    ⟨leaves, by rw [Session.step_ask]⟩
  have accruing := World.Leaves.accruing number
  have library := World.Leaves.library number
  cases happening with
  | turn turn =>
      cases turn with
      | edit edit =>
          refine asked ?_
          rw [Session.step_conclude]
          exact Quiet.conclude accruing (Quiet.asked accruing (Quiet.edited accruing library session.registry edit))
      | rendering rendering =>
          refine asked ?_
          rw [Session.step_ask]
          obtain ⟨-, later, moves⟩ := (twin_rendering whole.tidy.strict whole.lists rendering).answered whole.tidy.strict
            whole.tidy.matched
          have stays := moves.first
          refine ⟨⟨stays.modules, stays.namespaces, fun policy => ?_⟩, by rw [stays.classes]⟩
          rw [stays.policies]
  | display className sketch apart =>
      refine asked ?_
      rcases session.step_display className sketch with
        ⟨action, unobtrusive, same⟩ | ⟨other, options, between, next, answer, named, ⟨opening, unobtrusive, opened⟩, done, same⟩
      · rw [same]
        exact Quiet.conclude accruing (unobtrusive accruing library)
      · rw [same]
        have apart' : number ≠ other := by
          rintro rfl
          exact apart named
        obtain ⟨record, read⟩ : ∃ record, classRecord other between = .done record between := ⟨_, rfl⟩
        obtain ⟨binding, middle, -, either, decorates⟩ := display_decorates read done
        have first := (unobtrusive accruing library).leads.of_done opened
        exact (first.trans (.either number either)).trans (.decorates apart' decorates)

/-- What happens one after the other leaves a class as it is. -/
theorem TidySession.leavesAll (whole : terms.TidySession bond session) {requests : List Request}
    (happenings : ∀ request ∈ requests, Session.Happening session.registry number request)
    (admits : ∀ state ∈ session.states requests, terms.Admits state.world) :
    session.world.Leaves number (session.after requests).world ∧ (session.after requests).registry = session.registry := by
  induction requests generalizing bond session with
  | nil => exact ⟨.refl number _, rfl⟩
  | cons request requests ih =>
      obtain ⟨happening, others⟩ := List.forall_mem_cons.mp happenings
      obtain ⟨-, next⟩ := List.forall_mem_cons.mp admits
      obtain ⟨leaves, registry⟩ := whole.leaves happening
      obtain ⟨later, upkeep, lists⟩ := whole.step request (next _ (Session.mem_states _ _))
      obtain ⟨more, registry'⟩ := ih ⟨upkeep.tidy, lists⟩ (registry ▸ others) next
      exact ⟨leaves.trans more, registry'.trans registry⟩

end Terms

namespace Manners

variable {manners : Manners} {bond later : Bond} {world world' : World}

theorem Ready.mono (grown : bond ≤ later) {binding : Binding} {template : Template} {outer : Nat}
    (ready : manners.Ready bond world world' binding template outer) :
    manners.Ready later world world' binding template outer :=
  { ready with
    kept := grown.kept' ready.kept
    still := grown.still' ready.still }

theorem SameProgram.mono (grown : bond ≤ later) {template template' : Template}
    (same : manners.SameProgram bond world world' template template') :
    manners.SameProgram later world world' template template' :=
  same.stays grown (.refl world) (.refl world')

end Manners

/-! ## Classes of one world only -/

/-- A bond that also says that a template of the other world is what a binding builds in the one world. -/
def Bond.withRebuild (bond : Bond) (binding : Binding) (number' function' outer' : Nat)
    (free : ∀ {a a' : Nat}, bond.objects a a' → a' ≠ function')
    (apart : ∀ {inside : Bool} {a a' : Nat}, bond.frames inside a a' → a' ≠ outer')
    (other : ∀ {place : Gathering}, bond.gathering = some place → place.list' ≠ function') : Bond :=
  { bond with
    kept' := fun a => bond.kept' a ∨ a = function'
    still' := fun a => bond.still' a ∨ a = outer'
    rebuilds := fun other a => bond.rebuilds other a ∨ other = binding ∧ a = number'
    objects_free := fun pair => ⟨(bond.objects_free pair).1, not_or_intro (bond.objects_free pair).2 (free pair)⟩
    frames_free := fun pair => ⟨(bond.frames_free pair).1, not_or_intro (bond.frames_free pair).2 (apart pair)⟩
    bases_still := fun pair => ⟨(bond.bases_still pair).1, .inl (bond.bases_still pair).2⟩
    gathering_free := fun placed =>
      ⟨(bond.gathering_free placed).1, not_or_intro (bond.gathering_free placed).2 (other placed)⟩ }

namespace Terms

variable {terms : Terms} {bond later : Bond} {world world' after after' : World} {session : Session} {number : Nat}
  {binding : Binding}

/-- A template of the other world that is what a binding builds in the one world can stand for it. -/
theorem Matched.withRebuild (matched : terms.Matched bond world world') (binding : Binding) {number' outer' : Nat}
    (template' : Template)
    (there : world'.templates[number']? = some template') (found : world.sourceFor binding = .ok template'.source)
    (accepted : template'.source.routine binding.environment.marker binding.escape = .ok template'.routine)
    (escape : template'.escape = binding.escape) (hosts : world'.Hosts template' binding.namespaceNumber outer')
    (discreet : terms.Discreet (.name "self" :: mentionsOfBlock template'.routine.body))
    (concealed : terms.hidden renderName)
    (free : ∀ {a a' : Nat}, bond.objects a a' → a' ≠ template'.function)
    (apart : ∀ {inside : Bool} {a a' : Nat}, bond.frames inside a a' → a' ≠ outer')
    (other : ∀ {place : Gathering}, bond.gathering = some place → place.list' ≠ template'.function) :
    terms.Matched (bond.withRebuild binding number' template'.function outer' free apart other) world world' := by
  have grown : bond ≤ bond.withRebuild binding number' template'.function outer' free apart other :=
    ⟨id, id, id, id, id, id, id, .inl, id, .inl, .inl, id⟩
  refine
    { matched with
      handled := matched.handled.imp fun _ _ => grown.objects
      identities := matched.identities
      kept' := ?_
      still' := ?_
      namespaces := fun number => rel_imp (fun _ _ alike => SameEntries.mono grown alike) (matched.namespaces number)
      classes := fun number => rel_imp (fun _ _ alike => alike.mono grown) (matched.classes number)
      objects := fun pair => ?_
      scopes := fun pair => ?_
      programs := fun pair => ?_
      rebuilds := ?_
      gathers := fun placed => (matched.gathers placed).carried grown id rfl rfl id id }
  · rintro address (old | rfl)
    · exact matched.kept' old
    · obtain ⟨attributes, function⟩ := hosts.function
      exact (Array.getElem?_eq_some_iff.mp function).1
  · rintro number (old | rfl)
    · exact matched.still' old
    · exact (Array.getElem?_eq_some_iff.mp hosts.scope).1
  · obtain ⟨object, object', found, found', same⟩ := matched.objects pair
    exact ⟨object, object', found, found', same.mono grown⟩
  · obtain ⟨scope, scope', found, found', same⟩ := matched.scopes pair
    exact ⟨scope, scope', found, found', same.mono grown⟩
  · obtain ⟨template, template', found, found', same⟩ := matched.programs pair
    exact ⟨template, template', found, found', same.mono grown⟩
  · rintro other number (old | ⟨rfl, rfl⟩)
    · obtain ⟨template, outer, found, ready⟩ := matched.rebuilds old
      exact ⟨template, outer, found, ready.mono grown⟩
    · exact ⟨template', outer', there, found, accepted, escape, .inr rfl, .inr rfl, hosts, concealed,
        discreet⟩

/-- A class of the other world can get another attribute that is like the one that the class of the one world has. -/
theorem Matched.putSecond (matched : terms.Matched bond world world') {name : Text} {value' : Value}
    (alike : terms.unread name ∨ ∃ value, world.own number name = some value ∧ terms.SameShared bond value value') :
    terms.Matched bond world (world'.put number name value') := by
  refine matched.reframed ⟨rfl, rfl, rfl, rfl, rfl⟩ ⟨rfl, rfl, rfl, rfl, rfl⟩ matched.library matched.known matched.colours
    matched.namespaces (World.size_put.trans matched.size) (fun other => ?_) fun _ => rfl
  have there := matched.classes other
  rw [World.put, Array.getElem?_modify]
  split
  · rename_i here
    subst here
    rw [World.own] at alike
    generalize world.classes[number]? = found, world'.classes[number]? = found' at there alike ⊢
    cases there with
    | none => exact .none
    | @some record record' same =>
        refine .some { same with attributes := fun asked seen => ?_ }
        by_cases same_name : asked = name
        · subst same_name
          obtain ⟨value, own, shared⟩ := alike.resolve_left seen
          rw [lookup_putEntry, show record.attributes.lookup asked = some value from own]
          exact .some shared
        · rw [lookup_putEntry_ne same_name]
          exact same.attributes asked seen
  · exact there

theorem Matched.eitherSecond (matched : terms.Matched bond world world') (either : after' = world' ∨ after' = withStandard world') :
    terms.Matched bond world after' := by
  rcases either with rfl | rfl
  · exact matched
  · exact matched.reframed ⟨rfl, rfl, rfl, rfl, rfl⟩ ⟨rfl, rfl, rfl, rfl, rfl⟩ matched.library matched.known matched.colours
      matched.namespaces matched.size matched.classes fun _ => rfl

theorem Matched.pilesSecond (matched : terms.Matched bond world world') (piles : world'.Piles after')
    (library : after'.library = world'.library) : terms.Matched bond world after' := by
  obtain ⟨grows, more⟩ := piles
  have grown := (matched.grows (.refl world) grows le_rfl more).matched
  exact grown.reframed ⟨rfl, rfl, rfl, rfl, rfl⟩ ⟨rfl, rfl, rfl, rfl, rfl⟩ (library.trans matched.library) grown.known
    grown.colours grown.namespaces grown.size grown.classes fun _ => rfl

/-! ## Templates that cannot be built -/

/-- What keeps a template from being built in one world keeps it from being built in a world that is alike. -/
theorem Matched.unbuilt (matched : terms.Matched bond world world') {binding' : Binding} (alike : binding.Alike binding')
    (unbuilt : ∀ source routine, world.sourceFor binding = .ok source →
      source.routine binding.environment.marker binding.escape ≠ .ok routine) :
    ∃ later error error' after after', build binding world = .failed error after ∧
      build binding' world' = .failed error' after' ∧ terms.Moves bond later world world' after after' ∧
        later.objects error error' := by
  have failing {action action' : Effect Nat} (ends : terms.Ends bond Bond.templates world world' (action world) (action' world'))
      (fails : ∃ error after, action world = .failed error after) : ∃ later error error' after after',
        action world = .failed error after ∧ action' world' = .failed error' after' ∧
          terms.Moves bond later world world' after after' ∧ later.objects error error' := by
    obtain ⟨error, after, failed⟩ := fails
    rw [failed] at ends
    generalize action' world' = outcome at ends ⊢
    cases ends with
    | failed moves pair => exact ⟨_, _, _, _, _, failed, rfl, moves, pair⟩
  have same : world'.sourceFor binding' = world.sourceFor binding := by
    rw [alike.sourceFor, World.sourceFor, matched.library, World.sourceFor]
  rw [build_installing, build_installing, same]
  cases found : world.sourceFor binding with
  | error error =>
      refine failing (twin_raiseLoadError error bond le_rfl world world' matched) ?_
      cases error <;> exact ⟨_, _, rfl⟩
  | ok source =>
      dsimp only
      unfold installing
      rw [alike.marker, alike.escape]
      cases accepted : source.routine binding.environment.marker binding.escape with
      | ok routine => exact absurd accepted (unbuilt source routine found)
      | error error =>
          refine failing (twin_raiseCompileError _ error bond le_rfl world world' matched) ?_
          cases error <;> exact ⟨_, _, rfl⟩

/-- Failures that belong together get the same answer. -/
theorem Moves.failures (strict : ¬ terms.guarded) (moves : terms.Moves bond later world world' after after') {error error' : Nat}
    (pair : later.objects error error') (session session' : Session) :
    (session'.conclude (.failed error' after')).1 = (session.conclude (.failed error after)).1 := by
  have explained := (twin_failureOf strict pair : terms.Twin _ Equal _ _) _ le_rfl _ _ moves.matched
  unfold Session.conclude
  dsimp only
  generalize Session.failureOf error after = outcome, Session.failureOf error' after' = outcome' at explained ⊢
  cases explained with
  | done _ equal => exact equal.symm
  | failed => rfl
  | exhausted => rfl
  | unfinished guarded => exact absurd guarded strict

end Terms

section Reloading

variable {registry : Registry} {className : Text} {attributes : List (Text × Sketch)} {number : Nat} {world built : World}
  {value : Value} {binding : Binding} {owner : Text}

/-- An instance that is built is an instance of its class. -/
theorem member_built (named : registry.classes.lookup className = some number)
    (done : (Sketch.member className attributes).build registry world = .done value built) :
    ∃ address slots, value = .object address ∧ built.objects[address]? = some (.member number slots) := by
  obtain ⟨slot, between, made, done⟩ := of_bind_done done
  cases done
  rw [Sketch.slot] at made
  obtain ⟨owner, first, found, made⟩ := of_bind_done made
  obtain ⟨slots, second, named', made⟩ := of_bind_done made
  obtain rfl : owner = number := by
    rw [Effect.found, named] at found
    cases found
    rfl
  cases made
  exact ⟨_, slots, rfl, Array.getElem?_push_size⟩

/-- An instance of a class that is reloaded does not become text when its template cannot be built. -/
theorem text_unbuilt {address error : Nat} {slots : List (Text × Slot)} {after : World}
    (member : world.objects[address]? = some (.member number slots))
    (own : world.own number "__str__" = some (.hook (.reloads binding owner)))
    (failed : build binding world = .failed error after) :
    callValue (.builtin .text) [.object address] world = .failed error after := by
  have text := text_member member (World.attributeOfClass?_own own) loopBound 998
  have hook : callHook (callWithin loopBound 998) (.reloads binding owner) (.object address) [] world =
      .failed error after := by
    show (build binding >>= fun template => render (callWithin loopBound 998) template (.object address)) world = _
    exact bind_failed failed
  exact text.trans (bind_failed hook)

end Reloading

end Stencil
