import Stencil.Proofs.Redisplays

/-!
# Displays that are as good as fresh ones

A class that was displayed renders like one that is displayed just now: by the source of its first display if its template
was built then, and by the source that is there now if its template is reloaded.  When the source that is there now cannot
be loaded or is not accepted, rendering an instance of a reloaded class fails as displaying the class would, and nothing
comes of it later.
-/

namespace Stencil

open Effect Routine Script Manners

/-- Scripts that mention neither what routines are called nor the templates of classes. -/
def modesty : Reticence where
  hidden name := name = renderName
  unread name := name = "__kiln_template__".toList
  html_read := by decide
  str_read := by decide

/-- Whether a routine mentions neither what routines are called nor the templates of classes. -/
def Routine.Modest (routine : Routine) : Prop :=
  Mention.name renderName ∉ mentionsOfBlock routine.body ∧ Mention.attribute "__kiln_template__" ∉ mentionsOfBlock routine.body

theorem Routine.Modest.discreet {routine : Routine} (modest : routine.Modest) :
    modesty.Discreet (.name "self" :: mentionsOfBlock routine.body) := by
  intro mention inside
  rcases List.mem_cons.mp inside with rfl | inside
  · exact (by decide : ¬ "self".toList = renderName)
  · obtain name | name := mention
    · rintro rfl
      exact modest.1 inside
    · rintro rfl
      exact modest.2 inside

/-- Whether no template that stands in one of the states of a session, and none that a reloaded class has in one of them,
mentions what routines are called or the templates of classes. -/
structure Modest (states : List Session) : Prop where
  standing : ∀ state ∈ states, ∀ template ∈ state.world.templates, template.routine.Modest
  reloaded : ∀ state ∈ states, ∀ other ∈ states, ∀ binding, other.world.Reloads binding → ∀ source routine,
    state.world.sourceFor binding = .ok source →
      source.routine binding.environment.marker binding.escape = .ok routine → routine.Modest

instance (routine : Routine) : Decidable routine.Modest := inferInstanceAs (Decidable (_ ∧ _))

/-- What the classes of a world are bound to that are reloaded. -/
def World.reloads (world : World) : List Binding :=
  world.classes.toList.filterMap fun record =>
    match record.attributes.lookup "__str__".toList with
    | some (.hook (.reloads binding _)) => some binding
    | _ => none

theorem World.Reloads.mem {world : World} {binding : Binding} (reloads : world.Reloads binding) :
    binding ∈ world.reloads := by
  obtain ⟨number, owner, own⟩ := reloads
  obtain ⟨record, found, there⟩ := Option.bind_eq_some_iff.mp own
  refine List.mem_filterMap.mpr ⟨record, Array.mem_toList_iff.mpr (Array.mem_of_getElem? found), ?_⟩
  rw [there]

/-- The routine that a binding stands for in a world. -/
def World.routineFor (world : World) (binding : Binding) : Option Routine :=
  match world.sourceFor binding with
  | .ok source => (source.routine binding.environment.marker binding.escape).toOption
  | .error _ => none

/-- The states of a session are modest when the templates that are there, and those that would be reloaded, are. -/
theorem modest_of {states : List Session}
    (standing : ∀ state ∈ states, ∀ template ∈ state.world.templates.toList, template.routine.Modest)
    (reloaded : ∀ state ∈ states, ∀ other ∈ states, ∀ binding ∈ other.world.reloads,
      ∀ routine ∈ (state.world.routineFor binding).toList, routine.Modest) : Modest states where
  standing state inside template there := standing state inside template (Array.mem_toList_iff.mpr there)
  reloaded state inside other inside' binding reloads source routine found accepted := by
    refine reloaded state inside other inside' binding reloads.mem routine ?_
    rw [World.routineFor, found]
    dsimp only
    rw [accepted]
    exact List.mem_singleton_self routine

/-- The terms on which the worlds of a session are compared with others. -/
def termsOf {states : List Session} (modest : Modest states) : Terms where
  toReticence := modesty
  guarded := False
  converter := .none
  libraries library := ∃ state ∈ states, state.world.library = library
  bindings binding := ∃ state ∈ states, state.world.Reloads binding
  discreet := by
    rintro world binding source routine ⟨state, inside, library⟩ ⟨other, inside', reloads⟩ found accepted
    refine (modest.reloaded state inside other inside' binding reloads source routine ?_ accepted).discreet
    rw [World.sourceFor, library]
    exact found

theorem Modest.admits {states : List Session} (modest : Modest states) : ∀ state ∈ states,
    (termsOf modest).Admits state.world :=
  fun state inside => ⟨⟨state, inside, rfl⟩, fun template there => (modest.standing state inside template there).discreet,
    fun reloads => ⟨state, inside, reloads⟩⟩

/-- Whether conversions to text and to markup get the same answers in two sessions. -/
def Session.RendersAs (session other : Session) : Prop :=
  ∀ query, Rendering query → (session.step (.ask query)).1 = (other.step (.ask query)).1

namespace Session

variable (session : Session) (first second : List Request)

theorem states_append {state : Session} (inside : state ∈ session.states first) :
    state ∈ session.states (first ++ second) := by
  induction first generalizing session with
  | nil =>
      obtain rfl := List.mem_singleton.mp inside
      exact mem_states state second
  | cons request first ih =>
      rcases List.mem_cons.mp inside with rfl | inside
      · exact List.mem_cons_self
      · exact List.mem_cons_of_mem _ (ih _ inside)

theorem states_after {state : Session} (inside : state ∈ (session.after first).states second) :
    state ∈ session.states (first ++ second) := by
  induction first generalizing session with
  | nil => exact inside
  | cons request first ih => exact List.mem_cons_of_mem _ (ih _ inside)

end Session

namespace Terms

variable {terms : Terms} {bond later : Bond} {now : Session} {made : World} {number template outer : Nat}
  {record : ClassRecord} {binding binding' : Binding} {source : TemplateSource} {routine : Routine}

/-- A class that is displayed by a template like the one that it has renders as before. -/
theorem rendersAs_showing (strict : ¬ terms.guarded) (matched : terms.Matched later now.world made) (lists : later.Lists now.registry)
    (unread : terms.unread "__kiln_template__") (complete : Complete record binding) {hook : Hook}
    (own : now.world.own number "__str__" = some (.hook hook))
    (alike : terms.SameHook later hook (.renders template record.qualifiedName)) :
    now.RendersAs ⟨showing number record binding template made, now.registry⟩ := by
  have hooked : terms.Matched later now.world
      (made.put number "__str__" (.hook (.renders template record.qualifiedName))) :=
    matched.putSecond (.inr ⟨_, own, .hook alike⟩)
  have shown : terms.Matched later now.world
      ((made.put number "__str__" (.hook (.renders template record.qualifiedName))).put number "__kiln_template__"
        (.template template)) :=
    hooked.putSecond (.inl unread)
  intro query rendering
  rw [showing, completing_complete complete, Session.step_ask, Session.step_ask]
  exact ((twin_rendering strict lists rendering).answered strict shown).1.symm

variable (whole : terms.TidySession bond now) (unread : terms.unread "__kiln_template__")
  (complete : Complete record binding') (alike : binding.Alike binding')
  (either : made = now.world ∨ made = withStandard now.world)
include whole unread complete alike either

/-- A class whose template was built at once renders as if it was displayed by the same source just now. -/
theorem TidySession.built_rendersAs {function : Nat}
    (given : terms.Given bond now.world template binding.namespaceNumber outer ⟨source, binding.escape, routine, function⟩)
    (own : now.world.own number "__str__" = some (.hook (.renders template record.qualifiedName))) :
    now.RendersAs ⟨showing number record binding' made.templates.size
      (Routine.installed source binding'.escape routine binding'.namespaceNumber made), now.registry⟩ := by
  have matched := whole.tidy.matched.eitherSecond either
  have moves := matched.withProgram (.refl now.world)
    (.installed made source binding'.escape routine binding'.namespaceNumber) le_rfl le_rfl given.listed
    Array.getElem?_push_size rfl alike.escape rfl given.hosts (alike.namespaceNumber ▸ hosts_installed _ _ _ _ made)
    given.discreet
    (fun pair => ⟨fun same => (bond.objects_free pair).1 (same ▸ given.kept), (matched.inside pair).2.ne⟩)
    (fun pair => ⟨fun same => (bond.frames_free pair).1 (same ▸ given.still), (matched.insideScopes (.inl pair)).2.ne⟩)
    (.inl given.concealed)
    (fun placed => ⟨fun same => (bond.gathering_free placed).1 (same ▸ given.kept), (matched.beyond.2.2 placed).2⟩)
  refine rendersAs_showing whole.tidy.strict moves.matched (whole.lists.mono moves.grown) unread complete own (.renders ?_ _)
  exact .inr ⟨rfl, rfl⟩

/-- A class whose template is reloaded renders as if it was displayed by the source that is there now. -/
theorem TidySession.reloaded_rendersAs (concealed : terms.hidden renderName) (both : terms.bindings binding)
    (found : now.world.sourceFor binding = .ok source)
    (accepted : source.routine binding.environment.marker binding.escape = .ok routine)
    (own : now.world.own number "__str__" = some (.hook (.reloads binding record.qualifiedName))) :
    now.RendersAs ⟨showing number record binding' made.templates.size
      (Routine.installed source binding'.escape routine binding'.namespaceNumber made), now.registry⟩ := by
  have matched := whole.tidy.matched.eitherSecond either
  have grown := (matched.grows (.refl now.world)
    (.installed made source binding'.escape routine binding'.namespaceNumber) le_rfl le_rfl).matched
  have ready := grown.withRebuild binding ⟨source, binding'.escape, routine, made.objects.size⟩
    Array.getElem?_push_size found accepted alike.escape (alike.namespaceNumber ▸ hosts_installed _ _ _ _ made)
    (terms.discreet whole.tidy.matched.known both found accepted) concealed (fun pair => (matched.inside pair).2.ne)
    (fun pair => (matched.insideScopes (.inl pair)).2.ne) (fun placed => (matched.beyond.2.2 placed).2.symm)
  refine rendersAs_showing whole.tidy.strict ready
    (whole.lists.mono ⟨id, id, id, id, id, id, id, .inl, id, .inl, .inl, id⟩) unread complete own
    (.rebuilds ?_ _)
  exact .inr ⟨rfl, rfl⟩

end Terms

/-! ## Templates that cannot be reloaded -/

theorem accruing_library : Accruing fun world after => after.library = world.library where
  refl _ := rfl
  trans first second := second.trans first
  object _ _ := rfl
  standard _ := rfl
  template _ _ _ _ _ := rfl
  identities _ := rfl

section Failing

variable {now : Session} {className : Text} {attributes : List (Text × Sketch)} {number : Nat} {binding : Binding}
  {owner : Text}

/-- Asking for the text of an instance of a class that is reloaded is quiet when its template cannot be built. -/
theorem toText_unbuilt (named : now.registry.classes.lookup className = some number)
    (own : now.world.own number "__str__" = some (.hook (.reloads binding owner)))
    (unbuilt : ∀ value built, (Sketch.member className attributes).build now.registry now.world = .done value built →
      ∃ error after, build binding built = .failed error after) :
    Session.answer now.registry (.ask (.toText (.member className attributes))) now.world = (do
      let _ ← (Sketch.member className attributes).build now.registry
      let _ ← build binding
      return (.done, now.registry) : Effect (Answer × Registry)) now.world := by
  have asked : Session.fulfil now.registry (.toText (.member className attributes)) = (do
      let value ← (Sketch.member className attributes).build now.registry
      return .output (← Session.sketchOf (← callValue (.builtin .text) [value]))) := by
    rw [Session.fulfil]
  rw [Session.answer, asked]
  cases made : (Sketch.member className attributes).build now.registry now.world with
  | failed error after => rw [bind_failed (bind_failed made), bind_failed made]
  | exhausted => rw [bind_exhausted (bind_exhausted made), bind_exhausted made]
  | done value built =>
      obtain ⟨error, after, failed⟩ := unbuilt value built made
      obtain ⟨address, slots, rfl, member⟩ := member_built named made
      have classes : built.classes = now.world.classes :=
        (Quiet.sketched World.Piles.accruing now.registry (.member className attributes)).leads.of_done made |>.1.classes
      have text := text_unbuilt member ((World.own_of_classes classes ▸ own)) failed
      rw [bind_failed ((bind_done made).trans (bind_failed text)), bind_done made, bind_failed failed]

end Failing

namespace Terms

variable {terms : Terms} {bond later : Bond} {now : Session} {made : World} {number : Nat} {binding binding' : Binding}
  {owner : Text}

/-- When the template of a class cannot be built now, rendering an instance of the class fails as building the template
does, and nothing comes of it later. -/
theorem TidySession.reload_failed (whole : terms.TidySession bond now)
    (own : now.world.own number "__str__" = some (.hook (.reloads binding owner))) (alike : binding.Alike binding')
    (either : made = now.world ∨ made = withStandard now.world)
    (unbuilt : ∀ source routine, now.world.sourceFor binding = .ok source →
      source.routine binding.environment.marker binding.escape ≠ .ok routine) :
    ∃ error after, build binding' made = .failed error after ∧ ∀ className attributes,
      now.registry.classes.lookup className = some number →
        (∀ value built, (Sketch.member className attributes).build now.registry now.world = .done value built →
          (now.step (.ask (.toText (.member className attributes)))).1 = (now.conclude (.failed error after)).1) ∧
        ∀ requests, (∀ request ∈ requests, Session.Turn request) →
          (∀ state ∈ now.states requests, terms.libraries state.world.library) →
            (now.step (.ask (.toText (.member className attributes)))).2.run requests = now.run requests := by
  obtain ⟨_, error₁, error, after₁, after, failed₁, failed, moves, pair⟩ :=
    (whole.tidy.matched.eitherSecond either).unbuilt alike unbuilt
  refine ⟨error, after, failed, fun className attributes named => ?_⟩
  have built_fails : ∀ value built, (Sketch.member className attributes).build now.registry now.world = .done value built →
      ∃ later error₂ after₂, build binding built = .failed error₂ after₂ ∧
        terms.Moves bond later now.world built after₁ after₂ ∧ later.objects error₁ error₂ := by
    intro value built made
    have piles := (Quiet.sketched World.Piles.accruing now.registry (.member className attributes)).leads.of_done made
    have library := (Quiet.sketched accruing_library now.registry (.member className attributes)).leads.of_done made
    obtain ⟨later, error₃, error₂, after₃, after₂, failed₃, failed₂, moves₂, pair₂⟩ :=
      (whole.tidy.matched.pilesSecond piles library).unbuilt (.refl binding) unbuilt
    rw [failed₁] at failed₃
    cases failed₃
    exact ⟨later, error₂, after₂, failed₂, moves₂, pair₂⟩
  have asked := toText_unbuilt named own fun value built made => by
    obtain ⟨_, error₂, after₂, failed₂, -, -⟩ := built_fails value built made
    exact ⟨error₂, after₂, failed₂⟩
  have registry : (now.step (.ask (.toText (.member className attributes)))).2.registry = now.registry := by
    rw [Session.step_ask]
  rw [Session.step_conclude, asked] at registry ⊢
  constructor
  · intro value built made
    obtain ⟨_, error₂, after₂, failed₂, moves₂, pair₂⟩ := built_fails value built made
    rw [bind_done made, bind_failed failed₂, moves₂.failures whole.tidy.strict pair₂ now now,
      moves.failures whole.tidy.strict pair now now]
  · intro requests turns known
    have quiet {related : World → World → Prop} (accruing : Accruing related) : Quiet related (do
        let _ ← (Sketch.member className attributes).build now.registry
        let _ ← build binding
        return (.done, now.registry) : Effect (Answer × Registry)) :=
      Quiet.bind accruing (Quiet.sketched accruing now.registry _) fun _ =>
        Quiet.bind accruing (Quiet.build accruing binding) fun _ => Quiet.pure accruing _
    have piles : World.Piles now.world (now.conclude _).2.world :=
      Quiet.conclude World.Piles.accruing (quiet World.Piles.accruing)
    have library : (now.conclude _).2.world.library = now.world.library :=
      Quiet.conclude accruing_library (quiet accruing_library)
    generalize (now.conclude _).2 = behind at registry piles library ⊢
    obtain ⟨world, _⟩ := behind
    subst registry
    exact run_same (whole.tidy.matched.pilesSecond piles library) whole.tidy.settled whole.tidy.strict whole.lists turns
      known

end Terms

/-! ## Histories -/

section History

variable {home module : Text} {files : List (Text × List UInt8)} {colours : Bool} {setup : List Request} {session : Session}
  {number : Nat} {options : DisplayOptions} {shown : World} {history : List Request}

/-- What is known of a class that was displayed once things have happened. -/
structure Lasting (terms : Terms) (bond : Bond) (number : Nat) (options : DisplayOptions) (library : Library)
    (binding : Binding) (record : ClassRecord) (now : Session) : Prop where
  whole : terms.TidySession bond now
  found : now.world.classes[number]? = some record
  complete : Complete record binding
  /-- The class is bound to the same as before when it is displayed again. -/
  bound : ∀ library, ∃ binding' between, bindClass record options { now.world with library := library } =
    .done binding' between ∧ binding.Alike binding' ∧
      (between = { now.world with library := library } ∨ between = withStandard { now.world with library := library })
  built : options.reload = false → ∃ source routine number' outer function,
    { now.world with library := library }.sourceFor binding = .ok source ∧
      source.routine binding.environment.marker binding.escape = .ok routine ∧
        terms.Given bond now.world number' binding.namespaceNumber outer ⟨source, binding.escape, routine, function⟩ ∧
          now.world.own number "__str__" = some (.hook (.renders number' record.qualifiedName))
  reloaded : options.reload = true → terms.bindings binding ∧
    now.world.own number "__str__" = some (.hook (.reloads binding record.qualifiedName))

/-- What is known of a class that was displayed lasts. -/
theorem lasting_displayed {terms : Terms} {bond : Bond} (concealed : terms.hidden renderName) (whole : terms.TidySession bond session)
    (inside : number < session.world.classes.size) (done : display number options session.world = .done () shown)
    (happenings : ∀ request ∈ history, Session.Happening session.registry number request)
    (admits : ∀ state ∈ (⟨shown, session.registry⟩ : Session).states history, terms.Admits state.world) :
    ∃ later binding record, Lasting terms later number options session.world.library binding record
        ((⟨shown, session.registry⟩ : Session).after history) ∧
      ((⟨shown, session.registry⟩ : Session).after history).registry = session.registry := by
  obtain ⟨record, found⟩ : ∃ record, session.world.classes[number]? = some record := ⟨_, Array.getElem?_eq_getElem inside⟩
  obtain ⟨binding, between, bound, either, decorates⟩ := display_decorates (classRecord_of found) done
  have first := whole.tidy.either either
  obtain ⟨bond₁, upkeep, given⟩ := first.tidy.decorated decorates (admits _ (Session.mem_states _ _))
  have whole₁ : terms.TidySession bond₁ ⟨shown, session.registry⟩ := ⟨upkeep.tidy, whole.lists.mono upkeep.grown⟩
  obtain ⟨bond₂, upkeep₂, whole₂⟩ := whole₁.onward admits
  obtain ⟨leaves, registry⟩ := whole₁.leavesAll happenings admits
  have between_classes : between.classes = session.world.classes := by rcases either with rfl | rfl <;> rfl
  have between_library : between.library = session.world.library := by rcases either with rfl | rfl <;> rfl
  obtain ⟨record₁, found₁, names⟩ := decorates.class_names (between_classes ▸ found)
  have own : ((⟨shown, session.registry⟩ : Session).after history).world.own number = shown.own number := by
    funext name
    rw [World.own, leaves.record, World.own]
  have inside' : number < between.classes.size := between_classes ▸ inside
  refine ⟨bond₂, binding, record₁, ⟨whole₂, leaves.record.trans found₁, complete_displayed found bound done found₁, ?_, ?_, ?_⟩,
    registry⟩
  · intro library
    have ground : session.world.SameGround { ((⟨shown, session.registry⟩ : Session).after history).world with library := library } :=
      ((World.Leaves.either number either).ground.trans decorates.ground).trans
        (leaves.ground.trans (World.Leaves.library number _ library).ground)
    obtain ⟨-, binding', between', bound', alike, either'⟩ :=
      bindClass_again ground names.name names.qualifiedName names.module bound
    exact ⟨binding', between', bound', alike, either'⟩
  · intro once
    obtain ⟨source, routine, found, accepted, given⟩ := given concealed once
    refine ⟨source, routine, between.templates.size, between.scopes.size, between.objects.size, ?_, accepted,
      given.stays upkeep₂, ?_⟩
    · rw [World.sourceFor, ← between_library, ← World.sourceFor, found]
    · rw [own, names.qualifiedName]
      exact Decorates.own_built (once ▸ decorates) inside'
  · intro again
    have hook := Decorates.own_reloaded (again ▸ decorates) inside'
    refine ⟨(admits _ (Session.mem_states _ _)).reloads ⟨number, record.qualifiedName, hook⟩, ?_⟩
    rw [own, names.qualifiedName]
    exact hook

/-- Whether rendering an instance of a class fails as an action that failed in a world does, and nothing comes of it for
what is asked later. -/
def Session.FailsAs (now : Session) (number error : Nat) (after : World) (later : List Request) : Prop :=
  ∀ className attributes, now.registry.classes.lookup className = some number →
    (∀ value built, (Sketch.member className attributes).build now.registry now.world = .done value built →
      (now.step (.ask (.toText (.member className attributes)))).1 = (now.conclude (.failed error after)).1) ∧
    (now.step (.ask (.toText (.member className attributes)))).2.run later = now.run later

section Lasting

variable {terms : Terms} {bond : Bond} {library : Library} {binding : Binding} {record : ClassRecord} {now : Session}
  (lasting : Lasting terms bond number options library binding record now)
include lasting

/-- A class whose template was built at once can be displayed again by the source that was there then, and renders as if it
was. -/
theorem Lasting.as_built (unread : terms.unread "__kiln_template__") (once : options.reload = false) : ∃ fresh,
    display number options { now.world with library := library } = .done () fresh ∧
      now.RendersAs ⟨{ fresh with library := now.world.library }, now.registry⟩ := by
  obtain ⟨binding', between, bound, alike, either⟩ := lasting.bound library
  obtain ⟨source, routine, template, outer, function, found, accepted, given, own⟩ := lasting.built once
  have complete := alike.complete lasting.complete
  have found' : between.sourceFor binding' = .ok source := by
    rw [alike.sourceFor, ← found]
    rcases either with rfl | rfl <;> rfl
  have built := build_installed found' (alike.accepted accepted)
  have read : classRecord number { now.world with library := library } = _ := classRecord_of lasting.found
  have done := (display_built read bound once).trans (bind_done built)
  refine ⟨_, done, ?_⟩
  have middle : { between with library := now.world.library } = now.world ∨
      { between with library := now.world.library } = withStandard now.world := by
    rcases either with rfl | rfl
    · exact .inl rfl
    · exact .inr rfl
  have renders := lasting.whole.built_rendersAs unread complete alike middle given own
  rw [showing, completing_complete complete] at renders ⊢
  exact renders

/-- A class whose template is reloaded renders as if it was displayed just now, or it fails as displaying it fails. -/
theorem Lasting.as_reloaded (concealed : terms.hidden renderName) (unread : terms.unread "__kiln_template__") (again : options.reload = true)
    {later : List Request} (turns : ∀ request ∈ later, Session.Turn request)
    (known : ∀ state ∈ now.states later, terms.libraries state.world.library) :
    (∃ fresh, display number { options with reload := false } now.world = .done () fresh ∧
        now.RendersAs ⟨fresh, now.registry⟩) ∨
      ∃ error after, display number { options with reload := false } now.world = .failed error after ∧
        now.FailsAs number error after later := by
  obtain ⟨binding', between, bound, alike, either⟩ := lasting.bound now.world.library
  obtain ⟨both, own⟩ := lasting.reloaded again
  have complete := alike.complete lasting.complete
  have displayed : display number { options with reload := false } now.world = _ :=
    display_built (classRecord_of lasting.found) bound rfl
  have library : between.library = now.world.library := by rcases either with rfl | rfl <;> rfl
  by_cases builds : ∃ source routine, now.world.sourceFor binding = .ok source ∧
      source.routine binding.environment.marker binding.escape = .ok routine
  · obtain ⟨source, routine, found, accepted⟩ := builds
    have found' : between.sourceFor binding' = .ok source := by
      rw [alike.sourceFor, World.sourceFor, library]
      exact found
    have built := build_installed found' (alike.accepted accepted)
    exact .inl ⟨_, displayed.trans (bind_done built),
      lasting.whole.reloaded_rendersAs unread complete alike either concealed both found accepted own⟩
  · have unbuilt (source : TemplateSource) (routine : Routine) (found : now.world.sourceFor binding = .ok source)
        (accepted : source.routine binding.environment.marker binding.escape = .ok routine) : False :=
      builds ⟨source, routine, found, accepted⟩
    obtain ⟨error, after, failed, fails⟩ := lasting.whole.reload_failed own alike either unbuilt
    refine .inr ⟨error, after, displayed.trans (bind_failed failed), fun className attributes named => ?_⟩
    obtain ⟨same, nothing⟩ := fails className attributes named
    exact ⟨same, nothing later turns known⟩

end Lasting

/-- A class that was displayed renders, whatever happened since, as if it was displayed just now: by what was there when it
was displayed, or by what is there now if its template is reloaded.  When displaying it now fails, rendering it fails alike,
and nothing comes of it. -/
theorem displayed_as_fresh {later : List Request}
    (reached : (Session.start home module files colours).after setup = session)
    (inside : number < session.world.classes.size) (done : display number options session.world = .done () shown)
    (happenings : ∀ request ∈ history, Session.Happening session.registry number request)
    (turns : ∀ request ∈ later, Session.Turn request)
    (modest : Modest ((Session.start home module files colours).states setup ++
      (⟨shown, session.registry⟩ : Session).states (history ++ later))) :
    let now := (⟨shown, session.registry⟩ : Session).after history
    (options.reload = false → ∃ fresh,
      display number options { now.world with library := session.world.library } = .done () fresh ∧
        now.RendersAs ⟨{ fresh with library := now.world.library }, now.registry⟩) ∧
    (options.reload = true →
      (∃ fresh, display number { options with reload := false } now.world = .done () fresh ∧
        now.RendersAs ⟨fresh, now.registry⟩) ∨
      ∃ error after, display number { options with reload := false } now.world = .failed error after ∧
        now.FailsAs number error after later) := by
  intro now
  have admits := modest.admits
  have started : (termsOf modest).TidySession _ _ := Terms.tidy_start id home module files colours
    (admits _ (List.mem_append_left _ (Session.mem_states _ _))).library
  obtain ⟨bond, -, whole⟩ := started.onward fun state inside => admits state (List.mem_append_left _ inside)
  rw [reached] at whole
  obtain ⟨last, binding, record, lasting, -⟩ := lasting_displayed rfl whole inside done happenings fun state inside =>
    admits state (List.mem_append_right _ (Session.states_append _ _ _ inside))
  refine ⟨lasting.as_built rfl, fun again => lasting.as_reloaded rfl rfl again turns fun state inside => ?_⟩
  exact (admits state (List.mem_append_right _ (Session.states_after _ _ _ inside))).library

end History

/-- A loader with a template, and a class. -/
def pageSetup : List Request :=
  [.define "l" (.loader (.mapping [("t.txt", "old")])), .define "Page" (.classOf ⟨"Page", "Page", "site", none, []⟩)]

/-- The session in which the class is to be displayed. -/
def pageSession : Session := (Session.start [] "site" [] false).after pageSetup

/-- How the class is to be displayed. -/
def pageOptions (reload : Bool) : DisplayOptions :=
  { DisplayOptions.standard with path := some "t.txt", loader := some (.mapping 0), reload := reload }

/-- The session after the class was displayed. -/
def shownPage (reload : Bool) : Session :=
  match display 0 (pageOptions reload) pageSession.world with
  | .done _ world => ⟨world, pageSession.registry⟩
  | _ => pageSession

/-- Asking for the text of an instance. -/
def askPage : Request := .ask (.toText (.member "Page" []))

/-- The template becomes one that is not accepted, and then another one, and an instance is rendered meanwhile. -/
def pageEdits : List Request :=
  [.ask (.putSource "l" "t.txt" (some "\x7b\x7b")), askPage, .ask (.putSource "l" "t.txt" (some "new"))]

/-- Whether an action came to an end without an error. -/
def Outcome.isDone {α : Type} : Outcome α → Bool
  | .done _ _ => true
  | _ => false

theorem done_page (reload : Bool) :
    display 0 (pageOptions reload) pageSession.world = .done () (shownPage reload).world := by
  have shows : (display 0 (pageOptions reload) pageSession.world).isDone := by cases reload <;> decide +kernel
  unfold shownPage
  cases ended : display 0 (pageOptions reload) pageSession.world with
  | done value world => rfl
  | failed error world =>
      rw [ended] at shows
      cases shows
  | exhausted =>
      rw [ended] at shows
      cases shows

theorem modest_page (reload : Bool) : Modest ((Session.start [] "site" [] false).states pageSetup ++
    (⟨(shownPage reload).world, pageSession.registry⟩ : Session).states (pageEdits ++ [askPage])) := by
  cases reload <;> exact modest_of (by decide +kernel) (by decide +kernel)

theorem turns_page : ∀ request ∈ pageEdits ++ [askPage], Session.Turn request := by
  have asked : Session.Turn askPage := .rendering (.toText _)
  have edited (source : Option Text) : Session.Turn (.ask (.putSource "l" "t.txt" source)) := .edit (.putSource _ _ _)
  simp only [pageEdits, List.cons_append, List.nil_append, List.forall_mem_cons]
  exact ⟨edited _, asked, edited _, asked, nofun⟩

/-- The session after the template changed. -/
def editedPage (reload : Bool) : Session :=
  (⟨(shownPage reload).world, pageSession.registry⟩ : Session).after pageEdits

/-- A page whose template was changed renders by the old one if it was built at once, and by the new one if it is
reloaded. -/
theorem edited_page_as_fresh :
    (∃ fresh, display 0 (pageOptions false) { (editedPage false).world with library := pageSession.world.library } =
        .done () fresh ∧
      (editedPage false).RendersAs
        ⟨{ fresh with library := (editedPage false).world.library }, (editedPage false).registry⟩) ∧
    (∃ fresh, display 0 (pageOptions false) (editedPage true).world = .done () fresh ∧
      (editedPage true).RendersAs ⟨fresh, (editedPage true).registry⟩) ∧
    outputTexts [((editedPage false).step askPage).1, ((editedPage true).step askPage).1] =
      ["old".toList, "new".toList] := by
  have turns := List.forall_mem_append.mp turns_page
  have happens (request : Request) (there : request ∈ pageEdits) :
      Session.Happening pageSession.registry 0 request := .turn (turns.1 request there)
  have inside : 0 < pageSession.world.classes.size := by decide +kernel
  refine ⟨(displayed_as_fresh rfl inside (done_page false) happens turns.2 (modest_page false)).1 rfl, ?_,
    by decide +kernel⟩
  rcases (displayed_as_fresh rfl inside (done_page true) happens turns.2 (modest_page true)).2 rfl with
    fresh | ⟨error, after, failed, -⟩
  · exact fresh
  · have shows : (display 0 (pageOptions false) (editedPage true).world).isDone := by decide +kernel
    rw [show display 0 (pageOptions false) (editedPage true).world = .failed error after from failed] at shows
    cases shows

/-- Two classes are displayed by one template, which is reloaded for the second, and instances are rendered. -/
def sharedRequests (text : Text) (asked : List Request) : List Request :=
  let display (reload : Bool) : DisplaySketch := ⟨none, some "t.txt", none, some (.known "l"), none, none, reload⟩
  [.define "l" (.loader (.mapping [("t.txt", text)])),
    .define "E" (.classOf ⟨"E", "E", "site", none, []⟩), .ask (.display "E" (display false)),
    .define "R" (.classOf ⟨"R", "R", "site", none, []⟩), .ask (.display "R" (display true))] ++ asked

/-- A template that reads the template of a class, or what its own routine keeps, tells classes that are reloaded from
others. -/
theorem reloading_told_apart :
    outputTexts ((Session.start [] "site" [] false).run (sharedRequests "\x7b\x7b self.__kiln_template__ \x7d\x7d"
      [.ask (.toText (.member "E" [])), .ask (.toText (.member "R" []))])) =
        ["<Template t.txt 'text/plain; charset=utf-8'>".toList, "None".toList] ∧
    outputTexts ((Session.start [] "site" [] false).run (sharedRequests
      "%% try \x7b\n\x7b\x7b render.n \x7d\x7d\n%% \x7d except AttributeError \x7b\nnone\n%% \x7d\n%% render.n = 1\n"
      [.ask (.toText (.member "E" [])), .ask (.toText (.member "E" [])), .ask (.toText (.member "R" [])),
        .ask (.toText (.member "R" []))])) = ["none\n".toList, "1\n".toList, "none\n".toList, "none\n".toList] := by
  constructor <;> decide +kernel

end Stencil
