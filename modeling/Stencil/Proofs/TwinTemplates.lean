import Stencil.Proofs.Decorations
import Stencil.Proofs.TwinScripts

/-!
# Templates in two worlds that are alike

Building a template makes templates that render alike.  A template that is built in the one world only renders like one
that stands in the other world, if that is what would be built there.
-/

namespace Stencil

open Effect Script Routine Manners

/-! ## New templates -/

section Growing

variable {world after : World}

theorem World.Grows.handled (grows : world.Grows after) : after.handled = world.handled := by
  have same := congrArg World.handled grows.rest
  exact same

theorem World.Grows.object_lt (grows : world.Grows after) {address : Nat} (inside : address < world.objects.size) :
    address < after.objects.size :=
  (Array.getElem?_eq_some_iff.mp (grows.objects (Array.getElem?_eq_getElem inside))).1

theorem World.Grows.scope_lt (grows : world.Grows after) {number : Nat} (inside : number < world.scopes.size) :
    number < after.scopes.size :=
  (Array.getElem?_eq_some_iff.mp (grows.scopes (Array.getElem?_eq_getElem inside))).1

/-- A world that grows leaves what is there as it was. -/
theorem World.Grows.stays (grows : world.Grows after) {kept still : Nat → Prop}
    (inside : ∀ {address : Nat}, kept address → address < world.objects.size)
    (within : ∀ {number : Nat}, still number → number < world.scopes.size) : world.Stays kept still after where
  objects own := by
    have there := Array.getElem?_eq_getElem (inside own)
    rw [there, grows.objects there]
  scopes own := by
    have there := Array.getElem?_eq_getElem (within own)
    rw [there, grows.scopes there]
  templates := grows.templates
  rest := congrArg (fun grown : World => { grown with handled := world.handled }) grows.rest

theorem World.Hosts.grows {template : Template} {globals outer : Nat}
    (hosts : world.Hosts template globals outer) (grows : world.Grows after) : after.Hosts template globals outer where
  function := by
    obtain ⟨attributes, there⟩ := hosts.function
    exact ⟨attributes, grows.objects there⟩
  scope := grows.scopes hosts.scope

theorem hosts_installed (source : TemplateSource) (escape : Bool) (routine : Routine) (globals : Nat) (world : World) :
    (installed source escape routine globals world).Hosts ⟨source, escape, routine, world.objects.size⟩ globals
      world.scopes.size :=
  ⟨⟨[], Array.getElem?_push_size⟩, Array.getElem?_push_size⟩

end Growing

/-- Whether the lines of two routines come from the same template lines, under the same file name. -/
structure Routine.Traces (routine' routine : Routine) : Prop where
  file : routine'.file = routine.file
  origins : routine'.origins = routine.origins

/-- A bond that also says that two templates, whose routines were made in given scopes, render alike.  What the routines
are called may be a name that no script mentions; otherwise values lead to the routines too. -/
def Bond.withProgram (bond : Bond) (hidden : Prop) (number number' function function' outer outer' : Nat)
    (fresh : ∀ {a a' : Nat}, bond.objects a a' → a ≠ function ∧ a' ≠ function')
    (apart : ∀ {inside : Bool} {a a' : Nat}, bond.frames inside a a' → a ≠ outer ∧ a' ≠ outer')
    (free : hidden ∨ ¬ bond.kept function ∧ ¬ bond.kept' function')
    (other : ∀ {place : Gathering}, bond.gathering = some place → function ≠ place.list ∧ function' ≠ place.list') : Bond :=
  { bond with
    objects := fun a a' => bond.objects a a' ∨ ¬ hidden ∧ a = function ∧ a' = function'
    programs := fun a a' => bond.programs a a' ∨ a = number ∧ a' = number'
    bases := fun inside a a' => bond.bases inside a a' ∨ inside = false ∧ a = outer ∧ a' = outer'
    kept := fun a => bond.kept a ∨ hidden ∧ a = function
    kept' := fun a => bond.kept' a ∨ hidden ∧ a = function'
    still := fun a => bond.still a ∨ a = outer
    still' := fun a => bond.still' a ∨ a = outer'
    objects_unique := by
      rintro a b a' b' (old | ⟨-, rfl, rfl⟩) (old' | ⟨-, rfl, rfl⟩)
      · exact bond.objects_unique old old'
      · exact iff_of_false (fresh old).1 (fresh old).2
      · exact iff_of_false (Ne.symm (fresh old').1) (Ne.symm (fresh old').2)
      · exact iff_of_true rfl rfl
    programs_of_templates := fun pair => .inl (bond.programs_of_templates pair)
    objects_free := by
      rintro a a' (old | ⟨seen, rfl, rfl⟩)
      · exact ⟨not_or_intro (bond.objects_free old).1 fun own => (fresh old).1 own.2,
          not_or_intro (bond.objects_free old).2 fun own => (fresh old).2 own.2⟩
      · have free := free.resolve_left seen
        exact ⟨not_or_intro free.1 fun own => seen own.1, not_or_intro free.2 fun own => seen own.1⟩
    frames_free := fun pair =>
      ⟨not_or_intro (bond.frames_free pair).1 (apart pair).1, not_or_intro (bond.frames_free pair).2 (apart pair).2⟩
    bases_still := by
      rintro inside a a' (old | ⟨-, rfl, rfl⟩)
      · exact ⟨.inl (bond.bases_still old).1, .inl (bond.bases_still old).2⟩
      · exact ⟨.inr rfl, .inr rfl⟩
    gathering_free := fun known =>
      ⟨not_or_intro (bond.gathering_free known).1 fun own => (other known).1 own.2.symm,
        not_or_intro (bond.gathering_free known).2 fun own => (other known).2 own.2.symm⟩
    gathering_apart := by
      rintro place a a' known (old | ⟨-, rfl, rfl⟩)
      · exact bond.gathering_apart known old
      · exact other known }

/-- A bond that also says that two new templates belong together. -/
def Bond.withTemplate (bond : Bond) (number number' : Nat)
    (fresh : ∀ {a a' : Nat}, bond.templates a a' → a ≠ number ∧ a' ≠ number') (pair : bond.programs number number') :
    Bond :=
  { bond with
    templates := fun a a' => bond.templates a a' ∨ a = number ∧ a' = number'
    templates_unique := by
      rintro a b a' b' (old | ⟨rfl, rfl⟩) (old' | ⟨rfl, rfl⟩)
      · exact bond.templates_unique old old'
      · exact iff_of_false (fresh old).1 (fresh old).2
      · exact iff_of_false (Ne.symm (fresh old').1) (Ne.symm (fresh old').2)
      · exact iff_of_true rfl rfl
    programs_of_templates := by
      rintro a a' (old | ⟨rfl, rfl⟩)
      · exact bond.programs_of_templates old
      · exact pair }

namespace Terms

variable {terms : Terms} {bond : Bond} {world world' after after' : World} {α : Type} {good : Bond → α → α → Prop}
  {value value' : Value} {call call' : Caller}

theorem Matched.insideTemplates (matched : terms.Matched bond world world') {number number' : Nat}
    (pair : bond.programs number number') : number < world.templates.size ∧ number' < world'.templates.size := by
  obtain ⟨_, _, there, there', -⟩ := matched.programs pair
  exact ⟨(Array.getElem?_eq_some_iff.mp there).1, (Array.getElem?_eq_some_iff.mp there').1⟩

theorem scopeAround_same {function function' : Nat} (own : terms.hidden renderName ∨ bond.objects function function') :
    Alike (terms.Held false bond) (scopeAround function).values (scopeAround function').values :=
  .cons ⟨rfl, .inr (.builtin .escape)⟩
    (.cons ⟨rfl, .inr (.builtin .text)⟩ (.cons ⟨rfl, own.imp id Same.object⟩ .nil))

/-- Templates with the same routine render alike. -/
theorem Matched.withProgram (matched : terms.Matched bond world world')
    (grows : world.Grows after) (grows' : world'.Grows after') (more : world.identities ≤ after.identities)
    (more' : world'.identities ≤ after'.identities) {number number' globals outer outer' : Nat}
    {template template' : Template} (there : after.templates[number]? = some template)
    (there' : after'.templates[number']? = some template') (source : template'.source = template.source)
    (escape : template'.escape = template.escape) (routine : template'.routine = template.routine)
    (hosts : after.Hosts template globals outer) (hosts' : after'.Hosts template' globals outer')
    (discreet : terms.Discreet (.name "self" :: mentionsOfBlock template.routine.body))
    (fresh : ∀ {a a' : Nat}, bond.objects a a' → a ≠ template.function ∧ a' ≠ template'.function)
    (apart : ∀ {inside : Bool} {a a' : Nat}, bond.frames inside a a' → a ≠ outer ∧ a' ≠ outer')
    (free : terms.hidden renderName ∨ (¬ bond.kept template.function ∧ ¬ bond.kept' template'.function) ∧
      (∃ content, after.objects[template.function]? = some (.function content [])) ∧
        ∃ content', after'.objects[template'.function]? = some (.function content' []))
    (other : ∀ {place : Gathering}, bond.gathering = some place →
      template.function ≠ place.list ∧ template'.function ≠ place.list') :
    terms.Moves bond (bond.withProgram (terms.hidden renderName) number number' template.function template'.function
      outer outer' fresh apart (free.imp id And.left) other) world world' after after' := by
  let bond' := bond.withProgram (terms.hidden renderName) number number' template.function template'.function outer outer'
    fresh apart (free.imp id And.left) other
  have grown : bond ≤ bond' := ⟨.inl, id, id, .inl, id, .inl, .inl, .inl, .inl, .inl, id, id⟩
  obtain ⟨attributes, function⟩ := hosts.function
  obtain ⟨attributes', function'⟩ := hosts'.function
  have alike : terms.SameFunction bond'
      ⟨routineName, ["self"], template.routine.body, outer, template.routine.file, globals⟩
      ⟨routineName, ["self"], template'.routine.body, outer', template'.routine.file, globals⟩ :=
    ⟨rfl, rfl, congrArg Routine.file routine, rfl, false, none, .inr ⟨rfl, .inr ⟨rfl, rfl, rfl⟩⟩, converts_none,
      List.forall_mem_singleton.mpr discreet.name, by rw [routine]; exact recodedBlock_self _ _ _ discreet.tail⟩
  have first : world.Stays bond.kept bond.still after := grows.stays matched.kept matched.still
  have second : world'.Stays bond.kept' bond.still' after' := grows'.stays matched.kept' matched.still'
  refine matched.moves grown first second ?_ ?_ ?_ ?_ ?_ ?_ ?_ ?_ ?_ id ?_
  · rw [grows.handled, grows'.handled]
    exact matched.handled.imp fun _ _ => grown.objects
  · exact fun pair => ⟨(matched.identities pair).1.trans more, (matched.identities pair).2.trans more'⟩
  · rintro address (old | ⟨-, rfl⟩)
    · exact grows.object_lt (matched.kept old)
    · exact (Array.getElem?_eq_some_iff.mp function).1
  · rintro address (old | ⟨-, rfl⟩)
    · exact grows'.object_lt (matched.kept' old)
    · exact (Array.getElem?_eq_some_iff.mp function').1
  · rintro number (old | rfl)
    · exact grows.scope_lt (matched.still old)
    · exact (Array.getElem?_eq_some_iff.mp hosts.scope).1
  · rintro number (old | rfl)
    · exact grows'.scope_lt (matched.still' old)
    · exact (Array.getElem?_eq_some_iff.mp hosts'.scope).1
  · rintro address address' (pair | ⟨seen, rfl, rfl⟩)
    · obtain ⟨object, object', found, found', same⟩ := matched.objects pair
      exact ⟨object, object', grows.objects found, grows'.objects found', same.mono grown⟩
    · obtain ⟨-, ⟨_, found⟩, _, found'⟩ := free.resolve_left seen
      obtain ⟨-, rfl⟩ := Object.function.inj (Option.some.inj (function.symm.trans found))
      obtain ⟨-, rfl⟩ := Object.function.inj (Option.some.inj (function'.symm.trans found'))
      exact ⟨_, _, function, function', .function alike .nil⟩
  · have old {inside : Bool} {number number' : Nat} (pair : bond.scopes inside number number') : ∃ scope scope',
        after.scopes[number]? = some scope ∧ after'.scopes[number']? = some scope' ∧
          terms.SameScope inside bond' number number' scope scope' := by
      obtain ⟨scope, scope', found, found', same⟩ := matched.scopes pair
      exact ⟨scope, scope', grows.scopes found, grows'.scopes found', same.mono grown⟩
    rintro inside number number' (pair | pair | ⟨rfl, rfl, rfl⟩)
    · exact old (.inl pair)
    · exact old (.inr pair)
    · refine ⟨_, _, hosts.scope, hosts'.scope, rfl, scopeAround_same ?_, .none⟩
      exact (Classical.em _).imp id fun seen => .inr ⟨seen, rfl, rfl⟩
  · rintro number number' (old | ⟨rfl, rfl⟩)
    · exact .inl old
    · refine .inr ⟨template, template', there, there', source, escape, routine, ?_⟩
      rcases Classical.em (terms.hidden renderName) with hidden | seen
      · exact .inr ⟨.inr ⟨hidden, rfl⟩, .inr ⟨hidden, rfl⟩, _, _, _, _, function, function', alike⟩
      · exact .inl (.inr ⟨seen, rfl, rfl⟩)
  · intro place known
    obtain ⟨_, _, found, found', -⟩ := (matched.gathers known).lists
    exact (matched.gathers known).carried grown id ((grows.objects found).trans found.symm)
      ((grows'.objects found').trans found'.symm) grows.scopes grows'.scopes

/-- Templates that render alike can be what values lead to. -/
theorem Matched.withTemplate (matched : terms.Matched bond world world') {number number' : Nat}
    (fresh : ∀ {a a' : Nat}, bond.templates a a' → a ≠ number ∧ a' ≠ number') (pair : bond.programs number number') :
    terms.Moves bond (bond.withTemplate number number' fresh pair) world world' world world' := by
  have grown : bond ≤ bond.withTemplate number number' fresh pair :=
    ⟨id, id, .inl, id, id, id, id, id, id, id, id, id⟩
  refine matched.moves grown (.refl world) (.refl world') matched.handled matched.identities matched.kept matched.kept'
    matched.still matched.still' (fun pair => ?_) (fun pair => ?_) .inl id fun known =>
      (matched.gathers known).carried grown id rfl rfl id id
  · obtain ⟨object, object', found, found', same⟩ := matched.objects pair
    exact ⟨object, object', found, found', same.mono grown⟩
  · obtain ⟨scope, scope', found, found', same⟩ := matched.scopes pair
    exact ⟨scope, scope', found, found', same.mono grown⟩

/-- What is there is not among what belongs together of new objects and scopes. -/
theorem Matched.beyond (matched : terms.Matched bond world world') :
    (∀ {a a' : Nat}, bond.objects a a' → a ≠ world.objects.size ∧ a' ≠ world'.objects.size) ∧
      (∀ {inside : Bool} {a a' : Nat}, bond.frames inside a a' → a ≠ world.scopes.size ∧ a' ≠ world'.scopes.size) ∧
        ∀ {place : Gathering}, bond.gathering = some place →
          world.objects.size ≠ place.list ∧ world'.objects.size ≠ place.list' := by
  refine ⟨fun pair => ⟨(matched.inside pair).1.ne, (matched.inside pair).2.ne⟩,
    fun pair => ⟨(matched.insideScopes (.inl pair)).1.ne, (matched.insideScopes (.inl pair)).2.ne⟩, fun known => ?_⟩
  obtain ⟨_, _, there, there', -⟩ := (matched.gathers known).lists
  exact ⟨(Array.getElem?_eq_some_iff.mp there).1.ne', (Array.getElem?_eq_some_iff.mp there').1.ne'⟩

/-- Making templates of a source makes templates that belong together. -/
theorem Matched.installed (matched : terms.Matched bond world world') (source : TemplateSource) (escape : Bool)
    (globals : Nat) {routine : Routine} (discreet : terms.Discreet (.name "self" :: mentionsOfBlock routine.body)) :
    ∃ later, terms.Moves bond later world world' (Routine.installed source escape routine globals world)
        (Routine.installed source escape routine globals world') ∧
      later.templates world.templates.size world'.templates.size ∧
        (terms.hidden renderName → later.kept world.objects.size) ∧ later.still world.scopes.size := by
  obtain ⟨fresh, apart, other⟩ := matched.beyond
  have new : ∀ {a a' : Nat}, bond.templates a a' → a ≠ world.templates.size ∧ a' ≠ world'.templates.size := fun pair =>
    have inside := matched.insideTemplates (bond.programs_of_templates pair)
    ⟨inside.1.ne, inside.2.ne⟩
  have moves := matched.withProgram (.installed world source escape routine globals)
    (.installed world' source escape routine globals) le_rfl le_rfl Array.getElem?_push_size Array.getElem?_push_size rfl
    rfl rfl (hosts_installed source escape routine globals world) (hosts_installed source escape routine globals world')
    discreet fresh apart
    (.inr ⟨⟨fun own => lt_irrefl _ (matched.kept own), fun own => lt_irrefl _ (matched.kept' own)⟩,
      ⟨_, Array.getElem?_push_size⟩, _, Array.getElem?_push_size⟩) other
  exact ⟨_, moves.trans (moves.matched.withTemplate new (.inr ⟨rfl, rfl⟩)), .inr ⟨rfl, rfl⟩,
    fun hidden => .inr ⟨hidden, rfl⟩, .inr rfl⟩

theorem twin_install (source : TemplateSource) (escape : Bool) (globals : Nat)
    {routine : Routine} (discreet : terms.Discreet (.name "self" :: mentionsOfBlock routine.body)) :
    terms.Twin bond Bond.templates (install source escape globals routine) (install source escape globals routine) := by
  intro later grown world world' matched
  rw [install_installed, install_installed]
  obtain ⟨_, moves, pair, -, -⟩ := matched.installed source escape globals discreet
  exact .done moves pair

theorem twin_raiseCompileError (origin : Origin) (error : CompileError) :
    terms.Twin bond good (raiseCompileError origin error) (raiseCompileError origin error) := by
  cases error with
  | nullCharacter => exact twin_raiseText _ _
  | unbalancedPlan => exact twin_raise _ .nil
  | flawed flaw => exact twin_raiseReport _ _ _ _

theorem twin_raiseLoadError (error : LoadError) :
    terms.Twin bond good (raiseLoadError error) (raiseLoadError error) := by
  cases error with
  | missing message => exact twin_raiseText _ _
  | unreadable message => exact twin_fail ⟨rfl, .cons (.plain message) .nil, .nil, rfl, rfl, rfl⟩
  | unopened message number => exact twin_fail ⟨rfl, .cons (.plain message) .nil, .nil, rfl, rfl, rfl⟩
  | tooLong path =>
      exact twin_raiseNoting _ (.cons (.number 36) (.cons (.plain _) .nil))
        (.cons ⟨rfl, .number 36⟩ (.cons ⟨rfl, .plain _⟩ (.cons ⟨rfl, .plain path⟩ .nil)))
  | unknownEncoding name => exact twin_raiseText _ _

theorem twin_build {binding : Binding} (both : terms.bindings binding) :
    terms.Twin bond Bond.templates (build binding) (build binding) := by
  intro later grown world world' matched
  have same : world'.sourceFor binding = world.sourceFor binding := by
    rw [World.sourceFor, World.sourceFor, matched.library]
  rw [build_installing, build_installing, same]
  cases found : world.sourceFor binding with
  | error error => exact twin_raiseLoadError error later le_rfl world world' matched
  | ok source =>
      dsimp only
      unfold installing
      cases accepted : source.routine binding.environment.marker binding.escape with
      | error error => exact twin_raiseCompileError _ error later le_rfl world world' matched
      | ok routine =>
          have discreet := terms.discreet matched.known both found accepted
          exact twin_install source _ _ discreet later le_rfl world world' matched

/-- A template that is built in the one world renders like the one that is ready in the other world. -/
theorem Matched.rebuilt (matched : terms.Matched bond world world') {binding : Binding}
    {number' : Nat} (built : bond.rebuilds binding number') : ∃ later number after,
      build binding world = .done number after ∧ terms.Moves bond later world world' after world' ∧
        later.programs number number' := by
  obtain ⟨template', outer', there', ready⟩ := matched.rebuilds built
  have done := build_installed ready.found ready.accepted
  obtain ⟨fresh, apart, other⟩ := matched.beyond
  have fresh : ∀ {a a' : Nat}, bond.objects a a' → a ≠ world.objects.size ∧ a' ≠ template'.function := fun pair =>
    ⟨(fresh pair).1, fun same => (bond.objects_free pair).2 (same ▸ ready.kept)⟩
  have apart : ∀ {inside : Bool} {a a' : Nat}, bond.frames inside a a' → a ≠ world.scopes.size ∧ a' ≠ outer' := fun pair =>
    ⟨(apart pair).1, fun same => (bond.frames_free pair).2 (same ▸ ready.still)⟩
  have other : ∀ {place : Gathering}, bond.gathering = some place →
      world.objects.size ≠ place.list ∧ template'.function ≠ place.list' := fun known =>
    ⟨(other known).1, fun same => (bond.gathering_free known).2 (same ▸ ready.kept)⟩
  have moves := matched.withProgram (.installed world _ binding.escape template'.routine _) (.refl world') le_rfl
    le_rfl Array.getElem?_push_size there' rfl ready.escape rfl (hosts_installed _ _ _ _ world) ready.hosts
    ready.discreet fresh apart (.inl ready.concealed) other
  exact ⟨_, _, _, done, moves, .inr ⟨rfl, rfl⟩⟩

/-! ## Rendering -/

/-- Whether the routines of templates that render alike do the same. -/
def TwinRoutines (terms : Terms) (bond : Bond) (call call' : Caller) : Prop :=
  ∀ later, bond ≤ later → ∀ world world', terms.Matched later world world' → ∀ {template template' : Template},
    terms.SameProgram later world world' template template' → ∀ {arguments arguments' : List Value},
      terms.Sames later arguments arguments' → terms.Ends later terms.Same world world'
        (call (.object template.function) arguments world) (call' (.object template'.function) arguments' world')

theorem TwinRoutines.mono {bond' : Bond} (grown : bond ≤ bond') (routines : terms.TwinRoutines bond call call') :
    terms.TwinRoutines bond' call call' :=
  fun later more => routines later (grown.trans more)

theorem twin_textsOf (calls : terms.TwinCalls bond call call') {values values' : List Value}
    (each : terms.Sames bond values values') : terms.Twin bond Equal (textsOf call values) (textsOf call' values') := by
  induction values generalizing bond values' with
  | nil =>
      cases each
      exact twin_equal []
  | cons value values ih =>
      obtain ⟨value', values', same, others, rfl⟩ := List.forall₂_cons_left_iff.mp each
      refine (calls _ le_rfl (.builtin .text) (.cons same .nil)).bind fun _ grown text text' same => ?_
      refine (ih (calls.mono grown) (Sames.mono grown others)).bind fun _ _ texts _ equal => ?_
      subst equal
      rw [contentOf_same same]
      exact twin_equal _

variable {template template' : Template} {error error' : Nat} {incident incident' : Incident}

/-- What is said of an error depends neither on where the routine stands nor on what it does. -/
theorem faultFor_same (source : template'.source = template.source)
    (routine : template'.routine.Traces template.routine) (same : terms.SameIncident bond incident incident') (text described : Text) :
    template'.faultFor incident' text described = template.faultFor incident text described := by
  obtain ⟨kind, arguments, attributes, report, trace, cause⟩ := incident
  obtain ⟨kind', arguments', attributes', report', trace', cause'⟩ := incident'
  obtain ⟨kinds, -, -, -, traces, -⟩ := same
  obtain ⟨source, escape, ⟨file, origins, text, body⟩, function⟩ := template
  obtain ⟨source', escape', ⟨file', origins', text', body'⟩, function'⟩ := template'
  obtain ⟨files, lines⟩ := routine
  dsimp only at *
  subst_vars
  rfl

theorem twin_faultOf (calls : terms.TwinCalls bond call call') (source : template'.source = template.source)
    (routine : template'.routine.Traces template.routine) (pair : bond.objects error error')
    (same : terms.SameIncident bond incident incident') :
    terms.Twin bond Equal (faultOf call template error incident) (faultOf call' template' error' incident') := by
  refine (calls _ le_rfl (.builtin .text) (.cons (.object pair) .nil)).bind fun later grown text text' said => ?_
  have calls := calls.mono grown
  have same := same.mono grown
  have finishing (arguments : List Text) : terms.Twin later Equal
      (pure (template.faultFor incident (contentOf text) (describedBy incident.kind (contentOf text) arguments)))
      (pure (template'.faultFor incident' (contentOf text') (describedBy incident'.kind (contentOf text') arguments))) := by
    rw [contentOf_same said, same.kind, faultFor_same source routine same]
    exact twin_equal _
  dsimp only
  rw [contentOf_same said]
  rw [contentOf_same said] at finishing
  split
  · exact (twin_textsOf calls same.arguments).bind fun _ more arguments _ equal =>
      equal ▸ (finishing arguments).mono more
  · exact (twin_equal []).bind fun _ more arguments _ equal => equal ▸ (finishing arguments).mono more

theorem enclose_same (source : template'.source = template.source) (routine : template'.routine.Traces template.routine)
    (same : terms.SameIncident bond incident incident') :
    terms.SameIncident bond (enclose template incident) (enclose template' incident') := by
  have frames : template'.frameFor incident'.trace = template.frameFor incident.trace := by
    obtain ⟨source, escape, ⟨file, origins, text, body⟩, function⟩ := template
    obtain ⟨source', escape', ⟨file', origins', text', body'⟩, function'⟩ := template'
    obtain ⟨files, lines⟩ := routine
    dsimp only at *
    subst_vars
    rw [same.trace]
    rfl
  unfold enclose
  rw [same.report]
  split
  · exact { same with report := by rw [frames] }
  · exact same

theorem twin_explain (calls : terms.TwinCalls bond call call') (source : template'.source = template.source)
    (routine : template'.routine.Traces template.routine) (pair : bond.objects error error') :
    terms.Twin bond terms.Same (explain call template error) (explain call' template' error') := by
  refine twin_read fun later grown world world' matched => ?_
  have pair := grown.objects pair
  have raised := incident?_same matched pair
  generalize world.incident? error = found, world'.incident? error' = found' at raised ⊢
  cases raised with
  | none => exact twin_failWith pair
  | @some incident incident' same =>
      dsimp only
      rw [same.kind]
      split
      · refine (twin_changeIncident pair fun _ _ _ _ same => enclose_same source routine same).bind fun _ more _ _ _ => ?_
        exact twin_failWith (more.objects pair)
      · split
        · exact twin_failWith pair
        · refine (twin_faultOf (calls.mono grown) source routine pair same).bind fun _ _ fault _ equal => ?_
          subst equal
          exact twin_raiseReport _ _ _ _

theorem twin_render (calls : terms.TwinCalls bond call call') (routines : terms.TwinRoutines bond call call')
    {number number' : Nat} (pair : bond.programs number number') (same : terms.Same bond value value') :
    terms.Twin bond terms.Same (render call number value) (render call' number' value') := by
  intro later grown world world' matched
  obtain ⟨template, template', there, there', alike⟩ := matched.programs (grown.programs pair)
  rw [render, render, world_bind, world_bind, there, there']
  refine (routines later grown world world' matched alike (.cons (same.mono grown) .nil)).recover
    fun later' more between between' matched' error error' pair => ?_
  exact twin_explain (calls.mono (grown.trans more)) alike.source (alike.routine ▸ ⟨rfl, rfl⟩) pair later' le_rfl between
    between' matched'

end Terms
end Stencil
