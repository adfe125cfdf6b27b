import Stencil.Proofs.TwinSessions

/-!
# Sessions that are alike to themselves

The world of a session is alike to itself, and so is the world after a request, whatever is asked for: what is there leads
to what is there, and nothing but hidden names leads to the routines of templates.  What is kept stays as it is.
-/

namespace Stencil

open Effect Routine Script Manners

/-! ## Adding to a world -/

/-- Growing, where loaders can get new mappings and policies can change as well. -/
def World.Piles (world after : World) : Prop :=
  world.Grows { after with library := world.library, policies := world.policies } ∧ world.identities ≤ after.identities

theorem World.Piles.accruing : Accruing World.Piles where
  refl world := ⟨.refl world, le_rfl⟩
  trans {world between after} first second := by
    refine ⟨⟨fun there => second.1.objects (first.1.objects there), fun there => second.1.scopes (first.1.scopes there),
      fun there => second.1.templates (first.1.templates there), ?_⟩, first.2.trans second.2⟩
    have same := congrArg (fun grown : World => { grown with
      library := world.library, policies := world.policies, objects := world.objects, scopes := world.scopes,
      templates := world.templates, identities := world.identities }) second.1.rest
    exact same.trans first.1.rest
  object world object := ⟨.pushObject world object, le_rfl⟩
  standard world := ⟨.refl world, le_rfl⟩
  template world source escape routine globals := ⟨.installed world source escape routine globals, le_rfl⟩
  identities world := ⟨.identities world _, Nat.le_succ _⟩

/-! ## Changing classes -/

theorem Manners.SameRecord.put {terms : Manners} {bond : Bond} {record record' : ClassRecord} (same : terms.SameRecord bond record record') {name : Text}
    {value value' : Value} (alike : terms.unread name ∨ terms.SameShared bond value value') :
    terms.SameRecord bond { record with attributes := putEntry name value record.attributes }
      { record' with attributes := putEntry name value' record'.attributes } where
  name := same.name
  qualifiedName := same.qualifiedName
  module := same.module
  base := same.base
  attributes asked seen := by
    by_cases here : asked = name
    · subst here
      rw [lookup_putEntry, lookup_putEntry]
      exact .some (alike.resolve_left seen)
    · rw [lookup_putEntry_ne here, lookup_putEntry_ne here]
      exact same.attributes asked seen

namespace Terms

variable {terms : Terms} {bond later last : Bond} {world world' between after after' : World} {α β : Type}

/-- Worlds that are alike stay so when more is added to them. -/
theorem Matched.grows (matched : terms.Matched bond world world') (grows : world.Grows after) (grows' : world'.Grows after')
    (more : world.identities ≤ after.identities) (more' : world'.identities ≤ after'.identities) :
    terms.Moves bond bond world world' after after' := by
  refine matched.moves le_rfl (grows.stays matched.kept matched.still) (grows'.stays matched.kept' matched.still') ?_ ?_
    (fun own => grows.object_lt (matched.kept own)) (fun own => grows'.object_lt (matched.kept' own))
    (fun own => grows.scope_lt (matched.still own)) (fun own => grows'.scope_lt (matched.still' own)) ?_ ?_ .inl id ?_
  · rw [grows.handled, grows'.handled]
    exact matched.handled
  · exact fun pair => ⟨(matched.identities pair).1.trans more, (matched.identities pair).2.trans more'⟩
  · intro address address' pair
    obtain ⟨object, object', found, found', same⟩ := matched.objects pair
    exact ⟨object, object', grows.objects found, grows'.objects found', same⟩
  · intro inside number number' pair
    obtain ⟨scope, scope', found, found', same⟩ := matched.scopes pair
    exact ⟨scope, scope', grows.scopes found, grows'.scopes found', same⟩
  · intro place placed
    obtain ⟨_, _, found, found', -⟩ := (matched.gathers placed).lists
    exact (matched.gathers placed).carried le_rfl id ((grows.objects found).trans found.symm)
      ((grows'.objects found').trans found'.symm) grows.scopes grows'.scopes

/-! ## Worlds that are alike to themselves -/

/-- Whether a world is alike to itself. -/
structure Tidy (terms : Terms) (bond : Bond) (world : World) : Prop where
  strict : ¬ terms.guarded
  matched : terms.Matched bond world world
  settled : ∀ {binding : Binding} {number : Nat}, ¬ bond.rebuilds binding number

/-- Whether a world that is alike to itself has become another such world. -/
structure Upkeep (terms : Terms) (bond later : Bond) (world after : World) : Prop where
  grown : bond ≤ later
  tidy : terms.Tidy later after
  objects : ∀ {address : Nat}, bond.kept address → after.objects[address]? = world.objects[address]?
  scopes : ∀ {number : Nat}, bond.still number → after.scopes[number]? = world.scopes[number]?
  templates : ∀ {number : Nat} {template : Template}, world.templates[number]? = some template →
    after.templates[number]? = some template

theorem Tidy.rest (tidy : terms.Tidy bond world) : terms.Upkeep bond bond world world :=
  ⟨le_rfl, tidy, fun _ => rfl, fun _ => rfl, id⟩

theorem Upkeep.trans (first : terms.Upkeep bond later world between) (second : terms.Upkeep later last between after) :
    terms.Upkeep bond last world after where
  grown := first.grown.trans second.grown
  tidy := second.tidy
  objects own := (second.objects (first.grown.kept own)).trans (first.objects own)
  scopes own := (second.scopes (first.grown.still own)).trans (first.scopes own)
  templates there := second.templates (first.templates there)

theorem Tidy.moves (tidy : terms.Tidy bond world) (moves : terms.Moves bond later world world after after) :
    terms.Upkeep bond later world after where
  grown := moves.grown
  tidy := ⟨tidy.strict, moves.matched, fun built => tidy.settled (moves.rebuilds built)⟩
  objects := moves.first.objects
  scopes := moves.first.scopes
  templates := moves.first.templates

section Changing

variable (tidy : terms.Tidy bond world)
include tidy

theorem Tidy.reframed (same : world.SameStores after) (known : terms.libraries after.library)
    (namespaces : ∀ number : Nat, Option.Rel (terms.SameEntries bond) (after.namespaces[number]?) (after.namespaces[number]?))
    (classes : ∀ number : Nat, Option.Rel (terms.SameRecord bond) (after.classes[number]?) (after.classes[number]?)) :
    terms.Upkeep bond bond world after where
  grown := le_rfl
  tidy := ⟨tidy.strict, tidy.matched.reframed same same rfl known rfl namespaces rfl classes fun built => absurd built tidy.settled,
    tidy.settled⟩
  objects _ := by rw [same.objects]
  scopes _ := by rw [same.scopes]
  templates there := by rwa [same.templates]

/-- Adding to a world leaves it alike to itself. -/
theorem Tidy.piles (piles : world.Piles after) (known : terms.libraries after.library) :
    terms.Upkeep bond bond world after := by
  obtain ⟨grows, more⟩ := piles
  have grown := tidy.moves (tidy.matched.grows grows grows more more)
  exact grown.trans (grown.tidy.reframed ⟨rfl, rfl, rfl, rfl, rfl⟩ known grown.tidy.matched.namespaces
    grown.tidy.matched.classes)

theorem Tidy.openNamespace {entries : List (Text × Value)} (each : terms.SameEntries bond entries entries) :
    terms.Upkeep bond bond world { world with namespaces := world.namespaces.push entries } := by
  refine tidy.reframed ⟨rfl, rfl, rfl, rfl, rfl⟩ tidy.matched.known (fun number => ?_) tidy.matched.classes
  rw [Array.getElem?_push]
  split
  · exact .some each
  · exact tidy.matched.namespaces number

theorem Tidy.putGlobal {name : Text} {value : Value} (same : terms.Same bond value value) (number : Nat) :
    terms.Upkeep bond bond world { world with namespaces := world.namespaces.modify number (putEntry name value) } := by
  refine tidy.reframed ⟨rfl, rfl, rfl, rfl, rfl⟩ tidy.matched.known (fun other => ?_) tidy.matched.classes
  have there := tidy.matched.namespaces other
  rw [Array.getElem?_modify]
  split
  · generalize world.namespaces[other]? = entries, world.namespaces[other]? = entries' at there ⊢
    cases there with
    | none => exact .none
    | some alike => exact .some (Alike.put alike same)
  · exact there

theorem Tidy.pushClass {record : ClassRecord} (same : terms.SameRecord bond record record) :
    terms.Upkeep bond bond world { world with classes := world.classes.push record } := by
  refine tidy.reframed ⟨rfl, rfl, rfl, rfl, rfl⟩ tidy.matched.known tidy.matched.namespaces fun number => ?_
  rw [Array.getElem?_push]
  split
  · exact .some same
  · exact tidy.matched.classes number

end Changing

/-! ## Actions -/

/-- Whether an action that starts in a world that is alike to itself ends in such a world; `good` says what is known of
the value that it ends with. -/
inductive Tidies (terms : Terms) (bond : Bond) (good : Bond → α → Prop) (world : World) : Outcome α → Prop where
  | done {later : Bond} {value : α} {after : World} (upkeep : terms.Upkeep bond later world after)
    (fine : good later value) : Tidies terms bond good world (.done value after)
  | failed {later : Bond} {error : Nat} {after : World} (upkeep : terms.Upkeep bond later world after)
    (pair : later.objects error error) : Tidies terms bond good world (.failed error after)
  | exhausted : Tidies terms bond good world .exhausted

variable {good : Bond → α → Prop} {fine : Bond → β → Prop}

theorem Tidies.behind (upkeep : terms.Upkeep bond later world between) {outcome : Outcome α}
    (tidies : terms.Tidies later good between outcome) : terms.Tidies bond good world outcome := by
  cases tidies with
  | done more fine => exact .done (upkeep.trans more) fine
  | failed more pair => exact .failed (upkeep.trans more) pair
  | exhausted => exact .exhausted

theorem Tidies.bind {action : Effect α} {next : α → Effect β} (first : terms.Tidies bond good world (action world))
    (second : ∀ later value between, action world = .done value between → terms.Upkeep bond later world between →
      good later value → terms.Tidies later fine between (next value between)) :
    terms.Tidies bond fine world ((action >>= next) world) := by
  rw [Effect.bind_apply]
  cases ended : action world with
  | done value between =>
      rw [ended] at first
      cases first with
      | done upkeep fine => exact (second _ _ _ ended upkeep fine).behind upkeep
  | failed error after =>
      rw [ended] at first
      cases first with
      | failed upkeep pair => exact .failed upkeep pair
  | exhausted => exact .exhausted

theorem Twin.tidies {good : Bond → α → α → Prop} {action : Effect α} (twin : terms.Twin bond good action action)
    (tidy : terms.Tidy bond world) :
    terms.Tidies bond (fun later value => good later value value) world (action world) := by
  have ends := twin bond le_rfl world world tidy.matched
  generalize action world = outcome at ends ⊢
  cases outcome with
  | done value after =>
      cases ends with
      | done moves fine => exact .done (tidy.moves moves) fine
  | failed error after =>
      cases ends with
      | failed moves pair => exact .failed (tidy.moves moves) pair
  | exhausted => exact .exhausted

/-! ## Classes -/

/-- Whether the templates that stand in a world say only what they may say. -/
def Fair (terms : Terms) (world : World) : Prop :=
  ∀ template ∈ world.templates, terms.Discreet (.name "self" :: mentionsOfBlock template.routine.body)

theorem Tidy.put (tidy : terms.Tidy bond world) (number : Nat) (name : Text) {value : Value}
    (alike : number < world.classes.size → terms.unread name ∨ terms.SameShared bond value value) :
    terms.Upkeep bond bond world (world.put number name value) := by
  refine tidy.reframed ⟨rfl, rfl, rfl, rfl, rfl⟩ tidy.matched.known tidy.matched.namespaces fun other => ?_
  have there := tidy.matched.classes other
  rw [World.put, Array.getElem?_modify]
  split
  · rename_i here
    subst here
    cases found : world.classes[number]? with
    | none => exact .none
    | some record =>
        rw [found] at there
        cases there with
        | some same => exact .some (same.put (alike (Array.getElem?_eq_some_iff.mp found).1))
  · exact there

theorem Tidy.putIf (tidy : terms.Tidy bond world) (condition : Bool) (number : Nat) (name : Text) {value : Value}
    (alike : terms.SameShared bond value value) :
    terms.Upkeep bond bond world (world.putIf condition number name value) := by
  cases condition with
  | false => exact tidy.rest
  | true => exact tidy.put number name fun _ => .inr alike

theorem Tidy.completing (tidy : terms.Tidy bond world) (number : Nat) (record : ClassRecord) (binding : Binding) :
    terms.Upkeep bond bond world (completing number record binding world) := by
  have first := tidy.putIf (record.attributes.lookup "content_type".toList).isNone number "content_type"
    (.value (.plain binding.contentType))
  exact first.trans (first.tidy.putIf _ number "__html__" (.hook (.trusts _)))

/-- Showing a class by a template leaves a world alike to itself. -/
theorem Tidy.showing (tidy : terms.Tidy bond world) (number : Nat) (record : ClassRecord) (binding : Binding)
    {template : Nat} (pair : bond.templates template template) :
    terms.Upkeep bond bond world (showing number record binding template world) := by
  have first := tidy.put number "__str__" fun _ =>
    .inr (.hook (.renders (bond.programs_of_templates pair) record.qualifiedName))
  have second := first.tidy.put number "__kiln_template__" fun _ => .inr (.value (.template pair))
  exact (first.trans second).trans (second.tidy.completing number record binding)

theorem Tidy.reloading (tidy : terms.Tidy bond world) {number : Nat} (record : ClassRecord) {binding : Binding}
    (both : number < world.classes.size → terms.bindings binding) :
    terms.Upkeep bond bond world (reloading number record binding world) := by
  have first := tidy.put number "__kiln_template__" fun _ => .inr (.value .none)
  have second := first.tidy.put number "__str__" fun inside =>
    .inr (.hook (.reloads (both (by rwa [World.size_put] at inside)) record.qualifiedName))
  exact (first.trans second).trans (second.tidy.completing number record binding)

end Terms

/-- Whether a class itself becomes text by a template that is built again for every rendering. -/
def World.Reloads (world : World) (binding : Binding) : Prop :=
  ∃ number owner, world.own number "__str__" = some (.hook (.reloads binding owner))

namespace Terms

variable {terms : Terms} {bond later last : Bond} {world world' between after after' : World} {number : Nat}
  {record : ClassRecord} {binding : Binding}

/-- Whether what is in a world may be there on the terms. -/
structure Admits (terms : Terms) (world : World) : Prop where
  library : terms.libraries world.library
  templates : terms.Fair world
  reloads : ∀ {binding : Binding}, world.Reloads binding → terms.bindings binding

/-- What is there of a template that a class was given. -/
structure Given (terms : Terms) (bond : Bond) (world : World) (number globals outer : Nat) (template : Template) :
    Prop where
  concealed : terms.hidden renderName
  kept : bond.kept template.function
  still : bond.still outer
  listed : world.templates[number]? = some template
  hosts : world.Hosts template globals outer
  discreet : terms.Discreet (.name "self" :: mentionsOfBlock template.routine.body)

theorem Given.stays {globals outer : Nat} {template : Template}
    (given : terms.Given bond world number globals outer template) (upkeep : terms.Upkeep bond later world after) :
    terms.Given later after number globals outer template where
  concealed := given.concealed
  kept := upkeep.grown.kept given.kept
  still := upkeep.grown.still given.still
  listed := upkeep.templates given.listed
  discreet := given.discreet
  hosts := by
    obtain ⟨attributes, function⟩ := given.hosts.function
    exact ⟨⟨attributes, (upkeep.objects given.kept).trans function⟩, (upkeep.scopes given.still).trans given.hosts.scope⟩

/-- Making a template leaves a world alike to itself. -/
theorem Tidy.installed (tidy : terms.Tidy bond world) (source : TemplateSource) (escape : Bool) (globals : Nat)
    {routine : Routine} (discreet : terms.Discreet (.name "self" :: mentionsOfBlock routine.body)) : ∃ later,
    terms.Upkeep bond later world (Routine.installed source escape routine globals world) ∧
      later.templates world.templates.size world.templates.size ∧ (terms.hidden renderName →
        terms.Given later (Routine.installed source escape routine globals world) world.templates.size globals
          world.scopes.size ⟨source, escape, routine, world.objects.size⟩) := by
  obtain ⟨later, moves, pair, kept, still⟩ := tidy.matched.installed source escape globals discreet
  exact ⟨later, tidy.moves moves, pair, fun concealed => ⟨concealed, kept concealed, still, Array.getElem?_push_size,
    hosts_installed source escape routine globals world, discreet⟩⟩

/-- A template that stands in a world says only what it may say. -/
theorem Fair.listed (fair : terms.Fair world) {template : Template} (there : world.templates[number]? = some template) :
    terms.Discreet (.name "self" :: mentionsOfBlock template.routine.body) :=
  fair template (Array.mem_of_getElem? there)

theorem Tidy.withStandard (tidy : terms.Tidy bond world) : terms.Upkeep bond bond world (Stencil.withStandard world) :=
  tidy.reframed ⟨rfl, rfl, rfl, rfl, rfl⟩ tidy.matched.known tidy.matched.namespaces tidy.matched.classes

/-- Displaying a class leaves a world alike to itself. -/
theorem Tidy.decorated (tidy : terms.Tidy bond world) {reload : Bool}
    (decorates : Decorates number record binding world reload after) (admits : terms.Admits after) :
    ∃ later, terms.Upkeep bond later world after ∧ (terms.hidden renderName → reload = false → ∃ source routine,
      world.sourceFor binding = .ok source ∧
        source.routine binding.environment.marker binding.escape = .ok routine ∧
          terms.Given later after world.templates.size binding.namespaceNumber world.scopes.size
            ⟨source, binding.escape, routine, world.objects.size⟩) := by
  cases decorates with
  | @built source routine found accepted =>
      obtain ⟨classes, only⟩ := showing_only number record binding world.templates.size
        (Routine.installed source binding.escape routine binding.namespaceNumber world)
      have listed : (Routine.installed source binding.escape routine binding.namespaceNumber world).templates[
          world.templates.size]? = some ⟨source, binding.escape, routine, world.objects.size⟩ := Array.getElem?_push_size
      have discreet : terms.Discreet (.name "self" :: mentionsOfBlock routine.body) := by
        have fair := admits.templates
        rw [only] at fair
        exact fair.listed listed
      obtain ⟨later, upkeep, pair, given⟩ := tidy.installed source binding.escape binding.namespaceNumber discreet
      have shown := upkeep.tidy.showing number record binding pair
      exact ⟨later, upkeep.trans shown, fun concealed _ =>
        ⟨source, routine, found, accepted, (given concealed).stays shown⟩⟩
  | reloaded =>
      refine ⟨bond, tidy.reloading record fun inside => ?_, fun _ => nofun⟩
      exact admits.reloads ⟨number, _, own_reloading inside record binding⟩

theorem Tidy.either (tidy : terms.Tidy bond world) (either : between = world ∨ between = Stencil.withStandard world) :
    terms.Upkeep bond bond world between := by
  rcases either with rfl | rfl
  · exact tidy.rest
  · exact tidy.withStandard

end Terms

theorem Decorates.library {number : Nat} {record : ClassRecord} {binding : Binding} {world after : World} {reload : Bool}
    (decorates : Decorates number record binding world reload after) : after.library = world.library := by
  cases decorates with
  | built =>
      obtain ⟨classes, only⟩ := showing_only number record binding world.templates.size _
      rw [only]
      rfl
  | reloaded =>
      obtain ⟨classes, only⟩ := reloading_only number record binding world
      rw [only]

/-! ## Displaying as a request -/

/-- Whether an action only adds to the world, apart from new mappings of loaders. -/
def Unobtrusive {α : Type} (action : Effect α) : Prop :=
  ∀ {related : World → World → Prop}, Accruing related →
    (∀ world library, related world { world with library := library }) → Quiet related action

/-- The way in which a class is to be displayed. -/
def Session.optionsOf (registry : Registry) (sketch : DisplaySketch) : Effect DisplayOptions := do
  let loader ← loaderIfAny registry sketch.loader
  let environment ← match sketch.environment with
    | none => pure none
    | some id => do pure (some (← found id registry.environments))
  return ⟨sketch.text, sketch.path, sketch.suffix, loader, environment, sketch.escape, sketch.reload⟩

theorem Session.unobtrusive_optionsOf (registry : Registry) (sketch : DisplaySketch) :
    Unobtrusive (Session.optionsOf registry sketch) := by
  intro related accruing library
  refine Quiet.bind accruing (Quiet.loaderIfAny accruing library registry sketch.loader) fun loader => ?_
  cases sketch.environment with
  | none => exact Quiet.bind accruing (Quiet.pure accruing _) fun _ => Quiet.pure accruing _
  | some id =>
      exact Quiet.bind accruing (Quiet.found accruing id _) fun _ => Quiet.bind accruing (Quiet.pure accruing _) fun _ =>
        Quiet.pure accruing _

theorem Session.displayClass_optionsOf (registry : Registry) (number : Nat) (sketch : DisplaySketch) (world : World) :
    displayClass registry number sketch world = (optionsOf registry sketch >>= display number) world := by
  rw [displayClass, optionsOf]
  cases loaded : loaderIfAny registry sketch.loader world with
  | failed error after => rw [bind_failed loaded, bind_failed (bind_failed loaded)]
  | exhausted => rw [bind_exhausted loaded, bind_exhausted (bind_exhausted loaded)]
  | done loader between =>
      rw [bind_done loaded, Effect.bind_apply, bind_done loaded]
      cases sketch.environment with
      | none => rfl
      | some id =>
          dsimp only
          rw [Effect.bind_apply, Effect.bind_apply]
          cases found id registry.environments between <;> rfl

theorem Quiet.rehearsed {related : World → World → Prop} (accruing : Accruing related) (number : Nat)
    (options : DisplayOptions) : Quiet related (rehearse number options) := by
  refine bind accruing (bind accruing (world accruing) fun _ => pure accruing _) fun record =>
    bind accruing (bindClass accruing record options) fun binding => ?_
  split
  · exact pure accruing _
  · exact bind accruing (build accruing binding) fun _ => pure accruing _

theorem Session.answer_display {registry : Registry} {className : Text} {number : Nat}
    (named : registry.classes.lookup className = some number) {info : World → ClassInfo}
    (informed : ∀ world, infoOf number world = .done (info world) world) (sketch : DisplaySketch) (world : World) :
    answer registry (.ask (.display className sketch)) world =
      match (optionsOf registry sketch >>= display number) world with
      | .done _ next => .done (.displayed (info next), registry) next
      | .failed error after => .failed error after
      | .exhausted => .exhausted := by
  have known : fulfil registry (.display className sketch) = (do
      displayClass registry number sketch
      return .displayed (← infoOf number)) := by
    rw [fulfil, found, named]
    rfl
  rw [answer, known, Effect.bind_apply, Effect.bind_apply, displayClass_optionsOf]
  cases (optionsOf registry sketch >>= display number) world with
  | done _ next =>
      dsimp only
      rw [bind_done (informed next)]
      rfl
  | failed error after => rfl
  | exhausted => rfl

/-- A request to display a class either only adds to the world, or it displays the class. -/
theorem Session.step_display (session : Session) (className : Text) (sketch : DisplaySketch) :
    (∃ action, Unobtrusive action ∧
      session.step (.ask (.display className sketch)) = session.conclude (action session.world)) ∨
    ∃ number options between next answer, session.registry.classes.lookup className = some number ∧
      (∃ opening, Unobtrusive opening ∧ opening session.world = .done options between) ∧
        display number options between = .done () next ∧
          session.step (.ask (.display className sketch)) = (answer, ⟨next, session.registry⟩) := by
  obtain ⟨world, registry⟩ := session
  rw [Session.step_conclude]
  dsimp only
  cases named : registry.classes.lookup className with
  | none =>
      refine .inl ⟨raiseText .key className, fun accruing _ => Quiet.raiseText accruing _ _, ?_⟩
      have unknown : fulfil registry (.display className sketch) = raiseText .key className := by
        rw [fulfil, found, named]
        rfl
      rw [answer, unknown]
      rfl
  | some number =>
      obtain ⟨info, informed⟩ : ∃ info : World → ClassInfo, ∀ world, infoOf number world = .done (info world) world := ⟨_, fun _ => rfl⟩
      rw [answer_display named informed sketch world]
      cases opened : optionsOf registry sketch world with
      | failed error after =>
          refine .inl ⟨do let _ ← optionsOf registry sketch; return (.done, registry), fun accruing library =>
            Quiet.bind accruing (unobtrusive_optionsOf registry sketch accruing library) fun _ => Quiet.pure accruing _, ?_⟩
          rw [bind_failed opened, bind_failed opened]
      | exhausted =>
          refine .inl ⟨do let _ ← optionsOf registry sketch; return (.done, registry), fun accruing library =>
            Quiet.bind accruing (unobtrusive_optionsOf registry sketch accruing library) fun _ => Quiet.pure accruing _, ?_⟩
          rw [bind_exhausted opened, bind_exhausted opened]
      | done options between =>
          rw [bind_done opened]
          cases displayed : display number options between with
          | done _ next =>
              exact .inr ⟨number, options, between, next, _, rfl, ⟨_, unobtrusive_optionsOf registry sketch, opened⟩,
                displayed, rfl⟩
          | failed error after =>
              refine .inl ⟨do rehearse number (← optionsOf registry sketch); return (.done, registry),
                fun accruing library => Quiet.bind accruing (unobtrusive_optionsOf registry sketch accruing library)
                  fun options => Quiet.bind accruing (Quiet.rehearsed accruing number options) fun _ =>
                    Quiet.pure accruing _, ?_⟩
              rw [bind_done opened, bind_failed (rehearse_failed displayed)]
          | exhausted => exact .inl ⟨Effect.exhausted, fun _ _ => Quiet.exhausted _, rfl⟩

/-! ## Requests -/

/-- Whether an action ends only with values of a kind. -/
def Gives {α : Type} (good : α → Prop) (action : Effect α) : Prop :=
  ∀ (world after : World) (value : α), action world = .done value after → good value

namespace Gives

variable {α β : Type} {good : α → Prop}

theorem pure {value : α} (fine : good value) : Gives good (Pure.pure value) := by
  intro world after value done
  cases done
  exact fine

theorem bind {action : Effect β} {next : β → Effect α} (each : ∀ value, Gives good (next value)) :
    Gives good (action >>= next) := by
  intro world after value done
  obtain ⟨value', between, -, done⟩ := of_bind_done done
  exact each value' _ _ _ done

/-- A chore names no template. -/
theorem chore {registry : Registry} {request : Request} (chore : Session.Chore request) :
    Gives (fun pair => pair.2.templates = registry.templates) (Session.answer registry request) := by
  cases chore with
  | loader => exact bind fun _ => pure rfl
  | policy => exact bind fun _ => bind fun _ => bind fun _ => pure rfl
  | environment => exact bind fun _ => pure rfl
  | _ => exact bind fun _ => pure rfl

end Gives

namespace Session

variable {session : Session} {action : Effect (Answer × Registry)}

/-- The templates that are named stay so unless an action names others. -/
theorem conclude_templates (gives : Gives (fun pair => pair.2.templates = session.registry.templates) action) :
    (session.conclude (action session.world)).2.registry.templates = session.registry.templates := by
  cases ended : action session.world with
  | done pair after => exact gives _ _ _ ended
  | exhausted => rfl
  | failed error after =>
      unfold conclude
      dsimp only
      cases failureOf error after <;> rfl

end Session

namespace Terms

variable {terms : Terms} {bond later : Bond} {world after : World} {registry : Registry} {session : Session}
  {request : Request}

theorem lists_of_templates {registry' : Registry} (lists : bond.Lists registry) (same : registry'.templates = registry.templates) :
    bond.Lists registry' := fun id number found => lists id number (same ▸ found)

theorem lists_put (lists : bond.Lists registry) {number : Nat} (pair : bond.templates number number) (id : Text) :
    bond.Lists { registry with templates := putEntry id number registry.templates } := by
  intro id' number' found
  by_cases same : id' = id
  · subst same
    rw [lookup_putEntry] at found
    cases found
    exact pair
  · rw [lookup_putEntry_ne same] at found
    exact lists _ _ found

/-- Whether the world of a session is alike to itself, also where its templates are named. -/
structure TidySession (terms : Terms) (bond : Bond) (session : Session) : Prop where
  tidy : terms.Tidy bond session.world
  lists : bond.Lists session.registry

/-- An action that ends in a world that is alike to itself leaves the session so. -/
theorem TidySession.conclude (whole : terms.TidySession bond session) {action : Effect (Answer × Registry)}
    (tidies : terms.Tidies bond (fun later pair => later.Lists pair.2) session.world (action session.world)) :
    ∃ later, terms.Upkeep bond later session.world (session.conclude (action session.world)).2.world ∧
      later.Lists (session.conclude (action session.world)).2.registry := by
  cases ended : action session.world with
  | done pair after =>
      rw [ended] at tidies
      cases tidies with
      | done upkeep lists => exact ⟨_, upkeep, lists⟩
  | exhausted => exact ⟨bond, whole.tidy.rest, whole.lists⟩
  | failed error after =>
      rw [ended] at tidies
      cases tidies with
      | @failed later _ _ upkeep pair =>
          have explained := (twin_failureOf upkeep.tidy.strict pair : terms.Twin _ Equal _ _).tidies upkeep.tidy
          unfold Session.conclude
          dsimp only
          generalize Session.failureOf error after = outcome at explained ⊢
          cases explained with
          | done more _ => exact ⟨_, upkeep.trans more, whole.lists.mono (upkeep.grown.trans more.grown)⟩
          | failed more _ => exact ⟨_, upkeep.trans more, whole.lists.mono (upkeep.grown.trans more.grown)⟩
          | exhausted => exact ⟨_, upkeep, whole.lists.mono upkeep.grown⟩

/-- An action that is quiet leaves a session alike to itself. -/
theorem TidySession.quiet (whole : terms.TidySession bond session) {action : Effect (Answer × Registry)}
    (quiet : Quiet World.Piles action)
    (known : terms.libraries (session.conclude (action session.world)).2.world.library) :
    terms.Upkeep bond bond session.world (session.conclude (action session.world)).2.world :=
  whole.tidy.piles (quiet.conclude World.Piles.accruing) known

/-! ### Templates -/

theorem twin_buildNamed (lists : bond.Lists registry) (sketches : List (Text × Sketch)) :
    terms.Twin bond terms.SameEntries (Sketch.buildNamed registry sketches) (Sketch.buildNamed registry sketches) := by
  refine (twin_namedSlots sketches lists).bind fun _ _ built built' each => twin_pure fun _ grown => ?_
  refine List.forall₂_map_left_iff.mpr (List.forall₂_map_right_iff.mpr (each.imp fun _ _ both => ?_))
  exact ⟨both.1, (settled_same both.2).mono grown⟩

/-- Compiling a source leaves a world alike to itself. -/
theorem Tidy.compiled (tidy : terms.Tidy bond world) (environment : Environment) (source : TemplateSource)
    (decision : Option Bool) (globals : Nat)
    (fair : ∀ number after, compile environment source decision globals world = .done number after → terms.Fair after) :
    terms.Tidies bond (fun later number => later.templates number number) world
      (compile environment source decision globals world) := by
  obtain ⟨escape, -, same⟩ := compile_decided environment source decision globals world
  rw [same] at fair ⊢
  cases accepted : source.routine environment.marker escape with
  | error error =>
      rw [compile_refused accepted]
      exact (twin_raiseCompileError _ error : terms.Twin bond Bond.templates _ _).tidies tidy
  | ok routine =>
      rw [compile_installed accepted] at fair ⊢
      have discreet : terms.Discreet (.name "self" :: mentionsOfBlock routine.body) :=
        fair _ _ rfl ⟨source, escape, routine, world.objects.size⟩ Array.mem_push_self
      obtain ⟨later, upkeep, pair, -⟩ := tidy.installed source escape globals discreet
      exact .done upkeep pair

theorem Tidy.compiledWith (tidy : terms.Tidy bond world) (lists : bond.Lists registry) (options : TemplateOptions)
    (environment : Environment) (source : TemplateSource)
    (fair : ∀ number after, Session.compileWith registry options environment source world = .done number after →
      terms.Fair after) :
    terms.Tidies bond (fun later number => later.templates number number) world
      (Session.compileWith registry options environment source world) := by
  refine ((twin_buildNamed lists options.globals).tidies tidy).bind fun later entries between built upkeep each => ?_
  have opened := upkeep.tidy.openNamespace each
  refine (opened.tidy.compiled environment source options.escape _ fun number after done => fair number after ?_).behind
    opened
  exact (bind_done built).trans done

theorem Tidy.found {α : Type} (tidy : terms.Tidy bond world) (id : Text) (entries : List (Text × α)) :
    terms.Tidies bond (fun _ _ => True) world (Effect.found id entries world) :=
  ((twin_found id entries).weaken fun _ _ _ _ => trivial : terms.Twin bond Whatever _ _).tidies tidy

theorem Tidy.environmentIfAny (tidy : terms.Tidy bond world) (registry : Registry) (id : Option Text) :
    terms.Tidies bond (fun _ _ => True) world (Session.environmentIfAny registry id world) := by
  cases id with
  | none => exact .done tidy.withStandard trivial
  | some id => exact tidy.found id registry.environments

theorem Tidy.sourceOf (tidy : terms.Tidy bond world) (environment : Environment) (name : Text) :
    terms.Tidies bond (fun _ _ => True) world (sourceOf environment name world) := by
  rw [Effect.sourceOf, world_bind]
  cases environment.source world.library name with
  | ok source => exact .done tidy.rest trivial
  | error error => exact (twin_raiseLoadError error : terms.Twin bond Whatever _ _).tidies tidy

/-- The answer about a template that gets a name. -/
theorem named (tidy : terms.Tidy bond world) (lists : bond.Lists registry) {number : Nat}
    (pair : bond.templates number number) (id : Text) :
    terms.Tidies bond (fun later pair => later.Lists pair.2) world ((do
      return (← Session.templateAnswer number, { registry with templates := putEntry id number registry.templates }) :
        Effect (Answer × Registry)) world) :=
  .done tidy.rest (lists_put lists pair id)

/-- Defining a template leaves a session alike to itself. -/
theorem TidySession.template (whole : terms.TidySession bond session) (id : Text) {find : Effect Environment}
    (read : Environment → Effect TemplateSource) (options : TemplateOptions)
    (finds : terms.Tidies bond (fun _ _ => True) session.world (find session.world))
    (reads : ∀ later environment between, terms.Tidy later between →
      terms.Tidies later (fun _ _ => True) between (read environment between))
    {action : Effect (Answer × Registry)} (same : action session.world = (do
      let environment ← find
      let source ← read environment
      let number ← Session.compileWith session.registry options environment source
      return (← Session.templateAnswer number,
        { session.registry with templates := putEntry id number session.registry.templates }) :
          Effect (Answer × Registry)) session.world)
    (fair : terms.Fair (session.conclude (action session.world)).2.world) :
    terms.Tidies bond (fun later pair => later.Lists pair.2) session.world (action session.world) := by
  rw [same] at fair ⊢
  refine finds.bind fun first environment world₁ found upkeep₁ _ => ?_
  rw [bind_done found] at fair
  refine (reads first environment world₁ upkeep₁.tidy).bind fun second source world₂ there upkeep₂ _ => ?_
  rw [bind_done there] at fair
  have lists := whole.lists.mono (upkeep₁.grown.trans upkeep₂.grown)
  refine (upkeep₂.tidy.compiledWith lists options environment source fun number after done => ?_).bind
    fun third number world₃ compiled upkeep₃ pair => named upkeep₃.tidy (lists.mono upkeep₃.grown) pair id
  rw [bind_done done] at fair
  exact fair

/-! ### Classes and modules -/

theorem Tidy.definedClass (tidy : terms.Tidy bond world) (lists : bond.Lists registry) (sketch : ClassSketch) :
    terms.Tidies bond (fun _ _ => True) world (Session.defineClass registry sketch world) := by
  have pushing (base : Option Nat) {bond : Bond} {world : World} (tidy : terms.Tidy bond world)
      (lists : bond.Lists registry) : terms.Tidies bond (fun _ _ => True) world ((do
        let attributes ← Sketch.buildNamed registry sketch.attributes
        let world ← Effect.world
        change fun world =>
          { world with classes := world.classes.push ⟨sketch.name, sketch.qualifiedName, sketch.module, base, attributes⟩ }
        return world.classes.size : Effect Nat) world) := by
    refine ((twin_buildNamed lists sketch.attributes).tidies tidy).bind fun later attributes between _ upkeep each => ?_
    refine .done (upkeep.tidy.pushClass ⟨rfl, rfl, rfl, rfl, fun name _ => ?_⟩) trivial
    exact rel_imp (fun _ _ same => .value same) (Alike.lookup each name)
  unfold Session.defineClass
  cases sketch.base with
  | none => exact pushing none tidy lists
  | some id =>
      exact (tidy.found id registry.classes).bind fun later base between _ upkeep _ => pushing (some base) upkeep.tidy (lists.mono upkeep.grown)

theorem moduleNames_same (name : Text) (file : Option Text) :
    terms.SameEntries bond (Session.moduleNames name file) (Session.moduleNames name file) := by
  refine Alike.append (.cons ⟨rfl, .plain name⟩ (.cons ⟨rfl, .none⟩ (.cons ⟨rfl, .none⟩ (.cons ⟨rfl, .none⟩
    (.cons ⟨rfl, .none⟩ .nil))))) ?_
  cases file with
  | none => exact .nil
  | some file => exact .cons ⟨rfl, .plain file⟩ .nil

theorem putAll_same {globals globals' found found' : List (Text × Value)} (each : terms.SameEntries bond globals globals')
    (first : terms.SameEntries bond found found') :
    terms.SameEntries bond (globals.foldl (fun entries entry => putEntry entry.1 entry.2 entries) found)
      (globals'.foldl (fun entries entry => putEntry entry.1 entry.2 entries) found') := by
  induction each generalizing found found' with
  | nil => exact first
  | cons both _ ih =>
      rw [List.foldl_cons, List.foldl_cons, ← both.1]
      exact ih (Alike.put first both.2)

theorem Tidy.definedModule (tidy : terms.Tidy bond world) (name : Text) (file : Option Text)
    {globals : List (Text × Value)} (each : terms.SameEntries bond globals globals) :
    terms.Tidies bond (fun _ _ => True) world (Session.defineModule name file globals world) := by
  have opened := tidy.openNamespace (putAll_same each (moduleNames_same name file))
  have listed : terms.Upkeep bond bond _ { world with
      namespaces := world.namespaces.push
        (globals.foldl (fun entries entry => putEntry entry.1 entry.2 entries) (Session.moduleNames name file)),
      modules := putEntry name world.namespaces.size world.modules } :=
    opened.tidy.reframed ⟨rfl, rfl, rfl, rfl, rfl⟩ opened.tidy.matched.known opened.tidy.matched.namespaces
      opened.tidy.matched.classes
  exact .done (opened.trans listed) trivial

theorem Tidy.putsGlobal (tidy : terms.Tidy bond world) (module name : Text) {value : Value}
    (same : terms.Same bond value value) :
    terms.Tidies bond (fun _ _ => True) world (Session.putGlobal module name value world) := by
  rw [Session.putGlobal, world_bind]
  exact (tidy.found module world.modules).bind fun later number between _ upkeep _ =>
    .done (upkeep.tidy.putGlobal (same.mono upkeep.grown) number) trivial

/-- Answering a query leaves the names of a session as they are. -/
theorem Tidies.asked (lists : bond.Lists registry) {query : Query} {good : Bond → Answer → Prop}
    (tidies : terms.Tidies bond good world (Session.fulfil registry query world)) :
    terms.Tidies bond (fun later pair => later.Lists pair.2) world (Session.answer registry (.ask query) world) :=
  tidies.bind fun _ _ _ _ upkeep _ => .done upkeep.tidy.rest (lists.mono upkeep.grown)

/-- A request leaves a session alike to itself. -/
theorem TidySession.step (whole : terms.TidySession bond session) (request : Request)
    (admits : terms.Admits (session.step request).2.world) :
    ∃ later, terms.Upkeep bond later session.world (session.step request).2.world ∧
      later.Lists (session.step request).2.registry := by
  have chore (chore : Session.Chore request) : ∃ later,
      terms.Upkeep bond later session.world (session.step request).2.world ∧
        later.Lists (session.step request).2.registry := by
    have known := admits.library
    rw [Session.step_conclude] at known ⊢
    have quiet := Quiet.chore World.Piles.accruing (fun world library => ⟨.refl world, le_rfl⟩)
      (fun world policies => ⟨.refl world, le_rfl⟩) session.registry chore
    refine ⟨bond, whole.quiet quiet known, lists_of_templates whole.lists ?_⟩
    exact Session.conclude_templates (Gives.chore chore)
  have fair := admits.templates
  cases request with
  | define id definition =>
      cases definition with
      | loader sketch => exact chore (.loader id sketch)
      | policy extra => exact chore (.policy id extra)
      | environment loader policy marker => exact chore (.environment id loader policy marker)
      | template environment text name suffix options =>
          rw [Session.step_conclude] at fair ⊢
          exact whole.conclude (whole.template id (fun _ => pure ⟨text, name, none, contentTypeOf suffix⟩) options
            (whole.tidy.environmentIfAny session.registry environment)
            (fun _ _ _ tidy => .done tidy.rest trivial) rfl fair)
      | namedTemplate environment name options =>
          rw [Session.step_conclude] at fair ⊢
          exact whole.conclude (whole.template id (fun environment => sourceOf environment name) options
            (whole.tidy.found environment session.registry.environments) (fun _ environment _ tidy => tidy.sourceOf environment name) rfl fair)
      | classOf sketch =>
          rw [Session.step_conclude]
          refine whole.conclude ((whole.tidy.definedClass whole.lists sketch).bind fun _ _ _ _ upkeep _ => ?_)
          exact .done upkeep.tidy.rest (lists_of_templates (whole.lists.mono upkeep.grown) rfl)
  | ask query =>
      cases query with
      | writeFile path contents => exact chore (.edit (.writeFile path contents))
      | removeFile path => exact chore (.edit (.removeFile path))
      | putSource loader name source => exact chore (.edit (.putSource loader name source))
      | load loader name => exact chore (.load loader name)
      | listTemplates loader => exact chore (.listTemplates loader)
      | listPaths loader => exact chore (.listPaths loader)
      | register policy contentType decision => exact chore (.register policy contentType decision)
      | decide policy contentType => exact chore (.decide policy contentType)
      | covers policy contentType => exact chore (.covers policy contentType)
      | readSource environment name => exact chore (.readSource environment name)
      | inspect className => exact chore (.inspect className)
      | render template context =>
          rw [Session.step_conclude]
          exact whole.conclude (((twin_rendering whole.tidy.strict whole.lists (.render template context)).tidies whole.tidy).asked whole.lists)
      | toText value =>
          rw [Session.step_conclude]
          exact whole.conclude (((twin_rendering whole.tidy.strict whole.lists (.toText value)).tidies whole.tidy).asked whole.lists)
      | toMarkup value =>
          rw [Session.step_conclude]
          exact whole.conclude (((twin_rendering whole.tidy.strict whole.lists (.toMarkup value)).tidies whole.tidy).asked whole.lists)
      | escape value =>
          rw [Session.step_conclude]
          exact whole.conclude (((twin_rendering whole.tidy.strict whole.lists (.escape value)).tidies whole.tidy).asked whole.lists)
      | defineModule name file globals =>
          rw [Session.step_conclude]
          refine whole.conclude (@Tidies.asked terms _ _ _ whole.lists _ (fun _ _ => True) ?_)
          refine ((twin_buildNamed whole.lists globals).tidies whole.tidy).bind fun _ globals _ _ upkeep each => ?_
          exact (upkeep.tidy.definedModule name file each).bind fun _ _ _ _ upkeep _ => .done upkeep.tidy.rest trivial
      | putGlobal module name value =>
          rw [Session.step_conclude]
          refine whole.conclude (@Tidies.asked terms _ _ _ whole.lists _ (fun _ _ => True) ?_)
          refine ((twin_sketched whole.lists value).tidies whole.tidy).bind fun _ value _ _ upkeep same => ?_
          exact (upkeep.tidy.putsGlobal module name same).bind fun _ _ _ _ upkeep _ => .done upkeep.tidy.rest trivial
      | display className sketch =>
          have registry : (session.step (.ask (.display className sketch))).2.registry = session.registry := by
            rw [Session.step_ask]
          rcases session.step_display className sketch with
            ⟨action, unobtrusive, same⟩ | ⟨number, options, between, next, answer, -, ⟨opening, unobtrusive, opened⟩, done, same⟩
          · have known := admits.library
            rw [same] at known
            rw [registry, same]
            exact ⟨bond, whole.quiet (unobtrusive World.Piles.accruing fun world library => ⟨.refl world, le_rfl⟩) known,
              whole.lists⟩
          · rw [same] at admits ⊢
            obtain ⟨record, read⟩ : ∃ record, classRecord number between = .done record between := ⟨_, rfl⟩
            obtain ⟨binding, middle, -, either, decorates⟩ := display_decorates read done
            have piles := (unobtrusive World.Piles.accruing fun world library => ⟨.refl world, le_rfl⟩).leads.of_done opened
            have known : terms.libraries between.library := by
              have same : middle.library = between.library := by rcases either with rfl | rfl <;> rfl
              rw [← same, ← decorates.library]
              exact admits.library
            have first := whole.tidy.piles piles known
            have second := first.trans (first.tidy.either either)
            obtain ⟨later, third, -⟩ := second.tidy.decorated decorates admits
            exact ⟨later, second.trans third, whole.lists.mono third.grown⟩

/-- Requests leave a session alike to itself. -/
theorem TidySession.onward (whole : terms.TidySession bond session) {requests : List Request}
    (admits : ∀ state ∈ session.states requests, terms.Admits state.world) : ∃ later,
      terms.Upkeep bond later session.world (session.after requests).world ∧
        terms.TidySession later (session.after requests) := by
  induction requests generalizing bond session with
  | nil => exact ⟨bond, whole.tidy.rest, whole⟩
  | cons request requests ih =>
      obtain ⟨-, others⟩ := List.forall_mem_cons.mp admits
      obtain ⟨next, first, lists⟩ := whole.step request (others _ (Session.mem_states _ _))
      obtain ⟨later, more, last⟩ := ih ⟨first.tidy, lists⟩ others
      exact ⟨later, first.trans more, last⟩

end Terms

/-- A bond that says of nothing that it belongs together. -/
def Bond.empty : Bond where
  objects _ _ := False
  identities a a' := a = 0 ∧ a' = 0
  templates _ _ := False
  programs _ _ := False
  frames _ _ _ := False
  bases _ _ _ := False
  kept _ := False
  kept' _ := False
  still _ := False
  still' _ := False
  rebuilds _ _ := False
  gathering := none
  objects_unique pair := pair.elim
  identities_unique first second := iff_of_true (first.1.trans second.1.symm) (first.2.trans second.2.symm)
  shared := ⟨rfl, rfl⟩
  templates_unique pair := pair.elim
  programs_of_templates pair := pair.elim
  frames_unique pair := pair.elim fun _ => False.elim
  frames_apart pair := pair.elim
  objects_free pair := pair.elim
  frames_free pair := pair.elim
  bases_still pair := pair.elim
  gathering_frame := nofun
  frames_gathered := False.elim
  gathering_free := nofun
  gathering_apart := nofun

/-- A session that begins is alike to itself. -/
theorem Terms.tidy_start {terms : Terms} (strict : ¬ terms.guarded) (home module : Text) (files : List (Text × List UInt8)) (colours : Bool)
    (known : terms.libraries (Session.start home module files colours).world.library) :
    terms.TidySession Bond.empty (Session.start home module files colours) where
  lists _ _ found := nomatch found
  tidy :=
    { strict
      settled := id
      matched :=
        { library := rfl
          colours := rfl
          handled := .nil
          identities := fun pair => ⟨pair.1.le, pair.2.le⟩
          kept := False.elim
          kept' := False.elim
          still := False.elim
          still' := False.elim
          namespaces := fun number => by
            cases number with
            | zero => exact .some (moduleNames_same module none)
            | succ number => exact .none
          size := rfl
          classes := fun number => .none
          objects := False.elim
          scopes := fun pair => pair.elim False.elim False.elim
          programs := False.elim
          known := known
          rebuilds := False.elim
          gathers := nofun } }

end Stencil
