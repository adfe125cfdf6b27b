import Stencil.Proofs.DisplayedClasses

/-!
# Displaying a class again

What a class is bound to depends on its name and its module, on the policies and on how it is to be displayed.  So a class
that is displayed again later is bound to the same, although what loaders read may have changed meanwhile.
-/

namespace Stencil

open Effect Routine

/-- Whether the modules and the decisions of the policies are the same in two worlds. -/
structure World.SameGround (world after : World) : Prop where
  modules : after.modules = world.modules
  namespaces : after.namespaces = world.namespaces
  policies : ∀ number : Nat, (after.policies[number]?).getD .standard = (world.policies[number]?).getD .standard

theorem World.SameGround.refl (world : World) : world.SameGround world := ⟨rfl, rfl, fun _ => rfl⟩

theorem World.SameGround.trans {world between after : World} (first : world.SameGround between)
    (second : between.SameGround after) : world.SameGround after :=
  ⟨second.modules.trans first.modules, second.namespaces.trans first.namespaces,
    fun number => (second.policies number).trans (first.policies number)⟩

/-- Whether two bindings differ at most in the number of the policy. -/
structure Binding.Alike (binding binding' : Binding) : Prop where
  loader : binding'.environment.loader = binding.environment.loader
  marker : binding'.environment.marker = binding.environment.marker
  name : binding'.name = binding.name
  text : binding'.text = binding.text
  contentType : binding'.contentType = binding.contentType
  escape : binding'.escape = binding.escape
  namespaceNumber : binding'.namespaceNumber = binding.namespaceNumber

theorem Binding.Alike.refl (binding : Binding) : binding.Alike binding := ⟨rfl, rfl, rfl, rfl, rfl, rfl, rfl⟩

theorem Binding.Alike.sourceFor {binding binding' : Binding} (alike : binding.Alike binding') (world : World) :
    world.sourceFor binding' = world.sourceFor binding := by
  rw [World.sourceFor, World.sourceFor, alike.text, alike.name, alike.contentType, Environment.source, Environment.source,
    alike.loader]

theorem Binding.Alike.accepted {binding binding' : Binding} (alike : binding.Alike binding') {source : TemplateSource}
    {routine : Routine} (accepted : source.routine binding.environment.marker binding.escape = .ok routine) :
    source.routine binding'.environment.marker binding'.escape = .ok routine := by
  rw [alike.marker, alike.escape]
  exact accepted

variable {world world' between : World} {record record' : ClassRecord} {options : DisplayOptions} {binding : Binding}

/-- The world with one more policy, which is the standard one. -/
def withStandard (world : World) : World := { world with policies := world.policies.push .standard }

theorem ground_withStandard (world : World) : world.SameGround (withStandard world) where
  modules := rfl
  namespaces := rfl
  policies number := by
    show ((world.policies.push .standard)[number]?).getD .standard = _
    rw [Array.getElem?_push]
    split
    · rename_i here
      rw [here, Array.getElem?_eq_none (le_refl _)]
      rfl
    · rfl

/-- What an environment is besides its policy, and what its policy is. -/
structure SameEnvironment (world world' : World) (environment environment' : Environment) : Prop where
  loader : environment'.loader = environment.loader
  marker : environment'.marker = environment.marker
  policy : (world'.policies[environment'.policy]?).getD .standard = (world.policies[environment.policy]?).getD .standard

/-- The environment that the template of a class is built in is the same again. -/
theorem environmentFor_again (ground : world.SameGround world') (module : record'.module = record.module)
    (options : DisplayOptions) : ∃ environment environment' between between',
      environmentFor record options world = .done environment between ∧
        environmentFor record' options world' = .done environment' between' ∧
          SameEnvironment between between' environment environment' ∧
            (between = world ∨ between = withStandard world) ∧ (between' = world' ∨ between' = withStandard world') := by
  have standing (loader : Option Loader) : SameEnvironment (withStandard world) (withStandard world')
      ⟨loader, world.policies.size, Environment.standardMarker⟩
      ⟨loader, world'.policies.size, Environment.standardMarker⟩ := by
    refine ⟨rfl, rfl, ?_⟩
    show ((world'.policies.push .standard)[world'.policies.size]?).getD .standard =
      ((world.policies.push .standard)[world.policies.size]?).getD .standard
    rw [Array.getElem?_push_size, Array.getElem?_push_size]
  have given (environment : Environment) : SameEnvironment world world' environment environment :=
    ⟨rfl, rfl, ground.policies _⟩
  unfold environmentFor
  cases options.environment with
  | none =>
      cases options.loader with
      | some loader => exact ⟨_, _, _, _, rfl, rfl, standing _, .inr rfl, .inr rfl⟩
      | none =>
          cases options.text with
          | some text => exact ⟨_, _, _, _, rfl, rfl, standing _, .inr rfl, .inr rfl⟩
          | none =>
              refine ⟨_, _, _, _, rfl, rfl, ?_, .inr rfl, .inr rfl⟩
              have file : moduleFile? world' record'.module = moduleFile? world record.module := by
                rw [moduleFile?, moduleFile?, ground.modules, ground.namespaces, module]
              refine ⟨?_, rfl, (standing none).policy⟩
              dsimp only
              rw [file]
  | some environment =>
      cases options.loader with
      | some loader => exact ⟨_, _, _, _, rfl, rfl, given _, .inl rfl, .inl rfl⟩
      | none => exact ⟨_, _, _, _, rfl, rfl, given _, .inl rfl, .inl rfl⟩

/-- The name and the content type of a class's template are the same again. -/
theorem templateOf_again (world' : World) (name : record'.name = record.name) (qualifiedName : record'.qualifiedName = record.qualifiedName)
    {found : Text × Text} (done : templateOf record options world = .done found between) :
    between = world ∧ templateOf record' options world' = .done found world' := by
  unfold templateOf at done ⊢
  rw [name, qualifiedName]
  split at done
  · cases done
    exact ⟨rfl, by rw [if_pos (by assumption)]; rfl⟩
  · rename_i absent
    rw [if_neg absent]
    cases given : firstGiven? [options.path] with
    | some path =>
        rw [given] at done
        cases done
        exact ⟨rfl, rfl⟩
    | none =>
        rw [given] at done
        cases named : Naming.fileName record.name options.suffix with
        | ok file =>
            rw [named] at done
            cases done
            exact ⟨rfl, rfl⟩
        | error error =>
            rw [named] at done
            cases done

/-- A class that is displayed again is bound to the same. -/
theorem bindClass_again (ground : world.SameGround world') (name : record'.name = record.name)
    (qualifiedName : record'.qualifiedName = record.qualifiedName) (module : record'.module = record.module)
    (done : bindClass record options world = .done binding between) :
    (between = world ∨ between = withStandard world) ∧ ∃ binding' between',
      bindClass record' options world' = .done binding' between' ∧ binding.Alike binding' ∧
        (between' = world' ∨ between' = withStandard world') := by
  unfold bindClass at done ⊢
  split at done
  · cases done
  · rename_i apart
    rw [if_neg apart]
    obtain ⟨environment, environment', middle, middle', entered, entered', same, added, added'⟩ :=
      environmentFor_again ground module options
    rw [bind_done entered] at done
    obtain ⟨found, next, named, done⟩ := of_bind_done done
    obtain ⟨rfl, named'⟩ := templateOf_again middle' name qualifiedName named
    rw [bind_done entered', bind_done named']
    obtain ⟨template, contentType⟩ := found
    have policy : policyOf environment next = .done ((next.policies[environment.policy]?).getD .standard) next := rfl
    have policy' : policyOf environment' middle' = .done ((middle'.policies[environment'.policy]?).getD .standard) middle' :=
      rfl
    dsimp only at done ⊢
    rw [bind_done policy, world_bind] at done
    rw [bind_done policy', world_bind, same.policy]
    have modules : middle'.modules = next.modules := by
      rcases added with rfl | rfl <;> rcases added' with rfl | rfl <;> exact ground.modules
    rw [modules, module]
    cases located : next.modules.lookup record.module with
    | none =>
        rw [located] at done
        cases done
    | some number =>
        rw [located] at done
        cases done
        exact ⟨added, _, _, rfl, ⟨same.loader, same.marker, rfl, rfl, rfl, rfl, rfl⟩, added'⟩

/-! ## What displays come down to -/

/-- A class itself after it was displayed by a template that was built at once. -/
def showing (number : Nat) (record : ClassRecord) (binding : Binding) (template : Nat) (world : World) : World :=
  completing number record binding ((world.put number "__str__" (.hook (.renders template record.qualifiedName))).put
    number "__kiln_template__" (.template template))

/-- A class itself after it was displayed by a template that is built again for every rendering. -/
def reloading (number : Nat) (record : ClassRecord) (binding : Binding) (world : World) : World :=
  completing number record binding ((world.put number "__kiln_template__" .none).put number "__str__"
    (.hook (.reloads binding record.qualifiedName)))

/-- Making a template of a source, if it is accepted. -/
def installing (binding : Binding) (source : TemplateSource) : Effect Nat :=
  match source.routine binding.environment.marker binding.escape with
  | .ok routine => install source binding.escape binding.namespaceNumber routine
  | .error error => raiseCompileError source.origin error

/-- Building is finding the source and making a template of it. -/
theorem build_installing (binding : Binding) (world : World) : build binding world =
    match world.sourceFor binding with
    | .ok source => installing binding source world
    | .error error => raiseLoadError error world := by
  unfold build World.sourceFor
  cases binding.text with
  | some text => rfl
  | none =>
      show (sourceOf binding.environment binding.name >>= fun source =>
        compile binding.environment source (some binding.escape) binding.namespaceNumber) world = _
      rw [Effect.bind_apply, sourceOf, world_bind]
      dsimp only
      cases binding.environment.source world.library binding.name with
      | ok source => rfl
      | error error => cases error <;> rfl

/-- A template is built only of a source that is found and accepted. -/
theorem build_done {number : Nat} {after : World} (done : build binding world = .done number after) :
    ∃ source routine, world.sourceFor binding = .ok source ∧
      source.routine binding.environment.marker binding.escape = .ok routine ∧ number = world.templates.size ∧
        after = installed source binding.escape routine binding.namespaceNumber world := by
  have unloaded (error : LoadError) : raiseLoadError error world ≠ .done number after := by
    cases error <;> exact nofun
  have refused (origin : Origin) (error : CompileError) : raiseCompileError origin error world ≠ .done number after := by
    cases error <;> exact nofun
  have built := build_installing binding world
  rw [done] at built
  cases found : world.sourceFor binding with
  | error error =>
      rw [found] at built
      exact absurd built.symm (unloaded error)
  | ok source =>
      rw [found] at built
      cases accepted : source.routine binding.environment.marker binding.escape with
      | error error =>
          dsimp only at built
          unfold installing at built
          rw [accepted] at built
          exact absurd built.symm (refused _ error)
      | ok routine =>
          rw [build_installed found accepted] at done
          cases done
          exact ⟨source, routine, rfl, accepted, rfl, rfl⟩

variable {number : Nat}

theorem classRecord_of (found : world.classes[number]? = some record) :
    classRecord number world = .done record world := by
  show Outcome.done ((world.classes[number]?).getD _) world = _
  rw [found]
  rfl

/-- What displaying a class by a template that is built at once comes down to. -/
theorem display_built (read : classRecord number world = .done record world)
    (bound : bindClass record options world = .done binding between) (once : options.reload = false) :
    display number options world = (do
      let template ← build binding
      change (showing number record binding template) : Effect Unit) between := by
  rw [display, bind_done read, bind_done bound, once]
  exact installDisplay_built number record binding between

/-- What displaying a class by a template that is built again for every rendering comes down to. -/
theorem display_reloading (read : classRecord number world = .done record world)
    (bound : bindClass record options world = .done binding between) (again : options.reload = true) :
    display number options world = .done () (reloading number record binding between) := by
  rw [display, bind_done read, bind_done bound, again]
  exact installDisplay_rebuilt number record binding between

/-- How a class is displayed that is displayed at all. -/
inductive Decorates (number : Nat) (record : ClassRecord) (binding : Binding) (between : World) :
    (reload : Bool) → World → Prop where
  | built {source : TemplateSource} {routine : Routine} (found : between.sourceFor binding = .ok source)
    (accepted : source.routine binding.environment.marker binding.escape = .ok routine) :
    Decorates number record binding between false (showing number record binding between.templates.size
      (installed source binding.escape routine binding.namespaceNumber between))
  | reloaded : Decorates number record binding between true (reloading number record binding between)

theorem display_decorates (read : classRecord number world = .done record world) {next : World}
    (done : display number options world = .done () next) : ∃ binding between,
      bindClass record options world = .done binding between ∧ (between = world ∨ between = withStandard world) ∧
        Decorates number record binding between options.reload next := by
  obtain ⟨binding, between, bound, -⟩ := of_bind_done ((bind_done read).symm.trans done)
  obtain ⟨either, -⟩ := bindClass_again (.refl world) rfl rfl rfl bound
  refine ⟨binding, between, bound, either, ?_⟩
  cases when : options.reload with
  | true =>
      rw [display_reloading read bound when] at done
      cases done
      exact .reloaded
  | false =>
      rw [display_built read bound when] at done
      obtain ⟨template, after, built, done⟩ := of_bind_done done
      obtain ⟨source, routine, there, accepted, rfl, rfl⟩ := build_done built
      cases done
      exact .built there accepted

/-- What displaying does before it changes the class. -/
def rehearse (number : Nat) (options : DisplayOptions) : Effect Unit := do
  let record ← classRecord number
  let binding ← bindClass record options
  if options.reload then return ()
  else
    let _ ← build binding
    return ()

/-- A display that fails does so before it changes the class. -/
theorem rehearse_failed {error : Nat} {after : World} (failed : display number options world = .failed error after) :
    rehearse number options world = .failed error after := by
  obtain ⟨record, read⟩ : ∃ record, classRecord number world = .done record world := ⟨_, rfl⟩
  rw [rehearse, bind_done read]
  cases bound : bindClass record options world with
  | failed error' after' =>
      rw [display, bind_done read, bind_failed bound] at failed
      rw [bind_failed bound, failed]
  | exhausted =>
      rw [display, bind_done read, bind_exhausted bound] at failed
      cases failed
  | done binding between =>
      rw [bind_done bound]
      cases when : options.reload with
      | true =>
          rw [display_reloading read bound when] at failed
          cases failed
      | false =>
          rw [display_built read bound when] at failed
          rcases of_bind_failed failed with unbuilt | ⟨_, _, _, failed⟩
          · exact bind_failed unbuilt
          · cases failed

/-! ## Classes that were displayed -/

theorem putIf_only (number : Nat) (condition : Bool) (name : Text) (value : Value) (world : World) :
    ∃ classes, world.putIf condition number name value = { world with classes := classes } := by
  cases condition with
  | false => exact ⟨_, rfl⟩
  | true => exact ⟨_, rfl⟩

theorem completing_only (number : Nat) (record : ClassRecord) (binding : Binding) (world : World) :
    ∃ classes, completing number record binding world = { world with classes := classes } := by
  obtain ⟨classes, first⟩ := putIf_only number (record.attributes.lookup "content_type".toList).isNone
    "content_type" (.plain binding.contentType) world
  rw [completing, first]
  obtain ⟨classes, second⟩ := putIf_only number
    (binding.escape && (record.attributes.lookup "__html__".toList).isNone) "__html__"
    (.hook (.trusts record.qualifiedName)) { world with classes := classes }
  exact ⟨classes, second⟩

/-- Showing a class changes nothing but classes. -/
theorem showing_only (number : Nat) (record : ClassRecord) (binding : Binding) (template : Nat) (world : World) :
    ∃ classes, showing number record binding template world = { world with classes := classes } :=
  completing_only number record binding _

theorem reloading_only (number : Nat) (record : ClassRecord) (binding : Binding) (world : World) :
    ∃ classes, reloading number record binding world = { world with classes := classes } :=
  completing_only number record binding _

theorem own_showing (inside : number < world.classes.size) (record : ClassRecord) (binding : Binding) (template : Nat) :
    (showing number record binding template world).own number "__str__" =
      some (.hook (.renders template record.qualifiedName)) := by
  rw [showing, own_completing (by rwa [World.size_put, World.size_put]) (by decide) (by decide),
    World.own_put (by rwa [World.size_put]), if_neg fun both => absurd both.2 (by decide), World.own_put inside,
    if_pos ⟨rfl, rfl⟩]

theorem own_reloading (inside : number < world.classes.size) (record : ClassRecord) (binding : Binding) :
    (reloading number record binding world).own number "__str__" =
      some (.hook (.reloads binding record.qualifiedName)) := by
  rw [reloading, own_completing (by rwa [World.size_put, World.size_put]) (by decide) (by decide),
    World.own_put (by rwa [World.size_put]), if_pos ⟨rfl, rfl⟩]

/-- A class that was displayed is rendered by the template that was built of its source. -/
theorem Decorates.own_built {after : World} (decorates : Decorates number record binding world false after)
    (inside : number < world.classes.size) :
    after.own number "__str__" = some (.hook (.renders world.templates.size record.qualifiedName)) := by
  cases decorates with
  | @built source routine =>
      have inside : number < (installed source binding.escape routine binding.namespaceNumber world).classes.size := inside
      exact own_showing inside record binding _

/-- A class that is reloaded is rendered by what it is bound to. -/
theorem Decorates.own_reloaded {after : World} (decorates : Decorates number record binding world true after)
    (inside : number < world.classes.size) :
    after.own number "__str__" = some (.hook (.reloads binding record.qualifiedName)) := by
  cases decorates
  exact own_reloading inside record binding

/-- Whether two classes have the same names. -/
structure SameNames (record record' : ClassRecord) : Prop where
  name : record'.name = record.name
  qualifiedName : record'.qualifiedName = record.qualifiedName
  module : record'.module = record.module

theorem SameNames.trans {record'' : ClassRecord} (first : SameNames record record') (second : SameNames record' record'') :
    SameNames record record'' :=
  ⟨second.name.trans first.name, second.qualifiedName.trans first.qualifiedName, second.module.trans first.module⟩

theorem class_put (number : Nat) {owner : Nat} (found : world.classes[owner]? = some record) (name : Text) (value : Value) :
    ∃ record', (world.put number name value).classes[owner]? = some record' ∧ SameNames record record' := by
  rw [World.put, Array.getElem?_modify]
  by_cases here : number = owner
  · rw [if_pos here, found]
    exact ⟨_, rfl, rfl, rfl, rfl⟩
  · rw [if_neg here, found]
    exact ⟨_, rfl, rfl, rfl, rfl⟩

theorem class_completing (number : Nat) {owner : Nat} (found : world.classes[owner]? = some record) (given : ClassRecord)
    (binding : Binding) : ∃ record', (completing number given binding world).classes[owner]? = some record' ∧
      SameNames record record' := by
  have putting (condition : Bool) (name : Text) (value : Value) {world : World} {record : ClassRecord}
      (found : world.classes[owner]? = some record) : ∃ record',
        (world.putIf condition number name value).classes[owner]? = some record' ∧ SameNames record record' := by
    cases condition with
    | false => exact ⟨record, found, rfl, rfl, rfl⟩
    | true => exact class_put number found name value
  obtain ⟨first, there, same⟩ := putting (given.attributes.lookup "content_type".toList).isNone "content_type"
    (.plain binding.contentType) found
  obtain ⟨second, there', same'⟩ := putting (binding.escape && (given.attributes.lookup "__html__".toList).isNone)
    "__html__" (.hook (.trusts given.qualifiedName)) there
  exact ⟨second, there', same.trans same'⟩

/-- A displayed class keeps its names. -/
theorem Decorates.class_names {reload : Bool} {after : World} {given : ClassRecord} {owner : Nat}
    (decorates : Decorates number given binding world reload after) (found : world.classes[owner]? = some record) :
    ∃ record', after.classes[owner]? = some record' ∧ SameNames record record' := by
  cases decorates with
  | @built source routine =>
      have found : (installed source binding.escape routine binding.namespaceNumber world).classes[owner]? = some record :=
        found
      obtain ⟨first, there, same⟩ := class_put number found "__str__"
        (.hook (.renders world.templates.size given.qualifiedName))
      obtain ⟨second, there', same'⟩ := class_put number there "__kiln_template__" (.template world.templates.size)
      obtain ⟨third, there'', same''⟩ := class_completing number there' given binding
      exact ⟨third, there'', (same.trans same').trans same''⟩
  | reloaded =>
      obtain ⟨first, there, same⟩ := class_put number found "__kiln_template__" .none
      obtain ⟨second, there', same'⟩ := class_put number there "__str__"
        (.hook (.reloads binding given.qualifiedName))
      obtain ⟨third, there'', same''⟩ := class_completing number there' given binding
      exact ⟨third, there'', (same.trans same').trans same''⟩

/-- Whether a class itself has all that a binding gives it besides its text. -/
structure Complete (record : ClassRecord) (binding : Binding) : Prop where
  contentType : record.attributes.lookup "content_type".toList ≠ none
  trust : binding.escape = true → record.attributes.lookup "__html__".toList ≠ none

theorem Binding.Alike.complete {binding' : Binding} (alike : binding.Alike binding') (complete : Complete record binding) :
    Complete record binding' :=
  ⟨complete.contentType, fun escapes => complete.trust (alike.escape ▸ escapes)⟩

/-- A class that lacks nothing is not given anything more. -/
theorem completing_complete (complete : Complete record binding) (world : World) :
    completing number record binding world = world := by
  rw [completing, Option.isNone_eq_false_iff.mpr (Option.isSome_iff_ne_none.mpr complete.contentType)]
  cases escapes : binding.escape with
  | false => rfl
  | true =>
      rw [Option.isNone_eq_false_iff.mpr (Option.isSome_iff_ne_none.mpr (complete.trust escapes))]
      rfl

/-- A class that was displayed lacks nothing. -/
theorem complete_displayed {next : World} (found : world.classes[number]? = some record)
    (bound : bindClass record options world = .done binding between) (done : display number options world = .done () next)
    (found' : next.classes[number]? = some record') : Complete record' binding := by
  have inside : number < world.classes.size := (Array.getElem?_eq_some_iff.mp found).1
  have installs := display_installs inside ((bind_done (classRecord_of found)).trans bound) done
  have own (name : Text) : next.own number name = record'.attributes.lookup name := own_of_record found' name
  refine ⟨fun absent => ?_, fun escapes absent => ?_⟩
  · have given := installs.contentType number
    rw [own, absent] at given
    split at given
    · cases given
    · rename_i lacks
      exact lacks ⟨rfl, given.symm⟩
  · obtain ⟨owner, trusts⟩ := installs.trust
    have given := trusts number
    rw [own, absent] at given
    split at given
    · cases given
    · rename_i lacks
      exact lacks ⟨rfl, escapes, given.symm⟩

/-- Displaying leaves the modules and the policies as they are. -/
theorem Decorates.ground {reload : Bool} {after : World} (decorates : Decorates number record binding world reload after) :
    world.SameGround after := by
  cases decorates with
  | built =>
      obtain ⟨classes, only⟩ := showing_only number record binding world.templates.size _
      rw [only]
      exact ⟨rfl, rfl, fun _ => rfl⟩
  | reloaded =>
      obtain ⟨classes, only⟩ := reloading_only number record binding world
      rw [only]
      exact ⟨rfl, rfl, fun _ => rfl⟩

end Stencil
