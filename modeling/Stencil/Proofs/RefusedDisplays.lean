import Stencil.Proofs.Decorations

/-!
# Displays that are refused

A display is refused when its arguments do not fit the class, or when its template has no source that can be loaded and is
accepted.  All of that is found out before the first attribute of the class is set, so nothing is left behind but the error
and the policy of an environment that was made for the display.  A template that is built again for every rendering is not
looked at, so then only the arguments can be at fault.
-/

namespace Stencil

open Effect

/-- A world in which an error was raised as well. -/
def World.raised (incident : Incident) (world : World) : World :=
  { world with objects := world.objects.push (.error incident) }

/-- Whether nothing names the template of a class that is displayed. -/
def Unnamed (record : ClassRecord) (options : DisplayOptions) : Prop :=
  options.text = none ∧ firstGiven? [options.path] = none ∧ record.name = []

/-- Whether a class cannot be displayed with some arguments, whatever its template is. -/
def Misfit (record : ClassRecord) (options : DisplayOptions) (world : World) : Prop :=
  (options.text.isSome ∧ options.path.isSome) ∨ Unnamed record options ∨ world.modules.lookup record.module = none

/-- Whether no template can be built, because no source is loaded or the source is not accepted. -/
def Unbuildable (binding : Binding) (world : World) : Prop :=
  ∀ source routine, world.sourceFor binding = .ok source →
    source.routine binding.environment.marker binding.escape ≠ .ok routine

/-- Whether a display is refused, for its arguments or for a template that is built at once. -/
def Refused (record : ClassRecord) (options : DisplayOptions) (world : World) : Prop :=
  Misfit record options world ∨ options.reload = false ∧ ∃ binding between,
    bindClass record options world = .done binding between ∧ Unbuildable binding between

variable {world between : World} {record : ClassRecord} {number : Nat}

theorem World.errorKind_raised (world : World) (incident : Incident) :
    (world.raised incident).errorKind world.objects.size = incident.kind := by
  rw [World.errorKind, World.incident?, raised, Array.getElem?_push_size]

/-- Binding a class to a template adds a policy at most. -/
theorem besides_policies (either : between = world ∨ between = withStandard world) :
    between.objects = world.objects ∧ between.classes = world.classes ∧ between.modules = world.modules := by
  rcases either with rfl | rfl <;> exact ⟨rfl, rfl, rfl⟩

/-! ## Arguments -/

theorem templateOf_ends (record : ClassRecord) (options : DisplayOptions) (world : World) :
    (∃ found, templateOf record options world = .done found world ∧ ¬ Unnamed record options) ∨
      ∃ incident, templateOf record options world = .failed world.objects.size (world.raised incident) ∧
        incident.kind = .value ∧ Unnamed record options := by
  unfold templateOf
  cases text : options.text with
  | some text' => exact .inl ⟨_, rfl, fun unnamed => by cases text.symm.trans unnamed.1⟩
  | none =>
      cases path : firstGiven? [options.path] with
      | some path' => exact .inl ⟨_, rfl, fun unnamed => by cases path.symm.trans unnamed.2.1⟩
      | none =>
          cases name : record.name with
          | cons char rest => exact .inl ⟨_, rfl, fun unnamed => by cases name.symm.trans unnamed.2.2⟩
          | nil => exact .inr ⟨_, rfl, rfl, text, path, name⟩

/-- A class is bound to a template unless the arguments do not fit it. -/
theorem bindClass_ends (record : ClassRecord) (options : DisplayOptions) (world : World) :
    (∃ binding between, bindClass record options world = .done binding between ∧
      (between = world ∨ between = withStandard world) ∧ ¬ Misfit record options world) ∨
    ∃ incident between, bindClass record options world = .failed world.objects.size (between.raised incident) ∧
      (between = world ∨ between = withStandard world) ∧ (incident.kind = .typing ∨ incident.kind = .value) ∧
        Misfit record options world := by
  unfold bindClass
  split
  · rename_i both
    exact .inr ⟨_, world, rfl, .inl rfl, .inl rfl, .inl ((Bool.and_eq_true _ _).mp both)⟩
  · rename_i apart
    -- The environment comes first and never fails; then the name can be missing, and the module last of all.
    obtain ⟨environment, -, between, -, entered, -, -, either, -⟩ :=
      environmentFor_again (.refl world) (rfl : record.module = record.module) options
    obtain ⟨objects, -, modules⟩ := besides_policies either
    rw [bind_done entered]
    rcases templateOf_ends record options between with ⟨found, named, given⟩ | ⟨incident, unnamed, kind, lacking⟩
    · have policy : policyOf environment between = .done ((between.policies[environment.policy]?).getD .standard) between :=
        rfl
      rw [bind_done named]
      dsimp only
      rw [bind_done policy, world_bind, modules]
      cases located : world.modules.lookup record.module with
      | none =>
          rw [← objects]
          exact .inr ⟨_, between, rfl, either, .inl rfl, .inr (.inr located)⟩
      | some namespaceNumber =>
          refine .inl ⟨_, between, rfl, either, ?_⟩
          rintro (both | lacking | missing)
          · exact apart ((Bool.and_eq_true _ _).mpr both)
          · exact given lacking
          · cases located.symm.trans missing
    · rw [bind_failed unnamed, objects]
      exact .inr ⟨incident, between, rfl, either, .inr kind, .inr (.inl lacking)⟩

/-! ## Templates -/

theorem raiseLoadError_raised (error : LoadError) (world : World) :
    ∃ incident, raiseLoadError (α := Nat) error world = .failed world.objects.size (world.raised incident) := by
  cases error <;> exact ⟨_, rfl⟩

theorem raiseCompileError_raised (origin : Origin) (error : CompileError) (world : World) :
    ∃ incident, raiseCompileError (α := Nat) origin error world = .failed world.objects.size (world.raised incident) := by
  cases error <;> exact ⟨_, rfl⟩

/-- A template is built unless its source is not loaded or not accepted. -/
theorem build_ends (binding : Binding) (world : World) :
    (∃ template after, build binding world = .done template after ∧ ¬ Unbuildable binding world) ∨
      ∃ incident, build binding world = .failed world.objects.size (world.raised incident) ∧ Unbuildable binding world := by
  cases found : world.sourceFor binding with
  | error error =>
      obtain ⟨incident, unloaded⟩ := raiseLoadError_raised error world
      refine .inr ⟨incident, ?_, fun source _ there => by cases found.symm.trans there⟩
      rw [build_installing, found]
      exact unloaded
  | ok source =>
      cases accepted : source.routine binding.environment.marker binding.escape with
      | ok routine => exact .inl ⟨_, _, build_installed found accepted, fun unbuildable => unbuildable _ _ found accepted⟩
      | error error =>
          obtain ⟨incident, refused⟩ := raiseCompileError_raised source.origin error world
          refine .inr ⟨incident, ?_, fun source' routine there => ?_⟩
          · rw [build_installing, found]
            dsimp only
            unfold installing
            rw [accepted]
            exact refused
          · cases found.symm.trans there
            rw [accepted]
            exact nofun

/-! ## Displays -/

/-- A class is displayed unless that is refused, and then only the error and a policy are added to the world. -/
theorem display_ends (found : world.classes[number]? = some record) (options : DisplayOptions) :
    (∃ after, display number options world = .done () after ∧ ¬ Refused record options world) ∨
    ∃ incident between, display number options world = .failed world.objects.size (between.raised incident) ∧
      (between = world ∨ between = withStandard world) ∧
      (options.reload = true → incident.kind = .typing ∨ incident.kind = .value) ∧ Refused record options world := by
  have read := classRecord_of found
  rcases bindClass_ends record options world with ⟨binding, between, bound, either, fits⟩ |
    ⟨incident, between, unbound, either, kind, misfit⟩
  · cases when : options.reload with
    | true =>
        refine .inl ⟨_, display_reloading read bound when, ?_⟩
        -- The template is not built, so nothing about it can be at fault.
        rintro (misfit | ⟨once, -⟩)
        · exact fits misfit
        · cases when.symm.trans once
    | false =>
        obtain ⟨objects, -, -⟩ := besides_policies either
        rw [display_built read bound when]
        rcases build_ends binding between with ⟨template, after, built, usable⟩ | ⟨incident, unbuilt, unbuildable⟩
        · refine .inl ⟨_, bind_done built, ?_⟩
          rintro (misfit | ⟨-, binding', between', bound', unbuildable⟩)
          · exact fits misfit
          · cases bound.symm.trans bound'
            exact usable unbuildable
        · rw [objects] at unbuilt
          exact .inr ⟨incident, between, bind_failed unbuilt, either, nofun, .inr ⟨when, binding, between, bound, unbuildable⟩⟩
  · refine .inr ⟨incident, between, ?_, either, fun _ => kind, .inl misfit⟩
    rw [display, bind_done read, bind_failed unbound]

/-- A display always ends, and it fails just when it is refused.  Then all attributes of all classes are as before, the
inherited ones as well, and only an error and a policy have been added to the world.  When the template is built again
for every rendering the error is none about a template. -/
theorem refused_display_leaves_classes (found : world.classes[number]? = some record) (options : DisplayOptions) :
    display number options world ≠ .exhausted ∧
    ((∃ error after, display number options world = .failed error after) ↔ Refused record options world) ∧
    ∀ error after, display number options world = .failed error after →
      (∀ owner name, after.own owner name = world.own owner name ∧
        after.attributeOfClass? owner name = world.attributeOfClass? owner name) ∧
      (∃ incident, after = world.raised incident ∨ after = (withStandard world).raised incident) ∧
      (options.reload = true → Misfit record options world ∧ ¬ (after.errorKind error).isA .template) := by
  rcases display_ends found options with ⟨next, done, fits⟩ | ⟨incident, between, failed, either, kind, refused⟩
  · rw [done]
    exact ⟨nofun, ⟨(fun ⟨_, _, failed⟩ => nomatch failed), fun refused => absurd refused fits⟩, nofun⟩
  · rw [failed]
    refine ⟨nofun, ⟨fun _ => refused, fun _ => ⟨_, _, rfl⟩⟩, ?_⟩
    rintro error after ⟨⟩
    obtain ⟨objects, classes, -⟩ := besides_policies either
    have same : (between.raised incident).classes = world.classes := classes
    refine ⟨fun owner name => ⟨?_, World.attributeOfClass?_of_classes same owner name⟩, ⟨incident, ?_⟩, fun again => ?_⟩
    · rw [World.own_of_classes same]
    · rcases either with rfl | rfl
      · exact .inl rfl
      · exact .inr rfl
    · refine ⟨refused.resolve_right fun once => ?_, ?_⟩
      · cases again.symm.trans once.1
      · rw [← objects, World.errorKind_raised]
        rcases kind again with same | same <;> rw [same] <;> decide

/-- Displaying by a text that does not close its block. -/
def unclosing (reload : Bool) : DisplayOptions :=
  { DisplayOptions.standard with text := some "%% if x \x7b", reload := reload }

/-- A class that is displayed as markup keeps its text and its trust when it is displayed by an unclosed block. -/
theorem displayed_class_kept : ∃ world, display 0 (rebuilding "<b>" true) pageWorld = .done () world ∧
    ∃ error after, display 0 (unclosing false) world = .failed error after ∧ (after.errorKind error).isA .template ∧
      ∃ shown trust, after.own 0 "__str__" = some (.hook shown) ∧ after.own 0 "__html__" = some (.hook trust) ∧
        after.own 0 "__kiln_template__" = some .none := by
  obtain ⟨world, record, done, found, refused, text, trust, template⟩ : ∃ world record,
      display 0 (rebuilding "<b>" true) pageWorld = .done () world ∧ world.classes[0]? = some record ∧
        (∃ error after, display 0 (unclosing false) world = .failed error after ∧ (after.errorKind error).isA .template) ∧
          (∃ shown, world.own 0 "__str__" = some (.hook shown)) ∧
            (∃ trust, world.own 0 "__html__" = some (.hook trust)) ∧ world.own 0 "__kiln_template__" = some .none :=
    ⟨_, _, rfl, rfl, ⟨_, _, rfl, by decide +kernel⟩, ⟨_, rfl⟩, ⟨_, rfl⟩, rfl⟩
  obtain ⟨error, after, failed, kind⟩ := refused
  obtain ⟨kept, -⟩ := (refused_display_leaves_classes found (unclosing false)).2.2 error after failed
  obtain ⟨shown, text⟩ := text
  obtain ⟨hook, trust⟩ := trust
  exact ⟨world, done, error, after, failed, kind, shown, hook, (kept 0 _).1.trans text, (kept 0 _).1.trans trust,
    (kept 0 _).1.trans template⟩

end Stencil
