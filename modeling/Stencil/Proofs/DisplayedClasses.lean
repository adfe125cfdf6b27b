import Stencil.Proofs.DisplayHistory
import Stencil.Proofs.GrowingWorlds

/-!
# Classes with templates that escape

What a class is given when it is displayed by a source that escapes: it becomes text by rendering the source, and it is
trusted.  Displaying other classes, and the growing of the world, leaves it so.
-/

namespace Stencil

open Effect Routine

/-- The source of the template that a class is bound to. -/
def World.sourceFor (world : World) (binding : Binding) : Except LoadError TemplateSource :=
  match binding.text with
  | some text => .ok ⟨text, some binding.name, none, binding.contentType⟩
  | none => binding.environment.source world.library binding.name

/-- Whether a hook renders a source that escapes: by a template that was built before, or one that is built anew. -/
inductive Renders (world : World) (marker : Text) (source : TemplateSource) (routine : Routine) : Hook → Prop
  | built {number function : Nat} {owner : Text} (standing : Standing ⟨source, true, routine, function⟩ number world) :
    Renders world marker source routine (.renders number owner)
  | rebuilt {binding : Binding} {owner : Text} (escapes : binding.escape = true)
    (marked : binding.environment.marker = marker) (found : world.sourceFor binding = .ok source) :
    Renders world marker source routine (.reloads binding owner)

/-- Whether a class itself is displayed by a source that escapes. -/
structure World.Displays (world : World) (owner : Nat) (marker : Text) (source : TemplateSource) (routine : Routine) :
    Prop where
  trusts : ∃ name, world.own owner "__html__" = some (.hook (.trusts name))
  converts : ∃ hook, world.own owner "__str__" = some (.hook hook) ∧ Renders world marker source routine hook

/-- Growing, where classes can change and policies can be added as well. -/
def World.Develops (world next : World) : Prop :=
  world.Grows { next with classes := world.classes, policies := world.policies }

/-- Growing is developing. -/
theorem World.Grows.develops {world after : World} (grows : world.Grows after) : world.Develops after where
  objects := grows.objects
  scopes := grows.scopes
  templates := grows.templates
  rest := by
    have same := congrArg (fun grown : World => { grown with classes := world.classes, policies := world.policies })
      grows.rest
    exact same

theorem World.Develops.sourceFor {world after : World} (develops : world.Develops after) (binding : Binding) :
    after.sourceFor binding = world.sourceFor binding := by
  have library := congrArg World.library develops.rest
  dsimp only at library
  rw [World.sourceFor, library, World.sourceFor]

section Hooks

variable {world after : World} {marker : Text} {source : TemplateSource} {routine : Routine} {hook : Hook}

theorem Renders.develops (renders : Renders world marker source routine hook) (develops : world.Develops after) :
    Renders after marker source routine hook := by
  cases renders with
  | built standing =>
      obtain ⟨listed, function⟩ := World.Grows.standing develops standing
      exact .built ⟨listed, function⟩
  | @rebuilt binding _ escapes marked found =>
      exact .rebuilt escapes marked ((develops.sourceFor binding).trans found)

/-- A source that is accepted is built. -/
theorem build_installed {binding : Binding} (found : world.sourceFor binding = .ok source)
    (accepted : source.routine binding.environment.marker binding.escape = .ok routine) :
    build binding world = .done world.templates.size
      (installed source binding.escape routine binding.namespaceNumber world) := by
  rw [World.sourceFor] at found
  rw [build]
  cases text : binding.text with
  | some text =>
      rw [text] at found
      cases found
      exact compile_installed accepted _ world
  | none =>
      rw [text] at found
      have loaded : sourceOf binding.environment binding.name world = .done source world := by
        rw [sourceOf, world_bind]
        dsimp only at found
        rw [found]
        rfl
      exact (bind_done loaded).trans (compile_installed accepted _ world)

/-- What a displayed class does to become text is to render a template that stands in the world by then. -/
theorem Renders.rendered (renders : Renders world marker source routine hook)
    (accepted : source.routine marker true = .ok routine) : ∃ number function between, world.Grows between ∧
      Standing ⟨source, true, routine, function⟩ number between ∧ ∀ call receiver,
        callHook call hook receiver [] world = render call number receiver between := by
  cases renders with
  | built standing => exact ⟨_, _, world, .refl world, standing, fun _ _ => rfl⟩
  | @rebuilt binding owner escapes marked found =>
      rw [← marked, ← escapes] at accepted
      have built := build_installed found accepted
      rw [escapes] at built
      exact ⟨_, _, _, .installed world source true routine _, standing_installed source true routine _ world,
        fun call receiver => bind_done built⟩

end Hooks

namespace World

variable {world between next : World} {owner : Nat} {name : Text} {value : Value}

/-- An attribute that a class has itself comes before those of the classes above it. -/
theorem attributeOfClass?_own (own : world.own owner name = some value) :
    world.attributeOfClass? owner name = some value := by
  rw [World.own] at own
  obtain ⟨record, found, given⟩ := Option.bind_eq_some_iff.mp own
  rw [attributeOfClass?_eq, lineage, lineageWithin, found]
  dsimp only
  rw [List.findSome?_cons, World.own, found, Option.bind_some, given]

namespace Develops

theorem refl (world : World) : world.Develops world := (Grows.refl world).develops

theorem trans (first : world.Develops between) (second : between.Develops next) : world.Develops next where
  objects there := second.objects (first.objects there)
  scopes there := second.scopes (first.scopes there)
  templates there := second.templates (first.templates there)
  rest := by
    have same := congrArg (fun grown : World => { grown with
      objects := world.objects, scopes := world.scopes, templates := world.templates,
      identities := world.identities, classes := world.classes, policies := world.policies }) second.rest
    exact same.trans first.rest

theorem put (world : World) (number : Nat) (name : Text) (value : Value) :
    world.Develops (world.put number name value) :=
  ⟨id, id, id, rfl⟩

theorem putIf (condition : Bool) (world : World) (number : Nat) (name : Text) (value : Value) :
    world.Develops (world.putIf condition number name value) := by
  cases condition with
  | false => exact .refl world
  | true => exact put world number name value

theorem completing (number : Nat) (record : ClassRecord) (binding : Binding) (world : World) :
    world.Develops (Stencil.completing number record binding world) :=
  (putIf _ _ _ _ _).trans (putIf _ _ _ _ _)

theorem additive : Additive World.Develops where
  refl := refl
  trans := trans
  object world object := (Grows.pushObject world object).develops
  standard _ := ⟨id, id, id, rfl⟩
  template world source escape routine globals := (Grows.installed world source escape routine globals).develops

end Develops
end World

/-! ## One display -/

section Display

variable {world between next : World} {number owner : Nat} {options : DisplayOptions} {record : ClassRecord}
  {binding : Binding} {marker : Text} {source : TemplateSource} {routine : Routine}

theorem installDisplay_develops {reload : Bool}
    (done : installDisplay number record binding reload world = .done () next) : world.Develops next := by
  cases reload with
  | true =>
    rw [installDisplay_rebuilt] at done
    cases done
    exact ((World.Develops.put _ _ _ _).trans (.put _ _ _ _)).trans (.completing _ _ _ _)
  | false =>
    rw [installDisplay_built] at done
    obtain ⟨template, between, built, done⟩ := of_bind_done done
    cases done
    refine ((Leads.build World.Develops.additive binding).of_done built).trans ?_
    exact ((World.Develops.put _ _ _ _).trans (.put _ _ _ _)).trans (.completing _ _ _ _)

/-- A display that takes effect binds the class and installs its template. -/
theorem of_display_done (done : display number options world = .done () next) : ∃ record binding between,
    classRecord number world = .done record world ∧ bindClass record options world = .done binding between ∧
      installDisplay number record binding options.reload between = .done () next := by
  obtain ⟨record, same, read, done⟩ := of_bind_done done
  obtain rfl : world = same := by cases read; rfl
  obtain ⟨binding, between, bound, installed⟩ := of_bind_done done
  exact ⟨record, binding, between, read, bound, installed⟩

theorem display_develops (done : display number options world = .done () next) : world.Develops next := by
  obtain ⟨record, binding, between, -, bound, installed⟩ := of_display_done done
  exact ((Leads.bindClass World.Develops.additive record options).of_done bound).trans
    (installDisplay_develops installed)

theorem own_completing {name : Text} (inside : number < world.classes.size) (content : name ≠ "content_type".toList)
    (trust : name ≠ "__html__".toList) (other : Nat) :
    (completing number record binding world).own other name = world.own other name := by
  have first := World.own_putIf (record.attributes.lookup "content_type".toList).isNone "content_type"
    (.plain binding.contentType) inside other name
  rw [if_neg fun all => content all.2.2] at first
  refine Eq.trans ?_ first
  rw [completing, World.own_putIf _ _ _ ((World.size_putIf _).symm ▸ inside), if_neg fun all => trust all.2.2]

/-- Installing an accepted source takes effect, and makes the class become text by rendering the source. -/
theorem installDisplay_accepted (inside : number < world.classes.size) (escapes : binding.escape = true)
    (found : world.sourceFor binding = .ok source)
    (accepted : source.routine binding.environment.marker true = .ok routine) (record : ClassRecord) (reload : Bool) :
    ∃ hook next, installDisplay number record binding reload world = .done () next ∧
      next.own number "__str__" = some (.hook hook) ∧ Renders next binding.environment.marker source routine hook := by
  cases reload with
  | true =>
    refine ⟨.reloads binding record.qualifiedName, _, installDisplay_rebuilt number record binding world, ?_, ?_⟩
    · rw [own_completing (by rwa [World.size_put, World.size_put]) (by decide) (by decide),
        World.own_put (by rwa [World.size_put]), if_pos ⟨rfl, rfl⟩]
    · refine (Renders.rebuilt escapes rfl found).develops ?_
      exact ((World.Develops.put _ _ _ _).trans (.put _ _ _ _)).trans (.completing _ _ _ _)
  | false =>
    rw [← escapes] at accepted
    have built := build_installed found accepted
    rw [escapes] at built
    have inside' : number < (Routine.installed source true routine binding.namespaceNumber world).classes.size := inside
    refine ⟨.renders world.templates.size record.qualifiedName, _,
      (installDisplay_built number record binding world).trans (bind_done built), ?_, ?_⟩
    · rw [own_completing (by rwa [World.size_put, World.size_put]) (by decide) (by decide),
        World.own_put (by rwa [World.size_put]), if_neg fun both => absurd both.2 (by decide), World.own_put inside',
        if_pos ⟨rfl, rfl⟩]
    · refine (Renders.built (standing_installed source true routine binding.namespaceNumber world)).develops ?_
      exact ((World.Develops.put _ _ _ _).trans (.put _ _ _ _)).trans (.completing _ _ _ _)

/-- Displaying a class by an accepted source that escapes takes effect, unless the class says itself what it is in
markup. -/
theorem display_accepted (inside : number < world.classes.size) (bare : world.own number "__html__" = none)
    (bound : (classRecord number >>= fun record => bindClass record options) world = .done binding between)
    (escapes : binding.escape = true) (found : world.sourceFor binding = .ok source)
    (accepted : source.routine binding.environment.marker true = .ok routine) : ∃ next,
    display number options world = .done () next ∧ next.Displays number binding.environment.marker source routine := by
  obtain ⟨record, same, read, bound'⟩ := of_bind_done bound
  obtain rfl : world = same := by cases read; rfl
  have develops := (Leads.bindClass World.Develops.additive record options).of_done bound'
  have classes := (Leads.bindClass LeavesClasses.additive record options).of_done bound'
  obtain ⟨hook, next, installed, converts⟩ := installDisplay_accepted (classes ▸ inside) escapes
    ((develops.sourceFor binding).trans found) accepted record options.reload
  have done : display number options world = .done () next :=
    (bind_done read).trans ((bind_done bound').trans installed)
  obtain ⟨name, own⟩ := (display_installs inside bound done).trust
  exact ⟨next, done, ⟨name, (own number).trans (if_pos ⟨rfl, escapes, bare⟩)⟩, hook, converts⟩

/-- A class stays displayed when another class is. -/
theorem World.Displays.stays (displays : world.Displays owner marker source routine)
    (inside : number < world.classes.size) (apart : owner ≠ number)
    (done : display number options world = .done () next) : next.Displays owner marker source routine := by
  obtain ⟨record, binding, between, read, bound, -⟩ := of_display_done done
  have installs := display_installs inside ((bind_done read).trans bound) done
  constructor
  · obtain ⟨name, own⟩ := displays.trusts
    obtain ⟨_, kept⟩ := installs.trust
    exact ⟨name, (kept owner).trans ((if_neg fun all => apart all.1).trans own)⟩
  · obtain ⟨hook, own, renders⟩ := displays.converts
    obtain ⟨_, -, kept⟩ := installs.text
    exact ⟨hook, (kept owner).trans ((if_neg apart).trans own), renders.develops (display_develops done)⟩

end Display
end Stencil
