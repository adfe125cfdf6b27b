import Stencil.Proofs.DisplayHistory
import Stencil.Proofs.RoutineCalls

/-!
# Worlds that grow

A world grows when objects, scopes, templates and identities are added to it and nothing that was there changes.  What
instances, classes and templates are does not depend on what is added.
-/

namespace Stencil

open Effect Script Routine

/-- Whether a world comes from another one by adding objects, scopes, templates and identities. -/
structure World.Grows (world after : World) : Prop where
  objects : ∀ {address : Nat} {object : Object}, world.objects[address]? = some object →
    after.objects[address]? = some object
  scopes : ∀ {number : Nat} {scope : Scope}, world.scopes[number]? = some scope → after.scopes[number]? = some scope
  templates : ∀ {number : Nat} {template : Template}, world.templates[number]? = some template →
    after.templates[number]? = some template
  rest : { after with
    objects := world.objects, scopes := world.scopes, templates := world.templates,
    identities := world.identities } = world

namespace World.Grows

variable {world between after : World}

theorem refl (world : World) : world.Grows world := ⟨id, id, id, rfl⟩

theorem trans (first : world.Grows between) (second : between.Grows after) : world.Grows after where
  objects there := second.objects (first.objects there)
  scopes there := second.scopes (first.scopes there)
  templates there := second.templates (first.templates there)
  rest := by
    have same := congrArg (fun grown : World => { grown with
      objects := world.objects, scopes := world.scopes, templates := world.templates,
      identities := world.identities }) second.rest
    exact same.trans first.rest

theorem getElem?_push_of {α : Type} {xs : Array α} {place : Nat} {x : α} (there : xs[place]? = some x) (y : α) :
    (xs.push y)[place]? = some x := by
  obtain ⟨inside, -⟩ := Array.getElem?_eq_some_iff.mp there
  rw [Array.getElem?_push_lt inside, ← Array.getElem?_eq_getElem inside, there]

/-- A new object. -/
theorem pushObject (world : World) (object : Object) :
    world.Grows { world with objects := world.objects.push object } :=
  ⟨fun there => getElem?_push_of there object, id, id, rfl⟩

/-- Identities that are used up. -/
theorem identities (world : World) (count : Nat) : world.Grows { world with identities := count } :=
  ⟨id, id, id, rfl⟩

/-- A new scope. -/
theorem begun (world : World) (names : List Text) (outer : Nat) (context : Value) :
    world.Grows (Routine.begun names outer context world) :=
  ⟨id, fun there => getElem?_push_of there _, id, rfl⟩

/-- A new template. -/
theorem installed (world : World) (source : TemplateSource) (escape : Bool) (routine : Routine) (globals : Nat) :
    world.Grows (Routine.installed source escape routine globals world) :=
  ⟨fun there => getElem?_push_of there _, fun there => getElem?_push_of there _,
    fun there => getElem?_push_of there _, rfl⟩

/-- Changing what is new leaves a world grown. -/
theorem modifyScope (grows : world.Grows after) {number : Nat} (new : world.scopes.size ≤ number) (f : Scope → Scope) :
    world.Grows { after with scopes := after.scopes.modify number f } where
  objects := grows.objects
  templates := grows.templates
  rest := grows.rest
  scopes there := by
    have apart : number ≠ _ := ((Array.getElem?_eq_some_iff.mp there).1.trans_le new).ne'
    rw [Array.getElem?_modify, if_neg apart]
    exact grows.scopes there

theorem modifyObject (grows : world.Grows after) {address : Nat} (new : world.objects.size ≤ address)
    (f : Object → Object) : world.Grows { after with objects := after.objects.modify address f } where
  scopes := grows.scopes
  templates := grows.templates
  rest := grows.rest
  objects there := by
    have apart : address ≠ _ := ((Array.getElem?_eq_some_iff.mp there).1.trans_le new).ne'
    rw [Array.getElem?_modify, if_neg apart]
    exact grows.objects there

/-- The first statements of a routine only add to the world. -/
theorem prepared (world : World) (template : Template) (globals : Nat) (names : List Text) (outer : Nat)
    (context : Value) :
    world.Grows (Routine.prepared (.builtin .escape) (callOf template globals world) (Routine.begun names outer context world)) :=
  ((begun world names outer context).trans ((pushObject _ _).trans (identities _ _))).modifyScope le_rfl _

/-! ## What stays -/

variable (grows : world.Grows after)
include grows

theorem library : after.library = world.library := by
  have same := congrArg World.library grows.rest
  exact same

theorem classes : after.classes = world.classes := by
  have same := congrArg World.classes grows.rest
  exact same

theorem attributeOfClass? (owner : Nat) (name : Text) :
    after.attributeOfClass? owner name = world.attributeOfClass? owner name :=
  World.attributeOfClass?_of_classes grows.classes owner name

/-- The attributes of an instance stay. -/
theorem slotOf?_member {address owner : Nat} {attributes : List (Text × Slot)}
    (member : world.objects[address]? = some (.member owner attributes)) (name : Text) :
    after.slotOf? (.object address) name = world.slotOf? (.object address) name := by
  have member' := grows.objects member
  simp only [World.slotOf?, World.ownSlots, World.operationsOf, member, member', grows.attributeOfClass?]

theorem standing {template : Template} {number : Nat} (standing : Standing template number world) :
    Standing template number after where
  listed := grows.templates standing.listed
  function := by
    obtain ⟨outer, globals, attributes, function, scope, there, converters⟩ := standing.function
    exact ⟨outer, globals, attributes, grows.objects function, scope, grows.scopes there, converters⟩

theorem holding {veil : Veil} {escape : Bool} {bound : List Text} {items : List Value}
    (holding : Holding veil escape bound items world) : Holding veil escape bound items after where
  buffer := grows.objects holding.buffer
  names := by
    obtain ⟨scope, there, owns⟩ := holding.names
    exact ⟨scope, grows.scopes there, owns⟩

end World.Grows
end Stencil
