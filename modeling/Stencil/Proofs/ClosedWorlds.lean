import Stencil.Proofs.RoutineCalls
import Stencil.Session.Run

/-!
# Worlds without loose ends

A world is closed when nothing in it leads to an object or a scope that is not there.  A session starts in such a world,
and making objects of what is known there and compiling templates keep it closed.
-/

namespace Stencil

open Effect Script Routine

namespace Veil

/-- Whether a world has neither an object nor a scope at the numbers of a veil, and none with greater numbers. -/
def Beyond (veil : Veil) (world : World) : Prop := world.objects.size ≤ veil.list ∧ world.scopes.size ≤ veil.scope

/-- Whether nothing leads to an object or into a scope. -/
structure Unreached (veil : Veil) (world : World) : Prop where
  objects : ∀ (address : Nat) (object : Object), world.objects[address]? = some object → veil.ClearContent object
  scopes : ∀ (number : Nat) (scope : Scope), world.scopes[number]? = some scope → veil.ClearScope number scope
  namespaces : ∀ (number : Nat) (entries : List (Text × Value)), world.namespaces[number]? = some entries →
    veil.ClearUnder entries
  classes : ∀ (number : Nat) (record : ClassRecord), world.classes[number]? = some record →
    veil.ClearUnder record.attributes
  templates : ∀ (number : Nat) (template : Template), world.templates[number]? = some template →
    template.function ≠ veil.list
  handled : ∀ error ∈ world.handled, error ≠ veil.list

end Veil

/-- Whether nothing leads to an object or a scope that is not there. -/
def World.Closed (world : World) : Prop := ∀ veil : Veil, veil.Beyond world → veil.Unreached world

/-- Whether a value does not lead to an object that is not there. -/
def World.Knows (world : World) (value : Value) : Prop := ∀ veil : Veil, veil.Beyond world → veil.Clear value

variable {world : World} {veil : Veil}

theorem Veil.Beyond.mono {after : World} (beyond : veil.Beyond after)
    (objects : world.objects.size ≤ after.objects.size)
    (scopes : world.scopes.size ≤ after.scopes.size) : veil.Beyond world :=
  ⟨objects.trans beyond.1, scopes.trans beyond.2⟩

theorem clear_moduleNames (name : Text) (file : Option Text) : veil.ClearUnder (Session.moduleNames name file) := by
  intro entry member
  have values : ∀ entry ∈ Session.moduleNames name file, entry.2 = .none ∨ ∃ content, entry.2 = .plain content := by
    cases file <;> simp [Session.moduleNames]
  rcases values entry member with absent | ⟨content, plain⟩
  · rw [absent]
    trivial
  · rw [plain]
    trivial

/-- Nothing leads anywhere in the world in which a session starts. -/
theorem closed_start (home module : Text) (files : List (Text × List UInt8)) (colours : Bool) :
    (Session.start home module files colours).world.Closed := by
  intro veil beyond
  refine ⟨fun address object found => ?_, fun number scope found => ?_, fun number entries found => ?_,
    fun number record found => ?_, fun number template found => ?_, List.forall_mem_nil _⟩
  · cases found
  · cases found
  · cases number with
    | zero =>
        cases found
        exact clear_moduleNames module none
    | succ number => cases found
  · cases found
  · cases found

/-- A new object that leads only to what is known leaves a world closed. -/
theorem closed_push (closed : world.Closed) {object : Object}
    (known : ∀ veil : Veil, veil.Beyond world → veil.ClearContent object) :
    { world with objects := world.objects.push object }.Closed := by
  intro veil beyond
  have earlier : veil.Beyond world := beyond.mono (by simp) le_rfl
  have unreached := closed veil earlier
  refine { unreached with objects := fun address found there => ?_ }
  rw [Array.getElem?_push] at there
  split at there
  · cases there
    exact known veil earlier
  · exact unreached.objects address found there

/-- Compiling a source keeps a world closed. -/
theorem closed_installed (closed : world.Closed) (source : TemplateSource) (escape : Bool) (routine : Routine)
    (globals : Nat) : (installed source escape routine globals world).Closed := by
  intro veil beyond
  have list : world.objects.size < veil.list := (Array.size_push _).symm.trans_le beyond.1
  have scope : world.scopes.size < veil.scope := (Array.size_push _).symm.trans_le beyond.2
  have unreached := closed veil ⟨list.le, scope.le⟩
  refine { unreached with
    objects := fun address object found => ?_
    scopes := fun number record found => ?_
    templates := fun number template found => ?_ }
  · rw [installed, Array.getElem?_push] at found
    split at found
    · cases found
      exact ⟨scope.ne, List.forall_mem_nil _⟩
    · exact unreached.objects address object found
  · rw [installed, Array.getElem?_push] at found
    split at found
    · cases found
      refine ⟨(Option.some_ne_none _).symm, fun entry member _ => ?_⟩
      simp only [scopeAround, List.mem_cons, List.not_mem_nil, or_false] at member
      rcases member with rfl | rfl | rfl
      · trivial
      · trivial
      · exact list.ne
    · exact unreached.scopes number record found
  · rw [installed, Array.getElem?_push] at found
    split at found
    · cases found
      exact list.ne
    · exact unreached.templates number template found

end Stencil
