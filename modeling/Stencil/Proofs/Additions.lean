import Stencil.Proofs.RoutineCalls
import Stencil.World.Display

/-!
# What displaying adds

Until it sets the attributes of a class, displaying adds to the world and changes nothing in it: it adds policies, the
errors that it raises, and a template.
-/

namespace Stencil

open Effect Routine

/-- Whether a relation between worlds holds between a world and one with more objects, one more policy or one more
template. -/
structure Additive (related : World → World → Prop) : Prop where
  refl : ∀ world, related world world
  trans : ∀ {world between next}, related world between → related between next → related world next
  object : ∀ world object, related world { world with objects := world.objects.push object }
  standard : ∀ world, related world { world with policies := world.policies.push .standard }
  template : ∀ world source escape routine globals, related world (installed source escape routine globals world)

/-- Whether an effect ends, with a value or an error, in worlds that are related to those in which it is done. -/
def Leads {α : Type} (related : World → World → Prop) (effect : Effect α) : Prop :=
  ∀ world, match effect world with
    | .done _ next | .failed _ next => related world next
    | .exhausted => True

namespace Leads

variable {α β : Type} {related : World → World → Prop}

theorem of_done {effect : Effect α} (leads : Leads related effect) {world next : World} {value : α}
    (done : effect world = .done value next) : related world next := by
  have ended := leads world
  rw [done] at ended
  exact ended

theorem of_failed {effect : Effect α} (leads : Leads related effect) {world next : World} {error : Nat}
    (failed : effect world = .failed error next) : related world next := by
  have ended := leads world
  rw [failed] at ended
  exact ended

variable (additive : Additive related)
include additive

theorem pure (value : α) : Leads related (Pure.pure value) := additive.refl

theorem world : Leads related Effect.world := additive.refl

theorem failWith (error : Nat) : Leads related (Effect.failWith (α := α) error) := additive.refl

theorem allocate (object : Object) : Leads related (Effect.allocate object) := fun world => additive.object world object

theorem bind {effect : Effect α} {next : α → Effect β} (first : Leads related effect)
    (second : ∀ value, Leads related (next value)) : Leads related (effect >>= next) := by
  intro world
  cases ended : effect world with
  | done value between =>
    rw [bind_done ended]
    have left := first.of_done ended
    cases ended' : next value between with
    | done value' after => exact additive.trans left ((second value).of_done ended')
    | failed error after => exact additive.trans left ((second value).of_failed ended')
    | exhausted => trivial
  | failed error between =>
    rw [bind_failed ended]
    exact first.of_failed ended
  | exhausted =>
    rw [bind_exhausted ended]
    trivial

theorem raiseNoting (kind : ErrorKind) (arguments : List Value) (notes : List (Text × Value)) :
    Leads related (Effect.raiseNoting (α := α) kind arguments notes) :=
  bind additive (allocate additive _) fun _ => failWith additive _

theorem raiseText (kind : ErrorKind) (message : Text) : Leads related (Effect.raiseText (α := α) kind message) :=
  raiseNoting additive kind _ _

theorem raiseReport (kind : ErrorKind) (cause : Option ErrorKind) (report : Report) (message : Text) :
    Leads related (Effect.raiseReport (α := α) kind cause report message) :=
  bind additive (allocate additive _) fun _ => failWith additive _

theorem policyOf (environment : Environment) : Leads related (Effect.policyOf environment) :=
  bind additive (world additive) fun _ => pure additive _

theorem ofLoading (loaded : Except LoadError α) : Leads related (Effect.ofLoading loaded) := by
  cases loaded with
  | ok value => exact pure additive value
  | error error =>
    cases error with
    | missing message => exact raiseText additive _ _
    | unreadable message => exact bind additive (allocate additive _) fun _ => failWith additive _
    | unopened message number => exact bind additive (allocate additive _) fun _ => failWith additive _
    | tooLong path => exact raiseNoting additive _ _ _
    | unknownEncoding name => exact raiseText additive _ _

theorem install (source : TemplateSource) (escape : Bool) (globals : Nat) (routine : Routine) :
    Leads related (Effect.install source escape globals routine) := by
  intro world
  rw [install_installed]
  exact additive.template world source escape routine globals

theorem compile (environment : Environment) (source : TemplateSource) (escape : Option Bool) (globals : Nat) :
    Leads related (Effect.compile environment source escape globals) := by
  refine bind additive (policyOf additive environment) fun policy => ?_
  dsimp only
  split
  · exact install additive _ _ _ _
  · rename_i error _
    cases error with
    | nullCharacter => exact raiseText additive _ _
    | unbalancedPlan => exact raiseNoting additive _ _ _
    | flawed flaw => exact raiseReport additive _ _ _ _

theorem build (binding : Binding) : Leads related (Effect.build binding) := by
  unfold Effect.build
  cases binding.text with
  | some text => exact bind additive (pure additive _) fun _ => compile additive _ _ _ _
  | none =>
    exact bind additive (bind additive (world additive) fun _ => ofLoading additive _) fun _ => compile additive _ _ _ _

theorem environmentFor (record : ClassRecord) (options : DisplayOptions) :
    Leads related (Effect.environmentFor record options) := by
  have standard (loader : Option Loader) : Leads related (standardEnvironment loader) :=
    bind additive (world additive) fun _ =>
      bind additive (fun world => additive.standard world) fun _ => pure additive _
  unfold Effect.environmentFor
  split
  · exact standard _
  · split
    · exact standard _
    · exact bind additive (bind additive (world additive) fun _ => pure additive _) fun _ => standard _
  · exact pure additive _
  · exact pure additive _

theorem templateOf (record : ClassRecord) (options : DisplayOptions) :
    Leads related (Effect.templateOf record options) := by
  unfold Effect.templateOf
  split
  · exact pure additive _
  · dsimp only
    split
    · exact bind additive (pure additive _) fun _ => pure additive _
    · split
      · exact bind additive (pure additive _) fun _ => pure additive _
      · exact bind additive (raiseText additive _ _) fun _ => pure additive _

theorem bindClass (record : ClassRecord) (options : DisplayOptions) :
    Leads related (Effect.bindClass record options) := by
  unfold Effect.bindClass
  split
  · exact raiseText additive _ _
  · refine bind additive (environmentFor additive _ _) fun environment => ?_
    refine bind additive (templateOf additive _ _) fun found => bind additive (policyOf additive _) fun policy => ?_
    refine bind additive (world additive) fun _ => ?_
    split
    · exact pure additive _
    · exact raiseText additive _ _

end Leads
end Stencil
