import Stencil.Proofs.Effects
import Stencil.Proofs.Lowering
import Stencil.Proofs.VeiledCalls

/-!
# The own names of a running routine

While a routine runs, its own names are bound to its converter and to the list of its output.  Appending to the list
and keeping a value under one of the names changes nothing behind the veil.
-/

namespace Stencil

open Effect Script

namespace Routine

/-! ## What a running routine holds -/

/-- The built-in function that converts the values of fragments. -/
def conversion (escape : Bool) : Builtin := if escape then .escape else .text

/-- Whether a scope has given names, and the routine's own ones are bound as its first statements bind them. -/
structure Owns (veil : Veil) (escape : Bool) (bound : List Text) (scope : Scope) : Prop where
  names : scope.names = bound
  belong : ∀ name ∈ [Writing.converter escape, appendName, bufferName], bound.contains name
  converter : scope.values.lookup (Writing.converter escape) = some (.builtin (conversion escape))
  buffer : scope.values.lookup bufferName = some (.object veil.list)
  append : ∃ identity, scope.values.lookup appendName = some (.method identity (.object veil.list) "append")

/-- Whether a routine has gathered some values, and its names are bound. -/
structure Holding (veil : Veil) (escape : Bool) (bound : List Text) (items : List Value) (world : World) : Prop where
  buffer : world.objects[veil.list]? = some (.list items.toArray)
  names : ∃ scope, world.scopes[veil.scope]? = some scope ∧ Owns veil escape bound scope

/-- Whether a routine that gathered some values is ready to go on behind the veil. -/
structure Equipped (veil : Veil) (escape : Bool) (bound : List Text) (items : List Value) (world : World) : Prop extends
    Holding veil escape bound items world where
  shut : veil.Sealed world

variable {veil : Veil} {escape : Bool} {bound : List Text} {items : List Value} {world after : World}
  {here : Activation} {value : Value}
  {call : Caller}

theorem owned_converter (escape : Bool) : isOwnName (Writing.converter escape) = true := by cases escape <;> decide

theorem owned_bufferName : isOwnName bufferName = true := by decide

theorem owned_appendName : isOwnName appendName = true := by decide

theorem owned_valueName : isOwnName valueName = true := by decide

theorem Equipped.mono (equipped : Equipped veil escape bound items world) (shut : veil.Sealed after)
    (same : veil.kept after = veil.kept world) : Equipped veil escape bound items after where
  shut := shut
  buffer := (congrArg Prod.fst same).trans equipped.buffer
  names := by
    obtain ⟨scope, there, owns⟩ := equipped.names
    have kept := congrArg Prod.snd same
    simp only [Veil.kept, there, Option.map_some] at kept
    obtain ⟨scope', there', kept⟩ := Option.map_eq_some_iff.mp kept
    injection kept with names values _
    have agree {name : Text} (owned : isOwnName name = true) :
        scope'.values.lookup name = scope.values.lookup name := by
      rw [← lookup_filter owned, ← lookup_filter owned scope.values, values]
    refine ⟨scope', there', names.trans owns.names, owns.belong, (agree (owned_converter escape)).trans owns.converter,
      (agree owned_bufferName).trans owns.buffer, ?_⟩
    obtain ⟨identity, append⟩ := owns.append
    exact ⟨identity, (agree owned_appendName).trans append⟩

/-! ## Reading the names -/

/-- A name that is bound in the scope of a running call has a value. -/
theorem nameIn_bound {scope : Scope} (there : world.scopes[here.scope]? = some scope) {name : Text}
    (member : scope.names.contains name) (found : scope.values.lookup name = some value) :
    nameIn here name world = .done value world := by
  have bound : world.valueOf here name = .ok value := by
    rw [World.valueOf, there, Option.filter_some, if_pos member]
    dsimp only
    rw [found]
  rw [nameIn, world_bind, bound]
  rfl

/-! ## Appending to the output -/

/-- The world with a further value in the list of the output. -/
def gather (veil : Veil) (value : Value) (world : World) : World :=
  { world with objects := world.objects.modify veil.list fun
      | .list items => .list (items.push value)
      | object => object }

theorem hide_gather (value : Value) (world : World) : veil.hide (gather veil value world) = veil.hide world := by
  have same : (gather veil value world).objects.setIfInBounds veil.list (.list #[]) =
      world.objects.setIfInBounds veil.list (.list #[]) := by
    apply Array.ext_getElem?
    intro place
    simp only [gather]
    grind
  rw [Veil.hide, same]
  rfl

theorem holding_gather (holding : Holding veil escape bound items world) (value : Value) :
    Holding veil escape bound (items ++ [value]) (gather veil value world) where
  buffer := by
    rw [gather, Array.getElem?_modify, if_pos rfl, holding.buffer, Option.map_some]
    exact congrArg (some ∘ Object.list) (List.push_toArray items value)
  names := holding.names

theorem equipped_gather (equipped : Equipped veil escape bound items world) (clear : veil.Clear value) :
    Equipped veil escape bound (items ++ [value]) (gather veil value world) where
  toHolding := holding_gather equipped.toHolding value
  shut := by
    refine equipped.shut.withObjects ?_ ?_
    · rw [Array.size_modify]
      exact equipped.shut.list
    · intro address object found
      rw [Array.getElem?_modify] at found
      split at found
      · obtain ⟨before, there, rfl⟩ := Option.map_eq_some_iff.mp found
        have whole := equipped.shut.objects _ _ there
        split
        · intro item member
          rcases Array.mem_push.mp member with inside | rfl
          · exact whole item inside
          · exact clear
        · exact whole
      · exact equipped.shut.objects address object found

theorem call_append (steps depth : Nat) (holding : Holding veil escape bound items world) (identity : Nat)
    (value : Value) :
    callWithin steps (depth + 1) (.method identity (.object veil.list) "append") [value] world =
      .done .none (gather veil value world) := by
  show callMethod (callWithin steps depth) (.object veil.list) "append" [value] world = _
  rw [callMethod, world_bind]
  dsimp only
  rw [holding.buffer]
  rfl

/-! ## Keeping a value under a name -/

/-- The world with a value under the name for values of fragments. -/
def keep (veil : Veil) (value : Value) (world : World) : World :=
  { world with scopes := world.scopes.modify veil.scope fun scope =>
      { scope with values := putEntry valueName value scope.values } }

theorem filter_putEntry_own {name : Text} (owned : isOwnName name = true) (value : Value)
    (values : List (Text × Value)) :
    (putEntry name value values).filter (fun entry => !isOwnName entry.1) =
      values.filter fun entry => !isOwnName entry.1 := by
  induction values with
  | nil => simp [putEntry, owned]
  | cons entry values ih =>
      by_cases same : entry.1 = name
      · simp [putEntry, same, owned]
      · by_cases own : isOwnName entry.1 <;> simp [putEntry, same, own, ih]

theorem hide_keep (value : Value) (world : World) : veil.hide (keep veil value world) = veil.hide world := by
  have same : (keep veil value world).scopes.modify veil.scope Veil.bare =
      world.scopes.modify veil.scope Veil.bare := by
    apply Array.ext_getElem?
    intro place
    simp only [keep, Array.getElem?_modify]
    split
    · rw [Option.map_map]
      congr 1
      funext scope
      simp only [Function.comp_apply, Veil.bare, filter_putEntry_own owned_valueName]
    · rfl
  rw [Veil.hide, same]
  rfl

theorem there_keep (value : Value) {scope : Scope} (there : world.scopes[veil.scope]? = some scope) :
    (keep veil value world).scopes[veil.scope]? =
      some { scope with values := putEntry valueName value scope.values } := by
  rw [keep, Array.getElem?_modify, if_pos rfl, there, Option.map_some]

/-- Keeping the value of a fragment under a name leaves what the routine holds. -/
theorem holding_keep (holding : Holding veil escape bound items world) (value : Value) :
    Holding veil escape bound items (keep veil value world) where
  buffer := holding.buffer
  names := by
    obtain ⟨scope, there, owns⟩ := holding.names
    obtain ⟨identity, append⟩ := owns.append
    have converter : Writing.converter escape ≠ valueName := by cases escape <;> decide
    refine ⟨_, there_keep value there, owns.names, owns.belong, ?_, ?_, identity, ?_⟩
    · exact (lookup_putEntry_ne converter _ _).trans owns.converter
    · exact (lookup_putEntry_ne (by decide : bufferName ≠ valueName) _ _).trans owns.buffer
    · exact (lookup_putEntry_ne (by decide : appendName ≠ valueName) _ _).trans append

theorem equipped_keep (equipped : Equipped veil escape bound items world) (value : Value) :
    Equipped veil escape bound items (keep veil value world) where
  toHolding := holding_keep equipped.toHolding value
  shut := by
    refine { equipped.shut with scope := ?_, scopes := fun number found there => ?_ }
    · show veil.scope < (keep veil value world).scopes.size
      rw [keep, Array.size_modify]
      exact equipped.shut.scope
    · rw [keep, Array.getElem?_modify] at there
      split at there
      · rename_i same
        obtain ⟨before, found, rfl⟩ := Option.map_eq_some_iff.mp there
        have whole := equipped.shut.scopes _ _ found
        refine ⟨whole.outer, fun entry member free => ?_⟩
        rcases Veil.mem_putEntry member with rfl | inside
        · cases owned_valueName.symm.trans (free same.symm)
        · exact whole.values entry inside free
      · exact equipped.shut.scopes number found there

/-! ## Statements about the output -/

theorem located_done {α : Type} {line : Nat} {action : Effect α} {found : α}
    (ended : action world = .done found after) :
    located here line action world = .done found after := by
  unfold located recover
  rw [ended]

theorem located_failed {α : Type} {line error : Nat} {action : Effect α}
    (ended : action world = .failed error after) : located here line action world = .failed error
      (after.changeIncident error fun incident => { incident with trace := ⟨here.file, line⟩ :: incident.trace }) := by
  unfold located recover
  rw [ended]
  rfl

/-- Evaluating a name of the routine's own. -/
theorem evaluate_own {line : Nat} {name : Text} (owned : isOwnName name = true)
    (bound : nameIn here name world = .done value world) :
    evaluate call here (.name line name) world = .done value world := by
  have other : name ≠ reservedName := by
    rintro rfl
    cases owned
  rw [evaluate, if_neg other]
  exact located_done bound

/-- Putting out the value of an expression. -/
theorem run_appending (call : Caller) (own : here.scope = veil.scope) (holding : Holding veil escape bound items world)
    (rounds line : Nat) (argument : Expr) : ∃ identity, run call rounds here (appending line argument) world =
      (evaluate call here argument >>= fun value => do
        let _ ← located here line (call (.method identity (.object veil.list) "append") [value])
        return .proceed) world := by
  obtain ⟨scope, there, owns⟩ := holding.names
  obtain ⟨identity, append⟩ := owns.append
  refine ⟨identity, ?_⟩
  have found := nameIn_bound (own ▸ there) (owns.names ▸ owns.belong appendName (by simp)) append
  rw [appending, run, evaluate, bind_bind, bind_done (evaluate_own owned_appendName found), bind_bind,
    evaluateAll, evaluateAll, bind_bind]
  rfl

/-- Putting out a text gathers it. -/
theorem run_appending_text (own : here.scope = veil.scope) (holding : Holding veil escape bound items world)
    (steps depth rounds line : Nat) (text : Text) :
    run (callWithin steps (depth + 1)) rounds here (appending line (.constant (.text text))) world =
      .done .proceed (gather veil (.plain text) world) := by
  obtain ⟨identity, appended⟩ := run_appending _ own holding rounds line (.constant (.text text))
  have called := call_append steps depth holding identity (.plain text)
  rw [appended, evaluate]
  exact bind_done (located_done called)

/-- Converting the value that is kept. -/
theorem evaluate_converting (own : here.scope = veil.scope) (holding : Holding veil escape bound items world)
    (belongs : bound.contains valueName) (line : Nat) (value : Value) :
      evaluate call here (.call line (.name line (Writing.converter escape)) [.name line valueName])
        (keep veil value world) =
      located here line (call (.builtin (conversion escape)) [value]) (keep veil value world) := by
  obtain ⟨scope, there, owns⟩ := holding.names
  have kept := own ▸ there_keep value there
  have converter : Writing.converter escape ≠ valueName := by cases escape <;> decide
  have first := nameIn_bound kept (owns.names ▸ owns.belong (Writing.converter escape) (by simp))
    ((lookup_putEntry_ne converter _ _).trans owns.converter)
  have second := nameIn_bound kept (owns.names ▸ belongs) (lookup_putEntry valueName value _)
  rw [evaluate, bind_done (evaluate_own (owned_converter escape) first), evaluateAll, evaluateAll, bind_bind,
    bind_done (evaluate_own owned_valueName second)]
  rfl

end Routine
end Stencil
