import Stencil.Proofs.OwnNames
import Stencil.Proofs.TwinErrors

/-!
# Output that is gathered in two worlds

Two routines that differ in how they convert values hold their own names in the scopes of their calls, and everything
that is defined in them finds these names there.  What the two routines put out says the same when their conversions do.
-/

namespace Stencil

open Effect Script Routine Manners

/-! ## The way to the scope of a call -/

/-- Whether the scopes around a scope lead to a given one, and none on the way has names of a routine's own. -/
inductive World.Leads (world : World) (target : Nat) : Nat → Prop where
  | here : Leads world target target
  | outwards {number outer : Nat} {scope : Scope} (there : world.scopes[number]? = some scope)
    (around : scope.outer = some outer) (before : outer < number)
    (free : ∀ name ∈ equipment, scope.names.contains name = false) (leads : Leads world target outer) :
    Leads world target number

section Leads

variable {world : World} {target number steps : Nat} {name : Text} {scope : Scope} {here : Activation} {value : Value}

theorem World.Leads.ownerOf? (leads : world.Leads target number) (equipped : name ∈ equipment)
    (found : world.scopes[target]? = some scope) (own : scope.names.contains name) (inside : number < steps) :
    world.ownerOf? name steps number = some scope := by
  induction leads generalizing steps with
  | here =>
      cases steps with
      | zero => cases inside
      | succ steps =>
          rw [World.ownerOf?, found]
          exact if_pos own
  | @outwards number outer around there out before free _ ih =>
      cases steps with
      | zero => cases inside
      | succ steps =>
          rw [World.ownerOf?, there]
          dsimp only
          rw [if_neg (Bool.eq_false_iff.mp (free name equipped)), out]
          exact ih (before.trans_le (Nat.lt_succ_iff.mp inside))

/-- What a name of a routine's own stands for is found from everywhere inside of it. -/
theorem World.Leads.nameIn (leads : world.Leads target here.scope) (equipped : name ∈ equipment)
    (found : world.scopes[target]? = some scope) (own : scope.names.contains name)
    (bound : scope.values.lookup name = some value) : nameIn here name world = .done value world := by
  have known : world.valueOf here name = .ok value := by
    unfold World.valueOf
    cases leads with
    | here =>
        rw [found]
        dsimp only
        rw [Option.filter_some, if_pos own]
        dsimp only
        rw [bound]
    | @outwards _ outer around there out before free leads =>
        have inside := (Array.getElem?_eq_some_iff.mp there).1
        rw [there]
        dsimp only [Option.bind_some]
        rw [Option.filter_some, if_neg (Bool.eq_false_iff.mp (free name equipped)), out]
        dsimp only [Option.bind_some]
        rw [leads.ownerOf? equipped found own (before.trans inside)]
        dsimp only
        rw [bound]
  rw [Effect.nameIn, world_bind, known]
  rfl

end Leads

/-! ## A routine's own names -/

section Equips

variable {converter : Value} {place : Gathering} {value value' : Value}

theorem Equips.left_escape (equips : Equips converter place (Writing.converter true) value value') :
    value = converter := by
  generalize named : Writing.converter true = name at equips
  cases equips with
  | escape => rfl
  | _ => exact absurd named (by decide)

theorem Equips.right_converter {escape : Bool}
    (equips : Equips converter place (Writing.converter escape) value value') : value' = .builtin (conversion escape) := by
  generalize named : Writing.converter escape = name at equips
  cases escape <;> cases equips <;> first | rfl | exact absurd named (by decide)

theorem Equips.appending (equips : Equips converter place appendName value value') :
    ∃ identity identity' : Nat, value = .method identity (.object place.list) "append" ∧
      value' = .method identity' (.object place.list') "append" := by
  generalize named : appendName = name at equips
  cases equips with
  | append identity identity' => exact ⟨identity, identity', rfl, rfl⟩
  | _ => exact absurd named (by decide)

theorem Equips.buffer (equips : Equips converter place bufferName value value') :
    value = .object place.list ∧ value' = .object place.list' := by
  generalize named : bufferName = name at equips
  cases equips with
  | list => exact ⟨rfl, rfl⟩
  | _ => exact absurd named (by decide)

end Equips

namespace Terms

variable {terms : Terms} {bond : Bond} {world world' : World} {place : Gathering} {call call' : Caller}
  {here here' : Activation}

theorem Gathers.leads (gathers : terms.Gathers bond place world world') {number number' : Nat}
    (frame : bond.frames true number number') :
    world.Leads place.scope number ∧ world'.Leads place.scope' number' := by
  induction number using Nat.strong_induction_on generalizing number' with
  | _ number ih =>
      rcases gathers.links frame with
        ⟨rfl, rfl⟩ | ⟨scope, scope', outer, outer', there, there', around, around', before, before', pair, free⟩
      · exact ⟨.here, .here⟩
      · obtain ⟨leads, leads'⟩ := ih outer before pair
        exact ⟨.outwards there around before (fun name own => (free name own).1) leads,
          .outwards there' around' before' (fun name own => (free name own).2) leads'⟩

theorem owned_equipment : ∀ name ∈ equipment, isOwnName name = true := by decide

/-- The names that a routine gathers its output with stand for what the routine holds, on both sides. -/
theorem Gathers.evaluate (call call' : Caller) (gathers : terms.Gathers bond place world world') (same : SameActivation true bond here here')
    {name : Text} (equipped : name ∈ equipment) (line : Nat) : ∃ value value',
    Equips terms.converter place name value value' ∧
      evaluate call here (.name line name) world = .done value world ∧
        evaluate call' here' (.name line name) world' = .done value' world' := by
  obtain ⟨scope, scope', there, there', own⟩ := gathers.own
  obtain ⟨has, has', value, value', bound, bound', equips⟩ := own name equipped
  obtain ⟨leads, leads'⟩ := gathers.leads same.scope
  exact ⟨value, value', equips, evaluate_own (owned_equipment name equipped) (leads.nameIn equipped there has bound),
    evaluate_own (owned_equipment name equipped) (leads'.nameIn equipped there' has' bound')⟩

/-! ## Putting out -/

/-- Whether calls convert the values of routines that differ, and gather them, so that the output says the same. -/
structure TwinOutputs (terms : Terms) (bond : Bond) (call call' : Caller) : Prop where
  converts : ∀ later, bond ≤ later → ∀ {place : Gathering}, later.gathering = some place → ∀ {value value' : Value},
    terms.Same later value value' → terms.Twin later (fun _ => SaysSame) (call terms.converter [value])
      (call' (.builtin (conversion place.escape)) [value'])
  appends : ∀ later, bond ≤ later → ∀ {place : Gathering}, later.gathering = some place →
    ∀ (identity identity' : Nat) {value value' : Value}, SaysSame value value' →
      terms.Twin later Whatever (call (.method identity (.object place.list) "append") [value])
        (call' (.method identity' (.object place.list') "append") [value'])

theorem TwinOutputs.mono {bond' : Bond} (grown : bond ≤ bond') (outputs : terms.TwinOutputs bond call call') :
    terms.TwinOutputs bond' call call' :=
  ⟨fun later more => outputs.converts later (grown.trans more), fun later more => outputs.appends later (grown.trans more)⟩

/-- Putting out what says the same. -/
theorem twin_appending (outputs : terms.guarded → terms.TwinOutputs bond call call') (same : SameActivation true bond here here')
    (known : bond.gathering = some place) (steps line : Nat) {argument argument' : Expr}
    (twin : terms.Twin bond (fun _ => SaysSame) (evaluate call here argument) (evaluate call' here' argument')) :
    terms.Twin bond terms.SameFlow (run call steps here (appending line argument))
      (run call' steps here' (appending line argument')) := by
  intro later grown world world' matched
  have known := grown.gathering known
  have outputs := outputs (matched.gathers known).guarded
  obtain ⟨_, _, equips, found, found'⟩ := (matched.gathers known).evaluate call call'
    (same.mono grown) (by decide : appendName ∈ equipment) line
  obtain ⟨identity, identity', rfl, rfl⟩ := equips.appending
  rw [appending, run, evaluate, bind_bind, bind_done found, evaluateAll, evaluateAll, bind_bind, bind_bind,
    appending, run, evaluate, bind_bind, bind_done found', evaluateAll, evaluateAll, bind_bind, bind_bind]
  refine (twin.mono grown).bind (fun last more value value' alike => ?_) later le_rfl world world' matched
  exact (twin_located same.file line (outputs.appends last (grown.trans more) (more.gathering known) _ _ alike)).bind
    fun _ _ _ _ _ => twin_flow .proceed

/-- Putting out a text. -/
theorem twin_literal (outputs : terms.guarded → terms.TwinOutputs bond call call') (same : SameActivation true bond here here')
    (known : bond.gathering = some place) (steps line : Nat) (content : Text) :
    terms.Twin bond terms.SameFlow (run call steps here (appending line (.constant (.text content))))
      (run call' steps here' (appending line (.constant (.text content)))) :=
  twin_appending outputs same known steps line (twin_pure fun _ _ => ⟨_, _, _, _, _, rfl, rfl⟩)

/-- Putting out the value of a fragment. -/
theorem twin_converting (outputs : terms.guarded → terms.TwinOutputs bond call call') (same : SameActivation true bond here here')
    (known : bond.gathering = some place) (steps line : Nat) :
    terms.Twin bond terms.SameFlow (run call steps here (converting line true))
      (run call' steps here' (converting line place.escape)) := by
  refine twin_appending outputs same known steps line fun later grown world world' matched => ?_
  have known := grown.gathering known
  have own : Writing.converter place.escape ∈ equipment := by cases place.escape <;> decide
  have gathers := matched.gathers known
  have outputs := outputs gathers.guarded
  obtain ⟨_, _, equips, found, -⟩ := gathers.evaluate call call' (same.mono grown)
    (by decide : Writing.converter true ∈ equipment) line
  obtain ⟨_, _, equips', -, found'⟩ := gathers.evaluate call call' (same.mono grown) own line
  obtain rfl := equips.left_escape
  obtain rfl := equips'.right_converter
  rw [evaluate, bind_done found, evaluate, bind_done found']
  have free : ¬ (terms.reticence true).hidden valueName := (by decide : valueName ∉ reserved)
  have kept : terms.Twin later (fun last arguments arguments' => ∃ value value', arguments = [value] ∧
      arguments' = [value'] ∧ terms.Same last value value') (evaluateAll call here [.name line valueName])
      (evaluateAll call' here' [.name line valueName]) := by
    rw [evaluateAll, evaluateAll, evaluate, evaluateAll, evaluateAll, evaluate, if_neg (by decide)]
    exact (twin_located same.file line (twin_nameIn (same.mono grown) free)).bind fun _ _ value value' alike =>
      twin_pure fun _ more => ⟨value, value', rfl, rfl, alike.mono more⟩
  refine (kept.bind fun last more arguments arguments' each => ?_) later le_rfl world world' matched
  obtain ⟨value, value', rfl, rfl, alike⟩ := each
  exact twin_located same.file line (outputs.converts last (grown.trans more) (more.gathering known) alike)

end Terms
end Stencil
