import Stencil.Proofs.DisplayHistory
import Stencil.Proofs.LineMoves
import Stencil.Proofs.RoutineCalls

/-!
# The way of an error

Where an effect is done as a part of another one, and which lines an error passes on its way out of there.  A call of a
routine leads to its statements, a fragment to the conversion of its value, and the conversion of an instance of a
displayed class to the rendering of the template of the class.
-/

namespace Stencil

open Effect Script

variable {α β : Type} {kinds : ErrorKind → Bool} {inner : Effect α} {start world : World} {lines : List TraceLine}

namespace Effect

/-- Whether doing `outer` in a world comes to doing `inner` in the world `start`, with nothing around it that catches
errors of certain kinds.  Such an error passes the lines, outermost first, on its way out. -/
inductive Within {α : Type} (kinds : ErrorKind → Bool) (inner : Effect α) (start : World) :
    {β : Type} → Effect β → World → List TraceLine → Prop
  | here : Within kinds inner start inner start []
  | first {β γ : Type} {action : Effect β} {next : β → Effect γ} {world : World} {lines : List TraceLine}
    (within : Within kinds inner start action world lines) : Within kinds inner start (action >>= next) world lines
  | behind {β γ : Type} {action : Effect β} {next : β → Effect γ} {value : β} {world between : World}
    {lines : List TraceLine} (ended : action world = .done value between)
    (within : Within kinds inner start (next value) between lines) :
    Within kinds inner start (action >>= next) world lines
  | located {β : Type} {here : Activation} {line : Nat} {action : Effect β} {world : World} {lines : List TraceLine}
    (within : Within kinds inner start action world lines) :
    Within kinds inner start (located here line action) world (⟨here.file, line⟩ :: lines)
  /-- The effect is attempted, and what comes behind it lets the errors go on. -/
  | attempted {β γ : Type} {action : Effect β} {next : Except Nat β → Effect γ} {world : World}
    {lines : List TraceLine} (within : Within kinds inner start action world lines)
    (passes : ∀ error after incident, after.incident? error = some incident → kinds incident.kind →
      ∃ final, next (.error error) after = .failed error final ∧ final.incident? error = some incident) :
    Within kinds inner start (attempted action >>= next) world lines
  /-- The effect is the same one in other words. -/
  | same {β : Type} {outer outer' : Effect β} {world world' : World} {lines : List TraceLine}
    (equal : outer world = outer' world') (within : Within kinds inner start outer' world' lines) :
    Within kinds inner start outer world lines

/-- An error that leaves an effect leaves what it is a part of, and has passed the lines in between. -/
theorem Within.fails {outer : Effect β} (within : Within kinds inner start outer world lines) {error : Nat}
    {after : World} {incident : Incident} (failed : inner start = .failed error after)
    (found : after.incident? error = some incident) (through : kinds incident.kind) :
    ∃ final, outer world = .failed error final ∧
      final.incident? error = some { incident with trace := lines ++ incident.trace } := by
  induction within with
  | here => exact ⟨after, failed, found⟩
  | first _ ih =>
      obtain ⟨final, failed, found⟩ := ih
      exact ⟨final, bind_failed failed, found⟩
  | behind ended _ ih =>
      obtain ⟨final, failed, found⟩ := ih
      exact ⟨final, (bind_done ended).trans failed, found⟩
  | @located β here line action world lines _ ih =>
      obtain ⟨between, failed, found⟩ := ih
      let note (incident : Incident) : Incident := { incident with trace := ⟨here.file, line⟩ :: incident.trace }
      refine ⟨between.changeIncident error note, ?_, ?_⟩
      · rw [Effect.located, recover, failed]
        rfl
      · rw [incident?_changeIncident, found]
        rfl
  | @attempted β γ action next world lines _ passes ih =>
      obtain ⟨between, failed, found⟩ := ih
      obtain ⟨final, goes, kept⟩ := passes error between _ found through
      have caught : Effect.attempted action world = .done (.error error) between := by
        rw [Effect.attempted, recover, bind_failed failed]
        rfl
      exact ⟨final, (bind_done caught).trans goes, kept⟩
  | same equal _ ih =>
      obtain ⟨final, failed, found⟩ := ih
      exact ⟨final, equal.trans failed, found⟩

end Effect

namespace Routine

variable {call : Caller} {here : Activation} {rounds : Nat} {veil : Veil} {escape : Bool} {bound : List Text}
  {items : List Value} {between : World} {value : Value}

/-! ## Statements -/

theorem within_statement {statement : Stmt} {statements : List Stmt}
    (within : Within kinds inner start (run call rounds here statement) world lines) :
    Within kinds inner start (runBlock call rounds here (statement :: statements)) world lines := by
  rw [runBlock]
  exact .first within

theorem within_behind {statement : Stmt} {statements : List Stmt}
    (ran : run call rounds here statement world = .done .proceed between)
    (within : Within kinds inner start (runBlock call rounds here statements) between lines) :
    Within kinds inner start (runBlock call rounds here (statement :: statements)) world lines :=
  .same (runBlock_proceed ran statements) within

/-- Keeping the value of a fragment is assigning it to the name for such values. -/
theorem run_keeping (own : here.scope = veil.scope) {line : Nat} {code : Expr}
    (found : evaluate call here code world = .done value between) :
    run call rounds here (.assign line [.name valueName] code) world = .done .proceed (keep veil value between) := by
  rw [run_assign found, binding, own]
  rfl

/-- A fragment leads to the conversion of its value, past the generated line that puts the value out. -/
theorem within_fragment (own : here.scope = veil.scope) {first line : Nat} {code : Expr} {statements : List Stmt}
    (found : evaluate call here code world = .done value between) (holding : Holding veil escape bound items between)
    (belongs : bound.contains valueName)
    (within : Within kinds inner start (call (.builtin (conversion escape)) [value]) (keep veil value between) lines) :
    Within kinds inner start (runBlock call rounds here (.assign first [.name valueName] code ::
      appending line (.call line (.name line (Writing.converter escape)) [.name line valueName]) :: statements)) world
      (⟨here.file, line⟩ :: lines) := by
  refine within_behind (run_keeping own found) (within_statement ?_)
  obtain ⟨identity, appended⟩ := run_appending call own (holding_keep holding value) rounds line
    (.call line (.name line (Writing.converter escape)) [.name line valueName])
  exact .same appended (.first (.same (evaluate_converting own holding belongs line value) (.located within)))

end Routine

/-! ## Instances of displayed classes -/

section Displayed

variable {address owner number : Nat} {attributes : List (Text × Slot)} {name : Text} {steps depth : Nat}

/-- The text of an instance of a class is what the class does to become text. -/
theorem text_member {hook : Hook} (member : world.objects[address]? = some (.member owner attributes))
    (converts : world.attributeOfClass? owner "__str__" = some (.hook hook)) (steps depth : Nat) :
    callWithin steps (depth + 2) (.builtin .text) [.object address] world =
      (callHook (callWithin steps depth) hook (.object address) [] >>= requireText) world := by
  have called : callWithin steps (depth + 1) (.method 0 (.object address) "__str__") [] world =
      callHook (callWithin steps depth) hook (.object address) [] world := by
    show callMethod (callWithin steps depth) (.object address) "__str__" [] world = _
    rw [callMethod, world_bind]
    dsimp only
    rw [member]
    dsimp only
    rw [converts]
  show textOf (callWithin steps (depth + 1)) (.object address) world = _
  rw [textOf, world_bind]
  dsimp only
  rw [member]
  dsimp only
  rw [converts]
  exact bind_congr called requireText

/-- The text of an instance of a displayed class comes from rendering the template of the class. -/
theorem within_text (member : world.objects[address]? = some (.member owner attributes))
    (renders : world.attributeOfClass? owner "__str__" = some (.hook (.renders number name)))
    (within : Within kinds inner start (render (callWithin steps depth) number (.object address)) world lines) :
    Within kinds inner start (callWithin steps (depth + 2) (.builtin .text) [.object address]) world lines := by
  have rendered : callHook (callWithin steps depth) (.renders number name) (.object address) [] =
      render (callWithin steps depth) number (.object address) := rfl
  have text := text_member member renders steps depth
  rw [rendered] at text
  exact .same text (.first within)

/-- Inserting an instance of a displayed class that is trusted comes to converting it to text. -/
theorem within_markup (member : world.objects[address]? = some (.member owner attributes))
    (bare : attributes.lookup "__html__".toList = none)
    (trusts : world.attributeOfClass? owner "__html__" = some (.hook (.trusts name)))
    (within : Within kinds inner start (callWithin steps depth (.builtin .text) [.object address])
      { world with identities := world.identities + 1 } lines) :
    Within kinds inner start (callWithin steps (depth + 2) (.builtin .escape) [.object address]) world lines := by
  have called : callWithin steps (depth + 2) (.builtin .escape) [.object address] world =
      trustedText (callWithin steps depth) (.object address) { world with identities := world.identities + 1 } :=
    markupOf_member steps depth member bare trusts
  exact .same called (.first within)

end Displayed

end Stencil
