import Stencil.Proofs.DirectRun
import Stencil.Proofs.VeiledErrors

/-!
# Scripts behind a veil

Evaluating expressions and running statements is framed, as long as what runs in the scope of the routine does not
mention the routine's own names.
-/

namespace Stencil

open Effect Script

namespace Veil

variable {veil : Veil} {α : Type} {good : α → Prop} {value : Value} {call : Caller} {here : Activation}

/-- Whether no name of a list is one of the routine's own where the routine runs. -/
def Avoids (veil : Veil) (here : Activation) (names : List Text) : Prop :=
  here.scope = veil.scope → ∀ name ∈ names, isOwnName name = false

theorem avoids_of_ne (apart : here.scope ≠ veil.scope) (names : List Text) : veil.Avoids here names :=
  fun own => absurd own apart

theorem Avoids.left {names more : List Text} (free : veil.Avoids here (names ++ more)) : veil.Avoids here names :=
  fun own name member => free own name (List.mem_append_left _ member)

theorem Avoids.right {names more : List Text} (free : veil.Avoids here (names ++ more)) : veil.Avoids here more :=
  fun own name member => free own name (List.mem_append_right _ member)

theorem Avoids.only {name : Text} (free : veil.Avoids here [name]) (own : here.scope = veil.scope) :
    isOwnName name = false :=
  free own name (.head _)

/-! ## Dictionaries and patterns -/

theorem framed_holds (clear : veil.Clear value) :
    veil.Framed (fun _ => True) (holds value) (holds value) := by
  refine framed_read fun world shut => ?_
  rw [truth_hide shut clear]
  exact framed_pure trivial

theorem framed_putEntries {found entries : List (Value × Value)} (first : veil.ClearPairs found)
    (rest : veil.ClearPairs entries) :
    veil.Framed veil.ClearPairs (putEntries found entries) (putEntries found entries) := by
  induction entries generalizing found with
  | nil => exact framed_pure first
  | cons entry entries ih =>
      have own := rest entry (.head _)
      refine framed_read fun world shut => ?_
      rw [putKey?_hide shut own.1 first]
      refine (framed_decided fun found' same => ?_).bind fun found' clear => ih clear fun entry member =>
        rest entry (.tail _ member)
      exact clear_putKey? own.1 own.2 first same

theorem framed_newDict {entries : List (Value × Value)} (clear : veil.ClearPairs entries) :
    veil.Framed veil.Clear (newDict entries) (newDict entries) := by
  refine (framed_forIn (fun _ => True) (fun entry member _ _ => ?_) trivial).bind fun _ _ => ?_
  · exact (framed_checkKey (clear entry member).1).bind fun _ _ => framed_pure trivial
  · refine (framed_putEntries (List.forall_mem_nil _) clear).bind fun found pairs => ?_
    have content : veil.ClearContent (.dict found) := pairs
    exact (framed_allocate content).bind fun _ apart => framed_pure apart

theorem clear_ofConstant (constant : Constant) : veil.Clear (.ofConstant constant) := by
  cases constant <;> trivial

theorem framed_fits (clear : veil.Clear value) (pattern : Pattern) :
    veil.Framed (fun _ => True) (fits value pattern) (fits value pattern) := by
  cases pattern with
  | anything => exact framed_pure trivial
  | capture name => exact framed_pure trivial
  | constant constant =>
      cases constant with
      | none => exact framed_pure trivial
      | bool flag => exact framed_pure trivial
      | int number => exact framed_areEqual clear trivial
      | text content => exact framed_areEqual clear trivial

/-! ## Evaluating expressions -/

mutual

theorem clear_constant? : ∀ (expr : Expr) {value : Value}, expr.constant? = some value → veil.Clear value
  | .constant constant, _, same => by
    cases same
    exact clear_ofConstant constant
  | .tuple items, _, same => by
    obtain ⟨values, found, rfl⟩ := Option.map_eq_some_iff.mp same
    exact clear_tuple.mpr (clear_constants? items found)
  | .name _ _, _, same | .list _, _, same | .dict _ _, _, same | .attribute _ _ _, _, same | .item _ _ _, _, same
  | .call _ _ _, _, same | .negate _ _, _, same | .binary _ _ _ _, _, same | .compare _ _ _ _, _, same
  | .negation _, _, same | .both _ _, _, same | .either _ _, _, same | .choice _ _ _, _, same => by cases same

theorem clear_constants? : ∀ (exprs : List Expr) {values : List Value}, constants? exprs = some values →
    veil.Clears values
  | [], _, same => by
    cases same
    exact List.forall_mem_nil _
  | expr :: exprs, _, same => by
    obtain ⟨value, found, same⟩ := Option.bind_eq_some_iff.mp same
    obtain ⟨values, found', same⟩ := Option.bind_eq_some_iff.mp same
    cases same
    exact List.forall_mem_cons.mpr ⟨clear_constant? expr found, clear_constants? exprs found'⟩

end

mutual

theorem framed_evaluate (calls : veil.FramedCalls call) : ∀ (expr : Expr), veil.Avoids here expr.names →
    veil.Framed veil.Clear (evaluate call here expr) (evaluate call here expr)
  | .constant constant, _ => framed_pure (clear_ofConstant constant)
  | .name line name, free => by
    rw [evaluate]
    split
    · exact framed_pure trivial
    · exact framed_located line (framed_nameIn free.only)
  | .tuple items, free => by
    rw [evaluate]
    split
    · rename_i values found
      exact framed_pure (clear_tuple.mpr (clear_constants? items found))
    · exact (framed_evaluateAll calls items free).bind fun _ clear => framed_newTuple clear
  | .list items, free => by
    rw [evaluate]
    exact (framed_evaluateAll calls items free).bind fun _ clear => framed_newList clear
  | .dict line entries, free => by
    rw [evaluate]
    exact (framed_evaluateEntries calls entries free).bind fun _ clear => framed_located line (framed_newDict clear)
  | .attribute line object name, free => by
    rw [evaluate]
    exact (framed_evaluate calls object free).bind fun _ clear => framed_located line (framed_attributeAt clear name)
  | .item line object index, free => by
    rw [evaluate]
    exact (framed_evaluate calls object free.left).bind fun _ clear =>
      (framed_evaluate calls index free.right).bind fun _ clear' => framed_located line (framed_itemAt _ _ clear clear')
  | .call line function arguments, free => by
    rw [evaluate]
    exact (framed_evaluate calls function free.left).bind fun _ clear =>
      (framed_evaluateAll calls arguments free.right).bind fun _ each => framed_located line (calls _ _ clear each)
  | .negate line operand, free => by
    rw [evaluate]
    exact (framed_evaluate calls operand free).bind fun _ clear => framed_located line (framed_negative clear)
  | .binary line operation left right, free => by
    rw [evaluate]
    exact (framed_evaluate calls left free.left).bind fun _ clear =>
      (framed_evaluate calls right free.right).bind fun _ clear' =>
        framed_located line (framed_binary calls operation clear clear')
  | .compare line comparison left right, free => by
    rw [evaluate]
    exact (framed_evaluate calls left free.left).bind fun _ clear =>
      (framed_evaluate calls right free.right).bind fun _ clear' =>
        (framed_located line (framed_compared calls comparison clear clear')).bind fun _ _ => framed_pure trivial
  | .negation operand, free => by
    rw [evaluate]
    exact (framed_evaluate calls operand free).bind fun _ clear =>
      (framed_holds clear).bind fun _ _ => framed_pure trivial
  | .both left right, free => by
    rw [evaluate]
    refine (framed_evaluate calls left free.left).bind fun _ clear => (framed_holds clear).bind fun _ _ => ?_
    split
    · exact framed_evaluate calls right free.right
    · exact framed_pure clear
  | .either left right, free => by
    rw [evaluate]
    refine (framed_evaluate calls left free.left).bind fun _ clear => (framed_holds clear).bind fun _ _ => ?_
    split
    · exact framed_pure clear
    · exact framed_evaluate calls right free.right
  | .choice test yes no, free => by
    rw [evaluate]
    refine (framed_evaluate calls test free.left).bind fun _ clear => (framed_holds clear).bind fun _ _ => ?_
    split
    · exact framed_evaluate calls yes free.right.left
    · exact framed_evaluate calls no free.right.right

theorem framed_evaluateAll (calls : veil.FramedCalls call) :
    ∀ (exprs : List Expr), veil.Avoids here (namesAmong exprs) →
    veil.Framed veil.Clears (evaluateAll call here exprs) (evaluateAll call here exprs)
  | [], _ => framed_pure (List.forall_mem_nil _)
  | expr :: exprs, free => by
    rw [evaluateAll]
    exact (framed_evaluate calls expr free.left).bind fun _ clear =>
      (framed_evaluateAll calls exprs free.right).bind fun _ each =>
        framed_pure (List.forall_mem_cons.mpr ⟨clear, each⟩)

theorem framed_evaluateEntries (calls : veil.FramedCalls call) : ∀ (entries : List (Expr × Expr)),
    veil.Avoids here (namesOfEntries entries) →
    veil.Framed veil.ClearPairs (evaluateEntries call here entries) (evaluateEntries call here entries)
  | [], _ => framed_pure (List.forall_mem_nil _)
  | (key, content) :: entries, free => by
    rw [evaluateEntries]
    exact (framed_evaluate calls key free.left).bind fun _ clear =>
      (framed_evaluate calls content free.right.left).bind fun _ clear' =>
        (framed_evaluateEntries calls entries free.right.right).bind fun _ each =>
          framed_pure (List.forall_mem_cons.mpr ⟨⟨clear, clear'⟩, each⟩)

end

/-! ## Assigning -/

mutual

theorem framed_assign (calls : veil.FramedCalls call) (line : Nat) : ∀ (target : Target) {value : Value},
    veil.Avoids here target.names → veil.Clear value →
    veil.Framed (fun _ => True) (assign call here line target value) (assign call here line target value)
  | .name name, _, free, clear => by
    rw [assign]
    exact framed_bindName free.only clear
  | .tuple items, _, free, clear => by
    rw [assign]
    exact (framed_located line (framed_unpack calls items.length clear)).bind fun _ each =>
      framed_assignAll calls line items free each
  | .attribute line' object name, _, free, clear => by
    rw [assign]
    exact (framed_evaluate calls object free).bind fun _ clear' =>
      framed_located line' (framed_putAttributeAt calls clear' name clear)
  | .item line' object index, _, free, clear => by
    rw [assign]
    exact (framed_evaluate calls object free.left).bind fun _ first =>
      (framed_evaluate calls index free.right).bind fun _ second =>
        framed_located line' (framed_putItemAt first second clear)

theorem framed_assignAll (calls : veil.FramedCalls call) (line : Nat) : ∀ (targets : List Target) {values : List Value},
    veil.Avoids here (namesOfTargets targets) → veil.Clears values →
    veil.Framed (fun _ => True) (assignAll call here line targets values) (assignAll call here line targets values)
  | [], _, _, _ => framed_pure trivial
  | _ :: _, [], _, _ => framed_pure trivial
  | target :: targets, value :: values, free, each => by
    rw [assignAll]
    exact (framed_assign calls line target free.left (each value (.head _))).bind fun _ _ =>
      framed_assignAll calls line targets free.right fun value member => each value (.tail _ member)

end

theorem framed_assignEach (calls : veil.FramedCalls call) (line : Nat) (clear : veil.Clear value) :
    ∀ (targets : List Target), veil.Avoids here (namesOfTargets targets) →
    veil.Framed (fun _ => True) (assignEach call here line value targets) (assignEach call here line value targets)
  | [], _ => framed_pure trivial
  | target :: targets, free =>
    (framed_assign calls line target free.left clear).bind fun _ _ =>
      framed_assignEach calls line clear targets free.right

theorem framed_update (calls : veil.FramedCalls call) (line : Nat) (operation : BinaryOp) {operand : Expr}
    (free : veil.Avoids here operand.names) : ∀ (target : Target), veil.Avoids here target.names →
    veil.Framed (fun _ => True) (update call here line operation operand target)
      (update call here line operation operand target)
  | .name _, own => (framed_located line (framed_nameIn own.only)).bind fun _ old =>
    (framed_evaluate calls operand free).bind fun _ clear =>
      (framed_located line (framed_updated calls operation old clear)).bind fun _ new => framed_bindName own.only new
  | .attribute place object name, own => (framed_evaluate calls object own).bind fun _ first =>
    (framed_located place (framed_attributeAt first name)).bind fun _ old =>
      (framed_evaluate calls operand free).bind fun _ clear =>
        (framed_located line (framed_updated calls operation old clear)).bind fun _ new =>
          framed_located place (framed_putAttributeAt calls first name new)
  | .item place object index, own => (framed_evaluate calls object own.left).bind fun _ first =>
    (framed_evaluate calls index own.right).bind fun _ second =>
      (framed_located place (framed_itemAt _ _ first second)).bind fun _ old =>
        (framed_evaluate calls operand free).bind fun _ clear =>
          (framed_located line (framed_updated calls operation old clear)).bind fun _ new =>
            framed_located place (framed_putItemAt first second new)
  | .tuple _, _ => framed_pure trivial

theorem framed_nextRound (calls : veil.FramedCalls call) (line : Nat) {target : Target}
    (free : veil.Avoids here target.names) {iterator : Nat} (apart : iterator ≠ veil.list) :
    veil.Framed (fun _ => True) (nextRound call here line target iterator)
      (nextRound call here line target iterator) := by
  refine (framed_located line (framed_advance calls apart)).bind fun found clear => ?_
  cases found with
  | none => exact framed_pure trivial
  | some value => exact (framed_assign calls line target free (clear value rfl)).bind fun _ _ => framed_pure trivial

/-! ## Running statements -/

/-- Whether the way a list of statements ends does not lead to the list of the routine. -/
def ClearFlow (veil : Veil) : Flow → Prop
  | .finish value => veil.Clear value
  | _ => True

theorem framed_block {statement rest statement' rest' : Effect Flow}
    (first : veil.Framed veil.ClearFlow statement statement')
    (second : veil.Framed veil.ClearFlow rest rest') :
    veil.Framed veil.ClearFlow (do match ← statement with | .proceed => rest | flow => return flow)
      (do match ← statement' with | .proceed => rest' | flow => return flow) := by
  refine first.bind fun flow clear => ?_
  cases flow with
  | proceed => exact second
  | _ => exact framed_pure clear

theorem framed_bindEach (apart : here.scope ≠ veil.scope) (clear : veil.Clear value) (names : List Text) :
    veil.Framed (fun _ => True) (names.forM fun name => bindName here name value)
      (names.forM fun name => bindName here name value) := by
  induction names with
  | nil => exact framed_pure trivial
  | cons name names ih =>
      exact (framed_bindName (fun own => absurd own apart) clear).bind fun _ _ => ih

mutual

/-- Statements are framed; where the routine runs, only plain ones that leave its names alone are. -/
theorem framed_run (calls : veil.FramedCalls call) (steps : Nat) : ∀ (statement : Stmt),
    (here.scope = veil.scope → statement.isPlain = true) → veil.Avoids here statement.names →
    veil.Framed veil.ClearFlow (run call steps here statement) (run call steps here statement)
  | .evaluate _ value, _, free => by
    rw [run]
    exact (framed_evaluate calls value free).bind fun _ _ => framed_pure trivial
  | .assign line targets value, _, free => by
    rw [run]
    exact (framed_evaluate calls value free.left).bind fun _ clear =>
      (framed_assignEach calls line clear targets free.right).bind fun _ _ => framed_pure trivial
  | .update line target operation value, _, free => by
    rw [run]
    exact (framed_update calls line operation free.right target free.left).bind fun _ _ => framed_pure trivial
  | .nothing, _, _ => framed_pure trivial
  | .spread _, _, _ => framed_pure trivial
  | .leaveLoop _, _, _ => framed_pure trivial
  | .nextRound _, _, _ => framed_pure trivial
  | .giveBack _ none, _, _ => framed_pure trivial
  | .giveBack _ (some value), plain, _ => by
    have apart : here.scope ≠ veil.scope := fun own => nomatch plain own
    rw [run]
    exact (framed_evaluate calls value (avoids_of_ne apart _)).bind fun _ clear => framed_pure clear
  | .fail line none, _, _ => by
    rw [run]
    refine framed_read fun world shut => ?_
    have same : (veil.hide world).handled = world.handled := rfl
    rw [same]
    split
    · exact framed_located line framed_raiseAgain
    · exact framed_raiseAgain
  | .fail line (some error), plain, _ => by
    have apart : here.scope ≠ veil.scope := fun own => nomatch plain own
    rw [run]
    exact (framed_evaluate calls error (avoids_of_ne apart _)).bind fun _ clear =>
      framed_located line (framed_raiseValue calls clear)
  | .branch _ test body otherwise, plain, _ => by
    have apart : here.scope ≠ veil.scope := fun own => nomatch plain own
    rw [run]
    refine (framed_evaluate calls test (avoids_of_ne apart _)).bind fun _ clear =>
      (framed_holds clear).bind fun _ _ => ?_
    split
    · exact framed_runBlock calls steps apart body
    · exact framed_runBlock calls steps apart otherwise
  | .loop _ test body otherwise, plain, _ => by
    have apart : here.scope ≠ veil.scope := fun own => nomatch plain own
    rw [run]
    exact framed_rounds trivial ((framed_evaluate calls test (avoids_of_ne apart _)).bind fun _ clear =>
      framed_holds clear)
      (framed_runBlock calls steps apart body) (framed_runBlock calls steps apart otherwise) steps
  | .each line target source body otherwise, plain, _ => by
    have apart : here.scope ≠ veil.scope := fun own => nomatch plain own
    rw [run]
    refine (framed_evaluate calls source (avoids_of_ne apart _)).bind fun _ clear => ?_
    refine (framed_located line (framed_iterate clear)).bind fun iterator other => ?_
    exact framed_rounds trivial (framed_nextRound calls line (avoids_of_ne apart _) other)
      (framed_runBlock calls steps apart body) (framed_runBlock calls steps apart otherwise) steps
  | .define _ name parameters body, plain, _ => by
    have apart : here.scope ≠ veil.scope := fun own => nomatch plain own
    rw [run]
    refine Framed.bind (framed_allocate ⟨apart, List.forall_mem_nil _⟩) fun function other => ?_
    have clear : veil.Clear (.object function) := other
    exact (framed_bindName (fun own => absurd own apart) clear).bind fun _ _ => framed_pure trivial
  | .attempt _ body handlers otherwise cleanup, plain, _ => by
    have apart : here.scope ≠ veil.scope := fun own => nomatch plain own
    rw [run]
    refine framed_cleaned (framed_runBlock calls steps apart cleanup) ?_
    refine (framed_attempted (framed_runBlock calls steps apart body)).bind fun outcome fine => ?_
    split
    · exact framed_runBlock calls steps apart otherwise
    · exact framed_pure fine
    · exact framed_handling fine (framed_runHandlers calls steps apart fine handlers)
  | .choose _ subject arms, plain, _ => by
    have apart : here.scope ≠ veil.scope := fun own => nomatch plain own
    rw [run]
    exact (framed_evaluate calls subject (avoids_of_ne apart _)).bind fun _ clear =>
      framed_runArms calls steps apart clear arms

theorem framed_runBlock (calls : veil.FramedCalls call) (steps : Nat) (apart : here.scope ≠ veil.scope) :
    ∀ (statements : List Stmt),
    veil.Framed veil.ClearFlow (runBlock call steps here statements) (runBlock call steps here statements)
  | [] => framed_pure trivial
  | statement :: statements => by
    rw [runBlock]
    exact framed_block (framed_run calls steps statement (fun own => absurd own apart) (avoids_of_ne apart _))
      (framed_runBlock calls steps apart statements)

theorem framed_runHandlers (calls : veil.FramedCalls call) (steps : Nat) (apart : here.scope ≠ veil.scope) {error : Nat}
    (other : error ≠ veil.list) : ∀ (handlers : List Handler),
    veil.Framed veil.ClearFlow (runHandlers call steps here error handlers) (runHandlers call steps here error handlers)
  | [] => framed_failWith other
  | .mk line kind binding body :: handlers => by
    have clear : veil.Clear (.object error) := other
    rw [runHandlers.eq_def]
    dsimp only
    have handled : ∀ handles : Bool, True → veil.Framed veil.ClearFlow
        (if !handles then runHandlers call steps here error handlers else match binding with
          | none => runBlock call steps here body
          | some name => do
            bindName here name (.object error)
            let outcome ← attempted (runBlock call steps here body)
            unbindName here name
            resume outcome)
        (if !handles then runHandlers call steps here error handlers else match binding with
          | none => runBlock call steps here body
          | some name => do
            bindName here name (.object error)
            let outcome ← attempted (runBlock call steps here body)
            unbindName here name
            resume outcome) := by
      intro handles _
      split
      · exact framed_runHandlers calls steps apart other handlers
      · split
        · exact framed_runBlock calls steps apart body
        · refine (framed_bindName (fun own => absurd own apart) clear).bind fun _ _ => ?_
          refine (framed_attempted (framed_runBlock calls steps apart body)).bind fun outcome fine => ?_
          exact (framed_unbindName apart _).bind fun _ _ => framed_resume fine
    cases kind with
    | none => exact (framed_pure trivial).bind handled
    | some kind =>
        refine (framed_evaluate calls kind (avoids_of_ne apart _)).bind fun _ _ => ?_
        exact (framed_located line (framed_isOfKind other _)).bind handled

theorem framed_runArms (calls : veil.FramedCalls call) (steps : Nat) (apart : here.scope ≠ veil.scope) {subject : Value}
    (clear : veil.Clear subject) : ∀ (arms : List Arm),
    veil.Framed veil.ClearFlow (runArms call steps here subject arms) (runArms call steps here subject arms)
  | [] => framed_pure trivial
  | .mk _ pattern body :: arms => by
    rw [runArms]
    refine (framed_fits clear pattern).bind fun _ _ => ?_
    split
    · exact (framed_bindEach apart clear pattern.bound).bind fun _ _ => framed_runBlock calls steps apart body
    · exact framed_runArms calls steps apart clear arms

end

end Veil
end Stencil
