import Stencil.Proofs.LineMoves
import Stencil.Proofs.OwnNames

/-!
# The names of steps

The line that an expression or a statement stands on decides nothing about its names.  The statements that steps are
written as bind the names that the steps bind, and the name for values of fragments besides.
-/

namespace Stencil

open Script

namespace Script

/-! ## Names on other lines -/

section Lines

variable (line : Nat)

mutual

theorem names_at : ∀ (expr : Expr), (expr.at line).names = expr.names
  | .constant _ | .name _ _ => rfl
  | .tuple items => by rw [Expr.at, Expr.names, Expr.names, namesAmong_at items]
  | .list items => by rw [Expr.at, Expr.names, Expr.names, namesAmong_at items]
  | .dict _ entries => by rw [Expr.at, Expr.names, Expr.names, namesOfEntries_at entries]
  | .attribute _ object _ => by rw [Expr.at, Expr.names, Expr.names, names_at object]
  | .item _ object index => by rw [Expr.at, Expr.names, Expr.names, names_at object, names_at index]
  | .call _ function arguments => by rw [Expr.at, Expr.names, Expr.names, names_at function, namesAmong_at arguments]
  | .negate _ operand => by rw [Expr.at, Expr.names, Expr.names, names_at operand]
  | .negation operand => by rw [Expr.at, Expr.names, Expr.names, names_at operand]
  | .binary _ _ left right => by rw [Expr.at, Expr.names, Expr.names, names_at left, names_at right]
  | .compare _ _ left right => by rw [Expr.at, Expr.names, Expr.names, names_at left, names_at right]
  | .both left right => by rw [Expr.at, Expr.names, Expr.names, names_at left, names_at right]
  | .either left right => by rw [Expr.at, Expr.names, Expr.names, names_at left, names_at right]
  | .choice test yes no => by rw [Expr.at, Expr.names, Expr.names, names_at test, names_at yes, names_at no]

theorem namesAmong_at : ∀ (exprs : List Expr), namesAmong (allAt line exprs) = namesAmong exprs
  | [] => rfl
  | expr :: exprs => by rw [allAt, namesAmong, namesAmong, names_at expr, namesAmong_at exprs]

theorem namesOfEntries_at : ∀ (entries : List (Expr × Expr)),
    namesOfEntries (entriesAt line entries) = namesOfEntries entries
  | [] => rfl
  | (key, content) :: entries => by
    rw [entriesAt, namesOfEntries, namesOfEntries, names_at key, names_at content, namesOfEntries_at entries]

end

mutual

theorem targetNames_at : ∀ (target : Target), (target.at line).names = target.names
  | .name _ => rfl
  | .tuple items => by rw [Target.at, Target.names, Target.names, namesOfTargets_at items]
  | .attribute _ object _ => by rw [Target.at, Target.names, Target.names, names_at line object]
  | .item _ object index => by
    rw [Target.at, Target.names, Target.names, names_at line object, names_at line index]

theorem namesOfTargets_at : ∀ (targets : List Target), namesOfTargets (targetsAt line targets) = namesOfTargets targets
  | [] => rfl
  | target :: targets => by
    rw [targetsAt, namesOfTargets, namesOfTargets, targetNames_at target, namesOfTargets_at targets]

end

mutual

theorem targetBound_at : ∀ (target : Target), (target.at line).bound = target.bound
  | .name _ | .attribute _ _ _ | .item _ _ _ => rfl
  | .tuple items => by rw [Target.at, Target.bound, Target.bound, boundByTargets_at items]

theorem boundByTargets_at : ∀ (targets : List Target), boundByTargets (targetsAt line targets) = boundByTargets targets
  | [] => rfl
  | target :: targets => by
    rw [targetsAt, boundByTargets, boundByTargets, targetBound_at target, boundByTargets_at targets]

end

theorem stmtNames_at {statement : Stmt} (plain : statement.isPlain) : (statement.at line).names = statement.names := by
  cases statement with
  | evaluate _ value => exact names_at line value
  | assign _ targets value => rw [Stmt.at, Stmt.names, Stmt.names, names_at, namesOfTargets_at]
  | update _ target _ value => rw [Stmt.at, Stmt.names, Stmt.names, names_at, targetNames_at]
  | nothing => rfl
  | leaveLoop _ => rfl
  | nextRound _ => rfl
  | _ => cases plain

theorem stmtBound_at {statement : Stmt} (plain : statement.isPlain) : (statement.at line).bound = statement.bound := by
  cases statement with
  | evaluate _ _ => rfl
  | assign _ targets _ => exact boundByTargets_at line targets
  | update _ target _ _ => exact targetBound_at line target
  | nothing => rfl
  | leaveLoop _ => rfl
  | nextRound _ => rfl
  | _ => cases plain

end Lines

/-! ## Names that are bound are mentioned -/

mutual

theorem targetBound_subset : ∀ (target : Target), target.bound ⊆ target.names
  | .name _ => List.Subset.refl _
  | .tuple items => boundByTargets_subset items
  | .attribute _ _ _ | .item _ _ _ => List.nil_subset _

theorem boundByTargets_subset : ∀ (targets : List Target), boundByTargets targets ⊆ namesOfTargets targets
  | [] => List.Subset.refl _
  | target :: targets => List.append_subset.mpr
    ⟨List.subset_append_of_subset_left _ (targetBound_subset target),
      List.subset_append_of_subset_right _ (boundByTargets_subset targets)⟩

end

theorem stmtBound_subset {statement : Stmt} (plain : statement.isPlain) : statement.bound ⊆ statement.names := by
  cases statement with
  | evaluate _ _ => exact List.nil_subset _
  | assign _ targets _ => exact List.subset_append_of_subset_right _ (boundByTargets_subset targets)
  | update _ target _ _ => exact List.subset_append_of_subset_left _ (targetBound_subset target)
  | nothing => exact List.nil_subset _
  | leaveLoop _ => exact List.nil_subset _
  | nextRound _ => exact List.nil_subset _
  | _ => cases plain

end Script

/-! ## Names that steps bind -/

mutual

/-- The names that a step binds. -/
def Step.bound : Step → List Text
  | .text _ | .value _ _ => []
  | .perform statement => statement.bound
  | .branch _ body otherwise | .loop _ body otherwise => boundInSteps body ++ boundInSteps otherwise
  | .each _ target _ body otherwise => target.bound ++ boundInSteps body ++ boundInSteps otherwise

/-- The names that steps bind. -/
def boundInSteps : List Step → List Text
  | [] => []
  | step :: steps => step.bound ++ boundInSteps steps

end

namespace Routine

/-- The names of a list that are not a routine's own. -/
def foreignOf (names : List Text) : List Text := names.filter fun name => !isOwnName name

theorem foreignOf_append (names more : List Text) : foreignOf (names ++ more) = foreignOf names ++ foreignOf more :=
  List.filter_append names more

theorem foreignOf_eq {names : List Text} (foreign : ∀ name ∈ names, isOwnName name = false) :
    foreignOf names = names := by
  refine List.filter_eq_self.mpr fun name member => ?_
  rw [foreign name member]
  rfl

theorem boundInSteps_texts (contents : List Text) (steps : List Step) :
    boundInSteps (contents.map .text ++ steps) = boundInSteps steps := by
  induction contents with
  | nil => rfl
  | cons content contents ih => exact ih

theorem namesInSteps_texts (contents : List Text) (steps : List Step) :
    namesInSteps (contents.map .text ++ steps) = namesInSteps steps := by
  induction contents with
  | nil => rfl
  | cons content contents ih => exact ih

/-- Names of which none is a routine's own, by what they are the names of: the parts of a step, and the steps behind
it. -/
theorem foreign_parts {first body otherwise rest : List Text}
    (foreign : ∀ name ∈ first ++ (body ++ otherwise) ++ rest, isOwnName name = false) :
    (∀ name ∈ first, isOwnName name = false) ∧ (∀ name ∈ body, isOwnName name = false) ∧
      (∀ name ∈ otherwise, isOwnName name = false) ∧ ∀ name ∈ rest, isOwnName name = false := by
  obtain ⟨own, rest⟩ := List.forall_mem_append.mp foreign
  obtain ⟨first, inner⟩ := List.forall_mem_append.mp own
  obtain ⟨body, otherwise⟩ := List.forall_mem_append.mp inner
  exact ⟨first, body, otherwise, rest⟩

/-- Of the names that the statements for steps bind, those that are not a routine's own are the names that the steps
bind. -/
theorem Lowers.foreignOf_bound {origin : Nat → Option Int} {escape : Bool} {steps : List Step} {statements : List Stmt}
    (lowers : Lowers origin escape steps statements) (foreign : ∀ name ∈ namesInSteps steps, isOwnName name = false) :
    foreignOf (boundByBlock statements) = boundInSteps steps := by
  induction lowers with
  | nil => rfl
  | blank rest ih => exact ih foreign
  | idle rest ih => exact ih foreign
  | texts line contents rest ih =>
      rw [namesInSteps_texts] at foreign
      rw [boundInSteps_texts]
      exact ih foreign
  | value code one other rest ih =>
      rw [boundByBlock, boundByBlock, foreignOf_append, foreignOf_append, boundInSteps,
        ih fun name member => foreign name (List.mem_append_right _ member)]
      rfl
  | perform statement plain known rest ih =>
      obtain ⟨own, others⟩ := List.forall_mem_append.mp foreign
      rw [Step.names, stmtNames_at _ plain] at own
      rw [boundByBlock, foreignOf_append, boundInSteps, ih others, Step.bound, stmtBound_at _ plain,
        stmtBound_at _ plain, foreignOf_eq fun name member => own name (stmtBound_subset plain member)]
  | branch test known inside other rest ihBody ihOther ih =>
      obtain ⟨-, body, otherwise, others⟩ := foreign_parts foreign
      rw [boundByBlock, boundInSteps, Stmt.bound, Step.bound, foreignOf_append, foreignOf_append, ihBody body,
        ihOther otherwise, ih others]
  | loop test known inside other rest ihBody ihOther ih =>
      obtain ⟨-, body, otherwise, others⟩ := foreign_parts foreign
      rw [boundByBlock, boundInSteps, Stmt.bound, Step.bound, foreignOf_append, foreignOf_append, ihBody body,
        ihOther otherwise, ih others]
  | each target source known inside other rest ihBody ihOther ih =>
      obtain ⟨own, -, inner, others⟩ := foreign_parts foreign
      obtain ⟨body, otherwise⟩ := List.forall_mem_append.mp inner
      rw [targetNames_at] at own
      rw [boundByBlock, boundInSteps, Stmt.bound, Step.bound, foreignOf_append, foreignOf_append, foreignOf_append,
        ihBody body, ihOther otherwise, ih others, targetBound_at, targetBound_at,
        foreignOf_eq fun name member => own name (targetBound_subset target member)]

/-- Of a routine's own names, the statements for steps bind only the one for values of fragments. -/
theorem Lowers.own_bound {origin : Nat → Option Int} {escape : Bool} {steps : List Step} {statements : List Stmt}
    (lowers : Lowers origin escape steps statements) (foreign : ∀ name ∈ namesInSteps steps, isOwnName name = false) :
    ∀ name ∈ boundByBlock statements, isOwnName name = true → name = valueName := by
  have absurdly {names : List Text} (free : ∀ name ∈ names, isOwnName name = false) :
      ∀ name ∈ names, isOwnName name = true → name = valueName := by
    intro name member owned
    cases (free name member).symm.trans owned
  induction lowers with
  | nil => exact List.forall_mem_nil _
  | blank rest ih => exact ih foreign
  | idle rest ih => exact ih foreign
  | texts line contents rest ih =>
      rw [namesInSteps_texts] at foreign
      exact ih foreign
  | value code one other rest ih =>
      have others := ih fun name member => foreign name (List.mem_append_right _ member)
      exact List.forall_mem_cons.mpr ⟨fun _ => rfl, others⟩
  | perform statement plain known rest ih =>
      obtain ⟨own, others⟩ := List.forall_mem_append.mp foreign
      rw [Step.names, stmtNames_at _ plain] at own
      rw [boundByBlock, stmtBound_at _ plain]
      exact List.forall_mem_append.mpr
        ⟨absurdly fun name member => own name (stmtBound_subset plain member), ih others⟩
  | branch test known inside other rest ihBody ihOther ih =>
      obtain ⟨-, body, otherwise, others⟩ := foreign_parts foreign
      exact List.forall_mem_append.mpr ⟨List.forall_mem_append.mpr ⟨ihBody body, ihOther otherwise⟩, ih others⟩
  | loop test known inside other rest ihBody ihOther ih =>
      obtain ⟨-, body, otherwise, others⟩ := foreign_parts foreign
      exact List.forall_mem_append.mpr ⟨List.forall_mem_append.mpr ⟨ihBody body, ihOther otherwise⟩, ih others⟩
  | each target source known inside other rest ihBody ihOther ih =>
      obtain ⟨own, -, inner, others⟩ := foreign_parts foreign
      obtain ⟨body, otherwise⟩ := List.forall_mem_append.mp inner
      rw [targetNames_at] at own
      rw [boundByBlock, Stmt.bound, targetBound_at]
      have bound := absurdly fun name member => own name (targetBound_subset target member)
      exact List.forall_mem_append.mpr
        ⟨List.forall_mem_append.mpr ⟨List.forall_mem_append.mpr ⟨bound, ihBody body⟩, ihOther otherwise⟩, ih others⟩

end Routine
end Stencil
