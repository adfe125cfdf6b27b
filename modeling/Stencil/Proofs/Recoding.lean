import Stencil.Proofs.Mentions
import Stencil.Proofs.RoutineLines

/-!
# Scripts that differ in how they convert values

Two scripts are recodings of each other when they are the same, but for the statements with which routines put out the
values of fragments: one of them converts every value by escaping it, the other one in a given way.  Everything else in
them says only what it may say.
-/

namespace Stencil

open Script Routine

/-! ## What may be mentioned -/

/-- What scripts say nothing of. -/
structure Reticence where
  /-- The names that no script mentions. -/
  hidden : Text → Prop
  /-- The attributes that no script reads or sets. -/
  unread : Text → Prop
  html_read : ¬ unread "__html__"
  str_read : ¬ unread "__str__"

namespace Reticence

variable {reticence : Reticence} {mention : Mention} {mentions more : List Mention} {text : Text}

/-- Whether a script says only what it may say. -/
def Discreet (reticence : Reticence) (mentions : List Mention) : Prop :=
  ∀ mention ∈ mentions, match mention with
    | .name name => ¬ reticence.hidden name
    | .attribute name => ¬ reticence.unread name

theorem Discreet.left (discreet : reticence.Discreet (mentions ++ more)) : reticence.Discreet mentions :=
  fun mention member => discreet mention (List.mem_append_left _ member)

theorem Discreet.right (discreet : reticence.Discreet (mentions ++ more)) : reticence.Discreet more :=
  fun mention member => discreet mention (List.mem_append_right _ member)

theorem Discreet.tail (discreet : reticence.Discreet (mention :: mentions)) : reticence.Discreet mentions :=
  fun mention member => discreet mention (.tail _ member)

theorem Discreet.name (discreet : reticence.Discreet (.name text :: mentions)) : ¬ reticence.hidden text :=
  discreet (.name text) (.head _)

theorem Discreet.attribute (discreet : reticence.Discreet (.attribute text :: mentions)) : ¬ reticence.unread text :=
  discreet (.attribute text) (.head _)

theorem Discreet.names {names : List Text} (discreet : reticence.Discreet (names.map .name)) :
    ∀ name ∈ names, ¬ reticence.hidden name :=
  fun name member => discreet (.name name) (List.mem_map_of_mem member)

end Reticence

namespace Routine

/-- The names with which a routine converts values and gathers its output. -/
def equipment : List Text := [escapeName, textName, bufferName, appendName]

/-- The names that a routine does not share with the script in it. -/
def reserved : List Text := escapeParameter :: textParameter :: renderName :: equipment

end Routine

/-! ## Recodings -/

/-- Whether a statement has no statements in it. -/
def Script.Stmt.isSimple : Stmt → Bool
  | .branch _ _ _ _ | .loop _ _ _ _ | .each _ _ _ _ _ | .define _ _ _ _ | .attempt _ _ _ _ _ | .choose _ _ _ => false
  | _ => true

/-- The statement that puts out the value of a fragment. -/
def converting (line : Nat) (escape : Bool) : Stmt :=
  appending line (.call line (.name line (Writing.converter escape)) [.name line valueName])

mutual

/-- Whether two statements differ in how they convert values only. -/
inductive Recoded (reticence : Reticence) (conversion : Option Bool) : Stmt → Stmt → Prop where
  | simple {statement : Stmt} (simple : statement.isSimple) (discreet : reticence.Discreet statement.mentions) :
    Recoded reticence conversion statement statement
  | literal (decided : conversion.isSome) (line : Nat) (content : Text) :
    Recoded reticence conversion (appending line (.constant (.text content)))
      (appending line (.constant (.text content)))
  | convert {escape : Bool} (decided : conversion = some escape) (line : Nat) :
    Recoded reticence conversion (converting line true) (converting line escape)
  | branch (line : Nat) {test : Expr} {body body' otherwise otherwise' : List Stmt}
    (discreet : reticence.Discreet test.mentions) (inside : RecodedBlock reticence conversion body body')
    (other : RecodedBlock reticence conversion otherwise otherwise') :
    Recoded reticence conversion (.branch line test body otherwise) (.branch line test body' otherwise')
  | loop (line : Nat) {test : Expr} {body body' otherwise otherwise' : List Stmt}
    (discreet : reticence.Discreet test.mentions) (inside : RecodedBlock reticence conversion body body')
    (other : RecodedBlock reticence conversion otherwise otherwise') :
    Recoded reticence conversion (.loop line test body otherwise) (.loop line test body' otherwise')
  | each (line : Nat) {target : Target} {source : Expr} {body body' otherwise otherwise' : List Stmt}
    (discreet : reticence.Discreet (target.mentions ++ source.mentions))
    (inside : RecodedBlock reticence conversion body body')
    (other : RecodedBlock reticence conversion otherwise otherwise') :
    Recoded reticence conversion (.each line target source body otherwise) (.each line target source body' otherwise')
  | define (line : Nat) {name : Text} {parameters : List Parameter} {body body' : List Stmt}
    (discreet : reticence.Discreet (.name name :: parameters.map (.name ∘ Parameter.name)))
    (inside : RecodedBlock reticence conversion body body') :
    Recoded reticence conversion (.define line name parameters body) (.define line name parameters body')
  | attempt (line : Nat) {body body' otherwise otherwise' cleanup cleanup' : List Stmt} {handlers handlers' : List Handler}
    (inside : RecodedBlock reticence conversion body body')
    (handling : RecodedHandlers reticence conversion handlers handlers')
    (other : RecodedBlock reticence conversion otherwise otherwise')
    (last : RecodedBlock reticence conversion cleanup cleanup') :
    Recoded reticence conversion (.attempt line body handlers otherwise cleanup)
      (.attempt line body' handlers' otherwise' cleanup')
  | choose (line : Nat) {subject : Expr} {arms arms' : List Arm} (discreet : reticence.Discreet subject.mentions)
    (each : RecodedArms reticence conversion arms arms') :
    Recoded reticence conversion (.choose line subject arms) (.choose line subject arms')

/-- Whether two bodies differ in how they convert values only. -/
inductive RecodedBlock (reticence : Reticence) (conversion : Option Bool) : List Stmt → List Stmt → Prop where
  | nil : RecodedBlock reticence conversion [] []
  | cons {statement statement' : Stmt} {statements statements' : List Stmt}
    (first : Recoded reticence conversion statement statement')
    (rest : RecodedBlock reticence conversion statements statements') :
    RecodedBlock reticence conversion (statement :: statements) (statement' :: statements')

/-- Whether two lists of handlers differ in how they convert values only. -/
inductive RecodedHandlers (reticence : Reticence) (conversion : Option Bool) : List Handler → List Handler → Prop where
  | nil : RecodedHandlers reticence conversion [] []
  | cons (line : Nat) {kind : Option Expr} {binding : Option Text} {body body' : List Stmt}
    {handlers handlers' : List Handler}
    (discreet : reticence.Discreet (mentionsIfAny kind ++ binding.toList.map .name))
    (inside : RecodedBlock reticence conversion body body')
    (rest : RecodedHandlers reticence conversion handlers handlers') :
    RecodedHandlers reticence conversion (.mk line kind binding body :: handlers) (.mk line kind binding body' :: handlers')

/-- Whether two lists of arms differ in how they convert values only. -/
inductive RecodedArms (reticence : Reticence) (conversion : Option Bool) : List Arm → List Arm → Prop where
  | nil : RecodedArms reticence conversion [] []
  | cons (line : Nat) {pattern : Pattern} {body body' : List Stmt} {arms arms' : List Arm}
    (discreet : reticence.Discreet pattern.mentions) (inside : RecodedBlock reticence conversion body body')
    (rest : RecodedArms reticence conversion arms arms') :
    RecodedArms reticence conversion (.mk line pattern body :: arms) (.mk line pattern body' :: arms')

end

variable {reticence : Reticence} {conversion : Option Bool}

/-! ## Scripts that say only what they may say -/

section Same

variable (reticence : Reticence) (conversion : Option Bool)

mutual

theorem recoded_self : ∀ (statement : Stmt), reticence.Discreet statement.mentions →
    Recoded reticence conversion statement statement
  | .branch line _ body otherwise, discreet =>
    .branch line discreet.left (recodedBlock_self body discreet.right.left) (recodedBlock_self otherwise discreet.right.right)
  | .loop line _ body otherwise, discreet =>
    .loop line discreet.left (recodedBlock_self body discreet.right.left) (recodedBlock_self otherwise discreet.right.right)
  | .each line _ _ body otherwise, discreet => by
    rw [Stmt.mentions, ← List.append_assoc] at discreet
    exact .each line discreet.left (recodedBlock_self body discreet.right.left)
      (recodedBlock_self otherwise discreet.right.right)
  | .define line _ _ body, discreet => by
    rw [Stmt.mentions, ← List.cons_append] at discreet
    exact .define line discreet.left (recodedBlock_self body discreet.right)
  | .attempt line body handlers otherwise cleanup, discreet =>
    .attempt line (recodedBlock_self body discreet.left) (recodedHandlers_self handlers discreet.right.left)
      (recodedBlock_self otherwise discreet.right.right.left) (recodedBlock_self cleanup discreet.right.right.right)
  | .choose line _ arms, discreet => .choose line discreet.left (recodedArms_self arms discreet.right)
  | .evaluate _ _, discreet | .assign _ _ _, discreet | .update _ _ _ _, discreet | .nothing, discreet
  | .spread _, discreet | .leaveLoop _, discreet | .nextRound _, discreet | .giveBack _ _, discreet
  | .fail _ _, discreet => .simple rfl discreet

theorem recodedBlock_self : ∀ (statements : List Stmt), reticence.Discreet (mentionsOfBlock statements) →
    RecodedBlock reticence conversion statements statements
  | [], _ => .nil
  | statement :: statements, discreet =>
    .cons (recoded_self statement discreet.left) (recodedBlock_self statements discreet.right)

theorem recodedHandlers_self : ∀ (handlers : List Handler), reticence.Discreet (mentionsOfHandlers handlers) →
    RecodedHandlers reticence conversion handlers handlers
  | [], _ => .nil
  | .mk line _ _ body :: handlers, discreet => by
    rw [mentionsOfHandlers, ← List.append_assoc] at discreet
    exact .cons line discreet.left (recodedBlock_self body discreet.right.left)
      (recodedHandlers_self handlers discreet.right.right)

theorem recodedArms_self : ∀ (arms : List Arm), reticence.Discreet (mentionsOfArms arms) →
    RecodedArms reticence conversion arms arms
  | [], _ => .nil
  | .mk line _ body :: arms, discreet =>
    .cons line discreet.left (recodedBlock_self body discreet.right.left) (recodedArms_self arms discreet.right.right)

end

end Same

theorem RecodedBlock.append {first first' second second' : List Stmt}
    (one : RecodedBlock reticence conversion first first') (other : RecodedBlock reticence conversion second second') :
    RecodedBlock reticence conversion (first ++ second) (first' ++ second') := by
  induction first generalizing first' with
  | nil =>
      cases one
      exact other
  | cons statement statements ih =>
      cases one with
      | cons same rest => exact .cons same (ih rest)

/-! ## The names that scripts bind -/

/-- Whether no name is one that scripts say nothing of. -/
def Reticence.Spares (reticence : Reticence) (names : List Text) : Prop := ∀ name ∈ names, ¬ reticence.hidden name

namespace Reticence

variable {names more : List Text}

theorem Spares.append (one : reticence.Spares names) (other : reticence.Spares more) : reticence.Spares (names ++ more) :=
  List.forall_mem_append.mpr ⟨one, other⟩

theorem spares_nil : reticence.Spares [] := List.forall_mem_nil _

mutual

theorem spares_target : ∀ (target : Target), reticence.Discreet target.mentions → reticence.Spares target.bound
  | .name _, discreet => List.forall_mem_singleton.mpr discreet.name
  | .tuple items, discreet => spares_targets items discreet
  | .attribute _ _ _, _ | .item _ _ _, _ => spares_nil

theorem spares_targets : ∀ (targets : List Target), reticence.Discreet (mentionsOfTargets targets) →
    reticence.Spares (boundByTargets targets)
  | [], _ => spares_nil
  | target :: targets, discreet => (spares_target target discreet.left).append (spares_targets targets discreet.right)

end

theorem spares_simple {statement : Stmt} (simple : statement.isSimple) (discreet : reticence.Discreet statement.mentions) :
    reticence.Spares statement.bound := by
  cases statement with
  | assign _ targets _ => exact spares_targets targets discreet.right
  | update _ target _ _ => exact spares_target target discreet.left
  | evaluate | nothing | spread | leaveLoop | nextRound | giveBack | fail => exact spares_nil
  | branch | loop | each | define | attempt | choose => cases simple

theorem spares_pattern (pattern : Pattern) (discreet : reticence.Discreet pattern.mentions) :
    reticence.Spares pattern.bound := by
  cases pattern with
  | capture => exact List.forall_mem_singleton.mpr discreet.name
  | constant | anything => exact spares_nil

end Reticence

mutual

/-- Recodings bind the same names, and only such as they may mention. -/
theorem Recoded.bound : ∀ {statement statement' : Stmt}, Recoded reticence conversion statement statement' →
    statement'.bound = statement.bound ∧ reticence.Spares statement.bound
  | _, _, .simple simple discreet => ⟨rfl, Reticence.spares_simple simple discreet⟩
  | _, _, .literal _ _ _ => ⟨rfl, Reticence.spares_nil⟩
  | _, _, .convert _ _ => ⟨rfl, Reticence.spares_nil⟩
  | _, _, .branch _ _ inside other | _, _, .loop _ _ inside other => by
    rw [Stmt.bound, Stmt.bound, inside.bound.1, other.bound.1]
    exact ⟨rfl, inside.bound.2.append other.bound.2⟩
  | _, _, .each _ discreet inside other => by
    rw [Stmt.bound, Stmt.bound, inside.bound.1, other.bound.1]
    exact ⟨rfl, ((Reticence.spares_target _ discreet.left).append inside.bound.2).append other.bound.2⟩
  | _, _, .define _ discreet _ => ⟨rfl, List.forall_mem_singleton.mpr discreet.name⟩
  | _, _, .attempt _ inside handling other last => by
    rw [Stmt.bound, Stmt.bound, inside.bound.1, handling.bound.1, other.bound.1, last.bound.1]
    exact ⟨rfl, ((inside.bound.2.append handling.bound.2).append other.bound.2).append last.bound.2⟩
  | _, _, .choose _ _ each => each.bound

theorem RecodedBlock.bound : ∀ {statements statements' : List Stmt}, RecodedBlock reticence conversion statements statements' →
    boundByBlock statements' = boundByBlock statements ∧ reticence.Spares (boundByBlock statements)
  | _, _, .nil => ⟨rfl, Reticence.spares_nil⟩
  | _, _, .cons first rest => by
    rw [boundByBlock, boundByBlock, first.bound.1, rest.bound.1]
    exact ⟨rfl, first.bound.2.append rest.bound.2⟩

theorem RecodedHandlers.bound : ∀ {handlers handlers' : List Handler},
    RecodedHandlers reticence conversion handlers handlers' →
      boundByHandlers handlers' = boundByHandlers handlers ∧ reticence.Spares (boundByHandlers handlers)
  | _, _, .nil => ⟨rfl, Reticence.spares_nil⟩
  | _, _, .cons _ discreet inside rest => by
    rw [boundByHandlers, boundByHandlers, inside.bound.1, rest.bound.1]
    exact ⟨rfl, (Reticence.Spares.append discreet.right.names inside.bound.2).append rest.bound.2⟩

theorem RecodedArms.bound : ∀ {arms arms' : List Arm}, RecodedArms reticence conversion arms arms' →
    boundByArms arms' = boundByArms arms ∧ reticence.Spares (boundByArms arms)
  | _, _, .nil => ⟨rfl, Reticence.spares_nil⟩
  | _, _, .cons _ discreet inside rest => by
    rw [boundByArms, boundByArms, inside.bound.1, rest.bound.1]
    exact ⟨rfl, ((Reticence.spares_pattern _ discreet).append inside.bound.2).append rest.bound.2⟩

end

end Stencil
