import Stencil.Proofs.SpokenNames

/-!
# The names that lines speak of

What simple statements, and the heads of compound ones, mention is what the tokens of their lines speak of.
-/

namespace Stencil.Script

/-! ## Simple statements -/

section Statements

variable {reticence : Reticence}

mutual

theorem mentions_targetOf? : ∀ {value : Expr} {target : Target}, targetOf? value = some target →
    reticence.Discreet value.mentions → reticence.Discreet target.mentions
  | .name _ _, _, read, discreet | .attribute _ _ _, _, read, discreet | .item _ _ _, _, read, discreet => by
    cases read
    exact discreet
  | .tuple items, _, read, discreet | .list items, _, read, discreet => by
    obtain ⟨targets, found, rfl⟩ := Option.map_eq_some_iff.mp read
    exact mentions_targetsOf? found discreet
  | .constant _, _, read, _ | .dict _ _, _, read, _ | .call _ _ _, _, read, _ | .negate _ _, _, read, _
  | .binary _ _ _ _, _, read, _ | .compare _ _ _ _, _, read, _ | .negation _, _, read, _ | .both _ _, _, read, _
  | .either _ _, _, read, _ | .choice _ _ _, _, read, _ => by cases read

theorem mentions_targetsOf? : ∀ {items : List Expr} {targets : List Target}, targetOf?.targetsOf? items = some targets →
    reticence.Discreet (mentionsAmong items) → reticence.Discreet (mentionsOfTargets targets)
  | [], _, read, _ => by
    cases read
    exact discreet_nil
  | item :: items, _, read, discreet => by
    obtain ⟨target, first, read⟩ := Option.bind_eq_some_iff.mp read
    obtain ⟨targets, rest, read⟩ := Option.bind_eq_some_iff.mp read
    cases read
    exact discreet_append (mentions_targetOf? first discreet.left) (mentions_targetsOf? rest discreet.right)

end

theorem mentions_singleTargetOf? {value : Expr} {target : Target} (read : singleTargetOf? value = some target)
    (discreet : reticence.Discreet value.mentions) : reticence.Discreet target.mentions := by
  unfold singleTargetOf? at read
  split at read
  · cases read
  · exact mentions_targetOf? read discreet

theorem mentionsOfTargets_append (first second : List Target) :
    mentionsOfTargets (first ++ second) = mentionsOfTargets first ++ mentionsOfTargets second := by
  induction first with
  | nil => rfl
  | cons target first ih => rw [List.cons_append, mentionsOfTargets, mentionsOfTargets, ih, List.append_assoc]

theorem Allowed.update {tokens : List Placed} {operation : BinaryOp} (allowed : Allowed reticence tokens)
    (read : updateOperation? tokens = some operation) : Allowed reticence tokens.tail := by
  unfold updateOperation? at read
  repeat' split at read
  any_goals
    rename_i start
    exact allowed.mark start (by decide)
  · cases read

variable (frank : ∀ name, ¬ reticence.unread name)
include frank

theorem sober_readValue : Sober reticence Expr.mentions readValue :=
  fun _ _ _ allowed read => (readSober frank _).exprs allowed read

theorem sober_readSingle : Sober reticence Expr.mentions readSingle :=
  fun _ _ _ allowed read => (readSober frank _).expr allowed read

theorem allowed_readSpread {tokens rest : List Placed} {statement : Stmt} (allowed : Allowed reticence tokens.tail)
    (read : readSpread tokens = some (statement, rest)) :
    reticence.Discreet statement.mentions ∧ Allowed reticence rest := by
  obtain ⟨⟨operand, behind⟩, first, read⟩ := Option.bind_eq_some_iff.mp read
  dsimp only at read
  split at read
  · cases read
    exact ⟨discreet_nil, ((readSober frank _).sum allowed first).2⟩
  · cases read

theorem sober_readAssignment (line : Nat) {targets : List Target} {value : Expr} {steps : Nat}
    (targeted : reticence.Discreet (mentionsOfTargets targets)) (discreet : reticence.Discreet value.mentions) :
    Sober reticence Stmt.mentions (readAssignment line targets value steps) := by
  induction steps generalizing targets value with
  | zero => nofun
  | succ steps ih =>
      intro tokens found rest allowed read
      rw [readAssignment] at read
      split at read
      · rename_i both
        rw [Bool.and_eq_true] at both
        exact allowed_readSpread frank ((allowed.mark both.1 (by decide)).mark both.2 (by decide)) read
      split at read
      · rename_i start
        obtain ⟨target, single, read⟩ := Option.bind_eq_some_iff.mp read
        obtain ⟨⟨next, behind⟩, second, read⟩ := Option.bind_eq_some_iff.mp read
        obtain ⟨assigned, allowed⟩ := sober_readValue frank (allowed.mark start (by decide)) second
        have own : reticence.Discreet (mentionsOfTargets (targets ++ [target])) := by
          rw [mentionsOfTargets_append]
          exact discreet_append targeted (discreet_append (mentions_targetOf? single discreet) discreet_nil)
        exact ih own assigned allowed read
      · cases read
        refine ⟨?_, allowed⟩
        split
        · exact discreet
        · exact discreet_append discreet targeted

theorem sober_readSimple : Sober reticence Stmt.mentions readSimple := by
  intro tokens found rest allowed read
  unfold readSimple at read
  dsimp only at read
  split at read
  · rename_i start
    cases read
    exact ⟨discreet_nil, allowed.word start⟩
  split at read
  · rename_i start
    cases read
    exact ⟨discreet_nil, allowed.word start⟩
  split at read
  · rename_i start
    cases read
    exact ⟨discreet_nil, allowed.word start⟩
  split at read
  · rename_i start
    have behind := allowed.word start
    split at read
    · cases read
      exact ⟨discreet_nil, behind⟩
    split at read
    · rename_i star
      exact allowed_readSpread frank (behind.mark star (by decide)) read
    · obtain ⟨⟨value, more⟩, first, read⟩ := Option.bind_eq_some_iff.mp read
      obtain ⟨discreet, allowed⟩ := sober_readValue frank behind first
      cases read
      exact ⟨discreet, allowed⟩
  split at read
  · rename_i start
    have behind := allowed.word start
    split at read
    · cases read
      exact ⟨discreet_nil, behind⟩
    · obtain ⟨⟨error, more⟩, first, read⟩ := Option.bind_eq_some_iff.mp read
      obtain ⟨discreet, allowed⟩ := sober_readSingle frank behind first
      cases read
      exact ⟨discreet, allowed⟩
  split at read
  · rename_i star
    exact allowed_readSpread frank (allowed.mark star (by decide)) read
  · obtain ⟨⟨value, behind⟩, first, read⟩ := Option.bind_eq_some_iff.mp read
    obtain ⟨discreet, allowed⟩ := sober_readValue frank allowed first
    dsimp only at read
    split at read
    · rename_i operation updated
      obtain ⟨target, single, read⟩ := Option.bind_eq_some_iff.mp read
      have targeted := mentions_singleTargetOf? single discreet
      split at read
      · rename_i star
        exact allowed_readSpread frank ((allowed.update updated).mark star (by decide)) read
      · obtain ⟨⟨operand, more⟩, second, read⟩ := Option.bind_eq_some_iff.mp read
        obtain ⟨other, allowed⟩ := sober_readValue frank (allowed.update updated) second
        cases read
        exact ⟨discreet_append targeted other, allowed⟩
    · exact sober_readAssignment frank _ discreet_nil discreet allowed read

theorem sober_readSimples {steps : Nat} {tokens : List Placed} {statements : List Stmt} (allowed : Allowed reticence tokens)
    (read : readSimples steps tokens = some statements) : reticence.Discreet (mentionsOfBlock statements) := by
  induction steps generalizing tokens statements with
  | zero => cases read
  | succ steps ih =>
      obtain ⟨⟨statement, behind⟩, first, read⟩ := Option.bind_eq_some_iff.mp read
      obtain ⟨discreet, allowed⟩ := sober_readSimple frank allowed first
      have alone : reticence.Discreet (mentionsOfBlock [statement]) := discreet_append discreet discreet_nil
      dsimp only at read
      split at read
      · cases read
        exact alone
      split at read
      · rename_i more
        split at read
        · cases read
          exact alone
        · obtain ⟨others, second, read⟩ := Option.bind_eq_some_iff.mp read
          cases read
          exact discreet_append discreet (ih (allowed.mark more (by decide)) second)
      · cases read

theorem sober_readLine {tokens : List Placed} {statements : List Stmt} (allowed : Allowed reticence tokens)
    (read : readLine tokens = some statements) : reticence.Discreet (mentionsOfBlock statements) :=
  sober_readSimples frank allowed read

/-! ## Heads -/

/-- What the head of a compound statement mentions. -/
def Head.mentions : Head → List Mention
  | .branch test | .loop test => test.mentions
  | .each target source => target.mentions ++ source.mentions
  | .define name parameters => .name name :: parameters.map (.name ∘ Parameter.name)
  | .attempt => []

theorem sober_readTargets {steps : Nat} :
    Sober reticence (fun found => mentionsOfTargets found.1) (readTargets steps) := by
  induction steps with
  | zero => nofun
  | succ steps ih =>
      intro tokens found rest allowed read
      obtain ⟨⟨first, behind⟩, factor, read⟩ := Option.bind_eq_some_iff.mp read
      obtain ⟨discreet, allowed⟩ := (readSober frank _).factor allowed factor
      obtain ⟨target, single, read⟩ := Option.bind_eq_some_iff.mp read
      have targeted := mentions_targetOf? single discreet
      dsimp only at read
      split at read
      · rename_i start
        have behind := allowed.mark start (by decide)
        split at read
        · cases read
          exact ⟨discreet_append targeted discreet_nil, behind⟩
        · obtain ⟨⟨⟨targets, _⟩, more⟩, second, read⟩ := Option.bind_eq_some_iff.mp read
          obtain ⟨others, allowed⟩ := ih behind second
          cases read
          exact ⟨discreet_append targeted others, allowed⟩
      · cases read
        exact ⟨discreet_append targeted discreet_nil, allowed⟩

theorem sober_readLoopTarget : Sober reticence Target.mentions readLoopTarget := by
  intro tokens found rest allowed read
  obtain ⟨⟨⟨targets, comma⟩, behind⟩, first, read⟩ := Option.bind_eq_some_iff.mp read
  obtain ⟨discreet, allowed⟩ := sober_readTargets frank allowed first
  dsimp only at read discreet
  split at read
  · rename_i same
    cases same
    cases read
    exact ⟨discreet.left, allowed⟩
  · rename_i same
    cases same
    cases read
    exact ⟨discreet, allowed⟩

omit frank in
theorem sober_readParameters {steps : Nat} :
    Sober reticence (List.map (.name ∘ Parameter.name)) (readParameters steps) := by
  induction steps with
  | zero => nofun
  | succ steps ih =>
      intro tokens found rest allowed read
      rw [readParameters] at read
      split at read
      · rename_i start
        cases read
        exact ⟨discreet_nil, allowed.mark start (by decide)⟩
      · obtain ⟨⟨name, behind⟩, first, read⟩ := Option.bind_eq_some_iff.mp read
        obtain ⟨free, allowed⟩ := allowed.name first
        dsimp only at read
        split at read
        · rename_i start
          obtain ⟨⟨parameters, more⟩, second, read⟩ := Option.bind_eq_some_iff.mp read
          obtain ⟨others, allowed⟩ := ih (allowed.mark start (by decide)) second
          cases read
          exact ⟨discreet_cons free others, allowed⟩
        · obtain ⟨⟨_, more⟩, closed, read⟩ := Option.bind_eq_some_iff.mp read
          cases read
          exact ⟨discreet_cons free discreet_nil, allowed.expectedMark closed (by decide)⟩

theorem sober_readHead? {tokens rest : List Placed} {head : Head} (allowed : Allowed reticence tokens)
    (read : readHead? tokens = some (some (head, rest))) : reticence.Discreet head.mentions ∧ Allowed reticence rest := by
  have closed (head' : Head) {head : Head} {rest rest' : List Placed} (discreet : reticence.Discreet head'.mentions)
      (allowed : Allowed reticence rest')
      (read : ((expectMark ":" rest').bind fun found => some (head', found.2)) = some (head, rest)) :
      reticence.Discreet head.mentions ∧ Allowed reticence rest := by
    obtain ⟨⟨_, more⟩, colon, read⟩ := Option.bind_eq_some_iff.mp read
    cases read
    exact ⟨discreet, allowed.expectedMark colon (by decide)⟩
  unfold readHead? at read
  dsimp only at read
  split at read
  · rename_i start
    obtain ⟨⟨test, behind⟩, first, read⟩ := Option.bind_eq_some_iff.mp (Option.some.inj read)
    obtain ⟨discreet, allowed⟩ := sober_readSingle frank (allowed.word start) first
    exact closed (.branch test) discreet allowed read
  split at read
  · rename_i start
    obtain ⟨⟨test, behind⟩, first, read⟩ := Option.bind_eq_some_iff.mp (Option.some.inj read)
    obtain ⟨discreet, allowed⟩ := sober_readSingle frank (allowed.word start) first
    exact closed (.loop test) discreet allowed read
  split at read
  · rename_i start
    obtain ⟨⟨target, behind⟩, first, read⟩ := Option.bind_eq_some_iff.mp (Option.some.inj read)
    obtain ⟨targeted, allowed⟩ := sober_readLoopTarget frank (allowed.word start) first
    obtain ⟨⟨_, behind⟩, word, read⟩ := Option.bind_eq_some_iff.mp read
    obtain ⟨⟨source, behind⟩, second, read⟩ := Option.bind_eq_some_iff.mp read
    obtain ⟨discreet, allowed⟩ := sober_readValue frank (allowed.expectedWord word) second
    exact closed (.each target source) (discreet_append targeted discreet) allowed read
  split at read
  · rename_i start
    obtain ⟨⟨name, behind⟩, first, read⟩ := Option.bind_eq_some_iff.mp (Option.some.inj read)
    obtain ⟨free, allowed⟩ := (allowed.word start).name first
    obtain ⟨⟨_, behind⟩, opened, read⟩ := Option.bind_eq_some_iff.mp read
    obtain ⟨⟨parameters, behind⟩, second, read⟩ := Option.bind_eq_some_iff.mp read
    obtain ⟨others, allowed⟩ := sober_readParameters (allowed.expectedMark opened (by decide)) second
    exact closed (.define name parameters) (discreet_cons free others) allowed read
  split at read
  · rename_i start
    exact closed .attempt discreet_nil (allowed.word start) (Option.some.inj read)
  · cases read

theorem sober_readHandlerHead :
    Sober reticence (fun found => mentionsIfAny found.1 ++ found.2.toList.map .name) readHandlerHead := by
  intro tokens found rest allowed read
  unfold readHandlerHead at read
  split at read
  · rename_i start
    cases read
    exact ⟨discreet_nil, allowed.mark start (by decide)⟩
  · obtain ⟨⟨kind, behind⟩, first, read⟩ := Option.bind_eq_some_iff.mp read
    obtain ⟨discreet, allowed⟩ := sober_readSingle frank allowed first
    dsimp only at read
    split at read
    · rename_i start
      obtain ⟨⟨binding, behind'⟩, second, read⟩ := Option.bind_eq_some_iff.mp read
      obtain ⟨⟨name, more⟩, named, same⟩ := Option.map_eq_some_iff.mp second
      cases same
      dsimp only at read
      obtain ⟨⟨_, more'⟩, closed, read⟩ := Option.bind_eq_some_iff.mp read
      cases read
      obtain ⟨free, allowed⟩ := (allowed.word start).name named
      exact ⟨discreet_append discreet (discreet_cons free discreet_nil), allowed.expectedMark closed (by decide)⟩
    · obtain ⟨⟨binding, behind'⟩, second, read⟩ := Option.bind_eq_some_iff.mp read
      cases second
      dsimp only at read
      obtain ⟨⟨_, more⟩, closed, read⟩ := Option.bind_eq_some_iff.mp read
      cases read
      exact ⟨discreet_append discreet discreet_nil, allowed.expectedMark closed (by decide)⟩

theorem sober_readSubject? {tokens : List Placed} {subject : Expr} (allowed : Allowed reticence tokens)
    (read : readSubject? tokens = some subject) : reticence.Discreet subject.mentions := by
  unfold readSubject? at read
  split at read
  · rename_i start
    obtain ⟨⟨value, behind⟩, first, read⟩ := Option.bind_eq_some_iff.mp read
    obtain ⟨discreet, -⟩ := sober_readValue frank (allowed.word start) first
    obtain ⟨⟨_, more⟩, closed, read⟩ := Option.bind_eq_some_iff.mp read
    dsimp only at read
    split at read
    · cases read
      exact discreet
    · cases read
  · cases read

theorem sober_readPattern : Sober reticence Pattern.mentions readPattern := by
  intro tokens found rest allowed read
  unfold readPattern at read
  split at read
  · rename_i start
    cases read
    exact ⟨discreet_nil, allowed.word start⟩
  · obtain ⟨⟨value, behind⟩, first, read⟩ := Option.bind_eq_some_iff.mp read
    obtain ⟨discreet, allowed⟩ := (readSober frank _).factor allowed first
    dsimp only at read
    split at read
    · cases read
      exact ⟨discreet_nil, allowed⟩
    · cases read
      exact ⟨discreet, allowed⟩
    · cases read
      exact ⟨discreet_nil, allowed⟩
    · cases read

end Statements

end Stencil.Script
