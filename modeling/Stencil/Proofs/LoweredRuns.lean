import Stencil.Proofs.StepNames

/-!
# Runs of lowered statements

The statements that the steps of a block tree are written as run like the steps do behind the veil of the routine.
They end in the same way; what they gather makes the same text as what the steps put out; and where an error leaves
them, it passed a generated line last that comes from the template line it leaves the steps at.
-/

namespace Stencil

open Effect Script

namespace Routine

/-! ## Runs that follow each other -/

/-- Whether a run of a routine's statements ends like a run of steps behind the veil.  An error that leaves the
routine passed a generated line last, and it passed the template line of that one in the run of the steps. -/
inductive Follows (veil : Veil) (file : Text) (origin : Nat → Option Int) {α β : Type} (ends : α → β → World → Prop) :
    Outcome α → Outcome β → Prop where
  | done {value : α} {value' : β} {after : World} (fine : ends value value' after) :
      Follows veil file origin ends (.done value after) (.done value' (veil.hide after))
  | failed {error line template : Nat} {after : World} (known : origin line = some (template : Int))
      (last : after.Passed error ⟨file, line⟩) (apart : error ≠ veil.list) (shut : veil.Sealed after) :
      Follows veil file origin ends (.failed error after)
        (.failed error ((veil.hide after).repass error ⟨file, template⟩))
  | exhausted : Follows veil file origin ends .exhausted .exhausted

variable {veil : Veil} {file : Text} {origin : Nat → Option Int} {escape : Bool} {bound : List Text}
  {items : List Value} {α β γ δ : Type} {world : World}

theorem Follows.bind {ends : α → β → World → Prop} {fine : γ → δ → World → Prop} {action : Effect α}
    {action' : Effect β} {next : α → Effect γ} {next' : β → Effect δ} {world' : World}
    (first : Follows veil file origin ends (action world) (action' world'))
    (second : ∀ value value' after, ends value value' after →
      Follows veil file origin fine (next value after) (next' value' (veil.hide after))) :
    Follows veil file origin fine ((action >>= next) world) ((action' >>= next') world') := by
  rw [bind_apply, bind_apply]
  generalize action world = outcome at first ⊢
  generalize action' world' = outcome' at first ⊢
  cases first with
  | done holds => exact second _ _ _ holds
  | failed known last apart shut => exact .failed known last apart shut
  | exhausted => exact .exhausted

/-- Whether both runs end with one good value, and the routine gathered nothing new. -/
def Agreeing (veil : Veil) (escape : Bool) (bound : List Text) (items : List Value) (good : α → Prop)
    (value value' : α) (after : World) : Prop :=
  value' = value ∧ good value ∧ Equipped veil escape bound items after

/-- Whether both runs end in the same way, and what the routine gathered makes the text of what was put out. -/
def Gathering (veil : Veil) (escape : Bool) (bound : List Text) (items : List Value) (flow : Flow) (yield : Yield)
    (after : World) : Prop :=
  yield.1 = flow ∧ ∃ more, outputOf? more = outputOf? yield.2 ∧ Equipped veil escape bound (items ++ more) after

/-- An action that is framed on a generated line follows the action on the template line. -/
theorem follows_of_framed {here : Activation} {good : α → Prop} {action action' : Effect α} {line template : Nat}
    (framed : veil.Framed good action action)
    (moved : Moved ⟨here.file, line⟩ ⟨here.file, template⟩ action action') (known : origin line = some (template : Int))
    (equipped : Equipped veil escape bound items world) :
    Follows veil here.file origin (Agreeing veil escape bound items good) (action world)
      (action' (veil.hide world)) := by
  have alike := framed world equipped.shut
  have relined := moved (veil.hide world)
  generalize action world = outcome at alike ⊢
  generalize action (veil.hide world) = middle at alike relined
  generalize action' (veil.hide world) = outcome' at relined ⊢
  cases alike with
  | done clear shut same =>
      cases relined with
      | done => exact .done ⟨rfl, clear, equipped.mono shut same⟩
  | failed apart shut same =>
      cases relined with
      | failed last =>
          refine .failed known (fun incident found => last incident ?_) apart shut
          rw [Veil.incident?_hide apart]
          exact found
  | exhausted =>
      cases relined with
      | exhausted => exact .exhausted

/-! ## What is put out -/

theorem outputOf?_append (values more : List Value) :
    outputOf? (values ++ more) = (outputOf? values).bind fun text => (outputOf? more).map (text ++ ·) := by
  induction values with
  | nil =>
      rw [List.nil_append, outputOf?, Option.bind_some]
      exact Option.map_id'.symm
  | cons value values ih =>
      cases value with
      | text identity trusted content =>
          rw [List.cons_append, outputOf?, outputOf?, ih, Option.map_bind, Option.bind_map]
          congr 1
          funext text
          simp only [Function.comp_apply, Option.map_map]
          congr 1
          funext behind
          exact (List.append_assoc content text behind).symm
      | _ => rfl

theorem outputOf?_texts (contents : List Text) : outputOf? (contents.map .plain) = some contents.flatten := by
  induction contents with
  | nil => rfl
  | cons content contents ih =>
      rw [List.map_cons, Value.plain, outputOf?, ih]
      rfl

theorem Gathering.behind {flow : Flow} {yield : Yield} {after : World} {before output : List Value}
    (same : outputOf? before = outputOf? output)
    (gathering : Gathering veil escape bound (items ++ before) flow yield after) :
    Gathering veil escape bound items flow (yield.behind output) after := by
  obtain ⟨ends, more, makes, equipped⟩ := gathering
  refine ⟨ends, before ++ more, ?_, ?_⟩
  · rw [outputOf?_append, same, makes, Yield.behind, outputOf?_append]
  · rw [← List.append_assoc]
    exact equipped

/-- A run behind what was gathered before. -/
theorem Follows.behind {outcome : Outcome Flow} {action : Effect Yield} {world' : World} {before output : List Value}
    (same : outputOf? before = outputOf? output)
    (follows : Follows veil file origin (Gathering veil escape bound (items ++ before)) outcome (action world')) :
    Follows veil file origin (Gathering veil escape bound items) outcome
      ((action >>= fun yield => pure (yield.behind output)) world') := by
  rw [bind_apply]
  generalize action world' = outcome' at follows ⊢
  cases follows with
  | done gathering => exact .done (gathering.behind same)
  | failed known last apart shut => exact .failed known last apart shut
  | exhausted => exact .exhausted

/-! ## Loops -/

/-- A step behind which nothing is left to run follows as the last one. -/
theorem gathering_nil (flow : Flow) {after : World} (equipped : Equipped veil escape bound items after) :
    Gathering veil escape bound items flow (flow, []) after := by
  refine ⟨rfl, [], rfl, ?_⟩
  rw [List.append_nil]
  exact equipped

/-- A loop follows the repetition of the steps of its body, when its test, its body and what is done otherwise do. -/
theorem follows_rounds {test test' : Effect Bool} {body otherwise : Effect Flow} {body' otherwise' : Effect Yield}
    (tests : ∀ items world, Equipped veil escape bound items world →
      Follows veil file origin (Agreeing veil escape bound items fun _ => True) (test world) (test' (veil.hide world)))
    (bodies : ∀ items world, Equipped veil escape bound items world →
      Follows veil file origin (Gathering veil escape bound items) (body world) (body' (veil.hide world)))
    (others : ∀ items world, Equipped veil escape bound items world →
      Follows veil file origin (Gathering veil escape bound items) (otherwise world) (otherwise' (veil.hide world)))
    (count : Nat) {items : List Value} {world : World} (equipped : Equipped veil escape bound items world) :
    Follows veil file origin (Gathering veil escape bound items) (rounds test body otherwise count world)
      (repeated test' body' otherwise' count (veil.hide world)) := by
  induction count generalizing items world with
  | zero => exact .exhausted
  | succ count ih =>
      rw [rounds, repeated]
      refine (tests items world equipped).bind ?_
      rintro _ passed between ⟨rfl, -, equipped⟩
      cases passed with
      | false => exact others items between equipped
      | true =>
          refine (bodies items between equipped).bind ?_
          rintro _ ⟨flow, output⟩ after ⟨rfl, more, same, equipped⟩
          cases flow with
          | leave => exact .done ⟨rfl, more, same, equipped⟩
          | finish value => exact .done ⟨rfl, more, same, equipped⟩
          | proceed => exact (ih equipped).behind same
          | again => exact (ih equipped).behind same

/-! ## Statements and steps one after the other -/

/-- What comes behind a statement, unless the statement ended otherwise. -/
def onward (rest : Effect Flow) : Flow → Effect Flow
  | .proceed => rest
  | flow => pure flow

/-- What comes behind a step, unless the step ended otherwise. -/
def outward (rest : Effect Yield) : Yield → Effect Yield
  | (.proceed, output) => rest >>= fun yield => pure (yield.behind output)
  | yield => pure yield

section Statements

variable {here : Activation} {call : Caller} {rounds : Nat}

theorem runBlock_cons (statement : Stmt) (statements : List Stmt) (world : World) :
    runBlock call rounds here (statement :: statements) world =
      (run call rounds here statement >>= onward (runBlock call rounds here statements)) world := by
  rw [runBlock]
  rfl

theorem runSteps_cons (converter : Builtin) (step : Step) (steps : List Step) (world : World) :
    runSteps call rounds here converter (step :: steps) world =
      (step.run call rounds here converter >>= outward (runSteps call rounds here converter steps)) world := by
  rw [runSteps]
  rfl

theorem runBlock_append (statements more : List Stmt) (world : World) :
    runBlock call rounds here (statements ++ more) world =
      (runBlock call rounds here statements >>= onward (runBlock call rounds here more)) world := by
  induction statements generalizing world with
  | nil => rfl
  | cons statement statements ih =>
      rw [List.cons_append, runBlock_cons, bind_congr (runBlock_cons statement statements world), bind_bind, bind_apply,
        bind_apply]
      cases run call rounds here statement world with
      | done flow after =>
          cases flow with
          | proceed => exact ih after
          | _ => rfl
      | _ => rfl

theorem runSteps_texts (converter : Builtin) (contents : List Text) (steps : List Step) (world : World) :
    runSteps call rounds here converter (contents.map .text ++ steps) world =
      (runSteps call rounds here converter steps >>= fun yield =>
        pure (yield.behind (contents.map .plain))) world := by
  induction contents generalizing world with
  | nil =>
      rw [List.map_nil, List.nil_append, bind_apply]
      cases runSteps call rounds here converter steps world <;> rfl
  | cons content contents ih =>
      rw [List.map_cons, List.cons_append, runSteps_cons, Step.run]
      show (runSteps call rounds here converter (contents.map .text ++ steps) >>= fun yield =>
        pure (yield.behind [.plain content])) world = _
      rw [bind_congr (ih world), bind_bind]
      rfl

/-- What comes behind a step follows what comes behind the statements for the step. -/
theorem follows_next {first rest : Effect Flow} {step more : Effect Yield} {world' : World}
    (head : Follows veil file origin (Gathering veil escape bound items) (first world) (step world'))
    (tail : ∀ items world, Equipped veil escape bound items world →
      Follows veil file origin (Gathering veil escape bound items) (rest world) (more (veil.hide world))) :
    Follows veil file origin (Gathering veil escape bound items) ((first >>= onward rest) world)
      ((step >>= outward more) world') := by
  refine head.bind ?_
  rintro _ ⟨flow, output⟩ after ⟨rfl, before, same, equipped⟩
  cases flow with
  | proceed => exact (tail _ _ equipped).behind same
  | leave => exact .done ⟨rfl, before, same, equipped⟩
  | again => exact .done ⟨rfl, before, same, equipped⟩
  | finish value => exact .done ⟨rfl, before, same, equipped⟩

end Statements

/-! ## Statements for steps -/

section Lowered

variable {here : Activation} (own : here.scope = veil.scope) (rounds depth : Nat) {line template : Nat}
  (known : origin line = some (template : Int)) (equipped : Equipped veil escape bound items world)
include own equipped

/-- Appending a value gathers it. -/
theorem follows_appending (line : Nat) {argument : Expr} {action : Effect Value} {world' : World}
    (found : Follows veil file origin (Agreeing veil escape bound items veil.Clear)
      (evaluate (callWithin rounds (depth + 1)) here argument world) (action world')) :
    Follows veil file origin (Gathering veil escape bound items)
      (run (callWithin rounds (depth + 1)) rounds here (appending line argument) world)
      ((action >>= fun value => pure (.proceed, [value])) world') := by
  obtain ⟨identity, appended⟩ := run_appending _ own equipped.toHolding rounds line argument
  rw [appended]
  refine found.bind ?_
  rintro _ value after ⟨rfl, clear, equipped⟩
  have called := call_append rounds depth equipped.toHolding identity value
  rw [bind_done (located_done called)]
  rw [← hide_gather value after]
  exact .done ⟨rfl, [value], rfl, equipped_gather equipped clear⟩

include known

omit own in
/-- An expression on a generated line follows the expression on the template line. -/
theorem follows_evaluate {code : Expr} (foreign : ∀ name ∈ code.names, isOwnName name = false) :
    Follows veil here.file origin (Agreeing veil escape bound items veil.Clear)
      (evaluate (callWithin rounds (depth + 1)) here (code.at line) world)
      (evaluate (callWithin rounds (depth + 1)) here (code.at template) (veil.hide world)) := by
  have free : veil.Avoids here (code.at line).names := by
    rw [names_at]
    exact fun _ => foreign
  have framed := Veil.framed_evaluate (Veil.framed_callWithin veil rounds (depth + 1)) _ free
  exact follows_of_framed framed (moved_evaluate line template code) known equipped

omit own in
/-- Whether an expression on a generated line holds follows whether it holds on the template line. -/
theorem follows_test {code : Expr} (foreign : ∀ name ∈ code.names, isOwnName name = false) :
    Follows veil here.file origin (Agreeing veil escape bound items fun _ => True)
      ((evaluate (callWithin rounds (depth + 1)) here (code.at line) >>= holds) world)
      ((evaluate (callWithin rounds (depth + 1)) here (code.at template) >>= holds) (veil.hide world)) := by
  have free : veil.Avoids here (code.at line).names := by
    rw [names_at]
    exact fun _ => foreign
  have framed := Veil.framed_evaluate (Veil.framed_callWithin veil rounds (depth + 1)) _ free
  exact follows_of_framed (framed.bind fun _ clear => Veil.framed_holds clear)
    ((moved_evaluate line template code).bind moved_holds) known equipped

omit own in
/-- The next round of a loop on a generated line follows the one on the template line. -/
theorem follows_nextRound {target : Target} (foreign : ∀ name ∈ target.names, isOwnName name = false) {iterator : Nat}
    (apart : iterator ≠ veil.list) :
    Follows veil here.file origin (Agreeing veil escape bound items fun _ => True)
      (nextRound (callWithin rounds (depth + 1)) here line (target.at line) iterator world)
      (nextRound (callWithin rounds (depth + 1)) here template (target.at template) iterator (veil.hide world)) := by
  have free : veil.Avoids here (target.at line).names := by
    rw [targetNames_at]
    exact fun _ => foreign
  have framed := Veil.framed_nextRound (Veil.framed_callWithin veil rounds (depth + 1)) line free apart
  exact follows_of_framed framed (moved_nextRound line template target iterator) known equipped

/-- Converting the value of a fragment and gathering the text follows putting it out. -/
theorem follows_value {first : Nat} (one : origin first = some (template : Int)) {code : Expr}
    {steps : List Step} {statements : List Stmt}
    (foreign : ∀ name ∈ code.names, isOwnName name = false) (belongs : bound.contains valueName)
    (rest : ∀ items world, Equipped veil escape bound items world →
      Follows veil here.file origin (Gathering veil escape bound items)
        (runBlock (callWithin rounds (depth + 1)) rounds here statements world)
        (runSteps (callWithin rounds (depth + 1)) rounds here (conversion escape) steps (veil.hide world))) :
    Follows veil here.file origin (Gathering veil escape bound items)
      (runBlock (callWithin rounds (depth + 1)) rounds here (.assign first [.name valueName] (code.at first) ::
          appending line (.call line (.name line (Writing.converter escape)) [.name line valueName]) ::
          statements) world)
      (runSteps (callWithin rounds (depth + 1)) rounds here (conversion escape)
        (.value template (code.at template) :: steps) (veil.hide world)) := by
  rw [runBlock_cons, runSteps_cons, run, Step.run, bind_bind, bind_bind]
  refine (follows_evaluate rounds depth one equipped foreign).bind ?_
  rintro _ value after ⟨rfl, clear, equipped⟩
  have kept := equipped_keep equipped value
  have assigned : (assignEach (callWithin rounds (depth + 1)) here first value [.name valueName] >>= fun _ =>
      pure Flow.proceed) after = .done .proceed (keep veil value after) := by
    rw [keep, ← own]
    rfl
  rw [bind_done assigned, onward, runBlock_cons, ← hide_keep value after]
  refine follows_next (follows_appending own rounds depth kept line ?_) rest
  rw [evaluate_converting own equipped.toHolding belongs line value]
  have framed := Veil.framed_callWithin veil rounds (depth + 1) (.builtin (conversion escape)) [value] trivial
    (List.forall_mem_singleton.mpr clear)
  exact follows_of_framed (Veil.framed_located line framed) (moved_located line template _) known kept

omit own in
/-- A plain statement on a generated line follows the statement on the template line. -/
theorem follows_perform {statement : Stmt} (plain : statement.isPlain)
    (foreign : ∀ name ∈ statement.names, isOwnName name = false) (converter : Builtin) :
    Follows veil here.file origin (Gathering veil escape bound items)
      (run (callWithin rounds (depth + 1)) rounds here (statement.at line) world)
      ((Step.perform (statement.at template)).run (callWithin rounds (depth + 1)) rounds here converter
        (veil.hide world)) := by
  have free : veil.Avoids here (statement.at line).names := by
    rw [stmtNames_at _ plain]
    exact fun _ => foreign
  have framed := Veil.framed_run (Veil.framed_callWithin veil rounds (depth + 1)) rounds (statement.at line)
    (fun _ => (isPlain_at line statement).trans plain) free
  have follows := follows_of_framed framed (moved_run line template rounds plain) known equipped
  rw [Step.run, ← bind_value (run (callWithin rounds (depth + 1)) rounds here (statement.at line))]
  refine follows.bind ?_
  rintro _ flow after ⟨rfl, -, equipped⟩
  exact .done (gathering_nil flow equipped)

end Lowered

section Simulation

variable {here : Activation} (own : here.scope = veil.scope) (rounds depth : Nat)
include own

/-- The statements that steps are written as run like the steps do behind the veil. -/
theorem Lowers.follows {steps : List Step} {statements : List Stmt} (lowers : Lowers origin escape steps statements)
    (foreign : ∀ name ∈ namesInSteps steps, isOwnName name = false)
    (belongs : ∀ name ∈ boundByBlock statements, bound.contains name) :
    ∀ items world, Equipped veil escape bound items world →
      Follows veil here.file origin (Gathering veil escape bound items)
        (runBlock (callWithin rounds (depth + 1)) rounds here statements world)
        (runSteps (callWithin rounds (depth + 1)) rounds here (conversion escape) steps (veil.hide world)) := by
  induction lowers with
  | nil => exact fun items world equipped => .done (gathering_nil .proceed equipped)
  | @blank steps statements rest ih =>
      intro items world equipped
      have follows := ih foreign belongs items world equipped
      rw [← List.append_nil items] at follows
      exact follows.behind (rfl : outputOf? [] = outputOf? [.plain []])
  | idle rest ih =>
      intro items world equipped
      rw [runBlock_cons]
      exact ih foreign belongs items world equipped
  | texts line contents rest ih =>
      intro items world equipped
      rw [namesInSteps_texts] at foreign
      have gathered : Equipped veil escape bound (items ++ [.plain contents.flatten])
          (gather veil (.plain contents.flatten) world) := equipped_gather equipped trivial
      have follows := ih foreign belongs _ _ gathered
      rw [runBlock_cons, bind_done (run_appending_text own equipped.toHolding rounds depth rounds line _), onward,
        runSteps_texts, ← hide_gather (.plain contents.flatten) world]
      refine follows.behind ?_
      rw [outputOf?_texts]
      exact congrArg some (List.append_nil _)
  | value code one other rest ih =>
      intro items world equipped
      obtain ⟨free, others⟩ := List.forall_mem_append.mp foreign
      obtain ⟨named, belong⟩ := List.forall_mem_cons.mp belongs
      rw [Step.names, names_at] at free
      exact follows_value own rounds depth other equipped one free named (ih others belong)
  | perform statement plain known rest ih =>
      intro items world equipped
      obtain ⟨free, others⟩ := List.forall_mem_append.mp foreign
      obtain ⟨-, belong⟩ := List.forall_mem_append.mp belongs
      rw [Step.names, stmtNames_at _ plain] at free
      rw [runBlock_cons, runSteps_cons]
      exact follows_next (follows_perform rounds depth known equipped plain free _) (ih others belong)
  | branch test known inside other rest ihBody ihOther ih =>
      intro items world equipped
      obtain ⟨freeTest, freeBody, freeOther, others⟩ := foreign_parts foreign
      obtain ⟨belong, belongRest⟩ := List.forall_mem_append.mp belongs
      obtain ⟨belongBody, belongOther⟩ := List.forall_mem_append.mp belong
      rw [names_at] at freeTest
      rw [runBlock_cons, runSteps_cons, run, Step.run]
      refine follows_next ?_ (ih others belongRest)
      refine (follows_evaluate rounds depth known equipped freeTest).bind ?_
      rintro _ value between ⟨rfl, clear, equipped⟩
      refine (follows_of_framed (Veil.framed_holds clear) (moved_holds value) known equipped).bind ?_
      rintro _ passed after ⟨rfl, -, equipped⟩
      cases passed with
      | true => exact ihBody freeBody belongBody items after equipped
      | false => exact ihOther freeOther belongOther items after equipped
  | loop test known inside other rest ihBody ihOther ih =>
      intro items world equipped
      obtain ⟨freeTest, freeBody, freeOther, others⟩ := foreign_parts foreign
      obtain ⟨belong, belongRest⟩ := List.forall_mem_append.mp belongs
      obtain ⟨belongBody, belongOther⟩ := List.forall_mem_append.mp belong
      rw [names_at] at freeTest
      rw [runBlock_cons, runSteps_cons, run, Step.run]
      refine follows_next ?_ (ih others belongRest)
      exact follows_rounds (fun _ _ equipped => follows_test rounds depth known equipped freeTest)
        (ihBody freeBody belongBody) (ihOther freeOther belongOther) rounds equipped
  | each target source known inside other rest ihBody ihOther ih =>
      intro items world equipped
      obtain ⟨freeTarget, freeSource, free, others⟩ := foreign_parts foreign
      obtain ⟨freeBody, freeOther⟩ := List.forall_mem_append.mp free
      obtain ⟨belong, belongRest⟩ := List.forall_mem_append.mp belongs
      obtain ⟨belong, belongOther⟩ := List.forall_mem_append.mp belong
      obtain ⟨-, belongBody⟩ := List.forall_mem_append.mp belong
      rw [names_at] at freeSource
      rw [targetNames_at] at freeTarget
      rw [runBlock_cons, runSteps_cons, run, Step.run]
      refine follows_next ?_ (ih others belongRest)
      refine (follows_evaluate rounds depth known equipped freeSource).bind ?_
      rintro _ value between ⟨rfl, clear, equipped⟩
      refine (follows_of_framed (Veil.framed_located _ (Veil.framed_iterate clear)) (moved_located _ _ _) known
        equipped).bind ?_
      rintro _ iterator after ⟨rfl, apart, equipped⟩
      exact follows_rounds (fun _ _ equipped => follows_nextRound rounds depth known equipped freeTarget apart)
        (ihBody freeBody belongBody) (ihOther freeOther belongOther) rounds equipped

end Simulation

/-! ## How well placed statements end -/

/-- Whether statements ended without giving anything back, and without leaving a loop that is not around them. -/
def Stays (inLoop : Bool) (flow : Flow) : Prop := flow = .proceed ∨ inLoop = true ∧ (flow = .leave ∨ flow = .again)

section Placed

variable {here : Activation} {call : Caller} {count : Nat} {inLoop : Bool}

theorem stays_rounds {test : Effect Bool} {body otherwise : Effect Flow}
    (bodies : ∀ world flow after, body world = .done flow after → Stays true flow)
    (others : ∀ world flow after, otherwise world = .done flow after → Stays inLoop flow)
    (count : Nat) {world after : World} {flow : Flow}
    (ran : rounds test body otherwise count world = .done flow after) : Stays inLoop flow := by
  induction count generalizing world with
  | zero => cases ran
  | succ count ih =>
      rw [rounds] at ran
      obtain ⟨passed, between, -, ran⟩ := of_bind_done ran
      cases passed with
      | false => exact others _ _ _ ran
      | true =>
          obtain ⟨ended, behind, first, ran⟩ := of_bind_done ran
          rcases bodies _ _ _ first with rfl | ⟨-, rfl | rfl⟩
          · exact ih ran
          · cases ran
            exact .inl rfl
          · exact ih ran

theorem stays_next {first rest : Effect Flow}
    (head : ∀ world flow after, first world = .done flow after → Stays inLoop flow)
    (tail : ∀ world flow after, rest world = .done flow after → Stays inLoop flow) :
    ∀ world flow after, (first >>= onward rest) world = .done flow after → Stays inLoop flow := by
  intro world flow after ran
  obtain ⟨ended, between, first, ran⟩ := of_bind_done ran
  rcases head _ _ _ first with rfl | ⟨inside, rfl | rfl⟩
  · exact tail _ _ _ ran
  · cases ran
    exact .inr ⟨inside, .inl rfl⟩
  · cases ran
    exact .inr ⟨inside, .inr rfl⟩

/-- A plain statement stays, unless it leaves a loop around it. -/
theorem stays_plain {around : Surroundings} {statement : Stmt} {line : Nat} (plain : statement.isPlain)
    (placed : (statement.at line).misplaced? around = none) {world after : World} {flow : Flow}
    (ran : run call count here (statement.at line) world = .done flow after) : Stays around.inLoop flow := by
  have inside {refusal : Refusal}
      (free : (around.leaving.or (if around.inLoop then none else some refusal)) = none) : around.inLoop = true := by
    by_contra outside
    rw [if_neg outside, Option.or_eq_none_iff] at free
    cases free.2
  cases statement with
  | evaluate _ value =>
      rw [Stmt.at, run] at ran
      obtain ⟨_, _, -, ran⟩ := of_bind_done ran
      cases ran
      exact .inl rfl
  | assign _ targets value =>
      rw [Stmt.at, run] at ran
      obtain ⟨_, _, -, ran⟩ := of_bind_done ran
      obtain ⟨_, _, -, ran⟩ := of_bind_done ran
      cases ran
      exact .inl rfl
  | update _ target operation value =>
      rw [Stmt.at, run] at ran
      obtain ⟨_, _, -, ran⟩ := of_bind_done ran
      cases ran
      exact .inl rfl
  | nothing =>
      cases ran
      exact .inl rfl
  | leaveLoop _ =>
      cases ran
      exact .inr ⟨inside placed, .inl rfl⟩
  | nextRound _ =>
      cases ran
      exact .inr ⟨inside placed, .inr rfl⟩
  | _ => cases plain

/-- Statements for steps that are well placed outside of loops run to their end, when they end. -/
theorem Lowers.stays {steps : List Step} {statements : List Stmt} (lowers : Lowers origin escape steps statements)
    {around : Surroundings} (placed : misplacedInBlock? around statements = none) :
    ∀ world flow after, runBlock call count here statements world = .done flow after → Stays around.inLoop flow := by
  have appends (line : Nat) (argument : Expr) {inLoop : Bool} : ∀ world flow after,
      run call count here (appending line argument) world = .done flow after → Stays inLoop flow := by
    intro world flow after ran
    obtain ⟨_, _, -, ran⟩ := of_bind_done ran
    cases ran
    exact .inl rfl
  induction lowers generalizing around with
  | nil =>
      intro world flow after ran
      cases ran
      exact .inl rfl
  | blank rest ih => exact ih placed
  | idle rest ih =>
      intro world flow after ran
      rw [runBlock_cons] at ran
      exact ih placed world flow after ran
  | texts line contents rest ih =>
      intro world flow after ran
      rw [runBlock_cons] at ran
      exact stays_next (appends line _) (ih placed) world flow after ran
  | value code one other rest ih =>
      obtain ⟨-, placed⟩ := Option.or_eq_none_iff.mp placed
      intro world flow after ran
      rw [runBlock_cons] at ran
      refine stays_next (fun world flow after ran => ?_) (fun world flow after ran => ?_) world flow after ran
      · rw [run] at ran
        obtain ⟨_, _, -, ran⟩ := of_bind_done ran
        obtain ⟨_, _, -, ran⟩ := of_bind_done ran
        cases ran
        exact .inl rfl
      · rw [runBlock_cons] at ran
        exact stays_next (appends _ _) (ih placed) world flow after ran
  | perform statement plain known rest ih =>
      obtain ⟨first, placed⟩ := Option.or_eq_none_iff.mp placed
      intro world flow after ran
      rw [runBlock_cons] at ran
      exact stays_next (fun _ _ _ => stays_plain plain first) (ih placed) world flow after ran
  | branch test known inside other rest ihBody ihOther ih =>
      obtain ⟨first, placed⟩ := Option.or_eq_none_iff.mp placed
      obtain ⟨body, otherwise⟩ := Option.or_eq_none_iff.mp first
      intro world flow after ran
      rw [runBlock_cons] at ran
      refine stays_next (fun world flow after ran => ?_) (ih placed) world flow after ran
      rw [run] at ran
      obtain ⟨_, _, -, ran⟩ := of_bind_done ran
      obtain ⟨passed, _, -, ran⟩ := of_bind_done ran
      cases passed with
      | true => exact ihBody body _ _ _ ran
      | false => exact ihOther otherwise _ _ _ ran
  | loop test known inside other rest ihBody ihOther ih =>
      obtain ⟨first, placed⟩ := Option.or_eq_none_iff.mp placed
      obtain ⟨-, first⟩ := Option.or_eq_none_iff.mp first
      obtain ⟨body, otherwise⟩ := Option.or_eq_none_iff.mp first
      intro world flow after ran
      rw [runBlock_cons] at ran
      refine stays_next (fun world flow after ran => ?_) (ih placed) world flow after ran
      rw [run] at ran
      exact stays_rounds (ihBody body) (ihOther otherwise) count ran
  | each target source known inside other rest ihBody ihOther ih =>
      obtain ⟨first, placed⟩ := Option.or_eq_none_iff.mp placed
      obtain ⟨-, first⟩ := Option.or_eq_none_iff.mp first
      obtain ⟨-, first⟩ := Option.or_eq_none_iff.mp first
      obtain ⟨body, otherwise⟩ := Option.or_eq_none_iff.mp first
      intro world flow after ran
      rw [runBlock_cons] at ran
      refine stays_next (fun world flow after ran => ?_) (ih placed) world flow after ran
      rw [run] at ran
      obtain ⟨_, _, -, ran⟩ := of_bind_done ran
      obtain ⟨_, _, -, ran⟩ := of_bind_done ran
      exact stays_rounds (ihBody body) (ihOther otherwise) count ran

end Placed

end Routine
end Stencil
