import Stencil.Proofs.Gatherings

/-!
# Scripts in two worlds that are alike

Evaluating an expression and running a statement do the same in worlds that are alike, as long as no name is mentioned
that is hidden and no attribute that is to be left alone.  Running recodings of one script does the same, but for what
they put out, which says the same.
-/

namespace Stencil

open Effect Script Manners

namespace Terms

variable {terms : Terms} {inside : Bool} {bond : Bond} {value value' : Value} {call call' : Caller}
  {here here' : Activation}

/-! ## Dictionaries and patterns -/

theorem twin_holds (same : terms.Same bond value value') : terms.Twin bond Equal (holds value) (holds value') := by
  refine twin_read fun later grown world world' matched => ?_
  rw [truth_same matched (same.mono grown)]
  exact twin_equal _

theorem twin_putEntries {found found' entries entries' : List (Value × Value)} (first : terms.SamePairs bond found found')
    (rest : terms.SamePairs bond entries entries') :
    terms.Twin bond terms.SamePairs (putEntries found entries) (putEntries found' entries') := by
  induction entries generalizing bond entries' found found' with
  | nil =>
      cases rest
      exact twin_pure fun _ grown => SamePairs.mono grown first
  | cons entry entries ih =>
      obtain ⟨entry', entries', both, each, rfl⟩ := List.forall₂_cons_left_iff.mp rest
      refine twin_read fun later grown world world' matched => ?_
      have put := putKey?_same matched (both.1.mono grown) (both.2.mono grown) (SamePairs.mono grown first)
      refine (twin_decidedAlike terms.SamePairs (fun _ _ _ _ more each => SamePairs.mono more each) put).bind
        fun later' more found found' found_same => ?_
      exact ih found_same (SamePairs.mono (grown.trans more) each)

theorem twin_newDict {entries entries' : List (Value × Value)} (each : terms.SamePairs bond entries entries') :
    terms.Twin bond terms.Same (newDict entries) (newDict entries') := by
  refine (twin_forIn each fun later grown entry entry' both => ?_).bind fun later grown _ _ _ => ?_
  · exact (twin_checkKey (both.1.mono grown)).bind fun _ _ _ _ _ => twin_equal _
  · refine (twin_putEntries .nil (SamePairs.mono grown each)).bind fun _ _ found found' pairs => ?_
    exact (twin_allocate (.dict pairs)).bind fun _ _ _ _ pair => twin_value (.object pair)

theorem ofConstant_same (constant : Constant) : terms.Same bond (.ofConstant constant) (.ofConstant constant) := by
  cases constant with
  | none => exact .none
  | bool flag => exact .bool flag
  | int number => exact .number number
  | text content => exact .plain content

theorem twin_fits (same : terms.Same bond value value') (pattern : Pattern) :
    terms.Twin bond Equal (fits value pattern) (fits value' pattern) := by
  cases pattern with
  | anything => exact twin_equal true
  | capture name => exact twin_equal true
  | constant constant =>
      have alike := identical_same same (ofConstant_same constant)
      have identical : terms.Twin bond Equal (pure (value.identical (.ofConstant constant)))
          (pure (value'.identical (.ofConstant constant))) :=
        alike ▸ twin_equal _
      have compared := twin_areEqual same (ofConstant_same constant)
      unfold fits
      cases constant with
      | none => exact identical
      | bool flag => exact identical
      | int number => exact compared
      | text content => exact compared

/-! ## Evaluating expressions -/

mutual

theorem constant?_same : ∀ (expr : Expr) {value : Value}, expr.constant? = some value → terms.Same bond value value
  | .constant constant, _, same => by
    cases same
    exact ofConstant_same constant
  | .tuple items, _, same => by
    obtain ⟨values, found, rfl⟩ := Option.map_eq_some_iff.mp same
    exact .tuples bond.shared (constants?_same items found)
  | .name _ _, _, same | .list _, _, same | .dict _ _, _, same | .attribute _ _ _, _, same | .item _ _ _, _, same
  | .call _ _ _, _, same | .negate _ _, _, same | .binary _ _ _ _, _, same | .compare _ _ _ _, _, same
  | .negation _, _, same | .both _ _, _, same | .either _ _, _, same | .choice _ _ _, _, same => by cases same

theorem constants?_same : ∀ (exprs : List Expr) {values : List Value}, constants? exprs = some values →
    terms.Sames bond values values
  | [], _, same => by
    cases same
    exact .nil
  | expr :: exprs, _, same => by
    obtain ⟨value, found, same⟩ := Option.bind_eq_some_iff.mp same
    obtain ⟨values, found', same⟩ := Option.bind_eq_some_iff.mp same
    cases same
    exact .cons (constant?_same expr found) (constants?_same exprs found')

end

mutual

theorem twin_evaluate : ∀ (expr : Expr) {bond : Bond}, terms.TwinCalls bond call call' → SameActivation inside bond here here' →
    (terms.reticence inside).Discreet expr.mentions → terms.Twin bond terms.Same (evaluate call here expr) (evaluate call' here' expr)
  | .constant constant, _, _, _, _ => twin_value (ofConstant_same constant)
  | .name line name, _, _, alike, discreet => by
    rw [evaluate, evaluate]
    split
    · exact twin_value (.bool true)
    · exact twin_located alike.file line (twin_nameIn alike discreet.name)
  | .tuple items, _, calls, alike, discreet => by
    rw [evaluate, evaluate]
    split
    · rename_i values found
      exact twin_value (.tuples (Bond.shared _) (constants?_same items found))
    · exact (twin_evaluateAll items calls alike discreet).bind fun _ _ _ _ each => twin_newTuple each
  | .list items, _, calls, alike, discreet => by
    rw [evaluate, evaluate]
    exact (twin_evaluateAll items calls alike discreet).bind fun _ _ _ _ each => twin_newList each
  | .dict line entries, _, calls, alike, discreet => by
    rw [evaluate, evaluate]
    exact (twin_evaluateEntries entries calls alike discreet).bind fun _ _ _ _ each =>
      twin_located alike.file line (twin_newDict each)
  | .attribute line object name, _, calls, alike, discreet => by
    rw [evaluate, evaluate]
    exact (twin_evaluate object calls alike discreet.tail).bind fun _ _ _ _ same =>
      twin_located alike.file line (twin_attributeAt same discreet.attribute)
  | .item line object index, _, calls, alike, discreet => by
    rw [evaluate, evaluate]
    exact (twin_evaluate object calls alike discreet.left).bind fun _ grown _ _ same =>
      (twin_evaluate index (calls.mono grown) (alike.mono grown) discreet.right).bind fun _ more _ _ same' =>
        twin_located alike.file line (twin_itemAt (same.mono more) same')
  | .call line function arguments, _, calls, alike, discreet => by
    rw [evaluate, evaluate]
    exact (twin_evaluate function calls alike discreet.left).bind fun _ grown _ _ same =>
      (twin_evaluateAll arguments (calls.mono grown) (alike.mono grown) discreet.right).bind fun _ more _ _ each =>
        twin_located alike.file line (calls _ (grown.trans more) (same.mono more) each)
  | .negate line operand, _, calls, alike, discreet => by
    rw [evaluate, evaluate]
    exact (twin_evaluate operand calls alike discreet).bind fun _ _ _ _ same =>
      twin_located alike.file line (twin_negative same)
  | .binary line operation left right, _, calls, alike, discreet => by
    rw [evaluate, evaluate]
    exact (twin_evaluate left calls alike discreet.left).bind fun _ grown _ _ same =>
      (twin_evaluate right (calls.mono grown) (alike.mono grown) discreet.right).bind fun _ more _ _ same' =>
        twin_located alike.file line (twin_binary (calls.mono (grown.trans more)) operation (same.mono more) same')
  | .compare line comparison left right, _, calls, alike, discreet => by
    rw [evaluate, evaluate]
    exact (twin_evaluate left calls alike discreet.left).bind fun _ grown _ _ same =>
      (twin_evaluate right (calls.mono grown) (alike.mono grown) discreet.right).bind fun _ more _ _ same' =>
        (twin_located alike.file line
          (twin_compared (calls.mono (grown.trans more)) comparison (same.mono more) same')).bind
            fun _ _ _ _ equal => equal ▸ twin_value (.bool _)
  | .negation operand, _, calls, alike, discreet => by
    rw [evaluate, evaluate]
    exact (twin_evaluate operand calls alike discreet).bind fun _ _ _ _ same =>
      (twin_holds same).bind fun _ _ _ _ equal => equal ▸ twin_value (.bool _)
  | .both left right, _, calls, alike, discreet => by
    rw [evaluate, evaluate]
    refine (twin_evaluate left calls alike discreet.left).bind fun _ grown _ _ same =>
      (twin_holds same).bind fun _ more flag _ equal => ?_
    subst equal
    have further := grown.trans more
    split
    · exact twin_evaluate right (calls.mono further) (alike.mono further) discreet.right
    · exact twin_value (same.mono more)
  | .either left right, _, calls, alike, discreet => by
    rw [evaluate, evaluate]
    refine (twin_evaluate left calls alike discreet.left).bind fun _ grown _ _ same =>
      (twin_holds same).bind fun _ more flag _ equal => ?_
    subst equal
    have further := grown.trans more
    split
    · exact twin_value (same.mono more)
    · exact twin_evaluate right (calls.mono further) (alike.mono further) discreet.right
  | .choice test yes no, _, calls, alike, discreet => by
    rw [evaluate, evaluate]
    refine (twin_evaluate test calls alike discreet.left).bind fun _ grown _ _ same =>
      (twin_holds same).bind fun _ more flag _ equal => ?_
    subst equal
    have further := grown.trans more
    split
    · exact twin_evaluate yes (calls.mono further) (alike.mono further) discreet.right.left
    · exact twin_evaluate no (calls.mono further) (alike.mono further) discreet.right.right

theorem twin_evaluateAll : ∀ (exprs : List Expr) {bond : Bond}, terms.TwinCalls bond call call' →
    SameActivation inside bond here here' → (terms.reticence inside).Discreet (mentionsAmong exprs) →
      terms.Twin bond terms.Sames (evaluateAll call here exprs) (evaluateAll call' here' exprs)
  | [], _, _, _, _ => twin_values .nil
  | expr :: exprs, _, calls, alike, discreet => by
    rw [evaluateAll, evaluateAll]
    exact (twin_evaluate expr calls alike discreet.left).bind fun _ grown _ _ same =>
      (twin_evaluateAll exprs (calls.mono grown) (alike.mono grown) discreet.right).bind fun _ more _ _ each =>
        twin_values (.cons (same.mono more) each)

theorem twin_evaluateEntries : ∀ (entries : List (Expr × Expr)) {bond : Bond}, terms.TwinCalls bond call call' →
    SameActivation inside bond here here' → (terms.reticence inside).Discreet (mentionsOfEntries entries) →
      terms.Twin bond terms.SamePairs (evaluateEntries call here entries) (evaluateEntries call' here' entries)
  | [], _, _, _, _ => twin_pure fun _ _ => .nil
  | (key, content) :: entries, _, calls, alike, discreet => by
    rw [evaluateEntries, evaluateEntries]
    refine (twin_evaluate key calls alike discreet.left).bind fun _ grown _ _ first =>
      (twin_evaluate content (calls.mono grown) (alike.mono grown) discreet.right.left).bind fun _ more _ _ second => ?_
    have further := grown.trans more
    exact (twin_evaluateEntries entries (calls.mono further) (alike.mono further) discreet.right.right).bind
      fun _ yet _ _ each => twin_pure fun _ last =>
        .cons ⟨(first.mono (more.trans yet)).mono last, (second.mono yet).mono last⟩ (SamePairs.mono last each)

end

/-! ## Assigning -/

mutual

theorem twin_assign (line : Nat) : ∀ (target : Target) {bond : Bond} {value value' : Value},
    terms.TwinCalls bond call call' → SameActivation inside bond here here' → (terms.reticence inside).Discreet target.mentions →
      terms.Same bond value value' →
        terms.Twin bond Whatever (assign call here line target value) (assign call' here' line target value')
  | .name name, _, _, _, _, alike, discreet, same => by
    rw [assign, assign]
    exact twin_bindName alike discreet.name same
  | .tuple items, _, _, _, calls, alike, discreet, same => by
    rw [assign, assign]
    exact (twin_located alike.file line (twin_unpack calls items.length same)).bind fun _ grown _ _ each =>
      twin_assignAll line items (calls.mono grown) (alike.mono grown) discreet each
  | .attribute line' object name, _, _, _, calls, alike, discreet, same => by
    rw [assign, assign]
    exact (twin_evaluate object calls alike discreet.tail).bind fun _ grown _ _ same' =>
      twin_located alike.file line'
        (twin_putAttributeAt (calls.mono grown) same' discreet.attribute (same.mono grown))
  | .item line' object index, _, _, _, calls, alike, discreet, same => by
    rw [assign, assign]
    exact (twin_evaluate object calls alike discreet.left).bind fun _ grown _ _ first =>
      (twin_evaluate index (calls.mono grown) (alike.mono grown) discreet.right).bind fun _ more _ _ second =>
        twin_located alike.file line' (twin_putItemAt (first.mono more) second (same.mono (grown.trans more)))

theorem twin_assignAll (line : Nat) : ∀ (targets : List Target) {bond : Bond} {values values' : List Value},
    terms.TwinCalls bond call call' → SameActivation inside bond here here' → (terms.reticence inside).Discreet (mentionsOfTargets targets) →
      terms.Sames bond values values' →
        terms.Twin bond Whatever (assignAll call here line targets values) (assignAll call' here' line targets values')
  | [], _, _, _, _, _, _, _ => twin_pure fun _ _ => trivial
  | _ :: _, _, [], [], _, _, _, _ => twin_pure fun _ _ => trivial
  | target :: targets, _, value :: values, value' :: values', calls, alike, discreet, .cons same each => by
    rw [assignAll, assignAll]
    exact (twin_assign line target calls alike discreet.left same).bind fun _ grown _ _ _ =>
      twin_assignAll line targets (calls.mono grown) (alike.mono grown) discreet.right (Sames.mono grown each)

end

theorem twin_assignEach (line : Nat) (targets : List Target) (calls : terms.TwinCalls bond call call')
    (alike : SameActivation inside bond here here') (discreet : (terms.reticence inside).Discreet (mentionsOfTargets targets))
    (same : terms.Same bond value value') :
    terms.Twin bond Whatever (assignEach call here line value targets) (assignEach call' here' line value' targets) := by
  induction targets generalizing bond with
  | nil => exact twin_pure fun _ _ => trivial
  | cons target targets ih =>
      exact (twin_assign line target calls alike discreet.left same).bind fun _ grown _ _ _ =>
        ih (calls.mono grown) (alike.mono grown) discreet.right (same.mono grown)

theorem twin_update (line : Nat) (operation : BinaryOp) {operand : Expr} (target : Target)
    (calls : terms.TwinCalls bond call call') (alike : SameActivation inside bond here here')
    (discreet : (terms.reticence inside).Discreet (target.mentions ++ operand.mentions)) :
    terms.Twin bond Whatever (update call here line operation operand target)
      (update call' here' line operation operand target) := by
  have own := discreet.left
  have code := discreet.right
  cases target with
  | name name =>
      refine (twin_located alike.file line (twin_nameIn alike own.name)).bind fun _ grown _ _ old =>
        (twin_evaluate operand (calls.mono grown) (alike.mono grown) code).bind fun _ more _ _ given => ?_
      have further := grown.trans more
      refine (twin_located alike.file line (twin_updated (calls.mono further) operation (old.mono more) given)).bind
        fun _ yet _ _ new => ?_
      exact twin_bindName (alike.mono (further.trans yet)) own.name new
  | «attribute» place object name =>
      refine (twin_evaluate object calls alike own.tail).bind fun _ grown _ _ first =>
        (twin_located alike.file place (twin_attributeAt first own.attribute)).bind fun _ more _ _ old => ?_
      have further := grown.trans more
      refine (twin_evaluate operand (calls.mono further) (alike.mono further) code).bind fun _ yet _ _ given => ?_
      have calls := calls.mono (further.trans yet)
      refine (twin_located alike.file line (twin_updated calls operation (old.mono yet) given)).bind
        fun _ last _ _ new => ?_
      exact twin_located alike.file place
        (twin_putAttributeAt (calls.mono last) (first.mono (more.trans (yet.trans last))) own.attribute new)
  | item place object index =>
      refine (twin_evaluate object calls alike own.left).bind fun _ grown _ _ first =>
        (twin_evaluate index (calls.mono grown) (alike.mono grown) own.right).bind fun _ more _ _ second => ?_
      have further := grown.trans more
      have first := first.mono more
      refine (twin_located alike.file place (twin_itemAt first second)).bind fun _ yet _ _ old => ?_
      have further := further.trans yet
      refine (twin_evaluate operand (calls.mono further) (alike.mono further) code).bind fun _ last _ _ given => ?_
      refine (twin_located alike.file line
        (twin_updated (calls.mono (further.trans last)) operation (old.mono last) given)).bind fun _ end' _ _ new => ?_
      have since := yet.trans (last.trans end')
      exact twin_located alike.file place (twin_putItemAt (first.mono since) (second.mono since) new)
  | tuple _ => exact twin_pure fun _ _ => trivial

theorem twin_nextRound (line : Nat) (target : Target) (calls : terms.TwinCalls bond call call')
    (alike : SameActivation inside bond here here') (discreet : (terms.reticence inside).Discreet target.mentions) {iterator iterator' : Nat}
    (pair : bond.objects iterator iterator') :
    terms.Twin bond Equal (nextRound call here line target iterator) (nextRound call' here' line target iterator') := by
  refine (twin_located alike.file line (twin_advance calls pair)).bind fun _ grown found found' given => ?_
  cases given with
  | none => exact twin_equal false
  | some same =>
      exact (twin_assign line target (calls.mono grown) (alike.mono grown) discreet same).bind fun _ _ _ _ _ =>
        twin_equal true

/-! ## Running statements -/

theorem twin_block {statement rest statement' rest' : Effect Flow} (first : terms.Twin bond terms.SameFlow statement statement')
    (second : terms.Twin bond terms.SameFlow rest rest') :
    terms.Twin bond terms.SameFlow (do match ← statement with | .proceed => rest | flow => return flow)
      (do match ← statement' with | .proceed => rest' | flow => return flow) := by
  refine first.bind fun _ grown flow flow' same => ?_
  cases same with
  | proceed => exact second.mono grown
  | leave => exact twin_flow .leave
  | again => exact twin_flow .again
  | finish same => exact twin_flow (.finish same)

theorem twin_bindEach (alike : SameActivation inside bond here here') {names : List Text}
    (free : (terms.reticence inside).Spares names) (same : terms.Same bond value value') :
    terms.Twin bond Whatever (names.forM fun name => bindName here name value)
      (names.forM fun name => bindName here' name value') := by
  induction names generalizing bond with
  | nil => exact twin_pure fun _ _ => trivial
  | cons name names ih =>
      obtain ⟨own, others⟩ := List.forall_mem_cons.mp free
      exact (twin_bindName alike own same).bind fun _ grown _ _ _ => ih (alike.mono grown) others (same.mono grown)

/-- Going on with a way to end. -/
theorem twin_then {α : Type} {good : Bond → α → α → Prop} {action action' : Effect α}
    (twin : terms.Twin bond good action action') {flow flow' : Flow} (same : terms.SameFlow bond flow flow') :
    terms.Twin bond terms.SameFlow (do let _ ← action; return flow) (do let _ ← action'; return flow') :=
  twin.bind fun _ grown _ _ _ => twin_flow (same.mono _ _ _ _ grown)

/-- Running a statement without statements in it does the same in worlds that are alike. -/
theorem twin_simple (steps : Nat) {statement : Stmt} (simple : statement.isSimple) (calls : terms.TwinCalls bond call call')
    (alike : SameActivation inside bond here here') (discreet : (terms.reticence inside).Discreet statement.mentions) :
    terms.Twin bond terms.SameFlow (run call steps here statement) (run call' steps here' statement) := by
  cases statement with
  | evaluate _ value =>
      rw [run, run]
      exact twin_then (twin_evaluate value calls alike discreet) .proceed
  | assign line targets value =>
      rw [run, run]
      exact (twin_evaluate value calls alike discreet.left).bind fun _ grown _ _ same =>
        twin_then (twin_assignEach line targets (calls.mono grown) (alike.mono grown) discreet.right same) .proceed
  | update line target operation value =>
      rw [run, run]
      exact twin_then (twin_update line operation target calls alike discreet) .proceed
  | nothing => exact twin_flow .proceed
  | spread _ => exact twin_flow .proceed
  | leaveLoop _ => exact twin_flow .leave
  | nextRound _ => exact twin_flow .again
  | giveBack _ value =>
      cases value with
      | none => exact twin_flow (.finish .none)
      | some value =>
          rw [run, run]
          exact (twin_evaluate value calls alike discreet).bind fun _ _ _ _ same => twin_flow (.finish same)
  | fail line error =>
      cases error with
      | none =>
          rw [run, run]
          refine twin_read fun later grown world world' matched => ?_
          have empty : world'.handled.isEmpty = world.handled.isEmpty := by
            have handled := matched.handled
            generalize world.handled = errors, world'.handled = errors' at handled ⊢
            cases handled <;> rfl
          rw [empty]
          split
          · exact twin_located alike.file line twin_raiseAgain
          · exact twin_raiseAgain
      | some error =>
          rw [run, run]
          exact (twin_evaluate error calls alike discreet).bind fun _ grown _ _ same =>
            twin_located alike.file line (twin_raiseValue (calls.mono grown) same)
  | branch | loop | each | define | attempt | choose => cases simple

section Recodings

variable {conversion : Option Bool}

mutual

/-- Running recodings of one statement does the same in worlds that are alike. -/
theorem twin_run (steps : Nat) : ∀ {statement statement' : Stmt} {bond : Bond},
    Recoded (terms.reticence inside) conversion statement statement' → Converts bond inside conversion →
      terms.TwinCalls bond call call' → (terms.guarded → terms.TwinOutputs bond call call') →
        SameActivation inside bond here here' →
          terms.Twin bond terms.SameFlow (run call steps here statement) (run call' steps here' statement')
  | _, _, _, .simple simple discreet, _, calls, _, alike => twin_simple steps simple calls alike discreet
  | _, _, _, .literal decided line content, converts, _, outputs, alike => by
    obtain ⟨escape, decided⟩ := Option.isSome_iff_exists.mp decided
    obtain ⟨rfl, place, known, -⟩ := converts escape decided
    exact twin_literal outputs alike known steps line content
  | _, _, _, .convert decided line, converts, _, outputs, alike => by
    obtain ⟨rfl, place, known, rfl⟩ := converts _ decided
    exact twin_converting outputs alike known steps line
  | _, _, _, .branch _ discreet inner other, converts, calls, outputs, alike => by
    rw [run, run]
    refine (twin_evaluate _ calls alike discreet).bind fun _ grown _ _ same =>
      (twin_holds same).bind fun _ more flag _ equal => ?_
    subst equal
    have further := grown.trans more
    have outputs : terms.guarded → _ := fun guarded => (outputs guarded).mono further
    split
    · exact twin_runBlock steps inner (converts.mono further) (calls.mono further) outputs (alike.mono further)
    · exact twin_runBlock steps other (converts.mono further) (calls.mono further) outputs (alike.mono further)
  | _, _, _, .loop _ discreet inner other, converts, calls, outputs, alike => by
    rw [run, run]
    exact twin_rounds ((twin_evaluate _ calls alike discreet).bind fun _ _ _ _ same => twin_holds same)
      (twin_runBlock steps inner converts calls outputs alike) (twin_runBlock steps other converts calls outputs alike) steps
  | _, _, _, .each line discreet inner other, converts, calls, outputs, alike => by
    rw [run, run]
    refine (twin_evaluate _ calls alike discreet.right).bind fun _ grown _ _ same => ?_
    refine (twin_located alike.file line (twin_iterate same)).bind fun _ more _ _ pair => ?_
    have further := grown.trans more
    have converts := converts.mono further
    have calls := calls.mono further
    have outputs : terms.guarded → _ := fun guarded => (outputs guarded).mono further
    have alike := alike.mono further
    exact twin_rounds (twin_nextRound line _ calls alike discreet.left pair)
      (twin_runBlock steps inner converts calls outputs alike) (twin_runBlock steps other converts calls outputs alike) steps
  | _, _, bond, @Recoded.define _ _ _ name parameters body body' discreet inner, converts, _, _, alike => by
    rw [run, run]
    have same : terms.SameFunction bond
        ⟨here.name ++ ".<locals>." ++ name, parameters.map Script.Parameter.name, body, here.scope, here.file, here.globals⟩
        ⟨here'.name ++ ".<locals>." ++ name, parameters.map Script.Parameter.name, body', here'.scope, here'.file,
          here'.globals⟩ := by
      refine ⟨congrArg (· ++ _ ++ name) alike.name, rfl, alike.file, alike.globals, inside, conversion, .inl alike.scope,
        converts, ?_, inner⟩
      have own := discreet.tail
      rw [← List.map_map] at own
      exact own.names
    exact (twin_allocate (.function same .nil)).bind fun _ grown _ _ pair =>
      twin_then (twin_bindName (alike.mono grown) discreet.name (.object pair)) .proceed
  | _, _, _, .attempt _ inner handling other last, converts, calls, outputs, alike => by
    rw [run, run]
    refine twin_cleaned (twin_runBlock steps last converts calls outputs alike) ?_
    refine (twin_attempted SameFlow.mono (twin_runBlock steps inner converts calls outputs alike)).bind
      fun _ grown _ _ ending => ?_
    have converts := converts.mono grown
    have calls := calls.mono grown
    have outputs : terms.guarded → _ := fun guarded => (outputs guarded).mono grown
    have alike := alike.mono grown
    cases ending with
    | ok same =>
        cases same with
        | proceed => exact twin_runBlock steps other converts calls outputs alike
        | leave => exact twin_flow .leave
        | again => exact twin_flow .again
        | finish same => exact twin_flow (.finish same)
    | error pair =>
        exact twin_handling SameFlow.mono pair (twin_runHandlers steps handling converts calls outputs alike pair)
  | _, _, _, .choose _ discreet each, converts, calls, outputs, alike => by
    rw [run, run]
    exact (twin_evaluate _ calls alike discreet).bind fun _ grown _ _ same =>
      twin_runArms steps each (converts.mono grown) (calls.mono grown) (fun guarded => (outputs guarded).mono grown)
        (alike.mono grown) same

theorem twin_runBlock (steps : Nat) : ∀ {statements statements' : List Stmt} {bond : Bond},
    RecodedBlock (terms.reticence inside) conversion statements statements' → Converts bond inside conversion →
      terms.TwinCalls bond call call' → (terms.guarded → terms.TwinOutputs bond call call') →
        SameActivation inside bond here here' → terms.Twin bond terms.SameFlow (runBlock call steps here statements)
          (runBlock call' steps here' statements')
  | _, _, _, .nil, _, _, _, _ => twin_flow .proceed
  | _, _, _, .cons first rest, converts, calls, outputs, alike => by
    rw [runBlock, runBlock]
    exact twin_block (twin_run steps first converts calls outputs alike)
      (twin_runBlock steps rest converts calls outputs alike)

theorem twin_runHandlers (steps : Nat) : ∀ {handlers handlers' : List Handler} {bond : Bond} {error error' : Nat},
    RecodedHandlers (terms.reticence inside) conversion handlers handlers' → Converts bond inside conversion →
      terms.TwinCalls bond call call' → (terms.guarded → terms.TwinOutputs bond call call') →
        SameActivation inside bond here here' → bond.objects error error' →
          terms.Twin bond terms.SameFlow (runHandlers call steps here error handlers)
            (runHandlers call' steps here' error' handlers')
  | _, _, _, _, _, .nil, _, _, _, _, pair => twin_failWith pair
  | _, _, bond, error, error', @RecodedHandlers.cons _ _ line kind binding body body' handlers handlers' discreet inner rest,
      converts, calls, outputs, alike, pair => by
    rw [runHandlers.eq_def, runHandlers.eq_def]
    dsimp only
    have test := discreet.left
    have spared : (terms.reticence inside).Spares binding.toList := discreet.right.names
    clear discreet
    revert spared
    have handled : ∀ later, bond ≤ later → (terms.reticence inside).Spares binding.toList →
        ∀ handles handles' : Bool, handles = handles' → terms.Twin later terms.SameFlow
        (if !handles then runHandlers call steps here error handlers else match binding with
          | none => runBlock call steps here body
          | some name => do
            bindName here name (.object error)
            let outcome ← attempted (runBlock call steps here body)
            unbindName here name
            resume outcome)
        (if !handles' then runHandlers call' steps here' error' handlers' else match binding with
          | none => runBlock call' steps here' body'
          | some name => do
            bindName here' name (.object error')
            let outcome ← attempted (runBlock call' steps here' body')
            unbindName here' name
            resume outcome) := by
      intro later grown spared handles _ equal
      subst equal
      have converts := converts.mono grown
      have calls := calls.mono grown
      have outputs : terms.guarded → _ := fun guarded => (outputs guarded).mono grown
      have alike := alike.mono grown
      split
      · exact twin_runHandlers steps rest converts calls outputs alike (grown.objects pair)
      · split
        · exact twin_runBlock steps inner converts calls outputs alike
        · rename_i name
          have free := spared name (List.mem_singleton_self name)
          refine (twin_bindName alike free (.object (grown.objects pair))).bind fun _ more _ _ _ => ?_
          refine (twin_attempted SameFlow.mono (twin_runBlock steps inner (converts.mono more) (calls.mono more)
            (fun guarded => (outputs guarded).mono more) (alike.mono more))).bind fun _ yet _ _ ending => ?_
          exact (twin_unbindName (alike.mono (more.trans yet)) free).bind fun _ last _ _ _ =>
            twin_resume SameFlow.mono (ending.mono SameFlow.mono last)
    intro spared
    cases kind with
    | none => exact (twin_equal true).bind fun later grown => handled later grown spared
    | some kind =>
        refine (twin_evaluate kind calls alike test).bind fun _ grown _ _ same => ?_
        exact (twin_located alike.file line (twin_isOfKind (grown.objects pair) same)).bind
          fun later more => handled later (grown.trans more) spared

theorem twin_runArms (steps : Nat) : ∀ {arms arms' : List Arm} {bond : Bond} {subject subject' : Value},
    RecodedArms (terms.reticence inside) conversion arms arms' → Converts bond inside conversion →
      terms.TwinCalls bond call call' → (terms.guarded → terms.TwinOutputs bond call call') →
        SameActivation inside bond here here' → terms.Same bond subject subject' →
          terms.Twin bond terms.SameFlow (runArms call steps here subject arms) (runArms call' steps here' subject' arms')
  | _, _, _, _, _, .nil, _, _, _, _, _ => twin_flow .proceed
  | _, _, _, _, _, @RecodedArms.cons _ _ _ pattern _ _ _ _ discreet inner rest, converts, calls, outputs, alike, same => by
    rw [runArms, runArms]
    refine (twin_fits same pattern).bind fun _ grown fitting _ equal => ?_
    subst equal
    have outputs : terms.guarded → _ := fun guarded => (outputs guarded).mono grown
    split
    · have free := Reticence.spares_pattern pattern discreet
      exact (twin_bindEach (alike.mono grown) free (same.mono grown)).bind fun _ more _ _ _ =>
        twin_runBlock steps inner (converts.mono (grown.trans more)) (calls.mono (grown.trans more))
          (fun guarded => (outputs guarded).mono more) (alike.mono (grown.trans more))
    · exact twin_runArms steps rest (converts.mono grown) (calls.mono grown) outputs (alike.mono grown) (same.mono grown)

end

end Recodings

end Terms
end Stencil
