import Stencil.Proofs.TwinTemplates

/-!
# Calls in two worlds that are alike

Whatever is called, with arguments that are the same apart from the places that they lead to, the calls end alike.
-/

namespace Stencil

open Effect Script Manners

namespace Terms

variable {terms : Terms} {bond : Bond} {world world' : World} {α : Type} {good : Bond → α → α → Prop}
  {value value' : Value} {arguments arguments' : List Value} {call call' : Caller}

/-! ## Checking arguments -/

theorem twin_checkArguments (function : Text) (parameters : List Text) {count count' : Nat} (same : count' = count) :
    terms.Twin bond Whatever (checkArguments function parameters count) (checkArguments function parameters count') := by
  subst same
  unfold checkArguments
  split
  · exact twin_pure fun _ _ => trivial
  · split
    · exact twin_raiseText _ _
    · exact twin_raiseText _ _

theorem twin_checkCount (function : Text) (least most : Nat) {count count' : Nat} (same : count' = count) :
    terms.Twin bond Whatever (checkCount function least most count) (checkCount function least most count') := by
  subst same
  unfold checkCount
  dsimp only
  split
  · exact twin_raiseText _ _
  · split
    · exact twin_raiseText _ _
    · exact twin_pure fun _ _ => trivial

theorem twin_theOnly (function : Text) (each : terms.Sames bond arguments arguments') :
    terms.Twin bond terms.Same (theOnly function arguments) (theOnly function arguments') := by
  have count := each.length_eq
  have refused (given given' : List Value) (count : given.length = given'.length) : terms.Twin bond terms.Same
      (raiseText .typing (function ++ "() takes exactly one argument (" ++ Text.ofNat given.length ++ " given)"))
      (raiseText .typing (function ++ "() takes exactly one argument (" ++ Text.ofNat given'.length ++ " given)")) := by
    rw [count]
    exact twin_raiseText _ _
  cases each with
  | nil => exact refused [] [] rfl
  | cons same each =>
      cases each with
      | nil => exact twin_value same
      | cons => exact refused _ _ count

theorem twin_takesNone (function : Text) (each : terms.Sames bond arguments arguments') :
    terms.Twin bond Whatever (takesNone function arguments) (takesNone function arguments') := by
  unfold takesNone
  rw [sames_isEmpty each, each.length_eq]
  split
  · exact twin_pure fun _ _ => trivial
  · exact twin_raiseText _ _

theorem headOr_same (each : terms.Sames bond arguments arguments') :
    terms.Same bond (arguments.headD .none) (arguments'.headD .none) := by
  cases each with
  | nil => exact .none
  | cons same _ => exact same

/-! ## Built-in functions -/

theorem twin_lengthOf (same : terms.Same bond value value') :
    terms.Twin bond terms.Same (lengthOf value) (lengthOf value') := by
  refine twin_read fun later grown world world' matched => ?_
  have same := same.mono grown
  have items := listAt?_same matched same
  have values := valuesOf?_same matched same
  cases same with
  | range _ start stop step =>
      dsimp only
      split
      · exact twin_newInt _
      · exact twin_raiseText _ _
  | _ =>
      dsimp only
      generalize world.listAt? _ = items, world'.listAt? _ = items', world.valuesOf? _ = values,
        world'.valuesOf? _ = values' at items values ⊢
      cases items with
      | @some items items' each =>
          have size : items.size = items'.size := each.length_eq
          dsimp only
          rw [size]
          exact twin_newInt _
      | none =>
          cases values with
          | some each =>
              dsimp only
              rw [each.length_eq]
              exact twin_newInt _
          | none => exact twin_raiseAbout (by constructor <;> assumption) _ _

theorem twin_numberOf (same : terms.Same bond value value') :
    terms.Twin bond Equal (numberOf value) (numberOf value') := by
  unfold numberOf
  rw [toInt?_same same]
  split
  · exact twin_equal _
  · exact twin_raiseAbout same _ _

theorem twin_numbersOf (each : terms.Sames bond arguments arguments') :
    terms.Twin bond Equal (newRange.numbersOf arguments) (newRange.numbersOf arguments') := by
  induction arguments generalizing bond arguments' with
  | nil =>
      cases each
      exact twin_equal []
  | cons value values ih =>
      obtain ⟨value', values', same, others, rfl⟩ := List.forall₂_cons_left_iff.mp each
      refine (twin_numberOf same).bind fun _ grown number _ equal => ?_
      subst equal
      refine (ih (Sames.mono grown others)).bind fun _ _ numbers _ equal => ?_
      subst equal
      exact twin_equal _

theorem twin_newRange (each : terms.Sames bond arguments arguments') :
    terms.Twin bond terms.Same (newRange arguments) (newRange arguments') := by
  have ranging {later : Bond} (start stop step : Int) : terms.Twin later terms.Same
      (do return .range (← newIdentity) start stop step) (do return .range (← newIdentity) start stop step) :=
    twin_newIdentity.bind fun _ _ _ _ pair => twin_value (.range pair start stop step)
  refine (twin_checkCount _ _ _ each.length_eq.symm).bind fun _ grown _ _ _ =>
    (twin_numbersOf (Sames.mono grown each)).bind fun _ _ numbers _ equal => ?_
  subst equal
  split
  · exact ranging _ _ _
  · exact ranging _ _ _
  · split
    · exact twin_raiseText _ _
    · exact ranging _ _ _
  · exact twin_value .none

theorem twin_sumOf (calls : terms.TwinCalls bond call call') (same : terms.Same bond value value') {start start' : Value}
    (begun : terms.Same bond start start') : terms.Twin bond terms.Same (sumOf call value start) (sumOf call' value' start') := by
  refine (twin_iterate same).bind fun later grown iterator iterator' pair => ?_
  have calls := calls.mono grown
  have begun := begun.mono grown
  have folded : terms.Twin later terms.Same (foldValues call iterator (binary call .add) start)
      (foldValues call' iterator' (binary call' .add) start') :=
    twin_foldValues terms.Same calls (fun _ _ _ _ more same => same.mono more) pair
      (fun _ more _ _ _ _ first second => twin_binary (calls.mono more) .add first second) begun
  cases begun with
  | text => exact twin_raiseText _ _
  | _ => exact folded

theorem twin_nextIn (calls : terms.TwinCalls bond call call') (same : terms.Same bond value value')
    {otherwise otherwise' : Option Value} (given : terms.SameIfAny bond otherwise otherwise') :
    terms.Twin bond terms.Same (nextIn call value otherwise) (nextIn call' value' otherwise') := by
  refine twin_read fun later grown world world' matched => ?_
  have found := iterator?_same matched (same.mono grown)
  generalize world.iterator? value = found, world'.iterator? value' = found' at found ⊢
  cases found with
  | none => exact twin_raiseAbout (same.mono grown) _ _
  | some pair =>
      refine (twin_advance (calls.mono grown) pair).bind fun _ more next next' alike => ?_
      have given := rel_imp (fun _ _ same => Same.mono (grown.trans more) same) given
      cases alike with
      | some same => exact twin_value same
      | none =>
          cases given with
          | some same => exact twin_value same
          | none => exact twin_raise _ .nil

theorem twin_iteratorOf (each : terms.Sames bond arguments arguments') :
    terms.Twin bond terms.Same (iteratorOf arguments) (iteratorOf arguments') := by
  have plain {value value' : Value} (same : terms.Same bond value value') : terms.Twin bond terms.Same
      (do return .object (← iterate value)) (do return .object (← iterate value')) :=
    (twin_iterate same).bind fun _ _ _ _ pair => twin_value (.object pair)
  unfold iteratorOf
  cases each with
  | nil => exact plain .none
  | cons first each =>
      cases each with
      | nil => exact plain first
      | cons second each =>
          cases each with
          | cons => exact plain first
          | nil =>
              refine twin_read fun later grown world world' matched => ?_
              rw [isCallable_same matched (first.mono grown)]
              split
              · refine (twin_allocate (.iterator (.calling (first.mono grown) (second.mono grown)) false)).bind
                  fun _ _ _ _ pair => twin_value (.object pair)
              · exact twin_raiseText _ _

theorem twin_textFrom (calls : terms.TwinCalls bond call call') (each : terms.Sames bond arguments arguments') :
    terms.Twin bond terms.Same (textFrom call arguments) (textFrom call' arguments') := by
  have count := each.length_eq
  unfold textFrom
  cases each with
  | nil => exact twin_value (.plain [])
  | @cons value value' more more' same each =>
      cases each with
      | nil => exact twin_textOf calls same
      | @cons second second' others others' following each =>
          have each : terms.Sames bond (second :: others) (second' :: others') := .cons following each
          dsimp only
          rw [count, ← each.length_eq]
          split
          · exact twin_raiseText _ _
          · have named : List.Forall₂ (fun entry entry' : String × Option Value => entry'.1 = entry.1 ∧
                terms.SameIfAny bond entry.2 entry'.2)
                [("encoding", (second :: others).head?), ("errors", (second :: others)[1]?)]
                [("encoding", (second' :: others').head?), ("errors", (second' :: others')[1]?)] :=
              .cons ⟨rfl, .some following⟩ (.cons ⟨rfl, getElem?_same each 1⟩ .nil)
            refine (twin_forIn named fun later grown entry entry' both => ?_).bind fun later grown _ _ _ => ?_
            · obtain ⟨name, argument⟩ := entry
              obtain ⟨name', argument'⟩ := entry'
              obtain ⟨names, given⟩ := both
              dsimp only at names given ⊢
              subst names
              cases given with
              | none => exact twin_equal _
              | some same => exact (twin_requireTextFor _ (same.mono grown)).bind fun _ _ _ _ _ => twin_equal _
            · have refused : terms.Twin _ terms.Same _ _ := twin_raiseAbout (same.mono grown)
                "decoding to str: need a bytes-like object, " " found"
              cases same with
              | text => exact twin_raiseText _ _
              | _ => exact refused

theorem twin_callBuiltin (calls : terms.TwinCalls bond call call') (function : Builtin)
    (each : terms.Sames bond arguments arguments') :
    terms.Twin bond terms.Same (callBuiltin call function arguments) (callBuiltin call' function arguments') := by
  have count := each.length_eq.symm
  cases function with
  | length => exact (twin_theOnly _ each).bind fun _ _ _ _ same => twin_lengthOf same
  | range => exact twin_newRange each
  | text => exact twin_textFrom calls each
  | sum =>
      unfold callBuiltin
      cases each with
      | nil => exact twin_raiseText _ _
      | cons first each =>
          cases each with
          | nil => exact twin_sumOf calls first (.number 0)
          | cons second each =>
              cases each with
              | nil => exact twin_sumOf calls first second
              | cons =>
                  dsimp only
                  rw [count]
                  exact twin_raiseText _ _
  | next =>
      exact (twin_checkCount _ _ _ count).bind fun _ grown _ _ _ =>
        twin_nextIn (calls.mono grown) (headOr_same (Sames.mono grown each)) (getElem?_same (Sames.mono grown each) 1)
  | iterate => exact (twin_checkCount _ _ _ count).bind fun _ grown _ _ _ => twin_iteratorOf (Sames.mono grown each)
  | escape =>
      exact (twin_checkArguments _ _ count).bind fun _ grown _ _ _ =>
        twin_markupOf (calls.mono grown) (headOr_same (Sames.mono grown each))

/-! ## Operations of values -/

theorem twin_joinTexts (position : Nat) (each : terms.Sames bond arguments arguments') :
    terms.Twin bond Equal (joinTexts position arguments) (joinTexts position arguments') := by
  induction arguments generalizing bond arguments' position with
  | nil =>
      cases each
      exact twin_equal []
  | cons value values ih =>
      obtain ⟨value', values', same, others, rfl⟩ := List.forall₂_cons_left_iff.mp each
      have refused : terms.Twin bond (@Equal (List Text)) _ _ := twin_raiseAbout same
        ("sequence item " ++ Text.ofNat position ++ ": expected str instance, ") " found"
      cases same with
      | text =>
          refine (ih (position + 1) others).bind fun _ _ texts _ equal => ?_
          subst equal
          exact twin_equal _
      | _ => exact refused

theorem twin_callOnText (calls : terms.TwinCalls bond call call') (content name : Text)
    (each : terms.Sames bond arguments arguments') :
    terms.Twin bond terms.Same (callOnText call content name arguments) (callOnText call' content name arguments') := by
  have changed (f : Text → Text) : terms.Twin bond terms.Same
      (do takesNone ("str." ++ name) arguments; newText (f content))
      (do takesNone ("str." ++ name) arguments'; newText (f content)) :=
    (twin_takesNone _ each).bind fun _ _ _ _ _ => twin_newText _
  unfold callOnText
  dsimp only
  split
  · exact changed Text.upper
  · split
    · exact changed Text.lower
    · split
      · exact changed Text.title
      · split
        · refine (twin_theOnly _ each).bind fun _ grown joined joined' same =>
            (twin_valuesIn? (calls.mono grown) same).bind fun later _ found found' alike => ?_
          have joining {values values' : List Value} (each : terms.Sames later values values') : terms.Twin later terms.Same
              (do newText (Text.join content (← joinTexts 0 values)))
              (do newText (Text.join content (← joinTexts 0 values'))) := by
            refine (twin_joinTexts 0 each).bind fun _ _ texts _ equal => ?_
            subst equal
            exact twin_newText _
          cases alike with
          | none => exact twin_raiseText _ _
          | some each =>
              have all := joining each
              cases each with
              | nil => exact all
              | cons same each =>
                  cases each with
                  | cons =>
                      cases same with
                      | text _ trusted _ => cases trusted <;> exact all
                      | _ => exact all
                  | nil =>
                      cases same with
                      | text kept trusted content =>
                          cases trusted with
                          | false => exact twin_value (.text kept false content)
                          | true => exact all
                      | _ => exact all
        · exact (twin_checkArguments _ _ (congrArg (· + 1) each.length_eq.symm)).bind fun _ _ _ _ _ => twin_newText _

theorem twin_callHook (calls : terms.TwinCalls bond call call') (routines : terms.TwinRoutines bond call call')
    {hook hook' : Hook} (alike : terms.SameHook bond hook hook') (same : terms.Same bond value value')
    (each : terms.Sames bond arguments arguments') :
    terms.Twin bond terms.Same (callHook call hook value arguments) (callHook call' hook' value' arguments') := by
  have count : arguments'.length + 1 = arguments.length + 1 := congrArg (· + 1) each.length_eq.symm
  cases alike with
  | renders pair owner =>
      exact (twin_checkArguments _ _ count).bind fun _ grown _ _ _ =>
        twin_render (calls.mono grown) (routines.mono grown) (grown.programs pair) (same.mono grown)
  | reloads both owner =>
      refine (twin_checkArguments _ _ count).bind fun _ grown _ _ _ =>
        (twin_build both).bind fun _ more _ _ pair => ?_
      have further := grown.trans more
      exact twin_render (calls.mono further) (routines.mono further) (Bond.programs_of_templates _ pair) (same.mono further)
  | rebuilds built owner =>
      refine (twin_checkArguments _ _ count).bind fun _ grown _ _ _ => ?_
      intro later more world world' matched
      obtain ⟨later', number, after, done, moves, pair⟩ := matched.rebuilt (more.rebuilds (grown.rebuilds built))
      have further := (grown.trans more).trans moves.grown
      have rendered := twin_render (calls.mono further) (routines.mono further) pair (same.mono further) later' le_rfl
        after world' moves.matched
      dsimp only
      rw [bind_done done]
      exact rendered.behind moves
  | trusts owner =>
      refine (twin_checkArguments _ _ count).bind fun _ grown _ _ _ =>
        (calls _ grown (.builtin .text) (.cons (same.mono grown) .nil)).bind fun _ _ _ _ said => ?_
      rw [contentOf_same said]
      exact twin_newMarkup _

theorem twin_callMethod (calls : terms.TwinCalls bond call call') (routines : terms.TwinRoutines bond call call')
    (same : terms.Same bond value value') {name : Text} (seen : ¬ terms.unread name)
    (each : terms.Sames bond arguments arguments') :
    terms.Twin bond terms.Same (callMethod call value name arguments) (callMethod call' value' name arguments') := by
  have count : arguments'.length + 1 = arguments.length + 1 := congrArg (· + 1) each.length_eq.symm
  refine twin_read fun later grown world world' matched => ?_
  have calls := calls.mono grown
  have routines := routines.mono grown
  have each := Sames.mono grown each
  cases same with
  | text kept trusted content => exact twin_callOnText calls content name each
  | template pair =>
      exact (twin_checkArguments _ _ count).bind fun _ more _ _ _ =>
        twin_render (calls.mono more) (routines.mono more)
          (Bond.programs_of_templates _ ((grown.trans more).templates pair)) (headOr_same (Sames.mono more each))
  | object pair =>
      have pair := grown.objects pair
      obtain ⟨object, object', there, there', alike⟩ := matched.objects pair
      dsimp only
      rw [there, there']
      cases alike with
      | list =>
          exact (twin_theOnly _ each).bind fun _ more _ _ item =>
            (twin_append (more.objects pair) item).bind fun _ _ _ _ _ => twin_value .none
      | dict =>
          exact (twin_takesNone _ each).bind fun _ more _ _ _ =>
            (twin_allocate (.entries (more.objects pair))).bind fun _ _ _ _ pair => twin_value (.object pair)
      | guest trusted shown =>
          cases trusted with
          | none => exact twin_value .none
          | some html =>
              exact (twin_checkArguments _ _ count).bind fun _ more _ _ _ => twin_readSlot (html.mono more)
      | member owner =>
          have shared := attributeOfClass?_same matched seen owner
          dsimp only
          generalize world.attributeOfClass? owner name = found, world'.attributeOfClass? owner name = found'
            at shared ⊢
          cases shared with
          | none => exact twin_value .none
          | some shared =>
              cases shared with
              | hook alike => exact twin_callHook calls routines alike (.object pair) each
              | value same => cases same <;> exact twin_value .none
      | _ => exact twin_value .none
  | _ => exact twin_value .none

/-! ## Calls -/

/-- The names of a routine's own are not bound by what is in it. -/
theorem spared_equipment {inside : Bool} (within : inside = true) {names : List Text}
    (spares : (terms.reticence inside).Spares names) : ∀ name ∈ Routine.equipment, names.contains name = false := by
  intro name equipped
  rw [Bool.eq_false_iff, Ne, List.contains_iff_mem]
  exact fun member => ne_of_free within (spares name member) equipped rfl

theorem twin_invoke (calls : terms.TwinCalls bond call call') (outputs : terms.guarded → terms.TwinOutputs bond call call')
    (steps : Nat) {function function' : Function} (same : terms.SameFunction bond function function')
    (each : terms.Sames bond arguments arguments') :
    terms.Twin bond terms.Same (invoke call steps function arguments) (invoke call' steps function' arguments') := by
  obtain ⟨name, parameters, body, outer, file, globals⟩ := function
  obtain ⟨name', parameters', body', outer', file', globals'⟩ := function'
  obtain ⟨names, params, files, numbers, inside, conversion, around, converts, spares, recoded⟩ := same
  dsimp only at names params files numbers around spares recoded
  subst names params files numbers
  obtain ⟨binds, sparing⟩ := recoded.bound
  refine (twin_checkArguments _ _ each.length_eq.symm).bind fun _ grown _ _ _ => ?_
  have bound : Alike (terms.Held inside _) (parameters'.zip arguments) (parameters'.zip arguments') :=
    Alike.zip parameters' (Sames.mono grown each) fun _ _ _ _ same => .inr same
  have opened := twin_openScope (Bond.encloses_mono grown around) bound
    fun within => spared_equipment within (spares.append sparing)
  dsimp only
  rw [binds]
  refine opened.bind fun _ more scope scope' frame => ?_
  have further := grown.trans more
  have here : SameActivation inside _ ⟨name', file', scope, globals'⟩ ⟨name', file', scope', globals'⟩ := ⟨rfl, rfl, rfl, frame⟩
  refine (twin_runBlock steps recoded (converts.mono further) (calls.mono further)
    (fun guarded => (outputs guarded).mono further) here).bind fun _ _ flow flow' same => ?_
  cases same with
  | finish same => exact twin_value same
  | proceed => exact twin_value .none
  | leave => exact twin_value .none
  | again => exact twin_value .none

theorem twin_callStep (calls : terms.TwinCalls bond call call') (routines : terms.TwinRoutines bond call call')
    (outputs : terms.guarded → terms.TwinOutputs bond call call') (steps : Nat) (same : terms.Same bond value value')
    (each : terms.Sames bond arguments arguments') :
    terms.Twin bond terms.Same (callStep call steps value arguments) (callStep call' steps value' arguments') := by
  refine twin_read fun later grown world world' matched => ?_
  have calls := calls.mono grown
  have each := Sames.mono grown each
  have refused : terms.Twin _ terms.Same _ _ := twin_raiseAbout (same.mono grown) ['\''] "' object is not callable"
  cases same with
  | builtin function => exact twin_callBuiltin calls function each
  | kind errors => exact (twin_newError calls errors each).bind fun _ _ _ _ pair => twin_value (.object pair)
  | method _ same seen => exact twin_callMethod calls (routines.mono grown) (same.mono grown) seen each
  | object pair =>
      obtain ⟨object, object', there, there', alike⟩ := matched.objects (grown.objects pair)
      dsimp only
      rw [there, there']
      cases alike with
      | function same => exact twin_invoke calls (fun guarded => (outputs guarded).mono grown) steps same each
      | _ => exact refused
  | _ => exact refused

/-- Calling the functions of templates that render alike. -/
theorem twin_callRoutine (calls : terms.TwinCalls bond call call') (routines : terms.TwinRoutines bond call call')
    (outputs : terms.guarded → terms.TwinOutputs bond call call') (steps : Nat) :
    terms.TwinRoutines bond (callStep call steps) (callStep call' steps) := by
  intro later grown world world' matched template template' same arguments arguments' each
  have calls := calls.mono grown
  have outputs : terms.guarded → terms.TwinOutputs later call call' := fun guarded => (outputs guarded).mono grown
  rcases same.function with pair | ⟨-, -, content, content', attributes, attributes', there, there', alike⟩
  · exact twin_callStep calls (routines.mono grown) outputs steps (.object pair) each later le_rfl world world' matched
  · have invoked := twin_invoke calls outputs steps alike each later le_rfl world world' matched
    rw [callStep, callStep, world_bind, world_bind]
    dsimp only
    rw [there, there']
    exact invoked

/-- Calls that start in worlds that are alike end alike. -/
theorem twin_callWithin (strict : ¬ terms.guarded) (bond : Bond) (steps depth : Nat) :
    terms.TwinCalls bond (callWithin steps depth) (callWithin steps depth) ∧
      terms.TwinRoutines bond (callWithin steps depth) (callWithin steps depth) := by
  induction depth with
  | zero =>
      exact ⟨fun _ _ _ _ _ _ _ _ => twin_raiseText _ _, fun later _ world world' matched _ _ _ _ _ _ =>
        twin_raiseText _ _ later le_rfl world world' matched⟩
  | succ depth ih =>
      obtain ⟨calls, routines⟩ := ih
      exact ⟨fun later grown _ _ _ _ same each => twin_callStep (calls.mono grown) (routines.mono grown)
        (fun guarded => absurd guarded strict) steps same each,
        twin_callRoutine calls routines (fun guarded => absurd guarded strict) steps⟩

end Terms
end Stencil
