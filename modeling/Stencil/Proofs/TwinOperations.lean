import Stencil.Proofs.TwinReads

/-!
# Operations in two worlds that are alike

Going through values, filling them into texts, calculating, and reading and setting items and attributes do the same
in worlds that are alike, provided that calls do.
-/

namespace Stencil

open Effect Script Manners

namespace Terms

variable {terms : Terms} {bond : Bond} {α : Type} {good : Bond → α → α → Prop}
  {value value' left left' right right' : Value} {call call' : Caller}

/-- Whether calls do the same. -/
def TwinCalls (terms : Terms) (bond : Bond) (call call' : Caller) : Prop :=
  ∀ later, bond ≤ later → ∀ {function function' : Value} {arguments arguments' : List Value},
    terms.Same later function function' → terms.Sames later arguments arguments' →
      terms.Twin later terms.Same (call function arguments) (call' function' arguments')

theorem TwinCalls.mono {bond' : Bond} (grown : bond ≤ bond') (calls : terms.TwinCalls bond call call') :
    terms.TwinCalls bond' call call' :=
  fun later more => calls later (grown.trans more)

/-- Whether values that there may be are the same. -/
abbrev SameIfAny (terms : Terms) (bond : Bond) : Option Value → Option Value → Prop := Option.Rel (terms.Same bond)

theorem twin_someValue (same : terms.Same bond value value') :
    terms.Twin bond terms.SameIfAny (pure (some value)) (pure (some value')) :=
  twin_pure fun _ grown => .some (same.mono grown)

theorem twin_noValue : terms.Twin bond terms.SameIfAny (pure none) (pure none) := twin_pure fun _ _ => .none

theorem twin_values {values values' : List Value} (each : terms.Sames bond values values') :
    terms.Twin bond terms.Sames (pure values) (pure values') :=
  twin_pure fun _ grown => Sames.mono grown each

/-! ## Comparing -/

theorem twin_decided (answer : Option α) : terms.Twin bond Equal (decided answer) (decided answer) := by
  cases answer with
  | none => exact twin_raiseText _ _
  | some value => exact twin_equal value

theorem twin_areEqual (same : terms.Same bond left left') (same' : terms.Same bond right right') :
    terms.Twin bond Equal (areEqual left right) (areEqual left' right') := by
  refine twin_read fun later grown world world' matched => ?_
  rw [same?_same matched (same.mono grown) (same'.mono grown)]
  exact twin_decided _

/-! ## Going through values -/

theorem twin_raiseAbout (same : terms.Same bond value value') (lead tail : Text) :
    terms.Twin bond good (raiseAbout value lead tail) (raiseAbout value' lead tail) := by
  refine twin_read fun later grown world world' matched => ?_
  rw [typeName_same matched (same.mono grown)]
  exact twin_raiseText _ _

theorem twin_requireTextFor (subject : Text) (same : terms.Same bond value value') :
    terms.Twin bond Whatever (requireTextFor subject value) (requireTextFor subject value') := by
  cases same with
  | text => exact twin_pure fun _ _ => trivial
  | none => exact twin_raiseText _ _
  | _ => exact twin_raiseAbout (by constructor <;> assumption) _ _

theorem twin_iterate? (same : terms.Same bond value value') :
    terms.Twin bond (fun later => Option.Rel later.objects) (iterate? value) (iterate? value') := by
  refine twin_read fun later grown world world' matched => ?_
  have iterator := iterator?_same matched (same.mono grown)
  have passage := passageOver?_same matched (same.mono grown)
  generalize world.iterator? value = found, world'.iterator? value' = found' at iterator ⊢
  generalize world.passageOver? value = start, world'.passageOver? value' = start' at passage ⊢
  cases iterator with
  | some pair => exact twin_pure fun _ more => .some (more.objects pair)
  | none =>
      cases passage with
      | none => exact twin_pure fun _ _ => .none
      | some same =>
          exact (twin_allocate (.iterator same false)).bind fun _ _ _ _ pair =>
            twin_pure fun _ more => .some (more.objects pair)

theorem twin_iterate (same : terms.Same bond value value') :
    terms.Twin bond Bond.objects (iterate value) (iterate value') := by
  refine (twin_iterate? same).bind fun later grown found found' alike => ?_
  cases alike with
  | none => exact twin_raiseAbout (same.mono grown) _ _
  | some pair => exact twin_pure fun _ more => more.objects pair

theorem twin_finish {address address' : Nat} (pair : bond.objects address address') {passage passage' : Passage}
    (same : terms.SamePassage bond passage passage') :
    terms.Twin bond terms.SameIfAny (finish address passage) (finish address' passage') :=
  (twin_store pair (.iterator same true)).bind fun _ _ _ _ _ => twin_noValue

theorem twin_ask (calls : terms.TwinCalls bond call call') {address address' : Nat} (pair : bond.objects address address')
    {passage passage' : Passage} (same : terms.SamePassage bond passage passage') {function function' stop stop' : Value}
    (first : terms.Same bond function function') (last : terms.Same bond stop stop') :
    terms.Twin bond terms.SameIfAny (ask call address passage function stop) (ask call' address' passage' function' stop') := by
  have given : terms.Twin bond terms.SameIfAny
      (recover (do return some (← call function [])) fun error => do
        if (← Effect.world).errorKind error |>.isA .stopIteration then return none else failWith error)
      (recover (do return some (← call' function' [])) fun error => do
        if (← Effect.world).errorKind error |>.isA .stopIteration then return none else failWith error) := by
    refine ((calls _ le_rfl first .nil).bind fun _ _ _ _ same => twin_someValue same).recover
      fun later grown error error' pair => ?_
    refine twin_read fun later' more world world' matched => ?_
    rw [errorKind_same matched (more.objects pair)]
    split
    · exact twin_noValue
    · exact twin_failWith (more.objects pair)
  refine given.bind fun later grown found found' alike => ?_
  cases alike with
  | none => exact twin_finish (grown.objects pair) (same.mono grown)
  | some held =>
      refine (twin_areEqual (last.mono grown) held).bind fun later' more answer _ equal => ?_
      subst equal
      split
      · exact twin_finish ((grown.trans more).objects pair) (same.mono (grown.trans more))
      · exact twin_someValue (held.mono more)

theorem twin_advance (calls : terms.TwinCalls bond call call') {address address' : Nat}
    (pair : bond.objects address address') :
    terms.Twin bond terms.SameIfAny (advance call address) (advance call' address') := by
  refine twin_read fun later grown world world' matched => ?_
  obtain ⟨object, object', there, there', alike⟩ := matched.objects (grown.objects pair)
  rw [there, there']
  cases alike with
  | @iterator passage passage' same finished =>
      cases finished with
      | true => exact twin_noValue
      | false =>
          have next := round_same matched same
          dsimp only
          generalize world.round passage = round, world'.round passage' = round' at next ⊢
          cases next with
          | gives held more =>
              exact (twin_store (grown.objects pair) (.iterator more false)).bind fun _ later _ _ _ =>
                twin_someValue (held.mono later)
          | ends => exact twin_finish (grown.objects pair) same
          | changed => exact twin_raiseText _ _
          | asks first last => exact twin_ask (calls.mono grown) (grown.objects pair) same first last
  | _ => exact twin_noValue

theorem twin_foldIterator {σ : Type} (holds : Bond → σ → σ → Prop) (calls : terms.TwinCalls bond call call')
    (kept : ∀ later later' state state', later ≤ later' → holds later state state' → holds later' state state')
    {address address' : Nat} (pair : bond.objects address address') {wants wants' : σ → Bool}
    (agree : ∀ later state state', holds later state state' → wants' state' = wants state)
    {put put' : σ → Value → Effect σ}
    (puts : ∀ later, bond ≤ later → ∀ state state' value value', holds later state state' → terms.Same later value value' →
      terms.Twin later holds (put state value) (put' state' value'))
    (steps : Nat) {state state' : σ} (start : holds bond state state') :
    terms.Twin bond holds (foldIterator call address wants put steps state)
      (foldIterator call' address' wants' put' steps state') := by
  induction steps generalizing bond state state' with
  | zero => exact twin_exhausted
  | succ steps ih =>
      unfold foldIterator
      rw [agree _ _ _ start]
      split
      · refine (twin_advance calls pair).bind fun later grown found found' alike => ?_
        cases alike with
        | none => exact twin_pure fun _ more => kept _ _ _ _ (grown.trans more) start
        | some same =>
            refine (puts later grown _ _ _ _ (kept _ _ _ _ grown start) same).bind fun later' more state state' next => ?_
            have further := grown.trans more
            exact ih (calls.mono further) (further.objects pair) (fun later beyond => puts later (further.trans beyond)) next
      · exact twin_pure fun _ more => kept _ _ _ _ more start

theorem twin_foldValues {σ : Type} (holds : Bond → σ → σ → Prop) (calls : terms.TwinCalls bond call call')
    (kept : ∀ later later' state state', later ≤ later' → holds later state state' → holds later' state state')
    {address address' : Nat} (pair : bond.objects address address') {put put' : σ → Value → Effect σ}
    (puts : ∀ later, bond ≤ later → ∀ state state' value value', holds later state state' → terms.Same later value value' →
      terms.Twin later holds (put state value) (put' state' value'))
    {state state' : σ} (start : holds bond state state') :
    terms.Twin bond holds (foldValues call address put state) (foldValues call' address' put' state') :=
  twin_foldIterator holds calls kept pair (fun _ _ _ _ => rfl) puts _ start

theorem twin_gather (later : Bond) (values values' : List Value) (value value' : Value)
    (each : terms.Sames later values values') (same : terms.Same later value value') :
    terms.Twin later terms.Sames (pure (value :: values)) (pure (value' :: values')) :=
  twin_values (.cons same each)

theorem sames_reverse {values values' : List Value} (each : terms.Sames bond values values') :
    terms.Sames bond values.reverse values'.reverse :=
  List.rel_reverse each

theorem twin_drain (calls : terms.TwinCalls bond call call') {address address' : Nat}
    (pair : bond.objects address address') : terms.Twin bond terms.Sames (drain call address) (drain call' address') := by
  refine (twin_foldValues terms.Sames calls (fun _ _ _ _ grown each => Sames.mono grown each) pair
    (fun later _ => twin_gather later) .nil).bind fun later grown gathered gathered' each => ?_
  exact twin_values (sames_reverse each)

theorem twin_valuesIn? (calls : terms.TwinCalls bond call call') (same : terms.Same bond value value') :
    terms.Twin bond (fun later => Option.Rel (terms.Sames later)) (valuesIn? call value) (valuesIn? call' value') := by
  refine twin_read fun later grown world world' matched => ?_
  have values := valuesOf?_same matched (same.mono grown)
  have iterator := iterator?_same matched (same.mono grown)
  generalize world.valuesOf? value = found, world'.valuesOf? value' = found' at values ⊢
  generalize world.iterator? value = place, world'.iterator? value' = place' at iterator ⊢
  cases values with
  | some each => exact twin_pure fun _ more => .some (Sames.mono more each)
  | none =>
      cases iterator with
      | none => exact twin_pure fun _ _ => .none
      | some pair =>
          exact (twin_drain (calls.mono grown) pair).bind fun _ _ _ _ each =>
            twin_pure fun _ more => .some (Sames.mono more each)

theorem twin_valuesIn (calls : terms.TwinCalls bond call call') (same : terms.Same bond value value') :
    terms.Twin bond terms.Sames (valuesIn call value) (valuesIn call' value') := by
  refine (twin_valuesIn? calls same).bind fun later grown found found' alike => ?_
  cases alike with
  | none => exact twin_raiseAbout (same.mono grown) _ _
  | some each => exact twin_values each

theorem twin_unpack (calls : terms.TwinCalls bond call call') (count : Nat) (same : terms.Same bond value value') :
    terms.Twin bond terms.Sames (unpack call count value) (unpack call' count value') := by
  refine (twin_iterate? same).bind fun later grown found found' alike => ?_
  cases alike with
  | none => exact twin_raiseAbout (same.mono grown) _ _
  | some pair =>
      refine (twin_foldIterator terms.Sames (calls.mono grown) (fun _ _ _ _ grown each => Sames.mono grown each) pair
        (fun _ _ _ each => by rw [each.length_eq]) (fun later _ => twin_gather later) _ .nil).bind fun later' more gathered gathered' each => ?_
      rw [each.length_eq]
      split
      · exact twin_values (sames_reverse each)
      · split
        · exact twin_raiseText _ _
        · exact twin_raiseText _ _

/-! ## Showing values -/

theorem twin_raiseUnshowable (reason : Unshowable) :
    terms.Twin bond good (raiseUnshowable reason) (raiseUnshowable reason) := by
  cases reason <;> exact twin_raiseText _ _

theorem twin_shown (same : terms.Same bond value value') : terms.Twin bond Equal (shown value) (shown value') := by
  refine twin_read fun later grown world world' matched => ?_
  rw [shownWithin_same matched _ .nil (same.mono grown)]
  split
  · exact twin_equal _
  · exact twin_raiseUnshowable _

/-! ## Filling values into texts -/

/-- Whether the values that are still to be filled in are the same. -/
inductive SameSupply (terms : Terms) (bond : Bond) : Format.Supply → Format.Supply → Prop where
  | several {values values' : List Value} (each : terms.Sames bond values values') :
    SameSupply terms bond (.several values) (.several values')
  | single {value value' : Value} (same : terms.Same bond value value') : SameSupply terms bond (.single value) (.single value')
  | spent : SameSupply terms bond .spent .spent

theorem SameSupply.mono {bond' : Bond} (grown : bond ≤ bond') {supply supply' : Format.Supply}
    (same : terms.SameSupply bond supply supply') : terms.SameSupply bond' supply supply' := by
  cases same with
  | several each => exact .several (Sames.mono grown each)
  | single same => exact .single (same.mono grown)
  | spent => exact .spent

theorem SameSupply.isLeft {supply supply' : Format.Supply} (same : terms.SameSupply bond supply supply') :
    supply'.isLeft = supply.isLeft := by
  cases same with
  | several each => exact congrArg not (sames_isEmpty each)
  | _ => rfl

/-- Whether the values that are filled in are the same. -/
structure SameSource (terms : Terms) (bond : Bond) (source source' : Format.Source) : Prop where
  mapping : terms.SameIfAny bond source.mapping source'.mapping
  supply : terms.SameSupply bond source.supply source'.supply

theorem SameSource.mono {bond' : Bond} (grown : bond ≤ bond') {source source' : Format.Source}
    (same : terms.SameSource bond source source') : terms.SameSource bond' source source' :=
  ⟨rel_imp (fun _ _ same => same.mono grown) same.mapping, same.supply.mono grown⟩

theorem isSome_same {α β : Type} {R : α → β → Prop} {found : Option α} {found' : Option β}
    (alike : Option.Rel R found found') : found'.isSome = found.isSome := by
  cases alike <;> rfl

variable {supply supply' : Format.Supply}

theorem twin_nextArgument (same : terms.SameSupply bond supply supply') :
    terms.Twin bond (fun later found found' => terms.Same later found.1 found'.1 ∧ terms.SameSupply later found.2 found'.2)
      (nextArgument supply) (nextArgument supply') := by
  cases same with
  | several each =>
      cases each with
      | nil => exact twin_raiseText _ _
      | cons same each => exact twin_pure fun _ grown => ⟨same.mono grown, .several (Sames.mono grown each)⟩
  | single same => exact twin_pure fun _ grown => ⟨same.mono grown, .spent⟩
  | spent => exact twin_raiseText _ _

/-- Whether the same was read off a text, and the values that are left are the same. -/
abbrev SameReading (terms : Terms) (bond : Bond) (found found' : α × Format.Supply) : Prop :=
  found.1 = found'.1 ∧ terms.SameSupply bond found.2 found'.2

/-- Whether the same was read off a text, the values that are left are the same, and so is the text that is left. -/
abbrev SameProgress (terms : Terms) (bond : Bond) (found found' : α × Format.Supply × Text) : Prop :=
  found.1 = found'.1 ∧ terms.SameSupply bond found.2.1 found'.2.1 ∧ found.2.2 = found'.2.2

theorem twin_progress (value : α) (same : terms.SameSupply bond supply supply') (text : Text) :
    terms.Twin bond terms.SameProgress (pure (value, supply, text)) (pure (value, supply', text)) :=
  twin_pure fun _ grown => ⟨rfl, same.mono grown, rfl⟩

theorem twin_countGiven (word : Text) (bound : Int) (same : terms.SameSupply bond supply supply') :
    terms.Twin bond terms.SameReading (countGiven word bound supply) (countGiven word bound supply') := by
  refine (twin_nextArgument same).bind fun later grown (value, supply) (value', supply') both => ?_
  have number : value'.toInt? = value.toInt? := toInt?_same both.1
  dsimp only
  rw [number]
  split
  · exact twin_raiseText _ _
  · split
    · exact twin_raiseText _ _
    · exact twin_pure fun _ more => ⟨rfl, both.2.mono more⟩

theorem twin_widthIn (style : Format.Style) (same : terms.SameSupply bond supply supply') (text : Text) :
    terms.Twin bond terms.SameProgress (widthIn style supply text) (widthIn style supply' text) := by
  unfold widthIn
  split
  · refine (twin_countGiven _ _ same).bind fun later grown (count, supply) (count', supply') both => ?_
    obtain ⟨rfl, same⟩ := both
    dsimp only
    split
    · exact twin_progress _ same _
    · exact twin_progress _ same _
  · split
    · dsimp only
      split
      · exact twin_raiseText _ _
      · exact twin_progress _ same _
    · exact twin_progress _ same _
  · exact twin_progress _ same _

theorem twin_precisionIn (style : Format.Style) (same : terms.SameSupply bond supply supply') (text : Text) :
    terms.Twin bond terms.SameProgress (precisionIn style supply text) (precisionIn style supply' text) := by
  unfold precisionIn
  split
  · refine (twin_countGiven _ _ same).bind fun later grown (count, supply) (count', supply') both => ?_
    obtain ⟨rfl, same⟩ := both
    exact twin_progress _ same _
  · dsimp only
    split
    · exact twin_raiseText _ _
    · exact twin_progress _ same _
  · exact twin_progress _ same _

theorem twin_numberText (style : Format.Style) (conversion : Char) (same : terms.Same bond value value') :
    terms.Twin bond Equal (numberText style conversion value) (numberText style conversion value') := by
  unfold numberText
  rw [toInt?_same same]
  split
  · split
    · exact twin_equal _
    · exact twin_raiseText _ _
  · split
    · exact twin_equal _
    · split
      · exact twin_equal _
      · exact twin_raiseUnshowable _
  · exact twin_raiseAbout same _ _
  · exact twin_raiseAbout same _ _

theorem twin_characterText (same : terms.Same bond value value') :
    terms.Twin bond Equal (characterText value) (characterText value') := by
  have number := toInt?_same same
  unfold characterText
  rw [number]
  cases found : value.toInt? with
  | some number =>
      dsimp only
      split
      · exact twin_equal _
      · exact twin_raiseText _ _
  | none =>
      cases same with
      | text _ _ content =>
          rcases content with _ | ⟨char, _ | ⟨next, content⟩⟩
          · exact twin_raiseText _ _
          · exact twin_equal _
          · exact twin_raiseText _ _
      | _ => exact twin_raiseText _ _

theorem contentOf_same (same : terms.Same bond value value') : contentOf value' = contentOf value := by
  cases same <;> rfl

theorem twin_textIn (calls : terms.TwinCalls bond call call') (same : terms.Same bond value value') :
    terms.Twin bond Equal (do return contentOf (← call (.builtin .text) [value]))
      (do return contentOf (← call' (.builtin .text) [value'])) :=
  (calls _ le_rfl (.builtin .text) (.cons same .nil)).bind fun _ _ _ _ same => contentOf_same same ▸ twin_equal _

theorem twin_converted (calls : terms.TwinCalls bond call call') (style : Format.Style) (conversion : Char) (place : Nat)
    (same : terms.Same bond value value') :
    terms.Twin bond Equal (converted call style conversion place value)
      (converted call' style conversion place value') := by
  unfold converted
  split
  · exact twin_textIn calls same
  · split
    · exact twin_shown same
    · split
      · refine (twin_shown same).bind fun _ _ text _ equal => ?_
        subst equal
        exact twin_equal _
      · split
        · exact twin_characterText same
        · split
          · exact twin_numberText style conversion same
          · exact twin_raiseText _ _

theorem twin_fillStyled (calls : terms.TwinCalls bond call call') (length : Nat) (style : Format.Style)
    (same : terms.SameSupply bond supply supply') (text : Text) :
    terms.Twin bond terms.SameProgress (fillStyled call length style supply text)
      (fillStyled call' length style supply' text) := by
  refine (twin_widthIn style same text).bind fun later grown (style, supply, text) (style', supply', text') both => ?_
  obtain ⟨rfl, same, rfl⟩ := both
  refine (twin_precisionIn style same text).bind fun later' more (style, supply, text) (style', supply', text') both => ?_
  obtain ⟨rfl, same, rfl⟩ := both
  dsimp only
  split
  · exact twin_raiseText _ _
  · refine (twin_nextArgument same).bind fun later'' further (value, supply) (value', supply') both => ?_
    obtain ⟨same, left⟩ := both
    refine (twin_converted (calls.mono ((grown.trans more).trans further)) style _ _ same).bind
      fun last end' written _ equal => ?_
    subst equal
    split
    · exact twin_raise _ .nil
    · exact twin_progress _ (left.mono end') _

theorem twin_raiseUnfilled : terms.Twin bond good raiseUnfilled raiseUnfilled := twin_raiseText _ _

/-- Whether looking up what an index means does the same. -/
def TwinItems (terms : Terms) (item : Value → Value → Effect Value) : Prop :=
  ∀ {bond : Bond} {container container' index index' : Value}, terms.Same bond container container' →
    terms.Same bond index index' → terms.Twin bond terms.Same (item container index) (item container' index')

/-- Whether the same was filled in, what is left is the same, and so is the text that is left. -/
abbrev SameFilling (terms : Terms) (bond : Bond) (found found' : Text × Format.Source × Text) : Prop :=
  found.1 = found'.1 ∧ terms.SameSource bond found.2.1 found'.2.1 ∧ found.2.2 = found'.2.2

theorem twin_fillWith (calls : terms.TwinCalls bond call call') (length : Nat) (style : Format.Style)
    {mapping mapping' : Option Value} (mapped : terms.SameIfAny bond mapping mapping')
    (same : terms.SameSupply bond supply supply') (text : Text) :
    terms.Twin bond terms.SameFilling
      (do
        let (written, supply, text) ← fillStyled call length style supply text
        if mapping.isSome && supply.isLeft then raiseUnfilled else return (written, ⟨mapping, supply⟩, text))
      (do
        let (written, supply, text) ← fillStyled call' length style supply' text
        if mapping'.isSome && supply.isLeft then raiseUnfilled else return (written, ⟨mapping', supply⟩, text)) := by
  refine (twin_fillStyled calls length style same text).bind
    fun later grown (written, supply, text) (written', supply', text') both => ?_
  obtain ⟨rfl, same, rfl⟩ := both
  dsimp only
  rw [isSome_same mapped, same.isLeft]
  split
  · exact twin_raiseUnfilled
  · exact twin_pure fun _ more =>
      ⟨rfl, ⟨rel_imp (fun _ _ same => same.mono (grown.trans more)) mapped, same.mono more⟩, rfl⟩

theorem twin_fillPlace (calls : terms.TwinCalls bond call call') {item : Value → Value → Effect Value}
    (items : terms.TwinItems item) (length : Nat) {source source' : Format.Source}
    (same : terms.SameSource bond source source') (text : Text) :
    terms.Twin bond terms.SameFilling (fillPlace call item length source text)
      (fillPlace call' item length source' text) := by
  have never {β γ : Type} {fine : Bond → γ → γ → Prop} (kind : ErrorKind) (message : Text) (next next' : β → Effect γ) :
      terms.Twin bond fine (raiseText kind message >>= next) (raiseText kind message >>= next') :=
    (@twin_raiseText terms bond β (fun _ _ _ => False) kind message).bind fun _ _ _ _ => False.elim
  obtain ⟨mapping, supply⟩ := source
  obtain ⟨mapping', supply'⟩ := source'
  obtain ⟨mapped, left⟩ := same
  unfold fillPlace
  dsimp only at mapped left ⊢
  split
  · cases mapped with
    | none => exact never _ _ _ _
    | @some mapping mapping' mapped =>
        dsimp only
        split
        · exact never _ _ _ _
        · refine (twin_newText _).bind fun later grown key key' same => ?_
          refine (items (mapped.mono grown) same).bind fun later' more content content' held => ?_
          have further := grown.trans more
          exact twin_fillWith (calls.mono further) length _ (.some (mapped.mono further)) (.single held) _
  · exact twin_fillWith calls length _ mapped left _

theorem twin_fillFrom (calls : terms.TwinCalls bond call call') {item : Value → Value → Effect Value}
    (items : terms.TwinItems item) (length steps : Nat) {source source' : Format.Source}
    (same : terms.SameSource bond source source') (done text : Text) :
    terms.Twin bond (fun later found found' => found.1 = found'.1 ∧ terms.SameSource later found.2 found'.2)
      (fillFrom call item length steps source done text) (fillFrom call' item length steps source' done text) := by
  induction steps generalizing bond source source' done text with
  | zero => exact twin_pure fun _ grown => ⟨rfl, same.mono grown⟩
  | succ steps ih =>
      unfold fillFrom
      split
      · exact twin_pure fun _ grown => ⟨rfl, same.mono grown⟩
      · exact ih calls same _ _
      · refine (twin_fillPlace calls items length same _).bind
          fun later grown (written, source, text) (written', source', text') both => ?_
        obtain ⟨rfl, same, rfl⟩ := both
        exact ih (calls.mono grown) same _ _
      · exact ih calls same _ _

theorem twin_filled (calls : terms.TwinCalls bond call call') {item : Value → Value → Effect Value}
    (items : terms.TwinItems item) (content : Text) (same : terms.Same bond right right') :
    terms.Twin bond terms.Same (filled call item content right) (filled call' item content right') := by
  refine twin_read fun later grown world world' matched => ?_
  have same := same.mono grown
  have list := isSome_same (itemsOf?_same matched same)
  have dict := isSome_same (entriesOf?_same matched same)
  rw [list, dict]
  refine (twin_fillFrom (calls.mono grown) items _ _ ⟨?_, ?_⟩ _ _).bind
    fun later' more (text, source) (text', source') both => ?_
  · cases same with
    | range kept start stop step => exact .some (.range kept start stop step)
    | object pair =>
        dsimp only
        split
        · exact .some (.object pair)
        · exact .none
    | _ => exact .none
  · cases same with
    | tuple _ each => exact .several (allSame_iff.mp each)
    | _ => exact .single (by constructor <;> assumption)
  · obtain ⟨rfl, left⟩ := both
    dsimp only
    have mapped := isSome_same left.mapping
    rw [← Option.not_isSome, ← Option.not_isSome, mapped, left.supply.isLeft]
    split
    · exact twin_raiseUnfilled
    · exact twin_newText _

/-! ## Arithmetic and containers -/

theorem twin_raiseBetween (symbol : Text) (same : terms.Same bond left left') (same' : terms.Same bond right right') :
    terms.Twin bond good (raiseBetween symbol left right) (raiseBetween symbol left' right') := by
  refine twin_read fun later grown world world' matched => ?_
  rw [typeName_same matched (same.mono grown), typeName_same matched (same'.mono grown)]
  exact twin_raiseText _ _

theorem twin_raiseUnjoined (sequence : Text) (same : terms.Same bond right right') :
    terms.Twin bond good (raiseUnjoined sequence right) (raiseUnjoined sequence right') :=
  twin_raiseAbout same _ _

theorem twin_untrusted (same : terms.Same bond value value') :
    terms.Twin bond terms.Same (untrusted value) (untrusted value') := by
  cases same with
  | text kept trusted content =>
      cases trusted with
      | true => exact twin_newText content
      | false => exact twin_value (.text kept false content)
  | _ => exact twin_value (by constructor <;> assumption)

theorem twin_concatenateTexts {own own' other other' : Nat} (kept : bond.identities own own') (trusted : Bool)
    (content : Text) (kept' : bond.identities other other') (trusted' : Bool) (content' : Text) :
    terms.Twin bond terms.Same (concatenateTexts (.text own trusted content) (.text other trusted' content'))
      (concatenateTexts (.text own' trusted content) (.text other' trusted' content')) := by
  unfold concatenateTexts
  cases trusted with
  | true =>
      cases trusted' with
      | true => exact twin_newText _
      | false =>
          cases content' with
          | nil => exact twin_untrusted (.text kept true content)
          | cons => exact twin_newText _
  | false =>
      cases content with
      | nil => exact twin_untrusted (.text kept' trusted' content')
      | cons char content =>
          cases trusted' with
          | true => exact twin_newText _
          | false =>
              cases content' with
              | nil => exact twin_untrusted (.text kept false (char :: content))
              | cons => exact twin_newText _

theorem twin_concatenate (symbol : Text) (same : terms.Same bond left left') (same' : terms.Same bond right right') :
    terms.Twin bond terms.Same (concatenate symbol left right) (concatenate symbol left' right') := by
  refine twin_read fun later grown world world' matched => ?_
  have first := same.mono grown
  have second := same'.mono grown
  have items := itemsOf?_same matched first
  have items' := itemsOf?_same matched second
  clear same same'
  cases first with
  | text kept trusted content =>
      cases second with
      | text kept' trusted' content' => exact twin_concatenateTexts kept trusted content kept' trusted' content'
      | _ => exact twin_raiseUnjoined _ (by constructor <;> assumption)
  | tuple kept each =>
      cases second with
      | tuple kept' each' =>
          cases each with
          | nil => exact twin_value (.tuple kept' each')
          | cons same each =>
              cases each' with
              | nil => exact twin_value (.tuple kept (.cons same each))
              | cons same' each' =>
                  exact twin_newTuple (List.rel_append (allSame_iff.mp (.cons same each))
                    (allSame_iff.mp (.cons same' each')))
      | _ => cases each <;> exact twin_raiseUnjoined _ (by constructor <;> assumption)
  | object pair =>
      revert items
      dsimp only
      generalize world.itemsOf? (.object _) = found, world'.itemsOf? (.object _) = found'
      intro items
      cases items with
      | none => exact twin_raiseBetween symbol (.object pair) second
      | some each =>
          cases second with
          | object pair' =>
              revert items'
              dsimp only
              generalize world.itemsOf? (.object _) = other, world'.itemsOf? (.object _) = other'
              intro items'
              cases items' with
              | none => exact twin_raiseUnjoined _ (.object pair')
              | some each' => exact twin_newList (List.rel_append each each')
          | _ => exact twin_raiseUnjoined _ (by constructor <;> assumption)
  | _ => exact twin_raiseBetween symbol (by constructor <;> assumption) second

theorem replicate_same {R : α → α → Prop} {items items' : List α} (each : List.Forall₂ R items items') (count : Nat) :
    List.Forall₂ R (List.replicate count items).flatten (List.replicate count items').flatten := by
  induction count with
  | zero => exact .nil
  | succ count ih =>
      rw [List.replicate_succ, List.replicate_succ, List.flatten_cons, List.flatten_cons]
      exact List.rel_append each ih

theorem twin_replicated (count : Int) {R : Bond → α → α → Prop}
    (kept : ∀ later later' value value', later ≤ later' → R later value value' → R later' value value')
    {items items' : List α} (each : List.Forall₂ (R bond) items items') :
    terms.Twin bond (fun later => List.Forall₂ (R later)) (replicated count items) (replicated count items') := by
  unfold replicated
  rw [show items'.isEmpty = items.isEmpty by cases each <;> rfl, each.length_eq]
  split
  · exact twin_pure fun _ _ => .nil
  · split
    · exact twin_raise _ .nil
    · exact twin_pure fun later grown => (replicate_same each _).imp fun _ _ => kept _ _ _ _ grown

theorem twin_replicatedText (count : Int) (content : Text) :
    terms.Twin bond Equal (replicated count content) (replicated count content) :=
  (twin_replicated (R := fun _ => Eq) count (fun _ _ _ _ _ => id) (List.forall₂_eq_eq_eq ▸ rfl)).weaken
    fun _ _ _ each => by rwa [List.forall₂_eq_eq_eq] at each

theorem twin_raiseUnfit (kind : ErrorKind) (same : terms.Same bond value value') :
    terms.Twin bond good (raiseUnfit kind value) (raiseUnfit kind value') := by
  refine twin_read fun later grown world world' matched => ?_
  rw [typeName_same matched (same.mono grown)]
  exact twin_raiseText _ _

theorem twin_repetitionCount (same : terms.Same bond value value') :
    terms.Twin bond Equal (repetitionCount value) (repetitionCount value') := by
  unfold repetitionCount
  rw [toInt?_same same]
  split
  · split
    · exact twin_equal _
    · exact twin_raiseUnfit _ same
  · exact twin_raiseAbout same _ _

theorem twin_repeatedItems (count : Int) {items items' : List Value} (each : terms.Sames bond items items') :
    terms.Twin bond terms.Sames (replicated count items) (replicated count items') :=
  twin_replicated count (fun _ _ _ _ grown same => same.mono grown) each

theorem itemsOr_same {items items' : Option (List Value)} (alike : Option.Rel (terms.Sames bond) items items') :
    terms.Sames bond (items.getD []) (items'.getD []) := by
  cases alike with
  | none => exact .nil
  | some each => exact each

theorem twin_repeated {count count' : Value} (number : terms.Same bond count count') (same : terms.Same bond value value') :
    terms.Twin bond terms.Same (Effect.repeated count value) (Effect.repeated count' value') := by
  refine (twin_repetitionCount number).bind fun later grown number _ equal => ?_
  subst equal
  refine twin_read fun later' more world world' matched => ?_
  have held := same.mono (grown.trans more)
  have items := itemsOr_same (itemsOf?_same matched held)
  clear same
  cases held with
  | text kept trusted content =>
      dsimp only
      split
      · exact twin_value (.text kept trusted content)
      · split
        · exact twin_raiseText _ _
        · refine (twin_replicatedText _ _).bind fun _ _ text _ equal => ?_
          subst equal
          exact twin_newText _
  | tuple kept each =>
      have list := allSame_iff.mp each
      dsimp only
      rw [sames_isEmpty list]
      split
      · exact twin_value (.tuple kept each)
      · exact (twin_repeatedItems _ list).bind fun _ _ _ _ each => twin_newTuple each
  | _ => exact (twin_repeatedItems _ items).bind fun _ _ _ _ each => twin_newList each

theorem twin_repetition (symbol : Text) (same : terms.Same bond left left') (same' : terms.Same bond right right') :
    terms.Twin bond terms.Same (repetition symbol left right) (repetition symbol left' right') := by
  refine twin_read fun later grown world world' matched => ?_
  have first := same.mono grown
  have second := same'.mono grown
  rw [repeats_same matched first, repeats_same matched second]
  split
  · exact twin_repeated second first
  · split
    · exact twin_repeated first second
    · exact twin_raiseBetween symbol first second

theorem twin_calculated (operation : BinaryOp) (left right : Int) :
    terms.Twin bond terms.Same (calculated operation left right) (calculated operation left right) := by
  cases operation with
  | floorDivide | modulo =>
      delta calculated
      dsimp only
      split
      · exact twin_raiseText _ _
      · exact twin_newInt _
  | _ => exact twin_newInt _

theorem twin_checkKey (same : terms.Same bond value value') :
    terms.Twin bond Whatever (checkKey value) (checkKey value') := by
  refine twin_read fun later grown world world' matched => ?_
  rw [unhashable?_same matched _ (same.mono grown)]
  split
  · exact twin_raiseText _ _
  · exact twin_pure fun _ _ => trivial

theorem twin_decidedAlike (R : Bond → α → α → Prop)
    (kept : ∀ later later' value value', later ≤ later' → R later value value' → R later' value value')
    {answer answer' : Option α} (alike : Option.Rel (R bond) answer answer') :
    terms.Twin bond R (decided answer) (decided answer') := by
  cases alike with
  | none => exact twin_raiseText _ _
  | some same => exact twin_pure fun _ grown => kept _ _ _ _ grown same

theorem twin_lookUp {entries entries' : List (Value × Value)} (each : terms.SamePairs bond entries entries')
    (same : terms.Same bond value value') :
    terms.Twin bond terms.SameIfAny (lookUp entries value) (lookUp entries' value') := by
  refine (twin_checkKey same).bind fun later grown _ _ _ => twin_read fun later' more world world' matched => ?_
  have further := grown.trans more
  exact twin_decidedAlike terms.SameIfAny (fun _ _ _ _ grown alike => rel_imp (fun _ _ same => same.mono grown) alike)
    (underKey_same (same?_same matched) (same.mono further) (SamePairs.mono further each))

theorem twin_placeIn (length : Nat) {unfit unfit' : Effect Nat} (refused : terms.Twin bond Equal unfit unfit')
    (missing : Text) (same : terms.Same bond value value') :
    terms.Twin bond Equal (placeIn length unfit missing value) (placeIn length unfit' missing value') := by
  unfold placeIn
  rw [toInt?_same same]
  split
  · exact refused
  · split
    · exact twin_raiseUnfit _ same
    · split
      · exact twin_equal _
      · exact twin_raiseText _ _

theorem twin_placeInSequence (type subject : Text) (length : Nat) (same : terms.Same bond value value') :
    terms.Twin bond Equal (placeInSequence type subject length value) (placeInSequence type subject length value') :=
  twin_placeIn _ (twin_raiseAbout same _ _) _ same

theorem itemOr_same {items items' : List Value} (each : terms.Sames bond items items') (place : Nat) :
    terms.Same bond ((items[place]?).getD .none) ((items'[place]?).getD .none) := by
  have alike := getElem?_same each place
  generalize items[place]? = found, items'[place]? = found' at alike ⊢
  cases alike with
  | none => exact .none
  | some same => exact same

theorem twin_itemAt : terms.TwinItems itemAt := by
  intro bond container container' index index' same same'
  refine twin_read fun later grown world world' matched => ?_
  have held := same.mono grown
  have place := same'.mono grown
  clear same same'
  have refused (same : terms.Same later container container') : terms.Twin later terms.Same
      (raiseAbout container ['\''] "' object is not subscriptable")
      (raiseAbout container' ['\''] "' object is not subscriptable") :=
    twin_raiseAbout same _ _
  cases held with
  | text kept trusted content =>
      refine (twin_placeIn _ (twin_raiseAbout place _ _) _ place).bind fun _ _ found _ equal => ?_
      subst equal
      exact twin_newText _
  | tuple kept each =>
      have list := allSame_iff.mp each
      dsimp only
      rw [list.length_eq]
      refine (twin_placeInSequence _ _ _ place).bind fun _ more found _ equal => ?_
      subst equal
      exact twin_value ((itemOr_same list found).mono more)
  | range kept start stop step =>
      dsimp only
      rw [toInt?_same place]
      split
      · exact twin_raiseAbout place _ _
      · split
        · exact twin_newInt _
        · exact twin_raiseText _ _
  | builtin function => cases function <;> first | exact twin_raiseText _ _ | exact refused (.builtin _)
  | kind => exact twin_raiseText _ _
  | object pair =>
      obtain ⟨object, object', there, there', alike⟩ := matched.objects pair
      dsimp only
      rw [there, there']
      cases alike with
      | @list items items' each =>
          have size := each.length_eq
          rw [Array.length_toList, Array.length_toList] at size
          dsimp only
          rw [size]
          refine (twin_placeInSequence _ _ _ place).bind fun _ more found _ equal => ?_
          subst equal
          have item := (itemOr_same each found).mono more
          rw [Array.getElem?_toList, Array.getElem?_toList] at item
          exact twin_value item
      | dict each =>
          refine (twin_lookUp each place).bind fun later' more found found' alike => ?_
          cases alike with
          | none => exact twin_raise _ (.cons (place.mono more) .nil)
          | some same => exact twin_value same
      | _ => exact refused (.object pair)
  | _ => exact refused (by constructor <;> assumption)

theorem setIfInBounds_same {items items' : Array Value} (each : terms.Sames bond items.toList items'.toList) (place : Nat)
    (same : terms.Same bond value value') :
    terms.Sames bond (items.setIfInBounds place value).toList (items'.setIfInBounds place value').toList := by
  rw [Array.toList_setIfInBounds, Array.toList_setIfInBounds]
  generalize items.toList = list, items'.toList = list' at each
  induction each generalizing place with
  | nil => exact .nil
  | cons first rest ih =>
      cases place with
      | zero => exact .cons same rest
      | succ place => exact .cons first (ih place)

theorem twin_putItemAt {container container' index index' : Value} (same : terms.Same bond container container')
    (same' : terms.Same bond index index') (new : terms.Same bond value value') :
    terms.Twin bond Whatever (putItemAt container index value) (putItemAt container' index' value') := by
  refine twin_read fun later grown world world' matched => ?_
  have held := same.mono grown
  have place := same'.mono grown
  have new := new.mono grown
  clear same same'
  have refused (same : terms.Same later container container') : terms.Twin later Whatever
      (raiseAbout container ['\''] "' object does not support item assignment" : Effect Unit)
      (raiseAbout container' ['\''] "' object does not support item assignment") :=
    twin_raiseAbout same _ _
  cases held with
  | object pair =>
      obtain ⟨object, object', there, there', alike⟩ := matched.objects pair
      dsimp only
      rw [there, there']
      cases alike with
      | @list items items' each =>
          have size := each.length_eq
          rw [Array.length_toList, Array.length_toList] at size
          dsimp only
          rw [size]
          refine (twin_placeInSequence _ _ _ place).bind fun _ more found _ equal => ?_
          subst equal
          exact twin_store (more.objects pair)
            (.list (setIfInBounds_same (Sames.mono more each) found (new.mono more)))
      | dict each =>
          refine (twin_checkKey place).bind fun later' more _ _ _ => ?_
          have put := putKey?_same matched place new each
          refine (twin_decidedAlike terms.SamePairs (fun _ _ _ _ grown each => SamePairs.mono grown each)
            (rel_imp (fun _ _ each => SamePairs.mono more each) put)).bind fun later'' further entries entries' each => ?_
          exact twin_store ((more.trans further).objects pair) (.dict each)
      | _ => exact refused (.object pair)
  | _ => exact refused (by constructor <;> assumption)

theorem twin_arithmetic (calls : terms.TwinCalls bond call call') (operation : BinaryOp) (symbol : Text)
    (same : terms.Same bond left left') (same' : terms.Same bond right right') :
    terms.Twin bond terms.Same (arithmetic call operation symbol left right)
      (arithmetic call' operation symbol left' right') := by
  unfold arithmetic
  rw [toInt?_same same, toInt?_same same']
  split
  · exact twin_calculated _ _ _
  · cases operation with
    | add => exact twin_concatenate symbol same same'
    | multiply => exact twin_repetition symbol same same'
    | modulo =>
        cases same with
        | text _ _ content => exact twin_filled calls twin_itemAt content same'
        | _ => exact twin_raiseBetween symbol (by constructor <;> assumption) same'
    | _ => exact twin_raiseBetween symbol same same'

theorem twin_binary (calls : terms.TwinCalls bond call call') (operation : BinaryOp)
    (same : terms.Same bond left left') (same' : terms.Same bond right right') :
    terms.Twin bond terms.Same (binary call operation left right) (binary call' operation left' right') :=
  twin_arithmetic calls operation _ same same'

theorem twin_append {list list' : Nat} (pair : bond.objects list list') (same : terms.Same bond value value') :
    terms.Twin bond Whatever (append list value) (append list' value') := by
  refine twin_modify pair fun later grown object object' alike => ?_
  cases alike with
  | list each =>
      refine .list ?_
      rw [Array.toList_push, Array.toList_push]
      exact List.rel_append each (.cons (same.mono grown) .nil)
  | _ => constructor <;> assumption

theorem twin_appendAll {list list' : Nat} (pair : bond.objects list list') {values values' : List Value}
    (each : terms.Sames bond values values') :
    terms.Twin bond Whatever (appendAll list values) (appendAll list' values') := by
  refine twin_modify pair fun later grown object object' alike => ?_
  cases alike with
  | list own =>
      refine .list ?_
      simpa using List.rel_append own (Sames.mono grown each)
  | _ => constructor <;> assumption

theorem twin_extend (calls : terms.TwinCalls bond call call') {list list' : Nat} (pair : bond.objects list list')
    (same : terms.Same bond value value') :
    terms.Twin bond Whatever (extend call list value) (extend call' list' value') := by
  refine twin_read fun later grown world world' matched => ?_
  have values := valuesOf?_same matched (same.mono grown)
  have iterator := iterator?_same matched (same.mono grown)
  generalize world.valuesOf? value = found, world'.valuesOf? value' = found' at values ⊢
  generalize world.iterator? value = place, world'.iterator? value' = place' at iterator ⊢
  cases values with
  | some each => exact twin_appendAll (grown.objects pair) each
  | none =>
      cases iterator with
      | none => exact twin_raiseAbout (same.mono grown) _ _
      | some source =>
          exact twin_foldValues Whatever (calls.mono grown) (fun _ _ _ _ _ => id) source
            (fun later' more _ _ _ _ _ same => twin_append ((grown.trans more).objects pair) same) trivial

theorem twin_updated (calls : terms.TwinCalls bond call call') (operation : BinaryOp)
    (same : terms.Same bond left left') (same' : terms.Same bond right right') :
    terms.Twin bond terms.Same (updated call operation left right) (updated call' operation left' right') := by
  refine twin_read fun later grown world world' matched => ?_
  have held := same.mono grown
  have other := same'.mono grown
  have calls := calls.mono grown
  have items := itemsOf?_same matched held
  have holds := holdsOthers_same matched held
  have repeats := repeats_same matched held
  clear same same'
  have plain (operation : BinaryOp) := twin_arithmetic calls operation (operation.symbol ++ ['=']) held other
  have multiplied : terms.Twin later terms.Same
      (if world.holdsOthers left && !world.repeats left then raiseBetween (BinaryOp.multiply.symbol ++ ['=']) left right
        else arithmetic call .multiply (BinaryOp.multiply.symbol ++ ['=']) left right)
      (if world'.holdsOthers left' && !world'.repeats left' then
          raiseBetween (BinaryOp.multiply.symbol ++ ['=']) left' right'
        else arithmetic call' .multiply (BinaryOp.multiply.symbol ++ ['=']) left' right') := by
    rw [holds, repeats]
    split
    · exact twin_raiseBetween _ held other
    · exact plain .multiply
  cases operation with
  | add =>
      cases held with
      | object pair =>
          revert items
          dsimp only
          generalize world.itemsOf? (.object _) = found, world'.itemsOf? (.object _) = found'
          intro items
          cases items with
          | none => exact plain .add
          | some =>
              exact (twin_extend calls pair other).bind fun _ more _ _ _ => twin_value (.object (more.objects pair))
      | _ => exact plain .add
  | multiply =>
      cases held with
      | object pair =>
          revert items
          dsimp only
          generalize world.itemsOf? (.object _) = found, world'.itemsOf? (.object _) = found'
          intro items
          cases items with
          | none => exact multiplied
          | some each =>
              refine (twin_repetitionCount other).bind fun later' more number _ equal => ?_
              subst equal
              refine (twin_repeatedItems _ (Sames.mono more each)).bind fun later'' further list list' each => ?_
              refine (twin_store ((more.trans further).objects pair) (.list (by simpa using each))).bind
                fun _ last _ _ _ => ?_
              exact twin_value (.object (((more.trans further).trans last).objects pair))
      | _ => exact multiplied
  | _ => exact plain _

theorem twin_negative (same : terms.Same bond value value') :
    terms.Twin bond terms.Same (negative value) (negative value') := by
  unfold negative
  rw [toInt?_same same]
  split
  · exact twin_newInt _
  · exact twin_raiseAbout same _ _

theorem twin_containsPair {entries entries' : List (Value × Value)} (each : terms.SamePairs bond entries entries')
    (same : terms.Same bond value value') :
    terms.Twin bond Equal (containsPair entries value) (containsPair entries' value') := by
  have none : terms.Twin bond Equal (pure false) (pure false) := twin_equal false
  cases same with
  | tuple _ items =>
      cases items with
      | nil => exact none
      | cons key items =>
          cases items with
          | nil => exact none
          | cons content items =>
              cases items with
              | cons => exact none
              | nil =>
                  refine (twin_lookUp each key).bind fun later grown found found' alike => ?_
                  cases alike with
                  | none => exact twin_equal false
                  | some same => exact twin_areEqual same (content.mono grown)
  | _ => exact none

theorem twin_gives (calls : terms.TwinCalls bond call call') {iterator iterator' : Nat}
    (pair : bond.objects iterator iterator') (same : terms.Same bond value value') :
    terms.Twin bond Equal (gives call iterator value) (gives call' iterator' value') :=
  twin_foldIterator Equal calls (fun _ _ _ _ _ => id) pair (fun _ _ _ equal => by rw [equal])
    (fun _ grown _ _ _ _ _ other => twin_areEqual other (same.mono grown)) _ rfl

theorem twin_contains (calls : terms.TwinCalls bond call call') (same : terms.Same bond value value')
    {container container' : Value} (same' : terms.Same bond container container') :
    terms.Twin bond Equal (contains call value container) (contains call' value' container') := by
  refine twin_read fun later grown world world' matched => ?_
  have part := same.mono grown
  have whole := same'.mono grown
  have calls := calls.mono grown
  have entries := entriesOf?_same matched whole
  have viewed := viewedEntries?_same matched whole
  have values := valuesOf?_same matched whole
  have iterator := iterator?_same matched whole
  have among {others others' : List Value} (each : terms.Sames later others others') :=
    among?_same matched part each
  clear same same'
  cases whole with
  | text _ _ content =>
      cases part with
      | text => exact twin_equal _
      | _ => exact twin_raiseAbout (by constructor <;> assumption) _ _
  | range _ start stop step =>
      dsimp only
      rw [toInt?_same part]
      split
      · exact twin_equal _
      · exact twin_equal _
  | _ =>
      dsimp only
      generalize world.entriesOf? _ = a, world'.entriesOf? _ = a' at entries ⊢
      generalize world.viewedEntries? _ = b, world'.viewedEntries? _ = b' at viewed ⊢
      generalize world.valuesOf? _ = c, world'.valuesOf? _ = c' at values ⊢
      generalize world.iterator? _ = d, world'.iterator? _ = d' at iterator ⊢
      cases entries with
      | some each =>
          refine (twin_lookUp each part).bind fun _ _ found found' alike => ?_
          rw [isSome_same alike]
          exact twin_equal _
      | none =>
          cases viewed with
          | some each => exact twin_containsPair each part
          | none =>
              cases values with
              | some each =>
                  dsimp only
                  rw [among each]
                  exact twin_decided _
              | none =>
                  cases iterator with
                  | none => exact twin_raiseAbout (by constructor <;> assumption) _ _
                  | some pair => exact twin_gives calls pair part

theorem twin_compared (calls : terms.TwinCalls bond call call') (comparison : Comparison)
    (same : terms.Same bond left left') (same' : terms.Same bond right right') :
    terms.Twin bond Equal (compared call comparison left right) (compared call' comparison left' right') := by
  refine twin_read fun later grown world world' matched => ?_
  have first := same.mono grown
  have second := same'.mono grown
  have calls := calls.mono grown
  clear same same'
  have opposite {answer answer' : Effect Bool} (twin : terms.Twin later Equal answer answer') :
      terms.Twin later Equal (do return !(← answer)) (do return !(← answer')) := by
    refine twin.bind fun _ _ found _ equal => ?_
    subst equal
    exact twin_equal _
  have answer := ordered_same matched comparison World.comparisonDepth first second
  cases comparison with
  | equal => exact twin_areEqual first second
  | unequal => exact opposite (twin_areEqual first second)
  | same => exact identical_same first second ▸ twin_equal _
  | notSame =>
      dsimp only
      rw [identical_same first second]
      exact twin_equal _
  | isIn => exact twin_contains calls first second
  | notIn => exact opposite (twin_contains calls first second)
  | _ =>
      dsimp only
      generalize world.ordered _ _ left right = found, world'.ordered _ _ left' right' = found' at answer ⊢
      cases answer with
      | ok equal =>
          subst equal
          exact twin_equal _
      | error fault =>
          cases fault with
          | tooDeep => exact twin_raiseText _ _
          | unordered one other =>
              dsimp only
              rw [typeName_same matched one, typeName_same matched other]
              exact twin_raiseText _ _

/-! ## Attributes and names -/

theorem twin_readSlot {slot slot' : Slot} (same : terms.SameSlot bond slot slot') :
    terms.Twin bond terms.Same (readSlot slot) (readSlot slot') := by
  cases same with
  | value same => exact twin_value same
  | operation same seen =>
      exact twin_newIdentity.bind fun _ grown _ _ pair => twin_value (.method pair (same.mono grown) seen)
  | failing kind each => exact twin_raise kind each

theorem twin_attributeAt (same : terms.Same bond value value') {name : Text} (seen : ¬ terms.unread name) :
    terms.Twin bond terms.Same (attributeAt value name) (attributeAt value' name) := by
  refine twin_read fun later grown world world' matched => ?_
  have held := same.mono grown
  have slot := slotOf?_same matched held seen
  rw [attributeMessage_same matched held]
  generalize world.slotOf? value name = found, world'.slotOf? value' name = found' at slot ⊢
  cases slot with
  | some same => exact twin_readSlot same
  | none =>
      exact twin_raiseNoting _ (.cons (.plain _) .nil) (.cons ⟨rfl, .plain name⟩ (.cons ⟨rfl, held⟩ .nil))

theorem twin_attributeIfAny (same : terms.Same bond value value') {name : Text} (seen : ¬ terms.unread name) :
    terms.Twin bond terms.SameIfAny (attributeIfAny value name) (attributeIfAny value' name) := by
  refine ((twin_attributeAt same seen).bind fun _ _ _ _ same => twin_someValue same).recover
    fun later grown error error' pair => twin_read fun later' more world world' matched => ?_
  rw [errorKind_same matched (more.objects pair)]
  split
  · exact twin_noValue
  · exact twin_failWith (more.objects pair)

theorem twin_putErrorAttribute (calls : terms.TwinCalls bond call call') {address address' : Nat}
    (pair : bond.objects address address') (name : Text) (same : terms.Same bond value value') :
    terms.Twin bond Whatever (putErrorAttribute call address name value) (putErrorAttribute call' address' name value') := by
  unfold putErrorAttribute
  split
  · refine (twin_valuesIn calls same).bind fun later grown arguments arguments' each => ?_
    exact twin_changeIncident (grown.objects pair) fun later' more incident incident' alike =>
      { alike with arguments := Sames.mono more each }
  · exact twin_changeIncident pair fun later grown incident incident' alike =>
      { alike with attributes := alike.attributes.put (same.mono grown) }

theorem twin_putAttributeAt (calls : terms.TwinCalls bond call call') (same : terms.Same bond value value') {name : Text}
    (seen : ¬ terms.unread name) {content content' : Value} (new : terms.Same bond content content') :
    terms.Twin bond Whatever (putAttributeAt call value name content) (putAttributeAt call' value' name content') := by
  refine twin_read fun later grown world world' matched => ?_
  have held := same.mono grown
  have new := new.mono grown
  clear same
  have message := fixedMessage_same matched held seen
  have refused : terms.Twin later Whatever
      (raiseText (world.fixedMessage value name).1 (world.fixedMessage value name).2 : Effect Unit)
      (raiseText (world'.fixedMessage value' name).1 (world'.fixedMessage value' name).2) := by
    rw [message]
    exact twin_raiseText _ _
  cases held with
  | object pair =>
      obtain ⟨object, object', there, there', alike⟩ := matched.objects pair
      dsimp only
      rw [there, there']
      cases alike with
      | context each => exact twin_store pair (.context (each.put (.value new)))
      | guest trusted shown each => exact twin_store pair (.guest trusted shown (each.put (.value new)))
      | member owner each => exact twin_store pair (.member owner (each.put (.value new)))
      | function same each => exact twin_store pair (.function same (each.put new))
      | error => exact twin_putErrorAttribute (calls.mono grown) pair name new
      | _ => exact refused
  | _ => exact refused

/-- Names that stand for the same are looked up alike. -/
theorem ends_nameIn {world world' : World} (matched : terms.Matched bond world world') {here here' : Activation}
    {name : Text}
    (found : Settled Eq (terms.Same bond) (world.valueOf here name) (world'.valueOf here' name)) :
    terms.Ends bond terms.Same world world' (nameIn here name world) (nameIn here' name world') := by
  rw [nameIn, nameIn, world_bind, world_bind]
  generalize world.valueOf here name = answer, world'.valueOf here' name = answer' at found ⊢
  cases found with
  | ok same => exact .done matched.rest same
  | error equal =>
      subst equal
      refine twin_raiseNoting _ (.cons (.plain _) .nil) ?_ bond le_rfl world world' matched
      split
      · exact .cons ⟨rfl, .plain name⟩ .nil
      · exact .nil

theorem twin_nameIn {inside : Bool} {here here' : Activation} (same : SameActivation inside bond here here') {name : Text}
    (free : ¬ (terms.reticence inside).hidden name) : terms.Twin bond terms.Same (nameIn here name) (nameIn here' name) :=
  fun _ grown _ _ matched => ends_nameIn matched (valueOf_same matched (same.mono grown) free)

end Terms
end Stencil
