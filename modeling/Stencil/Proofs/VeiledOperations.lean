import Stencil.Proofs.VeiledReads

/-!
# Operations behind a veil

Going through values, filling values into texts, and the operations on values are framed: they end in the same way
on both sides of the veil and leave what the routine keeps to itself as it was.
-/

namespace Stencil

open Effect

namespace Veil

variable {veil : Veil} {α : Type} {good : α → Prop} {value : Value} {call : Caller}

/-- Whether calls are framed. -/
def FramedCalls (veil : Veil) (call : Caller) : Prop :=
  ∀ (function : Value) (arguments : List Value), veil.Clear function → (∀ argument ∈ arguments, veil.Clear argument) →
    veil.Framed veil.Clear (call function arguments) (call function arguments)

/-- Whether no value of a list leads to the list of the routine. -/
abbrev Clears (veil : Veil) (values : List Value) : Prop := ∀ value ∈ values, veil.Clear value

/-- Whether a value that there may be does not lead to the list of the routine. -/
abbrev ClearIfAny (veil : Veil) (found : Option Value) : Prop := ∀ value ∈ found, veil.Clear value

/-! ## Comparing -/

theorem framed_decided {answer : Option α} (clear : ∀ value ∈ answer, good value) :
    veil.Framed good (decided answer) (decided answer) := by
  cases answer with
  | none => exact framed_raiseText _ _
  | some value => exact framed_pure (clear value rfl)

theorem framed_areEqual {left right : Value} (clear : veil.Clear left) (clear' : veil.Clear right) :
    veil.Framed (fun _ => True) (areEqual left right) (areEqual left right) := by
  refine framed_read fun world shut => ?_
  rw [same?_hide shut clear clear']
  exact framed_decided fun _ _ => trivial

/-! ## Going through values -/

theorem framed_raiseAbout (clear : veil.Clear value) (lead tail : Text) :
    veil.Framed good (raiseAbout value lead tail) (raiseAbout value lead tail) := by
  refine framed_read fun world shut => ?_
  rw [typeName_hide clear]
  exact framed_raiseText _ _

theorem framed_requireTextFor (subject : Text) (clear : veil.Clear value) :
    veil.Framed (fun _ => True) (requireTextFor subject value) (requireTextFor subject value) := by
  cases value with
  | text identity trusted content => exact framed_pure trivial
  | none => exact framed_raiseText _ _
  | _ => exact framed_raiseAbout clear _ _

theorem clear_iterator {passage : Passage} {finished : Bool} (clear : veil.ClearPassage passage) :
    veil.ClearContent (.iterator ⟨passage, finished⟩) := clear

theorem framed_iterate? (clear : veil.Clear value) :
    veil.Framed (fun found => ∀ address ∈ found, address ≠ veil.list) (iterate? value) (iterate? value) := by
  refine framed_read fun world shut => ?_
  rw [iterator?_hide clear, passageOver?_hide shut clear]
  split
  · rename_i found
    exact framed_pure (by rintro _ ⟨⟩; exact ne_of_iterator? clear found)
  · rename_i found
    refine (framed_allocate (clear_iterator (clear_passageOver? shut clear found))).bind fun _ apart => framed_pure ?_
    rintro _ ⟨⟩
    exact apart
  · exact framed_pure nofun

theorem framed_iterate (clear : veil.Clear value) :
    veil.Framed (· ≠ veil.list) (iterate value) (iterate value) := by
  refine (framed_iterate? clear).bind fun found apart => ?_
  cases found with
  | none => exact framed_raiseAbout clear _ _
  | some address => exact framed_pure (apart address rfl)

theorem framed_finish {address : Nat} (apart : address ≠ veil.list) {passage : Passage}
    (clear : veil.ClearPassage passage) :
    veil.Framed veil.ClearIfAny (finish address passage) (finish address passage) :=
  (framed_store apart (clear_iterator clear)).bind fun _ _ => framed_pure nofun

theorem framed_ask (calls : veil.FramedCalls call) {address : Nat} (apart : address ≠ veil.list) {passage : Passage}
    (clear : veil.ClearPassage passage) {function stop : Value} (first : veil.Clear function) (last : veil.Clear stop) :
    veil.Framed veil.ClearIfAny (ask call address passage function stop) (ask call address passage function stop) := by
  have given : veil.Framed veil.ClearIfAny
      (recover (do return some (← call function [])) fun error => do
        if (← Effect.world).errorKind error |>.isA .stopIteration then return none else failWith error)
      (recover (do return some (← call function [])) fun error => do
        if (← Effect.world).errorKind error |>.isA .stopIteration then return none else failWith error) := by
    refine ((calls function [] first nofun).bind fun value clear => framed_pure ?_).recover fun error other => ?_
    · rintro _ ⟨⟩
      exact clear
    · refine framed_read fun world shut => ?_
      rw [errorKind_hide other]
      split
      · exact framed_pure nofun
      · exact framed_failWith other
  refine given.bind fun given ofCall => ?_
  cases given with
  | none => exact framed_finish apart clear
  | some value =>
      refine (framed_areEqual last (ofCall value rfl)).bind fun same _ => ?_
      split
      · exact framed_finish apart clear
      · exact framed_pure ofCall

theorem framed_advance (calls : veil.FramedCalls call) {address : Nat} (apart : address ≠ veil.list) :
    veil.Framed veil.ClearIfAny (advance call address) (advance call address) := by
  refine framed_read fun world shut => ?_
  rw [objects_hide apart]
  split
  · rename_i passage there
    have clear : veil.ClearPassage passage := shut.objects address _ there
    have next := clear_round shut clear
    rw [round_hide clear]
    split
    · rename_i value rest step
      rw [step] at next
      refine (framed_store apart (clear_iterator next.2)).bind fun _ _ => framed_pure ?_
      rintro _ ⟨⟩
      exact next.1
    · exact framed_finish apart clear
    · exact framed_raiseText _ _
    · rename_i function stop step
      rw [step] at next
      exact framed_ask calls apart clear next.1 next.2
  · exact framed_pure nofun

theorem framed_foldIterator {σ : Type} (holds : σ → Prop) (calls : veil.FramedCalls call) {address : Nat}
    (apart : address ≠ veil.list) (wants : σ → Bool) {put : σ → Value → Effect σ}
    (puts : ∀ state value, holds state → veil.Clear value → veil.Framed holds (put state value) (put state value))
    (steps : Nat) {state : σ} (start : holds state) :
    veil.Framed holds (foldIterator call address wants put steps state)
      (foldIterator call address wants put steps state) := by
  induction steps generalizing state with
  | zero => exact framed_exhausted
  | succ steps ih =>
      unfold foldIterator
      split
      · refine (framed_advance calls apart).bind fun found clear => ?_
        cases found with
        | none => exact framed_pure start
        | some value => exact (puts state value start (clear value rfl)).bind fun _ next => ih next
      · exact framed_pure start

theorem framed_foldValues {σ : Type} (holds : σ → Prop) (calls : veil.FramedCalls call) {address : Nat}
    (apart : address ≠ veil.list) {put : σ → Value → Effect σ}
    (puts : ∀ state value, holds state → veil.Clear value → veil.Framed holds (put state value) (put state value))
    {state : σ} (start : holds state) :
    veil.Framed holds (foldValues call address put state) (foldValues call address put state) :=
  framed_foldIterator holds calls apart _ puts _ start

theorem framed_drain (calls : veil.FramedCalls call) {address : Nat} (apart : address ≠ veil.list) :
    veil.Framed veil.Clears (drain call address) (drain call address) := by
  refine (framed_foldValues veil.Clears calls apart (fun values value clear clear' => framed_pure ?_)
    (List.forall_mem_nil _)).bind fun gathered clear => framed_pure ?_
  · exact List.forall_mem_cons.mpr ⟨clear', clear⟩
  · exact fun value member => clear value (List.mem_reverse.mp member)

theorem framed_valuesIn? (calls : veil.FramedCalls call) (clear : veil.Clear value) :
    veil.Framed (fun found => ∀ values ∈ found, veil.Clears values) (valuesIn? call value) (valuesIn? call value) := by
  refine framed_read fun world shut => ?_
  rw [valuesOf?_hide shut clear, iterator?_hide clear]
  split
  · rename_i found
    exact framed_pure (by rintro _ ⟨⟩; exact clear_valuesOf? shut clear found)
  · rename_i found
    refine (framed_drain calls (ne_of_iterator? clear found)).bind fun values clear => framed_pure ?_
    rintro _ ⟨⟩
    exact clear
  · exact framed_pure nofun

theorem framed_valuesIn (calls : veil.FramedCalls call) (clear : veil.Clear value) :
    veil.Framed veil.Clears (valuesIn call value) (valuesIn call value) := by
  refine (framed_valuesIn? calls clear).bind fun found clear' => ?_
  cases found with
  | none => exact framed_raiseAbout clear _ _
  | some values => exact framed_pure (clear' values rfl)

theorem framed_unpack (calls : veil.FramedCalls call) (count : Nat) (clear : veil.Clear value) :
    veil.Framed veil.Clears (unpack call count value) (unpack call count value) := by
  refine (framed_iterate? clear).bind fun found apart => ?_
  cases found with
  | none => exact framed_raiseAbout clear _ _
  | some address =>
      refine (framed_foldIterator veil.Clears calls (apart address rfl) _
        (fun values value clear clear' => framed_pure (List.forall_mem_cons.mpr ⟨clear', clear⟩)) _
          (List.forall_mem_nil _)).bind
          fun gathered clear => ?_
      split
      · exact framed_pure fun value member => clear value (List.mem_reverse.mp member)
      · split
        · exact framed_raiseText _ _
        · exact framed_raiseText _ _

/-! ## Showing values -/

theorem framed_raiseUnshowable (reason : Unshowable) :
    veil.Framed good (raiseUnshowable reason) (raiseUnshowable reason) := by
  cases reason <;> exact framed_raiseText _ _

theorem framed_shown (clear : veil.Clear value) :
    veil.Framed (fun _ => True) (shown value) (shown value) := by
  refine framed_read fun world shut => ?_
  rw [shownWithin_hide shut _ _ clear]
  split
  · exact framed_pure trivial
  · exact framed_raiseUnshowable _

/-! ## Filling values into texts -/

/-- Whether the values that are still to be filled in do not lead to the list. -/
def ClearSupply (veil : Veil) : Format.Supply → Prop
  | .several values => veil.Clears values
  | .single value => veil.Clear value
  | .spent => True

/-- Whether the values that are filled in do not lead to the list. -/
structure ClearSource (veil : Veil) (source : Format.Source) : Prop where
  mapping : veil.ClearIfAny source.mapping
  supply : veil.ClearSupply source.supply

variable {supply : Format.Supply}

theorem framed_nextArgument (clear : veil.ClearSupply supply) :
    veil.Framed (fun found => veil.Clear found.1 ∧ veil.ClearSupply found.2) (nextArgument supply)
      (nextArgument supply) := by
  cases supply with
  | several values =>
      cases values with
      | nil => exact framed_raiseText _ _
      | cons value values => exact framed_pure (List.forall_mem_cons.mp clear)
  | single value => exact framed_pure ⟨clear, trivial⟩
  | spent => exact framed_raiseText _ _

theorem framed_countGiven (word : Text) (bound : Int) (clear : veil.ClearSupply supply) :
    veil.Framed (fun found => veil.ClearSupply found.2) (countGiven word bound supply)
      (countGiven word bound supply) := by
  refine (framed_nextArgument clear).bind fun (value, supply) clear => ?_
  dsimp only
  split
  · exact framed_raiseText _ _
  · split
    · exact framed_raiseText _ _
    · exact framed_pure clear.2

theorem framed_widthIn (style : Format.Style) (clear : veil.ClearSupply supply) (text : Text) :
    veil.Framed (fun found => veil.ClearSupply found.2.1) (widthIn style supply text) (widthIn style supply text) := by
  unfold widthIn
  split
  · refine (framed_countGiven _ _ clear).bind fun (count, supply) clear => ?_
    dsimp only
    split
    · exact framed_pure clear
    · exact framed_pure clear
  · split
    · dsimp only
      split
      · exact framed_raiseText _ _
      · exact framed_pure clear
    · exact framed_pure clear
  · exact framed_pure clear

theorem framed_precisionIn (style : Format.Style) (clear : veil.ClearSupply supply) (text : Text) :
    veil.Framed (fun found => veil.ClearSupply found.2.1) (precisionIn style supply text)
      (precisionIn style supply text) := by
  unfold precisionIn
  split
  · exact (framed_countGiven _ _ clear).bind fun (count, supply) clear => framed_pure clear
  · dsimp only
    split
    · exact framed_raiseText _ _
    · exact framed_pure clear
  · exact framed_pure clear

theorem framed_numberText (style : Format.Style) (conversion : Char) (clear : veil.Clear value) :
    veil.Framed (fun _ => True) (numberText style conversion value) (numberText style conversion value) := by
  unfold numberText
  split
  · split
    · exact framed_pure trivial
    · exact framed_raiseText _ _
  · split
    · exact framed_pure trivial
    · split
      · exact framed_pure trivial
      · exact framed_raiseUnshowable _
  · exact framed_raiseAbout clear _ _
  · exact framed_raiseAbout clear _ _

theorem framed_characterText (value : Value) :
    veil.Framed (fun _ => True) (characterText value) (characterText value) := by
  unfold characterText
  split
  · split
    · exact framed_pure trivial
    · exact framed_raiseText _ _
  · exact framed_pure trivial
  · exact framed_raiseText _ _

theorem framed_converted (calls : veil.FramedCalls call) (style : Format.Style) (conversion : Char) (place : Nat)
    (clear : veil.Clear value) :
    veil.Framed (fun _ => True) (converted call style conversion place value)
      (converted call style conversion place value) := by
  unfold converted
  split
  · exact (calls (.builtin .text) _ trivial (by simpa using clear)).bind fun _ _ => framed_pure trivial
  · split
    · exact framed_shown clear
    · split
      · exact (framed_shown clear).bind fun _ _ => framed_pure trivial
      · split
        · exact framed_characterText value
        · split
          · exact framed_numberText style conversion clear
          · exact framed_raiseText _ _

theorem framed_fillStyled (calls : veil.FramedCalls call) (length : Nat) (style : Format.Style)
    (clear : veil.ClearSupply supply) (text : Text) :
    veil.Framed (fun found => veil.ClearSupply found.2.1) (fillStyled call length style supply text)
      (fillStyled call length style supply text) := by
  refine (framed_widthIn style clear text).bind fun (style, supply, text) clear => ?_
  refine (framed_precisionIn style clear text).bind fun (style, supply, text) clear => ?_
  dsimp only
  split
  · exact framed_raiseText _ _
  · refine (framed_nextArgument clear).bind fun (value, supply) clear => ?_
    refine (framed_converted calls style _ _ clear.1).bind fun written _ => ?_
    split
    · exact framed_raise (List.forall_mem_nil _)
    · exact framed_pure clear.2

theorem framed_raiseUnfilled : veil.Framed good raiseUnfilled raiseUnfilled := framed_raiseText _ _

/-- Whether looking up what an index means is framed. -/
def FramedItems (veil : Veil) (item : Value → Value → Effect Value) : Prop :=
  ∀ (container index : Value), veil.Clear container → veil.Clear index →
    veil.Framed veil.Clear (item container index) (item container index)

theorem framed_fillWith (calls : veil.FramedCalls call) (length : Nat) (style : Format.Style) {mapping : Option Value}
    (mapped : veil.ClearIfAny mapping) (clear : veil.ClearSupply supply) (text : Text) :
    let filled : Effect (Text × Format.Source × Text) := do
      let (written, supply, text) ← fillStyled call length style supply text
      if mapping.isSome && supply.isLeft then raiseUnfilled else return (written, ⟨mapping, supply⟩, text)
    veil.Framed (fun found => veil.ClearSource found.2.1) filled filled := by
  refine (framed_fillStyled calls length style clear text).bind fun (written, supply, text) clear => ?_
  dsimp only
  split
  · exact framed_raiseUnfilled
  · exact framed_pure ⟨mapped, clear⟩

theorem framed_fillPlace (calls : veil.FramedCalls call) {item : Value → Value → Effect Value}
    (items : veil.FramedItems item) (length : Nat) {source : Format.Source} (clear : veil.ClearSource source)
    (text : Text) :
    veil.Framed (fun found => veil.ClearSource found.2.1) (fillPlace call item length source text)
      (fillPlace call item length source text) := by
  have never {β γ : Type} {fine : γ → Prop} (kind : ErrorKind) (message : Text) (next : β → Effect γ) :
      veil.Framed fine (raiseText kind message >>= next) (raiseText kind message >>= next) :=
    (@framed_raiseText veil β (fun _ => False) kind message).bind fun _ => False.elim
  unfold fillPlace
  dsimp only
  split
  · split
    · exact never _ _ _
    · rename_i mapping given
      split
      · exact never _ _ _
      · refine (framed_newText _).bind fun key clear' => (items mapping key (clear.mapping mapping given) clear').bind
          fun content clear' => ?_
        have single : veil.ClearSupply (.single content) := clear'
        exact framed_fillWith calls length _ clear.mapping single _
  · exact framed_fillWith calls length _ clear.mapping clear.supply _

theorem framed_fillFrom (calls : veil.FramedCalls call) {item : Value → Value → Effect Value}
    (items : veil.FramedItems item) (length steps : Nat) {source : Format.Source} (clear : veil.ClearSource source)
    (done text : Text) :
    veil.Framed (fun found => veil.ClearSource found.2) (fillFrom call item length steps source done text)
      (fillFrom call item length steps source done text) := by
  induction steps generalizing source done text with
  | zero => exact framed_pure clear
  | succ steps ih =>
      unfold fillFrom
      split
      · exact framed_pure clear
      · exact ih clear _ _
      · refine (framed_fillPlace calls items length clear _).bind fun (written, source, text) clear => ?_
        exact ih clear _ _
      · exact ih clear _ _

theorem framed_filled (calls : veil.FramedCalls call) {item : Value → Value → Effect Value}
    (items : veil.FramedItems item) (content : Text) {right : Value} (clear : veil.Clear right) :
    veil.Framed veil.Clear (filled call item content right) (filled call item content right) := by
  refine framed_read fun world shut => ?_
  rw [itemsOf?_hide clear, entriesOf?_hide clear]
  dsimp only
  refine (framed_fillFrom calls items _ _ ⟨?_, ?_⟩ _ _).bind fun (text, source) clear => ?_
  · dsimp only
    split
    · exact fun _ same => Option.some.inj same ▸ clear
    · split
      · exact fun _ same => Option.some.inj same ▸ clear
      · nofun
    · nofun
  · dsimp only
    split
    · exact clear_tuple.mp clear
    · exact clear
  · dsimp only
    split
    · exact framed_raiseUnfilled
    · exact framed_newText _

/-! ## Arithmetic and containers -/

theorem framed_raiseBetween (symbol : Text) {left right : Value} (clear : veil.Clear left) (clear' : veil.Clear right) :
    veil.Framed good (raiseBetween symbol left right) (raiseBetween symbol left right) := by
  refine framed_read fun world shut => ?_
  rw [typeName_hide clear, typeName_hide clear']
  exact framed_raiseText _ _

theorem framed_raiseUnjoined (sequence : Text) {right : Value} (clear : veil.Clear right) :
    veil.Framed good (raiseUnjoined sequence right) (raiseUnjoined sequence right) :=
  framed_raiseAbout clear _ _

theorem framed_untrusted (clear : veil.Clear value) : veil.Framed veil.Clear (untrusted value) (untrusted value) := by
  unfold untrusted
  split
  · exact framed_newText _
  · exact framed_pure clear

theorem framed_concatenateTexts {left right : Value} (clear : veil.Clear left) (clear' : veil.Clear right) :
    veil.Framed veil.Clear (concatenateTexts left right) (concatenateTexts left right) := by
  unfold concatenateTexts
  split
  · exact framed_untrusted clear'
  · exact framed_untrusted clear
  · exact framed_newText _

theorem framed_concatenate (symbol : Text) {left right : Value} (clear : veil.Clear left) (clear' : veil.Clear right) :
    veil.Framed veil.Clear (concatenate symbol left right) (concatenate symbol left right) := by
  refine framed_read fun world shut => ?_
  rw [itemsOf?_hide clear, itemsOf?_hide clear']
  split
  · exact framed_concatenateTexts clear clear'
  · exact framed_raiseUnjoined _ clear'
  · exact framed_pure clear'
  · exact framed_pure clear
  · exact framed_newTuple (List.forall_mem_append.mpr ⟨clear_tuple.mp clear, clear_tuple.mp clear'⟩)
  · exact framed_raiseUnjoined _ clear'
  · split
    · exact framed_raiseBetween symbol clear clear'
    · rename_i items _ there
      split
      · rename_i items' there'
        exact framed_newList (List.forall_mem_append.mpr
          ⟨clear_itemsOf? shut clear there, clear_itemsOf? shut clear' there'⟩)
      · exact framed_raiseUnjoined _ clear'
    · exact framed_raiseUnjoined _ clear'
  · exact framed_raiseBetween symbol clear clear'

theorem framed_replicated (count : Int) (items : List α) (each : ∀ item ∈ items, good item) :
    veil.Framed (fun found => ∀ item ∈ found, good item) (replicated count items) (replicated count items) := by
  unfold replicated
  split
  · exact framed_pure (List.forall_mem_nil _)
  · split
    · exact framed_raise (List.forall_mem_nil _)
    · refine framed_pure fun item member => ?_
      obtain ⟨copy, inside, member⟩ := List.mem_flatten.mp member
      exact each item (List.eq_of_mem_replicate inside ▸ member)

theorem framed_raiseUnfit (kind : ErrorKind) {number : Value} (clear : veil.Clear number) :
    veil.Framed good (raiseUnfit kind number) (raiseUnfit kind number) := by
  refine framed_read fun world shut => ?_
  rw [typeName_hide clear]
  exact framed_raiseText _ _

theorem framed_repetitionCount {count : Value} (clear : veil.Clear count) :
    veil.Framed (fun _ => True) (repetitionCount count) (repetitionCount count) := by
  unfold repetitionCount
  split
  · split
    · exact framed_pure trivial
    · exact framed_raiseUnfit _ clear
  · exact framed_raiseAbout clear _ _

theorem framed_repeated {count : Value} (clear : veil.Clear count) (clear' : veil.Clear value) :
    veil.Framed veil.Clear (Effect.repeated count value) (Effect.repeated count value) := by
  refine (framed_repetitionCount clear).bind fun number _ => framed_read fun world shut => ?_
  rw [itemsOf?_hide clear']
  split
  · split
    · exact framed_pure clear'
    · split
      · exact framed_raiseText _ _
      · exact (@framed_replicated veil _ (fun _ => True) _ _ fun _ _ => trivial).bind fun _ _ => framed_newText _
  · rename_i items
    split
    · exact framed_pure clear'
    · exact (framed_replicated _ _ (clear_tuple.mp clear')).bind fun _ each => framed_newTuple each
  · refine (framed_replicated _ _ ?_).bind fun _ each => framed_newList each
    cases there : world.itemsOf? value with
    | none => exact List.forall_mem_nil _
    | some items => exact clear_itemsOf? shut clear' there

theorem framed_repetition (symbol : Text) {left right : Value} (clear : veil.Clear left) (clear' : veil.Clear right) :
    veil.Framed veil.Clear (repetition symbol left right) (repetition symbol left right) := by
  refine framed_read fun world shut => ?_
  rw [repeats_hide clear, repeats_hide clear']
  split
  · exact framed_repeated clear' clear
  · split
    · exact framed_repeated clear clear'
    · exact framed_raiseBetween symbol clear clear'

theorem framed_calculated (operation : Script.BinaryOp) (left right : Int) :
    veil.Framed veil.Clear (calculated operation left right) (calculated operation left right) := by
  cases operation with
  | floorDivide | modulo =>
      delta calculated
      dsimp only
      split
      · exact framed_raiseText _ _
      · exact framed_newInt _
  | _ => exact framed_newInt _

theorem framed_checkKey {key : Value} (clear : veil.Clear key) :
    veil.Framed (fun _ => True) (checkKey key) (checkKey key) := by
  refine framed_read fun world shut => ?_
  rw [unhashable?_hide _ clear]
  split
  · exact framed_raiseText _ _
  · exact framed_pure trivial

theorem framed_lookUp {entries : List (Value × Value)} (pairs : veil.ClearPairs entries) {key : Value}
    (clear : veil.Clear key) :
    veil.Framed veil.ClearIfAny (lookUp entries key) (lookUp entries key) := by
  refine (framed_checkKey clear).bind fun _ _ => framed_read fun world shut => ?_
  rw [underKey_congr fun entry inside => same?_hide shut (pairs entry inside).1 clear]
  refine framed_decided ?_
  rintro _ same content rfl
  exact clear_underKey pairs same

theorem framed_placeIn (length : Nat) {unfit : Effect Nat} (refused : veil.Framed (fun _ => True) unfit unfit)
    (missing : Text) {index : Value} (clear : veil.Clear index) :
    veil.Framed (fun _ => True) (placeIn length unfit missing index) (placeIn length unfit missing index) := by
  unfold placeIn
  split
  · exact refused
  · split
    · exact framed_raiseUnfit _ clear
    · split
      · exact framed_pure trivial
      · exact framed_raiseText _ _

theorem framed_placeInSequence (type subject : Text) (length : Nat) {index : Value} (clear : veil.Clear index) :
    veil.Framed (fun _ => True) (placeInSequence type subject length index)
      (placeInSequence type subject length index) :=
  framed_placeIn _ (framed_raiseAbout clear _ _) _ clear

theorem framed_itemAt : veil.FramedItems itemAt := by
  intro container index clear clear'
  have subscript {value : Value} (clear : veil.Clear value) : veil.Framed veil.Clear
      (raiseAbout value ['\''] "' object is not subscriptable")
        (raiseAbout value ['\''] "' object is not subscriptable") :=
    framed_raiseAbout clear _ _
  refine framed_read fun world shut => ?_
  split
  · exact (framed_placeIn _ (framed_raiseAbout clear' _ _) _ clear').bind fun _ _ => framed_newText _
  · rename_i items
    refine (framed_placeInSequence _ _ _ clear').bind fun place _ => framed_pure ?_
    cases found : items[place]? with
    | none => trivial
    | some item => exact clear_tuple.mp clear item (List.mem_of_getElem? found)
  · split
    · exact framed_raiseAbout clear' _ _
    · split
      · exact framed_newInt _
      · exact framed_raiseText _ _
  · exact framed_raiseText _ _
  · exact framed_raiseText _ _
  · exact framed_raiseText _ _
  · rw [objects_hide clear]
    split
    · rename_i items there
      refine (framed_placeInSequence _ _ _ clear').bind fun place _ => framed_pure ?_
      cases found : items[place]? with
      | none => trivial
      | some item => exact shut.objects _ _ there item (Array.mem_of_getElem? found)
    · rename_i entries there
      have pairs : veil.ClearPairs entries := shut.objects _ _ there
      refine (framed_lookUp pairs clear').bind fun found clear => ?_
      cases found with
      | none => exact framed_raise (by simpa using clear')
      | some value => exact framed_pure (clear value rfl)
    · exact subscript clear
  · exact subscript clear

theorem framed_putItemAt {container index : Value} (clear : veil.Clear container) (clear' : veil.Clear index)
    (holds : veil.Clear value) :
    veil.Framed (fun _ => True) (putItemAt container index value) (putItemAt container index value) := by
  refine framed_read fun world shut => ?_
  dsimp only
  split
  · rename_i address
    rw [objects_hide clear]
    split
    · rename_i items there
      refine (framed_placeInSequence _ _ _ clear').bind fun place _ => framed_store clear fun item member => ?_
      rcases Array.mem_or_eq_of_mem_setIfInBounds member with inside | rfl
      · exact shut.objects _ _ there item inside
      · exact holds
    · rename_i entries there
      have pairs : veil.ClearPairs entries := shut.objects _ _ there
      refine (framed_checkKey clear').bind fun _ _ => ?_
      rw [putKey?_hide shut clear' pairs]
      have put : veil.Framed veil.ClearPairs (decided (world.putKey? index value entries))
          (decided (world.putKey? index value entries)) :=
        framed_decided fun entries same => clear_putKey? clear' holds pairs same
      exact put.bind fun entries clear' => framed_store clear clear'
    · exact framed_raiseAbout clear _ _
  · exact framed_raiseAbout clear _ _

theorem framed_arithmetic (calls : veil.FramedCalls call) (operation : Script.BinaryOp) (symbol : Text)
    {left right : Value} (clear : veil.Clear left) (clear' : veil.Clear right) :
    veil.Framed veil.Clear (arithmetic call operation symbol left right)
      (arithmetic call operation symbol left right) := by
  unfold arithmetic
  split
  · exact framed_calculated _ _ _
  · split
    · exact framed_concatenate symbol clear clear'
    · exact framed_repetition symbol clear clear'
    · exact framed_filled calls framed_itemAt _ clear'
    · exact framed_raiseBetween symbol clear clear'

theorem framed_binary (calls : veil.FramedCalls call) (operation : Script.BinaryOp) {left right : Value}
    (clear : veil.Clear left) (clear' : veil.Clear right) :
    veil.Framed veil.Clear (binary call operation left right) (binary call operation left right) :=
  framed_arithmetic calls operation _ clear clear'

theorem framed_append {list : Nat} (apart : list ≠ veil.list) (clear : veil.Clear value) :
    veil.Framed (fun _ => True) (append list value) (append list value) := by
  refine framed_modify apart fun object whole => ?_
  cases object with
  | list items =>
      intro item member
      rcases Array.mem_push.mp member with inside | rfl
      · exact whole item inside
      · exact clear
  | _ => exact whole

theorem framed_appendAll {list : Nat} (apart : list ≠ veil.list) {values : List Value} (clear : veil.Clears values) :
    veil.Framed (fun _ => True) (appendAll list values) (appendAll list values) := by
  refine framed_modify apart fun object whole => ?_
  cases object with
  | list items =>
      intro item member
      rcases Array.mem_append.mp member with inside | inside
      · exact whole item inside
      · exact clear item (List.mem_toArray.mp inside)
  | _ => exact whole

theorem framed_extend (calls : veil.FramedCalls call) {list : Nat} (apart : list ≠ veil.list)
    (clear : veil.Clear value) :
    veil.Framed (fun _ => True) (extend call list value) (extend call list value) := by
  refine framed_read fun world shut => ?_
  rw [valuesOf?_hide shut clear, iterator?_hide clear]
  split
  · rename_i found
    exact framed_appendAll apart (clear_valuesOf? shut clear found)
  · rename_i found
    exact framed_foldValues (fun _ => True) calls (ne_of_iterator? clear found)
      (fun _ value _ clear => framed_append apart clear) trivial
  · exact framed_raiseAbout clear _ _

theorem framed_updated (calls : veil.FramedCalls call) (operation : Script.BinaryOp) {left right : Value}
    (clear : veil.Clear left) (clear' : veil.Clear right) :
    veil.Framed veil.Clear (updated call operation left right) (updated call operation left right) := by
  refine framed_read fun world shut => ?_
  rw [itemsOf?_hide clear, holdsOthers_hide clear, repeats_hide clear]
  dsimp only
  split
  · exact (framed_extend calls clear clear').bind fun _ _ => framed_pure clear
  · rename_i items there
    refine (framed_repetitionCount clear').bind fun number _ => ?_
    refine (framed_replicated number items (clear_itemsOf? shut clear there)).bind fun items each => ?_
    have stored : veil.ClearContent (.list items.toArray) := fun item member => each item (List.mem_toArray.mp member)
    exact (framed_store clear stored).bind fun _ _ => framed_pure clear
  · split
    · exact framed_raiseBetween _ clear clear'
    · exact framed_arithmetic calls _ _ clear clear'
  · exact framed_arithmetic calls _ _ clear clear'

theorem framed_negative (clear : veil.Clear value) : veil.Framed veil.Clear (negative value) (negative value) := by
  unfold negative
  split
  · exact framed_newInt _
  · exact framed_raiseAbout clear _ _

theorem framed_containsPair {entries : List (Value × Value)} (pairs : veil.ClearPairs entries) {pair : Value}
    (clear : veil.Clear pair) :
    veil.Framed (fun _ => True) (containsPair entries pair) (containsPair entries pair) := by
  unfold containsPair
  split
  · have both := clear_tuple.mp clear
    refine (framed_lookUp pairs (both _ (.head _))).bind fun found clear => ?_
    cases found with
    | none => exact framed_pure trivial
    | some value => exact framed_areEqual (clear value rfl) (both _ (.tail _ (.head _)))
  · exact framed_pure trivial

theorem framed_gives (calls : veil.FramedCalls call) {iterator : Nat} (apart : iterator ≠ veil.list)
    (clear : veil.Clear value) :
    veil.Framed (fun _ => True) (gives call iterator value) (gives call iterator value) :=
  framed_foldIterator (fun _ => True) calls apart _ (fun _ _ _ clear' => framed_areEqual clear' clear) _ trivial

theorem framed_contains (calls : veil.FramedCalls call) {container : Value} (clear : veil.Clear value)
    (clear' : veil.Clear container) :
    veil.Framed (fun _ => True) (contains call value container) (contains call value container) := by
  refine framed_read fun world shut => ?_
  rw [entriesOf?_hide clear', viewedEntries?_hide shut clear', valuesOf?_hide shut clear', iterator?_hide clear']
  split
  · exact framed_pure trivial
  · exact framed_raiseAbout clear _ _
  · split
    · exact framed_pure trivial
    · exact framed_pure trivial
  · split
    · rename_i found
      exact (framed_lookUp (clear_entriesOf? shut clear' found) clear).bind fun _ _ => framed_pure trivial
    · rename_i found
      exact framed_containsPair (clear_viewedEntries? shut clear' found) clear
    · split
      · rename_i found
        rw [among?_hide shut clear (clear_valuesOf? shut clear' found)]
        exact framed_decided fun _ _ => trivial
      · rename_i found
        exact framed_gives calls (ne_of_iterator? clear' found) clear
      · exact framed_raiseAbout clear' _ _

theorem framed_compared (calls : veil.FramedCalls call) (comparison : Script.Comparison) {left right : Value}
    (clear : veil.Clear left) (clear' : veil.Clear right) :
    veil.Framed (fun _ => True) (compared call comparison left right) (compared call comparison left right) := by
  refine framed_read fun world shut => ?_
  rw [ordered_hide shut _ _ clear clear']
  split
  · exact framed_areEqual clear clear'
  · exact (framed_areEqual clear clear').bind fun _ _ => framed_pure trivial
  · exact framed_pure trivial
  · exact framed_pure trivial
  · exact framed_contains calls clear clear'
  · exact (framed_contains calls clear clear').bind fun _ _ => framed_pure trivial
  · split
    · exact framed_pure trivial
    · exact framed_raiseText _ _
    · rename_i one other failed
      obtain ⟨first, second⟩ := clear_ordered shut _ _ clear clear' failed
      rw [typeName_hide first, typeName_hide second]
      exact framed_raiseText _ _

/-! ## Attributes and names -/

theorem framed_readSlot {slot : Slot} (clear : veil.ClearSlot slot) :
    veil.Framed veil.Clear (readSlot slot) (readSlot slot) := by
  cases slot with
  | value value => exact framed_pure clear
  | operation receiver name => exact framed_newIdentity.bind fun _ _ => framed_pure (clear_method.mpr clear)
  | failing kind arguments => exact framed_raise clear

theorem framed_attributeAt (clear : veil.Clear value) (name : Text) :
    veil.Framed veil.Clear (attributeAt value name) (attributeAt value name) := by
  refine framed_read fun world shut => ?_
  rw [slotOf?_hide clear, attributeMessage_hide clear]
  split
  · rename_i slot found
    exact framed_readSlot (clear_slotOf? shut clear found)
  · refine framed_raiseNoting (List.forall_mem_singleton.mpr trivial) fun entry member => ?_
    rcases List.mem_cons.mp member with rfl | member
    · trivial
    · cases List.mem_singleton.mp member
      exact clear

theorem framed_attributeIfAny (clear : veil.Clear value) (name : Text) :
    veil.Framed veil.ClearIfAny (attributeIfAny value name) (attributeIfAny value name) := by
  refine ((framed_attributeAt clear name).bind fun content clear => framed_pure ?_).recover fun error apart => ?_
  · exact fun _ same => Option.some.inj same ▸ clear
  · refine framed_read fun world shut => ?_
    rw [errorKind_hide apart]
    split
    · exact framed_pure nofun
    · exact framed_failWith apart

theorem mem_putEntry {β : Type} {name : Text} {content : β} {entries : List (Text × β)} {entry : Text × β}
    (member : entry ∈ putEntry name content entries) : entry = (name, content) ∨ entry ∈ entries := by
  induction entries with
  | nil => exact .inl (List.mem_singleton.mp member)
  | cons first entries ih =>
      rw [putEntry] at member
      split at member
      · exact (List.mem_cons.mp member).imp_right (.tail _)
      · rcases List.mem_cons.mp member with rfl | inside
        · exact .inr (.head _)
        · exact (ih inside).imp_right (.tail _)

theorem ClearSlots.put {attributes : List (Text × Slot)} (clear : veil.ClearSlots attributes) (name : Text)
    (holds : veil.Clear value) : veil.ClearSlots (putEntry name (.value value) attributes) := by
  intro entry member
  rcases mem_putEntry member with rfl | inside
  · exact holds
  · exact clear entry inside

theorem ClearUnder.put {entries : List (Text × Value)} (clear : veil.ClearUnder entries) (name : Text)
    (holds : veil.Clear value) : veil.ClearUnder (putEntry name value entries) := by
  intro entry member
  rcases mem_putEntry member with rfl | inside
  · exact holds
  · exact clear entry inside

theorem framed_putErrorAttribute (calls : veil.FramedCalls call) {address : Nat} (apart : address ≠ veil.list)
    (name : Text) {content : Value} (clear : veil.Clear content) :
    veil.Framed (fun _ => True) (putErrorAttribute call address name content)
      (putErrorAttribute call address name content) := by
  unfold putErrorAttribute
  split
  · exact (framed_valuesIn calls clear).bind fun arguments each =>
      framed_changeIncident apart fun incident whole => ⟨each, whole.attributes⟩
  · exact framed_changeIncident apart fun incident whole => ⟨whole.arguments, whole.attributes.put name clear⟩

theorem framed_putAttributeAt (calls : veil.FramedCalls call) (clear : veil.Clear value) (name : Text) {content : Value}
    (holds : veil.Clear content) :
    veil.Framed (fun _ => True) (putAttributeAt call value name content) (putAttributeAt call value name content) := by
  refine framed_read fun world shut => ?_
  rw [fixedMessage_hide clear]
  dsimp only
  split
  · rename_i address
    rw [objects_hide clear]
    split
    · rename_i attributes there
      have whole : veil.ClearSlots attributes := shut.objects _ _ there
      exact framed_store clear (whole.put name holds)
    · rename_i html shown attributes there
      obtain ⟨first, second, whole⟩ := shut.objects _ _ there
      exact framed_store clear ⟨first, second, ClearSlots.put whole name holds⟩
    · rename_i owner attributes there
      have whole : veil.ClearSlots attributes := shut.objects _ _ there
      exact framed_store clear (whole.put name holds)
    · rename_i function attributes there
      obtain ⟨outer, whole⟩ := shut.objects _ _ there
      exact framed_store clear ⟨outer, ClearUnder.put whole name holds⟩
    · exact framed_putErrorAttribute calls clear name holds
    · exact framed_raiseText _ _
  · exact framed_raiseText _ _

theorem framed_nameIn {here : Activation} {name : Text} (free : here.scope = veil.scope → isOwnName name = false) :
    veil.Framed veil.Clear (nameIn here name) (nameIn here name) := by
  refine framed_read fun world shut => ?_
  rw [valueOf_hide shut free]
  split
  · rename_i value found
    exact framed_pure (clear_valueOf shut free found)
  · refine framed_raiseNoting (List.forall_mem_singleton.mpr trivial) ?_
    split
    · exact List.forall_mem_singleton.mpr trivial
    · exact List.forall_mem_nil _

end Veil
end Stencil
