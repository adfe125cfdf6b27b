import Stencil.Proofs.VeiledScripts
import Stencil.World.Call

/-!
# Calls behind a veil

Whatever is called, with arguments that do not lead to the list of a routine, the call is framed: no call reaches
what a running routine keeps to itself.
-/

namespace Stencil

open Effect

namespace Veil

variable {veil : Veil} {α : Type} {good : α → Prop} {value : Value} {call : Caller}

/-! ## Rendering -/

theorem framed_textsOf (calls : veil.FramedCalls call) {values : List Value} (clear : veil.Clears values) :
    veil.Framed (fun _ => True) (textsOf call values) (textsOf call values) := by
  induction values with
  | nil => exact framed_pure trivial
  | cons value values ih =>
      refine (calls (.builtin .text) _ trivial (List.forall_mem_singleton.mpr (clear value (.head _)))).bind
        fun _ _ => ?_
      exact (ih fun value member => clear value (.tail _ member)).bind fun _ _ => framed_pure trivial

theorem framed_faultOf (calls : veil.FramedCalls call) (template : Template) {error : Nat} (apart : error ≠ veil.list)
    {incident : Incident} (whole : veil.ClearIncident incident) :
    veil.Framed (fun _ => True) (faultOf call template error incident) (faultOf call template error incident) := by
  have clear : veil.Clear (.object error) := apart
  refine (calls (.builtin .text) _ trivial (List.forall_mem_singleton.mpr clear)).bind fun text _ => ?_
  dsimp only
  split
  · exact (framed_textsOf calls whole.arguments).bind fun _ _ => framed_pure trivial
  · exact Framed.bind (@framed_pure veil _ (fun _ => True) _ trivial) fun _ _ => framed_pure trivial

theorem clear_incident? {world : World} (shut : veil.Sealed world) {address : Nat} {incident : Incident}
    (found : world.incident? address = some incident) : veil.ClearIncident incident := by
  unfold World.incident? at found
  split at found
  · rename_i there
    cases found
    exact shut.objects address _ there
  · cases found

theorem clear_enclose (template : Template) {incident : Incident} (whole : veil.ClearIncident incident) :
    veil.ClearIncident (enclose template incident) := by
  unfold enclose
  split
  · exact ⟨whole.arguments, whole.attributes⟩
  · exact whole

theorem framed_explain (calls : veil.FramedCalls call) (template : Template) {error : Nat} (apart : error ≠ veil.list) :
    veil.Framed veil.Clear (explain call template error) (explain call template error) := by
  refine framed_read fun world shut => ?_
  rw [incident?_hide apart]
  split
  · exact framed_failWith apart
  · rename_i incident found
    have whole : veil.ClearIncident incident := clear_incident? shut found
    split
    · exact (framed_changeIncident apart fun _ whole => clear_enclose template whole).bind fun _ _ =>
        framed_failWith apart
    · split
      · exact framed_failWith apart
      · exact (framed_faultOf calls template apart whole).bind fun _ _ => framed_raiseReport _ _ _ _

theorem framed_render (calls : veil.FramedCalls call) (number : Nat) {context : Value} (clear : veil.Clear context) :
    veil.Framed veil.Clear (render call number context) (render call number context) := by
  refine framed_read fun world shut => ?_
  have same : (veil.hide world).templates = world.templates := rfl
  rw [same]
  split
  · exact framed_pure trivial
  · rename_i template found
    have apart : veil.Clear (.object template.function) := shut.templates number template found
    exact (calls _ _ apart (List.forall_mem_singleton.mpr clear)).recover fun error apart =>
      framed_explain calls template apart

/-! ## Building templates -/

theorem framed_raiseCompileError (origin : Origin) (error : CompileError) :
    veil.Framed good (raiseCompileError origin error) (raiseCompileError origin error) := by
  cases error with
  | nullCharacter => exact framed_raiseText _ _
  | unbalancedPlan => exact framed_raise (List.forall_mem_nil _)
  | flawed flaw => exact framed_raiseReport _ _ _ _

theorem framed_install (source : TemplateSource) (escape : Bool) (globals : Nat) (routine : Routine) :
    veil.Framed (fun _ => True) (install source escape globals routine) (install source escape globals routine) := by
  have builtins : veil.ClearUnder [(Routine.escapeParameter, .builtin .escape),
      (Routine.textParameter, .builtin .text)] :=
    List.forall_mem_cons.mpr ⟨trivial, List.forall_mem_singleton.mpr trivial⟩
  refine (framed_openScope (Option.some_ne_none _).symm builtins).bind fun scope outside => ?_
  have content : veil.ClearContent
      (.function ⟨routineName, ["self"], routine.body, scope, routine.file, globals⟩ []) :=
    ⟨outside, List.forall_mem_nil _⟩
  refine (framed_allocate content).bind fun function apart => ?_
  have clear : veil.Clear (.object function) := apart
  refine Framed.bind (framed_changeScope (fun values entry member => ?_) (fun own => absurd own outside)
    (fun own => absurd own outside)) fun _ _ => framed_read fun world shut => ?_
  · rcases mem_putEntry member with rfl | inside
    · exact .inr clear
    · exact .inl inside
  · have same : (veil.hide world).templates = world.templates := rfl
    rw [same]
    refine Framed.bind (framed_change (fun world shut => ?_) (fun _ _ => rfl) fun _ _ => rfl) fun _ _ =>
      framed_pure trivial
    refine { shut with templates := fun number template found => ?_ }
    rw [Array.getElem?_push] at found
    split at found
    · cases found
      exact apart
    · exact shut.templates number template found

theorem framed_compile (environment : Environment) (source : TemplateSource) (escape : Option Bool) (globals : Nat) :
    veil.Framed (fun _ => True) (compile environment source escape globals)
      (compile environment source escape globals) := by
  have policy : veil.Framed (fun _ => True) (policyOf environment) (policyOf environment) :=
    framed_read fun _ _ => framed_pure trivial
  refine policy.bind fun policy _ => ?_
  dsimp only
  split
  · exact framed_install _ _ _ _
  · exact framed_raiseCompileError _ _

theorem framed_raiseLoadError (error : LoadError) : veil.Framed good (raiseLoadError error) (raiseLoadError error) := by
  cases error with
  | missing message => exact framed_raiseText _ _
  | unreadable message => exact framed_fail ⟨List.forall_mem_singleton.mpr trivial, List.forall_mem_nil _⟩
  | unopened message number => exact framed_fail ⟨List.forall_mem_singleton.mpr trivial, List.forall_mem_nil _⟩
  | tooLong path =>
      exact framed_raiseNoting (List.forall_mem_cons.mpr ⟨trivial, List.forall_mem_singleton.mpr trivial⟩)
        (List.forall_mem_cons.mpr ⟨trivial, List.forall_mem_cons.mpr ⟨trivial, List.forall_mem_singleton.mpr trivial⟩⟩)
  | unknownEncoding name => exact framed_raiseText _ _

theorem framed_sourceOf (environment : Environment) (name : Text) :
    veil.Framed (fun _ => True) (sourceOf environment name) (sourceOf environment name) := by
  refine framed_read fun world shut => ?_
  have same : (veil.hide world).library = world.library := rfl
  rw [same]
  cases environment.source world.library name with
  | ok source => exact framed_pure trivial
  | error error => exact framed_raiseLoadError error

theorem framed_build (binding : Binding) : veil.Framed (fun _ => True) (build binding) (build binding) := by
  unfold build
  split
  · exact Framed.bind (@framed_pure veil _ (fun _ => True) _ trivial) fun _ _ => framed_compile _ _ _ _
  · exact (framed_sourceOf _ _).bind fun _ _ => framed_compile _ _ _ _

/-! ## Built-in functions -/

theorem framed_checkArguments (function : Text) (parameters : List Text) (count : Nat) :
    veil.Framed (fun _ => True) (checkArguments function parameters count)
      (checkArguments function parameters count) := by
  unfold checkArguments
  split
  · exact framed_pure trivial
  · split
    · exact framed_raiseText _ _
    · exact framed_raiseText _ _

theorem framed_checkCount (function : Text) (least most count : Nat) :
    veil.Framed (fun _ => True) (checkCount function least most count) (checkCount function least most count) := by
  unfold checkCount
  dsimp only
  split
  · exact framed_raiseText _ _
  · split
    · exact framed_raiseText _ _
    · exact framed_pure trivial

theorem framed_theOnly (function : Text) {arguments : List Value} (clear : veil.Clears arguments) :
    veil.Framed veil.Clear (theOnly function arguments) (theOnly function arguments) := by
  unfold theOnly
  split
  · exact framed_pure (clear _ (.head _))
  · exact framed_raiseText _ _

theorem framed_takesNone (function : Text) (arguments : List Value) :
    veil.Framed (fun _ => True) (takesNone function arguments) (takesNone function arguments) := by
  unfold takesNone
  split
  · exact framed_pure trivial
  · exact framed_raiseText _ _

theorem framed_lengthOf (clear : veil.Clear value) : veil.Framed veil.Clear (lengthOf value) (lengthOf value) := by
  refine framed_read fun world shut => ?_
  rw [listAt?_hide clear, valuesOf?_hide shut clear]
  split
  · dsimp only
    split
    · exact framed_newInt _
    · exact framed_raiseText _ _
  · split
    · exact framed_newInt _
    · exact framed_newInt _
    · exact framed_raiseAbout clear _ _

theorem framed_numberOf (clear : veil.Clear value) :
    veil.Framed (fun _ => True) (numberOf value) (numberOf value) := by
  unfold numberOf
  split
  · exact framed_pure trivial
  · exact framed_raiseAbout clear _ _

theorem framed_numbersOf {values : List Value} (clear : veil.Clears values) :
    veil.Framed (fun _ => True) (newRange.numbersOf values) (newRange.numbersOf values) := by
  induction values with
  | nil => exact framed_pure trivial
  | cons value values ih =>
      exact (framed_numberOf (clear value (.head _))).bind fun _ _ =>
        (ih fun value member => clear value (.tail _ member)).bind fun _ _ => framed_pure trivial

theorem framed_newRange {arguments : List Value} (clear : veil.Clears arguments) :
    veil.Framed veil.Clear (newRange arguments) (newRange arguments) := by
  refine (framed_checkCount _ _ _ _).bind fun _ _ => (framed_numbersOf clear).bind fun numbers _ => ?_
  split
  · exact framed_newIdentity.bind fun _ _ => framed_pure trivial
  · exact framed_newIdentity.bind fun _ _ => framed_pure trivial
  · split
    · exact framed_raiseText _ _
    · exact framed_newIdentity.bind fun _ _ => framed_pure trivial
  · exact framed_pure trivial

theorem framed_sumOf (calls : veil.FramedCalls call) {values start : Value} (clear : veil.Clear values)
    (clear' : veil.Clear start) : veil.Framed veil.Clear (sumOf call values start) (sumOf call values start) := by
  refine (framed_iterate clear).bind fun iterator apart => ?_
  split
  · exact framed_raiseText _ _
  · exact framed_foldValues veil.Clear calls apart
      (fun _ _ first second => framed_binary calls .add first second) clear'

theorem framed_nextIn (calls : veil.FramedCalls call) {iterator : Value} (clear : veil.Clear iterator)
    {otherwise : Option Value} (clear' : veil.ClearIfAny otherwise) :
    veil.Framed veil.Clear (nextIn call iterator otherwise) (nextIn call iterator otherwise) := by
  refine framed_read fun world shut => ?_
  rw [iterator?_hide clear]
  split
  · rename_i address _ found
    refine (framed_advance calls (ne_of_iterator? clear found)).bind fun given each => ?_
    split
    · exact framed_pure (each _ rfl)
    · exact framed_pure (clear' _ rfl)
    · exact framed_raise (List.forall_mem_nil _)
  · exact framed_raiseAbout clear _ _

theorem clear_headD {arguments : List Value} (clear : veil.Clears arguments) : veil.Clear (arguments.headD .none) := by
  cases arguments with
  | nil => trivial
  | cons value values => exact clear value (.head _)

theorem clear_getElem? {arguments : List Value} (clear : veil.Clears arguments) (place : Nat) :
    veil.ClearIfAny arguments[place]? :=
  fun value found => clear value (List.mem_of_getElem? found)

theorem framed_iteratorOf {arguments : List Value} (clear : veil.Clears arguments) :
    veil.Framed veil.Clear (iteratorOf arguments) (iteratorOf arguments) := by
  unfold iteratorOf
  split
  · rename_i function stop
    have first : veil.Clear function := clear _ (.head _)
    have second : veil.Clear stop := clear _ (.tail _ (.head _))
    refine framed_read fun world shut => ?_
    rw [isCallable_hide first]
    split
    · refine (framed_allocate (clear_iterator ?_)).bind fun _ apart => framed_pure apart
      exact ⟨first, second⟩
    · exact framed_raiseText _ _
  · exact (framed_iterate (clear_headD clear)).bind fun _ apart => framed_pure apart

theorem framed_textFrom (calls : veil.FramedCalls call) {arguments : List Value} (clear : veil.Clears arguments) :
    veil.Framed veil.Clear (textFrom call arguments) (textFrom call arguments) := by
  unfold textFrom
  split
  · exact framed_pure trivial
  · exact framed_textOf calls (clear _ (.head _))
  · rename_i value more _
    split
    · exact framed_raiseText _ _
    · refine (framed_forIn (fun _ => True) (fun entry member _ _ => ?_) trivial).bind fun _ _ => ?_
      · have own : veil.ClearIfAny entry.2 := by
          rcases List.mem_cons.mp member with rfl | member
          · exact fun value found => clear value (.tail _ (List.mem_of_head? found))
          · cases List.mem_singleton.mp member
            exact fun value found => clear value (.tail _ (List.mem_of_getElem? found))
        obtain ⟨name, argument⟩ := entry
        dsimp only at own ⊢
        split
        · exact framed_pure trivial
        · exact (framed_requireTextFor _ (own _ rfl)).bind fun _ _ => framed_pure trivial
      · split
        · exact framed_raiseText _ _
        · exact framed_raiseAbout (clear _ (.head _)) _ _

theorem framed_callBuiltin (calls : veil.FramedCalls call) (function : Builtin) {arguments : List Value}
    (clear : veil.Clears arguments) :
    veil.Framed veil.Clear (callBuiltin call function arguments) (callBuiltin call function arguments) := by
  cases function with
  | length => exact (framed_theOnly _ clear).bind fun _ clear => framed_lengthOf clear
  | range => exact framed_newRange clear
  | text => exact framed_textFrom calls clear
  | sum =>
      unfold callBuiltin
      dsimp only
      split
      · exact framed_sumOf calls (clear _ (.head _)) trivial
      · exact framed_sumOf calls (clear _ (.head _)) (clear _ (.tail _ (.head _)))
      · exact framed_raiseText _ _
      · exact framed_raiseText _ _
  | next =>
      exact (framed_checkCount _ _ _ _).bind fun _ _ => framed_nextIn calls (clear_headD clear) (clear_getElem? clear 1)
  | iterate => exact (framed_checkCount _ _ _ _).bind fun _ _ => framed_iteratorOf clear
  | escape => exact (framed_checkArguments _ _ _).bind fun _ _ => framed_markupOf calls (clear_headD clear)

/-! ## Operations of values -/

theorem framed_joinTexts (position : Nat) {values : List Value} (clear : veil.Clears values) :
    veil.Framed (fun _ => True) (joinTexts position values) (joinTexts position values) := by
  induction values generalizing position with
  | nil => exact framed_pure trivial
  | cons value values ih =>
      unfold joinTexts
      split
      · exact framed_pure trivial
      · rename_i same
        cases same
        exact (ih _ fun value member => clear value (.tail _ member)).bind fun _ _ => framed_pure trivial
      · rename_i same
        cases same
        exact framed_raiseAbout (clear _ (.head _)) _ _

theorem framed_callOnText (calls : veil.FramedCalls call) (content name : Text) {arguments : List Value}
    (clear : veil.Clears arguments) :
    veil.Framed veil.Clear (callOnText call content name arguments) (callOnText call content name arguments) := by
  unfold callOnText
  dsimp only
  split
  · exact (framed_takesNone _ _).bind fun _ _ => framed_newText _
  · split
    · exact (framed_takesNone _ _).bind fun _ _ => framed_newText _
    · split
      · exact (framed_takesNone _ _).bind fun _ _ => framed_newText _
      · split
        · refine (framed_theOnly _ clear).bind fun joined clear =>
            (framed_valuesIn? calls clear).bind fun found each => ?_
          split
          · exact framed_pure trivial
          · exact (framed_joinTexts 0 (each _ rfl)).bind fun _ _ => framed_newText _
          · exact framed_raiseText _ _
        · exact (framed_checkArguments _ _ _).bind fun _ _ => framed_newText _

theorem framed_callHook (calls : veil.FramedCalls call) (hook : Hook) {receiver : Value} (clear : veil.Clear receiver)
    (arguments : List Value) :
    veil.Framed veil.Clear (callHook call hook receiver arguments) (callHook call hook receiver arguments) := by
  refine (framed_checkArguments _ _ _).bind fun _ _ => ?_
  cases hook with
  | renders template owner => exact framed_render calls template clear
  | reloads binding owner => exact (framed_build binding).bind fun _ _ => framed_render calls _ clear
  | trusts owner =>
      exact (calls (.builtin .text) _ trivial (List.forall_mem_singleton.mpr clear)).bind fun _ _ => framed_newMarkup _

theorem framed_callMethod (calls : veil.FramedCalls call) {receiver : Value} (clear : veil.Clear receiver) (name : Text)
    {arguments : List Value} (each : veil.Clears arguments) :
    veil.Framed veil.Clear (callMethod call receiver name arguments) (callMethod call receiver name arguments) := by
  refine framed_read fun world shut => ?_
  split
  · exact framed_callOnText calls _ name each
  · exact (framed_checkArguments _ _ _).bind fun _ _ => framed_render calls _ (clear_headD each)
  · rename_i address
    rw [objects_hide clear]
    split
    · exact (framed_theOnly _ each).bind fun _ item => (framed_append clear item).bind fun _ _ => framed_pure trivial
    · refine (framed_takesNone _ _).bind fun _ _ => ?_
      have content : veil.ClearContent (.entries address) := clear
      exact (framed_allocate content).bind fun _ apart => framed_pure apart
    · rename_i html _ _ found
      have own := shut.objects _ _ found
      exact (framed_checkArguments _ _ _).bind fun _ _ => framed_readSlot (own.1 _ rfl)
    · rw [attributeOfClass?_hide]
      split
      · exact framed_callHook calls _ clear arguments
      · exact framed_pure trivial
    · exact framed_pure trivial
  · exact framed_pure trivial

/-! ## Calls -/

theorem clear_zip (names : List Text) {values : List Value} (clear : veil.Clears values) :
    veil.ClearUnder (names.zip values) :=
  fun entry member => clear entry.2 (List.of_mem_zip member).2

theorem framed_invoke (calls : veil.FramedCalls call) (steps : Nat) {function : Function}
    (outside : function.outer ≠ veil.scope) {arguments : List Value} (clear : veil.Clears arguments) :
    veil.Framed veil.Clear (invoke call steps function arguments) (invoke call steps function arguments) := by
  refine (framed_checkArguments _ _ _).bind fun _ _ => ?_
  refine (framed_openScope (fun same => outside (Option.some.inj same)) (clear_zip _ clear)).bind fun scope apart => ?_
  refine (framed_runBlock calls steps apart function.body).bind fun flow fine => ?_
  split
  · exact framed_pure fine
  · exact framed_pure trivial

theorem framed_callStep (calls : veil.FramedCalls call) (steps : Nat) {function : Value} (clear : veil.Clear function)
    {arguments : List Value} (each : veil.Clears arguments) :
    veil.Framed veil.Clear (callStep call steps function arguments) (callStep call steps function arguments) := by
  refine framed_read fun world shut => ?_
  dsimp only
  split
  · exact framed_callBuiltin calls _ each
  · exact (framed_newError calls _ each).bind fun _ apart => framed_pure apart
  · exact framed_callMethod calls (clear_method.mp clear) _ each
  · rw [objects_hide clear]
    split
    · rename_i function _ found
      have own := shut.objects _ _ found
      exact framed_invoke calls steps own.1 each
    · exact framed_raiseAbout clear _ _
  · exact framed_raiseAbout clear _ _

/-- Every call is framed. -/
theorem framed_callWithin (veil : Veil) (steps depth : Nat) : veil.FramedCalls (callWithin steps depth) := by
  induction depth with
  | zero => exact fun _ _ _ _ => framed_raiseText _ _
  | succ depth ih => exact fun _ _ clear each => framed_callStep ih steps clear each

end Veil
end Stencil
