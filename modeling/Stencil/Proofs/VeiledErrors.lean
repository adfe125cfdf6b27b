import Stencil.Proofs.VeiledOperations
import Stencil.World.Convert

/-!
# Errors behind a veil

Making errors, raising and handling them, and the texts of values and of errors are framed.
-/

namespace Stencil

open Effect

namespace Veil

variable {veil : Veil} {α : Type} {good : α → Prop} {value : Value} {call : Caller}

/-! ## Repeating for each item -/

theorem framed_forIn {σ ι : Type} (holds : σ → Prop) {items : List ι} {body body' : ι → σ → Effect (ForInStep σ)}
    (each : ∀ item ∈ items, ∀ state, holds state →
      veil.Framed (fun step => holds step.value) (body item state) (body' item state))
    {state : σ} (start : holds state) : veil.Framed holds (forIn items state body) (forIn items state body') := by
  induction items generalizing state with
  | nil => exact framed_pure start
  | cons item items ih =>
      rw [List.forIn_cons, List.forIn_cons]
      refine (each item (.head _) state start).bind fun step fits => ?_
      cases step with
      | done next => exact framed_pure fits
      | yield next => exact ih (fun item member => each item (.tail _ member)) fits

/-! ## Making errors -/

theorem clear_notes (names : List String) {values : List Value} (clear : veil.Clears values) :
    veil.ClearUnder (notes names values) :=
  fun entry member => clear entry.2 (List.of_mem_zip member).2

theorem framed_raiseMiscounted (bound : Text) (expected given : Nat) :
    veil.Framed good (raiseMiscounted bound expected given) (raiseMiscounted bound expected given) :=
  framed_raiseText _ _

theorem framed_requireTextAt (lead : Text) (place : Nat) (clear : veil.Clear value) :
    veil.Framed (fun _ => True) (requireTextAt lead place value) (requireTextAt lead place value) :=
  framed_requireTextFor _ clear

theorem framed_requireNumber (clear : veil.Clear value) :
    veil.Framed (fun _ => True) (requireNumber value) (requireNumber value) := by
  unfold requireNumber
  split
  · exact framed_pure trivial
  · exact framed_raiseAbout clear _ _

theorem clear_systemIncident (kind : ErrorKind) {arguments : List Value} (clear : veil.Clears arguments) :
    veil.ClearIncident (systemIncident kind arguments) := by
  unfold systemIncident
  extract_lets shown
  clear_value shown
  split
  · rename_i number text more
    have first : veil.Clear number := clear _ (.head _)
    have second : veil.Clear text := clear _ (.tail _ (.head _))
    have both : veil.Clears [number, text] := List.forall_mem_cons.mpr ⟨first, List.forall_mem_singleton.mpr second⟩
    have kept : veil.ClearUnder (notes ["errno", "strerror"] [number, text]) := clear_notes _ both
    extract_lets written noted
    clear_value written
    split
    · exact ⟨clear, kept⟩
    · exact ⟨clear, kept⟩
    · rename_i file others _
      have third : veil.Clear file := clear _ (.tail _ (.tail _ (.head _)))
      have each (name : String) : veil.ClearUnder (notes [name] [file]) :=
        clear_notes _ (List.forall_mem_singleton.mpr third)
      split
      · exact ⟨clear, List.forall_mem_append.mpr ⟨kept, each _⟩⟩
      · refine ⟨both, List.forall_mem_append.mpr ⟨List.forall_mem_append.mpr ⟨kept, each _⟩, ?_⟩⟩
        split
        · exact List.forall_mem_nil _
        · exact List.forall_mem_nil _
        · exact List.forall_mem_nil _
        · exact clear_notes _ (List.forall_mem_singleton.mpr
            (clear _ (.tail _ (.tail _ (.tail _ (.tail _ (.head _)))))))
  · exact ⟨clear, List.forall_mem_nil _⟩

theorem framed_malformedIncident (calls : veil.FramedCalls call) (kind : ErrorKind) {arguments : List Value}
    (clear : veil.Clears arguments) :
    veil.Framed veil.ClearIncident (malformedIncident call kind arguments) (malformedIncident call kind arguments) := by
  have message : veil.ClearUnder (notes ["msg"] (arguments.take 1)) :=
    clear_notes _ fun value member => clear value (List.mem_of_mem_take member)
  unfold malformedIncident
  dsimp only
  split
  · refine (framed_valuesIn calls (clear _ (by simp))).bind fun details each => ?_
    split
    · exact framed_raiseMiscounted _ _ _
    · split
      · exact framed_raiseMiscounted _ _ _
      · split
        · exact framed_raiseText _ _
        · exact framed_pure ⟨clear, List.forall_mem_append.mpr ⟨message, clear_notes _ each⟩⟩
  · exact framed_pure ⟨clear, message⟩

theorem framed_unicodeIncident (kind : ErrorKind) {arguments : List Value} (clear : veil.Clears arguments) :
    veil.Framed veil.ClearIncident (unicodeIncident kind arguments) (unicodeIncident kind arguments) := by
  have parts (named : Bool) : ∃ lead rest,
      (if named then (arguments.take 1, arguments.drop 1) else ([], arguments)) = (lead, rest) ∧
        veil.Clears lead ∧ veil.Clears rest := by
    cases named with
    | false => exact ⟨_, _, rfl, List.forall_mem_nil _, clear⟩
    | true =>
        exact ⟨_, _, rfl, fun value member => clear value (List.mem_of_mem_take member),
          fun value member => clear value (List.mem_of_mem_drop member)⟩
  unfold unicodeIncident
  extract_lets named
  obtain ⟨lead, rest, same, ofLead, ofRest⟩ := parts named
  rw [same]
  dsimp only
  generalize (if named then 5 else 4) = count
  split
  · rename_i subject first last reason
    have details : veil.ClearUnder
        (notes ["encoding"] lead ++ notes ["object", "start", "end", "reason"] [subject, first, last, reason]) :=
      List.forall_mem_append.mpr ⟨clear_notes _ ofLead, clear_notes _ ofRest⟩
    simp only [Clears, List.forall_mem_cons] at ofRest
    obtain ⟨ofSubject, ofFirst, ofLast, ofReason, _⟩ := ofRest
    split
    · exact framed_raiseMiscounted _ _ _
    · refine (framed_forIn (fun _ => True) (fun item member state _ => ?_) trivial).bind fun _ _ => ?_
      · exact (framed_requireTextAt _ _ (ofLead item member)).bind fun _ _ => framed_pure trivial
      · split
        case' isTrue => refine (framed_requireTextAt _ _ ofSubject).bind fun _ _ => ?_
        all_goals
          refine (framed_requireNumber ofFirst).bind fun _ _ => (framed_requireNumber ofLast).bind fun _ _ =>
            (framed_requireTextAt _ _ ofReason).bind fun _ _ => ?_
          split
          · exact framed_raiseAbout ofSubject _ _
          · exact framed_pure ⟨clear, details⟩
  · exact framed_raiseMiscounted _ _ _

theorem framed_groupIncident (kind : ErrorKind) {arguments : List Value} (clear : veil.Clears arguments) :
    veil.Framed veil.ClearIncident (groupIncident kind arguments) (groupIncident kind arguments) := by
  unfold groupIncident
  dsimp only
  split
  · rename_i message gathered
    have first : veil.Clear message := clear _ (by simp)
    have second : veil.Clear gathered := clear _ (by simp)
    refine (framed_requireTextAt _ _ first).bind fun _ _ => framed_read fun world shut => ?_
    rw [sequenceValues?_hide shut second]
    split
    · exact framed_raiseText _ _
    · exact framed_raiseText _ _
    · rename_i errors _ found
      have each := clear_sequenceValues? shut second found
      rw [kindsIn_hide _ each]
      split
      · exact framed_raiseText _ _
      · have details : veil.ClearUnder (notes ["message", "exceptions"] [message, .tuple 0 errors]) :=
          clear_notes _ (List.forall_mem_cons.mpr ⟨first, List.forall_mem_singleton.mpr (clear_tuple.mpr each)⟩)
        split
        · exact framed_pure ⟨clear, details⟩
        · split
          · exact framed_raiseText _ _
          · exact framed_pure ⟨clear, details⟩
  · exact framed_raiseText _ _

theorem framed_newIncident (calls : veil.FramedCalls call) (kind : ErrorKind) {arguments : List Value}
    (clear : veil.Clears arguments) :
    veil.Framed veil.ClearIncident (newIncident call kind arguments) (newIncident call kind arguments) := by
  have first : veil.Clears (arguments.take 1) := fun value member => clear value (List.mem_of_mem_take member)
  unfold newIncident
  dsimp only
  split
  · exact framed_pure (clear_systemIncident kind clear)
  · split
    · exact framed_malformedIncident calls kind clear
    · split
      · exact framed_unicodeIncident _ clear
      · exact framed_unicodeIncident _ clear
      · exact framed_unicodeIncident _ clear
      · exact framed_groupIncident _ clear
      · exact framed_groupIncident _ clear
      · exact framed_pure ⟨clear, clear_notes _ first⟩
      · refine framed_pure ⟨clear, ?_⟩
        split
        · exact clear_notes _ clear
        · exact List.forall_mem_nil _
      · refine framed_pure ⟨clear, ?_⟩
        split
        · exact clear_notes _ clear
        · exact List.forall_mem_nil _
      · refine framed_pure ⟨clear, ?_⟩
        split
        · exact List.forall_mem_nil _
        · exact clear_notes _ clear
        · exact clear_notes _ (List.forall_mem_singleton.mpr (clear_tuple.mpr clear))
      · exact framed_pure ⟨clear, List.forall_mem_nil _⟩

theorem framed_newError (calls : veil.FramedCalls call) (kind : ErrorKind) {arguments : List Value}
    (clear : veil.Clears arguments) :
    veil.Framed (· ≠ veil.list) (newError call kind arguments) (newError call kind arguments) :=
  (framed_newIncident calls kind clear).bind fun _ whole => framed_allocate whole

/-! ## The text of errors -/

theorem framed_plainText (calls : veil.FramedCalls call) (clear : veil.Clear value) :
    veil.Framed (fun _ => True) (plainText call value) (plainText call value) :=
  (calls (.builtin .text) _ trivial (List.forall_mem_singleton.mpr clear)).bind fun _ _ => framed_pure trivial

theorem framed_systemText (calls : veil.FramedCalls call) {number text : Value} (clear : veil.Clear number)
    (clear' : veil.Clear text) {files : List Value} (each : veil.Clears files) :
    veil.Framed (fun _ => True) (systemText call number text files) (systemText call number text files) := by
  refine (framed_plainText calls clear).bind fun _ _ => (framed_plainText calls clear').bind fun _ _ => ?_
  dsimp only
  split
  · exact framed_pure trivial
  · exact (framed_shown (each _ (.head _))).bind fun _ _ => framed_pure trivial
  · exact (framed_shown (each _ (.head _))).bind fun _ _ =>
      (framed_shown (each _ (.tail _ (.head _)))).bind fun _ _ => framed_pure trivial

theorem framed_malformedText (calls : veil.FramedCalls call) {message : Value} (clear : veil.Clear message)
    (file line : Option Value) :
    veil.Framed (fun _ => True) (malformedText call message file line) (malformedText call message file line) := by
  refine (framed_plainText calls clear).bind fun _ _ => ?_
  split <;> exact framed_pure trivial

theorem framed_argumentsText (calls : veil.FramedCalls call) {incident : Incident}
    (whole : veil.ClearIncident incident) :
    veil.Framed (fun _ => True) (argumentsText call incident) (argumentsText call incident) := by
  obtain ⟨arguments, _⟩ := whole
  unfold argumentsText
  split
  · exact framed_pure trivial
  · exact framed_pure trivial
  · rename_i argument _ same
    rw [same] at arguments
    exact framed_shown (arguments _ (.head _))
  · rename_i argument same _ _
    rw [same] at arguments
    exact framed_plainText calls (arguments _ (.head _))
  · exact framed_shown (clear_tuple.mpr arguments)

theorem framed_incidentText (calls : veil.FramedCalls call) {incident : Incident}
    (whole : veil.ClearIncident incident) :
    veil.Framed (fun _ => True) (incidentText call incident) (incidentText call incident) := by
  have field {name : Text} {value : Value} (found : incident.attributes.lookup name = some value) : veil.Clear value :=
    whole.attributes.lookup found
  have listed (name : Text) : veil.Clears (incident.attributes.lookup name).toList := fun value member =>
    field (Option.mem_toList.mp member)
  unfold incidentText
  dsimp only
  split
  · split
    · rename_i number text found found'
      exact framed_systemText calls (field found) (field found') (List.forall_mem_append.mpr ⟨listed _, listed _⟩)
    · exact framed_argumentsText calls whole
  · split
    · refine framed_malformedText calls ?_ _ _
      cases found : incident.attributes.lookup "msg".toList with
      | none => trivial
      | some value => exact field found
    · split
      · rename_i found _
        exact (framed_plainText calls (field found)).bind fun _ _ => framed_pure trivial
      · rename_i found _
        exact (framed_plainText calls (field found)).bind fun _ _ => framed_pure trivial
      · exact framed_pure trivial
      · exact framed_pure trivial
      · exact framed_argumentsText calls whole

/-! ## Converting values to text -/

theorem framed_requireText (clear : veil.Clear value) :
    veil.Framed veil.Clear (requireText value) (requireText value) := by
  unfold requireText
  split
  · exact framed_pure trivial
  · exact framed_raiseAbout clear _ _

theorem framed_textOfIncident (calls : veil.FramedCalls call) {incident : Incident}
    (whole : veil.ClearIncident incident) :
    veil.Framed veil.Clear (textOfIncident call incident) (textOfIncident call incident) := by
  have said : veil.Framed veil.Clear (incidentText call incident >>= newText)
      (incidentText call incident >>= newText) :=
    (framed_incidentText calls whole).bind fun _ _ => framed_newText _
  unfold textOfIncident
  split
  · exact framed_read fun world _ => framed_newText _
  · exact said
  · exact said
  · rename_i argument _ same _ _
    split
    · refine calls (.builtin .text) _ trivial (List.forall_mem_singleton.mpr (whole.arguments _ ?_))
      rw [same]
      exact .head _
    · exact said
  · exact said

theorem framed_textOf (calls : veil.FramedCalls call) (clear : veil.Clear value) :
    veil.Framed veil.Clear (textOf call value) (textOf call value) := by
  have displayed : veil.Framed veil.Clear (shown value >>= newText) (shown value >>= newText) :=
    (framed_shown clear).bind fun _ _ => framed_newText _
  refine framed_read fun world shut => ?_
  split
  · exact framed_untrusted trivial
  · rename_i address
    rw [objects_hide clear]
    split
    · rename_i incident found
      exact framed_textOfIncident calls (shut.objects _ _ found)
    · rename_i text _ found
      exact (framed_readSlot (shut.objects _ _ found).2.1).bind fun _ clear => framed_requireText clear
    · rename_i owner _ found
      rw [attributeOfClass?_hide]
      split
      · exact (calls (.method 0 (.object address) "__str__") [] clear nofun).bind fun _ clear =>
          framed_requireText clear
      · rename_i convert _ found
        exact (calls convert [] (clear_classAttribute? shut found) nofun).bind fun _ clear => framed_requireText clear
      · exact displayed
    · exact displayed
  · exact displayed

theorem framed_markupOf (calls : veil.FramedCalls call) (clear : veil.Clear value) :
    veil.Framed veil.Clear (markupOf call value) (markupOf call value) := by
  have escaped : veil.Framed veil.Clear (do newText (Html.escape (contentOf (← call (.builtin .text) [value]))))
      (do newText (Html.escape (contentOf (← call (.builtin .text) [value])))) :=
    (calls (.builtin .text) _ trivial (List.forall_mem_singleton.mpr clear)).bind fun _ _ => framed_newText _
  refine (framed_attributeIfAny clear _).bind fun found own => ?_
  split
  · exact escaped
  · exact escaped
  · exact calls _ [] (own _ rfl) nofun

/-! ## Raising and handling errors -/

theorem framed_located {here : Activation} (line : Nat) {action action' : Effect α}
    (framed : veil.Framed good action action') :
    veil.Framed good (located here line action) (located here line action') := by
  refine framed.recover fun error apart => ?_
  refine Framed.bind (framed_changeIncident apart ?_) fun _ _ => framed_failWith apart
  exact fun _ whole => ⟨whole.arguments, whole.attributes⟩

/-- Whether the outcome of an action is fine: a value that is, or an error other than the list. -/
def FineOutcome (veil : Veil) (good : α → Prop) : Except Nat α → Prop
  | .ok value => good value
  | .error error => error ≠ veil.list

theorem framed_attempted {action action' : Effect α} (framed : veil.Framed good action action') :
    veil.Framed (veil.FineOutcome good) (attempted action) (attempted action') :=
  Framed.recover (framed.bind fun _ fine => framed_pure fine) fun _ apart => framed_pure apart

theorem framed_resume {outcome : Except Nat α} (fine : veil.FineOutcome good outcome) :
    veil.Framed good (resume outcome) (resume outcome) := by
  cases outcome with
  | ok value => exact framed_pure fine
  | error error => exact framed_failWith fine

theorem framed_handling {error : Nat} (apart : error ≠ veil.list) {action action' : Effect α}
    (framed : veil.Framed good action action') :
    veil.Framed good (handling error action) (handling error action') := by
  refine framed_read fun world shut => ?_
  refine (framed_handle fun _ clear => List.forall_mem_cons.mpr ⟨apart, clear⟩).bind fun _ _ => ?_
  refine (framed_attempted framed).bind fun outcome fine => ?_
  exact (framed_handle fun _ _ => shut.handled).bind fun _ _ => framed_resume fine

/-- What follows a cleanup. -/
theorem framed_ending {holds : Flow → Prop} {outcome : Except Nat Flow}
    (goes : veil.Framed holds (resume outcome) (resume outcome)) : ∀ flow, holds flow → veil.Framed holds
      (match flow with | .proceed => resume outcome | flow => pure flow)
      (match flow with | .proceed => resume outcome | flow => pure flow) := by
  intro flow fits
  cases flow with
  | proceed => exact goes
  | _ => exact framed_pure fits

theorem framed_cleaned {holds : Flow → Prop} {cleanup cleanup' action action' : Effect Flow}
    (first : veil.Framed holds cleanup cleanup') (second : veil.Framed holds action action') :
    veil.Framed holds (cleaned cleanup action) (cleaned cleanup' action') := by
  refine (framed_attempted second).bind fun outcome fine => ?_
  cases outcome with
  | ok flow => exact first.bind (framed_ending (framed_resume fine))
  | error error => exact (framed_handling fine first).bind (framed_ending (framed_resume fine))

theorem framed_raiseAgain : veil.Framed good raiseAgain raiseAgain := by
  refine framed_read fun world shut => ?_
  have same : (veil.hide world).handled = world.handled := rfl
  rw [same]
  split
  · rename_i error _ found
    refine framed_failWith (shut.handled error ?_)
    rw [found]
    exact .head _
  · exact framed_raiseText _ _

theorem framed_rounds {holds : Flow → Prop} (proceeds : holds .proceed) {test test' : Effect Bool}
    {body body' otherwise otherwise' : Effect Flow} (first : veil.Framed (fun _ => True) test test')
    (second : veil.Framed holds body body') (third : veil.Framed holds otherwise otherwise') (steps : Nat) :
    veil.Framed holds (rounds test body otherwise steps) (rounds test' body' otherwise' steps) := by
  induction steps with
  | zero => exact framed_exhausted
  | succ steps ih =>
      refine first.bind fun goesOn _ => ?_
      cases goesOn with
      | false => exact third
      | true =>
          refine second.bind fun flow fits => ?_
          cases flow with
          | leave => exact framed_pure proceeds
          | finish value => exact framed_pure fits
          | proceed => exact ih
          | again => exact ih

theorem framed_raiseValue (calls : veil.FramedCalls call) (clear : veil.Clear value) :
    veil.Framed good (raiseValue call value) (raiseValue call value) := by
  refine framed_read fun world shut => ?_
  dsimp only
  split
  · exact (framed_newError calls _ (List.forall_mem_nil _)).bind fun _ apart => framed_failWith apart
  · rw [incident?_hide clear]
    split
    · exact framed_failWith clear
    · exact framed_raiseText _ _
  · exact framed_raiseText _ _

theorem framed_isOfKind {error : Nat} (apart : error ≠ veil.list) (value : Value) :
    veil.Framed (fun _ => True) (isOfKind error value) (isOfKind error value) := by
  refine framed_read fun world shut => ?_
  dsimp only
  rw [errorKind_hide apart]
  split
  · exact framed_pure trivial
  · split
    · exact framed_raiseText _ _
    · exact framed_pure trivial
  · exact framed_raiseText _ _

end Veil
end Stencil
