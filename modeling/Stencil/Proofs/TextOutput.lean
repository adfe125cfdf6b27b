import Stencil.Proofs.DirectRun
import Stencil.Proofs.Effects
import Stencil.World.Call

/-!
# Output that is text

Converting a value to text gives a text whenever it gives anything, so what steps put out makes a text when nothing but
that conversion is used.
-/

namespace Stencil

open Effect Script

/-- Whether a value is a text. -/
def Value.IsText : Value → Prop
  | .text _ _ _ => True
  | _ => False

/-- Whether all values of a list are texts. -/
def AllTexts (values : List Value) : Prop := ∀ value ∈ values, value.IsText

theorem outputOf?_of_texts {values : List Value} (texts : AllTexts values) : ∃ text, outputOf? values = some text := by
  induction values with
  | nil => exact ⟨[], rfl⟩
  | cons value values ih =>
      obtain ⟨own, others⟩ := List.forall_mem_cons.mp texts
      obtain ⟨text, makes⟩ := ih others
      cases value with
      | text identity trusted content => exact ⟨content ++ text, by rw [outputOf?, makes, Option.map_some]⟩
      | _ => cases own

theorem texts_of_outputOf? {values : List Value} {text : Text} (makes : outputOf? values = some text) :
    AllTexts values := by
  induction values generalizing text with
  | nil => exact List.forall_mem_nil _
  | cons value values ih =>
      cases value with
      | text identity trusted content =>
          obtain ⟨behind, others, -⟩ := Option.map_eq_some_iff.mp makes
          exact List.forall_mem_cons.mpr ⟨trivial, ih others⟩
      | _ => cases makes

/-! ## Conversions to text -/

/-- Whether an action ends with a text, when it ends. -/
def GivesText (action : Effect Value) : Prop := ∀ world value after, action world = .done value after → value.IsText

theorem givesText_bind {α : Type} {action : Effect α} {next : α → Effect Value}
    (each : ∀ value, GivesText (next value)) :
    GivesText (action >>= next) := by
  intro world value after ended
  obtain ⟨found, between, -, ended⟩ := of_bind_done ended
  exact each found between value after ended

theorem givesText_newText (content : Text) : GivesText (newText content) := by
  have made (shared : Bool) : GivesText (if shared then pure (.text 0 false content) else
      newIdentity >>= fun identity => pure (.text identity false content)) := by
    cases shared with
    | false => exact givesText_bind fun identity world value after ended => by cases ended; trivial
    | true => exact fun world value after ended => by cases ended; trivial
  exact made _

theorem givesText_raise (kind : ErrorKind) (message : Text) : GivesText (raiseText kind message) :=
  fun _ _ _ ended => by cases ended

theorem givesText_requireText (value : Value) : GivesText (requireText value) := by
  intro world found after ended
  cases value with
  | text identity trusted content =>
      cases ended
      trivial
  | _ => cases ended

theorem givesText_untrusted (identity : Nat) (trusted : Bool) (content : Text) :
    GivesText (untrusted (.text identity trusted content)) := by
  cases trusted with
  | true => exact givesText_newText content
  | false =>
      intro world found after ended
      cases ended
      trivial

theorem givesText_located {here : Activation} (line : Nat) {action : Effect Value} (gives : GivesText action) :
    GivesText (located here line action) := by
  intro world value after ended
  unfold located recover at ended
  cases first : action world with
  | done found between =>
      rw [first] at ended
      cases ended
      exact gives _ _ _ first
  | failed error between =>
      rw [first] at ended
      cases ended
  | exhausted =>
      rw [first] at ended
      cases ended

section Calls

variable {call : Caller} (texts : ∀ value, GivesText (call (.builtin .text) [value]))
include texts

theorem givesText_textOfIncident (incident : Incident) : GivesText (textOfIncident call incident) := by
  unfold textOfIncident
  split
  · exact givesText_bind fun _ => givesText_newText _
  · exact givesText_bind fun _ => givesText_newText _
  · exact givesText_bind fun _ => givesText_newText _
  · split
    · exact texts _
    · exact givesText_bind fun _ => givesText_newText _
  · exact givesText_bind fun _ => givesText_newText _

theorem givesText_textOf (value : Value) : GivesText (textOf call value) := by
  unfold textOf
  refine givesText_bind fun world => ?_
  split
  · exact givesText_untrusted _ _ _
  · split
    · exact givesText_textOfIncident texts _
    · exact givesText_bind givesText_requireText
    · split
      · exact givesText_bind givesText_requireText
      · exact givesText_bind givesText_requireText
      · exact givesText_bind fun _ => givesText_newText _
    · exact givesText_bind fun _ => givesText_newText _
  · exact givesText_bind fun _ => givesText_newText _

end Calls

/-- Converting a value to text gives a text. -/
theorem givesText_callWithin (steps depth : Nat) (value : Value) :
    GivesText (callWithin steps depth (.builtin .text) [value]) := by
  induction depth generalizing value with
  | zero => exact givesText_raise _ _
  | succ depth ih => exact givesText_bind fun _ => givesText_textOf ih value

/-! ## Running steps -/

/-- Whether an action puts out nothing but texts. -/
def PutsText (action : Effect Yield) : Prop := ∀ world yield after, action world = .done yield after → AllTexts yield.2

section Steps

variable {here : Activation} (steps depth rounds : Nat)

theorem putsText_bind {α : Type} {action : Effect α} {next : α → Effect Yield} (each : ∀ value, PutsText (next value)) :
    PutsText (action >>= next) := by
  intro world yield after ended
  obtain ⟨found, between, -, ended⟩ := of_bind_done ended
  exact each found between yield after ended

theorem putsText_behind {action : Effect Yield} (puts : PutsText action) {output : List Value}
    (texts : AllTexts output) :
    PutsText (action >>= fun yield => pure (yield.behind output)) := by
  intro world yield after ended
  obtain ⟨found, between, first, ended⟩ := of_bind_done ended
  cases ended
  exact List.forall_mem_append.mpr ⟨texts, puts _ _ _ first⟩

theorem putsText_repeated {test : Effect Bool} {body otherwise : Effect Yield} (bodies : PutsText body)
    (others : PutsText otherwise) (count : Nat) : PutsText (repeated test body otherwise count) := by
  induction count with
  | zero => exact fun world yield after ended => by cases ended
  | succ count ih =>
      refine putsText_bind fun passed => ?_
      cases passed with
      | false => exact others
      | true =>
          intro world yield after ended
          obtain ⟨⟨flow, output⟩, between, first, ended⟩ := of_bind_done ended
          have texts := bodies _ _ _ first
          cases flow with
          | leave =>
              cases ended
              exact texts
          | finish value =>
              cases ended
              exact texts
          | proceed => exact putsText_behind ih texts _ _ _ ended
          | again => exact putsText_behind ih texts _ _ _ ended

mutual

theorem putsText_run : ∀ (step : Step), PutsText (step.run (callWithin steps depth) rounds here .text)
  | .text content => by
    intro world yield after ended
    cases ended
    exact List.forall_mem_singleton.mpr trivial
  | .value line code => by
    refine putsText_bind fun value => ?_
    intro world yield after ended
    obtain ⟨found, between, first, ended⟩ := of_bind_done ended
    cases ended
    exact List.forall_mem_singleton.mpr (givesText_located _ (givesText_callWithin steps depth value) _ _ _ first)
  | .perform statement => by
    intro world yield after ended
    obtain ⟨flow, between, -, ended⟩ := of_bind_done ended
    cases ended
    exact List.forall_mem_nil _
  | .branch test body otherwise => by
    refine putsText_bind fun value => putsText_bind fun passed => ?_
    cases passed with
    | true => exact putsText_runSteps body
    | false => exact putsText_runSteps otherwise
  | .loop test body otherwise => putsText_repeated (putsText_runSteps body) (putsText_runSteps otherwise) rounds
  | .each line target source body otherwise =>
    putsText_bind fun _ => putsText_bind fun _ =>
      putsText_repeated (putsText_runSteps body) (putsText_runSteps otherwise) rounds

/-- Steps put out texts when values are converted to text. -/
theorem putsText_runSteps : ∀ (all : List Step), PutsText (runSteps (callWithin steps depth) rounds here .text all)
  | [] => by
    intro world yield after ended
    cases ended
    exact List.forall_mem_nil _
  | step :: all => by
    intro world yield after ended
    rw [runSteps] at ended
    obtain ⟨⟨flow, output⟩, between, first, ended⟩ := of_bind_done ended
    have texts := putsText_run step _ _ _ first
    cases flow with
    | proceed => exact putsText_behind (putsText_runSteps all) texts _ _ _ ended
    | leave =>
      cases ended
      exact texts
    | again =>
      cases ended
      exact texts
    | finish value =>
      cases ended
      exact texts

end

end Steps

end Stencil
