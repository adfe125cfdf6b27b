import Stencil.Proofs.NestedFailures
import Stencil.Proofs.PlainSources

/-!
# Failing fragments

A template of text lines and blank lines puts out its literals and its fragments in order.  Rendering it gives back what
they make together, if every fragment is converted to a text; and an error that a fragment raises, when it is evaluated
or when its value is converted, is reported with the template line of the fragment.
-/

namespace Stencil

open Effect Script Routine

/-! ## Steps of output -/

/-- The steps of output lines: texts and fragments, each fragment with the line that it stands on. -/
inductive Step.IsOutput : Step → Prop where
  | text (content : Text) : IsOutput (.text content)
  | value (line : Nat) (code : Expr) : IsOutput (.value line (code.at line))

theorem Relined.passed {α : Type} {one other : TraceLine} {error : Nat} {world : World} {outcome : Outcome α}
    (relined : Relined one other (.failed error world) outcome) : world.Passed error one := by
  cases relined with
  | failed last => exact last

section Runs

variable {call : Caller} {rounds : Nat} {here : Activation} {converter : Builtin}

theorem run_output {step : Step} (output : step.IsOutput) {world after : World} {yield : Yield}
    (ended : step.run call rounds here converter world = .done yield after) : yield.1 = .proceed := by
  cases output with
  | text content =>
      cases ended
      rfl
  | value line code =>
      obtain ⟨value, between, -, ended⟩ := of_bind_done ended
      obtain ⟨text, between', -, ended⟩ := of_bind_done ended
      cases ended
      rfl

theorem runSteps_output {steps : List Step} (outputs : ∀ step ∈ steps, step.IsOutput) {world after : World}
    {yield : Yield} (ended : runSteps call rounds here converter steps world = .done yield after) :
    yield.1 = .proceed := by
  induction steps generalizing world yield with
  | nil =>
      cases ended
      rfl
  | cons step steps ih =>
      obtain ⟨own, others⟩ := List.forall_mem_cons.mp outputs
      rw [runSteps_cons] at ended
      obtain ⟨⟨flow, output⟩, between, first, ended⟩ := of_bind_done ended
      obtain rfl : flow = .proceed := run_output own first
      obtain ⟨rest, between', second, ended⟩ := of_bind_done ended
      cases ended
      exact (ih others second : rest.1 = .proceed)

end Runs

/-! ## Templates of output lines -/

theorem Matching.run_output (root : List Node) {lines : List Line} (textual : ∀ line ∈ lines, line.isDirective = false) :
    (⟨root, [], none, none⟩ : Matching).run lines = .ok ⟨root ++ lines.map Line.leaf, [], none, none⟩ := by
  induction lines generalizing root with
  | nil => rw [List.map_nil, List.append_nil, Matching.run]
  | cons line lines ih =>
      obtain ⟨own, others⟩ := List.forall_mem_cons.mp textual
      have step : (⟨root, [], none, none⟩ : Matching).step line = .ok ⟨root ++ [line.leaf], [], none, none⟩ := by
        rw [Line.isDirective] at own
        rw [Matching.step]
        cases form : line.form with
        | directive statement =>
            rw [form] at own
            cases own
        | text parts | blank => rfl
      rw [Matching.run, step]
      dsimp only
      rw [ih _ others, List.map_cons, List.append_assoc, List.singleton_append]

variable {template : Template} {world : World} {context : Value}

/-- Whether a source has text lines and blank lines only, and no fragment with a carriage return inside. -/
def TemplateSource.isOutput (marker : Text) (source : TemplateSource) : Bool :=
  match Line.ofSource marker source.text with
  | .ok lines => lines.all fun line =>
    !line.isDirective && line.fragments.all fun inserted => !inserted.code.contains '\r'
  | .error _ => false

end Stencil
