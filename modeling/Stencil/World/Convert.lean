import Stencil.Html.Escape
import Stencil.World.Evaluate

/-!
# Converting values to text

Every value has a text.  In markup a value's text is escaped, unless the value says itself what it is in markup.
-/

namespace Stencil

/-- The long message of a report. -/
def Report.message (colours : Bool) : Report → Text
  | .source fault => fault.message
  | .rendering fault => fault.message colours

namespace Effect

/-- What a value that was converted to text must be. -/
def requireText (value : Value) : Effect Value := do
  match value with
  | .text _ _ _ => return value
  | _ => raiseAbout value "__str__ returned non-string (type " [')']

/-- The text of an error: that of its report, if it carries one, or what it says itself. -/
def textOfIncident (call : Caller) (incident : Incident) : Effect Value := do
  match incident.report, incident.kind, incident.arguments with
  | some report, _, _ => newText (report.message (← Effect.world).colours)
  | none, .key, [_] | none, .quiet, _ => newText (← incidentText call incident)
  | none, _, [argument] =>
    if incident.attributes.isEmpty then call (.builtin .text) [argument]
    else newText (← incidentText call incident)
  | none, _, _ => newText (← incidentText call incident)

/-- The text of a value; it may be trusted text. -/
def textOf (call : Caller) (value : Value) : Effect Value := do
  let world ← Effect.world
  match value with
  | .text _ _ _ => untrusted value
  | .object address => match world.objects[address]? with
    | some (.error incident) => textOfIncident call incident
    | some (.guest _ text _) => requireText (← readSlot text)
    | some (.member owner _) => match world.attributeOfClass? owner "__str__" with
      | some (.hook _) => requireText (← call (.method 0 value "__str__") [])
      | some convert => requireText (← call convert [])
      | none => newText (← shown value)
    | _ => newText (← shown value)
  | _ => newText (← shown value)

/-- What a value is in markup: what it says itself, or its text escaped. -/
def markupOf (call : Caller) (value : Value) : Effect Value := do
  match ← attributeIfAny value "__html__" with
  | none | some .none =>
    let text ← call (.builtin .text) [value]
    newText (Html.escape (contentOf text))
  | some convert => call convert []

end Effect
end Stencil
