import Stencil.World.Display

/-!
# Sketches

A sketch describes a value from outside: it is built anew wherever it is used, so that no two uses share an object.
Parts that a session has named are referred to by their names.
-/

namespace Stencil

/-- The description of a value. -/
inductive Sketch where
  | none
  | bool (value : Bool)
  | int (value : Int)
  | text (trusted : Bool) (content : Text)
  | list (items : List Sketch)
  | tuple (items : List Sketch)
  | dict (entries : List (Sketch × Sketch))
  /-- A value that has nothing but attributes. -/
  | context (attributes : List (Text × Sketch))
  /-- A value with a text, and possibly with trusted text. -/
  | guest (html : Option Sketch) (text : Sketch)
  /-- A new instance of a class, with attributes of its own. -/
  | member (className : Text) (attributes : List (Text × Sketch))
  | template (id : Text)
  /-- An error instead of a value, raised anew each time the value is asked for. -/
  | failing (kind : ErrorKind) (arguments : List Sketch)
  deriving Repr

/-- What the parts of a session are called. -/
structure Registry where
  loaders : List (Text × Loader)
  /-- The numbers of policies. -/
  policies : List (Text × Nat)
  environments : List (Text × Environment)
  /-- The numbers of templates. -/
  templates : List (Text × Nat)
  /-- The numbers of classes. -/
  classes : List (Text × Nat)
  deriving Repr

namespace Registry

/-- Nothing has a name. -/
def empty : Registry := ⟨[], [], [], [], []⟩

end Registry

namespace Effect

/-- What a name stands for. -/
def found {α : Type} (id : Text) (entries : List (Text × α)) : Effect α :=
  match entries.lookup id with
  | some value => return value
  | none => raise .key [.plain id]

end Effect

open Effect

/-- The value in a slot that is read once. -/
def Slot.settled : Slot → Value
  | .value found => found
  | .operation _ _ | .failing _ _ => .none

namespace Sketch

mutual

/-- Build what a sketch describes. -/
def slot (registry : Registry) : Sketch → Effect Slot
  | .none => return .value .none
  | .bool value => return .value (.bool value)
  | .int value => do return .value (← newInt value)
  | .text true content => do return .value (← newMarkup content)
  | .text false content => do return .value (← newText content)
  | .list items => do return .value (← newList ((← slots registry items).map Slot.settled))
  | .tuple items => do return .value (← newTuple ((← slots registry items).map Slot.settled))
  | .dict entries => do return .value (← newDict (← pairs registry entries))
  | .context attributes => do
    return .value (.object (← allocate (.context (← namedSlots registry attributes))))
  | .guest html shown => do
    let html ← match html with
      | Option.none => pure Option.none
      | some html => do pure (some (← slot registry html))
    return .value (.object (← allocate (.guest html (← slot registry shown) [])))
  | .member className attributes => do
    let owner ← found className registry.classes
    return .value (.object (← allocate (.member owner (← namedSlots registry attributes))))
  | .template id => do return .value (.template (← found id registry.templates))
  | .failing kind arguments => do
    return .failing kind ((← slots registry arguments).map Slot.settled)

/-- Build what sketches describe. -/
def slots (registry : Registry) : List Sketch → Effect (List Slot)
  | [] => return []
  | sketch :: sketches => do
    let built ← slot registry sketch
    return built :: (← slots registry sketches)

/-- Build keys and contents. -/
def pairs (registry : Registry) : List (Sketch × Sketch) → Effect (List (Value × Value))
  | [] => return []
  | (key, content) :: entries => do
    let key ← slot registry key
    let content ← slot registry content
    return (key.settled, content.settled) :: (← pairs registry entries)

/-- Build attributes. -/
def namedSlots (registry : Registry) : List (Text × Sketch) → Effect (List (Text × Slot))
  | [] => return []
  | (name, sketch) :: attributes => do
    let built ← slot registry sketch
    return (name, built) :: (← namedSlots registry attributes)

end

/-- Build a value. -/
def build (registry : Registry) (sketch : Sketch) : Effect Value := do
  return (← sketch.slot registry).settled

/-- Build named values. -/
def buildNamed (registry : Registry) (sketches : List (Text × Sketch)) :
    Effect (List (Text × Value)) := do
  let built ← namedSlots registry sketches
  return built.map fun entry => (entry.1, entry.2.settled)

/-- The description of a value, as far as it can be told apart from its text; `steps` bounds how deep it
is looked into. -/
def ofValue (world : World) : (steps : Nat) → Value → Sketch
  | 0, _ => .none
  | steps + 1, value =>
    match value with
    | .none => .none
    | .bool value => .bool value
    | .int _ value => .int value
    | .text _ trusted content => .text trusted content
    | .tuple _ items => .tuple (items.map (ofValue world steps))
    | _ => match world.itemsOf? value, world.entriesOf? value with
      | some items, _ => .list (items.map (ofValue world steps))
      | _, some entries =>
        .dict (entries.map fun entry => (ofValue world steps entry.1, ofValue world steps entry.2))
      | _, _ => match world.shownWithin World.shownDepth [] value with
        | .ok shown => .text false shown
        | .error _ => .none

end Sketch
end Stencil
