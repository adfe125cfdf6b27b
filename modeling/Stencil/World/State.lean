import Stencil.World.Value

/-!
# The world of a script

Everything that a script can change or look at, and the effects on it.  An effect ends with a value, with an error,
or not at all when the bound on its steps is too small.
-/

namespace Stencil

/-- Everything that scripts and templates can reach. -/
structure World where
  library : Library
  objects : Array Object
  scopes : Array Scope
  classes : Array ClassRecord
  namespaces : Array (List (Text × Value))
  /-- The numbers of the namespaces of modules. -/
  modules : List (Text × Nat)
  templates : Array Template
  policies : Array EscapePolicy
  /-- How many identities have been given out. -/
  identities : Nat
  /-- The errors that are being handled, innermost first. -/
  handled : List Nat
  /-- Whether diagnostics are coloured. -/
  colours : Bool

/-- How an effect ends. -/
inductive Outcome (α : Type) where
  | done (value : α) (world : World)
  /-- The error object at an address was raised. -/
  | failed (error : Nat) (world : World)
  /-- The bound on the steps was too small. -/
  | exhausted

/-- What can be done in a world. -/
def Effect (α : Type) : Type := World → Outcome α

namespace Effect

instance : Monad Effect where
  pure value := fun world => .done value world
  bind action next := fun world =>
    match action world with
    | .done value world => next value world
    | .failed error world => .failed error world
    | .exhausted => .exhausted

/-- The current world. -/
def world : Effect World := fun world => .done world world

/-- Change the world. -/
def change (f : World → World) : Effect Unit := fun world => .done () (f world)

/-- Never end. -/
def exhausted {α : Type} : Effect α := fun _ => .exhausted

/-- Raise the error object at an address. -/
def failWith {α : Type} (error : Nat) : Effect α := fun world => .failed error world

/-- Go on after an error. -/
def recover {α : Type} (action : Effect α) (handler : Nat → Effect α) : Effect α := fun world =>
  match action world with
  | .failed error world => handler error world
  | outcome => outcome

/-- Make a new object and give its address. -/
def allocate (object : Object) : Effect Nat := fun world =>
  .done world.objects.size { world with objects := world.objects.push object }

/-- Replace the object at an address. -/
def store (address : Nat) (object : Object) : Effect Unit :=
  change fun world => { world with objects := world.objects.setIfInBounds address object }

/-- Make a new scope and give its number. -/
def openScope (scope : Scope) : Effect Nat := fun world =>
  .done world.scopes.size { world with scopes := world.scopes.push scope }

/-- Make a new namespace and give its number. -/
def openNamespace (entries : List (Text × Value)) : Effect Nat := fun world =>
  .done world.namespaces.size { world with namespaces := world.namespaces.push entries }

/-- A new identity. -/
def newIdentity : Effect Nat := fun world =>
  .done (world.identities + 1) { world with identities := world.identities + 1 }

/-- A number that was worked out; small ones are shared. -/
def newInt (value : Int) : Effect Value :=
  if -5 ≤ value ∧ value ≤ 256 then return .int 0 value else return .int (← newIdentity) value

/-- A text that was put together; the empty one and single characters of one byte are shared. -/
def newText (content : Text) : Effect Value :=
  let shared := match content with
    | [] => true
    | [char] => char.toNat < 256
    | _ => false
  if shared then return .text 0 false content else return .text (← newIdentity) false content

/-- A new text that is trusted. -/
def newMarkup (content : Text) : Effect Value := do return .text (← newIdentity) true content

/-- A new tuple; the empty one is shared. -/
def newTuple (items : List Value) : Effect Value :=
  if items.isEmpty then return .tuple 0 [] else return .tuple (← newIdentity) items

/-- Make a new list. -/
def newList (items : List Value) : Effect Value := do return .object (← allocate (.list items.toArray))

/-- Make a new error with attributes and raise it. -/
def raiseNoting {α : Type} (kind : ErrorKind) (arguments : List Value)
    (attributes : List (Text × Value)) : Effect α := do
  failWith (← allocate (.error ⟨kind, arguments, attributes, none, [], none⟩))

/-- Make a new error and raise it. -/
def raise {α : Type} (kind : ErrorKind) (arguments : List Value) : Effect α :=
  raiseNoting kind arguments []

/-- Raise a new error with a message. -/
def raiseText {α : Type} (kind : ErrorKind) (message : Text) : Effect α :=
  raise kind [.plain message]

/-- Raise a new error that carries a report. -/
def raiseReport {α : Type} (kind : ErrorKind) (cause : Option ErrorKind) (report : Report)
    (message : Text) : Effect α := do
  failWith (← allocate (.error ⟨kind, [.plain message], [], some report, [], cause⟩))

end Effect

/-- Put a value under a name, in place of the one that is there. -/
def putEntry {α : Type} (name : Text) (value : α) : List (Text × α) → List (Text × α)
  | [] => [(name, value)]
  | entry :: entries =>
    if entry.1 = name then (name, value) :: entries else entry :: putEntry name value entries

namespace World

/-- The error at an address. -/
def incident? (world : World) (address : Nat) : Option Incident :=
  match world.objects[address]? with
  | some (.error incident) => some incident
  | _ => none

/-- The kind of the error at an address. -/
def errorKind (world : World) (address : Nat) : ErrorKind :=
  match world.incident? address with
  | some incident => incident.kind
  | none => .exception

/-- Change the error at an address. -/
def changeIncident (address : Nat) (f : Incident → Incident) (world : World) : World :=
  match world.incident? address with
  | some incident =>
    { world with objects := world.objects.setIfInBounds address (.error (f incident)) }
  | none => world

/-- The attribute of a class or of the classes above it, of which there are at most `steps`. -/
def classAttribute? (world : World) (name : Text) : (steps owner : Nat) → Option Value
  | 0, _ => none
  | steps + 1, owner =>
    match world.classes[owner]? with
    | none => none
    | some record =>
      match record.attributes.lookup name with
      | some value => some value
      | none => record.base.bind (world.classAttribute? name steps)

/-- The attribute of a class or of a class above it. -/
def attributeOfClass? (world : World) (owner : Nat) (name : Text) : Option Value :=
  world.classAttribute? name (world.classes.size + 1) owner

/-- Whether the operation of that name of a value is written in the language of scripts and not built in. -/
def isScripted (world : World) (receiver : Value) (name : Text) : Bool :=
  match receiver with
  | .text _ _ _ => name == "__html__".toList
  | .object address =>
    match world.objects[address]? with
    | some (.list _) | some (.dict _) => false
    | _ => true
  | _ => true

/-- The name of the type of an iterator. -/
def passageName : Passage → Text
  | .characters true _ => "str_ascii_iterator"
  | .characters false _ => "str_iterator"
  | .items _ => "tuple_iterator"
  | .along _ _ => "list_iterator"
  | .keys _ _ _ => "dict_keyiterator"
  | .pairs _ _ _ => "dict_itemiterator"
  | .counting true _ _ _ => "longrange_iterator"
  | .counting false _ _ _ => "range_iterator"
  | .calling _ _ => "callable_iterator"

/-- The name of the type of a value. -/
def typeName (world : World) : Value → Text
  | .none => "NoneType"
  | .bool _ => "bool"
  | .int _ _ => "int"
  | .text _ true _ => "Markup"
  | .text _ false _ => "str"
  | .tuple _ _ => "tuple"
  | .range _ _ _ _ => "range"
  | .builtin .text | .builtin .range | .kind _ => "type"
  | .builtin .escape | .hook _ => "function"
  | .builtin _ => "builtin_function_or_method"
  | .method _ receiver name =>
    if world.isScripted receiver name then "method" else "builtin_function_or_method"
  | .template _ => "Template"
  | .object address =>
    match world.objects[address]? with
    | some (.list _) => "list"
    | some (.dict _) => "dict"
    | some (.entries _) => "dict_items"
    | some (.context _) => "Ctx"
    | some (.guest (some _) _ _) => "Safe"
    | some (.guest none _ _) => "Loud"
    | some (.member owner _) =>
      match world.classes[owner]? with
      | some record => record.name
      | none => "object"
    | some (.function _ _) => "function"
    | some (.iterator iterator) => passageName iterator.passage
    | some (.error incident) => incident.kind.toText
    | none => "object"

end World
end Stencil
