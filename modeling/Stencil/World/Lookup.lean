import Stencil.World.State

/-!
# Names

A name means what the scope of the running call binds it to, when it belongs to that scope; else what a scope around
it binds it to; else a global name, read at the time; else something built in.
-/

namespace Stencil

/-- The call that is running. -/
structure Activation where
  /-- The qualified name of the function that runs. -/
  name : Text
  /-- The name of its file in traces. -/
  file : Text
  scope : Nat
  /-- The number of the namespace of its global names. -/
  globals : Nat
  deriving Repr

/-- Why a name has no value. -/
inductive LookupError where
  /-- It belongs to the running call and has no value yet. -/
  | unassigned (name : Text)
  /-- It belongs to a scope around the running call and has no value there. -/
  | unassignedOutside (name : Text)
  | unknown (name : Text)
  deriving DecidableEq, Repr

namespace LookupError

/-- The kind of a lookup error. -/
def kind : LookupError → ErrorKind
  | unassigned _ => .unboundLocal
  | unassignedOutside _ | unknown _ => .name

/-- The description of a lookup error. -/
def message : LookupError → Text
  | unassigned name =>
    "cannot access local variable '" ++ name ++ "' where it is not associated with a value"
  | unassignedOutside name =>
    "cannot access free variable '" ++ name
      ++ "' where it is not associated with a value in enclosing scope"
  | unknown name => "name '" ++ name ++ "' is not defined"

end LookupError

/-- The built-in functions that scripts can name. -/
def Builtin.named : List (Text × Builtin) :=
  [("len", .length), ("range", .range), ("str", .text), ("sum", .sum), ("next", .next),
    ("iter", .iterate)]

namespace World

/-- What a name is built in as. -/
def builtin? (name : Text) : Option Value :=
  match Builtin.named.lookup name with
  | some function => some (.builtin function)
  | none => (ErrorKind.named? name).map .kind

/-- The innermost of a scope and at most `steps` scopes around it that a name belongs to. -/
def ownerOf? (world : World) (name : Text) : (steps scope : Nat) → Option Scope
  | 0, _ => none
  | steps + 1, scope =>
    match world.scopes[scope]? with
    | none => none
    | some found =>
      if found.names.contains name then some found
      else found.outer.bind (world.ownerOf? name steps)

/-- The value of a global or built-in name. -/
def globalValue (world : World) (globals : Nat) (name : Text) : Except LookupError Value :=
  match ((world.namespaces[globals]?).bind (·.lookup name)).or (builtin? name) with
  | some value => .ok value
  | none => .error (.unknown name)

/-- The value of a name. -/
def valueOf (world : World) (activation : Activation) (name : Text) : Except LookupError Value :=
  let own? := world.scopes[activation.scope]?
  match own?.filter (·.names.contains name) with
  | some own => match own.values.lookup name with
    | some value => .ok value
    | none => .error (.unassigned name)
  | none =>
    match (own?.bind Scope.outer).bind (world.ownerOf? name world.scopes.size) with
    | some owner => match owner.values.lookup name with
      | some value => .ok value
      | none => .error (.unassignedOutside name)
    | none => world.globalValue activation.globals name

end World

namespace Effect

/-- The value of a name. -/
def nameIn (activation : Activation) (name : Text) : Effect Value := do
  let world ← Effect.world
  match world.valueOf activation name with
  | .ok value => return value
  | .error error =>
    let notes := if error.kind = .name then [("name".toList, Value.plain name)] else []
    raiseNoting error.kind [.plain error.message] notes

/-- Change the values of a scope. -/
def changeScope (scope : Nat) (f : List (Text × Value) → List (Text × Value)) : Effect Unit :=
  change fun world =>
    { world with scopes := world.scopes.modify scope fun found =>
        { found with values := f found.values } }

/-- Bind a name of the running call. -/
def bindName (activation : Activation) (name : Text) (value : Value) : Effect Unit :=
  changeScope activation.scope (putEntry name value)

/-- Take away what a name of the running call is bound to. -/
def unbindName (activation : Activation) (name : Text) : Effect Unit :=
  changeScope activation.scope (·.filter (·.1 != name))

end Effect
end Stencil
