import Stencil.World.Iterate

/-!
# Attributes

Reading and setting attributes.  Attributes of an instance come before those of its class, and an attribute of a
class comes before those of the classes above it.  What is built in cannot be set.
-/

namespace Stencil

namespace World

/-- The names of the operations that a value has. -/
def operationsOf (world : World) : Value → List Text
  | .text _ trusted _ =>
    (if trusted then ["__html__".toList] else [])
      ++ ["upper".toList, "lower".toList, "title".toList, "join".toList]
  | .template _ => ["render".toList]
  | .object address =>
    match world.objects[address]? with
    | some (.list _) => ["append".toList]
    | some (.dict _) => ["items".toList]
    | some (.guest (some _) _ _) => ["__html__".toList]
    | _ => []
  | _ => []

/-- The properties that a template shows to scripts. -/
def propertyOf? (template : Template) (name : Text) : Option Value :=
  let shown (text : Option Text) : Value := match text with
    | some text => .plain text
    | none => .none
  [("name".toList, shown template.source.name), ("filename".toList, shown template.source.file),
    ("content_type".toList, .plain template.source.contentType),
    ("escape".toList, .bool template.escape), ("source".toList, .plain template.source.text),
    ("python_source".toList, .plain template.routine.text)].lookup name

/-- The bounds and the step of a range, by name. -/
def boundOf? (start stop step : Int) (name : Text) : Option Value :=
  [("start".toList, Value.number start), ("stop".toList, .number stop),
    ("step".toList, .number step)].lookup name

/-- The attributes that an object has of its own. -/
def ownSlots (world : World) : Value → List (Text × Slot)
  | .object address =>
    match world.objects[address]? with
    | some (.context attributes) | some (.guest _ _ attributes) | some (.member _ attributes) => attributes
    | some (.function _ attributes) => attributes.map fun entry => (entry.1, .value entry.2)
    | some (.error incident) =>
      ("args".toList, .value (.tuple 0 incident.arguments))
        :: incident.attributes.map (fun entry => (entry.1, .value entry.2))
        ++ incident.kind.fields.map fun name => (name, .value .none)
    | _ => []
  | _ => []

/-- What reading an attribute of a value gives, if the value has it. -/
def slotOf? (world : World) (value : Value) (name : Text) : Option Slot :=
  match (world.ownSlots value).lookup name with
  | some slot => some slot
  | none =>
    if (world.operationsOf value).contains name then some (.operation value name)
    else match value with
      | .template number =>
        (world.templates[number]?).bind fun template => (propertyOf? template name).map .value
      | .range _ start stop step => (boundOf? start stop step name).map .value
      | .object address =>
        match world.objects[address]? with
        | some (.member owner _) => (world.attributeOfClass? owner name).map fun
          | .hook _ => .operation value name
          | shared => .value shared
        | _ => none
      | _ => none

/-- What an error about an attribute calls a value. -/
def subjectOf (world : World) (value : Value) : Text :=
  match value with
  | .builtin .text => "type object 'str'"
  | .builtin .range => "type object 'range'"
  | .kind errors => "type object '" ++ errors.toText ++ ['\'']
  | .method _ receiver name =>
    if world.isScripted receiver name then "'function' object"
    else "'builtin_function_or_method' object"
  | _ => ['\''] ++ world.typeName value ++ "' object"

/-- What is said of an attribute that a value does not have. -/
def attributeMessage (world : World) (value : Value) (name : Text) : Text :=
  world.subjectOf value ++ " has no attribute '" ++ name ++ ['\'']

/-- Why an attribute of a value cannot be set. -/
def fixedMessage (world : World) (value : Value) (name : Text) : ErrorKind × Text :=
  let immutable (type : Text) : ErrorKind × Text :=
    (.typing, "cannot set '" ++ name ++ "' attribute of immutable type '" ++ type ++ ['\''])
  let subject : Text := ['\''] ++ world.typeName value ++ "' object"
  match value, world.slotOf? value name with
  | .builtin .text, _ => immutable "str"
  | .builtin .range, _ => immutable "range"
  | .kind errors, _ => immutable errors.toText
  | .template _, some (.value _) =>
    (.noAttribute, "property '" ++ name ++ "' of 'Template' object has no setter")
  | .range _ _ _ _, some _ => (.noAttribute, "readonly attribute")
  | _, some _ => (.noAttribute, subject ++ " attribute '" ++ name ++ "' is read-only")
  | _, none => (.noAttribute, subject ++ " has no attribute '" ++ name ++ ['\''])

end World

namespace Effect

/-- Read a slot. -/
def readSlot : Slot → Effect Value
  | .value value => return value
  | .operation receiver name => do return .method (← newIdentity) receiver name
  | .failing kind arguments => raise kind arguments

/-- The value of an attribute. -/
def attributeAt (value : Value) (name : Text) : Effect Value := do
  let world ← Effect.world
  match world.slotOf? value name with
  | some slot => readSlot slot
  | none =>
    let notes := [("name".toList, Value.plain name), ("obj".toList, value)]
    raiseNoting .noAttribute [.plain (world.attributeMessage value name)] notes

/-- The value of an attribute, or nothing when reading it says that there is no such attribute. -/
def attributeIfAny (value : Value) (name : Text) : Effect (Option Value) :=
  recover (do return some (← attributeAt value name)) fun error => do
    let world ← Effect.world
    if (world.errorKind error).isA .noAttribute then return none else failWith error

/-- Set an attribute of an error; its arguments are taken from anything that can be gone through. -/
def putErrorAttribute (call : Caller) (address : Nat) (name : Text) (content : Value) : Effect Unit :=
  if name = ("args" : Text) then do
    let arguments ← valuesIn call content
    change (World.changeIncident address fun incident => { incident with arguments := arguments })
  else
    change (World.changeIncident address fun incident =>
      { incident with attributes := putEntry name content incident.attributes })

/-- Set an attribute. -/
def putAttributeAt (call : Caller) (value : Value) (name : Text) (content : Value) : Effect Unit := do
  let world ← Effect.world
  let refused : Effect Unit :=
    let (kind, message) := world.fixedMessage value name
    raiseText kind message
  match value with
  | .object address => match world.objects[address]? with
    | some (.context attributes) =>
      store address (.context (putEntry name (.value content) attributes))
    | some (.guest html shown attributes) =>
      store address (.guest html shown (putEntry name (.value content) attributes))
    | some (.member owner attributes) =>
      store address (.member owner (putEntry name (.value content) attributes))
    | some (.function function attributes) =>
      store address (.function function (putEntry name content attributes))
    | some (.error _) => putErrorAttribute call address name content
    | _ => refused
  | _ => refused

end Effect
end Stencil
