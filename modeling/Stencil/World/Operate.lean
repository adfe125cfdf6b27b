import Stencil.World.Format

/-!
# Operations

Arithmetic, comparisons and access by index.  Quotients go to the floor, and a remainder has the sign of the
divisor.
-/

namespace Stencil

/-- The written form of an arithmetic operation. -/
def Script.BinaryOp.symbol : Script.BinaryOp → Text
  | add => ['+']
  | subtract => ['-']
  | multiply => ['*']
  | floorDivide => ['/', '/']
  | modulo => ['%']

/-- The value of a written constant. -/
def Value.ofConstant : Script.Constant → Value
  | .none => .none
  | .bool value => .bool value
  | .int value => .number value
  | .text value => .plain value

/-- The name of a value that is a type. -/
def Value.nameOfType : Value → Text
  | .builtin function => function.name
  | .kind errors => errors.toText
  | _ => []

namespace World

/-- Whether a value is a sequence that can be repeated. -/
def repeats (world : World) : Value → Bool
  | .text _ _ _ | .tuple _ _ => true
  | value => (world.itemsOf? value).isSome

/-- Whether a value holds or could hold others. -/
def holdsOthers (world : World) : Value → Bool
  | .text _ _ _ | .tuple _ _ | .range _ _ _ _ | .template _ => true
  | .object address =>
    match world.objects[address]? with
    | some (.list _) | some (.dict _) | some (.entries _) | some (.context _)
    | some (.guest _ _ _) | some (.member _ _) => true
    | _ => false
  | _ => false

/-- Whether a value is among others; absent when they are too deep to be compared. -/
def among? (world : World) (value : Value) : List Value → Option Bool
  | [] => some false
  | other :: others => do if ← world.same? other value then return true else world.among? value others

end World

namespace Effect

/-- Raise the error about two values between which there is no operation of that name. -/
def raiseBetween {α : Type} (symbol : Text) (left right : Value) : Effect α := do
  let world ← Effect.world
  raiseText .typing ("unsupported operand type(s) for " ++ symbol ++ ": '" ++ world.typeName left
    ++ "' and '" ++ world.typeName right ++ ['\''])

/-- Raise the error about a value that cannot be put behind a sequence of some type. -/
def raiseUnjoined {α : Type} (sequence : Text) (right : Value) : Effect α :=
  raiseAbout right ("can only concatenate " ++ sequence ++ " (not \"") ("\") to " ++ sequence)

/-- A text that is not trusted; a trusted one is copied. -/
def untrusted (value : Value) : Effect Value :=
  match value with
  | .text _ true content => newText content
  | _ => return value

/-- Put a text behind another one. -/
def concatenateTexts (left right : Value) : Effect Value :=
  match left, right with
  | .text _ false [], _ => untrusted right
  | _, .text _ false [] => untrusted left
  | _, _ => newText (contentOf left ++ contentOf right)

/-- Put a sequence behind another one of its type, unless the operands are numbers. -/
def concatenate (symbol : Text) (left right : Value) : Effect Value := do
  let world ← Effect.world
  match left, right with
  | .text _ _ _, .text _ _ _ => concatenateTexts left right
  | .text _ _ _, _ => raiseUnjoined "str" right
  | .tuple _ [], .tuple _ _ => return right
  | .tuple _ _, .tuple _ [] => return left
  | .tuple _ items, .tuple _ items' => newTuple (items ++ items')
  | .tuple _ _, _ => raiseUnjoined "tuple" right
  | .object _, _ => match world.itemsOf? left, right with
    | none, _ => raiseBetween symbol left right
    | some items, .object _ => match world.itemsOf? right with
      | some items' => newList (items ++ items')
      | none => raiseUnjoined "list" right
    | some _, _ => raiseUnjoined "list" right
  | _, _ => raiseBetween symbol left right

/-- How many items a sequence can have. -/
def mostItems : Nat := Nat.pow 2 28

/-- A list so many times in a row, unless that is too long. -/
def replicated {α : Type} (count : Int) (items : List α) : Effect (List α) :=
  if items.isEmpty then return []
  else if mostItems < count.toNat * items.length then raise .memory []
  else return (List.replicate count.toNat items).flatten

/-- Raise the error about a number that is too large for an index or a count. -/
def raiseUnfit {α : Type} (kind : ErrorKind) (number : Value) : Effect α := do
  let world ← Effect.world
  raiseText kind ("cannot fit '" ++ world.typeName number ++ "' into an index-sized integer")

/-- The number that a value is repeated by. -/
def repetitionCount (count : Value) : Effect Int := do
  match count.toInt? with
  | some number =>
    if fitsWord number then return number
    else raiseUnfit .overflow count
  | none => raiseAbout count "can't multiply sequence by non-int of type '" ['\'']

/-- A sequence so many times in a row; not at all for a negative count. -/
def repeated (count value : Value) : Effect Value := do
  let number ← repetitionCount count
  let world ← Effect.world
  match value with
  | .text _ trusted content =>
    if number = 1 ∧ !trusted then return value
    else if 0 < number ∧ Int.pow 2 63 ≤ number * content.length then
      raiseText .overflow "repeated string is too long"
    else newText (← replicated number content)
  | .tuple _ items =>
    if number = 1 ∨ items.isEmpty then return value else newTuple (← replicated number items)
  | _ => newList (← replicated number ((world.itemsOf? value).getD []))

/-- Repeat a sequence, unless the operands are numbers. -/
def repetition (symbol : Text) (left right : Value) : Effect Value := do
  let world ← Effect.world
  if world.repeats left then repeated right left
  else if world.repeats right then repeated left right
  else raiseBetween symbol left right

/-- The result of an arithmetic operation on numbers. -/
def calculated (operation : Script.BinaryOp) (left right : Int) : Effect Value :=
  match operation with
  | .add => newInt (left + right)
  | .subtract => newInt (left - right)
  | .multiply => newInt (left * right)
  | .floorDivide =>
    if right = 0 then raiseText .zeroDivision "integer division or modulo by zero"
    else newInt (left.fdiv right)
  | .modulo =>
    if right = 0 then raiseText .zeroDivision "integer modulo by zero" else newInt (left.fmod right)

/-- Refuse a value that cannot be a key. -/
def checkKey (key : Value) : Effect Unit := do
  let world ← Effect.world
  match world.unhashable? World.comparisonDepth key with
  | some name => raiseText .typing ("unhashable type: '" ++ name ++ ['\''])
  | none => return ()

/-- What is under a key of a dictionary with some entries, if anything is. -/
def lookUp (entries : List (Value × Value)) (key : Value) : Effect (Option Value) := do
  checkKey key
  decided (Value.underKey (← Effect.world).same? key entries)

/-- The place in a sequence of some length that an index means; negative ones count from its end. -/
def place? (length : Nat) (index : Int) : Option Nat :=
  let place := if index < 0 then index + length else index
  if 0 ≤ place ∧ place < length then some place.toNat else none

/-- The place in a sequence that a value means.  `unfit` is raised for a value that is no number, and `missing`
says that there is no such place. -/
def placeIn (length : Nat) (unfit : Effect Nat) (missing : Text) (index : Value) : Effect Nat :=
  match index.toInt? with
  | none => unfit
  | some number =>
    if !fitsWord number then raiseUnfit .index index
    else match place? length number with
      | some place => return place
      | none => raiseText .index missing

/-- The place in a sequence of some type that a value means; `subject` is how errors about a missing
place call the sequence. -/
def placeInSequence (type subject : Text) (length : Nat) (index : Value) : Effect Nat :=
  placeIn length (raiseAbout index (type ++ " indices must be integers or slices, not ") [])
    (subject ++ " out of range") index

/-- The value at an index of a container. -/
def itemAt (container index : Value) : Effect Value := do
  let world ← Effect.world
  match container with
  | .text _ _ content =>
    let place ← placeIn content.length
      (raiseAbout index "string indices must be integers, not '" ['\''])
      "string index out of range" index
    newText (content[place]?).toList
  | .tuple _ items =>
    let place ← placeInSequence "tuple" "tuple index" items.length index
    return (items[place]?).getD .none
  | .range _ start stop step => match index.toInt? with
    | none => raiseAbout index "range indices must be integers or slices, not " []
    | some number => match place? (Value.rangeLength start stop step) number with
      | some place => newInt (start + place * step)
      | none => raiseText .index "range object index out of range"
  | .builtin .text | .builtin .range | .kind _ =>
    raiseText .typing ("type '" ++ container.nameOfType ++ "' is not subscriptable")
  | .object address => match world.objects[address]? with
    | some (.list items) =>
      let place ← placeInSequence "list" "list index" items.size index
      return (items[place]?).getD .none
    | some (.dict entries) =>
      match ← lookUp entries index with
      | some value => return value
      | none => raise .key [index]
    | _ => raiseAbout container ['\''] "' object is not subscriptable"
  | _ => raiseAbout container ['\''] "' object is not subscriptable"

/-- Put a value at an index of a container. -/
def putItemAt (container index value : Value) : Effect Unit := do
  let world ← Effect.world
  let refused : Effect Unit := raiseAbout container ['\''] "' object does not support item assignment"
  match container with
  | .object address => match world.objects[address]? with
    | some (.list items) =>
      let place ← placeInSequence "list" "list assignment index" items.size index
      store address (.list (items.setIfInBounds place value))
    | some (.dict entries) =>
      checkKey index
      store address (.dict (← decided (world.putKey? index value entries)))
    | _ => refused
  | _ => refused

/-- The result of an arithmetic operation; `symbol` is how errors write it. -/
def arithmetic (call : Caller) (operation : Script.BinaryOp) (symbol : Text) (left right : Value) :
    Effect Value :=
  match left.toInt?, right.toInt? with
  | some number, some number' => calculated operation number number'
  | _, _ => match operation, left with
    | .add, _ => concatenate symbol left right
    | .multiply, _ => repetition symbol left right
    | .modulo, .text _ _ content => filled call itemAt content right
    | _, _ => raiseBetween symbol left right

/-- The result of an operation. -/
def binary (call : Caller) (operation : Script.BinaryOp) (left right : Value) : Effect Value :=
  arithmetic call operation operation.symbol left right

/-- Put a value at the end of a list object. -/
def append (list : Nat) (value : Value) : Effect Unit :=
  change fun world =>
    { world with objects := world.objects.modify list fun
      | .list items => .list (items.push value)
      | object => object }

/-- Put values at the end of a list object. -/
def appendAll (list : Nat) (values : List Value) : Effect Unit :=
  change fun world =>
    { world with objects := world.objects.modify list fun
      | .list items => .list (items.append values.toArray)
      | object => object }

/-- Put what going through a value gives at the end of a list object. -/
def extend (call : Caller) (list : Nat) (value : Value) : Effect Unit := do
  let world ← Effect.world
  match world.valuesOf? value, world.iterator? value with
  | some more, _ => appendAll list more
  | none, some (address, _) => foldValues call address (fun _ value => append list value) ()
  | none, none => raiseNotIterable value

/-- The result of an operation whose result replaces the left value; a list changes in place. -/
def updated (call : Caller) (operation : Script.BinaryOp) (left right : Value) : Effect Value := do
  let world ← Effect.world
  let symbol := operation.symbol ++ ['=']
  match operation, left, world.itemsOf? left with
  | .add, .object address, some _ =>
    extend call address right
    return left
  | .multiply, .object address, some items =>
    let number ← repetitionCount right
    store address (.list (← replicated number items).toArray)
    return left
  | .multiply, _, _ =>
    if world.holdsOthers left && !world.repeats left then raiseBetween symbol left right
    else arithmetic call operation symbol left right
  | _, _, _ => arithmetic call operation symbol left right

/-- The negative of a number. -/
def negative (value : Value) : Effect Value :=
  match value.toInt? with
  | some number => newInt (-number)
  | none => raiseAbout value "bad operand type for unary -: '" ['\'']

/-- Whether a pair is among the entries of a dictionary. -/
def containsPair (entries : List (Value × Value)) (pair : Value) : Effect Bool :=
  match pair with
  | .tuple _ [key, value] => do
    match ← lookUp entries key with
    | some found => areEqual found value
    | none => return false
  | _ => return false

/-- Whether an iterator gives a value, which is then the last one that it gave. -/
def gives (call : Caller) (iterator : Nat) (value : Value) : Effect Bool :=
  foldIterator call iterator (fun found => !found) (fun _ other => areEqual other value) loopBound false

/-- Whether a value is in a container. -/
def contains (call : Caller) (value container : Value) : Effect Bool := do
  let world ← Effect.world
  match container, value with
  | .text _ _ content, .text _ _ part => return Text.occursIn part content || part.isEmpty
  | .text _ _ _, _ => raiseAbout value "'in <string>' requires string as left operand, not " []
  | .range _ start stop step, _ => match value.toInt? with
    | some number =>
      let length := Value.rangeLength start stop step
      let place := (number - start).fdiv step
      return (number - start).fmod step == 0 && 0 ≤ place && place < length
    | none => return false
  | _, _ => match world.entriesOf? container, world.viewedEntries? container with
    | some entries, _ => return (← lookUp entries value).isSome
    | none, some entries => containsPair entries value
    | none, none => match world.valuesOf? container, world.iterator? container with
      | some values, _ => decided (world.among? value values)
      | none, some (address, _) => gives call address value
      | none, none => raiseAbout container "argument of type '" "' is not iterable"

/-- Whether a comparison holds. -/
def compared (call : Caller) (comparison : Script.Comparison) (left right : Value) : Effect Bool := do
  let world ← Effect.world
  match comparison with
  | .equal => areEqual left right
  | .unequal => return !(← areEqual left right)
  | .same => return left.identical right
  | .notSame => return !left.identical right
  | .isIn => contains call left right
  | .notIn => return !(← contains call left right)
  | _ => match world.ordered comparison World.comparisonDepth left right with
    | .ok answer => return answer
    | .error .tooDeep => raiseTooDeep
    | .error (.unordered one other) =>
      raiseText .typing (['\''] ++ comparison.symbol ++ "' not supported between instances of '"
        ++ world.typeName one ++ "' and '" ++ world.typeName other ++ ['\''])

end Effect
end Stencil
