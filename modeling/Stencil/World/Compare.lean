import Stencil.World.State

/-!
# Comparing values

Numbers are equal across truth values and integers, sequences item by item, and objects with an identity only to
themselves.  An order exists between numbers, between texts, between sequences of one type, and by inclusion between
the entries of dictionaries.  Values that are too deep cannot be compared.
-/

namespace Stencil
namespace Value

/-- The number that a value stands for. -/
def toInt? : Value → Option Int
  | bool value => some (if value then 1 else 0)
  | int _ value => some value
  | _ => Option.none

/-- How many numbers a range has. -/
def rangeLength (start stop step : Int) : Nat :=
  if 0 < step then ((stop - start + step - 1).fdiv step).toNat
  else ((start - stop - step - 1).fdiv (-step)).toNat

mutual

/-- Whether two values are one and the same. -/
def identical : Value → Value → Bool
  | .none, .none => true
  | .bool left, .bool right => left == right
  | .int own left, .int own' right => own == own' && left == right
  | .text own trusted left, .text own' trusted' right =>
    own == own' && trusted == trusted' && left == right
  | .tuple own left, .tuple own' right => own == own' && (own != 0 || identicalLists left right)
  | .range own start stop step, .range own' start' stop' step' =>
    own == own' && start == start' && stop == stop' && step == step'
  | .object left, .object right => left == right
  | .builtin left, .builtin right => left == right
  | .kind left, .kind right => left == right
  | .method own _ _, .method own' _ _ => own == own'
  | .template left, .template right => left == right
  | _, _ => false

/-- Whether two lists hold the same values. -/
def identicalLists : List Value → List Value → Bool
  | [], [] => true
  | left :: lefts, right :: rights => identical left right && identicalLists lefts rights
  | _, _ => false

end

/-- Whether two lists are equal item by item, given how items are compared. -/
def pairwise (same : Value → Value → Option Bool) : List Value → List Value → Option Bool
  | [], [] => some true
  | left :: lefts, right :: rights => do
    if ← same left right then pairwise same lefts rights else return false
  | _, _ => some false

/-- What is found under a key, given how keys are compared. -/
def underKey (same : Value → Value → Option Bool) (key : Value) :
    List (Value × Value) → Option (Option Value)
  | [] => some Option.none
  | entry :: entries => do
    if ← same entry.1 key then return some entry.2 else underKey same key entries

/-- Whether every one of some entries is among others, given how values are compared. -/
def included (same : Value → Value → Option Bool) (others : List (Value × Value)) :
    List (Value × Value) → Option Bool
  | [] => some true
  | entry :: entries => do
    match ← underKey same entry.1 others with
    | some value => if ← same value entry.2 then included same others entries else return false
    | Option.none => return false

end Value

namespace World

/-- The items of a list or a tuple. -/
def itemsOf? (world : World) : Value → Option (List Value)
  | .tuple _ items => some items
  | .object address =>
    match world.objects[address]? with
    | some (.list items) => some items.toList
    | _ => none
  | _ => none

/-- The items of a list object. -/
def listAt? (world : World) : Value → Option (Array Value)
  | .object address =>
    match world.objects[address]? with
    | some (.list items) => some items
    | _ => none
  | _ => none

/-- The entries of a dictionary. -/
def entriesOf? (world : World) : Value → Option (List (Value × Value))
  | .object address =>
    match world.objects[address]? with
    | some (.dict entries) => some entries
    | _ => none
  | _ => none

/-- The entries of a dictionary that a value shows as pairs. -/
def viewedEntries? (world : World) : Value → Option (List (Value × Value))
  | .object address =>
    match world.objects[address]? with
    | some (.entries dict) => world.entriesOf? (.object dict)
    | _ => none
  | _ => none

/-- Whether two values are equal; absent when they are more than `steps` deep. -/
def equals? (world : World) : (steps : Nat) → Value → Value → Option Bool
  | 0, _, _ => none
  | steps + 1, left, right =>
    let within := world.equals? steps
    let sameEntries (entries entries' : List (Value × Value)) : Option Bool :=
      if entries.length = entries'.length then Value.included within entries' entries
      else some false
    if left.identical right then some true
    else match left.toInt?, right.toInt? with
      | some number, some number' => some (number == number')
      | _, _ => match left, right with
        | .text _ _ content, .text _ _ content' => some (content == content')
        | .tuple _ items, .tuple _ items' => Value.pairwise within items items'
        | .range _ start stop step, .range _ start' stop' step' =>
          let length := Value.rangeLength start stop step
          some (length == Value.rangeLength start' stop' step'
            && (length == 0 || (start == start' && (length == 1 || step == step'))))
        | .method _ receiver name, .method _ receiver' name' =>
          some (receiver.identical receiver' && name == name')
        | .object _, .object _ =>
          match world.itemsOf? left, world.itemsOf? right with
          | some items, some items' =>
            if items.length = items'.length then Value.pairwise within items items' else some false
          | _, _ => match world.entriesOf? left, world.entriesOf? right with
            | some entries, some entries' => sameEntries entries entries'
            | _, _ => match world.viewedEntries? left, world.viewedEntries? right with
              | some entries, some entries' => sameEntries entries entries'
              | _, _ => some false
        | _, _ => some false

/-- How deep values are looked into when they are compared. -/
def comparisonDepth : Nat := 980

/-- Whether two values are equal; absent when they are too deep. -/
def same? (world : World) (left right : Value) : Option Bool :=
  world.equals? comparisonDepth left right

end World

/-- The written form of a comparison. -/
def Script.Comparison.symbol : Script.Comparison → Text
  | equal => "=="
  | unequal => "!="
  | less => "<"
  | lessEqual => "<="
  | greater => ">"
  | greaterEqual => ">="
  | isIn => "in"
  | notIn => "not in"
  | same => "is"
  | notSame => "is not"

/-- Whether a comparison holds between things of which the left one is smaller, equal or greater. -/
def Script.Comparison.holds (comparison : Script.Comparison) (order : Ordering) : Bool :=
  match comparison with
  | .less => order == .lt
  | .lessEqual => order != .gt
  | .greater => order == .gt
  | .greaterEqual => order != .lt
  | .equal => order == .eq
  | _ => order != .eq

/-- The order of two texts by code point. -/
def Text.order (left right : Text) : Ordering :=
  if left = right then .eq else if Text.precedes left right then .lt else .gt

/-- Why two values cannot be compared by order. -/
inductive OrderFault where
  /-- There is no order between two values. -/
  | unordered (left right : Value)
  /-- The values are too deep. -/
  | tooDeep
  deriving Repr

namespace World

/-- The first pair of unlike items of two lists. -/
def firstDifference? (world : World) :
    List Value → List Value → Except OrderFault (Option (Value × Value))
  | left :: lefts, right :: rights =>
    match world.same? left right with
    | none => .error .tooDeep
    | some true => world.firstDifference? lefts rights
    | some false => .ok (some (left, right))
  | _, _ => .ok none

/-- Compare the entries of dictionaries by inclusion. -/
def orderedEntries (world : World) (comparison : Script.Comparison)
    (left right : List (Value × Value)) : Except OrderFault Bool :=
  let answer := match comparison with
    | .less => if left.length < right.length then Value.included world.same? right left else some false
    | .lessEqual =>
      if left.length ≤ right.length then Value.included world.same? right left else some false
    | .greater =>
      if right.length < left.length then Value.included world.same? left right else some false
    | _ => if right.length ≤ left.length then Value.included world.same? left right else some false
  match answer with
  | some answer => .ok answer
  | none => .error .tooDeep

/-- Compare two values by order; `steps` bounds how deep they are looked into. -/
def ordered (world : World) (comparison : Script.Comparison) :
    (steps : Nat) → Value → Value → Except OrderFault Bool
  | 0, _, _ => .error .tooDeep
  | steps + 1, left, right =>
    let lexicographic (items items' : List Value) : Except OrderFault Bool := do
      match ← world.firstDifference? items items' with
      | some (left, right) => world.ordered comparison steps left right
      | none => return comparison.holds (compare items.length items'.length)
    match left.toInt?, right.toInt? with
    | some number, some number' => .ok (comparison.holds (compare number number'))
    | _, _ => match left, right with
      | .text _ _ content, .text _ _ content' => .ok (comparison.holds (Text.order content content'))
      | .tuple _ items, .tuple _ items' => lexicographic items items'
      | .object _, .object _ =>
        match world.itemsOf? left, world.itemsOf? right with
        | some items, some items' => lexicographic items items'
        | _, _ => match world.viewedEntries? left, world.viewedEntries? right with
          | some entries, some entries' => world.orderedEntries comparison entries entries'
          | _, _ => .error (.unordered left right)
      | _, _ => .error (.unordered left right)

/-- Whether a value counts as true. -/
def truth (world : World) : Value → Bool
  | .none => false
  | .bool value => value
  | .int _ value => value != 0
  | .text _ _ content => !content.isEmpty
  | .tuple _ items => !items.isEmpty
  | .range _ start stop step => Value.rangeLength start stop step != 0
  | .object address =>
    match world.objects[address]? with
    | some (.list items) => !items.isEmpty
    | some (.dict entries) => !entries.isEmpty
    | some (.entries dict) => match world.entriesOf? (.object dict) with
      | some entries => !entries.isEmpty
      | none => true
    | _ => true
  | _ => true

/-- The type of the first part of a value that cannot be a key of a dictionary. -/
def unhashable? (world : World) : (steps : Nat) → Value → Option Text
  | 0, _ => none
  | steps + 1, .tuple _ items => items.findSome? (world.unhashable? steps)
  | _ + 1, .object address =>
    match world.objects[address]? with
    | some (.list _) => some "list"
    | some (.dict _) => some "dict"
    | some (.entries _) => some "dict_items"
    | _ => none
  | _ + 1, _ => none

/-- Put a value under a key of a dictionary; a key that is there keeps its place. -/
def putKey? (world : World) (key value : Value) :
    List (Value × Value) → Option (List (Value × Value))
  | [] => some [(key, value)]
  | entry :: entries => do
    if ← world.same? entry.1 key then return (entry.1, value) :: entries
    else return entry :: (← world.putKey? key value entries)

end World

namespace Effect

/-- Raise the error about values that are too deep to be compared. -/
def raiseTooDeep {α : Type} : Effect α :=
  raiseText .recursion "maximum recursion depth exceeded in comparison"

/-- The answer of a comparison, unless the values are too deep. -/
def decided {α : Type} : Option α → Effect α
  | some answer => return answer
  | none => raiseTooDeep

/-- Whether two values are equal. -/
def areEqual (left right : Value) : Effect Bool := do
  decided ((← Effect.world).same? left right)

end Effect
end Stencil
