import Stencil.World.Shown

/-!
# Going through values

A container gives its values one after the other.  An iterator remembers how far it has come; one over a list sees
the changes made to the list meanwhile, and one over a dictionary fails when the dictionary has grown.
-/

namespace Stencil

/-- How a value is called with arguments. -/
abbrev Caller := Value → List Value → Effect Value

/-- The numbers of a range. -/
def Value.rangeValues (start stop step : Int) : List Value :=
  (List.range (rangeLength start stop step)).map fun (index : Nat) => .number (start + index * step)

/-- Whether a number fits into a machine word. -/
def fitsWord (number : Int) : Bool := -(Int.pow 2 63) ≤ number && number < Int.pow 2 63

/-- What an iteration comes to. -/
inductive Round where
  /-- A value, and how the iteration goes on. -/
  | gives (value : Value) (rest : Passage)
  /-- There is nothing left. -/
  | ends
  /-- The dictionary has changed its size. -/
  | changed
  /-- What a function gives decides. -/
  | asks (function stop : Value)

/-- A text of one character; those of one byte are shared. -/
def Value.ofChar (char : Char) : Value := .plain [char]

namespace World

/-- The characters, items, keys or pairs of a container, which is not an iterator. -/
def valuesOf? (world : World) : Value → Option (List Value)
  | .text _ _ content => some (content.map Value.ofChar)
  | .tuple _ items => some items
  | .range _ start stop step => some (Value.rangeValues start stop step)
  | .object address =>
    match world.objects[address]? with
    | some (.list items) => some items.toList
    | some (.dict entries) => some (entries.map Prod.fst)
    | some (.entries dict) =>
      (world.entriesOf? (.object dict)).map fun entries =>
        entries.map fun entry => .tuple 0 [entry.1, entry.2]
    | _ => none
  | _ => none

/-- The iterator at an address. -/
def iterator? (world : World) : Value → Option (Nat × Iterator)
  | .object address =>
    match world.objects[address]? with
    | some (.iterator iterator) => some (address, iterator)
    | _ => none
  | _ => none

/-- How a new iteration over a container starts. -/
def passageOver? (world : World) : Value → Option Passage
  | .text _ trusted content =>
    some (.characters (!trusted && content.all fun char => char.toNat < 128) content)
  | .tuple _ items => some (.items items)
  | .range _ start stop step =>
    let length := Value.rangeLength start stop step
    let narrow := [start, stop, step, (length : Int)].all fitsWord
    some (.counting (!narrow) start length step)
  | .object address =>
    match world.objects[address]? with
    | some (.list _) => some (.along address 0)
    | some (.dict entries) => some (.keys address entries.length 0)
    | some (.entries dict) =>
      (world.entriesOf? (.object dict)).map fun entries => .pairs dict entries.length 0
    | _ => none
  | _ => none

/-- The next entry of a dictionary that is gone through. -/
def entryRound (world : World) (dict size position : Nat) (give : Value × Value → Round) : Round :=
  let entries := (world.entriesOf? (.object dict)).getD []
  if entries.length ≠ size then .changed
  else match entries[position]? with
    | some entry => give entry
    | none => .ends

/-- The next step of an iteration. -/
def round (world : World) : Passage → Round
  | .characters _ [] => .ends
  | .characters ascii (char :: left) => .gives (.ofChar char) (.characters ascii left)
  | .items [] => .ends
  | .items (value :: left) => .gives value (.items left)
  | .along list position =>
    match world.objects[list]? with
    | some (.list items) => match items[position]? with
      | some value => .gives value (.along list (position + 1))
      | none => .ends
    | _ => .ends
  | .keys dict size position =>
    world.entryRound dict size position fun entry => .gives entry.1 (.keys dict size (position + 1))
  | .pairs dict size position =>
    world.entryRound dict size position fun entry =>
      .gives (.tuple 0 [entry.1, entry.2]) (.pairs dict size (position + 1))
  | .counting _ _ 0 _ => .ends
  | .counting wide next (left + 1) step =>
    .gives (.number next) (.counting wide (next + step) left step)
  | .calling function stop => .asks function stop

/-- Whether a value can be called. -/
def isCallable (world : World) : Value → Bool
  | .builtin _ | .kind _ | .method _ _ _ | .hook _ => true
  | .object address =>
    match world.objects[address]? with
    | some (.function _ _) => true
    | _ => false
  | _ => false

end World

namespace Effect

/-- The code points of a text. -/
def contentOf : Value → Text
  | .text _ _ content => content
  | _ => []

/-- Raise the error about a value that is not of the right type. -/
def raiseAbout {α : Type} (value : Value) (lead tail : Text) : Effect α := do
  let world ← Effect.world
  raiseText .typing (lead ++ world.typeName value ++ tail)

/-- Refuse an argument that is not a text. -/
def requireTextFor (subject : Text) (value : Value) : Effect Unit :=
  match value with
  | .text _ _ _ => return ()
  | .none => raiseText .typing (subject ++ " must be str, not None")
  | _ => raiseAbout value (subject ++ " must be str, not ") []

/-- Raise the error about a value that cannot be gone through. -/
def raiseNotIterable {α : Type} (value : Value) : Effect α :=
  raiseAbout value ['\''] "' object is not iterable"

/-- Begin to go through a value: the address of an iterator, if there is one. -/
def iterate? (value : Value) : Effect (Option Nat) := do
  let world ← Effect.world
  match world.iterator? value, world.passageOver? value with
  | some (address, _), _ => return some address
  | none, some passage => return some (← allocate (.iterator ⟨passage, false⟩))
  | none, none => return none

/-- Begin to go through a value: the address of an iterator. -/
def iterate (value : Value) : Effect Nat := do
  match ← iterate? value with
  | some address => return address
  | none => raiseNotIterable value

/-- Leave an iterator at its end. -/
def finish (address : Nat) (passage : Passage) : Effect (Option Value) := do
  store address (.iterator ⟨passage, true⟩)
  return none

/-- Ask a function for the next value; the iteration ends when it gives the value to stop at, or when it
says so itself. -/
def ask (call : Caller) (address : Nat) (passage : Passage) (function stop : Value) :
    Effect (Option Value) := do
  let given ← recover (do return some (← call function [])) fun error => do
    if (← Effect.world).errorKind error |>.isA .stopIteration then return none else failWith error
  match given with
  | none => finish address passage
  | some value => if ← areEqual stop value then finish address passage else return some value

/-- The next value of the iterator at an address. -/
def advance (call : Caller) (address : Nat) : Effect (Option Value) := do
  let world ← Effect.world
  match world.objects[address]? with
  | some (.iterator ⟨passage, false⟩) => match world.round passage with
    | .gives value rest =>
      store address (.iterator ⟨rest, false⟩)
      return some value
    | .ends => finish address passage
    | .changed => raiseText .runtime "dictionary changed size during iteration"
    | .asks function stop => ask call address passage function stop
  | _ => return none

/-- For how many rounds a loop goes on. -/
def loopBound : Nat := Nat.pow 10 9

/-- Put what an iterator gives onto a state, as far as the state wants more; at most so many times. -/
def foldIterator {σ : Type} (call : Caller) (address : Nat) (wants : σ → Bool)
    (put : σ → Value → Effect σ) : (steps : Nat) → σ → Effect σ
  | 0, _ => exhausted
  | steps + 1, state =>
    if wants state then do
      match ← advance call address with
      | some value => foldIterator call address wants put steps (← put state value)
      | none => return state
    else return state

/-- Put every value of a value that can be gone through onto a state. -/
def foldValues {σ : Type} (call : Caller) (address : Nat) (put : σ → Value → Effect σ) (start : σ) :
    Effect σ :=
  foldIterator call address (fun _ => true) put loopBound start

/-- The values that an iterator still gives. -/
def drain (call : Caller) (address : Nat) : Effect (List Value) := do
  let gathered ← foldValues call address (fun values value => return value :: values) []
  return gathered.reverse

/-- The values that going through a value gives, when one can go through it. -/
def valuesIn? (call : Caller) (value : Value) : Effect (Option (List Value)) := do
  let world ← Effect.world
  match world.valuesOf? value, world.iterator? value with
  | some values, _ => return some values
  | none, some (address, _) => return some (← drain call address)
  | none, none => return none

/-- The values that going through a value gives. -/
def valuesIn (call : Caller) (value : Value) : Effect (List Value) := do
  match ← valuesIn? call value with
  | some values => return values
  | none => raiseNotIterable value

/-- The values of a container that has to have so many; no more than one value further is looked at. -/
def unpack (call : Caller) (count : Nat) (value : Value) : Effect (List Value) := do
  match ← iterate? value with
  | none => raiseAbout value "cannot unpack non-iterable " " object"
  | some address =>
    let gathered ← foldIterator call address (fun values : List Value => values.length ≤ count)
      (fun values value => return value :: values) (count + 2) []
    if gathered.length = count then return gathered.reverse
    else if gathered.length < count then
      raiseText .value ("not enough values to unpack (expected " ++ Text.ofNat count ++ ", got "
        ++ Text.ofNat gathered.length ++ ")")
    else raiseText .value ("too many values to unpack (expected " ++ Text.ofNat count ++ ")")

end Effect
end Stencil
