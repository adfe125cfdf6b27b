import Stencil.Text.Case
import Stencil.World.Render

/-!
# Calls

What calling a value does.  Calls nest up to a fixed depth; a call that would go deeper fails.
-/

namespace Stencil

namespace Effect

/-- A list of names in words: quoted, with `and` before the last one. -/
def inWords (names : List Text) : Text :=
  match names.map fun name => ['\''] ++ name ++ ['\''] with
  | [one, other] => one ++ " and " ++ other
  | quoted => match quoted.getLast? with
    | some last =>
      if quoted.length = 1 then last
      else Text.join [',', ' '] quoted.dropLast ++ ", and " ++ last
    | none => []

/-- A noun after a count. -/
def counted (count : Nat) (noun : Text) : Text :=
  Text.ofNat count ++ [' '] ++ noun ++ (if count = 1 then [] else ['s'])

/-- Refuse a list of arguments that does not match a list of parameters. -/
def checkArguments (function : Text) (parameters : List Text) (count : Nat) : Effect Unit :=
  if count = parameters.length then return ()
  else if count < parameters.length then
    let missing := parameters.drop count
    raiseText .typing (function ++ "() missing "
      ++ counted missing.length "required positional argument" ++ ": " ++ inWords missing)
  else
    raiseText .typing (function ++ "() takes " ++ counted parameters.length "positional argument"
      ++ " but " ++ Text.ofNat count ++ (if count = 1 then " was" else " were" : Text) ++ " given")

/-- Call a function of a script. -/
def invoke (call : Caller) (steps : Nat) (function : Function) (arguments : List Value) :
    Effect Value := do
  checkArguments function.name function.parameters arguments.length
  let scope ← openScope ⟨function.parameters ++ Script.boundByBlock function.body,
    function.parameters.zip arguments, some function.outer⟩
  let here : Activation := ⟨function.name, function.file, scope, function.globals⟩
  match ← Script.runBlock call steps here function.body with
  | .finish value => return value
  | _ => return .none

/-- Refuse a number of arguments that a built-in function does not take. -/
def checkCount (function : Text) (least most count : Nat) : Effect Unit :=
  let refuse (amount : Text) (limit : Nat) : Effect Unit :=
    raiseText .typing (function ++ " expected at " ++ amount ++ [' '] ++ counted limit "argument"
      ++ ", got " ++ Text.ofNat count)
  if count < least then refuse "least" least
  else if most < count then refuse "most" most
  else return ()

/-- Refuse any number of arguments but one. -/
def theOnly (function : Text) : List Value → Effect Value
  | [value] => return value
  | arguments => raiseText .typing
      (function ++ "() takes exactly one argument (" ++ Text.ofNat arguments.length ++ " given)")

/-- Refuse any argument. -/
def takesNone (function : Text) (arguments : List Value) : Effect Unit :=
  if arguments.isEmpty then return ()
  else raiseText .typing
    (function ++ "() takes no arguments (" ++ Text.ofNat arguments.length ++ " given)")

/-- How many values a container holds. -/
def lengthOf (value : Value) : Effect Value := do
  let world ← Effect.world
  match value with
  | .range _ start stop step =>
    let length := Value.rangeLength start stop step
    if fitsWord length then newInt length
    else raiseText .overflow "Python int too large to convert to C ssize_t"
  | _ => match world.listAt? value, world.valuesOf? value with
    | some items, _ => newInt items.size
    | none, some values => newInt values.length
    | none, none => raiseAbout value "object of type '" "' has no len()"

/-- The number that a value stands for. -/
def numberOf (value : Value) : Effect Int :=
  match value.toInt? with
  | some number => return number
  | none => raiseAbout value ['\''] "' object cannot be interpreted as an integer"

/-- A range with given bounds. -/
def newRange (arguments : List Value) : Effect Value := do
  checkCount "range" 1 3 arguments.length
  match ← numbersOf arguments with
  | [stop] => return .range (← newIdentity) 0 stop 1
  | [start, stop] => return .range (← newIdentity) start stop 1
  | [start, stop, step] =>
    if step = 0 then raiseText .value "range() arg 3 must not be zero"
    else return .range (← newIdentity) start stop step
  | _ => return .none
where
  /-- The numbers that values stand for. -/
  numbersOf : List Value → Effect (List Int)
    | [] => return []
    | value :: values => do
      let number ← numberOf value
      return number :: (← numbersOf values)

/-- The sum of the values of a container, added to a starting value from left to right. -/
def sumOf (call : Caller) (values start : Value) : Effect Value := do
  let iterator ← iterate values
  match start with
  | .text _ _ _ => raiseText .typing "sum() can't sum strings [use ''.join(seq) instead]"
  | _ => foldValues call iterator (binary call .add) start

/-- The next value of an iterator, or a value for the case that there is none. -/
def nextIn (call : Caller) (iterator : Value) (otherwise : Option Value) : Effect Value := do
  match (← Effect.world).iterator? iterator with
  | some (address, _) => match ← advance call address, otherwise with
    | some value, _ => return value
    | none, some value => return value
    | none, none => raise .stopIteration []
  | none => raiseAbout iterator ['\''] "' object is not an iterator"

/-- Begin to go through a value, or through what a function gives up to a given value. -/
def iteratorOf (arguments : List Value) : Effect Value := do
  match arguments with
  | [function, stop] =>
    if (← Effect.world).isCallable function then
      return .object (← allocate (.iterator ⟨.calling function stop, false⟩))
    else raiseText .typing "iter(v, w): v must be callable"
  | _ => return .object (← iterate (arguments.headD .none))

/-- The text of a value; a second argument would be the encoding of bytes, of which there are none. -/
def textFrom (call : Caller) (arguments : List Value) : Effect Value := do
  match arguments with
  | [] => return .plain []
  | [value] => textOf call value
  | value :: more =>
    if 2 < more.length then
      raiseText .typing ("str() takes at most 3 arguments (" ++ Text.ofNat arguments.length ++ " given)")
    else
      for (name, argument) in [("encoding", more.head?), ("errors", more[1]?)] do
        match argument with
        | none => pure ()
        | some argument => requireTextFor ("str() argument '" ++ name.toList ++ ['\'']) argument
      match value with
      | .text _ _ _ => raiseText .typing "decoding str is not supported"
      | _ => raiseAbout value "decoding to str: need a bytes-like object, " " found"

/-- Call a built-in function. -/
def callBuiltin (call : Caller) (function : Builtin) (arguments : List Value) : Effect Value := do
  match function with
  | .length => lengthOf (← theOnly "len" arguments)
  | .range => newRange arguments
  | .text => textFrom call arguments
  | .sum => match arguments with
    | [values] => sumOf call values (.number 0)
    | [values, start] => sumOf call values start
    | [] => raiseText .typing "sum() takes at least 1 positional argument (0 given)"
    | _ => raiseText .typing ("sum() takes at most 2 arguments ("
        ++ Text.ofNat arguments.length ++ " given)")
  | .next =>
    checkCount "next" 1 2 arguments.length
    nextIn call (arguments.headD .none) arguments[1]?
  | .iterate =>
    checkCount "iter" 1 2 arguments.length
    iteratorOf arguments
  | .escape =>
    checkArguments "html_escape" ["value"] arguments.length
    markupOf call (arguments.headD .none)

/-- Join texts with a separator between neighbours; `position` counts the ones before. -/
def joinTexts (position : Nat) : List Value → Effect (List Text)
  | [] => return []
  | .text _ _ content :: values => do return content :: (← joinTexts (position + 1) values)
  | value :: _ => raiseAbout value
      ("sequence item " ++ Text.ofNat position ++ ": expected str instance, ") " found"

/-- Call an operation of a text. -/
def callOnText (call : Caller) (content : Text) (name : Text) (arguments : List Value) :
    Effect Value := do
  let qualified := "str." ++ name
  let changed (f : Text → Text) : Effect Value := do
    takesNone qualified arguments
    newText (f content)
  if name = ("upper" : Text) then changed Text.upper
  else if name = ("lower" : Text) then changed Text.lower
  else if name = ("title" : Text) then changed Text.title
  else if name = ("join" : Text) then
    let joined ← theOnly qualified arguments
    match ← valuesIn? call joined with
    | some [.text own false single] => return .text own false single
    | some values => newText (Text.join content (← joinTexts 0 values))
    | none => raiseText .typing "can only join an iterable"
  else
    checkArguments "Markup.__html__" ["self"] (arguments.length + 1)
    newText content

/-- Call what a displayed class does to become text or trusted text. -/
def callHook (call : Caller) (hook : Hook) (receiver : Value) (arguments : List Value) :
    Effect Value := do
  let (owner, name) : Text × Text := match hook with
    | .renders _ owner | .reloads _ owner => (owner, ".__str__")
    | .trusts owner => (owner, ".__html__")
  checkArguments (owner ++ name) ["self"] (arguments.length + 1)
  match hook with
  | .renders template _ => render call template receiver
  | .reloads binding _ => render call (← build binding) receiver
  | .trusts _ => newMarkup (contentOf (← call (.builtin .text) [receiver]))

/-- Call an operation of a value. -/
def callMethod (call : Caller) (receiver : Value) (name : Text) (arguments : List Value) :
    Effect Value := do
  let world ← Effect.world
  match receiver with
  | .text _ _ content => callOnText call content name arguments
  | .template number =>
    checkArguments "Template.render" ["self", "context"] (arguments.length + 1)
    render call number (arguments.headD .none)
  | .object address => match world.objects[address]? with
    | some (.list _) =>
      append address (← theOnly "list.append" arguments)
      return .none
    | some (.dict _) =>
      takesNone "dict.items" arguments
      return .object (← allocate (.entries address))
    | some (.guest (some html) _ _) =>
      checkArguments "Safe.__html__" ["self"] (arguments.length + 1)
      readSlot html
    | some (.member owner _) => match world.attributeOfClass? owner name with
      | some (.hook hook) => callHook call hook receiver arguments
      | _ => return .none
    | _ => return .none
  | _ => return .none

/-- Call a value, given how the values that it calls in turn are called. -/
def callStep (call : Caller) (steps : Nat) (value : Value) (arguments : List Value) :
    Effect Value := do
  let world ← Effect.world
  let refused : Effect Value := raiseAbout value ['\''] "' object is not callable"
  match value with
  | .builtin function => callBuiltin call function arguments
  | .kind errors => return .object (← newError call errors arguments)
  | .method _ receiver name => callMethod call receiver name arguments
  | .object address => match world.objects[address]? with
    | some (.function function _) => invoke call steps function arguments
    | _ => refused
  | _ => refused

/-- Call a value; calls nest at most `depth` deep. -/
def callWithin (steps : Nat) : (depth : Nat) → Caller
  | 0 => fun _ _ => raiseText .recursion "maximum recursion depth exceeded"
  | depth + 1 => callStep (callWithin steps depth) steps

/-- How deep calls nest. -/
def callDepth : Nat := 1000

/-- Call a value. -/
def callValue : Caller := callWithin loopBound callDepth

end Effect
end Stencil
