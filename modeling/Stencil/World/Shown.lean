import Stencil.Text.Numeral
import Stencil.World.Compare

/-!
# Values as they are shown

The written form of a value: texts quoted, containers with the written forms of what they hold.  A container that
is met inside itself is abbreviated.  Numbers of too many digits and values that are too deep have no written form.
-/

namespace Stencil

/-- Why a value has no written form. -/
inductive Unshowable where
  /-- A number has too many digits. -/
  | tooLong
  /-- The value is too deep. -/
  | tooDeep
  deriving DecidableEq, Repr

/-- The name of a built-in function. -/
def Builtin.name : Builtin → Text
  | length => "len"
  | range => "range"
  | text => "str"
  | sum => "sum"
  | next => "next"
  | iterate => "iter"
  | escape => "html_escape"

/-- A template as it is shown. -/
def Template.shown (template : Template) : Text :=
  "<Template " ++ (firstGiven? [template.source.name]).getD "(inline)" ++ " "
    ++ Quoted.encode template.source.contentType ++ ">"

/-- The decimal numeral of a number. -/
def Numeral.ofInt (number : Int) : Except Unshowable Text :=
  match decimal? number with
  | some text => .ok text
  | none => .error .tooLong

namespace World

/-- A value about which nothing more is shown than what it is. -/
def bareForm (world : World) (value : Value) : Text :=
  match value with
  | .object address => match world.objects[address]? with
    | some (.member owner _) => match world.classes[owner]? with
      | some record => "<" ++ record.module ++ "." ++ record.qualifiedName ++ " object>"
      | none => "<object>"
    | some (.function function _) => "<function " ++ function.name ++ ">"
    | _ => "<" ++ world.typeName value ++ " object>"
  | _ => "<" ++ world.typeName value ++ " object>"

/-- The written form of a value inside the containers at some addresses; `steps` bounds how deep it is
looked into. -/
def shownWithin (world : World) :
    (steps : Nat) → (inside : List Nat) → Value → Except Unshowable Text
  | 0, _, _ => .error .tooDeep
  | steps + 1, inside, value =>
    let shownAll (inside : List Nat) (values : List Value) : Except Unshowable Text := do
      return Text.join ", " (← values.mapM (world.shownWithin steps inside))
    match value with
    | .none => .ok "None"
    | .bool true => .ok "True"
    | .bool false => .ok "False"
    | .int _ number => Numeral.ofInt number
    | .text _ true content => .ok ("Markup(" ++ Quoted.encode content ++ ")")
    | .text _ false content => .ok (Quoted.encode content)
    | .tuple _ [item] => do return "(" ++ (← world.shownWithin steps inside item) ++ ",)"
    | .tuple _ items => do return "(" ++ (← shownAll inside items) ++ ")"
    | .range _ start stop step => do
      let bounds := "range(" ++ (← Numeral.ofInt start) ++ ", " ++ (← Numeral.ofInt stop)
      if step = 1 then return bounds ++ ")"
      else return bounds ++ ", " ++ (← Numeral.ofInt step) ++ ")"
    | .builtin .text => .ok "<class 'str'>"
    | .builtin .range => .ok "<class 'range'>"
    | .builtin .escape => .ok "<function html_escape>"
    | .builtin function => .ok ("<built-in function " ++ function.name ++ ">")
    | .kind kind => .ok ("<class '" ++ kind.toText ++ "'>")
    | .template number => match world.templates[number]? with
      | some template => .ok template.shown
      | none => .ok "<Template>"
    | .method _ _ _ | .hook _ => .ok (world.bareForm value)
    | .object address =>
      match world.objects[address]? with
      | some (.list items) =>
        if inside.contains address then .ok "[...]"
        else do return ("[" : Text) ++ (← shownAll (address :: inside) items.toList) ++ "]"
      | some (.dict entries) =>
        if inside.contains address then .ok "\x7b...\x7d"
        else do
          let shown ← entries.mapM fun entry => do
            return (← world.shownWithin steps (address :: inside) entry.1) ++ ": "
              ++ (← world.shownWithin steps (address :: inside) entry.2)
          return ("\x7b" : Text) ++ Text.join ", " shown ++ "\x7d"
      | some (.entries dict) =>
        if inside.contains address then .ok "..."
        else do
          let pairs := ((world.entriesOf? (.object dict)).getD []).map fun entry =>
            Value.tuple 0 [entry.1, entry.2]
          return ("dict_items([" : Text) ++ (← shownAll (address :: inside) pairs) ++ "])"
      | some (.context _) => .ok "<Ctx>"
      | some (.error incident) => do
        return incident.kind.toText ++ "(" ++ (← shownAll inside incident.arguments) ++ ")"
      | _ => .ok (world.bareForm value)

/-- How deep values are looked into when they are shown. -/
def shownDepth : Nat := 980

end World

namespace Effect

/-- Raise the error about a value without a written form. -/
def raiseUnshowable {α : Type} : Unshowable → Effect α
  | .tooLong => raiseText .value ("Exceeds the limit (" ++ Text.ofNat Numeral.digitLimit
      ++ " digits) for integer string conversion; use sys.set_int_max_str_digits() to increase the limit")
  | .tooDeep => raiseText .recursion
      "maximum recursion depth exceeded while getting the repr of an object"

/-- The written form of a value. -/
def shown (value : Value) : Effect Text := do
  match (← Effect.world).shownWithin World.shownDepth [] value with
  | .ok text => return text
  | .error reason => raiseUnshowable reason

end Effect
end Stencil
