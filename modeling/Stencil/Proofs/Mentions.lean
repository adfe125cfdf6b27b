import Stencil.Script.Program
import Stencil.World.Value

/-!
# What scripts mention

The names and attributes that stand anywhere in a script, definitions inside it included.  What a script does not mention
it can neither read nor set.
-/

namespace Stencil

/-- What a script can mention. -/
inductive Mention where
  | name (name : Text)
  | attribute (name : Text)
  deriving DecidableEq, Repr

namespace Script

mutual

/-- What an expression mentions. -/
def Expr.mentions : Expr → List Mention
  | .constant _ => []
  | .name _ name => [.name name]
  | .tuple items | .list items => mentionsAmong items
  | .dict _ entries => mentionsOfEntries entries
  | .attribute _ object name => .attribute name :: object.mentions
  | .item _ object index => object.mentions ++ index.mentions
  | .call _ function arguments => function.mentions ++ mentionsAmong arguments
  | .negate _ operand | .negation operand => operand.mentions
  | .binary _ _ left right | .compare _ _ left right | .both left right | .either left right =>
    left.mentions ++ right.mentions
  | .choice test yes no => test.mentions ++ (yes.mentions ++ no.mentions)

/-- What expressions mention. -/
def mentionsAmong : List Expr → List Mention
  | [] => []
  | expr :: exprs => expr.mentions ++ mentionsAmong exprs

/-- What keys and contents mention. -/
def mentionsOfEntries : List (Expr × Expr) → List Mention
  | [] => []
  | (key, content) :: entries => key.mentions ++ (content.mentions ++ mentionsOfEntries entries)

end

mutual

/-- What a target mentions. -/
def Target.mentions : Target → List Mention
  | .name name => [.name name]
  | .tuple items => mentionsOfTargets items
  | .attribute _ object name => .attribute name :: object.mentions
  | .item _ object index => object.mentions ++ index.mentions

/-- What targets mention. -/
def mentionsOfTargets : List Target → List Mention
  | [] => []
  | target :: targets => target.mentions ++ mentionsOfTargets targets

end

/-- What an expression mentions, if there is one. -/
def mentionsIfAny : Option Expr → List Mention
  | none => []
  | some expr => expr.mentions

/-- What a pattern mentions. -/
def Pattern.mentions : Pattern → List Mention
  | .capture name => [.name name]
  | .constant _ | .anything => []

mutual

/-- What a statement mentions. -/
def Stmt.mentions : Stmt → List Mention
  | .evaluate _ value => value.mentions
  | .assign _ targets value => value.mentions ++ mentionsOfTargets targets
  | .update _ target _ value => target.mentions ++ value.mentions
  | .nothing | .spread _ | .leaveLoop _ | .nextRound _ => []
  | .giveBack _ value | .fail _ value => mentionsIfAny value
  | .branch _ test body otherwise | .loop _ test body otherwise =>
    test.mentions ++ (mentionsOfBlock body ++ mentionsOfBlock otherwise)
  | .each _ target source body otherwise =>
    target.mentions ++ (source.mentions ++ (mentionsOfBlock body ++ mentionsOfBlock otherwise))
  | .define _ name parameters body =>
    .name name :: (parameters.map (.name ∘ Parameter.name) ++ mentionsOfBlock body)
  | .attempt _ body handlers otherwise cleanup =>
    mentionsOfBlock body ++ (mentionsOfHandlers handlers ++ (mentionsOfBlock otherwise ++ mentionsOfBlock cleanup))
  | .choose _ subject arms => subject.mentions ++ mentionsOfArms arms

/-- What statements mention. -/
def mentionsOfBlock : List Stmt → List Mention
  | [] => []
  | statement :: statements => statement.mentions ++ mentionsOfBlock statements

/-- What handlers mention. -/
def mentionsOfHandlers : List Handler → List Mention
  | [] => []
  | .mk _ kind binding body :: handlers =>
    mentionsIfAny kind ++ (binding.toList.map .name ++ (mentionsOfBlock body ++ mentionsOfHandlers handlers))

/-- What arms mention. -/
def mentionsOfArms : List Arm → List Mention
  | [] => []
  | .mk _ pattern body :: arms => pattern.mentions ++ (mentionsOfBlock body ++ mentionsOfArms arms)

end

end Script

/-- What a function mentions, its parameters included. -/
def Function.mentions (function : Function) : List Mention :=
  function.parameters.map .name ++ Script.mentionsOfBlock function.body

end Stencil
