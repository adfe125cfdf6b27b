import Stencil.Script.Token

/-!
# What a piece of a script is

To explain why a script is refused it is enough to know of a piece what kind of expression it is, where it
starts, and which parts of it would have to be targets.
-/

namespace Stencil.Script

/-- The kinds of pieces. -/
inductive Form where
  | name (text : Text)
  | attribute
  | subscript
  /-- An expression behind a star; the expression is its part. -/
  | starred
  /-- A list with its members as parts. -/
  | list
  /-- A tuple with its members as parts. -/
  | tuple
  | lambda
  | call
  /-- Operands joined by operators. -/
  | operation
  | generator
  | yielded
  | awaited
  | listComprehension
  | setComprehension
  | dictComprehension
  | dict
  | set
  | formatted
  | constant (word : Text)
  | ellipsis
  | literal
  /-- A comparison that starts with a test for membership; its left side is its part. -/
  | membership
  | comparison
  | conditional
  | assignment
  /-- An argument given by name. -/
  | keyword
  /-- A mapping that stands for arguments given by name. -/
  | unpacking
  /-- The arguments of a call as parts. -/
  | arguments
  /-- A piece that is no expression. -/
  | other
  deriving DecidableEq, Repr

/-- A piece of a script with the physical line on which it starts. -/
inductive Tree where
  | node (form : Form) (line : Nat) (parts : List Tree)

namespace Tree

/-- The kind of a piece. -/
def form : Tree → Form
  | node form _ _ => form

/-- The physical line on which a piece starts. -/
def line : Tree → Nat
  | node _ line _ => line

/-- The parts of a piece. -/
def parts : Tree → List Tree
  | node _ _ parts => parts

end Tree

/-- What a piece is called in messages. -/
def Form.describe : Form → Text
  | .name _ => "name"
  | .attribute => "attribute"
  | .subscript => "subscript"
  | .starred => "starred"
  | .list => "list"
  | .tuple => "tuple"
  | .lambda => "lambda"
  | .call => "function call"
  | .operation => "expression"
  | .generator => "generator expression"
  | .yielded => "yield expression"
  | .awaited => "await expression"
  | .listComprehension => "list comprehension"
  | .setComprehension => "set comprehension"
  | .dictComprehension => "dict comprehension"
  | .dict => "dict literal"
  | .set => "set display"
  | .formatted => "f-string expression"
  | .constant word => word
  | .ellipsis => "ellipsis"
  | .literal => "literal"
  | .membership | .comparison => "comparison"
  | .conditional => "conditional expression"
  | .assignment => "named expression"
  | .keyword | .unpacking | .arguments | .other => "expression"

/-- What a piece would have to be a target of. -/
inductive Purpose where
  | assigning
  | looping
  | deleting
  deriving DecidableEq, Repr

mutual

/-- The first part of a piece that cannot be a target.  A test for membership in the head of a loop may be a
target in front of the word that introduces the loop's source. -/
def Tree.badTarget? (purpose : Purpose) : Tree → Option Tree
  | .node form line parts =>
    match form with
    | .list | .tuple => badTargetIn? purpose parts
    | .starred =>
      if purpose = .deleting then some (.node form line parts) else badTargetIn? purpose parts
    | .membership =>
      if purpose = .looping then badTargetIn? purpose parts else some (.node form line parts)
    | .comparison => if purpose = .looping then none else some (.node form line parts)
    | .name _ | .subscript | .attribute => none
    | _ => some (.node form line parts)

/-- The first of a list of pieces that cannot be a target. -/
def badTargetIn? (purpose : Purpose) : List Tree → Option Tree
  | [] => none
  | tree :: trees => (tree.badTarget? purpose).or (badTargetIn? purpose trees)

end

/-- The message for a piece that cannot be a target. -/
def badTargetMessage (purpose : Purpose) (tree : Tree) : Text :=
  (if purpose = .deleting then ("cannot delete " : Text) else "cannot assign to ") ++ tree.form.describe

end Stencil.Script
