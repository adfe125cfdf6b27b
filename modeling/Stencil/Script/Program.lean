import Stencil.Text.Basic

/-!
# Programs

The expressions and statements of the scripting language.  Every part that can fail while it runs carries the
physical line that a failure is reported at.
-/

namespace Stencil.Script

/-- The values that a program can write down directly. -/
inductive Constant where
  | none
  | bool (value : Bool)
  | int (value : Int)
  | text (value : Text)
  deriving DecidableEq, Repr

/-- The name of a constant that looks like any other name. -/
def reservedName : Text := "__debug__"

/-- The arithmetic operations. -/
inductive BinaryOp where
  | add | subtract | multiply | floorDivide | modulo
  deriving DecidableEq, Repr

/-- The comparisons. -/
inductive Comparison where
  | equal | unequal | less | lessEqual | greater | greaterEqual | isIn | notIn | same | notSame
  deriving DecidableEq, Repr

/-- Expressions. -/
inductive Expr where
  | constant (value : Constant)
  | name (line : Nat) (name : Text)
  | tuple (items : List Expr)
  | list (items : List Expr)
  | dict (line : Nat) (entries : List (Expr × Expr))
  | attribute (line : Nat) (object : Expr) (name : Text)
  | item (line : Nat) (object index : Expr)
  | call (line : Nat) (function : Expr) (arguments : List Expr)
  | negate (line : Nat) (operand : Expr)
  | binary (line : Nat) (operation : BinaryOp) (left right : Expr)
  | compare (line : Nat) (comparison : Comparison) (left right : Expr)
  | negation (operand : Expr)
  | both (left right : Expr)
  | either (left right : Expr)
  | choice (test yes no : Expr)
  deriving Repr

/-- What a value can be assigned to. -/
inductive Target where
  | name (name : Text)
  | tuple (items : List Target)
  | attribute (line : Nat) (object : Expr) (name : Text)
  | item (line : Nat) (object index : Expr)
  deriving Repr

/-- A parameter of a definition, with the physical line on which it stands. -/
structure Parameter where
  name : Text
  line : Nat
  deriving DecidableEq, Repr

/-- What the subject of a choice is compared with. -/
inductive Pattern where
  | constant (value : Constant)
  | anything
  /-- Anything, which gets a name. -/
  | capture (name : Text)
  deriving DecidableEq, Repr

mutual

/-- Statements. -/
inductive Stmt where
  | evaluate (line : Nat) (value : Expr)
  | assign (line : Nat) (targets : List Target) (value : Expr)
  | update (line : Nat) (target : Target) (operation : BinaryOp) (value : Expr)
  | nothing
  /-- The members of a value with nothing that would take them; never well placed. -/
  | spread (line : Nat)
  | leaveLoop (line : Nat)
  | nextRound (line : Nat)
  | giveBack (line : Nat) (value : Option Expr)
  /-- Raise an error; without one, the error that is being handled. -/
  | fail (line : Nat) (error : Option Expr)
  | branch (line : Nat) (test : Expr) (body otherwise : List Stmt)
  | loop (line : Nat) (test : Expr) (body otherwise : List Stmt)
  | each (line : Nat) (target : Target) (source : Expr) (body otherwise : List Stmt)
  | define (line : Nat) (name : Text) (parameters : List Parameter) (body : List Stmt)
  /-- A guarded body with its handlers, what is done when nothing was raised, and what is done in any case; the last
  is empty when there is no such suite. -/
  | attempt (line : Nat) (body : List Stmt) (handlers : List Handler) (otherwise cleanup : List Stmt)
  | choose (line : Nat) (subject : Expr) (arms : List Arm)

/-- What is done about an error of a certain kind, or about any error. -/
inductive Handler where
  | mk (line : Nat) (kind : Option Expr) (binding : Option Text) (body : List Stmt)

/-- What is done when the subject of a choice fits a pattern. -/
inductive Arm where
  | mk (line : Nat) (pattern : Pattern) (body : List Stmt)

end

deriving instance Repr for Stmt, Handler, Arm

end Stencil.Script
