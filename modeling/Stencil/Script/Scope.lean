import Stencil.Script.Program

/-!
# Names bound by a body

Every name that is assigned anywhere in a body, definitions inside it aside, belongs to that body.
-/

namespace Stencil.Script

mutual

/-- The names that an assignment to a target binds. -/
def Target.bound : Target → List Text
  | .name name => [name]
  | .tuple items => boundByTargets items
  | .attribute _ _ _ | .item _ _ _ => []

/-- The names that assignments to a list of targets bind. -/
def boundByTargets : List Target → List Text
  | [] => []
  | target :: targets => target.bound ++ boundByTargets targets

end

/-- The names that a pattern binds. -/
def Pattern.bound : Pattern → List Text
  | .capture name => [name]
  | .constant _ | .anything => []

mutual

/-- The names that a statement binds. -/
def Stmt.bound : Stmt → List Text
  | .assign _ targets _ => boundByTargets targets
  | .update _ target _ _ => target.bound
  | .branch _ _ body otherwise | .loop _ _ body otherwise =>
    boundByBlock body ++ boundByBlock otherwise
  | .each _ target _ body otherwise => target.bound ++ boundByBlock body ++ boundByBlock otherwise
  | .define _ name _ _ => [name]
  | .attempt _ body handlers otherwise cleanup =>
    boundByBlock body ++ boundByHandlers handlers ++ boundByBlock otherwise ++ boundByBlock cleanup
  | .choose _ _ arms => boundByArms arms
  | .evaluate _ _ | .nothing | .spread _ | .leaveLoop _ | .nextRound _ | .giveBack _ _ | .fail _ _ => []

/-- The names that a list of statements binds. -/
def boundByBlock : List Stmt → List Text
  | [] => []
  | statement :: statements => statement.bound ++ boundByBlock statements

/-- The names that a list of handlers binds. -/
def boundByHandlers : List Handler → List Text
  | [] => []
  | .mk _ _ binding body :: handlers =>
    binding.toList ++ boundByBlock body ++ boundByHandlers handlers

/-- The names that the arms of a choice bind. -/
def boundByArms : List Arm → List Text
  | [] => []
  | .mk _ pattern body :: arms => pattern.bound ++ boundByBlock body ++ boundByArms arms

end

end Stencil.Script
