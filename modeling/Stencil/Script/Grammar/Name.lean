import Stencil.Script.Grammar.Probe
import Stencil.Script.Numeral

/-!
# Names and lists of targets

The pieces that expressions and parameters are made of.
-/

namespace Stencil.Script.Grammar

open Probe

/-- A name. -/
def name : Probe Tree := do
  let found ← entry
  match found.symbol with
  | .token (.word text) => if isKeyword text then miss else return .node (.name text) found.line []
  | .token (.name text) => return .node (.name text) found.line []
  | _ => miss

/-- Targets, of which some may stand behind stars. -/
def starTargets (r : Lookup) : Probe Tree := do
  let line ← lineHere
  let first ← r .starTarget
  let others ← many do
    let _ ← mark ","
    r .starTarget
  let comma ← maybe (mark ",")
  return if others.isEmpty && comma.isNone then first else .node .tuple line (first :: others)

/-- A target, which may stand behind a star. -/
def starTarget (r : Lookup) : Probe Tree :=
  firstOf
    [piece .starred do
      let _ ← mark "*"
      notAhead (mark "*")
      return [← r .starTarget],
     r .starAtomTarget]

end Stencil.Script.Grammar
