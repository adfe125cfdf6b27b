import Stencil.Script.Grammar.Expression

/-!
# The grammar of targets

What can be assigned to, and what can be deleted.
-/

namespace Stencil.Script.Grammar

open Probe

/-- An attribute or an item that nothing more is taken of. -/
def memberTarget (r : Lookup) : Probe Tree := do
  let object ← r .targetPrimary
  let found ← firstOf [attributeTrailer object.line, subscriptTrailer r object.line]
  notAhead moreTarget
  return found

/-- A target between brackets, or targets between them. -/
def bracketedTargets (r : Lookup) : List (Probe Tree) :=
  [do
    let _ ← mark "("
    let target ← r .starAtomTarget
    let _ ← mark ")"
    return target,
   piece .tuple do
    let _ ← mark "("
    let targets ← maybe do
      let first ← r .starTarget
      let others ← many do
        let _ ← mark ","
        r .starTarget
      if others.isEmpty then
        let _ ← mark ","
      else
        let _ ← maybe (mark ",")
      return first :: others
    let _ ← mark ")"
    return targets.getD [],
   piece .list do
    let _ ← mark "["
    let targets ← maybe do
      let found ← separated (mark ",") (r .starTarget)
      let _ ← maybe (mark ",")
      return found
    let _ ← mark "]"
    return targets.getD []]

/-- A target that does not stand behind a star. -/
def starAtomTarget (r : Lookup) : Probe Tree :=
  firstOf [memberTarget r, firstOf (name :: bracketedTargets r)]

/-- A target that stands for one value. -/
def singleTarget (r : Lookup) : Probe Tree :=
  firstOf
    [memberTarget r, name,
     do
      let _ ← mark "("
      let target ← r .singleTarget
      let _ ← mark ")"
      return target]

/-- What can be deleted, with commas between. -/
def deleteTargets (r : Lookup) : Probe Unit := do
  let _ ← separated (mark ",") (r .deleteTarget)
  skip (maybe (mark ","))

/-- What can be deleted. -/
def deleteTarget (r : Lookup) : Probe Tree :=
  firstOf
    [memberTarget r, name,
     do
      let _ ← mark "("
      let target ← r .deleteTarget
      let _ ← mark ")"
      return target,
     whole .tuple do
      let _ ← mark "("
      let _ ← maybe (deleteTargets r)
      mark ")",
     whole .list do
      let _ ← mark "["
      let _ ← maybe (deleteTargets r)
      mark "]"]

/-- A list or a tuple where an annotated target stands. -/
def annotationTarget (r : Lookup) : Probe Tree :=
  firstOf
    [list r, tuple r,
     do
      let _ ← mark "("
      let target ← r .annotationTarget
      let _ ← mark ")"
      return target]

end Stencil.Script.Grammar
