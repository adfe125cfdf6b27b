import Stencil.Text.Basic

/-!
# Paths

A path is a list of components below an anchor.  Empty components and single dots vanish when a path is read;
double dots stay, because what they mean depends on the files.
-/

namespace Stencil

/-- Where a path starts. -/
inductive Anchor where
  /-- The current directory. -/
  | here
  /-- The current directory, named by its full path. -/
  | workplace
  /-- The root. -/
  | root
  /-- The root, written with two slashes. -/
  | doubleRoot
  deriving DecidableEq, Repr

/-- A path to a file or a directory. -/
structure Path where
  anchor : Anchor
  components : List Text
  deriving DecidableEq, Repr

namespace Path

/-- The current directory, named by its full path. -/
def workplace : Path := ⟨.workplace, []⟩

/-- The anchor that a written path starts with. -/
def anchorOf (text : Text) : Anchor :=
  match text with
  | '/' :: '/' :: '/' :: _ => .root
  | '/' :: '/' :: _ => .doubleRoot
  | '/' :: _ => .root
  | _ => .here

/-- Whether a component counts. -/
def keeps (component : Text) : Bool := !component.isEmpty && component != ['.']

/-- Read a written path. -/
def ofText (text : Text) : Path := ⟨anchorOf text, (Text.splitOn '/' text).filter keeps⟩

/-- The path that a second path leads to from a first one. -/
def join (base next : Path) : Path :=
  match next.anchor with
  | .here => ⟨base.anchor, base.components ++ next.components⟩
  | _ => next

/-- The path without its last component. -/
def parent (path : Path) : Path := { path with components := path.components.dropLast }

/-- A written path; `home` is how the current directory's full path is written. -/
def toText (home : Text) (path : Path) : Text :=
  let names := Text.join ['/'] path.components
  match path.anchor with
  | .here => if path.components.isEmpty then ['.'] else names
  | .workplace => if path.components.isEmpty then home else home ++ '/' :: names
  | .root => '/' :: names
  | .doubleRoot => '/' :: '/' :: names

end Path
end Stencil
