import Stencil.Files.Path

/-!
# File trees

The files and directories below the current directory.  Files are bytes under a list of names, unless the system does
not open them; a directory stays when the files in it are removed.
-/

namespace Stencil

/-- The names that lead from the current directory to a place. -/
abbrev Place := List Text

/-- What is in a file. -/
inductive FileContents where
  | bytes (bytes : List UInt8)
  /-- The system does not open the file; the number of its failure, and what it says. -/
  | closed (number : Nat) (reason : Text)
  deriving DecidableEq, Repr

/-- The contents of the current directory. -/
structure FileTree where
  files : List (Place × FileContents)
  /-- The directories, the current one not included. -/
  directories : List Place
  deriving DecidableEq, Repr

namespace FileTree

/-- A directory without contents. -/
def empty : FileTree := ⟨[], []⟩

/-- Whether there is a directory at a place. -/
def isDirectory (tree : FileTree) (place : Place) : Bool :=
  place.isEmpty || tree.directories.contains place

/-- The contents of the file at a place. -/
def contents? (tree : FileTree) (place : Place) : Option FileContents := tree.files.lookup place

/-- The most bytes that the name of a file can have. -/
def longestName : Nat := 255

/-- The number of bytes that a path is shorter than. -/
def pathLimit : Nat := 4096

/-- How many bytes a text takes. -/
def byteCount (text : Text) : Nat := text.foldr (fun char count => char.utf8Size + count) 0

/-- Why a path leads to no place. -/
inductive Obstacle where
  /-- There is nothing of that name. -/
  | missing
  /-- The path or a name in it is too long. -/
  | tooLong
  deriving DecidableEq, Repr

/-- What keeps components from leading anywhere outside of the current directory. -/
def outside : (components : List Text) → Obstacle
  | [] => .missing
  | component :: components =>
    if component = ['.', '.'] then outside components
    else if longestName < byteCount component then .tooLong
    else .missing

/-- The place that components lead to from a place; every place on the way must be a directory,
since double dots lead out of it again. -/
def walk (tree : FileTree) : (start : Place) → (components : List Text) → Except Obstacle Place
  | start, [] => .ok start
  | start, component :: components =>
    if !tree.isDirectory start then .error .missing
    else if component = ['.', '.'] then
      if start.isEmpty then .error (outside components) else walk tree start.dropLast components
    else if longestName < byteCount component then .error .tooLong
    else walk tree (start ++ [component]) components

/-- The place of a path, if it leads to one below the current directory. -/
def locate (tree : FileTree) (path : Path) : Except Obstacle Place :=
  if path.components.any fun component => component.contains '\x00' then .error .missing
  else if pathLimit ≤ byteCount (path.toText []) then .error .tooLong
  else match path.anchor with
    | .here | .workplace => tree.walk [] path.components
    | .root | .doubleRoot => .error (outside path.components)

/-- The contents of the file that a path leads to, if there is one; a path that is too long cannot be
looked up. -/
def fileAt? (tree : FileTree) (path : Path) : Except Obstacle (Option FileContents) :=
  match tree.locate path with
  | .ok place => .ok (tree.contents? place)
  | .error .missing => .ok none
  | .error .tooLong => .error .tooLong

/-- The places of the directories above a place. -/
def ancestors (place : Place) : List Place :=
  (List.range place.length).filterMap fun count =>
    if count = 0 then none else some (place.take count)

/-- Put a file at a place, and the directories above it. -/
def write (place : Place) (contents : FileContents) (tree : FileTree) : FileTree :=
  ⟨(place, contents) :: tree.files.filter (·.1 != place),
    tree.directories ++ (ancestors place).filter fun above => !tree.directories.contains above⟩

/-- Remove the file at a place. -/
def remove (place : Place) (tree : FileTree) : FileTree :=
  { tree with files := tree.files.filter (·.1 != place) }

/-- The files below the directory that a path leads to, named from there. -/
def namesBelow (tree : FileTree) (path : Path) : Except Obstacle (List Text) :=
  match tree.locate path with
  | .error .missing => .ok []
  | .error .tooLong => .error .tooLong
  | .ok place =>
    if !tree.isDirectory place then .ok []
    else .ok (tree.files.filterMap fun (found, _) =>
      if place.isPrefixOf found then some (Text.join ['/'] (found.drop place.length)) else none)

end FileTree
end Stencil
