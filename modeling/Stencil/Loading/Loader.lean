import Stencil.Files.Encoding
import Stencil.Files.Tree
import Stencil.Text.Similarity

/-!
# Loaders

A loader finds the source of a template by its name: in directories, in a mapping from names to sources, or in the
first of several loaders that has it.  A source that is there but cannot be read stops the search.
-/

namespace Stencil

/-- The sources of a mapping, by name. -/
abbrev Shelf := List (Text × Text)

/-- Where loaders look: the files, and the mappings that loaders refer to by number. -/
structure Library where
  files : FileTree
  shelves : List Shelf
  /-- How the current directory's full path is written. -/
  home : Text

/-- Where a template can come from. -/
inductive Loader where
  /-- The first of the directories that has a file of that name. -/
  | directories (paths : List Path) (encoding : Text)
  /-- A mapping. -/
  | mapping (shelf : Nat)
  /-- The first of the loaders that has the template. -/
  | choice (loaders : List Loader)
  /-- A mapping that cannot list its names. -/
  | silent (shelf : Nat)
  deriving Repr

/-- Why a loader has no source. -/
inductive LoadError where
  /-- There is no such template. -/
  | missing (message : Text)
  /-- There is one, but its bytes are no text. -/
  | unreadable (message : Text)
  /-- There is one, but the system does not open it; the number of the system's failure. -/
  | unopened (message : Text) (number : Nat)
  /-- A path is too long to be looked up. -/
  | tooLong (path : Text)
  /-- There is no encoding of the name that the loader was given. -/
  | unknownEncoding (name : Text)
  deriving DecidableEq, Repr

/-- A source as a loader finds it. -/
structure LoadedSource where
  text : Text
  /-- The path of the file, if it came from one. -/
  file : Option Text
  deriving DecidableEq, Repr

namespace Library

/-- The mapping with a given number. -/
def shelf (library : Library) (number : Nat) : Shelf := (library.shelves[number]?).getD []

/-- Put a source into a mapping, or remove it. -/
def putSource (number : Nat) (name : Text) (source : Option Text) (library : Library) : Library :=
  { library with
    shelves := library.shelves.modify number fun shelf =>
      let others := shelf.filter (·.1 != name)
      match source with
      | some text => if others.length = shelf.length then shelf ++ [(name, text)]
          else shelf.map fun entry => if entry.1 = name then (name, text) else entry
      | none => others }

/-- Add a mapping and give its number. -/
def addShelf (shelf : Shelf) (library : Library) : Nat × Library :=
  (library.shelves.length, { library with shelves := library.shelves ++ [shelf] })

end Library

namespace Loader

/-- The name of the type of a loader. -/
def typeName : Loader → Text
  | directories _ _ => "FileSystemLoader"
  | mapping _ => "DictLoader"
  | choice _ => "ChoiceLoader"
  | silent _ => "PlainLoader"

/-- What a mapping says about a name that it does not have: a similar one, or some that it has. -/
def missingMessage (name : Text) (shelf : Shelf) : Text :=
  let available := Text.sortDistinct (shelf.map Prod.fst)
  let lead : Text := "Template '" ++ name ++ "' not found"
  match Similarity.closest? name available with
  | some similar => lead ++ ". Did you mean '" ++ similar ++ "'?"
  | none =>
    if available.isEmpty then lead
    else
      let shown := lead ++ ". Available: " ++ Text.join [',', ' '] (available.take 10)
      if available.length ≤ 10 then shown
      else shown ++ " ... (" ++ Text.ofNat available.length ++ " total)"

/-- What is said of a file that cannot be read. -/
def unreadMessage (name file reason : Text) : Text :=
  "Template '" ++ name ++ "' could not be read from " ++ file ++ ": " ++ reason

/-- Read the file that a path leads to. -/
def readFile (library : Library) (encoding name : Text) (path : Path) :
    FileContents → Except LoadError LoadedSource
  | .closed number reason =>
    let file := path.toText library.home
    .error (.unopened (unreadMessage name file
      ("[Errno " ++ Text.ofNat number ++ "] " ++ reason ++ ": " ++ Quoted.encode file)) number)
  | .bytes bytes =>
    match Encoding.ofName? encoding with
    | none => .error (.unknownEncoding encoding)
    | some known => match known.decode bytes with
      | .ok text => .ok ⟨text, some (path.toText library.home)⟩
      | .error failure =>
        .error (.unreadable (unreadMessage name (path.toText library.home) failure.message))

/-- The source of a name in the first directory that has it. -/
def readFrom? (library : Library) (encoding name : Text) :
    List Path → Option (Except LoadError LoadedSource)
  | [] => none
  | base :: paths =>
    let path := base.join (.ofText name)
    match library.files.fileAt? path with
    | .ok (some contents) => some (readFile library encoding name path contents)
    | .ok none => readFrom? library encoding name paths
    | .error _ => some (.error (.tooLong (path.toText library.home)))

mutual

/-- The source of a template. -/
def read (library : Library) (name : Text) : Loader → Except LoadError LoadedSource
  | directories paths encoding =>
    (readFrom? library encoding name paths).getD (.error (.missing ("Template '" ++ name
      ++ "' not found in: " ++ Text.join [',', ' '] (paths.map (Path.toText library.home)))))
  | mapping shelf =>
    match (library.shelf shelf).lookup name with
    | some text => .ok ⟨text, none⟩
    | none => .error (.missing (missingMessage name (library.shelf shelf)))
  | silent shelf =>
    match (library.shelf shelf).lookup name with
    | some text => .ok ⟨text, some ("plain/" ++ name)⟩
    | none => .error (.missing ("plain: " ++ name))
  | choice loaders =>
    (readFirst? library name loaders).getD (.error (.missing ("Template '" ++ name
      ++ "' not found in any of " ++ Text.ofNat loaders.length ++ " loaders")))

/-- The answer of the first loader that does not say that the template is missing. -/
def readFirst? (library : Library) (name : Text) :
    List Loader → Option (Except LoadError LoadedSource)
  | [] => none
  | loader :: loaders =>
    match loader.read library name with
    | .error (.missing _) => readFirst? library name loaders
    | answer => some answer

end

/-- The names of the files in directories. -/
def namesInAll (library : Library) : List Path → Except LoadError (List Text)
  | [] => .ok []
  | path :: paths => do
    let names ← (library.files.namesBelow path).mapError fun _ => .tooLong (path.toText library.home)
    return names ++ (← namesInAll library paths)

mutual

/-- The names of the templates that a loader can list, in no particular order. -/
def names (library : Library) : Loader → Except LoadError (List Text)
  | directories paths _ => namesInAll library paths
  | mapping shelf => .ok ((library.shelf shelf).map Prod.fst)
  | silent _ => .ok []
  | choice loaders => namesOfAll library loaders

/-- The names of the templates that several loaders can list. -/
def namesOfAll (library : Library) : List Loader → Except LoadError (List Text)
  | [] => .ok []
  | loader :: loaders => do return (← loader.names library) ++ (← namesOfAll library loaders)

end

/-- The names of the templates that a loader can list, sorted and without repetitions. -/
def list (library : Library) (loader : Loader) : Except LoadError (List Text) :=
  (loader.names library).map Text.sortDistinct

end Loader
end Stencil
