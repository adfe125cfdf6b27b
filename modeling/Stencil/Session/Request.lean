import Stencil.Session.Sketch

/-!
# Requests and answers

What can be asked for in a session, and what is answered.  Parts of a session are named when they are defined and
referred to by those names afterwards.
-/

namespace Stencil

/-- The description of a loader. -/
inductive LoaderSketch where
  /-- A loader that has a name. -/
  | known (id : Text)
  | directories (paths : List Text) (encoding : Text)
  | mapping (shelf : Shelf)
  | choice (loaders : List LoaderSketch)
  | silent (shelf : Shelf)
  deriving Repr

/-- How a template is to be compiled. -/
structure TemplateOptions where
  /-- Whether values are escaped, instead of what the content type decides. -/
  escape : Option Bool
  /-- The global names that its expressions see. -/
  globals : List (Text × Sketch)
  deriving Repr

/-- How a class is to be displayed, with parts given by name or described. -/
structure DisplaySketch where
  text : Option Text
  path : Option Text
  suffix : Option Text
  loader : Option LoaderSketch
  environment : Option Text
  escape : Option Bool
  reload : Bool
  deriving Repr

/-- The description of a class. -/
structure ClassSketch where
  name : Text
  qualifiedName : Text
  module : Text
  base : Option Text
  attributes : List (Text × Sketch)
  deriving Repr

/-- Parts of a session that get a name. -/
inductive Definition where
  | loader (sketch : LoaderSketch)
  | policy (extra : List (Text × Text))
  | environment (loader : Option LoaderSketch) (policy : Option Text) (marker : Text)
  | template (environment : Option Text) (text : Text) (name suffix : Option Text)
      (options : TemplateOptions)
  | namedTemplate (environment name : Text) (options : TemplateOptions)
  | classOf (sketch : ClassSketch)
  deriving Repr

/-- What can be asked for without giving anything a name. -/
inductive Query where
  | writeFile (path : Text) (contents : List UInt8)
  | removeFile (path : Text)
  /-- Put a source into the mapping of a loader, or remove it. -/
  | putSource (loader name : Text) (source : Option Text)
  | load (loader name : Text)
  | listTemplates (loader : Text)
  | listPaths (loader : Text)
  | register (policy contentType decision : Text)
  | decide (policy contentType : Text)
  /-- Whether a policy has an entry for a content type; a value that is no text never has one. -/
  | covers (policy : Text) (contentType : Option Text)
  | readSource (environment name : Text)
  | render (template : Text) (context : Sketch)
  | defineModule (name : Text) (file : Option Text) (globals : List (Text × Sketch))
  | putGlobal (module name : Text) (value : Sketch)
  | display (className : Text) (options : DisplaySketch)
  | inspect (className : Text)
  /-- Convert a value to text. -/
  | toText (value : Sketch)
  /-- Ask a value what it is in markup. -/
  | toMarkup (value : Sketch)
  /-- Convert a value to text in markup. -/
  | escape (value : Sketch)
  deriving Repr

/-- Requests. -/
inductive Request where
  | define (id : Text) (definition : Definition)
  | ask (query : Query)
  deriving Repr

/-- What there is to know about a class. -/
structure ClassInfo where
  template : Option Template
  contentType : Sketch
  /-- The qualified name of the class's own conversion to text. -/
  textName : Option Text
  /-- The qualified name of the class's own conversion to markup. -/
  markupName : Option Text
  /-- Whether the class or a class above it converts to markup. -/
  convertsToMarkup : Bool

/-- Why a request was not fulfilled. -/
structure Failure where
  kind : ErrorKind
  message : Text
  report : Option Report
  /-- The kind of the error that it was made from. -/
  cause : Option ErrorKind
  deriving DecidableEq, Repr

/-- Answers. -/
inductive Answer where
  | done
  | loaded (source : LoadedSource)
  | templates (names : List Text)
  | paths (paths : List Text)
  | policy (policy : EscapePolicy)
  | decision (decision : Escaping) (covered : Bool)
  | covered (answer : Bool)
  | environment (environment : Environment)
  | source (source : TemplateSource)
  | template (template : Template)
  | output (value : Sketch)
  | markup (value : Sketch) (trusted : Bool)
  | displayed (info : ClassInfo)
  | classInfo (info : ClassInfo)
  /-- There is no template of that name. -/
  | noTemplate
  | failed (failure : Failure)
  /-- The bound on the steps was too small. -/
  | unfinished

end Stencil
