import Stencil.Diagnostic.RenderFault
import Stencil.Template
import Stencil.World.ErrorKind

/-!
# Values

What the expressions of a script evaluate to.  Values that can change are objects, which values refer to by
address.  Of the others, those that an operation makes anew have an identity, which tells them apart from equal
ones; identity 0 is shared, so that a shared value is one and the same with every equal shared value.
-/

namespace Stencil

/-- The functions that every script can name, and the converter that escapes. -/
inductive Builtin where
  | length | range | text | sum | next | iterate | escape
  deriving DecidableEq, Repr

/-- Everything that is needed to build the template of a class. -/
structure Binding where
  environment : Environment
  name : Text
  /-- The text of the template, unless it is loaded by its name. -/
  text : Option Text
  contentType : Text
  escape : Bool
  /-- The number of the namespace that the template's expressions see. -/
  namespaceNumber : Nat
  deriving Repr

/-- What a displayed class does to become text or trusted text; `owner` is the qualified name of the
class that it was installed in. -/
inductive Hook where
  /-- Render a template that was built before. -/
  | renders (template : Nat) (owner : Text)
  /-- Build the template again and render it. -/
  | reloads (binding : Binding) (owner : Text)
  /-- Take the text as trusted. -/
  | trusts (owner : Text)
  deriving Repr

/-- The values of a script. -/
inductive Value where
  | none
  | bool (value : Bool)
  | int (identity : Nat) (value : Int)
  /-- A text; a trusted one is never escaped. -/
  | text (identity : Nat) (trusted : Bool) (content : Text)
  | tuple (identity : Nat) (items : List Value)
  | range (identity : Nat) (start stop step : Int)
  | object (address : Nat)
  | builtin (function : Builtin)
  | kind (kind : ErrorKind)
  /-- An operation of a value, to be called. -/
  | method (identity : Nat) (receiver : Value) (name : Text)
  | template (number : Nat)
  | hook (hook : Hook)
  deriving Repr

namespace Value

/-- A shared text that is not trusted. -/
def plain (content : Text) : Value := text 0 false content

/-- A shared number. -/
def number (value : Int) : Value := int 0 value

end Value

/-- What reading an attribute gives. -/
inductive Slot where
  | value (value : Value)
  /-- An operation of a value, made anew each time. -/
  | operation (receiver : Value) (name : Text)
  /-- An error each time. -/
  | failing (kind : ErrorKind) (arguments : List Value)
  deriving Repr

/-- A line of a trace. -/
structure TraceLine where
  file : Text
  line : Nat
  deriving DecidableEq, Repr

/-- The report that an error of the template engine carries. -/
inductive Report where
  | source (fault : SourceFault)
  | rendering (fault : RenderFault)
  deriving DecidableEq, Repr

/-- An error that has been or can be raised. -/
structure Incident where
  kind : ErrorKind
  arguments : List Value
  /-- What else it says about itself, and what was noted on it. -/
  attributes : List (Text × Value)
  report : Option Report
  /-- The lines that the error passed on its way out, outermost first. -/
  trace : List TraceLine
  /-- The kind of the error that this one was made from. -/
  cause : Option ErrorKind
  deriving Repr

/-- A function that a script defines. -/
structure Function where
  /-- Its qualified name. -/
  name : Text
  parameters : List Text
  body : List Script.Stmt
  /-- The scope that it was defined in. -/
  outer : Nat
  /-- The name of its file in traces. -/
  file : Text
  /-- The number of the namespace of its global names. -/
  globals : Nat
  deriving Repr

/-- What an iterator goes through, and how far it has come. -/
inductive Passage where
  /-- The characters of a text; `ascii` says whether it is an untrusted text of seven bits. -/
  | characters (ascii : Bool) (left : Text)
  | items (left : List Value)
  /-- A place in a list object, which may change meanwhile. -/
  | along (list position : Nat)
  /-- A place among the keys of a dictionary that had so many entries. -/
  | keys (dict size position : Nat)
  /-- A place among the entries of a dictionary that had so many. -/
  | pairs (dict size position : Nat)
  /-- So many numbers at a constant distance; `wide` says whether the range takes more than a machine word. -/
  | counting (wide : Bool) (next : Int) (left : Nat) (step : Int)
  /-- What a function gives when it is called, up to a given value. -/
  | calling (function stop : Value)
  deriving Repr

/-- Something that gives one value after the other; once it is finished it gives no more. -/
structure Iterator where
  passage : Passage
  finished : Bool
  deriving Repr

/-- The things that can change or that have an identity. -/
inductive Object where
  | list (items : Array Value)
  | dict (entries : List (Value × Value))
  /-- The entries of a dictionary as pairs. -/
  | entries (dict : Nat)
  /-- A value from outside that has nothing but attributes. -/
  | context (attributes : List (Text × Slot))
  /-- A value from outside with a text, and possibly with trusted text. -/
  | guest (html : Option Slot) (text : Slot) (attributes : List (Text × Slot))
  /-- An instance of a class. -/
  | member (owner : Nat) (attributes : List (Text × Slot))
  | function (function : Function) (attributes : List (Text × Value))
  | iterator (iterator : Iterator)
  | error (incident : Incident)
  deriving Repr

/-- The names and values of one call. -/
structure Scope where
  /-- The names that belong to the body. -/
  names : List Text
  values : List (Text × Value)
  /-- The scope around it. -/
  outer : Option Nat
  deriving Repr

/-- A class of contexts. -/
structure ClassRecord where
  name : Text
  qualifiedName : Text
  module : Text
  base : Option Nat
  /-- The attributes of the class itself. -/
  attributes : List (Text × Value)
  deriving Repr

/-- A template that is ready to be rendered. -/
structure Template where
  source : TemplateSource
  escape : Bool
  routine : Routine
  /-- The address of the routine as a function. -/
  function : Nat

end Stencil
