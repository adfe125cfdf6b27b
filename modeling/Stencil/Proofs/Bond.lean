import Mathlib.Data.List.Forall2
import Mathlib.Order.Basic
import Stencil.Proofs.DisplayedClasses
import Stencil.Proofs.Recoding

/-!
# What belongs together in two worlds

Two worlds can be alike although what they hold stands at different places, and although each of them holds things
that the other one does not.  A bond says which places of the one belong to which places of the other; things at places
that belong together are alike.  Actions that start in such worlds are twins when they end in the same way, in worlds
that are alike again.
-/

namespace Stencil

open Effect Script

/-! ## Bonds -/

/-- Whether no place of one side belongs to two places of the other one. -/
def OneToOne (pairs : Nat → Nat → Prop) : Prop :=
  ∀ {a b a' b' : Nat}, pairs a a' → pairs b b' → (a = b ↔ a' = b')

/-- Where two routines run that differ in how they convert values. -/
structure Gathering where
  /-- Whether the routine of the other world escapes values. -/
  escape : Bool
  /-- The scopes of the two calls. -/
  scope : Nat
  scope' : Nat
  /-- The addresses of the lists that the output is gathered in. -/
  list : Nat
  list' : Nat

/-- Which places of one world belong to which places of another one. -/
structure Bond where
  /-- The addresses of objects that values lead to. -/
  objects : Nat → Nat → Prop
  identities : Nat → Nat → Prop
  /-- The numbers of templates that values lead to. -/
  templates : Nat → Nat → Prop
  /-- The numbers of templates that render alike. -/
  programs : Nat → Nat → Prop
  /-- The scopes of calls, those inside of routines that differ in how they convert values apart from the others. -/
  frames : Bool → Nat → Nat → Prop
  /-- The scopes that the routines of templates are made in. -/
  bases : Bool → Nat → Nat → Prop
  /-- The addresses of the one world, and of the other one, that only hidden names lead to. -/
  kept : Nat → Prop
  kept' : Nat → Prop
  /-- The scopes of the one world, and of the other one, that stay as they are. -/
  still : Nat → Prop
  still' : Nat → Prop
  /-- The bindings that are built again in the one world, and templates of the other one that are what they build. -/
  rebuilds : Binding → Nat → Prop
  /-- Where routines run that differ in how they convert values, if any do. -/
  gathering : Option Gathering
  objects_unique : OneToOne objects
  identities_unique : OneToOne identities
  shared : identities 0 0
  templates_unique : OneToOne templates
  programs_of_templates : ∀ {number number' : Nat}, templates number number' → programs number number'
  frames_unique : OneToOne fun number number' => ∃ inside, frames inside number number'
  frames_apart : ∀ {a b a' b' : Nat}, frames true a a' → frames false b b' → a ≠ b
  objects_free : ∀ {address address' : Nat}, objects address address' → ¬ kept address ∧ ¬ kept' address'
  frames_free : ∀ {inside : Bool} {number number' : Nat}, frames inside number number' → ¬ still number ∧ ¬ still' number'
  bases_still : ∀ {inside : Bool} {number number' : Nat}, bases inside number number' → still number ∧ still' number'
  gathering_frame : ∀ {place : Gathering}, gathering = some place → frames true place.scope place.scope'
  frames_gathered : ∀ {number number' : Nat}, frames true number number' → gathering.isSome
  gathering_free : ∀ {place : Gathering}, gathering = some place → ¬ kept place.list ∧ ¬ kept' place.list'
  gathering_apart : ∀ {place : Gathering} {address address' : Nat}, gathering = some place → objects address address' →
    address ≠ place.list ∧ address' ≠ place.list'

namespace Bond

/-- One bond says all that another one says. -/
structure Within (bond bond' : Bond) : Prop where
  objects : ∀ {a a' : Nat}, bond.objects a a' → bond'.objects a a'
  identities : ∀ {a a' : Nat}, bond.identities a a' → bond'.identities a a'
  templates : ∀ {a a' : Nat}, bond.templates a a' → bond'.templates a a'
  programs : ∀ {a a' : Nat}, bond.programs a a' → bond'.programs a a'
  frames : ∀ {inside : Bool} {a a' : Nat}, bond.frames inside a a' → bond'.frames inside a a'
  bases : ∀ {inside : Bool} {a a' : Nat}, bond.bases inside a a' → bond'.bases inside a a'
  kept : ∀ {a : Nat}, bond.kept a → bond'.kept a
  kept' : ∀ {a : Nat}, bond.kept' a → bond'.kept' a
  still : ∀ {a : Nat}, bond.still a → bond'.still a
  still' : ∀ {a : Nat}, bond.still' a → bond'.still' a
  rebuilds : ∀ {binding : Binding} {number : Nat}, bond.rebuilds binding number → bond'.rebuilds binding number
  gathering : ∀ {place : Gathering}, bond.gathering = some place → bond'.gathering = some place

instance : Preorder Bond where
  le := Within
  le_refl _ := ⟨id, id, id, id, id, id, id, id, id, id, id, id⟩
  le_trans _ _ _ first second :=
    ⟨second.objects ∘ first.objects, second.identities ∘ first.identities, second.templates ∘ first.templates,
      second.programs ∘ first.programs, second.frames ∘ first.frames, second.bases ∘ first.bases,
      second.kept ∘ first.kept, second.kept' ∘ first.kept', second.still ∘ first.still, second.still' ∘ first.still',
      second.rebuilds ∘ first.rebuilds, second.gathering ∘ first.gathering⟩

/-- The scopes that belong together. -/
def scopes (bond : Bond) (inside : Bool) (number number' : Nat) : Prop :=
  bond.frames inside number number' ∨ bond.bases inside number number'

/-- The scopes that belong together around functions that are defined in them. -/
def encloses (bond : Bond) (inside : Bool) (number number' : Nat) : Prop :=
  bond.frames inside number number' ∨ inside = false ∧ bond.bases inside number number'

variable {bond bond' : Bond}

theorem encloses_mono (grown : bond ≤ bond') {inside : Bool} {number number' : Nat}
    (pair : bond.encloses inside number number') : bond'.encloses inside number number' :=
  pair.imp grown.frames (And.imp_right grown.bases)

theorem scopes_mono (grown : bond ≤ bond') {inside : Bool} {number number' : Nat}
    (pair : bond.scopes inside number number') : bond'.scopes inside number number' :=
  pair.imp grown.frames grown.bases

end Bond

/-! ## Entries -/

section Entries

variable {α β : Type} {R S : Text → α → β → Prop} {entries : List (Text × α)} {entries' : List (Text × β)}

/-- Whether two lists of entries have the same keys in the same order, and what is under them belongs together. -/
def Alike (R : Text → α → β → Prop) : List (Text × α) → List (Text × β) → Prop :=
  List.Forall₂ fun entry entry' => entry.1 = entry'.1 ∧ R entry.1 entry.2 entry'.2

theorem rel_imp {R S : α → β → Prop} (each : ∀ value value', R value value' → S value value') {found : Option α}
    {found' : Option β} (alike : Option.Rel R found found') : Option.Rel S found found' := by
  cases alike with
  | none => exact .none
  | some alike => exact .some (each _ _ alike)

theorem Alike.mono (each : ∀ name value value', R name value value' → S name value value')
    (alike : Alike R entries entries') : Alike S entries entries' :=
  List.Forall₂.imp (fun _ _ both => ⟨both.1, each _ _ _ both.2⟩) alike

theorem Alike.lookup (alike : Alike R entries entries') (name : Text) :
    Option.Rel (R name) (entries.lookup name) (entries'.lookup name) := by
  induction alike with
  | nil => exact .none
  | @cons entry entry' _ _ both _ ih =>
      obtain ⟨key, value⟩ := entry
      obtain ⟨key', value'⟩ := entry'
      obtain ⟨rfl, alike⟩ := both
      rw [List.lookup_cons, List.lookup_cons]
      by_cases same : name = key
      · subst same
        simpa using Option.Rel.some alike
      · rw [beq_eq_false_iff_ne.mpr same]
        exact ih

theorem Alike.put (alike : Alike R entries entries') {name : Text} {value : α} {value' : β} (new : R name value value') :
    Alike R (putEntry name value entries) (putEntry name value' entries') := by
  induction alike with
  | nil => exact .cons ⟨rfl, new⟩ .nil
  | @cons entry entry' entries entries' both rest ih =>
      rw [putEntry, putEntry, ← both.1]
      split
      · exact .cons ⟨rfl, new⟩ rest
      · exact .cons both ih

theorem Alike.filter (alike : Alike R entries entries') (keeps : Text → Bool) :
    Alike R (entries.filter fun entry => keeps entry.1) (entries'.filter fun entry => keeps entry.1) := by
  induction alike with
  | nil => exact .nil
  | @cons entry entry' entries entries' both rest ih =>
      rw [List.filter_cons, List.filter_cons, ← both.1]
      split
      · exact .cons both ih
      · exact ih

theorem Alike.append (first : Alike R entries entries') {more : List (Text × α)} {more' : List (Text × β)}
    (second : Alike R more more') : Alike R (entries ++ more) (entries' ++ more') :=
  List.rel_append first second

theorem Alike.zip {S : α → β → Prop} (names : List Text) {values : List α} {values' : List β}
    (alike : List.Forall₂ S values values') (each : ∀ name ∈ names, ∀ value value', S value value' → R name value value') :
    Alike R (names.zip values) (names.zip values') := by
  induction names generalizing values values' with
  | nil => exact .nil
  | cons name names ih =>
      obtain ⟨own, others⟩ := List.forall_mem_cons.mp each
      cases alike with
      | nil => exact .nil
      | cons first rest => exact .cons ⟨rfl, own _ _ first⟩ (ih rest others)

end Entries

/-- Whether the routine of a template is a function of a world, made in a scope that holds the converters. -/
structure World.Hosts (world : World) (template : Template) (globals outer : Nat) : Prop where
  function : ∃ attributes, world.objects[template.function]? = some (.function
    ⟨routineName, ["self"], template.routine.body, outer, template.routine.file, globals⟩ attributes)
  scope : world.scopes[outer]? = some (Routine.scopeAround template.function)

/-! ## Values -/

/-- What scripts keep to in two worlds that are compared. -/
structure Manners extends Reticence where
  /-- The libraries that templates are loaded from. -/
  libraries : Library → Prop
  /-- The bindings of classes whose templates are built again. -/
  bindings : Binding → Prop
  discreet : ∀ {world : World} {binding : Binding} {source : TemplateSource} {routine : Routine},
    libraries world.library → bindings binding → world.sourceFor binding = .ok source →
      source.routine binding.environment.marker binding.escape = .ok routine →
        toReticence.Discreet (.name "self" :: mentionsOfBlock routine.body)

mutual

/-- Whether two values are the same, apart from the places that they lead to. -/
inductive Manners.Same (terms : Manners) (bond : Bond) : Value → Value → Prop where
  | none : Same terms bond .none .none
  | bool (value : Bool) : Same terms bond (.bool value) (.bool value)
  | int {identity identity' : Nat} (kept : bond.identities identity identity') (value : Int) :
    Same terms bond (.int identity value) (.int identity' value)
  | text {identity identity' : Nat} (kept : bond.identities identity identity') (trusted : Bool) (content : Text) :
    Same terms bond (.text identity trusted content) (.text identity' trusted content)
  | tuple {identity identity' : Nat} {items items' : List Value} (kept : bond.identities identity identity')
    (each : AllSame terms bond items items') : Same terms bond (.tuple identity items) (.tuple identity' items')
  | range {identity identity' : Nat} (kept : bond.identities identity identity') (start stop step : Int) :
    Same terms bond (.range identity start stop step) (.range identity' start stop step)
  | object {address address' : Nat} (pair : bond.objects address address') :
    Same terms bond (.object address) (.object address')
  | builtin (function : Builtin) : Same terms bond (.builtin function) (.builtin function)
  | kind (kind : ErrorKind) : Same terms bond (.kind kind) (.kind kind)
  | method {identity identity' : Nat} {receiver receiver' : Value} {name : Text}
    (kept : bond.identities identity identity') (same : Same terms bond receiver receiver') (seen : ¬ terms.unread name) :
    Same terms bond (.method identity receiver name) (.method identity' receiver' name)
  | template {number number' : Nat} (pair : bond.templates number number') :
    Same terms bond (.template number) (.template number')

/-- Whether the values of two lists are the same, apart from the places that they lead to. -/
inductive Manners.AllSame (terms : Manners) (bond : Bond) : List Value → List Value → Prop where
  | nil : AllSame terms bond [] []
  | cons {value value' : Value} {values values' : List Value} (same : Same terms bond value value')
    (each : AllSame terms bond values values') : AllSame terms bond (value :: values) (value' :: values')

end

namespace Manners

variable {terms : Manners} {bond bond' : Bond}

theorem allSame_iff {values values' : List Value} :
    terms.AllSame bond values values' ↔ List.Forall₂ (terms.Same bond) values values' := by
  constructor
  · intro each
    induction values generalizing values' with
    | nil =>
        cases each
        exact .nil
    | cons value values ih =>
        cases each with
        | cons same each => exact .cons same (ih each)
  · intro each
    induction each with
    | nil => exact .nil
    | cons same _ ih => exact .cons same ih

mutual

theorem Same.mono (grown : bond ≤ bond') : ∀ {value value' : Value}, terms.Same bond value value' →
    terms.Same bond' value value'
  | _, _, .none => .none
  | _, _, .bool value => .bool value
  | _, _, .int kept value => .int (grown.identities kept) value
  | _, _, .text kept trusted content => .text (grown.identities kept) trusted content
  | _, _, .tuple kept each => .tuple (grown.identities kept) (AllSame.mono grown each)
  | _, _, .range kept start stop step => .range (grown.identities kept) start stop step
  | _, _, .object pair => .object (grown.objects pair)
  | _, _, .builtin function => .builtin function
  | _, _, .kind kind => .kind kind
  | _, _, .method kept same seen => .method (grown.identities kept) (Same.mono grown same) seen
  | _, _, .template pair => .template (grown.templates pair)

theorem AllSame.mono (grown : bond ≤ bond') : ∀ {values values' : List Value}, terms.AllSame bond values values' →
    terms.AllSame bond' values values'
  | _, _, .nil => .nil
  | _, _, .cons same each => .cons (Same.mono grown same) (AllSame.mono grown each)

end

/-- Whether the values of two lists are the same, apart from the places that they lead to. -/
abbrev Sames (terms : Manners) (bond : Bond) : List Value → List Value → Prop := List.Forall₂ (terms.Same bond)

theorem Sames.mono (grown : bond ≤ bond') {values values' : List Value} (each : terms.Sames bond values values') :
    terms.Sames bond' values values' :=
  List.Forall₂.imp (fun _ _ same => same.mono grown) each

theorem Same.tuples {identity identity' : Nat} {items items' : List Value} (kept : bond.identities identity identity')
    (each : terms.Sames bond items items') : terms.Same bond (.tuple identity items) (.tuple identity' items') :=
  .tuple kept (allSame_iff.mpr each)

theorem Same.plain (content : Text) : terms.Same bond (.plain content) (.plain content) := .text bond.shared _ _

theorem Same.number (value : Int) : terms.Same bond (.number value) (.number value) := .int bond.shared _

/-- Whether the entries of two dictionaries are the same, apart from the places that they lead to. -/
abbrev SamePairs (terms : Manners) (bond : Bond) : List (Value × Value) → List (Value × Value) → Prop :=
  List.Forall₂ fun entry entry' => terms.Same bond entry.1 entry'.1 ∧ terms.Same bond entry.2 entry'.2

theorem SamePairs.mono (grown : bond ≤ bond') {entries entries' : List (Value × Value)}
    (each : terms.SamePairs bond entries entries') : terms.SamePairs bond' entries entries' :=
  List.Forall₂.imp (fun _ _ both => ⟨both.1.mono grown, both.2.mono grown⟩) each

/-- Whether named values are the same, apart from the places that they lead to. -/
abbrev SameEntries (terms : Manners) (bond : Bond) : List (Text × Value) → List (Text × Value) → Prop :=
  Alike fun _ => terms.Same bond

theorem SameEntries.mono (grown : bond ≤ bond') {entries entries' : List (Text × Value)}
    (each : terms.SameEntries bond entries entries') : terms.SameEntries bond' entries entries' :=
  Alike.mono (fun _ _ _ same => same.mono grown) each

/-! ## Objects -/

/-- Whether reading two attributes gives the same. -/
inductive SameSlot (terms : Manners) (bond : Bond) : Slot → Slot → Prop where
  | value {value value' : Value} (same : terms.Same bond value value') : SameSlot terms bond (.value value) (.value value')
  | operation {receiver receiver' : Value} {name : Text} (same : terms.Same bond receiver receiver')
    (seen : ¬ terms.unread name) : SameSlot terms bond (.operation receiver name) (.operation receiver' name)
  | failing {arguments arguments' : List Value} (kind : ErrorKind) (each : terms.Sames bond arguments arguments') :
    SameSlot terms bond (.failing kind arguments) (.failing kind arguments')

theorem SameSlot.mono (grown : bond ≤ bond') {slot slot' : Slot} (same : terms.SameSlot bond slot slot') :
    terms.SameSlot bond' slot slot' := by
  cases same with
  | value same => exact .value (same.mono grown)
  | operation same seen => exact .operation (same.mono grown) seen
  | failing kind each => exact .failing kind (Sames.mono grown each)

/-- Whether the attributes of two objects are the same. -/
abbrev SameSlots (terms : Manners) (bond : Bond) : List (Text × Slot) → List (Text × Slot) → Prop :=
  Alike fun _ => terms.SameSlot bond

theorem SameSlots.mono (grown : bond ≤ bond') {slots slots' : List (Text × Slot)}
    (each : terms.SameSlots bond slots slots') : terms.SameSlots bond' slots slots' :=
  Alike.mono (fun _ _ _ same => same.mono grown) each

/-- Whether two errors are the same, apart from the places that they lead to. -/
structure SameIncident (terms : Manners) (bond : Bond) (incident incident' : Incident) : Prop where
  kind : incident'.kind = incident.kind
  arguments : terms.Sames bond incident.arguments incident'.arguments
  attributes : terms.SameEntries bond incident.attributes incident'.attributes
  report : incident'.report = incident.report
  trace : incident'.trace = incident.trace
  cause : incident'.cause = incident.cause

theorem SameIncident.mono (grown : bond ≤ bond') {incident incident' : Incident}
    (same : terms.SameIncident bond incident incident') : terms.SameIncident bond' incident incident' :=
  { same with arguments := Sames.mono grown same.arguments, attributes := SameEntries.mono grown same.attributes }

/-- Whether two iterations go on alike. -/
inductive SamePassage (terms : Manners) (bond : Bond) : Passage → Passage → Prop where
  | characters (ascii : Bool) (left : Text) : SamePassage terms bond (.characters ascii left) (.characters ascii left)
  | items {left left' : List Value} (each : terms.Sames bond left left') : SamePassage terms bond (.items left) (.items left')
  | along {list list' : Nat} (pair : bond.objects list list') (position : Nat) :
    SamePassage terms bond (.along list position) (.along list' position)
  | keys {dict dict' : Nat} (pair : bond.objects dict dict') (size position : Nat) :
    SamePassage terms bond (.keys dict size position) (.keys dict' size position)
  | pairs {dict dict' : Nat} (pair : bond.objects dict dict') (size position : Nat) :
    SamePassage terms bond (.pairs dict size position) (.pairs dict' size position)
  | counting (wide : Bool) (next : Int) (left : Nat) (step : Int) :
    SamePassage terms bond (.counting wide next left step) (.counting wide next left step)
  | calling {function function' stop stop' : Value} (same : terms.Same bond function function')
    (last : terms.Same bond stop stop') : SamePassage terms bond (.calling function stop) (.calling function' stop')

theorem SamePassage.mono (grown : bond ≤ bond') {passage passage' : Passage}
    (same : terms.SamePassage bond passage passage') : terms.SamePassage bond' passage passage' := by
  cases same with
  | characters ascii left => exact .characters ascii left
  | items each => exact .items (Sames.mono grown each)
  | along pair position => exact .along (grown.objects pair) position
  | keys pair size position => exact .keys (grown.objects pair) size position
  | pairs pair size position => exact .pairs (grown.objects pair) size position
  | counting wide next left step => exact .counting wide next left step
  | calling same last => exact .calling (same.mono grown) (last.mono grown)

/-- What scripts say nothing of inside of routines that differ in how they convert values, and elsewhere. -/
def reticence (terms : Manners) (inside : Bool) : Reticence :=
  { terms.toReticence with hidden := fun name => if inside then name ∈ Routine.reserved else terms.hidden name }

/-- Whether scripts may differ in how they convert values in a given way. -/
def Converts (bond : Bond) (inside : Bool) (conversion : Option Bool) : Prop :=
  ∀ escape, conversion = some escape → inside = true ∧ ∃ place, bond.gathering = some place ∧ place.escape = escape

theorem Converts.mono (grown : bond ≤ bond') {inside : Bool} {conversion : Option Bool}
    (converts : Converts bond inside conversion) : Converts bond' inside conversion := by
  intro escape decided
  obtain ⟨within, place, there, same⟩ := converts escape decided
  exact ⟨within, place, grown.gathering there, same⟩

theorem converts_none {inside : Bool} : Converts bond inside none := nofun

/-- Whether two functions do the same; they may differ in how they convert values. -/
structure SameFunction (terms : Manners) (bond : Bond) (function function' : Function) : Prop where
  name : function'.name = function.name
  parameters : function'.parameters = function.parameters
  file : function'.file = function.file
  globals : function'.globals = function.globals
  code : ∃ inside conversion, bond.encloses inside function.outer function'.outer ∧
    Converts bond inside conversion ∧ (terms.reticence inside).Spares function.parameters ∧
      RecodedBlock (terms.reticence inside) conversion function.body function'.body

theorem SameFunction.mono (grown : bond ≤ bond') {function function' : Function}
    (same : terms.SameFunction bond function function') : terms.SameFunction bond' function function' :=
  { same with
    code := by
      obtain ⟨inside, conversion, around, converts, more⟩ := same.code
      exact ⟨inside, conversion, Bond.encloses_mono grown around, converts.mono grown, more⟩ }

/-- Whether two objects are alike. -/
inductive SameObject (terms : Manners) (bond : Bond) : Object → Object → Prop where
  | list {items items' : Array Value} (each : terms.Sames bond items.toList items'.toList) :
    SameObject terms bond (.list items) (.list items')
  | dict {entries entries' : List (Value × Value)} (each : terms.SamePairs bond entries entries') :
    SameObject terms bond (.dict entries) (.dict entries')
  | entries {dict dict' : Nat} (pair : bond.objects dict dict') : SameObject terms bond (.entries dict) (.entries dict')
  | context {attributes attributes' : List (Text × Slot)} (each : terms.SameSlots bond attributes attributes') :
    SameObject terms bond (.context attributes) (.context attributes')
  | guest {html html' : Option Slot} {text text' : Slot} {attributes attributes' : List (Text × Slot)}
    (trusted : Option.Rel (terms.SameSlot bond) html html') (shown : terms.SameSlot bond text text')
    (each : terms.SameSlots bond attributes attributes') :
    SameObject terms bond (.guest html text attributes) (.guest html' text' attributes')
  | member {attributes attributes' : List (Text × Slot)} (owner : Nat) (each : terms.SameSlots bond attributes attributes') :
    SameObject terms bond (.member owner attributes) (.member owner attributes')
  | function {function function' : Function} {attributes attributes' : List (Text × Value)}
    (same : terms.SameFunction bond function function') (each : terms.SameEntries bond attributes attributes') :
    SameObject terms bond (.function function attributes) (.function function' attributes')
  | iterator {passage passage' : Passage} (same : terms.SamePassage bond passage passage') (finished : Bool) :
    SameObject terms bond (.iterator ⟨passage, finished⟩) (.iterator ⟨passage', finished⟩)
  | error {incident incident' : Incident} (same : terms.SameIncident bond incident incident') :
    SameObject terms bond (.error incident) (.error incident')

theorem SameObject.mono (grown : bond ≤ bond') {object object' : Object} (same : terms.SameObject bond object object') :
    terms.SameObject bond' object object' := by
  cases same with
  | list each => exact .list (Sames.mono grown each)
  | dict each => exact .dict (SamePairs.mono grown each)
  | entries pair => exact .entries (grown.objects pair)
  | context each => exact .context (SameSlots.mono grown each)
  | guest trusted shown each =>
      exact .guest (rel_imp (fun _ _ same => same.mono grown) trusted) (shown.mono grown) (SameSlots.mono grown each)
  | member owner each => exact .member owner (SameSlots.mono grown each)
  | function same each => exact .function (same.mono grown) (SameEntries.mono grown each)
  | iterator same finished => exact .iterator (same.mono grown) finished
  | error same => exact .error (same.mono grown)

/-! ## Scopes and classes -/

/-- Whether what a name of a scope stands for is the same; what a hidden name stands for does not matter. -/
def Held (terms : Manners) (inside : Bool) (bond : Bond) (name : Text) (value value' : Value) : Prop :=
  (terms.reticence inside).hidden name ∨ terms.Same bond value value'

theorem Held.mono (grown : bond ≤ bond') {inside : Bool} {name : Text} {value value' : Value}
    (held : terms.Held inside bond name value value') : terms.Held inside bond' name value value' :=
  held.imp id fun same => same.mono grown

/-- Whether two scopes are alike. -/
structure SameScope (terms : Manners) (inside : Bool) (bond : Bond) (number number' : Nat) (scope scope' : Scope) :
    Prop where
  names : scope'.names = scope.names
  values : Alike (terms.Held inside bond) scope.values scope'.values
  outer : Option.Rel (fun outer outer' => bond.scopes inside outer outer' ∧ outer < number ∧ outer' < number')
    scope.outer scope'.outer

theorem SameScope.mono (grown : bond ≤ bond') {inside : Bool} {number number' : Nat} {scope scope' : Scope}
    (same : terms.SameScope inside bond number number' scope scope') :
    terms.SameScope inside bond' number number' scope scope' where
  names := same.names
  values := Alike.mono (fun _ _ _ held => held.mono grown) same.values
  outer := rel_imp (fun _ _ within => ⟨Bond.scopes_mono grown within.1, within.2⟩) same.outer

/-- Whether two displayed classes become text alike. -/
inductive SameHook (terms : Manners) (bond : Bond) : Hook → Hook → Prop where
  | renders {template template' : Nat} (pair : bond.programs template template') (owner : Text) :
    SameHook terms bond (.renders template owner) (.renders template' owner)
  | reloads {binding : Binding} (both : terms.bindings binding) (owner : Text) :
    SameHook terms bond (.reloads binding owner) (.reloads binding owner)
  | rebuilds {binding : Binding} {template : Nat} (built : bond.rebuilds binding template) (owner : Text) :
    SameHook terms bond (.reloads binding owner) (.renders template owner)
  | trusts (owner : Text) : SameHook terms bond (.trusts owner) (.trusts owner)

theorem SameHook.mono (grown : bond ≤ bond') {hook hook' : Hook} (same : terms.SameHook bond hook hook') :
    terms.SameHook bond' hook hook' := by
  cases same with
  | renders pair owner => exact .renders (grown.programs pair) owner
  | reloads both owner => exact .reloads both owner
  | rebuilds built owner => exact .rebuilds (grown.rebuilds built) owner
  | trusts owner => exact .trusts owner

/-- Whether two attributes of classes are alike. -/
inductive SameShared (terms : Manners) (bond : Bond) : Value → Value → Prop where
  | value {value value' : Value} (same : terms.Same bond value value') : SameShared terms bond value value'
  | hook {hook hook' : Hook} (same : terms.SameHook bond hook hook') : SameShared terms bond (.hook hook) (.hook hook')

theorem SameShared.mono (grown : bond ≤ bond') {value value' : Value} (same : terms.SameShared bond value value') :
    terms.SameShared bond' value value' := by
  cases same with
  | value same => exact .value (same.mono grown)
  | hook same => exact .hook (same.mono grown)

/-- Whether two classes are alike. -/
structure SameRecord (terms : Manners) (bond : Bond) (record record' : ClassRecord) : Prop where
  name : record'.name = record.name
  qualifiedName : record'.qualifiedName = record.qualifiedName
  module : record'.module = record.module
  base : record'.base = record.base
  attributes : ∀ name, ¬ terms.unread name →
    Option.Rel (terms.SameShared bond) (record.attributes.lookup name) (record'.attributes.lookup name)

theorem SameRecord.mono (grown : bond ≤ bond') {record record' : ClassRecord}
    (same : terms.SameRecord bond record record') : terms.SameRecord bond' record record' :=
  { same with attributes := fun name seen => rel_imp (fun _ _ shared => shared.mono grown) (same.attributes name seen) }

/-! ## Templates -/

/-- Whether two templates render alike. -/
structure SameProgram (terms : Manners) (bond : Bond) (world world' : World) (template template' : Template) : Prop where
  source : template'.source = template.source
  escape : template'.escape = template.escape
  routine : template'.routine = template.routine
  function : bond.objects template.function template'.function ∨
    bond.kept template.function ∧ bond.kept' template'.function ∧ ∃ content content' attributes attributes',
      world.objects[template.function]? = some (.function content attributes) ∧
        world'.objects[template'.function]? = some (.function content' attributes') ∧
          terms.SameFunction bond content content'

/-- Whether a template of the other world is what a binding builds in the one world. -/
structure Ready (terms : Manners) (bond : Bond) (world world' : World) (binding : Binding) (template : Template)
    (outer : Nat) : Prop where
  found : world.sourceFor binding = .ok template.source
  accepted : template.source.routine binding.environment.marker binding.escape = .ok template.routine
  escape : template.escape = binding.escape
  kept : bond.kept' template.function
  still : bond.still' outer
  hosts : world'.Hosts template binding.namespaceNumber outer
  concealed : terms.hidden Routine.renderName
  discreet : terms.Discreet (.name "self" :: mentionsOfBlock template.routine.body)

end Manners

open Manners

/-- On which terms two worlds are compared. -/
structure Terms extends Manners where
  /-- Whether the calls of the one world give up where the other one could differ, so that nothing is said of it then. -/
  guarded : Prop
  /-- What the routine of the one world then converts values with. -/
  converter : Value

/-! ## Routines that differ in how they convert values -/

/-- Whether two values are texts that say the same. -/
def SaysSame (value value' : Value) : Prop :=
  ∃ identity identity' trusted trusted' content, value = .text identity trusted content ∧
    value' = .text identity' trusted' content

/-- What a name that a routine gathers its output with stands for on both sides. -/
inductive Equips (converter : Value) (place : Gathering) : Text → Value → Value → Prop where
  | escape : Equips converter place Routine.escapeName converter (.builtin .escape)
  | text : Equips converter place Routine.textName (.builtin .text) (.builtin .text)
  | list : Equips converter place Routine.bufferName (.object place.list) (.object place.list')
  | append (identity identity' : Nat) : Equips converter place Routine.appendName (.method identity (.object place.list) "append")
    (.method identity' (.object place.list') "append")

/-- Whether two routines gather output that says the same. -/
structure Terms.Gathers (terms : Terms) (bond : Bond) (place : Gathering) (world world' : World) : Prop where
  guarded : terms.guarded
  lists : ∃ items items', world.objects[place.list]? = some (.list items) ∧
    world'.objects[place.list']? = some (.list items') ∧ List.Forall₂ SaysSame items.toList items'.toList
  own : ∃ scope scope', world.scopes[place.scope]? = some scope ∧ world'.scopes[place.scope']? = some scope' ∧
    ∀ name ∈ Routine.equipment, scope.names.contains name ∧ scope'.names.contains name ∧ ∃ value value',
      scope.values.lookup name = some value ∧ scope'.values.lookup name = some value' ∧
        Equips terms.converter place name value value'
  /-- Every scope inside is that of the call, or one around which there is another one inside. -/
  links : ∀ {number number' : Nat}, bond.frames true number number' →
    number = place.scope ∧ number' = place.scope' ∨ ∃ scope scope' outer outer',
      world.scopes[number]? = some scope ∧ world'.scopes[number']? = some scope' ∧
        scope.outer = some outer ∧ scope'.outer = some outer' ∧ outer < number ∧ outer' < number' ∧
          bond.frames true outer outer' ∧ ∀ name ∈ Routine.equipment,
            scope.names.contains name = false ∧ scope'.names.contains name = false

/-! ## Worlds -/

/-- Whether two worlds are alike where a bond says so. -/
structure Terms.Matched (terms : Terms) (bond : Bond) (world world' : World) : Prop where
  library : world'.library = world.library
  colours : world'.colours = world.colours
  handled : List.Forall₂ bond.objects world.handled world'.handled
  identities : ∀ {identity identity' : Nat}, bond.identities identity identity' →
    identity ≤ world.identities ∧ identity' ≤ world'.identities
  kept : ∀ {address : Nat}, bond.kept address → address < world.objects.size
  kept' : ∀ {address : Nat}, bond.kept' address → address < world'.objects.size
  still : ∀ {number : Nat}, bond.still number → number < world.scopes.size
  still' : ∀ {number : Nat}, bond.still' number → number < world'.scopes.size
  namespaces : ∀ number : Nat,
    Option.Rel (terms.SameEntries bond) (world.namespaces[number]?) (world'.namespaces[number]?)
  size : world'.classes.size = world.classes.size
  classes : ∀ number : Nat, Option.Rel (terms.SameRecord bond) (world.classes[number]?) (world'.classes[number]?)
  objects : ∀ {address address' : Nat}, bond.objects address address' → ∃ object object',
    world.objects[address]? = some object ∧ world'.objects[address']? = some object' ∧ terms.SameObject bond object object'
  scopes : ∀ {inside : Bool} {number number' : Nat}, bond.scopes inside number number' → ∃ scope scope',
    world.scopes[number]? = some scope ∧ world'.scopes[number']? = some scope' ∧
      terms.SameScope inside bond number number' scope scope'
  programs : ∀ {number number' : Nat}, bond.programs number number' → ∃ template template',
    world.templates[number]? = some template ∧ world'.templates[number']? = some template' ∧
      terms.SameProgram bond world world' template template'
  known : terms.libraries world.library
  rebuilds : ∀ {binding : Binding} {number : Nat}, bond.rebuilds binding number → ∃ template outer,
    world'.templates[number]? = some template ∧ terms.Ready bond world world' binding template outer
  gathers : ∀ {place : Gathering}, bond.gathering = some place → terms.Gathers bond place world world'

end Stencil
