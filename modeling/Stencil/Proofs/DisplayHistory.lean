import Mathlib.Logic.Basic
import Stencil.Proofs.Additions
import Stencil.Session.Run

/-!
# What displaying leaves behind

Displaying a class gives it a content type and, when its template escapes, a trusted text, and neither is ever taken
back: the content type is that of the first template, and a class or an heir of it stays trusted however it is displayed
later.  Inserted values are escaped exactly as long as no class that they inherit from was displayed by a template that
escapes.
-/

namespace Stencil

open Effect

/-! ## Attributes of classes -/

namespace World

/-- The attribute that a class has itself. -/
def own (world : World) (number : Nat) (name : Text) : Option Value :=
  (world.classes[number]?).bind fun record => record.attributes.lookup name

/-- A class and the classes above it, of which there are at most `steps`, nearest first. -/
def lineageWithin (world : World) : (steps number : Nat) → List Nat
  | 0, _ => []
  | steps + 1, number =>
    match world.classes[number]? with
    | none => []
    | some record => number :: (record.base.elim [] (world.lineageWithin steps))

/-- A class and the classes above it, nearest first. -/
def lineage (world : World) (number : Nat) : List Nat := world.lineageWithin (world.classes.size + 1) number

theorem classAttribute?_eq (world : World) (name : Text) (steps number : Nat) :
    world.classAttribute? name steps number = (world.lineageWithin steps number).findSome? (world.own · name) := by
  induction steps generalizing number with
  | zero => rfl
  | succ steps ih =>
    rw [classAttribute?, lineageWithin]
    cases found : world.classes[number]? with
    | none => rfl
    | some record =>
      have own : world.own number name = record.attributes.lookup name := by rw [World.own, found, Option.bind_some]
      rw [List.findSome?_cons, own]
      dsimp only
      cases record.attributes.lookup name with
      | some value => rfl
      | none =>
        cases record.base with
        | none => rfl
        | some base => exact ih base

/-- An attribute of a class is that of the nearest class that has it. -/
theorem attributeOfClass?_eq (world : World) (name : Text) (number : Nat) :
    world.attributeOfClass? number name = (world.lineage number).findSome? (world.own · name) :=
  world.classAttribute?_eq name _ number

/-- The world with an attribute of a class set. -/
def put (number : Nat) (name : Text) (value : Value) (world : World) : World :=
  { world with classes := world.classes.modify number fun record =>
      { record with attributes := putEntry name value record.attributes } }

variable {world : World} {number : Nat} {name : Text} {value : Value}

theorem own_put (inside : number < world.classes.size) (other : Nat) (asked : Text) :
    (world.put number name value).own other asked =
      if other = number ∧ asked = name then some value else world.own other asked := by
  rw [own, own, put, Array.getElem?_modify]
  by_cases here : number = other
  · subst here
    rw [if_pos rfl, Array.getElem?_eq_getElem inside, Option.map_some, Option.bind_some, Option.bind_some]
    by_cases same : asked = name
    · rw [if_pos ⟨rfl, same⟩, same, lookup_putEntry]
    · rw [if_neg fun both => same both.2, lookup_putEntry_ne same]
  · rw [if_neg here, if_neg fun both => here both.1.symm]

end World

/-! ## One display -/

/-- An effect that leaves the classes as they are. -/
def LeavesClasses {α : Type} (effect : Effect α) : Prop :=
  ∀ world, match effect world with
    | .done _ next | .failed _ next => next.classes = world.classes
    | .exhausted => True

namespace LeavesClasses

theorem additive : Additive fun world next => next.classes = world.classes where
  refl _ := rfl
  trans first second := second.trans first
  object _ _ := rfl
  standard _ := rfl
  template _ _ _ _ _ := rfl

theorem build (binding : Binding) : LeavesClasses (Effect.build binding) := Leads.build additive binding

theorem bindClass (record : ClassRecord) (options : DisplayOptions) :
    LeavesClasses (Effect.bindClass record options) :=
  Leads.bindClass additive record options

end LeavesClasses

/-- How the template of a class is shown as the text of its instances. -/
inductive Shows (binding : Binding) : Value → Prop
  /-- It was built when the class was displayed. -/
  | built {world after : World} {template : Nat} (owner : Text) (done : build binding world = .done template after) :
    Shows binding (.hook (.renders template owner))
  /-- It is built again for every rendering. -/
  | rebuilt (owner : Text) : Shows binding (.hook (.reloads binding owner))

/-- What an installed template changes about the classes: the text of the class is the template's, its content type is
the template's unless it has one, and it is trusted from then on when the template escapes. -/
structure Installs (number : Nat) (binding : Binding) (world next : World) : Prop where
  size : next.classes.size = world.classes.size
  text : ∃ shown, Shows binding shown ∧ ∀ other, next.own other "__str__" =
    if other = number then some shown else world.own other "__str__"
  contentType : ∀ other, next.own other "content_type" =
    if other = number ∧ world.own number "content_type" = none then some (.plain binding.contentType)
    else world.own other "content_type"
  trust : ∃ owner, ∀ other, next.own other "__html__" =
    if other = number ∧ binding.escape = true ∧ world.own number "__html__" = none then some (.hook (.trusts owner))
    else world.own other "__html__"

namespace World

variable {world next : World} {number : Nat} {name : Text} {value : Value}

theorem size_put : (world.put number name value).classes.size = world.classes.size := Array.size_modify

/-- The world with an attribute of a class set under a condition. -/
def putIf (condition : Bool) (number : Nat) (name : Text) (value : Value) (world : World) : World :=
  if condition then world.put number name value else world

theorem own_putIf (condition : Bool) (name : Text) (value : Value) (inside : number < world.classes.size) (other : Nat)
    (asked : Text) :
    (world.putIf condition number name value).own other asked =
      if condition = true ∧ other = number ∧ asked = name then some value else world.own other asked := by
  cases condition with
  | false => simp [putIf]
  | true => simp [putIf, own_put inside]

theorem size_putIf (condition : Bool) :
    (world.putIf condition number name value).classes.size = world.classes.size := by
  cases condition with
  | false => rfl
  | true => exact size_put

theorem attributeOfClass?_of_classes (same : next.classes = world.classes) (owner : Nat) (asked : Text) :
    next.attributeOfClass? owner asked = world.attributeOfClass? owner asked := by
  have within (steps owner : Nat) : next.classAttribute? asked steps owner =
      world.classAttribute? asked steps owner := by
    induction steps generalizing owner with
    | zero => rfl
    | succ steps ih =>
      have ih' : next.classAttribute? asked steps = world.classAttribute? asked steps := funext ih
      rw [classAttribute?, classAttribute?, same, ih']
  rw [attributeOfClass?, attributeOfClass?, same]
  exact within _ owner

theorem own_of_classes (same : next.classes = world.classes) : next.own = world.own := by
  funext other asked
  rw [own, own, same]

end World

/-- The world after a template's text was installed: what the class lacks is set as well. -/
def completing (number : Nat) (record : ClassRecord) (binding : Binding) (world : World) : World :=
  (world.putIf (record.attributes.lookup "content_type".toList).isNone number "content_type"
      (.plain binding.contentType)).putIf
    (binding.escape && (record.attributes.lookup "__html__".toList).isNone) number "__html__"
    (.hook (.trusts record.qualifiedName))

variable {number : Nat} {record : ClassRecord} {binding : Binding} {world next : World}

/-- The last steps of installing set what the class lacks, and cannot fail. -/
theorem completed (number : Nat) (record : ClassRecord) (binding : Binding) (world : World) : (do
    if !(record.attributes.lookup "content_type".toList).isSome then
      putClassAttribute number "content_type" (.plain binding.contentType)
    if binding.escape && !(record.attributes.lookup "__html__".toList).isSome then
      putClassAttribute number "__html__" (.hook (.trusts record.qualifiedName)) : Effect Unit) world =
    .done () (completing number record binding world) := by
  unfold completing
  cases record.attributes.lookup "content_type".toList <;> cases record.attributes.lookup "__html__".toList <;>
    cases binding.escape <;> rfl

/-- A template that is built again for every rendering is installed without building it. -/
theorem installDisplay_rebuilt (number : Nat) (record : ClassRecord) (binding : Binding) (world : World) :
    installDisplay number record binding true world = .done () (completing number record binding
      ((world.put number "__kiln_template__" .none).put number "__str__"
        (.hook (.reloads binding record.qualifiedName)))) :=
  completed number record binding _

theorem installDisplay_built (number : Nat) (record : ClassRecord) (binding : Binding) (world : World) :
    installDisplay number record binding false world = (do
      let template ← build binding
      change fun built => completing number record binding
        ((built.put number "__str__" (.hook (.renders template record.qualifiedName))).put number "__kiln_template__"
          (.template template)) : Effect Unit) world := by
  cases built : build binding world with
  | done template after =>
    rw [bind_done built]
    exact (bind_done built).trans (completed number record binding _)
  | failed error after =>
    rw [bind_failed built]
    exact bind_failed built
  | exhausted =>
    rw [bind_exhausted built]
    exact bind_exhausted built

/-- Installing sets the text and the template of the class, and then what the class lacks. -/
theorem installDisplay_done {reload : Bool} (done : installDisplay number record binding reload world = .done () next) :
    ∃ (shown template : Value) (middle : World), Shows binding shown ∧ middle.classes = world.classes ∧
      (next = completing number record binding
          ((middle.put number "__kiln_template__" template).put number "__str__" shown) ∨
        next = completing number record binding
          ((middle.put number "__str__" shown).put number "__kiln_template__" template)) := by
  cases reload with
  | true =>
    rw [installDisplay_rebuilt] at done
    injection done with _ same
    exact ⟨_, _, world, .rebuilt _, rfl, .inl same.symm⟩
  | false =>
    rw [installDisplay_built] at done
    obtain ⟨template, after, built, done⟩ := of_bind_done done
    have classes := LeavesClasses.build binding world
    rw [built] at classes
    injection done with _ same
    exact ⟨_, _, after, .built _ built, classes, .inr same.symm⟩

theorem installDisplay_failed {reload : Bool} {error : Nat}
    (failed : installDisplay number record binding reload world = .failed error next) :
    next.classes = world.classes := by
  cases reload with
  | true =>
    rw [installDisplay_rebuilt] at failed
    cases failed
  | false =>
    rw [installDisplay_built] at failed
    rcases of_bind_failed failed with unbuilt | ⟨_, _, _, failed⟩
    · have classes := LeavesClasses.build binding world
      rw [unbuilt] at classes
      exact classes
    · cases failed

theorem own_of_record (found : world.classes[number]? = some record) (name : Text) :
    world.own number name = record.attributes.lookup name := by
  rw [World.own, found, Option.bind_some]

/-- Completing sets the content type and the trust of the class, and nothing else of any class. -/
theorem installs_completing {shown : Value} {middle : World} (inside : number < world.classes.size)
    (found : world.classes[number]? = some record) (shows_ : Shows binding shown)
    (size : middle.classes.size = world.classes.size)
    (text : ∀ other, middle.own other "__str__" = if other = number then some shown else world.own other "__str__")
    (others : ∀ other name, name ≠ "__str__".toList → name ≠ "__kiln_template__".toList →
      middle.own other name = world.own other name) :
    Installs number binding world (completing number record binding middle) := by
  have within : number < middle.classes.size := size ▸ inside
  have within' : number < (middle.putIf (record.attributes.lookup "content_type".toList).isNone number "content_type"
      (.plain binding.contentType)).classes.size := (World.size_putIf _).symm ▸ within
  have own (other : Nat) (asked : Text) :=
    (World.own_putIf (binding.escape && (record.attributes.lookup "__html__".toList).isNone) "__html__"
      (.hook (.trusts record.qualifiedName)) within' other asked).trans
    (congrArg (ite _ _) (World.own_putIf _ _ _ within other asked))
  refine ⟨?_, ⟨shown, shows_, fun other => ?_⟩, fun other => ?_, record.qualifiedName, fun other => ?_⟩
  · exact (World.size_putIf _).trans ((World.size_putIf _).trans size)
  · refine (own other "__str__").trans ?_
    rw [if_neg fun all => absurd all.2.2 (by decide), if_neg fun all => absurd all.2.2 (by decide), text]
  · refine (own other "content_type").trans ?_
    rw [if_neg fun all => absurd all.2.2 (by decide), others other "content_type" (by decide) (by decide),
      own_of_record found]
    refine if_congr ⟨fun lacks => ?_, fun lacks => ?_⟩ rfl rfl
    · exact ⟨lacks.2.1, Option.isNone_iff_eq_none.mp lacks.1⟩
    · exact ⟨Option.isNone_iff_eq_none.mpr lacks.2, lacks.1, rfl⟩
  · refine (own other "__html__").trans ?_
    have apart : ¬ ("__html__".toList = "content_type".toList) := by decide
    rw [if_neg (fun all => apart all.2.2 : ¬ (_ ∧ _ ∧ "__html__".toList = "content_type".toList)),
      others other "__html__" (by decide) (by decide), own_of_record found]
    refine if_congr ⟨fun lacks => ?_, fun lacks => ?_⟩ rfl rfl
    · obtain ⟨escapes, free⟩ := (Bool.and_eq_true _ _).mp lacks.1
      exact ⟨lacks.2.1, escapes, Option.isNone_iff_eq_none.mp free⟩
    · exact ⟨(Bool.and_eq_true _ _).mpr ⟨lacks.2.1, Option.isNone_iff_eq_none.mpr lacks.2.2⟩, lacks.1, rfl⟩

/-- What a display that takes effect does to the classes. -/
theorem display_installs {options : DisplayOptions} {between : World} (inside : number < world.classes.size)
    (bound : (classRecord number >>= fun record => bindClass record options) world = .done binding between)
    (done : display number options world = .done () next) : Installs number binding world next := by
  obtain ⟨record, found⟩ : ∃ record, world.classes[number]? = some record := ⟨_, Array.getElem?_eq_getElem inside⟩
  have read : classRecord number world = .done record world := by
    show Outcome.done ((world.classes[number]?).getD _) world = _
    rw [found, Option.getD_some]
  have bound' : bindClass record options world = .done binding between := (bind_done read).symm.trans bound
  have same : between.classes = world.classes := by
    have left := LeavesClasses.bindClass record options world
    rw [bound'] at left
    exact left
  have installed : installDisplay number record binding options.reload between = .done () next :=
    ((bind_done read).trans (bind_done bound')).symm.trans done
  obtain ⟨shown, template, middle, shows_, classes, either⟩ := installDisplay_done installed
  have classes' : middle.classes = world.classes := classes.trans same
  have within : number < middle.classes.size := classes' ▸ inside
  have others (first second : Text) (one two : Value) (other : Nat) (name : Text) (apart : name ≠ first)
      (apart' : name ≠ second) :
      ((middle.put number first one).put number second two).own other name = world.own other name := by
    rw [World.own_put (World.size_put.symm ▸ within), if_neg fun both => apart' both.2, World.own_put within,
      if_neg fun both => apart both.2, World.own_of_classes classes']
  have size {first second : Text} {one two : Value} :
      ((middle.put number first one).put number second two).classes.size = world.classes.size :=
    (World.size_put.trans World.size_put).trans (congrArg Array.size classes')
  rcases either with rfl | rfl
  · refine installs_completing inside found shows_ size (fun other => ?_) fun other name first second =>
      others _ _ _ _ other name second first
    rw [World.own_put (World.size_put.symm ▸ within), World.own_put within,
      if_neg (fun both => absurd both.2 (by decide) : ¬ (_ ∧ "__str__".toList = "__kiln_template__".toList)),
      World.own_of_classes classes']
    exact if_congr ⟨fun both => both.1, fun here => ⟨here, rfl⟩⟩ rfl rfl
  · refine installs_completing inside found shows_ size (fun other => ?_) fun other name first second =>
      others _ _ _ _ other name first second
    rw [World.own_put (World.size_put.symm ▸ within), World.own_put within,
      if_neg (fun both => absurd both.2 (by decide) : ¬ (_ ∧ "__str__".toList = "__kiln_template__".toList)),
      World.own_of_classes classes']
    exact if_congr ⟨fun both => both.1, fun here => ⟨here, rfl⟩⟩ rfl rfl

/-- A display that fails leaves the classes as they were. -/
theorem display_failed {options : DisplayOptions} {error : Nat}
    (failed : display number options world = .failed error next) : next.classes = world.classes := by
  rcases of_bind_failed failed with unread | ⟨record, same, read, failed⟩
  · cases unread
  · obtain rfl : world = same := by
      injection read
    have left := LeavesClasses.bindClass record options world
    rcases of_bind_failed failed with unbound | ⟨binding, between, bound, failed⟩
    · rw [unbound] at left
      exact left
    · rw [bound] at left
      exact (installDisplay_failed failed).trans left

/-! ## Sequences of displays -/

/-- A display that took effect. -/
structure Displayed where
  /-- The number of the class. -/
  owner : Nat
  binding : Binding

/-- A class whose body says nothing about its content type or its trusted text. -/
def ClassRecord.Plain (record : ClassRecord) : Prop :=
  record.attributes.lookup "content_type".toList = none ∧ record.attributes.lookup "__html__".toList = none

/-- The displays that have taken effect since a world, oldest first.  In between, displays may be refused, classes may
be defined and anything may be done that leaves the classes alone. -/
inductive History (start : World) : List Displayed → World → Prop
  | start : History start [] start
  | displayed {past : List Displayed} {world between next : World} {number : Nat} {options : DisplayOptions}
    {binding : Binding} (earlier : History start past world) (inside : number < world.classes.size)
    (bound : (classRecord number >>= fun record => bindClass record options) world = .done binding between)
    (done : display number options world = .done () next) : History start (past ++ [⟨number, binding⟩]) next
  | refused {past : List Displayed} {world next : World} {number error : Nat} {options : DisplayOptions}
    (earlier : History start past world) (failed : display number options world = .failed error next) :
    History start past next
  | defined {past : List Displayed} {world next : World} {record : ClassRecord} (earlier : History start past world)
    (plain : record.Plain) (pushed : next.classes = world.classes.push record) : History start past next
  | elsewhere {past : List Displayed} {world next : World} (earlier : History start past world)
    (same : next.classes = world.classes) : History start past next

/-- The first display of a class. -/
def firstOf (past : List Displayed) (owner : Nat) : Option Displayed := past.find? fun shown => shown.owner == owner

/-- The last display of a class. -/
def lastOf (past : List Displayed) (owner : Nat) : Option Displayed := firstOf past.reverse owner

/-- Whether a class was ever displayed by a template that escapes. -/
def EverEscaped (past : List Displayed) (owner : Nat) : Prop :=
  ∃ shown ∈ past, shown.owner = owner ∧ shown.binding.escape = true

/-- What a world's classes have of the displays so far: the text of the last one, the content type of the first one and
trust from the first one that escaped. -/
structure Records (past : List Displayed) (world : World) : Prop where
  within : ∀ shown ∈ past, shown.owner < world.classes.size
  text : ∀ owner shown, lastOf past owner = some shown →
    ∃ text, world.own owner "__str__" = some text ∧ Shows shown.binding text
  contentType : ∀ owner, world.own owner "content_type" =
    (firstOf past owner).map fun shown => .plain shown.binding.contentType
  trusted : ∀ owner, EverEscaped past owner → ∃ name, world.own owner "__html__" = some (.hook (.trusts name))
  untrusted : ∀ owner, ¬ EverEscaped past owner → world.own owner "__html__" = none

section Invariant

variable {past : List Displayed}

theorem firstOf_snoc (past : List Displayed) (shown : Displayed) (owner : Nat) :
    firstOf (past ++ [shown]) owner =
      (firstOf past owner).or (if shown.owner = owner then some shown else none) := by
  rw [firstOf, List.find?_append, firstOf, List.find?_singleton]
  by_cases same : shown.owner = owner <;> simp [same]

theorem lastOf_snoc (past : List Displayed) (shown : Displayed) (owner : Nat) :
    lastOf (past ++ [shown]) owner = if shown.owner = owner then some shown else lastOf past owner := by
  rw [lastOf, List.reverse_append, List.reverse_singleton, List.singleton_append, firstOf, List.find?_cons]
  by_cases same : shown.owner = owner
  · rw [if_pos same, beq_iff_eq.mpr same]
  · rw [if_neg same, beq_eq_false_iff_ne.mpr same]
    rfl

theorem firstOf_eq_none (owner : Nat) (absent : ∀ shown ∈ past, shown.owner ≠ owner) : firstOf past owner = none := by
  refine List.find?_eq_none.mpr fun shown inside same => absent shown inside (beq_iff_eq.mp same)

theorem everEscaped_snoc {shown : Displayed} {owner : Nat} :
    EverEscaped (past ++ [shown]) owner ↔
      EverEscaped past owner ∨ (shown.owner = owner ∧ shown.binding.escape = true) := by
  constructor
  · rintro ⟨found, inside, here, escapes⟩
    rcases List.mem_append.mp inside with earlier | last
    · exact .inl ⟨found, earlier, here, escapes⟩
    · obtain rfl := List.mem_singleton.mp last
      exact .inr ⟨here, escapes⟩
  · rintro (⟨found, inside, here, escapes⟩ | ⟨here, escapes⟩)
    · exact ⟨found, List.mem_append_left _ inside, here, escapes⟩
    · exact ⟨shown, List.mem_append_right _ (List.mem_singleton_self _), here, escapes⟩

theorem Records.start (plain : ∀ record ∈ world.classes, record.Plain) : Records [] world where
  within shown inside := absurd inside List.not_mem_nil
  text owner shown found := by cases found
  contentType owner := by
    cases found : world.classes[owner]? with
    | none => rw [World.own, found]; rfl
    | some record => rw [own_of_record found, (plain record (Array.mem_of_getElem? found)).1]; rfl
  trusted owner escaped := by
    obtain ⟨shown, inside, -⟩ := escaped
    exact absurd inside List.not_mem_nil
  untrusted owner _ := by
    cases found : world.classes[owner]? with
    | none => rw [World.own, found]; rfl
    | some record => rw [own_of_record found, (plain record (Array.mem_of_getElem? found)).2]

/-- One more display keeps the record: it replaces the text, and adds what the class lacks. -/
theorem Records.displayed (records : Records past world) (inside : number < world.classes.size)
    (installs : Installs number binding world next) : Records (past ++ [⟨number, binding⟩]) next where
  within shown member := by
    rw [installs.size]
    rcases List.mem_append.mp member with earlier | last
    · exact records.within shown earlier
    · obtain rfl := List.mem_singleton.mp last
      exact inside
  text owner shown found := by
    obtain ⟨text, shows_, own⟩ := installs.text
    rw [lastOf_snoc] at found
    rw [own owner]
    by_cases here : number = owner
    · rw [if_pos here] at found
      obtain rfl := Option.some.inj found
      exact ⟨text, if_pos here.symm, shows_⟩
    · rw [if_neg here] at found
      rw [if_neg fun same => here same.symm]
      exact records.text owner shown found
  contentType owner := by
    rw [installs.contentType owner, firstOf_snoc, records.contentType number, records.contentType owner]
    by_cases here : owner = number
    · subst here
      cases firstOf past owner <;> simp
    · cases firstOf past owner <;> simp [here, Ne.symm here]
  trusted owner escaped := by
    obtain ⟨name, own⟩ := installs.trust
    rw [own owner]
    by_cases before : EverEscaped past owner
    · obtain ⟨name', kept⟩ := records.trusted owner before
      refine ⟨name', ?_⟩
      rw [if_neg fun lacks => ?_, kept]
      rw [← lacks.1, kept] at lacks
      cases lacks.2.2
    · have now : number = owner ∧ binding.escape = true := (everEscaped_snoc.mp escaped).resolve_left before
      obtain ⟨rfl, escapes⟩ := now
      exact ⟨name, if_pos ⟨rfl, escapes, records.untrusted number before⟩⟩
  untrusted owner never := by
    obtain ⟨name, own⟩ := installs.trust
    have before : ¬ EverEscaped past owner := fun earlier => never (everEscaped_snoc.mpr (.inl earlier))
    rw [own owner, if_neg fun lacks => never (everEscaped_snoc.mpr (.inr ⟨lacks.1.symm, lacks.2.1⟩))]
    exact records.untrusted owner before

theorem Records.ofClasses (records : Records past world) (same : next.classes = world.classes) : Records past next where
  within shown inside := same ▸ records.within shown inside
  text owner shown found := World.own_of_classes same ▸ records.text owner shown found
  contentType owner := World.own_of_classes same ▸ records.contentType owner
  trusted owner escaped := World.own_of_classes same ▸ records.trusted owner escaped
  untrusted owner never := World.own_of_classes same ▸ records.untrusted owner never

/-- A class that was just defined has not been displayed, and its body says nothing. -/
theorem Records.defined (records : Records past world) {record : ClassRecord} (plain : record.Plain)
    (pushed : next.classes = world.classes.push record) : Records past next := by
  have own (owner : Nat) (name : Text) : next.own owner name =
      if owner = world.classes.size then record.attributes.lookup name else world.own owner name := by
    rw [World.own, pushed, Array.getElem?_push]
    split
    · rfl
    · rfl
  have fresh : ∀ shown ∈ past, shown.owner ≠ world.classes.size := fun shown inside =>
    Nat.ne_of_lt (records.within shown inside)
  refine ⟨fun shown inside => ?_, fun owner shown found => ?_, fun owner => ?_, fun owner escaped => ?_,
    fun owner never => ?_⟩
  · rw [pushed, Array.size_push]
    exact Nat.lt_succ_of_lt (records.within shown inside)
  · obtain ⟨text, there, shows_⟩ := records.text owner shown found
    have older : owner ≠ world.classes.size := by
      rintro rfl
      have none_ : lastOf past world.classes.size = none :=
        firstOf_eq_none _ fun shown inside => fresh shown (List.mem_reverse.mp inside)
      exact Option.some_ne_none _ (found.symm.trans none_)
    rw [own, if_neg older]
    exact ⟨text, there, shows_⟩
  · rw [own]
    by_cases new : owner = world.classes.size
    · rw [if_pos new, plain.1, new, firstOf_eq_none _ fresh, Option.map_none]
    · rw [if_neg new, records.contentType]
  · obtain ⟨shown, inside, here, escapes⟩ := escaped
    rw [own, if_neg (here ▸ fresh shown inside)]
    exact records.trusted owner ⟨shown, inside, here, escapes⟩
  · rw [own]
    by_cases new : owner = world.classes.size
    · rw [if_pos new, plain.2]
    · rw [if_neg new, records.untrusted owner never]

theorem History.records {first : World} (plain : ∀ record ∈ first.classes, record.Plain)
    (history : History first past world) : Records past world := by
  induction history with
  | start => exact .start plain
  | displayed earlier inside bound done records => exact records.displayed inside (display_installs inside bound done)
  | refused earlier failed records => exact records.ofClasses (display_failed failed)
  | defined earlier plain pushed records => exact records.defined plain pushed
  | elsewhere earlier same records => exact records.ofClasses same

end Invariant

/-! ## Inserting instances -/

/-- The text of a value, escaped for markup. -/
def escapedText (call : Caller) (value : Value) : Effect Value := do
  let text ← call (.builtin .text) [value]
  newText (Html.escape (contentOf text))

/-- The text of a value as it stands, trusted as markup. -/
def trustedText (call : Caller) (value : Value) : Effect Value := do
  newMarkup (contentOf (← call (.builtin .text) [value]))

section Inserting

variable {address owner : Nat} {attributes : List (Text × Slot)} {steps depth : Nat}

/-- An instance that has no trusted text of its own has that of its class. -/
theorem slotOf?_html (member : world.objects[address]? = some (.member owner attributes))
    (bare : attributes.lookup "__html__".toList = none) :
    world.slotOf? (.object address) "__html__" = (world.attributeOfClass? owner "__html__").map fun
      | .hook _ => .operation (.object address) "__html__"
      | shared => .value shared := by
  have slots : world.ownSlots (.object address) = attributes := by rw [World.ownSlots, member]
  have operations : world.operationsOf (.object address) = [] := by rw [World.operationsOf, member]
  rw [World.slotOf?, slots, bare, operations]
  simp [member] <;> rfl

/-- A world in which nothing but new objects and new identities has come about. -/
def World.Aside (world between : World) : Prop :=
  ∃ (made : Array Object) (given : Nat),
    between = { world with objects := world.objects ++ made, identities := world.identities + given }

/-- The error about an attribute that a value does not have. -/
def lackingIncident (world : World) (value : Value) (name : Text) : Incident :=
  ⟨.noAttribute, [.plain (world.attributeMessage value name)], [("name".toList, .plain name), ("obj".toList, value)],
    none, [], none⟩

/-- Asking for an attribute that a value does not have makes an error, and nothing comes of it. -/
theorem attributeIfAny_lacking {value : Value} {name : Text} (lacks : world.slotOf? value name = none) :
    attributeIfAny value name world =
      .done none { world with objects := world.objects.push (.error (lackingIncident world value name)) } := by
  have asked : attributeAt value name world = .failed world.objects.size
      { world with objects := world.objects.push (.error (lackingIncident world value name)) } := by
    rw [attributeAt, world_bind, lacks]
    rfl
  have kind : World.errorKind { world with objects := world.objects.push (.error (lackingIncident world value name)) }
      world.objects.size = .noAttribute := by
    rw [World.errorKind, World.incident?, Array.getElem?_push_size]
    rfl
  show recover (attributeAt value name >>= fun found => pure (some found)) _ world = _
  rw [recover, bind_failed asked]
  show (if (World.errorKind _ world.objects.size).isA .noAttribute then _ else _ : Effect _) _ = _
  rw [kind]
  rfl

/-- An instance without trusted text is escaped. -/
theorem markupOf_untrusted (call : Caller) (member : world.objects[address]? = some (.member owner attributes))
    (bare : attributes.lookup "__html__".toList = none) (lacks : world.attributeOfClass? owner "__html__" = none) :
    ∃ between, world.Aside between ∧
      markupOf call (.object address) world = escapedText call (.object address) between := by
  have slot : world.slotOf? (.object address) "__html__" = none := by
    rw [slotOf?_html member bare, lacks, Option.map_none]
  have asked := attributeIfAny_lacking slot
  refine ⟨_, ⟨#[.error (lackingIncident world (.object address) "__html__")], 0, rfl⟩, ?_⟩
  exact bind_done asked

/-- An instance with the trusted text of a displayed class gives its text, once the operation that does so was made. -/
theorem markupOf_member (steps depth : Nat) {name : Text}
    (member : world.objects[address]? = some (.member owner attributes))
    (bare : attributes.lookup "__html__".toList = none)
    (trusts : world.attributeOfClass? owner "__html__" = some (.hook (.trusts name))) :
    markupOf (callWithin steps (depth + 1)) (.object address) world =
      trustedText (callWithin steps depth) (.object address) { world with identities := world.identities + 1 } := by
  have slot : world.slotOf? (.object address) "__html__" = some (.operation (.object address) "__html__") := by
    rw [slotOf?_html member bare, trusts, Option.map_some]
  have asked : attributeIfAny (.object address) "__html__" world = .done
      (some (.method (world.identities + 1) (.object address) "__html__"))
      { world with identities := world.identities + 1 } := by
    show recover (attributeAt _ _ >>= fun found => pure (some found)) _ world = _
    rw [recover, bind_done (attributeAt_of_operation slot)]
    rfl
  refine (bind_done asked).trans ?_
  show callMethod (callWithin steps depth) (.object address) "__html__" [] _ = _
  rw [callMethod, world_bind]
  dsimp only
  rw [member]
  have kept : World.attributeOfClass? { world with identities := world.identities + 1 } owner "__html__" =
      some (.hook (.trusts name)) := by
    rw [← trusts]
    apply World.attributeOfClass?_of_classes
    rfl
  dsimp only
  rw [kept]
  rfl

/-- An instance with the trusted text of a displayed class is not escaped. -/
theorem markupOf_trusted (steps depth : Nat) {name : Text}
    (member : world.objects[address]? = some (.member owner attributes))
    (bare : attributes.lookup "__html__".toList = none)
    (trusts : world.attributeOfClass? owner "__html__" = some (.hook (.trusts name))) :
    ∃ between, world.Aside between ∧ markupOf (callWithin steps (depth + 1)) (.object address) world =
      trustedText (callWithin steps depth) (.object address) between :=
  ⟨_, ⟨#[], 1, rfl⟩, markupOf_member steps depth member bare trusts⟩

end Inserting

/-- What the displays so far decide about a class.  An instance without trusted text of its own is escaped when it is
inserted as long as no class of its lineage was ever displayed by a template that escapes, and it is trusted from then
on, whatever template its text comes from; the content type of a class is that of the first display of the nearest
class that was displayed, while its text comes from the last one. -/
theorem display_history_decides {first world : World} {past : List Displayed}
    (plain : ∀ record ∈ first.classes, record.Plain) (history : History first past world) :
    (∀ address owner attributes, world.objects[address]? = some (.member owner attributes) →
      attributes.lookup "__html__".toList = none →
        ((∀ ancestor ∈ world.lineage owner, ¬ EverEscaped past ancestor) → ∀ call, ∃ between, world.Aside between ∧
          markupOf call (.object address) world = escapedText call (.object address) between) ∧
        ((∃ ancestor ∈ world.lineage owner, EverEscaped past ancestor) → ∀ steps depth, ∃ between,
          world.Aside between ∧ markupOf (callWithin steps (depth + 1)) (.object address) world =
            trustedText (callWithin steps depth) (.object address) between)) ∧
      (∀ owner, world.attributeOfClass? owner "content_type" =
        ((world.lineage owner).findSome? (firstOf past)).map fun shown => .plain shown.binding.contentType) ∧
      ∀ owner shown, lastOf past owner = some shown →
        ∃ text, world.own owner "__str__" = some text ∧ Shows shown.binding text := by
  have records := history.records plain
  refine ⟨fun address owner attributes member bare => ⟨fun never call => ?_, fun escaped steps depth => ?_⟩,
    fun owner => ?_, records.text⟩
  · refine markupOf_untrusted call member bare ?_
    rw [World.attributeOfClass?_eq, List.findSome?_eq_none_iff]
    exact fun ancestor inside => records.untrusted ancestor (never ancestor inside)
  · have trusts : ∃ name, world.attributeOfClass? owner "__html__" = some (.hook (.trusts name)) := by
      rw [World.attributeOfClass?_eq]
      generalize world.lineage owner = lineage at escaped
      induction lineage with
      | nil => simp at escaped
      | cons nearest above ih =>
        rw [List.findSome?_cons]
        by_cases here : EverEscaped past nearest
        · obtain ⟨name, own⟩ := records.trusted nearest here
          rw [own]
          exact ⟨name, rfl⟩
        · rw [records.untrusted nearest here]
          obtain ⟨ancestor, inside, found⟩ := escaped
          rcases List.mem_cons.mp inside with rfl | further
          · exact absurd found here
          · exact ih ⟨ancestor, further, found⟩
    obtain ⟨name, trusts⟩ := trusts
    exact markupOf_trusted steps depth member bare trusts
  · rw [World.attributeOfClass?_eq, List.map_findSome?]
    exact congrArg (fun kind => List.findSome? kind (world.lineage owner)) (funext records.contentType)

/-- The world of two plain classes, the second an heir of the first, with an instance of the second. -/
def pageWorld : World :=
  ⟨⟨.empty, [], []⟩, #[.member 1 []], #[], #[⟨"Page", "Page", "site", none, []⟩, ⟨"Note", "Note", "site", some 0, []⟩],
    #[[]], [("site", 0)], #[], #[], 0, [], false⟩

/-- Displaying by a template that is built again for every rendering. -/
def rebuilding (text : Text) (escape : Bool) : DisplayOptions :=
  { DisplayOptions.standard with text := some text, escape := some escape, reload := true }

/-- The heir of a class that is displayed as markup is trusted, although it is displayed verbatim itself. -/
theorem displayed_heir_trusted : ∃ past world, History pageWorld past world ∧
    (∃ shown, lastOf past 1 = some shown ∧ shown.binding.escape = false) ∧
      ∃ between, world.Aside between ∧ markupOf (callWithin 1 2) (.object 0) world =
        trustedText (callWithin 1 1) (.object 0) between := by
  have plain : ∀ record ∈ pageWorld.classes, record.Plain := by
    intro record inside
    rcases List.mem_cons.mp (Array.mem_def.mp inside) with rfl | inside
    · exact ⟨rfl, rfl⟩
    · obtain rfl := List.mem_singleton.mp inside
      exact ⟨rfl, rfl⟩
  have both : ∃ binding between world, (classRecord 0 >>= fun record => bindClass record (rebuilding "<b>" true))
      pageWorld = .done binding between ∧ display 0 (rebuilding "<b>" true) pageWorld = .done () world ∧
        binding.escape = true ∧ ∃ binding' between' world',
          (classRecord 1 >>= fun record => bindClass record (rebuilding "<i>" false)) world = .done binding' between' ∧
            display 1 (rebuilding "<i>" false) world = .done () world' ∧ binding'.escape = false ∧
              world.classes.size = 2 ∧ world'.objects = pageWorld.objects ∧ 0 ∈ world'.lineage 1 :=
    ⟨_, _, _, rfl, rfl, rfl, _, _, _, rfl, rfl, rfl, rfl, rfl, by decide⟩
  obtain ⟨binding, between, world, bound, done, escapes, binding', between', world', bound', done', verbatim, size,
    objects, above⟩ := both
  have displayed : History pageWorld [⟨0, binding⟩] world := .displayed .start (by decide) bound done
  have history : History pageWorld [⟨0, binding⟩, ⟨1, binding'⟩] world' :=
    .displayed displayed (size ▸ by decide) bound' done'
  have member : world'.objects[0]? = some (.member 1 []) := objects ▸ rfl
  obtain ⟨inserted, -, -⟩ := display_history_decides plain history
  refine ⟨_, world', history, ⟨⟨1, binding'⟩, rfl, verbatim⟩, ?_⟩
  exact (inserted 0 1 [] member rfl).2 ⟨0, above, ⟨0, binding⟩, List.mem_cons_self, rfl, escapes⟩ 1 1

/-- A class is displayed as markup, and an heir of it verbatim; then the text of an instance of the heir is asked for,
and what the instance is when it is inserted. -/
def heirRequests : List Request :=
  let verbatim (text suffix : Text) : DisplaySketch := ⟨some text, none, some suffix, none, none, none, false⟩
  [.define "Page" (.classOf ⟨"Page", "Page", "site", none, []⟩), .ask (.display "Page" (verbatim "<b>" "html")),
    .define "Note" (.classOf ⟨"Note", "Note", "site", some "Page", []⟩),
    .ask (.display "Note" (verbatim "<script>" "txt")), .ask (.toText (.member "Note" [])),
    .ask (.escape (.member "Note" []))]

/-- The texts among answers. -/
def outputTexts (answers : List Answer) : List Text :=
  answers.filterMap fun
    | .output (.text _ content) => some content
    | _ => none

/-- An instance whose text comes from a template that does not escape is inserted as it stands. -/
theorem heir_inserted_verbatim :
    outputTexts ((Session.start [] "site" [] false).run heirRequests) =
        ["<script>".toList, "<script>".toList] ∧
      Html.escape "<script>" ≠ "<script>".toList := by
  decide +kernel

end Stencil
