import Stencil.Proofs.Effects
import Stencil.World.Call

/-!
# What a routine keeps to itself

A routine gathers its output in a list, and it binds names that no script uses.  The world without them is the
world behind a veil.  An action is framed when it does the same on both sides: it ends in the same way, and what the
routine keeps to itself is left as it was.
-/

namespace Stencil

/-- Whether a name is one that only routines bind. -/
def isOwnName (name : Text) : Bool := Text.startsWith "_kiln_" name

/-- What a running routine keeps to itself: a list, and the names of its own in a scope. -/
structure Veil where
  list : Nat
  scope : Nat

namespace Veil

variable (veil : Veil)

/-! ## Values that do not lead to the list -/

mutual

/-- Whether a value does not lead to the list. -/
def Clear : Value → Prop
  | .tuple _ items => AllClear items
  | .object address => address ≠ veil.list
  | .method _ receiver _ => Clear receiver
  | _ => True

/-- Whether no value of a list leads to the list of the routine. -/
def AllClear : List Value → Prop
  | [] => True
  | value :: values => Clear value ∧ AllClear values

end

theorem allClear_iff {veil : Veil} {values : List Value} :
    veil.AllClear values ↔ ∀ value ∈ values, veil.Clear value := by
  induction values with
  | nil => simp [AllClear]
  | cons value values ih => simp [AllClear, ih]

@[simp] theorem clear_tuple {veil : Veil} {identity : Nat} {items : List Value} :
    veil.Clear (.tuple identity items) ↔ ∀ item ∈ items, veil.Clear item := allClear_iff

@[simp] theorem clear_object {veil : Veil} {address : Nat} : veil.Clear (.object address) ↔ address ≠ veil.list := .rfl

@[simp] theorem clear_method {veil : Veil} {identity : Nat} {receiver : Value} {name : Text} :
    veil.Clear (.method identity receiver name) ↔ veil.Clear receiver := .rfl

/-- Whether the values under some keys do not lead to the list. -/
def ClearUnder {κ : Type} (entries : List (κ × Value)) : Prop := ∀ entry ∈ entries, veil.Clear entry.2

/-- Whether the entries of a dictionary do not lead to the list. -/
def ClearPairs (entries : List (Value × Value)) : Prop :=
  ∀ entry ∈ entries, veil.Clear entry.1 ∧ veil.Clear entry.2

/-- Whether what reading an attribute gives does not lead to the list. -/
def ClearSlot : Slot → Prop
  | .value value => veil.Clear value
  | .operation receiver _ => veil.Clear receiver
  | .failing _ arguments => ∀ argument ∈ arguments, veil.Clear argument

/-- Whether the attributes of an object do not lead to the list. -/
def ClearSlots (attributes : List (Text × Slot)) : Prop := ∀ entry ∈ attributes, veil.ClearSlot entry.2

/-- Whether an error does not lead to the list. -/
structure ClearIncident (incident : Incident) : Prop where
  arguments : ∀ argument ∈ incident.arguments, veil.Clear argument
  attributes : veil.ClearUnder incident.attributes

/-- Whether an iteration does not go through the list. -/
def ClearPassage : Passage → Prop
  | .items left => ∀ value ∈ left, veil.Clear value
  | .along list _ => list ≠ veil.list
  | .keys dict _ _ | .pairs dict _ _ => dict ≠ veil.list
  | .calling function stop => veil.Clear function ∧ veil.Clear stop
  | .characters _ _ | .counting _ _ _ _ => True

/-- Whether an object does not lead to the list or into the scope. -/
def ClearContent : Object → Prop
  | .list items => ∀ item ∈ items, veil.Clear item
  | .dict entries => veil.ClearPairs entries
  | .entries dict => dict ≠ veil.list
  | .context attributes | .member _ attributes => veil.ClearSlots attributes
  | .guest html text attributes =>
    (∀ slot ∈ html, veil.ClearSlot slot) ∧ veil.ClearSlot text ∧ veil.ClearSlots attributes
  | .function function attributes => function.outer ≠ veil.scope ∧ veil.ClearUnder attributes
  | .iterator iterator => veil.ClearPassage iterator.passage
  | .error incident => veil.ClearIncident incident

/-- Whether a scope does not lead to the list or into the scope of the routine, apart from the routine's names. -/
structure ClearScope (number : Nat) (scope : Scope) : Prop where
  outer : scope.outer ≠ some veil.scope
  values : ∀ entry ∈ scope.values, (number = veil.scope → isOwnName entry.1 = false) → veil.Clear entry.2

/-- Whether nothing but the routine's own names leads to its list or into its scope. -/
structure Sealed (world : World) : Prop where
  list : veil.list < world.objects.size
  scope : veil.scope < world.scopes.size
  objects : ∀ (address : Nat) (object : Object), world.objects[address]? = some object → veil.ClearContent object
  scopes : ∀ (number : Nat) (scope : Scope), world.scopes[number]? = some scope → veil.ClearScope number scope
  namespaces : ∀ (number : Nat) (entries : List (Text × Value)), world.namespaces[number]? = some entries →
    veil.ClearUnder entries
  classes : ∀ (number : Nat) (record : ClassRecord), world.classes[number]? = some record →
    veil.ClearUnder record.attributes
  templates : ∀ (number : Nat) (template : Template), world.templates[number]? = some template →
    template.function ≠ veil.list
  handled : ∀ error ∈ world.handled, error ≠ veil.list

/-! ## The world behind the veil -/

/-- A scope without the names that only routines bind. -/
def bare (scope : Scope) : Scope :=
  ⟨scope.names.filter fun name => !isOwnName name, scope.values.filter fun entry => !isOwnName entry.1, scope.outer⟩

/-- The world without what the routine keeps to itself. -/
def hide (world : World) : World :=
  { world with
    objects := world.objects.setIfInBounds veil.list (.list #[]),
    scopes := world.scopes.modify veil.scope bare }

/-- What the routine keeps to itself. -/
def kept (world : World) : Option Object × Option Scope :=
  (world.objects[veil.list]?, (world.scopes[veil.scope]?).map fun scope =>
    ⟨scope.names, scope.values.filter fun entry => isOwnName entry.1, scope.outer⟩)

/-- Whether two actions end alike on both sides of the veil; `good` says what values they end with. -/
inductive Alike {α : Type} (good : α → Prop) (before : World) : Outcome α → Outcome α → Prop where
  | done {value : α} {after : World} (clear : good value) (shut : veil.Sealed after)
      (same : veil.kept after = veil.kept before) :
        Alike good before (.done value after) (.done value (veil.hide after))
  | failed {error : Nat} {after : World} (clear : error ≠ veil.list) (shut : veil.Sealed after)
      (same : veil.kept after = veil.kept before) :
      Alike good before (.failed error after) (.failed error (veil.hide after))
  | exhausted : Alike good before .exhausted .exhausted

/-- Whether an action on one side of the veil does what another one does on the other side. -/
def Framed {α : Type} (good : α → Prop) (action action' : Effect α) : Prop :=
  ∀ world, veil.Sealed world → veil.Alike good world (action world) (action' (veil.hide world))

end Veil

namespace Veil

variable {veil : Veil} {α β : Type} {good : α → Prop} {fine : β → Prop}

theorem Alike.trans_kept {before between : World} (same : veil.kept between = veil.kept before)
    {outcome outcome' : Outcome α} (alike : veil.Alike good between outcome outcome') :
    veil.Alike good before outcome outcome' := by
  cases alike with
  | done clear shut again => exact .done clear shut (again.trans same)
  | failed clear shut again => exact .failed clear shut (again.trans same)
  | exhausted => exact .exhausted

theorem framed_pure {value : α} (clear : good value) : veil.Framed good (pure value) (pure value) :=
  fun _ shut => .done clear shut rfl

theorem Framed.bind {action action' : Effect α} {next next' : α → Effect β} (first : veil.Framed good action action')
    (second : ∀ value, good value → veil.Framed fine (next value) (next' value)) :
    veil.Framed fine (action >>= next) (action' >>= next') := by
  intro world shut
  have alike := first world shut
  rw [Effect.bind_apply, Effect.bind_apply]
  cases ended : action world with
  | done value after =>
      rw [ended] at alike
      generalize action' (veil.hide world) = outcome at alike ⊢
      cases alike with
      | done clear shut same => exact (second value clear after shut).trans_kept same
  | failed error after =>
      rw [ended] at alike
      generalize action' (veil.hide world) = outcome at alike ⊢
      cases alike with
      | failed clear shut same => exact .failed clear shut same
  | exhausted =>
      rw [ended] at alike
      generalize action' (veil.hide world) = outcome at alike ⊢
      cases alike with
      | exhausted => exact .exhausted

theorem framed_read {next next' : World → Effect β}
    (each : ∀ world, veil.Sealed world → veil.Framed fine (next world) (next' (veil.hide world))) :
    veil.Framed fine (Effect.world >>= next) (Effect.world >>= next') :=
  fun world shut => each world shut world shut

theorem framed_exhausted : veil.Framed good Effect.exhausted Effect.exhausted := fun _ _ => .exhausted

theorem framed_failWith {error : Nat} (clear : error ≠ veil.list) :
    veil.Framed good (Effect.failWith error) (Effect.failWith error) :=
  fun _ shut => .failed clear shut rfl

theorem Framed.recover {action action' : Effect α} {handler handler' : Nat → Effect α}
    (first : veil.Framed good action action')
    (second : ∀ error, error ≠ veil.list → veil.Framed good (handler error) (handler' error)) :
    veil.Framed good (Effect.recover action handler) (Effect.recover action' handler') := by
  intro world shut
  have alike := first world shut
  unfold Effect.recover
  generalize action world = outcome at alike ⊢
  generalize action' (veil.hide world) = outcome' at alike ⊢
  cases alike with
  | done clear shut same => exact .done clear shut same
  | failed clear shut same => exact (second _ clear _ shut).trans_kept same
  | exhausted => exact .exhausted

theorem framed_change {f : World → World} (shut : ∀ world, veil.Sealed world → veil.Sealed (f world))
    (hides : ∀ world, veil.Sealed world → f (veil.hide world) = veil.hide (f world))
    (same : ∀ world, veil.Sealed world → veil.kept (f world) = veil.kept world) :
    veil.Framed (fun _ => True) (Effect.change f) (Effect.change f) := by
  intro world whole
  unfold Effect.change
  rw [hides world whole]
  exact .done trivial (shut world whole) (same world whole)

/-! ## Arrays that change in two places -/

theorem setIfInBounds_push {xs : Array α} {i : Nat} (inside : i < xs.size) (x y : α) :
    (xs.push x).setIfInBounds i y = (xs.setIfInBounds i y).push x := by
  apply Array.ext_getElem?
  intro j
  have := Nat.ne_of_lt inside
  grind

theorem modify_push {xs : Array α} {i : Nat} (inside : i < xs.size) (x : α) (f : α → α) :
    (xs.push x).modify i f = (xs.modify i f).push x := by
  apply Array.ext_getElem?
  intro j
  grind

theorem setIfInBounds_modify {xs : Array α} {i j : Nat} (apart : i ≠ j) (f : α → α) (y : α) :
    (xs.modify i f).setIfInBounds j y = (xs.setIfInBounds j y).modify i f := by
  apply Array.ext_getElem?
  intro k
  grind

theorem modify_modify {xs : Array α} {i j : Nat} (f g : α → α) (commute : i = j → ∀ x, f (g x) = g (f x)) :
    (xs.modify i f).modify j g = (xs.modify j g).modify i f := by
  apply Array.ext_getElem?
  intro k
  simp only [Array.getElem?_modify]
  grind

/-! ## Changing objects -/

theorem Sealed.withObjects {world : World} (shut : veil.Sealed world) {objects : Array Object}
    (list : veil.list < objects.size)
    (clear : ∀ (address : Nat) (object : Object), objects[address]? = some object → veil.ClearContent object) :
    veil.Sealed { world with objects := objects } :=
  { shut with list := list, objects := clear }

theorem framed_allocate {object : Object} (clear : veil.ClearContent object) :
    veil.Framed (· ≠ veil.list) (Effect.allocate object) (Effect.allocate object) := by
  intro world shut
  have apart : veil.list ≠ world.objects.size := Nat.ne_of_lt shut.list
  have size : (veil.hide world).objects.size = world.objects.size := Array.size_setIfInBounds
  have hidden : veil.hide { world with objects := world.objects.push object } =
      { veil.hide world with objects := (veil.hide world).objects.push object } := by
    simp only [hide, setIfInBounds_push shut.list]
  unfold Effect.allocate
  rw [size, ← hidden]
  refine .done apart.symm (shut.withObjects ?_ ?_) ?_
  · rw [Array.size_push]
    exact Nat.lt_succ_of_lt shut.list
  · intro address found same
    rw [Array.getElem?_push] at same
    split at same
    · cases same
      exact clear
    · exact shut.objects address found same
  · simp only [kept, Array.getElem?_push, if_neg apart]

theorem framed_objects (f : Array Object → Array Object)
    (apart : ∀ objects, (f objects)[veil.list]? = objects[veil.list]?)
    (commute : ∀ objects object, f (objects.setIfInBounds veil.list object) =
      (f objects).setIfInBounds veil.list object)
    (clear : ∀ objects, (∀ (address : Nat) (object : Object), objects[address]? = some object →
      veil.ClearContent object) →
      ∀ (address : Nat) (object : Object), (f objects)[address]? = some object → veil.ClearContent object) :
    veil.Framed (fun _ => True) (Effect.change fun world => { world with objects := f world.objects })
      (Effect.change fun world => { world with objects := f world.objects }) := by
  refine framed_change (fun world shut => shut.withObjects ?_ (clear _ shut.objects)) (fun world shut => ?_)
    (fun world shut => ?_)
  · have inside := apart world.objects
    rw [Array.getElem?_eq_getElem shut.list] at inside
    exact (Array.getElem?_eq_some_iff.mp inside).1
  · simp only [hide, commute]
  · simp only [kept, apart]

theorem framed_store {address : Nat} (apart : address ≠ veil.list) {object : Object}
    (clear : veil.ClearContent object) :
    veil.Framed (fun _ => True) (Effect.store address object) (Effect.store address object) := by
  refine framed_objects (·.setIfInBounds address object) (fun objects => Array.getElem?_setIfInBounds_ne apart)
    (fun objects other => (Array.setIfInBounds_comm _ _ apart).symm) ?_
  intro objects all place found same
  rw [Array.getElem?_setIfInBounds] at same
  split at same
  · split at same
    · cases same
      exact clear
    · cases same
  · exact all place found same

theorem framed_modify {address : Nat} (apart : address ≠ veil.list) {f : Object → Object}
    (clear : ∀ object, veil.ClearContent object → veil.ClearContent (f object)) :
    veil.Framed (fun _ => True)
      (Effect.change fun world => { world with objects := world.objects.modify address f })
      (Effect.change fun world => { world with objects := world.objects.modify address f }) := by
  refine framed_objects (·.modify address f) (fun objects => ?_)
    (fun objects other => (setIfInBounds_modify apart f other).symm) ?_
  · rw [Array.getElem?_modify, if_neg apart]
  · intro objects all place found same
    rw [Array.getElem?_modify] at same
    split at same
    · obtain ⟨before, there, rfl⟩ := Option.map_eq_some_iff.mp same
      exact clear before (all place before there)
    · exact all place found same

/-- Objects with the error at an address changed. -/
def changeError (address : Nat) (f : Incident → Incident) (objects : Array Object) : Array Object :=
  match objects[address]? with
  | some (.error incident) => objects.setIfInBounds address (.error (f incident))
  | _ => objects

theorem changeIncident_eq (address : Nat) (f : Incident → Incident) (world : World) :
    world.changeIncident address f = { world with objects := changeError address f world.objects } := by
  unfold World.changeIncident World.incident? changeError
  cases world.objects[address]? with
  | none => rfl
  | some object => cases object <;> rfl

theorem framed_changeIncident {address : Nat} (apart : address ≠ veil.list) {f : Incident → Incident}
    (clear : ∀ incident, veil.ClearIncident incident → veil.ClearIncident (f incident)) :
    veil.Framed (fun _ => True) (Effect.change (World.changeIncident address f))
      (Effect.change (World.changeIncident address f)) := by
  rw [funext (changeIncident_eq address f)]
  refine framed_objects (changeError address f) (fun objects => ?_) (fun objects other => ?_) ?_
  · unfold changeError
    split
    · exact Array.getElem?_setIfInBounds_ne apart
    · rfl
  · unfold changeError
    rw [Array.getElem?_setIfInBounds_ne apart.symm]
    split
    · exact (Array.setIfInBounds_comm _ _ apart).symm
    · rfl
  · intro objects all place found same
    unfold changeError at same
    split at same
    · rename_i incident there
      rw [Array.getElem?_setIfInBounds] at same
      split at same
      · split at same
        · cases same
          exact clear incident (all address _ there)
        · cases same
      · exact all place found same
    · exact all place found same

/-! ## Other parts of the world -/

theorem framed_newIdentity : veil.Framed (fun _ => True) Effect.newIdentity Effect.newIdentity :=
  fun _ shut => .done trivial { shut with } rfl

theorem framed_openScope {opened : Scope} (outer : opened.outer ≠ some veil.scope)
    (clear : veil.ClearUnder opened.values) :
    veil.Framed (· ≠ veil.scope) (Effect.openScope opened) (Effect.openScope opened) := by
  intro world shut
  have apart : veil.scope ≠ world.scopes.size := Nat.ne_of_lt shut.scope
  have size : (veil.hide world).scopes.size = world.scopes.size := Array.size_modify
  have hidden : veil.hide { world with scopes := world.scopes.push opened } =
      { veil.hide world with scopes := (veil.hide world).scopes.push opened } := by
    simp only [hide, modify_push shut.scope]
  unfold Effect.openScope
  rw [size, ← hidden]
  refine .done apart.symm { shut with scope := ?_, scopes := fun number found same => ?_ } ?_
  · rw [Array.size_push]
    exact Nat.lt_succ_of_lt shut.scope
  · rw [Array.getElem?_push] at same
    split at same
    · cases same
      exact ⟨outer, fun entry member _ => clear entry member⟩
    · exact shut.scopes number found same
  · simp only [kept, Array.getElem?_push, if_neg apart]

theorem framed_changeScope {number : Nat} {f : List (Text × Value) → List (Text × Value)}
    (clear : ∀ values, ∀ entry ∈ f values, entry ∈ values ∨ veil.Clear entry.2)
    (commute : number = veil.scope → ∀ values : List (Text × Value),
      (f values).filter (fun entry => !isOwnName entry.1) = f (values.filter fun entry => !isOwnName entry.1))
    (same : number = veil.scope → ∀ values : List (Text × Value),
      (f values).filter (fun entry => isOwnName entry.1) = values.filter fun entry => isOwnName entry.1) :
    veil.Framed (fun _ => True) (Effect.changeScope number f) (Effect.changeScope number f) := by
  refine framed_change (fun world shut => ?_) (fun world shut => ?_) (fun world shut => ?_)
  · refine { shut with scope := ?_, scopes := fun place found there => ?_ }
    · rw [Array.size_modify]
      exact shut.scope
    · rw [Array.getElem?_modify] at there
      split at there
      · obtain ⟨before, found, rfl⟩ := Option.map_eq_some_iff.mp there
        have whole := shut.scopes place before found
        refine ⟨whole.outer, fun entry member free => ?_⟩
        rcases clear before.values entry member with inside | clear
        · exact whole.values entry inside free
        · exact clear
      · exact shut.scopes place found there
  · have apart : number = veil.scope → ∀ scope : Scope, bare ⟨scope.names, f scope.values, scope.outer⟩ =
        ⟨(bare scope).names, f (bare scope).values, (bare scope).outer⟩ := by
      intro here scope
      rw [bare, commute here]
      rfl
    simp only [hide]
    rw [modify_modify (fun scope : Scope => ⟨scope.names, f scope.values, scope.outer⟩) bare fun here scope =>
      (apart here scope).symm]
  · simp only [kept, Array.getElem?_modify]
    split
    · rename_i here
      subst here
      rw [Option.map_map]
      congr 2
      funext scope
      simp only [Function.comp_apply, same rfl]
    · rfl

theorem framed_bindName {here : Activation} {name : Text} (free : here.scope = veil.scope → isOwnName name = false)
    {value : Value} (clear : veil.Clear value) :
    veil.Framed (fun _ => True) (Effect.bindName here name value) (Effect.bindName here name value) := by
  refine framed_changeScope (fun values => ?_) (fun own values => ?_) (fun own values => ?_)
  · induction values with
    | nil =>
        intro entry member
        cases List.mem_singleton.mp member
        exact .inr clear
    | cons first values ih =>
        intro entry member
        rw [putEntry] at member
        split at member
        · rcases List.mem_cons.mp member with rfl | inside
          · exact .inr clear
          · exact .inl (.tail _ inside)
        · rcases List.mem_cons.mp member with rfl | inside
          · exact .inl (.head _)
          · exact (ih entry inside).imp_left (.tail _)
  · induction values with
    | nil => simp [putEntry, free own]
    | cons first values ih =>
        by_cases same : first.1 = name
        · simp [putEntry, same, free own]
        · by_cases owned : isOwnName first.1 <;> simp [putEntry, same, owned, ih]
  · induction values with
    | nil => simp [putEntry, free own]
    | cons first values ih =>
        by_cases same : first.1 = name
        · simp [putEntry, same, free own]
        · by_cases owned : isOwnName first.1 <;> simp [putEntry, same, owned, ih]

theorem framed_unbindName {here : Activation} (apart : here.scope ≠ veil.scope) (name : Text) :
    veil.Framed (fun _ => True) (Effect.unbindName here name) (Effect.unbindName here name) :=
  framed_changeScope (fun _ _ member => .inl ((List.mem_filter.mp member).1)) (fun own => absurd own apart)
    (fun own => absurd own apart)

theorem framed_handle {f : List Nat → List Nat}
    (clear : ∀ errors, (∀ error ∈ errors, error ≠ veil.list) → ∀ error ∈ f errors, error ≠ veil.list) :
    veil.Framed (fun _ => True) (Effect.change fun world => { world with handled := f world.handled })
      (Effect.change fun world => { world with handled := f world.handled }) :=
  framed_change (fun _ shut => { shut with handled := clear _ shut.handled }) (fun _ _ => rfl) (fun _ _ => rfl)

/-! ## Making values and raising errors -/

theorem framed_newInt (value : Int) : veil.Framed veil.Clear (Effect.newInt value) (Effect.newInt value) := by
  unfold Effect.newInt
  split
  · exact framed_pure trivial
  · exact framed_newIdentity.bind fun _ _ => framed_pure trivial

theorem framed_newText (content : Text) : veil.Framed veil.Clear (Effect.newText content) (Effect.newText content) := by
  have each (shared : Bool) : veil.Framed veil.Clear
      (if shared then pure (.text 0 false content) else do return .text (← Effect.newIdentity) false content)
      (if shared then pure (.text 0 false content) else do return .text (← Effect.newIdentity) false content) := by
    split
    · exact framed_pure trivial
    · exact framed_newIdentity.bind fun _ _ => framed_pure trivial
  exact each _

theorem framed_newMarkup (content : Text) :
    veil.Framed veil.Clear (Effect.newMarkup content) (Effect.newMarkup content) :=
  framed_newIdentity.bind fun _ _ => framed_pure trivial

theorem framed_newTuple {items : List Value} (clear : ∀ item ∈ items, veil.Clear item) :
    veil.Framed veil.Clear (Effect.newTuple items) (Effect.newTuple items) := by
  unfold Effect.newTuple
  split
  · exact framed_pure trivial
  · exact framed_newIdentity.bind fun _ _ => framed_pure (clear_tuple.mpr clear)

theorem framed_newList {items : List Value} (clear : ∀ item ∈ items, veil.Clear item) :
    veil.Framed veil.Clear (Effect.newList items) (Effect.newList items) := by
  refine (framed_allocate ?_).bind fun _ apart => framed_pure apart
  intro item member
  exact clear item (List.mem_toArray.mp member)

theorem framed_fail {incident : Incident} (clear : veil.ClearIncident incident) :
    veil.Framed good (Effect.allocate (.error incident) >>= Effect.failWith)
      (Effect.allocate (.error incident) >>= Effect.failWith) :=
  Framed.bind (framed_allocate clear) fun _ apart => framed_failWith apart

theorem framed_raiseNoting {kind : ErrorKind} {arguments : List Value} {attributes : List (Text × Value)}
    (clear : ∀ argument ∈ arguments, veil.Clear argument) (noted : veil.ClearUnder attributes) :
    veil.Framed good (Effect.raiseNoting kind arguments attributes) (Effect.raiseNoting kind arguments attributes) :=
  framed_fail ⟨clear, noted⟩

theorem framed_raise {kind : ErrorKind} {arguments : List Value} (clear : ∀ argument ∈ arguments, veil.Clear argument) :
    veil.Framed good (Effect.raise kind arguments) (Effect.raise kind arguments) :=
  framed_raiseNoting clear (by simp [ClearUnder])

theorem framed_raiseText (kind : ErrorKind) (message : Text) :
    veil.Framed good (Effect.raiseText kind message) (Effect.raiseText kind message) :=
  framed_raise (by simp [Value.plain, Clear])

theorem framed_raiseReport (kind : ErrorKind) (cause : Option ErrorKind) (report : Report) (message : Text) :
    veil.Framed good (Effect.raiseReport kind cause report message) (Effect.raiseReport kind cause report message) :=
  framed_fail ⟨by simp [Value.plain, Clear], by simp [ClearUnder]⟩

end Veil
end Stencil
