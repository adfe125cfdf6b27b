import Stencil.Proofs.Bond

/-!
# Twin actions

Actions are twins when, started in worlds that are alike, they end in the same way, in worlds that are alike again.
What they made on the way belongs together from then on.
-/

namespace Stencil

open Effect Script Manners

/-! ## What stays -/

/-- Whether an action leaves some objects and scopes, every template, and all that scripts cannot change as it was. -/
structure World.Stays (kept still : Nat → Prop) (world after : World) : Prop where
  objects : ∀ {address : Nat}, kept address → after.objects[address]? = world.objects[address]?
  scopes : ∀ {number : Nat}, still number → after.scopes[number]? = world.scopes[number]?
  templates : ∀ {number : Nat} {template : Template}, world.templates[number]? = some template →
    after.templates[number]? = some template
  rest : { after with
    objects := world.objects, scopes := world.scopes, templates := world.templates,
    identities := world.identities, handled := world.handled } = world

namespace World.Stays

variable {kept still kept' still' : Nat → Prop} {world between after : World}

theorem refl (world : World) : world.Stays kept still world := ⟨fun _ => rfl, fun _ => rfl, id, rfl⟩

theorem trans (first : world.Stays kept still between) (second : between.Stays kept' still' after)
    (objects : ∀ {address : Nat}, kept address → kept' address) (scopes : ∀ {number : Nat}, still number → still' number) :
    world.Stays kept still after where
  objects own := (second.objects (objects own)).trans (first.objects own)
  scopes own := (second.scopes (scopes own)).trans (first.scopes own)
  templates there := second.templates (first.templates there)
  rest := by
    have same := congrArg (fun grown : World => { grown with
      objects := world.objects, scopes := world.scopes, templates := world.templates,
      identities := world.identities, handled := world.handled }) second.rest
    exact same.trans first.rest

/-- What stays although what loaders read changes. -/
theorem throughLibrary (first : world.Stays kept still { between with library := world.library })
    (second : between.Stays kept' still' { after with library := between.library })
    (objects : ∀ {address : Nat}, kept address → kept' address) (scopes : ∀ {number : Nat}, still number → still' number) :
    world.Stays kept still { after with library := world.library } where
  objects own := (second.objects (objects own)).trans (first.objects own)
  scopes own := (second.scopes (scopes own)).trans (first.scopes own)
  templates there := second.templates (first.templates there)
  rest := by
    have same := congrArg (fun grown : World => { grown with
      library := world.library, objects := world.objects, scopes := world.scopes, templates := world.templates,
      identities := world.identities, handled := world.handled }) second.rest
    exact same.trans first.rest

variable (stays : world.Stays kept still after)
include stays

theorem library : after.library = world.library := by rw [← stays.rest]

theorem colours : after.colours = world.colours := by rw [← stays.rest]

theorem namespaces : after.namespaces = world.namespaces := by rw [← stays.rest]

theorem classes : after.classes = world.classes := by rw [← stays.rest]

theorem modules : after.modules = world.modules := by rw [← stays.rest]

theorem policies : after.policies = world.policies := by rw [← stays.rest]

theorem sourceFor (binding : Binding) : after.sourceFor binding = world.sourceFor binding := by
  rw [World.sourceFor, stays.library, World.sourceFor]

end World.Stays

namespace Manners

variable {manners : Manners} {bond bond' : Bond} {world world' after after' : World}

theorem SameProgram.stays (grown : bond ≤ bond') {template template' : Template}
    (same : manners.SameProgram bond world world' template template')
    (first : world.Stays bond.kept bond.still after) (second : world'.Stays bond.kept' bond.still' after') :
    manners.SameProgram bond' after after' template template' :=
  { same with
    function := by
      rcases same.function with pair | ⟨kept, kept', content, content', attributes, attributes', there, there', alike⟩
      · exact .inl (grown.objects pair)
      · exact .inr ⟨grown.kept kept, grown.kept' kept', content, content', attributes, attributes',
          (first.objects kept).trans there, (second.objects kept').trans there', alike.mono grown⟩ }

theorem Ready.stays (grown : bond ≤ bond') {binding : Binding} {template : Template} {outer : Nat}
    (ready : manners.Ready bond world world' binding template outer)
    (first : world.Stays bond.kept bond.still after) (second : world'.Stays bond.kept' bond.still' after') :
    manners.Ready bond' after after' binding template outer :=
  { ready with
    found := (first.sourceFor binding).trans ready.found
    kept := grown.kept' ready.kept
    still := grown.still' ready.still
    hosts := by
      obtain ⟨attributes, there⟩ := ready.hosts.function
      exact ⟨⟨attributes, (second.objects ready.kept).trans there⟩, (second.scopes ready.still).trans ready.hosts.scope⟩ }

end Manners

namespace Terms

variable {terms : Terms} {bond bond' later : Bond} {world world' between between' after after' : World} {α β : Type}

/-- Whether two actions have led to worlds that are alike. -/
structure Moves (terms : Terms) (bond later : Bond) (world world' after after' : World) : Prop where
  grown : bond ≤ later
  matched : terms.Matched later after after'
  rebuilds : ∀ {binding : Binding} {number : Nat}, later.rebuilds binding number → bond.rebuilds binding number
  first : world.Stays bond.kept bond.still after
  second : world'.Stays bond.kept' bond.still' after'

theorem Matched.rest (matched : terms.Matched bond world world') : terms.Moves bond bond world world' world world' :=
  ⟨le_rfl, matched, id, .refl world, .refl world'⟩

theorem Moves.trans (moves : terms.Moves bond bond' world world' between between')
    (more : terms.Moves bond' later between between' after after') : terms.Moves bond later world world' after after' where
  grown := moves.grown.trans more.grown
  matched := more.matched
  rebuilds built := moves.rebuilds (more.rebuilds built)
  first := moves.first.trans more.first moves.grown.kept moves.grown.still
  second := moves.second.trans more.second moves.grown.kept' moves.grown.still'

/-! ## Actions -/

/-- Whether two actions end alike; `good` says which values belong together. -/
inductive Ends (terms : Terms) (bond : Bond) (good : Bond → α → α → Prop) (world world' : World) :
    Outcome α → Outcome α → Prop where
  | done {later : Bond} {value value' : α} {after after' : World}
    (moves : terms.Moves bond later world world' after after') (fine : good later value value') :
    Ends terms bond good world world' (.done value after) (.done value' after')
  | failed {later : Bond} {error error' : Nat} {after after' : World}
    (moves : terms.Moves bond later world world' after after') (pair : later.objects error error') :
    Ends terms bond good world world' (.failed error after) (.failed error' after')
  | exhausted : Ends terms bond good world world' .exhausted .exhausted
  /-- Nothing is said when a guarded call of the one world gives up. -/
  | unfinished (guarded : terms.guarded) (outcome' : Outcome α) : Ends terms bond good world world' .exhausted outcome'

/-- Whether an action does in one world what another action does in a world that is alike. -/
def Twin (terms : Terms) (bond : Bond) (good : Bond → α → α → Prop) (action action' : Effect α) : Prop :=
  ∀ later, bond ≤ later → ∀ world world', terms.Matched later world world' →
    terms.Ends later good world world' (action world) (action' world')

variable {good : Bond → α → α → Prop} {fine : Bond → β → β → Prop}

theorem Ends.behind (moves : terms.Moves bond bond' world world' between between') {outcome outcome' : Outcome α}
    (ends : terms.Ends bond' good between between' outcome outcome') :
    terms.Ends bond good world world' outcome outcome' := by
  cases ends with
  | done more fine => exact .done (moves.trans more) fine
  | failed more pair => exact .failed (moves.trans more) pair
  | exhausted => exact .exhausted
  | unfinished guarded outcome' => exact .unfinished guarded outcome'

theorem Ends.bind {action action' : Effect α} {next next' : α → Effect β}
    (ends : terms.Ends bond good world world' (action world) (action' world'))
    (second : ∀ later, bond ≤ later → ∀ between between', terms.Matched later between between' → ∀ value value',
      good later value value' → terms.Ends later fine between between' (next value between) (next' value' between')) :
    terms.Ends bond fine world world' ((action >>= next) world) ((action' >>= next') world') := by
  rw [Effect.bind_apply, Effect.bind_apply]
  generalize action world = outcome, action' world' = outcome' at ends ⊢
  cases ends with
  | done moves fine => exact (second _ moves.grown _ _ moves.matched _ _ fine).behind moves
  | failed moves pair => exact .failed moves pair
  | exhausted => exact .exhausted
  | unfinished guarded => exact .unfinished guarded _

theorem Ends.recover {action action' : Effect α} {handler handler' : Nat → Effect α}
    (ends : terms.Ends bond good world world' (action world) (action' world'))
    (second : ∀ later, bond ≤ later → ∀ between between', terms.Matched later between between' → ∀ error error',
      later.objects error error' → terms.Ends later good between between' (handler error between)
        (handler' error' between')) :
    terms.Ends bond good world world' (Effect.recover action handler world) (Effect.recover action' handler' world') := by
  unfold Effect.recover
  generalize action world = outcome, action' world' = outcome' at ends ⊢
  cases ends with
  | done moves fine => exact .done moves fine
  | failed moves pair => exact (second _ moves.grown _ _ moves.matched _ _ pair).behind moves
  | exhausted => exact .exhausted
  | unfinished guarded => exact .unfinished guarded _

theorem Twin.mono (grown : bond ≤ bond') {action action' : Effect α} (twin : terms.Twin bond good action action') :
    terms.Twin bond' good action action' :=
  fun later more => twin later (grown.trans more)

theorem Twin.weaken {fair : Bond → α → α → Prop} (weaker : ∀ later value value', good later value value' →
    fair later value value') {action action' : Effect α} (twin : terms.Twin bond good action action') :
    terms.Twin bond fair action action' := by
  intro later grown world world' matched
  have ends := twin later grown world world' matched
  generalize action world = outcome, action' world' = outcome' at ends ⊢
  cases ends with
  | done moves fine => exact .done moves (weaker _ _ _ fine)
  | failed moves pair => exact .failed moves pair
  | exhausted => exact .exhausted
  | unfinished guarded outcome' => exact .unfinished guarded outcome'

theorem twin_pure {value value' : α} (fine : ∀ later, bond ≤ later → good later value value') :
    terms.Twin bond good (pure value) (pure value') :=
  fun later grown _ _ matched => .done matched.rest (fine later grown)

/-- Ending with the same value. -/
theorem twin_same (value : α) (fine : ∀ later, good later value value) :
    terms.Twin bond good (pure value) (pure value) :=
  twin_pure fun later _ => fine later

/-- Whether things are equal, whatever belongs together. -/
abbrev Equal (_ : Bond) (value value' : α) : Prop := value = value'

/-- Nothing has to belong together. -/
abbrev Whatever (_ : Bond) (_ _ : α) : Prop := True

theorem twin_equal (value : α) : terms.Twin bond Equal (pure value) (pure value) := twin_same value fun _ => rfl

/-- Ending with values that are the same, apart from the places that they lead to. -/
theorem twin_value {value value' : Value} (same : terms.Same bond value value') :
    terms.Twin bond terms.Same (pure value) (pure value') :=
  twin_pure fun _ grown => same.mono grown

theorem Twin.bind {action action' : Effect α} {next next' : α → Effect β} (first : terms.Twin bond good action action')
    (second : ∀ later, bond ≤ later → ∀ value value', good later value value' →
      terms.Twin later fine (next value) (next' value')) :
    terms.Twin bond fine (action >>= next) (action' >>= next') := by
  intro later grown world world' matched
  exact (first later grown world world' matched).bind fun later' more _ _ matched' value value' fine =>
    second later' (grown.trans more) value value' fine later' le_rfl _ _ matched'

/-- Looking at the worlds. -/
theorem twin_read {next next' : World → Effect β}
    (each : ∀ later, bond ≤ later → ∀ world world', terms.Matched later world world' →
      terms.Twin later fine (next world) (next' world')) :
    terms.Twin bond fine (Effect.world >>= next) (Effect.world >>= next') :=
  fun later grown world world' matched => each later grown world world' matched later le_rfl world world' matched

theorem twin_exhausted : terms.Twin bond good Effect.exhausted Effect.exhausted := fun _ _ _ _ _ => .exhausted

theorem twin_failWith {error error' : Nat} (pair : bond.objects error error') :
    terms.Twin bond good (Effect.failWith error) (Effect.failWith error') :=
  fun _ grown _ _ matched => .failed matched.rest (grown.objects pair)

theorem Twin.recover {action action' : Effect α} {handler handler' : Nat → Effect α}
    (first : terms.Twin bond good action action')
    (second : ∀ later, bond ≤ later → ∀ error error', later.objects error error' →
      terms.Twin later good (handler error) (handler' error')) :
    terms.Twin bond good (Effect.recover action handler) (Effect.recover action' handler') := by
  intro later grown world world' matched
  exact (first later grown world world' matched).recover fun later' more _ _ matched' error error' pair =>
    second later' (grown.trans more) error error' pair later' le_rfl _ _ matched'

theorem twin_change {f f' : World → World}
    (changed : ∀ later, bond ≤ later → ∀ world world', terms.Matched later world world' →
      terms.Moves later later world world' (f world) (f' world')) :
    terms.Twin bond Whatever (Effect.change f) (Effect.change f') :=
  fun later grown world world' matched => .done (changed later grown world world' matched) trivial

/-! ## Worlds that have changed -/

theorem Matched.inside (matched : terms.Matched bond world world') {address address' : Nat}
    (pair : bond.objects address address') : address < world.objects.size ∧ address' < world'.objects.size := by
  obtain ⟨_, _, there, there', -⟩ := matched.objects pair
  exact ⟨(Array.getElem?_eq_some_iff.mp there).1, (Array.getElem?_eq_some_iff.mp there').1⟩

theorem Matched.insideScopes (matched : terms.Matched bond world world') {inside : Bool} {number number' : Nat}
    (pair : bond.scopes inside number number') : number < world.scopes.size ∧ number' < world'.scopes.size := by
  obtain ⟨_, _, there, there', -⟩ := matched.scopes pair
  exact ⟨(Array.getElem?_eq_some_iff.mp there).1, (Array.getElem?_eq_some_iff.mp there').1⟩

/-- Output that is gathered stays where lists and scopes stay. -/
theorem Gathers.carried {place : Gathering} (gathers : terms.Gathers bond place world world') (grown : bond ≤ bond')
    (frames : ∀ {number number' : Nat}, bond'.frames true number number' → bond.frames true number number')
    (list : after.objects[place.list]? = world.objects[place.list]?)
    (list' : after'.objects[place.list']? = world'.objects[place.list']?)
    (scopes : ∀ {number : Nat} {scope : Scope}, world.scopes[number]? = some scope → after.scopes[number]? = some scope)
    (scopes' : ∀ {number : Nat} {scope : Scope}, world'.scopes[number]? = some scope →
      after'.scopes[number]? = some scope) : terms.Gathers bond' place after after' where
  guarded := gathers.guarded
  lists := by rw [list, list']; exact gathers.lists
  own := by
    obtain ⟨scope, scope', there, there', own⟩ := gathers.own
    exact ⟨scope, scope', scopes there, scopes' there', own⟩
  links pair := by
    rcases gathers.links (frames pair) with here | ⟨scope, scope', outer, outer', there, there', around, around', more⟩
    · exact .inl here
    · obtain ⟨before, before', pair, free⟩ := more
      exact .inr ⟨scope, scope', outer, outer', scopes there, scopes' there', around, around', before, before',
        grown.frames pair, free⟩

/-- Worlds that are alike stay so when what they are changed in belongs together again. -/
theorem Matched.moves (matched : terms.Matched bond world world') (grown : bond ≤ bond')
    (first : world.Stays bond.kept bond.still after) (second : world'.Stays bond.kept' bond.still' after')
    (handled : List.Forall₂ bond'.objects after.handled after'.handled)
    (identities : ∀ {identity identity' : Nat}, bond'.identities identity identity' →
      identity ≤ after.identities ∧ identity' ≤ after'.identities)
    (inside : ∀ {address : Nat}, bond'.kept address → address < after.objects.size)
    (inside' : ∀ {address : Nat}, bond'.kept' address → address < after'.objects.size)
    (within : ∀ {number : Nat}, bond'.still number → number < after.scopes.size)
    (within' : ∀ {number : Nat}, bond'.still' number → number < after'.scopes.size)
    (objects : ∀ {address address' : Nat}, bond'.objects address address' → ∃ object object',
      after.objects[address]? = some object ∧ after'.objects[address']? = some object' ∧
        terms.SameObject bond' object object')
    (scopes : ∀ {inside : Bool} {number number' : Nat}, bond'.scopes inside number number' → ∃ scope scope',
      after.scopes[number]? = some scope ∧ after'.scopes[number']? = some scope' ∧
        terms.SameScope inside bond' number number' scope scope')
    (programs : ∀ {number number' : Nat}, bond'.programs number number' → bond.programs number number' ∨
      ∃ template template', after.templates[number]? = some template ∧ after'.templates[number']? = some template' ∧
        terms.SameProgram bond' after after' template template')
    (rebuilds : ∀ {binding : Binding} {number : Nat}, bond'.rebuilds binding number → bond.rebuilds binding number)
    (gathers : ∀ {place : Gathering}, bond'.gathering = some place → terms.Gathers bond' place after after') :
    terms.Moves bond bond' world world' after after' where
  grown := grown
  rebuilds := rebuilds
  first := first
  second := second
  matched :=
    { library := by rw [first.library, second.library, matched.library]
      colours := by rw [first.colours, second.colours, matched.colours]
      handled := handled
      identities := identities
      kept := inside
      kept' := inside'
      still := within
      still' := within'
      namespaces := fun number => by
        rw [first.namespaces, second.namespaces]
        exact rel_imp (fun _ _ alike => SameEntries.mono grown alike) (matched.namespaces number)
      size := by rw [first.classes, second.classes, matched.size]
      classes := fun number => by
        rw [first.classes, second.classes]
        exact rel_imp (fun _ _ alike => alike.mono grown) (matched.classes number)
      objects := objects
      scopes := scopes
      programs := fun pair => by
        rcases programs pair with old | new
        · obtain ⟨template, template', there, there', same⟩ := matched.programs old
          exact ⟨template, template', first.templates there, second.templates there', same.stays grown first second⟩
        · exact new
      known := by rw [first.library]; exact matched.known
      gathers := gathers
      rebuilds := fun built => by
        obtain ⟨template, outer, there, ready⟩ := matched.rebuilds (rebuilds built)
        exact ⟨template, outer, second.templates there, ready.stays grown first second⟩ }

/-! ## Changing objects -/

/-- Objects at places that belong together can be replaced by others that are alike. -/
theorem Matched.objectsAt (matched : terms.Matched bond world world') {address address' : Nat}
    (pair : bond.objects address address') {objects objects' : Array Object} {object object' : Object}
    (there : objects[address]? = some object) (there' : objects'[address']? = some object')
    (same : terms.SameObject bond object object') (size : objects.size = world.objects.size)
    (size' : objects'.size = world'.objects.size)
    (others : ∀ {other : Nat}, other ≠ address → objects[other]? = world.objects[other]?)
    (others' : ∀ {other : Nat}, other ≠ address' → objects'[other]? = world'.objects[other]?) :
    terms.Moves bond bond world world' { world with objects := objects } { world' with objects := objects' } := by
  have first : world.Stays bond.kept bond.still { world with objects := objects } :=
    ⟨fun kept => others fun same => (bond.objects_free pair).1 (same ▸ kept), fun _ => rfl, id, rfl⟩
  have second : world'.Stays bond.kept' bond.still' { world' with objects := objects' } :=
    ⟨fun kept => others' fun same => (bond.objects_free pair).2 (same ▸ kept), fun _ => rfl, id, rfl⟩
  refine matched.moves le_rfl first second matched.handled matched.identities (fun kept => ?_) (fun kept => ?_)
    matched.still matched.still' (fun {other other'} pair' => ?_) matched.scopes .inl id fun {place} known => ?_
  · exact size.symm ▸ matched.kept kept
  · exact size'.symm ▸ matched.kept' kept
  · by_cases here : other = address
    · subst here
      obtain rfl := (bond.objects_unique pair' pair).mp rfl
      exact ⟨object, object', there, there', same⟩
    · obtain ⟨found, found', first, first', same⟩ := matched.objects pair'
      exact ⟨found, found', (others here).trans first,
        (others' fun here' => here ((bond.objects_unique pair' pair).mpr here')).trans first', same⟩
  · have apart := bond.gathering_apart known pair
    exact (matched.gathers known).carried le_rfl id (others apart.1.symm) (others' apart.2.symm) id id

theorem twin_store {address address' : Nat} (pair : bond.objects address address') {object object' : Object}
    (same : terms.SameObject bond object object') :
    terms.Twin bond Whatever (Effect.store address object) (Effect.store address' object') := by
  refine twin_change fun later grown world world' matched => ?_
  obtain ⟨inside, inside'⟩ := matched.inside (grown.objects pair)
  exact matched.objectsAt (grown.objects pair) (by simp [inside]) (by simp [inside']) (same.mono grown)
    Array.size_setIfInBounds Array.size_setIfInBounds
    (fun other => Array.getElem?_setIfInBounds_ne other.symm) fun other => Array.getElem?_setIfInBounds_ne other.symm

theorem twin_modify {address address' : Nat} (pair : bond.objects address address') {f f' : Object → Object}
    (each : ∀ later, bond ≤ later → ∀ object object', terms.SameObject later object object' →
      terms.SameObject later (f object) (f' object')) :
    terms.Twin bond Whatever
      (Effect.change fun world => { world with objects := world.objects.modify address f })
      (Effect.change fun world => { world with objects := world.objects.modify address' f' }) := by
  refine twin_change fun later grown world world' matched => ?_
  obtain ⟨object, object', there, there', same⟩ := matched.objects (grown.objects pair)
  refine matched.objectsAt (grown.objects pair) (by simp [Array.getElem?_modify, there])
    (by simp [Array.getElem?_modify, there']) (each later grown _ _ same) Array.size_modify Array.size_modify
    (fun other => ?_) fun other => ?_
  · rw [Array.getElem?_modify, if_neg other.symm]
  · rw [Array.getElem?_modify, if_neg other.symm]

theorem incident?_same (matched : terms.Matched bond world world') {address address' : Nat}
    (pair : bond.objects address address') :
    Option.Rel (terms.SameIncident bond) (world.incident? address) (world'.incident? address') := by
  obtain ⟨object, object', there, there', same⟩ := matched.objects pair
  rw [World.incident?, World.incident?, there, there']
  cases same with
  | error same => exact .some same
  | _ => exact .none

theorem twin_changeIncident {address address' : Nat} (pair : bond.objects address address')
    {f f' : Incident → Incident} (each : ∀ later, bond ≤ later → ∀ incident incident',
      terms.SameIncident later incident incident' → terms.SameIncident later (f incident) (f' incident')) :
    terms.Twin bond Whatever (Effect.change (World.changeIncident address f))
      (Effect.change (World.changeIncident address' f')) := by
  refine twin_change fun later grown world world' matched => ?_
  obtain ⟨inside, inside'⟩ := matched.inside (grown.objects pair)
  have alike := incident?_same matched (grown.objects pair)
  unfold World.changeIncident
  generalize world.incident? address = found, world'.incident? address' = found' at alike ⊢
  cases alike with
  | none => exact matched.rest
  | some same =>
      exact matched.objectsAt (grown.objects pair) (by simp [inside]) (by simp [inside'])
        (.error (each later grown _ _ same)) Array.size_setIfInBounds Array.size_setIfInBounds
        (fun other => Array.getElem?_setIfInBounds_ne other.symm)
        fun other => Array.getElem?_setIfInBounds_ne other.symm

theorem twin_handle {f f' : List Nat → List Nat}
    (each : ∀ later, bond ≤ later → ∀ handled handled', List.Forall₂ later.objects handled handled' →
      List.Forall₂ later.objects (f handled) (f' handled')) :
    terms.Twin bond Whatever (Effect.change fun world => { world with handled := f world.handled })
      (Effect.change fun world => { world with handled := f' world.handled }) :=
  twin_change fun later grown _ _ matched =>
    matched.moves le_rfl ⟨fun _ => rfl, fun _ => rfl, id, rfl⟩ ⟨fun _ => rfl, fun _ => rfl, id, rfl⟩
      (each later grown _ _ matched.handled) matched.identities matched.kept matched.kept' matched.still
      matched.still' matched.objects matched.scopes .inl id fun known =>
        (matched.gathers known).carried le_rfl id rfl rfl id id

end Terms

/-! ## Making things -/

/-- Frames that stand at one place stand inside of routines that differ, or elsewhere, alike. -/
theorem Bond.frames_flag (bond : Bond) {inside within : Bool} {number number' : Nat}
    (frame : bond.frames inside number number') (frame' : bond.frames within number number') : inside = within := by
  cases inside <;> cases within
  · rfl
  · exact absurd rfl (bond.frames_apart frame' frame)
  · exact absurd rfl (bond.frames_apart frame frame')
  · rfl

/-- A bond that also says that two new objects belong together. -/
def Bond.withObject (bond : Bond) (address address' : Nat)
    (fresh : ∀ {other other' : Nat}, bond.objects other other' → other ≠ address ∧ other' ≠ address')
    (free : ¬ bond.kept address ∧ ¬ bond.kept' address')
    (apart : ∀ {place : Gathering}, bond.gathering = some place → address ≠ place.list ∧ address' ≠ place.list') : Bond :=
  { bond with
    objects := fun a a' => bond.objects a a' ∨ a = address ∧ a' = address'
    objects_unique := by
      rintro a b a' b' (old | ⟨rfl, rfl⟩) (old' | ⟨rfl, rfl⟩)
      · exact bond.objects_unique old old'
      · exact iff_of_false (fresh old).1 (fresh old).2
      · exact iff_of_false (Ne.symm (fresh old').1) (Ne.symm (fresh old').2)
      · exact iff_of_true rfl rfl
    objects_free := by
      rintro a a' (old | ⟨rfl, rfl⟩)
      · exact bond.objects_free old
      · exact free
    gathering_apart := by
      rintro place a a' known (old | ⟨rfl, rfl⟩)
      · exact bond.gathering_apart known old
      · exact apart known }

/-- A bond that also says that two new identities belong together. -/
def Bond.withIdentity (bond : Bond) (identity identity' : Nat)
    (fresh : ∀ {other other' : Nat}, bond.identities other other' → other ≠ identity ∧ other' ≠ identity') : Bond :=
  { bond with
    identities := fun a a' => bond.identities a a' ∨ a = identity ∧ a' = identity'
    identities_unique := by
      rintro a b a' b' (old | ⟨rfl, rfl⟩) (old' | ⟨rfl, rfl⟩)
      · exact bond.identities_unique old old'
      · exact iff_of_false (fresh old).1 (fresh old).2
      · exact iff_of_false (Ne.symm (fresh old').1) (Ne.symm (fresh old').2)
      · exact iff_of_true rfl rfl
    shared := .inl bond.shared }

/-- A bond that also says that two new scopes belong together. -/
def Bond.withFrame (bond : Bond) (inside : Bool) (number number' : Nat)
    (fresh : ∀ {within : Bool} {a a' : Nat}, bond.frames within a a' → a ≠ number ∧ a' ≠ number')
    (free : ¬ bond.still number ∧ ¬ bond.still' number') (gathered : inside = true → bond.gathering.isSome) : Bond :=
  { bond with
    frames := fun within a a' => bond.frames within a a' ∨ within = inside ∧ a = number ∧ a' = number'
    frames_unique := by
      rintro a b a' b' ⟨_, old | ⟨-, rfl, rfl⟩⟩ ⟨_, old' | ⟨-, rfl, rfl⟩⟩
      · exact bond.frames_unique ⟨_, old⟩ ⟨_, old'⟩
      · exact iff_of_false (fresh old).1 (fresh old).2
      · exact iff_of_false (Ne.symm (fresh old').1) (Ne.symm (fresh old').2)
      · exact iff_of_true rfl rfl
    frames_apart := by
      rintro a b a' b' (old | ⟨rfl, rfl, rfl⟩) (old' | ⟨other, rfl, rfl⟩)
      · exact bond.frames_apart old old'
      · exact (fresh old).1
      · exact (fresh old').1.symm
      · cases other
    gathering_frame := fun known => .inl (bond.gathering_frame known)
    frames_gathered := by
      rintro a a' (old | ⟨within, -, -⟩)
      · exact bond.frames_gathered old
      · exact gathered within.symm
    frames_free := by
      rintro within a a' (old | ⟨-, rfl, rfl⟩)
      · exact bond.frames_free old
      · exact free }

namespace Terms

variable {terms : Terms} {bond : Bond} {world world' : World} {α : Type} {good : Bond → α → α → Prop}

theorem stays_pushObject {kept still : Nat → Prop} (inside : ∀ {address : Nat}, kept address → address < world.objects.size)
    (object : Object) : world.Stays kept still { world with objects := world.objects.push object } :=
  ⟨fun own => Array.getElem?_push_lt (inside own) ▸ (Array.getElem?_eq_getElem (inside own)).symm, fun _ => rfl, id, rfl⟩

theorem twin_allocate {object object' : Object} (same : terms.SameObject bond object object') :
    terms.Twin bond Bond.objects (Effect.allocate object) (Effect.allocate object') := by
  intro later grown world world' matched
  have fresh : ∀ {other other' : Nat}, later.objects other other' →
      other ≠ world.objects.size ∧ other' ≠ world'.objects.size := fun pair =>
    ⟨(matched.inside pair).1.ne, (matched.inside pair).2.ne⟩
  have free : ¬ later.kept world.objects.size ∧ ¬ later.kept' world'.objects.size :=
    ⟨fun kept => lt_irrefl _ (matched.kept kept), fun kept => lt_irrefl _ (matched.kept' kept)⟩
  have apart : ∀ {place : Gathering}, later.gathering = some place →
      world.objects.size ≠ place.list ∧ world'.objects.size ≠ place.list' := by
    intro place known
    obtain ⟨_, _, there, there', -⟩ := (matched.gathers known).lists
    exact ⟨(Array.getElem?_eq_some_iff.mp there).1.ne', (Array.getElem?_eq_some_iff.mp there').1.ne'⟩
  let bond' := later.withObject world.objects.size world'.objects.size fresh free apart
  have more : later ≤ bond' := ⟨.inl, id, id, id, id, id, id, id, id, id, id, id⟩
  have moves : terms.Moves later bond' world world' { world with objects := world.objects.push object }
      { world' with objects := world'.objects.push object' } := by
    refine matched.moves more (stays_pushObject matched.kept object) (stays_pushObject matched.kept' object')
      (matched.handled.imp fun _ _ => more.objects) matched.identities (fun kept => ?_) (fun kept => ?_) matched.still
      matched.still' ?_ (fun pair => ?_) .inl id fun {place} known => ?_
    · exact Array.size_push object ▸ Nat.lt_succ_of_lt (matched.kept kept)
    · exact Array.size_push object' ▸ Nat.lt_succ_of_lt (matched.kept' kept)
    · rintro address address' (pair | ⟨rfl, rfl⟩)
      · obtain ⟨found, found', there, there', alike⟩ := matched.objects pair
        exact ⟨found, found', World.Grows.getElem?_push_of there object, World.Grows.getElem?_push_of there' object', alike.mono more⟩
      · exact ⟨object, object', Array.getElem?_push_size, Array.getElem?_push_size, (same.mono grown).mono more⟩
    · obtain ⟨scope, scope', there, there', alike⟩ := matched.scopes pair
      exact ⟨scope, scope', there, there', alike.mono more⟩
    · obtain ⟨_, _, there, there', -⟩ := (matched.gathers known).lists
      exact (matched.gathers known).carried more id ((World.Grows.getElem?_push_of there object).trans there.symm)
        ((World.Grows.getElem?_push_of there' object').trans there'.symm) id id
  exact .done moves (.inr ⟨rfl, rfl⟩)

theorem twin_newIdentity : terms.Twin bond Bond.identities Effect.newIdentity Effect.newIdentity := by
  intro later grown world world' matched
  have fresh : ∀ {other other' : Nat}, later.identities other other' →
      other ≠ world.identities + 1 ∧ other' ≠ world'.identities + 1 := fun pair =>
    ⟨(Nat.lt_succ_of_le (matched.identities pair).1).ne, (Nat.lt_succ_of_le (matched.identities pair).2).ne⟩
  let bond' := later.withIdentity (world.identities + 1) (world'.identities + 1) fresh
  have more : later ≤ bond' := ⟨id, .inl, id, id, id, id, id, id, id, id, id, id⟩
  have moves : terms.Moves later bond' world world' { world with identities := world.identities + 1 }
      { world' with identities := world'.identities + 1 } := by
    refine matched.moves more ⟨fun _ => rfl, fun _ => rfl, id, rfl⟩ ⟨fun _ => rfl, fun _ => rfl, id, rfl⟩ matched.handled
      ?_ matched.kept matched.kept' matched.still matched.still' (fun pair => ?_) (fun pair => ?_) .inl id
      fun known => (matched.gathers known).carried more id rfl rfl id id
    · rintro identity identity' (pair | ⟨rfl, rfl⟩)
      · exact ⟨Nat.le_succ_of_le (matched.identities pair).1, Nat.le_succ_of_le (matched.identities pair).2⟩
      · exact ⟨le_rfl, le_rfl⟩
    · obtain ⟨object, object', there, there', alike⟩ := matched.objects pair
      exact ⟨object, object', there, there', alike.mono more⟩
    · obtain ⟨scope, scope', there, there', alike⟩ := matched.scopes pair
      exact ⟨scope, scope', there, there', alike.mono more⟩
  exact .done moves (.inr ⟨rfl, rfl⟩)

theorem stays_pushScope {kept still : Nat → Prop} (inside : ∀ {number : Nat}, still number → number < world.scopes.size)
    (scope : Scope) : world.Stays kept still { world with scopes := world.scopes.push scope } :=
  ⟨fun _ => rfl, fun own => Array.getElem?_push_lt (inside own) ▸ (Array.getElem?_eq_getElem (inside own)).symm, id, rfl⟩

/-- New scopes around which there are scopes that belong together belong together. -/
theorem Matched.openScope (matched : terms.Matched bond world world') {inside : Bool} {names : List Text}
    {values values' : List (Text × Value)} {outer outer' : Nat} (around : bond.scopes inside outer outer')
    (alike : Alike (terms.Held inside bond) values values')
    (linked : inside = true → bond.frames true outer outer' ∧ ∀ name ∈ Routine.equipment, names.contains name = false) :
    ∃ later, terms.Moves bond later world world'
      { world with scopes := world.scopes.push ⟨names, values, some outer⟩ }
      { world' with scopes := world'.scopes.push ⟨names, values', some outer'⟩ } ∧
        later.frames inside world.scopes.size world'.scopes.size := by
  have fresh : ∀ {within : Bool} {a a' : Nat}, bond.frames within a a' → a ≠ world.scopes.size ∧ a' ≠ world'.scopes.size :=
    fun pair => ⟨(matched.insideScopes (.inl pair)).1.ne, (matched.insideScopes (.inl pair)).2.ne⟩
  have free : ¬ bond.still world.scopes.size ∧ ¬ bond.still' world'.scopes.size :=
    ⟨fun still => lt_irrefl _ (matched.still still), fun still => lt_irrefl _ (matched.still' still)⟩
  let bond' := bond.withFrame inside world.scopes.size world'.scopes.size fresh free
    fun within => bond.frames_gathered (linked within).1
  have more : bond ≤ bond' := ⟨id, id, id, id, .inl, id, id, id, id, id, id, id⟩
  have before := matched.insideScopes around
  refine ⟨bond', ?_, .inr ⟨rfl, rfl, rfl⟩⟩
  refine matched.moves more (stays_pushScope matched.still _) (stays_pushScope matched.still' _) matched.handled
    matched.identities matched.kept matched.kept' (fun still => ?_) (fun still => ?_) (fun pair => ?_) ?_ .inl id
    fun {place} known => ?_
  · exact (Nat.lt_succ_of_lt (matched.still still)).trans_eq (Array.size_push _).symm
  · exact (Nat.lt_succ_of_lt (matched.still' still)).trans_eq (Array.size_push _).symm
  · obtain ⟨object, object', there, there', same⟩ := matched.objects pair
    exact ⟨object, object', there, there', same.mono more⟩
  · have old {within : Bool} {number number' : Nat} (pair : bond.scopes within number number') : ∃ scope scope',
        (world.scopes.push ⟨names, values, some outer⟩)[number]? = some scope ∧
          (world'.scopes.push ⟨names, values', some outer'⟩)[number']? = some scope' ∧
            terms.SameScope within bond' number number' scope scope' := by
      obtain ⟨scope, scope', there, there', same⟩ := matched.scopes pair
      exact ⟨scope, scope', World.Grows.getElem?_push_of there _, World.Grows.getElem?_push_of there' _, same.mono more⟩
    rintro within number number' ((pair | ⟨rfl, rfl, rfl⟩) | pair)
    · exact old (.inl pair)
    · refine ⟨_, _, Array.getElem?_push_size, Array.getElem?_push_size, rfl, ?_, ?_⟩
      · exact alike.mono fun _ _ _ held => held.mono more
      · exact .some ⟨Bond.scopes_mono more around, before⟩
    · exact old (.inr pair)
  · obtain ⟨guarded, lists, ⟨scope, scope', there, there', own⟩, links⟩ := matched.gathers known
    refine ⟨guarded, lists, ⟨scope, scope', World.Grows.getElem?_push_of there _, World.Grows.getElem?_push_of there' _, own⟩, ?_⟩
    rintro number number' (pair | ⟨rfl, rfl, rfl⟩)
    · rcases links pair with here | ⟨scope, scope', outer, outer', there, there', out, out', before, before', pair, free⟩
      · exact .inl here
      · exact .inr ⟨scope, scope', outer, outer', World.Grows.getElem?_push_of there _,
          World.Grows.getElem?_push_of there' _, out, out', before, before', .inl pair, free⟩
    · obtain ⟨pair, spare⟩ := linked rfl
      exact .inr ⟨_, _, outer, outer', Array.getElem?_push_size, Array.getElem?_push_size, rfl, rfl, before.1, before.2,
        .inl pair, fun name own => ⟨spare name own, spare name own⟩⟩

theorem twin_openScope {inside : Bool} {names : List Text} {values values' : List (Text × Value)} {outer outer' : Nat}
    (around : bond.encloses inside outer outer') (alike : Alike (terms.Held inside bond) values values')
    (spare : inside = true → ∀ name ∈ Routine.equipment, names.contains name = false) :
    terms.Twin bond (fun later => later.frames inside) (Effect.openScope ⟨names, values, some outer⟩)
      (Effect.openScope ⟨names, values', some outer'⟩) := by
  intro later grown world world' matched
  have around := Bond.encloses_mono grown around
  obtain ⟨_, moves, frame⟩ := matched.openScope (around.imp id And.right)
    (alike.mono fun _ _ _ held => held.mono grown) fun within => by
      subst within
      exact ⟨around.resolve_right (fun base => Bool.noConfusion base.1), spare rfl⟩
  exact .done moves frame

/-! ## Changing scopes -/

/-- Whether a change of what names stand for leaves the names alone that a routine gathers its output with. -/
def Routine.Leaves (f : List (Text × Value) → List (Text × Value)) : Prop :=
  ∀ name ∈ Routine.equipment, ∀ values, (f values).lookup name = values.lookup name

theorem twin_changeScope {inside : Bool} {number number' : Nat} (pair : bond.frames inside number number')
    {f f' : List (Text × Value) → List (Text × Value)}
    (each : ∀ later, bond ≤ later → ∀ values values', Alike (terms.Held inside later) values values' →
      Alike (terms.Held inside later) (f values) (f' values'))
    (leaves : inside = true → Routine.Leaves f ∧ Routine.Leaves f') :
    terms.Twin bond Whatever (Effect.changeScope number f) (Effect.changeScope number' f') := by
  refine twin_change fun later grown world world' matched => ?_
  have own := grown.frames pair
  obtain ⟨free, free'⟩ := later.frames_free own
  have unique {within : Bool} {here here' : Nat} (frame : later.frames within here here') :=
    later.frames_unique ⟨_, own⟩ ⟨_, frame⟩
  refine matched.moves le_rfl ⟨fun _ => rfl, fun {here} still => ?_, id, rfl⟩
    ⟨fun _ => rfl, fun {here} still => ?_, id, rfl⟩ matched.handled matched.identities matched.kept matched.kept'
    (fun still => (matched.still still).trans_eq Array.size_modify.symm)
    (fun still => (matched.still' still).trans_eq Array.size_modify.symm) matched.objects
    (fun {within here here'} pair' => ?_) .inl id fun {place} known => ?_
  · have apart : number ≠ here := fun same => free (same ▸ still)
    exact (Array.getElem?_modify ..).trans (if_neg apart)
  · have apart : number' ≠ here := fun same => free' (same ▸ still)
    exact (Array.getElem?_modify ..).trans (if_neg apart)
  · obtain ⟨scope, scope', there, there', same⟩ := matched.scopes pair'
    have elsewhere (apart : number ≠ here) (apart' : number' ≠ here') : ∃ scope scope',
        (world.scopes.modify number fun found => { found with values := f found.values })[here]? = some scope ∧
          (world'.scopes.modify number' fun found => { found with values := f' found.values })[here']? = some scope' ∧
            terms.SameScope within later here here' scope scope' :=
      ⟨scope, scope', by rw [Array.getElem?_modify, if_neg apart, there],
        by rw [Array.getElem?_modify, if_neg apart', there'], same⟩
    rcases pair' with frame | base
    · by_cases here : number = here
      · subst here
        obtain rfl := (unique frame).mp rfl
        obtain rfl := later.frames_flag own frame
        refine ⟨{ scope with values := f scope.values }, { scope' with values := f' scope'.values }, ?_, ?_, same.names,
          each later grown _ _ same.values, same.outer⟩
        · rw [Array.getElem?_modify, if_pos rfl, there]
          rfl
        · rw [Array.getElem?_modify, if_pos rfl, there']
          rfl
      · exact elsewhere here fun same => here ((unique frame).mpr same)
    · obtain ⟨still, still'⟩ := later.bases_still base
      exact elsewhere (fun same => free (same ▸ still)) fun same => free' (same ▸ still')
  · obtain ⟨guarded, lists, ⟨scope, scope', there, there', equipped⟩, links⟩ := matched.gathers known
    refine ⟨guarded, lists, ?_, fun pair' => ?_⟩
    · by_cases here : number = place.scope
      · have frame := later.gathering_frame known
        have here' := (unique frame).mp here
        obtain rfl := later.frames_flag own (here ▸ here' ▸ frame)
        refine ⟨{ scope with values := f scope.values }, { scope' with values := f' scope'.values }, ?_, ?_,
          fun name inside => ?_⟩
        · rw [here, Array.getElem?_modify, if_pos rfl, there]
          rfl
        · rw [here', Array.getElem?_modify, if_pos rfl, there']
          rfl
        · rw [(leaves rfl).1 name inside, (leaves rfl).2 name inside]
          exact equipped name inside
      · have apart' : number' ≠ place.scope' := fun same => here ((unique (later.gathering_frame known)).mpr same)
        exact ⟨scope, scope', by rw [Array.getElem?_modify, if_neg here, there],
          by rw [Array.getElem?_modify, if_neg apart', there'], equipped⟩
    · rename_i here here'
      rcases links pair' with same | ⟨scope, scope', outer, outer', there, there', more⟩
      · exact .inl same
      · refine .inr ⟨if number = here then { scope with values := f scope.values } else scope,
          if number' = here' then { scope' with values := f' scope'.values } else scope', outer, outer', ?_, ?_, ?_⟩
        · rw [Array.getElem?_modify, there]
          split <;> rfl
        · rw [Array.getElem?_modify, there']
          split <;> rfl
        · split <;> split <;> exact more

/-- Whether the running calls are the same, apart from where their scopes stand. -/
structure SameActivation (inside : Bool) (bond : Bond) (here here' : Activation) : Prop where
  name : here'.name = here.name
  file : here'.file = here.file
  globals : here'.globals = here.globals
  scope : bond.frames inside here.scope here'.scope

theorem SameActivation.mono {inside : Bool} {bond' : Bond} (grown : bond ≤ bond') {here here' : Activation}
    (same : SameActivation inside bond here here') : SameActivation inside bond' here here' :=
  { same with scope := grown.frames same.scope }

/-- The names that a routine gathers its output with are not those that a script in it may mention. -/
theorem ne_of_free {inside : Bool} (within : inside = true) {name own : Text}
    (free : ¬ (terms.reticence inside).hidden name) (equipped : own ∈ Routine.equipment) : own ≠ name := by
  subst within
  rintro rfl
  exact free (List.mem_cons_of_mem _ (List.mem_cons_of_mem _ (List.mem_cons_of_mem _ equipped)))

theorem twin_bindName {inside : Bool} {here here' : Activation} (same : SameActivation inside bond here here') {name : Text}
    (free : ¬ (terms.reticence inside).hidden name) {value value' : Value} (alike : terms.Same bond value value') :
    terms.Twin bond Whatever (Effect.bindName here name value) (Effect.bindName here' name value') := by
  refine twin_changeScope same.scope (fun _ grown _ _ values => values.put (.inr (alike.mono grown))) fun within => ?_
  exact ⟨fun own equipped _ => lookup_putEntry_ne (ne_of_free within free equipped) ..,
    fun own equipped _ => lookup_putEntry_ne (ne_of_free within free equipped) ..⟩

theorem twin_unbindName {inside : Bool} {here here' : Activation} (same : SameActivation inside bond here here')
    {name : Text} (free : ¬ (terms.reticence inside).hidden name) :
    terms.Twin bond Whatever (Effect.unbindName here name) (Effect.unbindName here' name) := by
  refine twin_changeScope same.scope (fun _ _ _ _ alike => alike.filter fun key => key != name) fun within => ?_
  have leaves : Routine.Leaves fun values => values.filter fun entry => entry.1 != name := fun own equipped values =>
    @lookup_filter _ (· != name) own (bne_iff_ne.mpr (ne_of_free within free equipped)) values
  exact ⟨leaves, leaves⟩

/-! ## Making values -/

theorem twin_newInt (value : Int) : terms.Twin bond terms.Same (Effect.newInt value) (Effect.newInt value) := by
  unfold Effect.newInt
  split
  · exact twin_value (.number value)
  · exact twin_newIdentity.bind fun _ _ _ _ pair => twin_value (.int pair value)

theorem twin_newText (content : Text) : terms.Twin bond terms.Same (Effect.newText content) (Effect.newText content) := by
  unfold Effect.newText
  extract_lets shared
  split
  · exact twin_value (.plain content)
  · exact twin_newIdentity.bind fun _ _ _ _ pair => twin_value (.text pair false content)

theorem twin_newMarkup (content : Text) :
    terms.Twin bond terms.Same (Effect.newMarkup content) (Effect.newMarkup content) :=
  twin_newIdentity.bind fun _ _ _ _ pair => twin_value (.text pair true content)

theorem twin_newTuple {items items' : List Value} (each : terms.Sames bond items items') :
    terms.Twin bond terms.Same (Effect.newTuple items) (Effect.newTuple items') := by
  unfold Effect.newTuple
  cases each with
  | nil => exact twin_value (.tuples bond.shared .nil)
  | cons same rest =>
      exact twin_newIdentity.bind fun _ grown _ _ pair =>
        twin_value (.tuples pair (.cons (same.mono grown) (Sames.mono grown rest)))

theorem twin_newList {items items' : List Value} (each : terms.Sames bond items items') :
    terms.Twin bond terms.Same (Effect.newList items) (Effect.newList items') :=
  (twin_allocate (.list (by simpa using each))).bind fun _ _ _ _ pair => twin_value (.object pair)

/-! ## Raising errors -/

theorem twin_fail {incident incident' : Incident} (same : terms.SameIncident bond incident incident') :
    terms.Twin bond good (do failWith (← allocate (.error incident))) (do failWith (← allocate (.error incident'))) :=
  (twin_allocate (.error same)).bind fun _ _ _ _ pair => twin_failWith pair

theorem twin_raiseNoting (kind : ErrorKind) {arguments arguments' : List Value}
    {attributes attributes' : List (Text × Value)} (each : terms.Sames bond arguments arguments')
    (noted : terms.SameEntries bond attributes attributes') :
    terms.Twin bond good (raiseNoting kind arguments attributes) (raiseNoting kind arguments' attributes') :=
  twin_fail ⟨rfl, each, noted, rfl, rfl, rfl⟩

theorem twin_raise (kind : ErrorKind) {arguments arguments' : List Value} (each : terms.Sames bond arguments arguments') :
    terms.Twin bond good (raise kind arguments) (raise kind arguments') :=
  twin_raiseNoting kind each .nil

theorem twin_raiseText (kind : ErrorKind) (message : Text) :
    terms.Twin bond good (raiseText kind message) (raiseText kind message) :=
  twin_raise kind (.cons (.plain message) .nil)

theorem twin_raiseReport (kind : ErrorKind) (cause : Option ErrorKind) (report : Report) (message : Text) :
    terms.Twin bond good (raiseReport kind cause report message) (raiseReport kind cause report message) :=
  twin_fail ⟨rfl, .cons (.plain message) .nil, .nil, rfl, rfl, rfl⟩

end Terms
end Stencil
