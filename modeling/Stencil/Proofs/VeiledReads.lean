import Stencil.Proofs.Veil

/-!
# Reading the world behind a veil

What can be looked up about values that do not lead to a routine's list is the same on both sides of the veil.
-/

namespace Stencil
namespace Veil

variable {veil : Veil} {world : World} {value : Value} {address : Nat}

theorem objects_hide (apart : address ≠ veil.list) : (veil.hide world).objects[address]? = world.objects[address]? :=
  Array.getElem?_setIfInBounds_ne apart.symm

theorem incident?_hide (apart : address ≠ veil.list) :
    (veil.hide world).incident? address = world.incident? address := by
  simp only [World.incident?, objects_hide apart]

theorem errorKind_hide (apart : address ≠ veil.list) :
    (veil.hide world).errorKind address = world.errorKind address := by
  simp only [World.errorKind, incident?_hide apart]

@[simp] theorem classes_hide : (veil.hide world).classes = world.classes := rfl

@[simp] theorem templates_hide : (veil.hide world).templates = world.templates := rfl

theorem classAttribute?_hide (name : Text) (steps owner : Nat) :
    (veil.hide world).classAttribute? name steps owner = world.classAttribute? name steps owner := by
  induction steps generalizing owner with
  | zero => rfl
  | succ steps ih => simp only [World.classAttribute?, classes_hide, funext ih]

theorem attributeOfClass?_hide (owner : Nat) (name : Text) :
    (veil.hide world).attributeOfClass? owner name = world.attributeOfClass? owner name :=
  classAttribute?_hide ..

theorem isScripted_hide (clear : veil.Clear value) (name : Text) :
    (veil.hide world).isScripted value name = world.isScripted value name := by
  cases value with
  | object address => simp only [World.isScripted, objects_hide clear]
  | _ => rfl

theorem typeName_hide (clear : veil.Clear value) : (veil.hide world).typeName value = world.typeName value := by
  delta World.typeName
  cases value with
  | object address =>
      dsimp only
      rw [objects_hide clear, classes_hide]
  | method identity receiver name =>
      dsimp only
      rw [isScripted_hide (clear_method.mp clear)]
  | text identity trusted content => cases trusted <;> rfl
  | builtin function => cases function <;> rfl
  | _ => rfl

/-! ## Comparing values -/

theorem itemsOf?_hide (clear : veil.Clear value) : (veil.hide world).itemsOf? value = world.itemsOf? value := by
  cases value with
  | object address => simp only [World.itemsOf?, objects_hide clear]
  | _ => rfl

theorem listAt?_hide (clear : veil.Clear value) : (veil.hide world).listAt? value = world.listAt? value := by
  cases value with
  | object address => simp only [World.listAt?, objects_hide clear]
  | _ => rfl

theorem entriesOf?_hide (clear : veil.Clear value) : (veil.hide world).entriesOf? value = world.entriesOf? value := by
  cases value with
  | object address => simp only [World.entriesOf?, objects_hide clear]
  | _ => rfl

theorem clear_itemsOf? (shut : veil.Sealed world) (clear : veil.Clear value) {items : List Value}
    (found : world.itemsOf? value = some items) : ∀ item ∈ items, veil.Clear item := by
  cases value with
  | tuple identity items' =>
      cases found
      exact clear_tuple.mp clear
  | object address =>
      simp only [World.itemsOf?] at found
      split at found
      · rename_i items' there
        cases found
        exact fun item member => shut.objects address _ there item (Array.mem_toList_iff.mp member)
      · cases found
  | _ => cases found

theorem clear_entriesOf? (shut : veil.Sealed world) (clear : veil.Clear value) {entries : List (Value × Value)}
    (found : world.entriesOf? value = some entries) : veil.ClearPairs entries := by
  cases value with
  | object address =>
      simp only [World.entriesOf?] at found
      split at found
      · rename_i entries' there
        cases found
        exact shut.objects address _ there
      · cases found
  | _ => cases found

theorem clear_entries (shut : veil.Sealed world) (clear : veil.Clear value) :
    veil.ClearPairs ((world.entriesOf? value).getD []) := by
  cases found : world.entriesOf? value with
  | none => nofun
  | some entries => exact clear_entriesOf? shut clear found

theorem viewedEntries?_hide (shut : veil.Sealed world) (clear : veil.Clear value) :
    (veil.hide world).viewedEntries? value = world.viewedEntries? value := by
  cases value with
  | object address =>
      simp only [World.viewedEntries?, objects_hide clear]
      split
      · rename_i dict there
        exact entriesOf?_hide (shut.objects address _ there)
      · rfl
  | _ => rfl

theorem clear_viewedEntries? (shut : veil.Sealed world) (clear : veil.Clear value) {entries : List (Value × Value)}
    (found : world.viewedEntries? value = some entries) : veil.ClearPairs entries := by
  cases value with
  | object address =>
      simp only [World.viewedEntries?] at found
      split at found
      · rename_i dict there
        have apart : dict ≠ veil.list := shut.objects address _ there
        exact clear_entriesOf? shut (clear_object.mpr apart) found
      · cases found
  | _ => cases found

theorem pairwise_congr {same same' : Value → Value → Option Bool} {lefts rights : List Value}
    (agree : ∀ left ∈ lefts, ∀ right ∈ rights, same left right = same' left right) :
    Value.pairwise same lefts rights = Value.pairwise same' lefts rights := by
  induction lefts generalizing rights with
  | nil => cases rights <;> rfl
  | cons left lefts ih =>
      cases rights with
      | nil => rfl
      | cons right rights =>
          simp only [Value.pairwise]
          rw [agree left (.head _) right (.head _),
            ih fun left inside right inside' => agree left (.tail _ inside) right (.tail _ inside')]

theorem underKey_congr {same same' : Value → Value → Option Bool} {key : Value} {entries : List (Value × Value)}
    (agree : ∀ entry ∈ entries, same entry.1 key = same' entry.1 key) :
    Value.underKey same key entries = Value.underKey same' key entries := by
  induction entries with
  | nil => rfl
  | cons entry entries ih =>
      simp only [Value.underKey]
      rw [agree entry (.head _), ih fun entry inside => agree entry (.tail _ inside)]

theorem underKey_mem {same : Value → Value → Option Bool} {key value : Value} {entries : List (Value × Value)}
    (found : Value.underKey same key entries = some (some value)) : ∃ entry ∈ entries, entry.2 = value := by
  induction entries with
  | nil => cases found
  | cons entry entries ih =>
      simp only [Value.underKey, Option.bind_eq_bind, Option.bind_eq_some_iff] at found
      obtain ⟨equal, _, found⟩ := found
      split at found
      · cases found
        exact ⟨entry, .head _, rfl⟩
      · obtain ⟨entry, inside, same⟩ := ih found
        exact ⟨entry, .tail _ inside, same⟩

theorem included_congr {same same' : Value → Value → Option Bool} {others entries : List (Value × Value)}
    (keys : ∀ other ∈ others, ∀ entry ∈ entries, same other.1 entry.1 = same' other.1 entry.1)
    (values : ∀ other ∈ others, ∀ entry ∈ entries, same other.2 entry.2 = same' other.2 entry.2) :
    Value.included same others entries = Value.included same' others entries := by
  induction entries with
  | nil => rfl
  | cons entry entries ih =>
      simp only [Value.included]
      rw [underKey_congr fun other inside => keys other inside entry (.head _),
        ih (fun other inside entry inside' => keys other inside entry (.tail _ inside'))
          (fun other inside entry inside' => values other inside entry (.tail _ inside'))]
      cases found : Value.underKey same' entry.1 others with
      | none => rfl
      | some value =>
          cases value with
          | none => rfl
          | some value =>
              obtain ⟨other, inside, rfl⟩ := underKey_mem found
              simp only [Option.bind_eq_bind, Option.bind_some, values other inside entry (.head _)]

theorem equals?_hide (shut : veil.Sealed world) (steps : Nat) {left right : Value} (clear : veil.Clear left)
    (clear' : veil.Clear right) : (veil.hide world).equals? steps left right = world.equals? steps left right := by
  induction steps generalizing left right with
  | zero => rfl
  | succ steps ih =>
      have each {lefts rights : List Value} (clear : ∀ left ∈ lefts, veil.Clear left)
          (clear' : ∀ right ∈ rights, veil.Clear right) :
          Value.pairwise ((veil.hide world).equals? steps) lefts rights =
            Value.pairwise (world.equals? steps) lefts rights :=
        pairwise_congr fun left inside right inside' => ih (clear left inside) (clear' right inside')
      have all {others entries : List (Value × Value)} (clear : veil.ClearPairs others)
          (clear' : veil.ClearPairs entries) :
          Value.included ((veil.hide world).equals? steps) others entries =
            Value.included (world.equals? steps) others entries :=
        included_congr (fun other inside entry inside' => ih (clear other inside).1 (clear' entry inside').1)
          (fun other inside entry inside' => ih (clear other inside).2 (clear' entry inside').2)
      unfold World.equals?
      rw [itemsOf?_hide clear]
      split
      · rfl
      · split
        · rfl
        · split
          · rfl
          · exact each (clear_tuple.mp clear) (clear_tuple.mp clear')
          · rfl
          · rfl
          · rw [itemsOf?_hide clear', entriesOf?_hide clear, entriesOf?_hide clear', viewedEntries?_hide shut clear,
              viewedEntries?_hide shut clear']
            split
            · rename_i there there'
              split
              · exact each (clear_itemsOf? shut clear there) (clear_itemsOf? shut clear' there')
              · rfl
            · split
              · rename_i there there'
                simp only [all (clear_entriesOf? shut clear' there') (clear_entriesOf? shut clear there)]
              · split
                · rename_i there there'
                  simp only [all (clear_viewedEntries? shut clear' there') (clear_viewedEntries? shut clear there)]
                · rfl
          · rfl

theorem same?_hide (shut : veil.Sealed world) {left right : Value} (clear : veil.Clear left)
    (clear' : veil.Clear right) : (veil.hide world).same? left right = world.same? left right :=
  equals?_hide shut _ clear clear'

theorem firstDifference?_hide (shut : veil.Sealed world) {lefts rights : List Value}
    (clear : ∀ left ∈ lefts, veil.Clear left) (clear' : ∀ right ∈ rights, veil.Clear right) :
    (veil.hide world).firstDifference? lefts rights = world.firstDifference? lefts rights := by
  induction lefts generalizing rights with
  | nil => rfl
  | cons left lefts ih =>
      cases rights with
      | nil => rfl
      | cons right rights =>
          rw [List.forall_mem_cons] at clear clear'
          rw [World.firstDifference?, World.firstDifference?, same?_hide shut clear.1 clear'.1, ih clear.2 clear'.2]

theorem clear_firstDifference? {lefts rights : List Value} {left right : Value}
    (clear : ∀ left ∈ lefts, veil.Clear left) (clear' : ∀ right ∈ rights, veil.Clear right)
    (found : world.firstDifference? lefts rights = .ok (some (left, right))) : veil.Clear left ∧ veil.Clear right := by
  induction lefts generalizing rights with
  | nil => cases found
  | cons first lefts ih =>
      cases rights with
      | nil => cases found
      | cons first' rights =>
          rw [List.forall_mem_cons] at clear clear'
          rw [World.firstDifference?] at found
          split at found
          · cases found
          · exact ih clear.2 clear'.2 found
          · cases found
            exact ⟨clear.1, clear'.1⟩

theorem orderedEntries_hide (shut : veil.Sealed world) (comparison : Script.Comparison)
    {lefts rights : List (Value × Value)} (clear : veil.ClearPairs lefts) (clear' : veil.ClearPairs rights) :
    (veil.hide world).orderedEntries comparison lefts rights = world.orderedEntries comparison lefts rights := by
  have all {others entries : List (Value × Value)} (clear : veil.ClearPairs others) (clear' : veil.ClearPairs entries) :
      Value.included (veil.hide world).same? others entries = Value.included world.same? others entries :=
    included_congr (fun other inside entry inside' => same?_hide shut (clear other inside).1 (clear' entry inside').1)
      (fun other inside entry inside' => same?_hide shut (clear other inside).2 (clear' entry inside').2)
  simp only [World.orderedEntries, all clear clear', all clear' clear]

theorem bind_congr_ok {ε α β : Type} {result : Except ε α} {f g : α → Except ε β}
    (agree : ∀ value, result = .ok value → f value = g value) : result >>= f = result >>= g := by
  cases result with
  | error fault => rfl
  | ok value => exact agree value rfl

theorem ordered_hide (shut : veil.Sealed world) (comparison : Script.Comparison) (steps : Nat) {left right : Value}
    (clear : veil.Clear left) (clear' : veil.Clear right) :
    (veil.hide world).ordered comparison steps left right = world.ordered comparison steps left right := by
  induction steps generalizing left right with
  | zero => rfl
  | succ steps ih =>
      unfold World.ordered
      split
      · rfl
      · split
        · rfl
        · simp only [firstDifference?_hide shut (clear_tuple.mp clear) (clear_tuple.mp clear')]
          refine bind_congr_ok fun difference found => ?_
          split
          · obtain ⟨first, second⟩ := clear_firstDifference? (clear_tuple.mp clear) (clear_tuple.mp clear') found
            exact ih first second
          · rfl
        · rw [itemsOf?_hide clear, itemsOf?_hide clear', viewedEntries?_hide shut clear,
            viewedEntries?_hide shut clear']
          split
          · rename_i there there'
            have items := clear_itemsOf? shut clear there
            have items' := clear_itemsOf? shut clear' there'
            simp only [firstDifference?_hide shut items items']
            refine bind_congr_ok fun difference found => ?_
            split
            · obtain ⟨first, second⟩ := clear_firstDifference? items items' found
              exact ih first second
            · rfl
          · split
            · rename_i there there'
              exact orderedEntries_hide shut comparison (clear_viewedEntries? shut clear there)
                (clear_viewedEntries? shut clear' there')
            · rfl
        · rfl

theorem error_of_bind {ε α β : Type} {result : Except ε α} {f : α → Except ε β} {fault : ε}
    (failed : result >>= f = .error fault) : result = .error fault ∨ ∃ value, result = .ok value ∧
      f value = .error fault := by
  cases result with
  | error other =>
      cases failed
      exact .inl rfl
  | ok value => exact .inr ⟨value, rfl, failed⟩

theorem firstDifference?_ne {lefts rights : List Value} {one other : Value} :
    world.firstDifference? lefts rights ≠ .error (.unordered one other) := by
  induction lefts generalizing rights with
  | nil => nofun
  | cons left lefts ih =>
      cases rights with
      | nil => nofun
      | cons right rights =>
          rw [World.firstDifference?]
          split
          · nofun
          · exact ih
          · nofun

theorem orderedEntries_ne {comparison : Script.Comparison} {lefts rights : List (Value × Value)} {one other : Value} :
    world.orderedEntries comparison lefts rights ≠ .error (.unordered one other) := by
  unfold World.orderedEntries
  dsimp only
  split <;> nofun

theorem clear_ordered (shut : veil.Sealed world) (comparison : Script.Comparison) (steps : Nat)
    {left right one other : Value} (clear : veil.Clear left) (clear' : veil.Clear right)
    (found : world.ordered comparison steps left right = .error (.unordered one other)) :
    veil.Clear one ∧ veil.Clear other := by
  induction steps generalizing left right with
  | zero => cases found
  | succ steps ih =>
      have within {lefts rights : List Value} (clear : ∀ left ∈ lefts, veil.Clear left)
          (clear' : ∀ right ∈ rights, veil.Clear right)
          {f : Option (Value × Value) → Except OrderFault Bool} (failed : world.firstDifference? lefts rights >>= f =
            .error (.unordered one other)) (last : f none ≠ .error (.unordered one other))
          (deeper : ∀ pair, f (some pair) = world.ordered comparison steps pair.1 pair.2) :
          veil.Clear one ∧ veil.Clear other := by
        rcases error_of_bind failed with failed | ⟨difference, found, failed⟩
        · exact absurd failed firstDifference?_ne
        · cases difference with
          | none => exact absurd failed last
          | some pair =>
              obtain ⟨first, second⟩ := clear_firstDifference? clear clear' found
              exact ih first second (deeper pair ▸ failed)
      unfold World.ordered at found
      split at found
      · cases found
      · split at found
        · cases found
        · exact within (clear_tuple.mp clear) (clear_tuple.mp clear') found nofun fun _ => rfl
        · split at found
          · rename_i there there'
            exact within (clear_itemsOf? shut clear there) (clear_itemsOf? shut clear' there') found nofun fun _ => rfl
          · split at found
            · exact absurd found orderedEntries_ne
            · cases found
              exact ⟨clear, clear'⟩
        · cases found
          exact ⟨clear, clear'⟩

theorem truth_hide (shut : veil.Sealed world) (clear : veil.Clear value) :
    (veil.hide world).truth value = world.truth value := by
  cases value with
  | object address =>
      simp only [World.truth, objects_hide clear]
      split
      · rfl
      · rfl
      · rename_i dict there
        have apart : dict ≠ veil.list := shut.objects address _ there
        rw [entriesOf?_hide (clear_object.mpr apart)]
      · rfl
  | _ => rfl

theorem findSome?_congr {α β : Type} {f g : α → Option β} {items : List α} (agree : ∀ item ∈ items, f item = g item) :
    items.findSome? f = items.findSome? g := by
  induction items with
  | nil => rfl
  | cons item items ih =>
      rw [List.findSome?_cons, List.findSome?_cons, agree item (.head _), ih fun item inside =>
        agree item (.tail _ inside)]

theorem unhashable?_hide (steps : Nat) (clear : veil.Clear value) :
    (veil.hide world).unhashable? steps value = world.unhashable? steps value := by
  induction steps generalizing value with
  | zero => rfl
  | succ steps ih =>
      cases value with
      | tuple identity items => exact findSome?_congr fun item inside => ih (clear_tuple.mp clear item inside)
      | object address => simp only [World.unhashable?, objects_hide clear]
      | _ => rfl

theorem putKey?_hide (shut : veil.Sealed world) {key content : Value} (clear : veil.Clear key)
    {entries : List (Value × Value)} (clear' : veil.ClearPairs entries) :
    (veil.hide world).putKey? key content entries = world.putKey? key content entries := by
  induction entries with
  | nil => rfl
  | cons entry entries ih =>
      have ih := ih fun entry inside => clear' entry (.tail _ inside)
      rw [World.putKey?, World.putKey?, same?_hide shut (clear' entry (.head _)).1 clear, ih]

theorem clear_putKey? {key content : Value} (clear : veil.Clear key) (holds : veil.Clear content)
    {entries entries' : List (Value × Value)} (clear' : veil.ClearPairs entries)
    (found : world.putKey? key content entries = some entries') : veil.ClearPairs entries' := by
  induction entries generalizing entries' with
  | nil =>
      cases found
      intro entry member
      cases List.mem_singleton.mp member
      exact ⟨clear, holds⟩
  | cons entry entries ih =>
      have first := clear' entry (.head _)
      have others : veil.ClearPairs entries := fun entry inside => clear' entry (.tail _ inside)
      simp only [World.putKey?, Option.bind_eq_bind, Option.bind_eq_some_iff] at found
      obtain ⟨same, _, found⟩ := found
      cases same with
      | true =>
          cases found
          exact List.forall_mem_cons.mpr ⟨⟨first.1, holds⟩, others⟩
      | false =>
          obtain ⟨more, there, rfl⟩ := Option.map_eq_some_iff.mp (Option.map_eq_bind.trans found)
          exact List.forall_mem_cons.mpr ⟨first, ih others there⟩

theorem clear_underKey {same : Value → Value → Option Bool} {key content : Value} {entries : List (Value × Value)}
    (clear : veil.ClearPairs entries) (found : Value.underKey same key entries = some (some content)) :
    veil.Clear content := by
  obtain ⟨entry, inside, rfl⟩ := underKey_mem found
  exact (clear entry inside).2

/-! ## Showing values -/

theorem bareForm_hide (clear : veil.Clear value) : (veil.hide world).bareForm value = world.bareForm value := by
  cases value with
  | object address => simp only [World.bareForm, objects_hide clear, classes_hide, typeName_hide clear]
  | _ => simp only [World.bareForm, typeName_hide clear]

theorem mapM_congr {ε α β : Type} {f g : α → Except ε β} {items : List α} (agree : ∀ item ∈ items, f item = g item) :
    items.mapM f = items.mapM g := by
  induction items with
  | nil => rfl
  | cons item items ih =>
      rw [List.mapM_cons, List.mapM_cons, agree item (.head _), ih fun item inside => agree item (.tail _ inside)]

theorem shownWithin_hide (shut : veil.Sealed world) (steps : Nat) (inside : List Nat) (clear : veil.Clear value) :
    (veil.hide world).shownWithin steps inside value = world.shownWithin steps inside value := by
  induction steps generalizing inside value with
  | zero => rfl
  | succ steps ih =>
      have each (inside : List Nat) {items : List Value} (clear : ∀ item ∈ items, veil.Clear item) :
          items.mapM ((veil.hide world).shownWithin steps inside) = items.mapM (world.shownWithin steps inside) :=
        mapM_congr fun item member => ih inside (clear item member)
      unfold World.shownWithin
      cases value with
      | tuple identity items =>
          have items' := clear_tuple.mp clear
          rcases items with _ | ⟨item, _ | ⟨next, items⟩⟩
          · rfl
          · dsimp only
            rw [ih inside (items' item (.head _))]
          · dsimp only
            rw [each inside items']
      | method identity receiver name => exact congrArg _ (bareForm_hide clear)
      | hook hook => exact congrArg _ (bareForm_hide clear)
      | object address =>
          dsimp only
          rw [objects_hide clear]
          split
          · rename_i items there
            rw [each _ fun item member => shut.objects address _ there item (Array.mem_toList_iff.mp member)]
          · rename_i entries there
            have pairs : veil.ClearPairs entries := shut.objects address _ there
            split
            · rfl
            · congr 1
              refine mapM_congr fun entry member => ?_
              rw [ih _ (pairs entry member).1, ih _ (pairs entry member).2]
          · rename_i dict there
            have apart : veil.Clear (.object dict) := shut.objects address _ there
            rw [entriesOf?_hide apart]
            rw [each]
            intro pair member
            obtain ⟨entry, inside, rfl⟩ := List.mem_map.mp member
            simp [clear_entries shut apart entry inside]
          · rfl
          · rename_i incident there
            have whole : veil.ClearIncident incident := shut.objects address _ there
            rw [each inside whole.arguments]
          · rw [bareForm_hide clear]
      | text identity trusted content => cases trusted <;> rfl
      | bool value => cases value <;> rfl
      | builtin function => cases function <;> rfl
      | _ => rfl

/-! ## Going through values -/

theorem valuesOf?_hide (shut : veil.Sealed world) (clear : veil.Clear value) :
    (veil.hide world).valuesOf? value = world.valuesOf? value := by
  cases value with
  | object address =>
      simp only [World.valuesOf?, objects_hide clear]
      split
      · rfl
      · rfl
      · rename_i dict there
        have apart : dict ≠ veil.list := shut.objects address _ there
        rw [entriesOf?_hide (clear_object.mpr apart)]
      · rfl
  | _ => rfl

theorem clear_valuesOf? (shut : veil.Sealed world) (clear : veil.Clear value) {values : List Value}
    (found : world.valuesOf? value = some values) : ∀ value ∈ values, veil.Clear value := by
  cases value with
  | text identity trusted content =>
      cases found
      intro value member
      obtain ⟨char, _, rfl⟩ := List.mem_map.mp member
      trivial
  | tuple identity items =>
      cases found
      exact clear_tuple.mp clear
  | range identity start stop step =>
      cases found
      intro value member
      obtain ⟨index, _, rfl⟩ := List.mem_map.mp member
      trivial
  | object address =>
      simp only [World.valuesOf?] at found
      split at found
      · rename_i items there
        cases found
        exact fun item member => shut.objects address _ there item (Array.mem_toList_iff.mp member)
      · rename_i entries there
        cases found
        intro value member
        obtain ⟨entry, inside, rfl⟩ := List.mem_map.mp member
        exact (shut.objects address _ there entry inside).1
      · rename_i dict there
        have apart : dict ≠ veil.list := shut.objects address _ there
        obtain ⟨entries, there, rfl⟩ := Option.map_eq_some_iff.mp found
        have pairs := clear_entriesOf? shut (clear_object.mpr apart) there
        intro value member
        obtain ⟨entry, inside, rfl⟩ := List.mem_map.mp member
        simp [pairs entry inside]
      · cases found
  | _ => cases found

theorem iterator?_hide (clear : veil.Clear value) : (veil.hide world).iterator? value = world.iterator? value := by
  cases value with
  | object address => simp only [World.iterator?, objects_hide clear]
  | _ => rfl

theorem ne_of_iterator? (clear : veil.Clear value) {iterator : Iterator}
    (found : world.iterator? value = some (address, iterator)) : address ≠ veil.list := by
  cases value with
  | object place =>
      simp only [World.iterator?] at found
      split at found
      · cases found
        exact clear
      · cases found
  | _ => cases found

theorem passageOver?_hide (shut : veil.Sealed world) (clear : veil.Clear value) :
    (veil.hide world).passageOver? value = world.passageOver? value := by
  cases value with
  | object address =>
      simp only [World.passageOver?, objects_hide clear]
      split
      · rfl
      · rfl
      · rename_i dict there
        have apart : dict ≠ veil.list := shut.objects address _ there
        rw [entriesOf?_hide (clear_object.mpr apart)]
      · rfl
  | _ => rfl

theorem clear_passageOver? (shut : veil.Sealed world) (clear : veil.Clear value) {passage : Passage}
    (found : world.passageOver? value = some passage) : veil.ClearPassage passage := by
  cases value with
  | tuple identity items =>
      cases found
      exact clear_tuple.mp clear
  | object address =>
      simp only [World.passageOver?] at found
      split at found
      · cases found
        exact clear
      · cases found
        exact clear
      · rename_i dict there
        obtain ⟨entries, _, rfl⟩ := Option.map_eq_some_iff.mp found
        exact shut.objects address _ there
      · cases found
  | text _ _ _ | range _ _ _ _ =>
      cases found
      trivial
  | _ => cases found

/-- Whether the next step of an iteration does not lead to the list. -/
def ClearRound (veil : Veil) : Round → Prop
  | .gives value rest => veil.Clear value ∧ veil.ClearPassage rest
  | .asks function stop => veil.Clear function ∧ veil.Clear stop
  | .ends | .changed => True

theorem round_hide {passage : Passage} (clear : veil.ClearPassage passage) :
    (veil.hide world).round passage = world.round passage := by
  cases passage with
  | along list position => simp only [World.round, objects_hide clear]
  | keys dict size position | pairs dict size position =>
      simp only [World.round, World.entryRound, entriesOf?_hide (clear_object.mpr clear)]
  | characters ascii left => cases left <;> rfl
  | items left => cases left <;> rfl
  | counting wide next left step => cases left <;> rfl
  | calling function stop => rfl

theorem clear_round (shut : veil.Sealed world) {passage : Passage} (clear : veil.ClearPassage passage) :
    veil.ClearRound (world.round passage) := by
  cases passage with
  | characters ascii left => cases left <;> trivial
  | items left =>
      cases left with
      | nil => trivial
      | cons value left => exact List.forall_mem_cons.mp clear
  | along list position =>
      simp only [World.round]
      split
      · rename_i items there
        split
        · rename_i value found
          exact ⟨shut.objects list _ there value (Array.mem_of_getElem? found), clear⟩
        · trivial
      · trivial
  | keys dict size position | pairs dict size position =>
      simp only [World.round, World.entryRound]
      split
      · trivial
      · split
        · rename_i entry found
          have pair := clear_entries shut (clear_object.mpr clear) entry (List.mem_of_getElem? found)
          exact ⟨by simp [pair], clear⟩
        · trivial
  | counting wide next left step => cases left <;> trivial
  | calling function stop => exact clear

theorem isCallable_hide (clear : veil.Clear value) : (veil.hide world).isCallable value = world.isCallable value := by
  cases value with
  | object address => simp only [World.isCallable, objects_hide clear]
  | _ => rfl

/-! ## Attributes and operations -/

theorem operationsOf_hide (clear : veil.Clear value) :
    (veil.hide world).operationsOf value = world.operationsOf value := by
  cases value with
  | object address => simp only [World.operationsOf, objects_hide clear]
  | _ => rfl

theorem ownSlots_hide (clear : veil.Clear value) : (veil.hide world).ownSlots value = world.ownSlots value := by
  cases value with
  | object address => simp only [World.ownSlots, objects_hide clear]
  | _ => rfl

theorem slotOf?_hide (clear : veil.Clear value) (name : Text) :
    (veil.hide world).slotOf? value name = world.slotOf? value name := by
  simp only [World.slotOf?, ownSlots_hide clear, operationsOf_hide clear, templates_hide]
  cases value with
  | object address => simp only [objects_hide clear, attributeOfClass?_hide]
  | _ => rfl

theorem mem_of_lookup {α : Type} {name : Text} {entries : List (Text × α)} {found : α}
    (there : entries.lookup name = some found) : ∃ entry ∈ entries, entry.2 = found := by
  obtain ⟨before, after, rfl, _⟩ := List.lookup_eq_some_iff.mp there
  exact ⟨(name, found), by simp, rfl⟩

theorem ClearUnder.lookup {name : Text} {entries : List (Text × Value)} (clear : veil.ClearUnder entries)
    (there : entries.lookup name = some value) : veil.Clear value := by
  obtain ⟨entry, inside, rfl⟩ := mem_of_lookup there
  exact clear entry inside

theorem clear_ownSlots (shut : veil.Sealed world) (clear : veil.Clear value) :
    veil.ClearSlots (world.ownSlots value) := by
  have under {entries : List (Text × Value)} (clear : veil.ClearUnder entries) :
      veil.ClearSlots (entries.map fun entry => (entry.1, .value entry.2)) := by
    intro slot member
    obtain ⟨entry, inside, rfl⟩ := List.mem_map.mp member
    exact clear entry inside
  cases value with
  | object address =>
      simp only [World.ownSlots]
      split
      · rename_i attributes there
        exact shut.objects address _ there
      · rename_i html text attributes there
        exact (shut.objects address _ there).2.2
      · rename_i owner attributes there
        exact shut.objects address _ there
      · rename_i function attributes there
        exact under (shut.objects address _ there).2
      · rename_i incident there
        have whole : veil.ClearIncident incident := shut.objects address _ there
        have gathered : veil.Clear (.tuple 0 incident.arguments) := clear_tuple.mpr whole.arguments
        refine List.forall_mem_cons.mpr ⟨gathered, List.forall_mem_append.mpr
          ⟨under whole.attributes, fun slot member => ?_⟩⟩
        obtain ⟨name, _, rfl⟩ := List.mem_map.mp member
        trivial
      · nofun
  | _ => nofun

theorem clear_classAttribute? (shut : veil.Sealed world) {name : Text} {steps owner : Nat}
    (found : world.classAttribute? name steps owner = some value) : veil.Clear value := by
  induction steps generalizing owner with
  | zero => cases found
  | succ steps ih =>
      rw [World.classAttribute?] at found
      split at found
      · cases found
      · rename_i record there
        split at found
        · rename_i shared own
          cases found
          exact (shut.classes owner record there).lookup own
        · obtain ⟨base, _, found⟩ := Option.bind_eq_some_iff.mp found
          exact ih found

theorem clear_ofText (text : Option Text) :
    veil.Clear (match text with
      | some text => .plain text
      | none => .none) := by
  cases text <;> trivial

theorem clear_properties (template : Template) {name : Text} (found : World.propertyOf? template name = some value) :
    veil.Clear value := by
  refine ClearUnder.lookup (fun entry member => ?_) found
  simp only [List.mem_cons, List.not_mem_nil, or_false] at member
  rcases member with rfl | rfl | rfl | rfl | rfl | rfl
  · exact clear_ofText _
  · exact clear_ofText _
  all_goals trivial

theorem clear_slotOf? (shut : veil.Sealed world) (clear : veil.Clear value) {name : Text} {slot : Slot}
    (found : world.slotOf? value name = some slot) : veil.ClearSlot slot := by
  unfold World.slotOf? at found
  split at found
  · rename_i own there
    cases found
    obtain ⟨entry, inside, rfl⟩ := mem_of_lookup there
    exact clear_ownSlots shut clear entry inside
  · split at found
    · cases found
      exact clear
    · cases value with
      | template number =>
          obtain ⟨template, _, found⟩ := Option.bind_eq_some_iff.mp found
          obtain ⟨content, there, rfl⟩ := Option.map_eq_some_iff.mp found
          exact clear_properties template there
      | range identity start stop step =>
          obtain ⟨content, there, rfl⟩ := Option.map_eq_some_iff.mp found
          exact ClearUnder.lookup (by simp [ClearUnder, Value.number, Clear]) there
      | object address =>
          dsimp only at found
          split at found
          · obtain ⟨content, there, rfl⟩ := Option.map_eq_some_iff.mp found
            split
            · exact clear
            · exact clear_classAttribute? shut there
          · cases found
      | _ => cases found

theorem subjectOf_hide (clear : veil.Clear value) : (veil.hide world).subjectOf value = world.subjectOf value := by
  delta World.subjectOf
  cases value with
  | method identity receiver name =>
      dsimp only
      rw [isScripted_hide (clear_method.mp clear)]
  | builtin function => cases function <;> rfl
  | object address =>
      dsimp only
      rw [typeName_hide clear]
  | text identity trusted content => cases trusted <;> rfl
  | _ => rfl

theorem attributeMessage_hide (clear : veil.Clear value) (name : Text) :
    (veil.hide world).attributeMessage value name = world.attributeMessage value name := by
  rw [World.attributeMessage, World.attributeMessage, subjectOf_hide clear]

theorem fixedMessage_hide (clear : veil.Clear value) (name : Text) :
    (veil.hide world).fixedMessage value name = world.fixedMessage value name := by
  delta World.fixedMessage
  rw [typeName_hide clear, slotOf?_hide clear]

theorem repeats_hide (clear : veil.Clear value) : (veil.hide world).repeats value = world.repeats value := by
  delta World.repeats
  cases value with
  | object address =>
      dsimp only
      rw [itemsOf?_hide clear]
  | _ => rfl

theorem holdsOthers_hide (clear : veil.Clear value) :
    (veil.hide world).holdsOthers value = world.holdsOthers value := by
  cases value with
  | object address => simp only [World.holdsOthers, objects_hide clear]
  | _ => rfl

theorem among?_hide (shut : veil.Sealed world) (clear : veil.Clear value) {others : List Value}
    (clear' : ∀ other ∈ others, veil.Clear other) :
    (veil.hide world).among? value others = world.among? value others := by
  induction others with
  | nil => rfl
  | cons other others ih =>
      rw [List.forall_mem_cons] at clear'
      rw [World.among?, World.among?, same?_hide shut clear'.1 clear, ih clear'.2]

/-! ## Errors that gather others -/

theorem sequenceValues?_hide (shut : veil.Sealed world) (clear : veil.Clear value) :
    Effect.sequenceValues? (veil.hide world) value = Effect.sequenceValues? world value := by
  unfold Effect.sequenceValues?
  rw [valuesOf?_hide shut clear, itemsOf?_hide clear]

theorem clear_sequenceValues? (shut : veil.Sealed world) (clear : veil.Clear value) {values : List Value}
    (found : Effect.sequenceValues? world value = some values) : ∀ value ∈ values, veil.Clear value := by
  unfold Effect.sequenceValues? at found
  split at found
  · exact clear_valuesOf? shut clear found
  · exact clear_valuesOf? shut clear found
  · exact clear_valuesOf? shut clear found
  · exact clear_itemsOf? shut clear found

theorem kindsIn_hide (place : Nat) {values : List Value} (clear : ∀ value ∈ values, veil.Clear value) :
    Effect.kindsIn (veil.hide world) place values = Effect.kindsIn world place values := by
  induction values generalizing place with
  | nil => rfl
  | cons value values ih =>
      rw [List.forall_mem_cons] at clear
      cases value with
      | object address => simp only [Effect.kindsIn, incident?_hide (clear_object.mp clear.1), ih _ clear.2]
      | _ => rfl

/-! ## Names -/

theorem globalValue_hide (globals : Nat) (name : Text) :
    (veil.hide world).globalValue globals name = world.globalValue globals name := rfl

theorem clear_globalValue (shut : veil.Sealed world) {globals : Nat} {name : Text}
    (found : world.globalValue globals name = .ok value) : veil.Clear value := by
  unfold World.globalValue at found
  split at found
  · rename_i content there
    cases found
    rcases Option.or_eq_some_iff.mp there with own | ⟨_, built⟩
    · obtain ⟨entries, there, own⟩ := Option.bind_eq_some_iff.mp own
      exact (shut.namespaces globals entries there).lookup own
    · unfold World.builtin? at built
      split at built
      · cases built
        trivial
      · obtain ⟨kind, _, rfl⟩ := Option.map_eq_some_iff.mp built
        trivial
  · cases found

theorem scopes_hide {number : Nat} (apart : number ≠ veil.scope) :
    (veil.hide world).scopes[number]? = world.scopes[number]? := by
  rw [hide, Array.getElem?_modify, if_neg apart.symm]

theorem ownerOf?_hide (shut : veil.Sealed world) (name : Text) (steps : Nat) {number : Nat}
    (apart : number ≠ veil.scope) :
    (veil.hide world).ownerOf? name steps number = world.ownerOf? name steps number := by
  induction steps generalizing number with
  | zero => rfl
  | succ steps ih =>
      rw [World.ownerOf?, World.ownerOf?, scopes_hide apart]
      split
      · rfl
      · rename_i scope there
        split
        · rfl
        · refine Option.bind_congr fun outer same => ih ?_
          rintro rfl
          exact (shut.scopes number scope there).outer same

theorem clear_ownerOf? (shut : veil.Sealed world) {name : Text} {steps number : Nat} (apart : number ≠ veil.scope)
    {owner : Scope} (found : world.ownerOf? name steps number = some owner) : veil.ClearUnder owner.values := by
  induction steps generalizing number with
  | zero => cases found
  | succ steps ih =>
      rw [World.ownerOf?] at found
      split at found
      · cases found
      · rename_i scope there
        have whole := shut.scopes number scope there
        split at found
        · cases found
          exact fun entry member => whole.values entry member fun same => absurd same apart
        · obtain ⟨outer, same, found⟩ := Option.bind_eq_some_iff.mp found
          exact ih (fun here => whole.outer (here ▸ same)) found

theorem valueOf_hide (shut : veil.Sealed world) {here : Activation} {name : Text}
    (free : here.scope = veil.scope → isOwnName name = false) :
    (veil.hide world).valueOf here name = world.valueOf here name := by
  unfold World.valueOf
  have size : (veil.hide world).scopes.size = world.scopes.size := Array.size_modify
  rw [size]
  have chain {scope : Scope} (there : world.scopes[here.scope]? = some scope) :
      scope.outer.bind ((veil.hide world).ownerOf? name world.scopes.size) =
        scope.outer.bind (world.ownerOf? name world.scopes.size) := by
    refine Option.bind_congr fun outer same => ownerOf?_hide shut name _ ?_
    rintro rfl
    exact (shut.scopes _ scope there).outer same
  by_cases own : here.scope = veil.scope
  · have inside : (veil.hide world).scopes[here.scope]? = (world.scopes[here.scope]?).map bare := by
      rw [hide, Array.getElem?_modify, if_pos own.symm]
    rw [inside]
    cases there : world.scopes[here.scope]? with
    | none => rfl
    | some scope =>
        have names : (bare scope).names.contains name = scope.names.contains name := by simp [bare, free own]
        have values : (bare scope).values.lookup name = scope.values.lookup name := 
          @lookup_filter _ (fun name => !isOwnName name) name (by simp [free own]) _
        have outer : (bare scope).outer = scope.outer := rfl
        dsimp only [Option.map_some, Option.bind_some]
        rw [Option.filter_some, Option.filter_some, names, outer, chain there]
        cases scope.names.contains name with
        | true => simp only [if_true, values]
        | false => rfl
  · rw [scopes_hide own]
    cases there : world.scopes[here.scope]? with
    | none => rfl
    | some scope => simp only [Option.bind_some, chain there, globalValue_hide]

theorem clear_valueOf (shut : veil.Sealed world) {here : Activation} {name : Text}
    (free : here.scope = veil.scope → isOwnName name = false) (found : world.valueOf here name = .ok value) :
    veil.Clear value := by
  unfold World.valueOf at found
  dsimp only at found
  split at found
  · rename_i scope own
    obtain ⟨there, _⟩ := Option.filter_eq_some_iff.mp own
    have whole := shut.scopes _ scope there
    split at found
    · rename_i content bound
      cases found
      obtain ⟨before, after, same, _⟩ := List.lookup_eq_some_iff.mp bound
      exact whole.values (name, value) (by simp [same]) free
    · cases found
  · split at found
    · rename_i owner outer
      obtain ⟨number, same, outer⟩ := Option.bind_eq_some_iff.mp outer
      obtain ⟨scope, there, same⟩ := Option.bind_eq_some_iff.mp same
      split at found
      · rename_i content bound
        cases found
        refine (clear_ownerOf? shut ?_ outer).lookup bound
        rintro rfl
        exact (shut.scopes _ scope there).outer same
      · cases found
    · exact clear_globalValue shut found

end Veil
end Stencil
