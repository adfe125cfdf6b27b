import Stencil.Proofs.Twins

/-!
# What is read in two worlds that are alike

Whatever is found out about a value in one world is found out about the value that belongs to it in the other one:
what it holds, what it equals, how it is ordered and shown, how one goes through it, which attributes it has, and what
a name stands for.
-/

namespace Stencil

open Effect Script Manners

namespace Manners

theorem SameEntries.slots {manners : Manners} {bond : Bond} {entries entries' : List (Text × Value)} (each : manners.SameEntries bond entries entries') :
    manners.SameSlots bond (entries.map fun entry => (entry.1, .value entry.2))
      (entries'.map fun entry => (entry.1, .value entry.2)) := by
  rw [SameSlots, Alike, List.forall₂_map_left_iff, List.forall₂_map_right_iff]
  exact each.imp fun _ _ both => ⟨both.1, .value both.2⟩

end Manners

namespace Terms

variable {terms : Terms} {bond : Bond} {world world' : World} {value value' left left' right right' : Value}

/-! ## Classes and types -/

/-- How the answers of two questions that can fail belong together. -/
inductive Settled {ε α : Type} (fault : ε → ε → Prop) (fine : α → α → Prop) : Except ε α → Except ε α → Prop where
  | ok {value value' : α} (same : fine value value') : Settled fault fine (.ok value) (.ok value')
  | error {error error' : ε} (same : fault error error') : Settled fault fine (.error error) (.error error')

theorem classAttribute?_same (matched : terms.Matched bond world world') {name : Text} (seen : ¬ terms.unread name)
    (steps owner : Nat) :
    Option.Rel (terms.SameShared bond) (world.classAttribute? name steps owner) (world'.classAttribute? name steps owner) := by
  induction steps generalizing owner with
  | zero => exact .none
  | succ steps ih =>
      have alike := matched.classes owner
      unfold World.classAttribute?
      generalize world.classes[owner]? = found, world'.classes[owner]? = found' at alike ⊢
      cases alike with
      | none => exact .none
      | @some record record' same =>
          have own := same.attributes name seen
          dsimp only
          rw [same.base]
          generalize record.attributes.lookup name = given, record'.attributes.lookup name = given' at own ⊢
          cases own with
          | some shared => exact .some shared
          | none =>
              cases record.base with
              | none => exact .none
              | some base => exact ih base

theorem attributeOfClass?_same (matched : terms.Matched bond world world') {name : Text} (seen : ¬ terms.unread name)
    (owner : Nat) :
    Option.Rel (terms.SameShared bond) (world.attributeOfClass? owner name) (world'.attributeOfClass? owner name) := by
  rw [World.attributeOfClass?, World.attributeOfClass?, matched.size]
  exact classAttribute?_same matched seen _ owner

theorem isScripted_same (matched : terms.Matched bond world world') (same : terms.Same bond value value') (name : Text) :
    world'.isScripted value' name = world.isScripted value name := by
  cases same with
  | object pair =>
      obtain ⟨object, object', there, there', alike⟩ := matched.objects pair
      simp only [World.isScripted, there, there']
      cases alike <;> rfl
  | _ => rfl

theorem passageName_same {passage passage' : Passage} (same : terms.SamePassage bond passage passage') :
    World.passageName passage' = World.passageName passage := by
  cases same <;> rfl

theorem typeName_same (matched : terms.Matched bond world world') (same : terms.Same bond value value') :
    world'.typeName value' = world.typeName value := by
  delta World.typeName
  cases same with
  | text _ trusted _ => cases trusted <;> rfl
  | builtin function => cases function <;> rfl
  | method _ same _ =>
      dsimp only
      rw [isScripted_same matched same]
  | object pair =>
      obtain ⟨object, object', there, there', alike⟩ := matched.objects pair
      dsimp only
      rw [there, there']
      cases alike with
      | guest trusted => cases trusted <;> rfl
      | member owner =>
          have alike := matched.classes owner
          dsimp only
          generalize world.classes[owner]? = found, world'.classes[owner]? = found' at alike ⊢
          cases alike with
          | none => rfl
          | some same => exact same.name
      | iterator same => exact passageName_same same
      | error same => exact congrArg ErrorKind.toText same.kind
      | _ => rfl
  | _ => rfl

theorem errorKind_same (matched : terms.Matched bond world world') {error error' : Nat} (pair : bond.objects error error') :
    world'.errorKind error' = world.errorKind error := by
  have alike := incident?_same matched pair
  rw [World.errorKind, World.errorKind]
  generalize world.incident? error = found, world'.incident? error' = found' at alike ⊢
  cases alike with
  | none => rfl
  | some same => exact same.kind

/-! ## What containers hold -/

theorem itemsOf?_same (matched : terms.Matched bond world world') (same : terms.Same bond value value') :
    Option.Rel (terms.Sames bond) (world.itemsOf? value) (world'.itemsOf? value') := by
  cases same with
  | tuple _ each => exact .some (allSame_iff.mp each)
  | object pair =>
      obtain ⟨object, object', there, there', alike⟩ := matched.objects pair
      simp only [World.itemsOf?, there, there']
      cases alike with
      | list each => exact .some each
      | _ => exact .none
  | _ => exact .none

theorem listAt?_same (matched : terms.Matched bond world world') (same : terms.Same bond value value') :
    Option.Rel (fun items items' => terms.Sames bond items.toList items'.toList) (world.listAt? value)
      (world'.listAt? value') := by
  cases same with
  | object pair =>
      obtain ⟨object, object', there, there', alike⟩ := matched.objects pair
      simp only [World.listAt?, there, there']
      cases alike with
      | list each => exact .some each
      | _ => exact .none
  | _ => exact .none

theorem entriesOf?_same (matched : terms.Matched bond world world') (same : terms.Same bond value value') :
    Option.Rel (terms.SamePairs bond) (world.entriesOf? value) (world'.entriesOf? value') := by
  cases same with
  | object pair =>
      obtain ⟨object, object', there, there', alike⟩ := matched.objects pair
      simp only [World.entriesOf?, there, there']
      cases alike with
      | dict each => exact .some each
      | _ => exact .none
  | _ => exact .none

theorem viewedEntries?_same (matched : terms.Matched bond world world') (same : terms.Same bond value value') :
    Option.Rel (terms.SamePairs bond) (world.viewedEntries? value) (world'.viewedEntries? value') := by
  cases same with
  | object pair =>
      obtain ⟨object, object', there, there', alike⟩ := matched.objects pair
      simp only [World.viewedEntries?, there, there']
      cases alike with
      | entries pair => exact entriesOf?_same matched (.object pair)
      | _ => exact .none
  | _ => exact .none

/-! ## Comparing -/

theorem beq_same {pairs : Nat → Nat → Prop} (unique : OneToOne pairs) {a a' b b' : Nat} (pair : pairs a a')
    (other : pairs b b') : (a' == b') = (a == b) := by
  rw [Bool.eq_iff_iff, beq_iff_eq, beq_iff_eq, unique pair other]

mutual

theorem identical_same : ∀ {left left' right right' : Value}, terms.Same bond left left' → terms.Same bond right right' →
    left'.identical right' = left.identical right
  | _, _, _, _, .int kept _, same' => by
      cases same' with
      | int kept' => simp only [Value.identical, beq_same bond.identities_unique kept kept']
      | _ => rfl
  | _, _, _, _, .text kept _ _, same' => by
      cases same' with
      | text kept' => simp only [Value.identical, beq_same bond.identities_unique kept kept']
      | _ => rfl
  | _, _, _, _, .range kept _ _ _, same' => by
      cases same' with
      | range kept' => simp only [Value.identical, beq_same bond.identities_unique kept kept']
      | _ => rfl
  | _, _, _, _, .tuple kept each, same' => by
      cases same' with
      | tuple kept' each' =>
          simp only [Value.identical, beq_same bond.identities_unique kept kept', bne,
            beq_same bond.identities_unique kept bond.shared, identicalLists_same each each']
      | _ => rfl
  | _, _, _, _, .object pair, same' => by
      cases same' with
      | object pair' => simp only [Value.identical, beq_same bond.objects_unique pair pair']
      | _ => rfl
  | _, _, _, _, .method kept _ _, same' => by
      cases same' with
      | method kept' => simp only [Value.identical, beq_same bond.identities_unique kept kept']
      | _ => rfl
  | _, _, _, _, .template pair, same' => by
      cases same' with
      | template pair' => simp only [Value.identical, beq_same bond.templates_unique pair pair']
      | _ => rfl
  | _, _, _, _, .none, same' => by cases same' <;> rfl
  | _, _, _, _, .bool _, same' => by cases same' <;> rfl
  | _, _, _, _, .builtin _, same' => by cases same' <;> rfl
  | _, _, _, _, .kind _, same' => by cases same' <;> rfl

theorem identicalLists_same : ∀ {lefts lefts' rights rights' : List Value}, terms.AllSame bond lefts lefts' →
    terms.AllSame bond rights rights' → Value.identicalLists lefts' rights' = Value.identicalLists lefts rights
  | _, _, _, _, .nil, .nil => rfl
  | _, _, _, _, .nil, .cons _ _ => rfl
  | _, _, _, _, .cons _ _, .nil => rfl
  | _, _, _, _, .cons same each, .cons same' each' => by
      simp only [Value.identicalLists, identical_same same same', identicalLists_same each each']

end

theorem toInt?_same (same : terms.Same bond value value') : value'.toInt? = value.toInt? := by
  cases same <;> rfl

/-- Whether two comparisons give the same answer for values that are the same. -/
def Agree (terms : Terms) (bond : Bond) (equal equal' : Value → Value → Option Bool) : Prop :=
  ∀ {left left' right right' : Value}, terms.Same bond left left' → terms.Same bond right right' →
    equal' left' right' = equal left right

section Comparisons

variable {equal equal' : Value → Value → Option Bool}

theorem pairwise_same (agree : terms.Agree bond equal equal') {lefts lefts' rights rights' : List Value}
    (each : terms.Sames bond lefts lefts') (each' : terms.Sames bond rights rights') :
    Value.pairwise equal' lefts' rights' = Value.pairwise equal lefts rights := by
  induction each generalizing rights rights' with
  | nil => cases each' <;> rfl
  | cons same _ ih =>
      cases each' with
      | nil => rfl
      | cons same' each' => simp only [Value.pairwise, agree same same', ih each']

theorem underKey_same (agree : terms.Agree bond equal equal') {key key' : Value} (same : terms.Same bond key key')
    {entries entries' : List (Value × Value)} (each : terms.SamePairs bond entries entries') :
    Option.Rel (Option.Rel (terms.Same bond)) (Value.underKey equal key entries) (Value.underKey equal' key' entries') := by
  induction each with
  | nil => exact .some .none
  | @cons entry entry' _ _ both _ ih =>
      rw [Value.underKey, Value.underKey, agree both.1 same]
      cases equal entry.1 key with
      | none => exact .none
      | some answer =>
          cases answer with
          | true => exact .some (.some both.2)
          | false => exact ih

theorem included_same (agree : terms.Agree bond equal equal') {others others' entries entries' : List (Value × Value)}
    (each : terms.SamePairs bond others others') (each' : terms.SamePairs bond entries entries') :
    Value.included equal' others' entries' = Value.included equal others entries := by
  induction each' with
  | nil => rfl
  | @cons entry entry' _ _ both _ ih =>
      have found := underKey_same agree both.1 each
      rw [Value.included, Value.included]
      generalize Value.underKey equal entry.1 others = under, Value.underKey equal' entry'.1 others' = under' at found ⊢
      cases found with
      | none => rfl
      | some found =>
          cases found with
          | none => rfl
          | some same => simp only [Option.bind_eq_bind, Option.bind_some, agree same both.2, ih]

end Comparisons

theorem equals?_same (matched : terms.Matched bond world world') (steps : Nat) :
    terms.Agree bond (world.equals? steps) (world'.equals? steps) := by
  induction steps with
  | zero => exact fun _ _ => rfl
  | succ steps ih =>
      intro left left' right right' same same'
      have pairs {others others' entries entries' : List (Value × Value)} (each : terms.SamePairs bond others others')
          (each' : terms.SamePairs bond entries entries') :
          (if others'.length = entries'.length then Value.included (world'.equals? steps) entries' others' else some false) =
            if others.length = entries.length then Value.included (world.equals? steps) entries others else some false := by
        rw [each.length_eq, each'.length_eq, included_same ih each' each]
      have lists {items items' others others' : List Value} (each : terms.Sames bond items items')
          (each' : terms.Sames bond others others') :
          (if items'.length = others'.length then Value.pairwise (world'.equals? steps) items' others' else some false) =
            if items.length = others.length then Value.pairwise (world.equals? steps) items others else some false := by
        rw [each.length_eq, each'.length_eq, pairwise_same ih each each']
      unfold World.equals?
      rw [identical_same same same', toInt?_same same, toInt?_same same']
      split
      · rfl
      · split
        · rfl
        · cases same with
          | object pair =>
              cases same' with
              | object pair' =>
                  have first := itemsOf?_same matched (.object pair)
                  have second := itemsOf?_same matched (.object pair')
                  have dict := entriesOf?_same matched (.object pair)
                  have dict' := entriesOf?_same matched (.object pair')
                  have view := viewedEntries?_same matched (.object pair)
                  have view' := viewedEntries?_same matched (.object pair')
                  revert first second dict dict' view view'
                  dsimp only
                  generalize world.itemsOf? _ = a, world'.itemsOf? _ = a', world.itemsOf? _ = b, world'.itemsOf? _ = b',
                    world.entriesOf? _ = c, world'.entriesOf? _ = c', world.entriesOf? _ = d, world'.entriesOf? _ = d',
                    world.viewedEntries? _ = e, world'.viewedEntries? _ = e', world.viewedEntries? _ = f,
                    world'.viewedEntries? _ = f'
                  intro first second dict dict' view view'
                  cases first <;> cases second <;> cases dict <;> cases dict' <;> cases view <;> cases view' <;>
                    first | rfl | exact lists ‹_› ‹_› | exact pairs ‹_› ‹_›
              | _ => rfl
          | text _ _ _ => cases same' <;> rfl
          | tuple _ each =>
              cases same' with
              | tuple _ each' => exact pairwise_same ih (allSame_iff.mp each) (allSame_iff.mp each')
              | _ => rfl
          | method _ same _ =>
              cases same' with
              | method _ same' _ => simp only [identical_same same same']
              | _ => rfl
          | _ => cases same' <;> rfl

theorem same?_same (matched : terms.Matched bond world world') : terms.Agree bond world.same? world'.same? :=
  equals?_same matched _

/-! ## Ordering -/

/-- Whether two reasons why there is no order are the same. -/
inductive SameFault (terms : Terms) (bond : Bond) : OrderFault → OrderFault → Prop where
  | unordered {left left' right right' : Value} (same : terms.Same bond left left') (same' : terms.Same bond right right') :
    SameFault terms bond (.unordered left right) (.unordered left' right')
  | tooDeep : SameFault terms bond .tooDeep .tooDeep

theorem firstDifference?_same (matched : terms.Matched bond world world') {lefts lefts' rights rights' : List Value}
    (each : terms.Sames bond lefts lefts') (each' : terms.Sames bond rights rights') :
    Settled (terms.SameFault bond)
      (Option.Rel fun pair pair' => terms.Same bond pair.1 pair'.1 ∧ terms.Same bond pair.2 pair'.2)
      (world.firstDifference? lefts rights) (world'.firstDifference? lefts' rights') := by
  induction each generalizing rights rights' with
  | nil => cases each' <;> exact .ok .none
  | @cons left left' _ _ same _ ih =>
      cases each' with
      | nil => exact .ok .none
      | @cons right right' _ _ same' each' =>
          rw [World.firstDifference?, World.firstDifference?, same?_same matched same same']
          cases world.same? left right with
          | none => exact .error .tooDeep
          | some answer =>
              cases answer with
              | true => exact ih each'
              | false => exact .ok (.some ⟨same, same'⟩)

theorem orderedEntries_same (matched : terms.Matched bond world world') (comparison : Comparison)
    {lefts lefts' rights rights' : List (Value × Value)} (each : terms.SamePairs bond lefts lefts')
    (each' : terms.SamePairs bond rights rights') :
    Settled (terms.SameFault bond) Eq (world.orderedEntries comparison lefts rights)
      (world'.orderedEntries comparison lefts' rights') := by
  simp only [World.orderedEntries, each.length_eq, each'.length_eq, included_same (same?_same matched) each each',
    included_same (same?_same matched) each' each]
  split
  · exact .ok rfl
  · exact .error .tooDeep

/-- Lists are ordered by the first values in which they differ, or by their lengths. -/
theorem orderedLists_same (matched : terms.Matched bond world world') (comparison : Comparison)
    {items items' others others' : List Value} (each : terms.Sames bond items items')
    (each' : terms.Sames bond others others') {order order' : Value → Value → Except OrderFault Bool}
    (orders : ∀ left left' right right', terms.Same bond left left' → terms.Same bond right right' →
      Settled (terms.SameFault bond) Eq (order left right) (order' left' right')) :
    Settled (terms.SameFault bond) Eq
      (do
        match ← world.firstDifference? items others with
        | some (left, right) => order left right
        | none => return comparison.holds (compare items.length others.length))
      (do
        match ← world'.firstDifference? items' others' with
        | some (left, right) => order' left right
        | none => return comparison.holds (compare items'.length others'.length)) := by
  have difference := firstDifference?_same matched each each'
  rw [each.length_eq, each'.length_eq]
  generalize world.firstDifference? items others = found, world'.firstDifference? items' others' = found' at difference ⊢
  cases difference with
  | error fault => exact .error fault
  | ok difference =>
      cases difference with
      | none => exact .ok rfl
      | some both => exact orders _ _ _ _ both.1 both.2

theorem ordered_same (matched : terms.Matched bond world world') (comparison : Comparison) (steps : Nat)
    (same : terms.Same bond left left') (same' : terms.Same bond right right') :
    Settled (terms.SameFault bond) Eq (world.ordered comparison steps left right)
      (world'.ordered comparison steps left' right') := by
  induction steps generalizing left left' right right' with
  | zero => exact .error .tooDeep
  | succ steps ih =>
      have lists {items items' others others' : List Value} (each : terms.Sames bond items items')
          (each' : terms.Sames bond others others') := orderedLists_same matched comparison each each' fun _ _ _ _ => ih
      unfold World.ordered
      rw [toInt?_same same, toInt?_same same']
      split
      · exact .ok rfl
      · cases same with
        | object pair =>
            cases same' with
            | object pair' =>
                have first := itemsOf?_same matched (.object pair)
                have second := itemsOf?_same matched (.object pair')
                have view := viewedEntries?_same matched (.object pair)
                have view' := viewedEntries?_same matched (.object pair')
                revert first second view view'
                dsimp only
                generalize world.itemsOf? _ = a, world'.itemsOf? _ = a', world.itemsOf? _ = b, world'.itemsOf? _ = b',
                  world.viewedEntries? _ = c, world'.viewedEntries? _ = c', world.viewedEntries? _ = d,
                  world'.viewedEntries? _ = d'
                intro first second view view'
                cases first <;> cases second <;> cases view <;> cases view' <;>
                  first
                  | exact .error (.unordered (.object pair) (.object pair'))
                  | exact lists ‹_› ‹_›
                  | exact orderedEntries_same matched comparison ‹_› ‹_›
            | int kept value => exact .error (.unordered (.object pair) (.int kept value))
            | _ => exact .error (.unordered (.object pair) (by constructor <;> assumption))
        | text kept trusted content =>
            cases same' with
            | text => exact .ok rfl
            | _ => exact .error (.unordered (.text kept trusted content) (by constructor <;> assumption))
        | tuple kept each =>
            cases same' with
            | tuple _ each' => exact lists (allSame_iff.mp each) (allSame_iff.mp each')
            | _ => exact .error (.unordered (.tuple kept each) (by constructor <;> assumption))
        | _ =>
            cases same' <;> exact .error (.unordered (by constructor <;> assumption) (by constructor <;> assumption))

/-! ## Truth and keys -/

theorem sames_isEmpty {values values' : List Value} (each : terms.Sames bond values values') :
    values'.isEmpty = values.isEmpty := by
  cases each <;> rfl

theorem samePairs_isEmpty {entries entries' : List (Value × Value)} (each : terms.SamePairs bond entries entries') :
    entries'.isEmpty = entries.isEmpty := by
  cases each <;> rfl

theorem truth_same (matched : terms.Matched bond world world') (same : terms.Same bond value value') :
    world'.truth value' = world.truth value := by
  cases same with
  | tuple _ each => exact congrArg not (sames_isEmpty (allSame_iff.mp each))
  | object pair =>
      obtain ⟨object, object', there, there', alike⟩ := matched.objects pair
      simp only [World.truth, there, there']
      cases alike with
      | list each => simpa using congrArg not (sames_isEmpty each)
      | dict each => exact congrArg not (samePairs_isEmpty each)
      | @entries dict dict' pair =>
          have inside := entriesOf?_same matched (.object pair)
          dsimp only
          generalize world.entriesOf? (.object dict) = found, world'.entriesOf? (.object dict') = found' at inside ⊢
          cases inside with
          | none => rfl
          | some each => exact congrArg not (samePairs_isEmpty each)
      | _ => rfl
  | _ => rfl

theorem unhashable?_same (matched : terms.Matched bond world world') (steps : Nat) :
    ∀ {value value' : Value}, terms.Same bond value value' →
      world'.unhashable? steps value' = world.unhashable? steps value := by
  induction steps with
  | zero => exact fun _ => rfl
  | succ steps ih =>
      intro value value' same
      cases same with
      | tuple _ each =>
          have rest := allSame_iff.mp each
          clear each
          rw [World.unhashable?, World.unhashable?]
          induction rest with
          | nil => rfl
          | cons same _ ih' => rw [List.findSome?_cons, List.findSome?_cons, ih same, ih']
      | object pair =>
          obtain ⟨object, object', there, there', alike⟩ := matched.objects pair
          simp only [World.unhashable?, there, there']
          cases alike <;> rfl
      | _ => rfl

theorem putKey?_same (matched : terms.Matched bond world world') {key key' content content' : Value}
    (same : terms.Same bond key key') (held : terms.Same bond content content') {entries entries' : List (Value × Value)}
    (each : terms.SamePairs bond entries entries') :
    Option.Rel (terms.SamePairs bond) (world.putKey? key content entries) (world'.putKey? key' content' entries') := by
  induction each with
  | nil => exact .some (.cons ⟨same, held⟩ .nil)
  | @cons entry entry' entries entries' both each ih =>
      rw [World.putKey?, World.putKey?, same?_same matched both.1 same]
      cases world.same? entry.1 key with
      | none => exact .none
      | some answer =>
          cases answer with
          | true => exact .some (.cons ⟨both.1, held⟩ each)
          | false =>
              simp only [Option.bind_eq_bind, Option.bind_some, Bool.false_eq_true, if_false]
              generalize world.putKey? key content entries = found, world'.putKey? key' content' entries' = found' at ih ⊢
              cases ih with
              | none => exact .none
              | some each => exact .some (.cons both each)

/-! ## Showing -/

theorem bareForm_same (matched : terms.Matched bond world world') (same : terms.Same bond value value') :
    world'.bareForm value' = world.bareForm value := by
  have type := typeName_same matched same
  delta World.bareForm
  cases same with
  | @object address address' pair =>
      obtain ⟨object, object', there, there', alike⟩ := matched.objects pair
      dsimp only
      rw [there, there', type]
      cases alike with
      | member owner =>
          have alike := matched.classes owner
          dsimp only
          generalize world.classes[owner]? = found, world'.classes[owner]? = found' at alike ⊢
          cases alike with
          | none => rfl
          | some same =>
              dsimp only
              rw [same.module, same.qualifiedName]
      | function same =>
          dsimp only
          rw [same.name]
      | _ => rfl
  | _ =>
      dsimp only
      rw [type]

theorem mapM_same {ε α β γ : Type} {R : α → β → Prop} {f : α → Except ε γ} {f' : β → Except ε γ}
    (agree : ∀ value value', R value value' → f' value' = f value) {values : List α} {values' : List β}
    (each : List.Forall₂ R values values') : values'.mapM f' = values.mapM f := by
  induction each with
  | nil => rfl
  | cons same _ ih => rw [List.mapM_cons, List.mapM_cons, agree _ _ same, ih]

theorem contains_same {pairs : Nat → Nat → Prop} (unique : OneToOne pairs) {places places' : List Nat}
    (each : List.Forall₂ pairs places places') {place place' : Nat} (pair : pairs place place') :
    places'.contains place' = places.contains place := by
  induction each with
  | nil => rfl
  | cons first _ ih => rw [List.contains_cons, List.contains_cons, beq_same unique pair first, ih]

theorem sameEntries_tuples {entries entries' : List (Value × Value)} (each : terms.SamePairs bond entries entries') :
    terms.Sames bond (entries.map fun entry => .tuple 0 [entry.1, entry.2])
      (entries'.map fun entry => .tuple 0 [entry.1, entry.2]) := by
  rw [Sames, List.forall₂_map_left_iff, List.forall₂_map_right_iff]
  exact each.imp fun _ _ both => .tuples bond.shared (.cons both.1 (.cons both.2 .nil))

theorem shownWithin_same (matched : terms.Matched bond world world') (steps : Nat) :
    ∀ {inside inside' : List Nat} {value value' : Value}, List.Forall₂ bond.objects inside inside' →
      terms.Same bond value value' → world'.shownWithin steps inside' value' = world.shownWithin steps inside value := by
  induction steps with
  | zero => exact fun _ _ => rfl
  | succ steps ih =>
      intro inside inside' value value' around same
      have all {inside inside' : List Nat} (around : List.Forall₂ bond.objects inside inside') {items items' : List Value}
          (each : terms.Sames bond items items') :
          items'.mapM (world'.shownWithin steps inside') = items.mapM (world.shownWithin steps inside) :=
        mapM_same (fun _ _ same => ih around same) each
      have bare := bareForm_same matched same
      unfold World.shownWithin
      cases same with
      | bool value => cases value <;> rfl
      | text _ trusted _ => cases trusted <;> rfl
      | builtin function => cases function <;> rfl
      | tuple _ each =>
          cases each with
          | nil => rfl
          | cons same each =>
              cases each with
              | nil =>
                  dsimp only
                  rw [ih around same]
              | cons same' each =>
                  dsimp only
                  rw [all around (.cons same (.cons same' (allSame_iff.mp each)))]
      | template pair =>
          obtain ⟨template, template', there, there', alike⟩ := matched.programs (bond.programs_of_templates pair)
          have shown : template'.shown = template.shown := by
            delta Template.shown
            rw [alike.source]
          dsimp only
          rw [there, there']
          exact congrArg _ shown
      | method => exact congrArg _ bare
      | @object address address' pair =>
          obtain ⟨object, object', there, there', alike⟩ := matched.objects pair
          have within := contains_same bond.objects_unique around pair
          have deeper : List.Forall₂ bond.objects (address :: inside) (address' :: inside') := .cons pair around
          dsimp only
          rw [there, there']
          cases alike with
          | list each =>
              dsimp only
              rw [within, all deeper each]
          | dict each =>
              dsimp only
              rw [within, mapM_same (fun entry entry' both => ?_) each]
              rw [ih deeper both.1, ih deeper both.2]
          | @entries dict dict' pair =>
              have inside := entriesOf?_same matched (.object pair)
              dsimp only
              generalize world.entriesOf? (.object dict) = found, world'.entriesOf? (.object dict') = found' at inside ⊢
              rw [within]
              cases inside with
              | none => rfl
              | some each =>
                  dsimp only [Option.getD_some]
                  rw [all deeper (sameEntries_tuples each)]
          | context => rfl
          | error same =>
              dsimp only
              rw [same.kind, all around same.arguments]
          | _ =>
              dsimp only
              rw [bare]
      | _ => rfl

/-! ## Going through values -/

theorem sames_refl_of {values : List Value} (each : ∀ value ∈ values, terms.Same bond value value) :
    terms.Sames bond values values :=
  List.forall₂_same.mpr each

theorem valuesOf?_same (matched : terms.Matched bond world world') (same : terms.Same bond value value') :
    Option.Rel (terms.Sames bond) (world.valuesOf? value) (world'.valuesOf? value') := by
  cases same with
  | text _ _ content =>
      refine .some (sames_refl_of fun value member => ?_)
      obtain ⟨char, _, rfl⟩ := List.mem_map.mp member
      exact .plain [char]
  | tuple _ each => exact .some (allSame_iff.mp each)
  | range _ start stop step =>
      refine .some (sames_refl_of fun value member => ?_)
      obtain ⟨index, _, rfl⟩ := List.mem_map.mp member
      exact .number _
  | object pair =>
      obtain ⟨object, object', there, there', alike⟩ := matched.objects pair
      simp only [World.valuesOf?, there, there']
      cases alike with
      | list each => exact .some each
      | dict each =>
          refine .some ?_
          rw [Sames, List.forall₂_map_left_iff, List.forall₂_map_right_iff]
          exact each.imp fun _ _ both => both.1
      | @entries dict dict' pair =>
          have inside := entriesOf?_same matched (.object pair)
          dsimp only
          generalize world.entriesOf? (.object dict) = found, world'.entriesOf? (.object dict') = found' at inside ⊢
          cases inside with
          | none => exact .none
          | some each => exact .some (sameEntries_tuples each)
      | _ => exact .none
  | _ => exact .none

theorem iterator?_same (matched : terms.Matched bond world world') (same : terms.Same bond value value') :
    Option.Rel (fun found found' => bond.objects found.1 found'.1) (world.iterator? value) (world'.iterator? value') := by
  cases same with
  | object pair =>
      obtain ⟨object, object', there, there', alike⟩ := matched.objects pair
      simp only [World.iterator?, there, there']
      cases alike with
      | iterator => exact .some pair
      | _ => exact .none
  | _ => exact .none

theorem passageOver?_same (matched : terms.Matched bond world world') (same : terms.Same bond value value') :
    Option.Rel (terms.SamePassage bond) (world.passageOver? value) (world'.passageOver? value') := by
  cases same with
  | text _ trusted content => exact .some (.characters _ content)
  | tuple _ each => exact .some (.items (allSame_iff.mp each))
  | range _ start stop step => exact .some (.counting _ start _ step)
  | object pair =>
      obtain ⟨object, object', there, there', alike⟩ := matched.objects pair
      simp only [World.passageOver?, there, there']
      cases alike with
      | list each => exact .some (.along pair 0)
      | dict each => exact .some (each.length_eq ▸ .keys pair _ 0)
      | @entries dict dict' pair =>
          have inside := entriesOf?_same matched (.object pair)
          dsimp only
          generalize world.entriesOf? (.object dict) = found, world'.entriesOf? (.object dict') = found' at inside ⊢
          cases inside with
          | none => exact .none
          | some each =>
              dsimp only [Option.map_some]
              rw [each.length_eq]
              exact .some (.pairs pair _ 0)
      | _ => exact .none
  | _ => exact .none

/-- Whether two steps of iterations belong together. -/
inductive SameRound (terms : Terms) (bond : Bond) : Round → Round → Prop where
  | gives {value value' : Value} {rest rest' : Passage} (same : terms.Same bond value value')
    (more : terms.SamePassage bond rest rest') : SameRound terms bond (.gives value rest) (.gives value' rest')
  | ends : SameRound terms bond .ends .ends
  | changed : SameRound terms bond .changed .changed
  | asks {function function' stop stop' : Value} (same : terms.Same bond function function')
    (last : terms.Same bond stop stop') : SameRound terms bond (.asks function stop) (.asks function' stop')

theorem getElem?_same {α β : Type} {R : α → β → Prop} {values : List α} {values' : List β}
    (each : List.Forall₂ R values values') (place : Nat) : Option.Rel R (values[place]?) (values'[place]?) := by
  induction each generalizing place with
  | nil => exact .none
  | cons same _ ih =>
      cases place with
      | zero => exact .some same
      | succ place => exact ih place

theorem entryRound_same (matched : terms.Matched bond world world') {dict dict' : Nat} (pair : bond.objects dict dict')
    (size position : Nat) {give give' : Value × Value → Round} (each : ∀ entry entry', terms.Same bond entry.1 entry'.1 →
      terms.Same bond entry.2 entry'.2 → terms.SameRound bond (give entry) (give' entry')) :
    terms.SameRound bond (world.entryRound dict size position give) (world'.entryRound dict' size position give') := by
  have entries : terms.SamePairs bond ((world.entriesOf? (.object dict)).getD [])
      ((world'.entriesOf? (.object dict')).getD []) := by
    have inside := entriesOf?_same matched (.object pair)
    generalize world.entriesOf? (.object dict) = found, world'.entriesOf? (.object dict') = found' at inside ⊢
    cases inside with
    | none => exact .nil
    | some each => exact each
  unfold World.entryRound
  generalize (world.entriesOf? (.object dict)).getD [] = found, (world'.entriesOf? (.object dict')).getD [] = found'
    at entries ⊢
  have next := getElem?_same entries position
  dsimp only
  rw [entries.length_eq]
  split
  · exact .changed
  · generalize found[position]? = entry, found'[position]? = entry' at next ⊢
    cases next with
    | none => exact .ends
    | some both => exact each _ _ both.1 both.2

theorem round_same (matched : terms.Matched bond world world') {passage passage' : Passage}
    (same : terms.SamePassage bond passage passage') : terms.SameRound bond (world.round passage) (world'.round passage') := by
  cases same with
  | characters ascii left =>
      cases left with
      | nil => exact .ends
      | cons char left => exact .gives (.plain [char]) (.characters ascii left)
  | items each =>
      cases each with
      | nil => exact .ends
      | cons same each => exact .gives same (.items each)
  | along pair position =>
      obtain ⟨object, object', there, there', alike⟩ := matched.objects pair
      simp only [World.round, there, there']
      cases alike with
      | @list items items' each =>
          have next := getElem?_same each position
          rw [Array.getElem?_toList, Array.getElem?_toList] at next
          dsimp only
          generalize items[position]? = item, items'[position]? = item' at next ⊢
          cases next with
          | none => exact .ends
          | some same => exact .gives same (.along pair (position + 1))
      | _ => exact .ends
  | keys pair size position =>
      exact entryRound_same matched pair size position fun _ _ same _ => .gives same (.keys pair size (position + 1))
  | pairs pair size position =>
      exact entryRound_same matched pair size position fun _ _ same same' =>
        .gives (.tuples bond.shared (.cons same (.cons same' .nil))) (.pairs pair size (position + 1))
  | counting wide next left step =>
      cases left with
      | zero => exact .ends
      | succ left => exact .gives (.number next) (.counting wide (next + step) left step)
  | calling same last => exact .asks same last

theorem isCallable_same (matched : terms.Matched bond world world') (same : terms.Same bond value value') :
    world'.isCallable value' = world.isCallable value := by
  cases same with
  | object pair =>
      obtain ⟨object, object', there, there', alike⟩ := matched.objects pair
      simp only [World.isCallable, there, there']
      cases alike <;> rfl
  | _ => rfl

/-! ## Attributes -/

theorem operationsOf_same (matched : terms.Matched bond world world') (same : terms.Same bond value value') :
    world'.operationsOf value' = world.operationsOf value := by
  cases same with
  | object pair =>
      obtain ⟨object, object', there, there', alike⟩ := matched.objects pair
      simp only [World.operationsOf, there, there']
      cases alike with
      | guest trusted => cases trusted <;> rfl
      | _ => rfl
  | _ => rfl

theorem ownSlots_same (matched : terms.Matched bond world world') (same : terms.Same bond value value') :
    terms.SameSlots bond (world.ownSlots value) (world'.ownSlots value') := by
  cases same with
  | object pair =>
      obtain ⟨object, object', there, there', alike⟩ := matched.objects pair
      simp only [World.ownSlots, there, there']
      cases alike with
      | context each => exact each
      | guest _ _ each => exact each
      | member _ each => exact each
      | function _ each => exact each.slots
      | error same =>
          dsimp only
          rw [same.kind]
          refine .cons ⟨rfl, .value (.tuples bond.shared same.arguments)⟩ (same.attributes.slots.append ?_)
          refine List.forall₂_same.mpr fun entry member => ?_
          obtain ⟨name, _, rfl⟩ := List.mem_map.mp member
          exact ⟨rfl, .value .none⟩
      | _ => exact .nil
  | _ => exact .nil

theorem textOrNone_same (text : Option Text) :
    terms.Same bond (match text with | some text => .plain text | none => .none)
      (match text with | some text => .plain text | none => .none) := by
  cases text with
  | none => exact .none
  | some text => exact .plain text

theorem propertyOf?_same {template template' : Template} (source : template'.source = template.source)
    (escape : template'.escape = template.escape) (text : template'.routine.text = template.routine.text) (name : Text) :
    Option.Rel (terms.Same bond) (World.propertyOf? template name) (World.propertyOf? template' name) := by
  unfold World.propertyOf?
  rw [source, escape, text]
  suffices entries : terms.SameEntries bond _ _ from entries.lookup name
  exact .cons ⟨rfl, textOrNone_same _⟩ (.cons ⟨rfl, textOrNone_same _⟩ (.cons ⟨rfl, .plain _⟩
    (.cons ⟨rfl, .bool _⟩ (.cons ⟨rfl, .plain _⟩ (.cons ⟨rfl, .plain _⟩ .nil)))))

theorem boundOf?_same (start stop step : Int) (name : Text) :
    Option.Rel (terms.Same bond) (World.boundOf? start stop step name) (World.boundOf? start stop step name) := by
  have entries : terms.SameEntries bond
      [("start".toList, Value.number start), ("stop".toList, .number stop), ("step".toList, .number step)]
      [("start".toList, Value.number start), ("stop".toList, .number stop), ("step".toList, .number step)] :=
    .cons ⟨rfl, .number start⟩ (.cons ⟨rfl, .number stop⟩ (.cons ⟨rfl, .number step⟩ .nil))
  exact entries.lookup name

theorem rel_value {found found' : Option Value} (alike : Option.Rel (terms.Same bond) found found') :
    Option.Rel (terms.SameSlot bond) (found.map .value) (found'.map .value) := by
  cases alike with
  | none => exact .none
  | some same => exact .some (.value same)

theorem slotOf?_same (matched : terms.Matched bond world world') (same : terms.Same bond value value') {name : Text}
    (seen : ¬ terms.unread name) : Option.Rel (terms.SameSlot bond) (world.slotOf? value name) (world'.slotOf? value' name) := by
  have own := (ownSlots_same matched same).lookup name
  have operations := operationsOf_same matched same
  unfold World.slotOf?
  rw [operations]
  generalize (world.ownSlots value).lookup name = slot, (world'.ownSlots value').lookup name = slot' at own ⊢
  cases own with
  | some same => exact .some same
  | none =>
      dsimp only
      split
      · exact .some (.operation same seen)
      · cases same with
        | template pair =>
            obtain ⟨template, template', there, there', alike⟩ := matched.programs (bond.programs_of_templates pair)
            dsimp only
            rw [there, there']
            exact rel_value (propertyOf?_same alike.source alike.escape (congrArg Routine.text alike.routine) name)
        | range _ start stop step => exact rel_value (boundOf?_same start stop step name)
        | object pair =>
            obtain ⟨object, object', there, there', alike⟩ := matched.objects pair
            dsimp only
            rw [there, there']
            cases alike with
            | member owner =>
                have shared := attributeOfClass?_same matched seen owner
                dsimp only
                generalize world.attributeOfClass? owner name = found, world'.attributeOfClass? owner name = found'
                  at shared ⊢
                cases shared with
                | none => exact .none
                | some shared =>
                    cases shared with
                    | hook => exact .some (.operation (.object pair) seen)
                    | value same => cases same <;> exact .some (.value (by constructor <;> assumption))
            | _ => exact .none
        | _ => exact .none

theorem subjectOf_same (matched : terms.Matched bond world world') (same : terms.Same bond value value') :
    world'.subjectOf value' = world.subjectOf value := by
  have type := typeName_same matched same
  delta World.subjectOf
  cases same with
  | builtin function => cases function <;> rfl
  | kind => rfl
  | method _ same _ =>
      dsimp only
      rw [isScripted_same matched same]
  | _ => exact congrArg (fun name => _ ++ name ++ _) type

theorem attributeMessage_same (matched : terms.Matched bond world world') (same : terms.Same bond value value')
    (name : Text) : world'.attributeMessage value' name = world.attributeMessage value name := by
  rw [World.attributeMessage, subjectOf_same matched same, World.attributeMessage]

theorem fixedMessage_same (matched : terms.Matched bond world world') (same : terms.Same bond value value') {name : Text}
    (seen : ¬ terms.unread name) : world'.fixedMessage value' name = world.fixedMessage value name := by
  have type := typeName_same matched same
  have slot := slotOf?_same matched same seen
  delta World.fixedMessage
  dsimp only
  rw [type]
  generalize world.slotOf? value name = found, world'.slotOf? value' name = found' at slot ⊢
  cases same with
  | builtin function => cases function <;> cases slot <;> rfl
  | template =>
      cases slot with
      | none => rfl
      | some same => cases same <;> rfl
  | _ => cases slot <;> rfl

/-! ## Containers -/

theorem repeats_same (matched : terms.Matched bond world world') (same : terms.Same bond value value') :
    world'.repeats value' = world.repeats value := by
  have items := itemsOf?_same matched same
  cases same with
  | text => rfl
  | tuple => rfl
  | _ =>
      unfold World.repeats
      dsimp only
      generalize world.itemsOf? _ = found, world'.itemsOf? _ = found' at items ⊢
      cases items <;> rfl

theorem holdsOthers_same (matched : terms.Matched bond world world') (same : terms.Same bond value value') :
    world'.holdsOthers value' = world.holdsOthers value := by
  cases same with
  | object pair =>
      obtain ⟨object, object', there, there', alike⟩ := matched.objects pair
      simp only [World.holdsOthers, there, there']
      cases alike <;> rfl
  | _ => rfl

theorem among?_same (matched : terms.Matched bond world world') (same : terms.Same bond value value')
    {others others' : List Value} (each : terms.Sames bond others others') :
    world'.among? value' others' = world.among? value others := by
  induction each with
  | nil => rfl
  | cons other _ ih => rw [World.among?, World.among?, same?_same matched other same, ih]

theorem sequenceValues?_same (matched : terms.Matched bond world world') (same : terms.Same bond value value') :
    Option.Rel (terms.Sames bond) (sequenceValues? world value) (sequenceValues? world' value') := by
  have values := valuesOf?_same matched same
  have items := itemsOf?_same matched same
  cases same with
  | text | tuple | range => exact values
  | _ => exact items

theorem kindsIn_same (matched : terms.Matched bond world world') (place : Nat) {values values' : List Value}
    (each : terms.Sames bond values values') : kindsIn world' place values' = kindsIn world place values := by
  induction each generalizing place with
  | nil => rfl
  | cons same _ ih =>
      cases same with
      | @object address address' pair =>
          have error := incident?_same matched pair
          rw [kindsIn, kindsIn, ih]
          generalize world.incident? address = found, world'.incident? address' = found' at error ⊢
          cases error with
          | none => rfl
          | some same =>
              dsimp only
              rw [same.kind]
      | _ => rfl

/-! ## Names -/

theorem builtin?_same {name : Text} (found : World.builtin? name = some value) : terms.Same bond value value := by
  unfold World.builtin? at found
  split at found
  · cases found
    exact .builtin _
  · obtain ⟨kind, _, rfl⟩ := Option.map_eq_some_iff.mp found
    exact .kind kind

theorem globalValue_same (matched : terms.Matched bond world world') (globals : Nat) (name : Text) :
    Settled Eq (terms.Same bond) (world.globalValue globals name) (world'.globalValue globals name) := by
  have alike := matched.namespaces globals
  have own : Option.Rel (terms.Same bond) ((world.namespaces[globals]?).bind (·.lookup name))
      ((world'.namespaces[globals]?).bind (·.lookup name)) := by
    generalize world.namespaces[globals]? = found, world'.namespaces[globals]? = found' at alike ⊢
    cases alike with
    | none => exact .none
    | some alike => exact alike.lookup name
  unfold World.globalValue
  generalize (world.namespaces[globals]?).bind (·.lookup name) = found,
    (world'.namespaces[globals]?).bind (·.lookup name) = found' at own ⊢
  cases own with
  | some same => exact .ok same
  | none =>
      cases given : World.builtin? name with
      | none => exact .error rfl
      | some value => exact .ok (builtin?_same given)

/-- The scopes that a name belongs to hold the same, even when one looks further than there are scopes. -/
theorem ownerOf?_same (matched : terms.Matched bond world world') (name : Text) (steps steps' : Nat) {inside : Bool}
    {number number' : Nat} (pair : bond.scopes inside number number') (within : number < steps) (within' : number' < steps') :
    Option.Rel (fun scope scope' => Alike (terms.Held inside bond) scope.values scope'.values)
      (world.ownerOf? name steps number) (world'.ownerOf? name steps' number') := by
  induction steps generalizing steps' number number' with
  | zero => exact absurd within (Nat.not_lt_zero _)
  | succ steps ih =>
      obtain _ | steps' := steps'
      · exact absurd within' (Nat.not_lt_zero _)
      · obtain ⟨scope, scope', there, there', same⟩ := matched.scopes pair
        rw [World.ownerOf?, World.ownerOf?, there, there']
        dsimp only
        rw [same.names]
        split
        · exact .some same.values
        · have around := same.outer
          generalize scope.outer = outer, scope'.outer = outer' at around ⊢
          cases around with
          | none => exact .none
          | some within =>
              obtain ⟨pair, before, before'⟩ := within
              exact ih _ pair (before.trans_le (Nat.lt_succ_iff.mp within)) (before'.trans_le (Nat.lt_succ_iff.mp within'))

theorem held_lookup {inside : Bool} {name : Text} (free : ¬ (terms.reticence inside).hidden name)
    {entries entries' : List (Text × Value)} (alike : Alike (terms.Held inside bond) entries entries') :
    Option.Rel (terms.Same bond) (entries.lookup name) (entries'.lookup name) :=
  rel_imp (fun _ _ held => held.resolve_left free) (alike.lookup name)

theorem valueOf_same (matched : terms.Matched bond world world') {inside : Bool} {here here' : Activation}
    (same : SameActivation inside bond here here') {name : Text} (free : ¬ (terms.reticence inside).hidden name) :
    Settled Eq (terms.Same bond) (world.valueOf here name) (world'.valueOf here' name) := by
  obtain ⟨scope, scope', there, there', alike⟩ := matched.scopes (.inl same.scope)
  obtain ⟨within, within'⟩ := matched.insideScopes (.inl same.scope)
  have own := held_lookup free alike.values
  have owner : Option.Rel (fun scope scope' => Alike (terms.Held inside bond) scope.values scope'.values)
      (scope.outer.bind (world.ownerOf? name world.scopes.size))
      (scope'.outer.bind (world'.ownerOf? name world'.scopes.size)) := by
    have around := alike.outer
    generalize scope.outer = outer, scope'.outer = outer' at around ⊢
    cases around with
    | none => exact .none
    | some within =>
        obtain ⟨pair, before, before'⟩ := within
        exact ownerOf?_same matched name _ _ pair (before.trans within) (before'.trans within')
  unfold World.valueOf
  rw [there, there']
  dsimp only [Option.bind_some]
  rw [Option.filter_some, Option.filter_some, alike.names]
  cases scope.names.contains name with
  | true =>
      simp only [if_true]
      generalize scope.values.lookup name = found, scope'.values.lookup name = found' at own ⊢
      cases own with
      | none => exact .error rfl
      | some same => exact .ok same
  | false =>
      simp only [Bool.false_eq_true, if_false]
      generalize scope.outer.bind (world.ownerOf? name world.scopes.size) = found,
        scope'.outer.bind (world'.ownerOf? name world'.scopes.size) = found' at owner ⊢
      cases owner with
      | none => exact same.globals ▸ globalValue_same matched here.globals name
      | @some found found' values =>
          have given := held_lookup free values
          dsimp only
          generalize found.values.lookup name = value, found'.values.lookup name = value' at given ⊢
          cases given with
          | none => exact .error rfl
          | some same => exact .ok same

end Terms
end Stencil
