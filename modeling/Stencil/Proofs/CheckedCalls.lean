import Stencil.Proofs.Entities
import Stencil.Proofs.TidySessions

/-!
# Calls that check what is converted

A call that checks conversions goes on only where it makes no difference whether a value is escaped: where the value
has no markup of its own and its text has no character with a meaning.  Whatever a template does under such calls, it
does as well under calls that escape every value, and under calls that escape none.
-/

namespace Stencil

open Effect Script Manners

/-- Whether a value says itself what it is in markup. -/
def World.offersMarkup (world : World) (value : Value) : Bool :=
  match world.slotOf? value "__html__" with
  | none | some (.value .none) => false
  | some (.failing kind _) => !kind.isA .noAttribute
  | some _ => true

namespace Effect

/-- The text of a value for which escaping makes no difference; nothing is said of any other value. -/
def checked (call : Caller) (value : Value) : Effect Value := do
  if (← Effect.world).offersMarkup value then Effect.exhausted
  else match ← call (.builtin .text) [value] with
    | .text identity trusted content =>
      if content.any Html.specials.contains then Effect.exhausted else return .text identity trusted content
    | _ => Effect.exhausted

/-- What a routine whose conversions are checked has for a converter; no script finds it anywhere else. -/
def checker : Value := .hook (.trusts Routine.escapeParameter)

/-- Call a value; the conversions of a routine are checked, and nothing is said of calls that nest too deep. -/
def checkedWithin (steps : Nat) : (depth : Nat) → Caller
  | 0 => fun _ _ => Effect.exhausted
  | depth + 1 => fun value arguments => match value, arguments with
    | .hook _, [argument] => checked (checkedWithin steps depth) argument
    | _, _ => callStep (checkedWithin steps depth) steps value arguments

/-- Asking a value without markup of its own for it comes to nothing, but for an error that is left over. -/
theorem attributeIfAny_unoffered {world : World} {value : Value} (bare : world.offersMarkup value = false) :
    ∃ found after, attributeIfAny value "__html__" world = .done found after ∧ (found = none ∨ found = some .none) ∧
      world.Grows after ∧ world.identities ≤ after.identities := by
  unfold World.offersMarkup at bare
  cases slot : world.slotOf? value "__html__" with
  | none => exact ⟨_, _, attributeIfAny_lacking slot, .inl rfl, .pushObject world _, le_rfl⟩
  | some found =>
      rw [slot] at bare
      cases found with
      | operation receiver name => cases bare
      | value shown =>
          cases shown with
          | none =>
              refine ⟨_, world, ?_, .inr rfl, .refl world, le_rfl⟩
              rw [attributeIfAny, recover, bind_done (attributeAt_of_slot slot)]
              rfl
          | _ => cases bare
      | failing kind arguments =>
          let error : Object := .error ⟨kind, arguments, [], none, [], none⟩
          have missing : kind.isA .noAttribute = true := by simpa using bare
          have asked : attributeAt value "__html__" world =
              .failed world.objects.size { world with objects := world.objects.push error } :=
            attributeAt_of_slot slot
          have kinds : World.errorKind { world with objects := world.objects.push error } world.objects.size = kind := by
            rw [World.errorKind, World.incident?, Array.getElem?_push_size]
          refine ⟨none, { world with objects := world.objects.push error }, ?_, .inl rfl, .pushObject world _, le_rfl⟩
          rw [attributeIfAny, recover, bind_failed asked]
          dsimp only
          rw [world_bind, kinds, if_pos missing]
          rfl

end Effect

namespace Terms

variable {terms : Terms} {bond : Bond} {world world' : World} {value value' : Value} {call call' : Caller}

theorem twin_unfinished {α : Type} {good : Bond → α → α → Prop} (guarded : terms.guarded) (action' : Effect α) :
    terms.Twin bond good Effect.exhausted action' :=
  fun _ _ _ _ _ => .unfinished guarded _

theorem offersMarkup_same (matched : terms.Matched bond world world') (same : terms.Same bond value value') :
    world'.offersMarkup value' = world.offersMarkup value := by
  have slot := slotOf?_same matched same terms.html_read
  unfold World.offersMarkup
  generalize world.slotOf? value "__html__" = found, world'.slotOf? value' "__html__" = found' at slot ⊢
  cases slot with
  | none => rfl
  | some same =>
      cases same with
      | value same => cases same <;> rfl
      | operation | failing => rfl

/-! ## Converting -/

/-- A text that escaping leaves alone is put out by the other world as well, if what it does with the text says the
same. -/
theorem twin_checkedText (guarded : terms.guarded) {action action' : Effect Value} {next' : Value → Effect Value}
    (said : terms.Twin bond terms.Same action action')
    (alike : ∀ later, bond ≤ later → ∀ (identity identity' : Nat) (trusted : Bool) (content : Text),
      Html.escape content = content → terms.Twin later (fun _ => SaysSame) (pure (.text identity trusted content))
        (next' (.text identity' trusted content))) :
    terms.Twin bond (fun _ => SaysSame)
      (do match ← action with
        | .text identity trusted content =>
          if content.any Html.specials.contains then Effect.exhausted else return .text identity trusted content
        | _ => Effect.exhausted)
      (action' >>= next') := by
  refine said.bind fun later grown value value' same => ?_
  cases same with
  | @text identity identity' _ trusted content =>
      dsimp only
      split
      · exact twin_unfinished guarded _
      · rename_i plain
        have free : ∀ char ∈ content, char ∉ Html.specials := by simpa using plain
        exact alike later grown identity identity' trusted content ((Html.escape_eq_self_iff content).mpr free)
  | _ => exact twin_unfinished guarded _

/-- What is converted with a check is what the text of the value is in the other world. -/
theorem twin_checked_text (guarded : terms.guarded) (calls : terms.TwinCalls bond call call')
    (same : terms.Same bond value value') :
    terms.Twin bond (fun _ => SaysSame) (checked call value) (call' (.builtin .text) [value']) := by
  intro later grown world world' matched
  rw [checked, world_bind]
  split
  · exact .unfinished guarded _
  · rw [← bind_value (call' (.builtin .text) [value'])]
    have said := calls later grown (.builtin .text) (.cons (same.mono grown) .nil)
    exact twin_checkedText guarded said (fun _ _ identity identity' trusted content _ =>
      twin_pure fun _ _ => ⟨identity, identity', trusted, trusted, content, rfl, rfl⟩) later le_rfl world world' matched

/-- What is converted with a check is what the value is in markup in the other world. -/
theorem twin_checked_markup (guarded : terms.guarded) (calls : terms.TwinCalls bond call call')
    (same : terms.Same bond value value') :
    terms.Twin bond (fun _ => SaysSame) (checked call value) (markupOf call' value') := by
  intro later grown world world' matched
  have same := same.mono grown
  have offers := offersMarkup_same matched same
  rw [checked, world_bind]
  cases bare : world.offersMarkup value with
  | true => exact .unfinished guarded _
  | false =>
      obtain ⟨found, after', asked, lacks, grows, more⟩ := attributeIfAny_unoffered (offers.trans bare)
      have moves := matched.grows (.refl world) grows le_rfl more
      have converted : markupOf call' value' world' =
          (call' (.builtin .text) [value'] >>= fun text => newText (Html.escape (contentOf text))) after' := by
        rw [markupOf, bind_done asked]
        rcases lacks with rfl | rfl <;> rfl
      rw [converted]
      refine Ends.behind moves ?_
      have said := calls later grown (.builtin .text) (.cons same .nil)
      refine twin_checkedText guarded said (fun _ _ identity identity' trusted content plain => ?_) later le_rfl world
        after' moves.matched
      intro last _ between between' matched
      obtain ⟨own, count, made, more⟩ := Routine.newText_done (Html.escape (contentOf (.text identity' trusted content))) between'
      rw [made]
      refine .done (matched.grows (.refl between) (.identities between' count) le_rfl more) ?_
      exact ⟨identity, own, trusted, false, content, rfl, by rw [contentOf, plain]⟩

/-! ## Gathering -/

/-- Lists that output is gathered in stay out of what values lead to. -/
theorem Matched.gathered {place : Gathering} (matched : terms.Matched bond world world')
    (known : bond.gathering = some place) (said : SaysSame value value') :
    terms.Moves bond bond world world'
      { world with objects := world.objects.modify place.list fun
        | .list items => .list (items.push value)
        | object => object }
      { world' with objects := world'.objects.modify place.list' fun
        | .list items => .list (items.push value')
        | object => object } := by
  obtain ⟨free, free'⟩ := bond.gathering_free known
  obtain ⟨guarded, ⟨items, items', there, there', each⟩, own, links⟩ := matched.gathers known
  refine matched.moves le_rfl ⟨fun kept => ?_, fun _ => rfl, id, rfl⟩ ⟨fun kept => ?_, fun _ => rfl, id, rfl⟩ matched.handled
    matched.identities (fun kept => (matched.kept kept).trans_eq Array.size_modify.symm)
    (fun kept => (matched.kept' kept).trans_eq Array.size_modify.symm) matched.still matched.still' (fun pair => ?_)
    matched.scopes .inl id fun known' => ?_
  · rename_i address
    have apart : place.list ≠ address := fun own => free (own ▸ kept)
    exact (Array.getElem?_modify ..).trans (if_neg apart)
  · rename_i address
    have apart : place.list' ≠ address := fun own => free' (own ▸ kept)
    exact (Array.getElem?_modify ..).trans (if_neg apart)
  · obtain ⟨object, object', found, found', same⟩ := matched.objects pair
    obtain ⟨apart, apart'⟩ := bond.gathering_apart known pair
    exact ⟨object, object', by rw [Array.getElem?_modify, if_neg apart.symm, found],
      by rw [Array.getElem?_modify, if_neg apart'.symm, found'], same⟩
  · obtain rfl := Option.some.inj (known.symm.trans known')
    refine ⟨guarded, ⟨items.push value, items'.push value', ?_, ?_, ?_⟩, own, links⟩
    · rw [Array.getElem?_modify, if_pos rfl, there]
      rfl
    · rw [Array.getElem?_modify, if_pos rfl, there']
      rfl
    · rw [Array.toList_push, Array.toList_push]
      exact List.rel_append each (.cons said .nil)

/-- A call of the operation that adds to a list adds to it. -/
theorem callStep_append {list identity steps : Nat} {items : Array Value} (there : world.objects[list]? = some (.list items)) :
    callStep call steps (.method identity (.object list) "append") [value] world =
      (do append list value; return .none : Effect Value) world := by
  rw [callStep, world_bind]
  dsimp only
  rw [callMethod, world_bind]
  dsimp only
  rw [there]
  rfl

theorem twin_gathering {steps : Nat} {place : Gathering} (known : bond.gathering = some place) (identity identity' : Nat)
    (said : SaysSame value value') :
    terms.Twin bond Whatever (callStep call steps (.method identity (.object place.list) "append") [value])
      (callStep call' steps (.method identity' (.object place.list') "append") [value']) := by
  intro later grown world world' matched
  have known := grown.gathering known
  obtain ⟨_, _, there, there', -⟩ := (matched.gathers known).lists
  rw [callStep_append there, callStep_append there']
  exact .done (matched.gathered known said) trivial

/-! ## Checked calls -/

/-- Values that are the same in two worlds are called as always. -/
theorem checkedWithin_same (same : terms.Same bond value value') (steps depth : Nat) (arguments : List Value) :
    checkedWithin steps (depth + 1) value arguments = callStep (checkedWithin steps depth) steps value arguments := by
  cases same <;> rfl

section Checking

variable {steps : Nat} (guarded : terms.guarded) (checks : terms.converter = checker)
include guarded checks

/-- Checked calls convert and gather what the calls in the other world do, whether those escape values or not. -/
theorem twin_checkedOutputs {depth deep : Nat}
    (escaping : terms.TwinCalls bond (checkedWithin steps depth) (callWithin steps deep))
    (showing : terms.TwinCalls bond (checkedWithin steps depth) (callWithin steps (deep + 1))) :
    terms.TwinOutputs bond (checkedWithin steps (depth + 1)) (callWithin steps (deep + 1)) where
  converts := by
    intro later grown place known value value' same
    rw [checks]
    cases place.escape with
    | false => exact twin_checked_text guarded (showing.mono grown) same
    | true => exact twin_checked_markup guarded (escaping.mono grown) same
  appends := by
    intro later grown place known identity identity' value value' said
    exact twin_gathering known identity identity' said

/-- Checked calls do what the calls in a world that is alike do, as far as they go. -/
theorem twin_checkedWithin {depth depth' : Nat} (deeper : depth ≤ depth') :
    terms.TwinCalls bond (checkedWithin steps depth) (callWithin steps depth') ∧
      terms.TwinRoutines bond (checkedWithin steps depth) (callWithin steps depth') ∧
        terms.TwinOutputs bond (checkedWithin steps depth) (callWithin steps depth') := by
  induction depth generalizing depth' with
  | zero =>
      exact ⟨fun _ _ _ _ _ _ _ _ => twin_unfinished guarded _, fun _ _ _ _ _ _ _ _ _ _ _ => .unfinished guarded _,
        fun _ _ _ _ _ _ _ => twin_unfinished guarded _, fun _ _ _ _ _ _ _ _ _ => twin_unfinished guarded _⟩
  | succ depth ih =>
      obtain ⟨deep, rfl⟩ := Nat.exists_eq_succ_of_ne_zero (Nat.ne_zero_of_lt deeper)
      have within := Nat.le_of_succ_le_succ deeper
      obtain ⟨calls, routines, outputs⟩ := ih within
      obtain ⟨showing, -, -⟩ := ih (within.trans (Nat.le_succ deep))
      refine ⟨fun later grown value value' arguments arguments' same each => ?_, ?_,
        twin_checkedOutputs guarded checks calls showing⟩
      · rw [checkedWithin_same same]
        exact twin_callStep (calls.mono grown) (routines.mono grown) (fun _ => outputs.mono grown) steps same each
      · exact twin_callRoutine calls routines (fun _ => outputs) steps

end Checking

end Terms
end Stencil
