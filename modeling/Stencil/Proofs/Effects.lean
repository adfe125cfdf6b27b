import Stencil.World.Attribute

/-!
# Effects and entries

What effects do one after the other, what an error becomes, what lists of named values hold once a value was put under
a name, and what reading an attribute does.
-/

namespace Stencil

/-! ## Effects one after the other -/

namespace Effect

variable {α β γ : Type} {action : Effect α} {world after : World}

theorem bind_apply (action : Effect α) (next : α → Effect β) (world : World) :
    (action >>= next) world = match action world with
      | .done value after => next value after
      | .failed error after => .failed error after
      | .exhausted => .exhausted :=
  rfl

/-- Looking at the world changes nothing. -/
theorem world_bind (next : World → Effect β) (world : World) : (Effect.world >>= next) world = next world world := rfl

theorem bind_done {next : α → Effect β} {found : α} (ended : action world = .done found after) :
    (action >>= next) world = next found after := by
  rw [bind_apply, ended]

theorem bind_congr {action' : Effect α} {world' : World} (same : action world = action' world')
    (next : α → Effect β) : (action >>= next) world = (action' >>= next) world' := by
  rw [bind_apply, bind_apply, same]

theorem bind_failed {next : α → Effect β} {error : Nat} (ended : action world = .failed error after) :
    (action >>= next) world = .failed error after := by
  rw [bind_apply, ended]

theorem bind_exhausted {next : α → Effect β} (ended : action world = .exhausted) :
    (action >>= next) world = .exhausted := by
  rw [bind_apply, ended]

/-- Giving back what was found changes nothing. -/
theorem bind_value (action : Effect α) (world : World) : (action >>= fun value => pure value) world = action world := by
  rw [bind_apply]
  cases action world <;> rfl

theorem recover_congr {action' : Effect α} {world' : World} (same : action world = action' world')
    (handler : Nat → Effect α) : recover action handler world = recover action' handler world' := by
  unfold recover
  rw [same]

theorem bind_bind (action : Effect α) (next : α → Effect β) (last : β → Effect γ) (world : World) :
    ((action >>= next) >>= last) world = (action >>= fun value => next value >>= last) world := by
  cases ended : action world with
  | done value after =>
      rw [bind_done ended]
      cases ended' : next value after with
      | done value' after' => rw [bind_done ended', bind_done ((bind_done ended).trans ended')]
      | failed error after' => rw [bind_failed ended', bind_failed ((bind_done ended).trans ended')]
      | exhausted => rw [bind_exhausted ended', bind_exhausted ((bind_done ended).trans ended')]
  | failed error after => rw [bind_failed ended, bind_failed (bind_failed ended)]
  | exhausted => rw [bind_exhausted ended, bind_exhausted (bind_exhausted ended)]

theorem of_bind_done {next : α → Effect β} {found : β} (ended : (action >>= next) world = .done found after) :
    ∃ value between, action world = .done value between ∧ next value between = .done found after := by
  cases first : action world with
  | done value between => exact ⟨value, between, rfl, (bind_done first).symm.trans ended⟩
  | failed error between => cases (bind_failed first).symm.trans ended
  | exhausted => cases (bind_exhausted first).symm.trans ended

theorem of_bind_failed {next : α → Effect β} {error : Nat} (ended : (action >>= next) world = .failed error after) :
    action world = .failed error after ∨
      ∃ value between, action world = .done value between ∧ next value between = .failed error after := by
  cases first : action world with
  | done value between => exact .inr ⟨value, between, rfl, (bind_done first).symm.trans ended⟩
  | failed error between =>
    obtain ⟨rfl, rfl⟩ := Outcome.failed.inj ((bind_failed first).symm.trans ended)
    exact .inl rfl
  | exhausted => cases (bind_exhausted first).symm.trans ended

end Effect

/-! ## Errors -/

theorem incident?_changeIncident (world : World) (error : Nat) (f : Incident → Incident) :
    (world.changeIncident error f).incident? error = (world.incident? error).map f := by
  cases found : world.incident? error with
  | none =>
      have same : world.changeIncident error f = world := by rw [World.changeIncident, found]
      rw [same, found, Option.map_none]
  | some incident =>
      have inside : error < world.objects.size := by
        unfold World.incident? at found
        split at found
        · rename_i there
          exact (Array.getElem?_eq_some_iff.mp there).1
        · cases found
      rw [World.changeIncident, found, World.incident?]
      simp only [Array.getElem?_setIfInBounds_self_of_lt inside, Option.map_some]

/-! ## Entries -/

section Entries

variable {α : Type}

theorem lookup_putEntry (name : Text) (value : α) (values : List (Text × α)) :
    (putEntry name value values).lookup name = some value := by
  induction values with
  | nil => simp [putEntry]
  | cons entry values ih =>
      obtain ⟨key, content⟩ := entry
      by_cases first : key = name
      · simp [putEntry, first]
      · have apart : (name == key) = false := beq_eq_false_iff_ne.mpr (Ne.symm first)
        simp [putEntry, List.lookup_cons, first, apart, ih]

theorem lookup_putEntry_ne {name other : Text} (apart : other ≠ name) (value : α) (values : List (Text × α)) :
    (putEntry name value values).lookup other = values.lookup other := by
  have different : (other == name) = false := beq_eq_false_iff_ne.mpr apart
  induction values with
  | nil => simp [putEntry, List.lookup_cons, different]
  | cons entry values ih =>
      obtain ⟨key, content⟩ := entry
      by_cases first : key = name
      · simp [putEntry, List.lookup_cons, first, different]
      · simp [putEntry, List.lookup_cons, first, ih]

/-- Leaving out entries under other names does not change what is under a name. -/
theorem lookup_filter {keeps : Text → Bool} {name : Text} (kept : keeps name = true) (values : List (Text × α)) :
    (values.filter fun entry => keeps entry.1).lookup name = values.lookup name := by
  induction values with
  | nil => rfl
  | cons entry values ih =>
      obtain ⟨key, content⟩ := entry
      by_cases same : name = key
      · subst same
        simp [kept]
      · have other : (name == key) = false := beq_eq_false_iff_ne.mpr same
        cases own : keeps key <;> simp [own, List.lookup_cons, other, ih]

theorem putEntry_fresh {name : Text} {entries : List (Text × α)} (fresh : ∀ entry ∈ entries, entry.1 ≠ name)
    (value : α) : putEntry name value entries = entries ++ [(name, value)] := by
  induction entries with
  | nil => rfl
  | cons entry entries ih =>
    have first : entry.1 ≠ name := fresh entry List.mem_cons_self
    rw [putEntry, if_neg first, ih fun other inside => fresh other (List.mem_cons_of_mem _ inside)]
    rfl

end Entries

/-! ## Attributes -/

section Attributes

variable {world : World} {value : Value} {name : Text}

/-- An attribute that a value has of its own comes before what it can do. -/
theorem World.slotOf?_own {slot : Slot} (own : (world.ownSlots value).lookup name = some slot) :
    world.slotOf? value name = some slot := by
  unfold World.slotOf?
  rw [own]

theorem attributeAt_of_slot {slot : Slot} (found : world.slotOf? value name = some slot) :
    Effect.attributeAt value name world = Effect.readSlot slot world := by
  rw [Effect.attributeAt, Effect.world_bind, found]

/-- Reading an operation makes a new value that stands for it. -/
theorem attributeAt_of_operation {receiver : Value} {operation : Text}
    (found : world.slotOf? value name = some (.operation receiver operation)) :
    Effect.attributeAt value name world = .done (.method (world.identities + 1) receiver operation)
      { world with identities := world.identities + 1 } :=
  attributeAt_of_slot found

end Attributes
end Stencil
