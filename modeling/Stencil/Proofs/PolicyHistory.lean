import Stencil.Proofs.FileExtensions
import Stencil.Proofs.Trimming
import Stencil.EscapePolicy

/-!
# Policies as histories of decisions

A policy is what is left of the decisions that were entered into it: the standard ones, those it was made with and those
registered later.  The last one entered for a media type counts, however its content type was spelled and however the
one that is asked about is.
-/

namespace Stencil

/-! ## Spellings of a media type -/

theorem Text.trim_between {before text after : Text} (trimmed : text.trim = text)
    (blankBefore : ∀ char ∈ before, isBlank char) (blankAfter : ∀ char ∈ after, isBlank char) :
    Text.trim (before ++ text ++ after) = text := by
  have start : (before ++ text ++ after).dropWhile isBlank = (text ++ after).dropWhile isBlank := by
    rw [List.append_assoc, List.dropWhile_append_of_pos blankBefore]
  have skipped (front : Text) : (front ++ after).rdropWhile isBlank = front.rdropWhile isBlank := by
    have blank : ∀ char ∈ after.reverse, isBlank char := fun char member => blankAfter char (List.mem_reverse.mp member)
    rw [List.rdropWhile, List.reverse_append, List.dropWhile_append_of_pos blank, List.rdropWhile]
  rw [trim_eq, start, List.dropWhile_append]
  by_cases empty : text.dropWhile isBlank = []
  · have none : text = [] := by
      rw [← trimmed, trim_eq, empty]
      rfl
    have gone : after.dropWhile isBlank = [] := List.dropWhile_eq_nil_iff.mpr blankAfter
    rw [empty, if_pos List.isEmpty_nil, gone, none]
    rfl
  · rw [if_neg (mt List.isEmpty_iff.mp empty), skipped, ← trim_eq, trimmed]

theorem Text.blanks_around (text : Text) : ∃ before after, text = before ++ text.trim ++ after ∧
    (∀ char ∈ before, isBlank char) ∧ ∀ char ∈ after, isBlank char := by
  refine ⟨text.takeWhile isBlank, (text.dropWhile isBlank).rtakeWhile isBlank, ?_, ?_, ?_⟩
  · have tail : (text.dropWhile isBlank).rdropWhile isBlank ++ (text.dropWhile isBlank).rtakeWhile isBlank =
        text.dropWhile isBlank := by
      rw [List.rdropWhile, List.rtakeWhile, ← List.reverse_append, List.takeWhile_append_dropWhile, List.reverse_reverse]
    rw [trim_eq, List.append_assoc, tail, List.takeWhile_append_dropWhile]
  · intro char member
    exact List.mem_takeWhile_imp member
  · intro char member
    exact List.mem_rtakeWhile_imp member

/-- A way to write a media type: between blanks and with parameters. -/
structure Spelling where
  media : Text
  before : Text
  after : Text
  parameters : Option Text
  trimmed : media.trim = media
  plain : ';' ∉ media
  blankBefore : ∀ char ∈ before, isBlank char
  blankAfter : ∀ char ∈ after, isBlank char

namespace Spelling

/-- What stands in front of the parameters. -/
def front (spelling : Spelling) : Text := spelling.before ++ spelling.media ++ spelling.after

/-- The content type as it is written. -/
def contentType (spelling : Spelling) : Text :=
  spelling.front ++ (spelling.parameters.elim [] (';' :: ·))

theorem plain_front (spelling : Spelling) : ';' ∉ spelling.front := by
  have apart {blanks : Text} (blank : ∀ char ∈ blanks, isBlank char) : ';' ∉ blanks := by
    intro member
    have blank := blank ';' member
    revert blank
    decide
  rw [front, List.mem_append, List.mem_append, not_or, not_or]
  exact ⟨⟨apart spelling.blankBefore, spelling.plain⟩, apart spelling.blankAfter⟩

/-- Only the media type itself counts, and its letter case does not. -/
theorem mediaTypeOf_contentType (spelling : Spelling) : mediaTypeOf spelling.contentType = spelling.media.lower := by
  have trim : spelling.front.trim = spelling.media :=
    Text.trim_between spelling.trimmed spelling.blankBefore spelling.blankAfter
  rw [mediaTypeOf, contentType]
  cases spelling.parameters with
  | none =>
      rw [Option.elim_none, List.append_nil, MediaType.breakAt?_none spelling.plain_front]
      exact congrArg Text.lower trim
  | some parameters =>
      rw [Option.elim_some, MediaType.breakAt?_some spelling.plain_front]
      exact congrArg Text.lower trim

/-- A text without parameters is spelled in some way. -/
theorem exists_of_plain {text : Text} (plain : ';' ∉ text) (parameters : Option Text) :
    ∃ spelling : Spelling, spelling.front = text ∧ spelling.parameters = parameters := by
  obtain ⟨before, after, whole, blankBefore, blankAfter⟩ := Text.blanks_around text
  have inside : ';' ∉ text.trim := fun member => plain (Text.mem_of_mem_trim member)
  exact ⟨⟨text.trim, before, after, parameters, Text.trim_trim text, inside, blankBefore, blankAfter⟩, whole.symm, rfl⟩

/-- Every content type is a spelling. -/
theorem exists_contentType (text : Text) : ∃ spelling : Spelling, spelling.contentType = text := by
  by_cases inside : ';' ∈ text
  · obtain ⟨front, parameters, rfl, plain⟩ := List.eq_append_cons_of_mem inside
    obtain ⟨spelling, rfl, given⟩ := exists_of_plain plain (some parameters)
    exact ⟨spelling, by rw [contentType, given]; rfl⟩
  · obtain ⟨spelling, rfl, given⟩ := exists_of_plain inside none
    exact ⟨spelling, by rw [contentType, given]; exact List.append_nil _⟩

end Spelling

/-! ## Histories -/

namespace EscapePolicy

theorem lookup_put (key other : Text) (decision : Escaping) (entries : List (Text × Escaping)) :
    (put key decision entries).lookup other = if other = key then some decision else entries.lookup other := by
  induction entries with
  | nil =>
      by_cases asked : other = key
      · simp [put, asked]
      · simp [put, List.lookup_cons, beq_eq_false_iff_ne.mpr asked, asked]
  | cons entry entries ih =>
      obtain ⟨first, earlier⟩ := entry
      by_cases replaced : first = key
      · by_cases asked : other = key
        · simp [put, replaced, asked]
        · simp [put, List.lookup_cons, replaced, beq_eq_false_iff_ne.mpr asked, asked]
      · by_cases found : other = first
        · simp [put, replaced, found]
        · simp [put, List.lookup_cons, replaced, beq_eq_false_iff_ne.mpr found, ih]

/-- Registering decides about one media type. -/
theorem entry?_register (policy : EscapePolicy) (key contentType : Text) (decision : Escaping) :
    entry? (policy.register key decision) contentType =
      if mediaTypeOf contentType = mediaTypeOf key then some decision else entry? policy contentType :=
  lookup_put _ _ _ _

/-- A policy after further decisions, given in order. -/
def registerAll (decisions : List (Text × Escaping)) (policy : EscapePolicy) : EscapePolicy :=
  decisions.foldl (fun policy entry => policy.register entry.1 entry.2) policy

/-- Whether an entry is the last one for the media type of a content type. -/
def Latest (entries : List (Text × Escaping)) (contentType : Text) (decision : Escaping) : Prop :=
  ∃ before key after, entries = before ++ (key, decision) :: after ∧ mediaTypeOf key = mediaTypeOf contentType ∧
    ∀ entry ∈ after, mediaTypeOf entry.1 ≠ mediaTypeOf contentType

theorem not_latest_nil (contentType : Text) (decision : Escaping) : ¬ Latest [] contentType decision := by
  rintro ⟨before, key, after, whole, -⟩
  simp at whole

/-- An entry in front counts when there is no later one. -/
theorem latest_cons (entry : Text × Escaping) (entries : List (Text × Escaping)) (contentType : Text)
    (decision : Escaping) : Latest (entry :: entries) contentType decision ↔
      Latest entries contentType decision ∨
        (mediaTypeOf entry.1 = mediaTypeOf contentType ∧ entry.2 = decision ∧
          ∀ later ∈ entries, mediaTypeOf later.1 ≠ mediaTypeOf contentType) := by
  constructor
  · rintro ⟨before, key, after, whole, same, last⟩
    cases before with
    | nil =>
        obtain ⟨rfl, rfl⟩ := List.cons.inj whole
        exact .inr ⟨same, rfl, last⟩
    | cons first before =>
        obtain ⟨rfl, rfl⟩ := List.cons.inj whole
        exact .inl ⟨before, key, after, rfl, same, last⟩
  · rintro (⟨before, key, after, rfl, same, last⟩ | ⟨same, rfl, last⟩)
    · exact ⟨entry :: before, key, after, rfl, same, last⟩
    · exact ⟨[], entry.1, entries, rfl, same, last⟩

/-- What a policy holds after further decisions: the last of them for a media type, or what it held before. -/
theorem entry?_registerAll (decisions : List (Text × Escaping)) (policy : EscapePolicy) (contentType : Text)
    (decision : Escaping) : entry? (policy.registerAll decisions) contentType = some decision ↔
      Latest decisions contentType decision ∨
        ((∀ entry ∈ decisions, mediaTypeOf entry.1 ≠ mediaTypeOf contentType) ∧
          entry? policy contentType = some decision) := by
  induction decisions generalizing policy with
  | nil => simp [registerAll, not_latest_nil]
  | cons entry decisions ih =>
      have step : policy.registerAll (entry :: decisions) =
          (policy.register entry.1 entry.2).registerAll decisions := rfl
      rw [step, ih, entry?_register, latest_cons, List.forall_mem_cons]
      by_cases same : mediaTypeOf entry.1 = mediaTypeOf contentType
      · rw [if_pos same.symm]
        simp [same, and_comm]
      · rw [if_neg (Ne.symm same)]
        simp [same]

/-- The policy without entries. -/
def blank : EscapePolicy := ⟨[]⟩

theorem standard_eq : standard = blank.registerAll standard.entries := by decide +kernel

/-- Every decision that was entered into a policy: the standard ones, those given when it was made, and the calls that
registered one. -/
def history (extra calls : List (Text × Escaping)) : List (Text × Escaping) := standard.entries ++ extra ++ calls

theorem registerAll_history (extra calls : List (Text × Escaping)) :
    (withExtra extra).registerAll calls = blank.registerAll (history extra calls) := by
  have whole : blank.registerAll (history extra calls) =
      ((blank.registerAll standard.entries).registerAll extra).registerAll calls := by
    rw [history, registerAll, List.foldl_append, List.foldl_append]
    rfl
  rw [whole, ← standard_eq]
  rfl

theorem entry?_history (extra calls : List (Text × Escaping)) (contentType : Text) (decision : Escaping) :
    entry? ((withExtra extra).registerAll calls) contentType = some decision ↔
      Latest (history extra calls) contentType decision := by
  rw [registerAll_history, entry?_registerAll, or_iff_left]
  rintro ⟨-, held⟩
  cases held

theorem exists_latest_iff (entries : List (Text × Escaping)) (contentType : Text) :
    (∃ decision, Latest entries contentType decision) ↔
      ∃ entry ∈ entries, mediaTypeOf entry.1 = mediaTypeOf contentType := by
  induction entries with
  | nil => simp [not_latest_nil]
  | cons entry entries ih =>
      simp only [latest_cons, exists_or, ih, List.exists_mem_cons_iff]
      constructor
      · rintro (later | ⟨decision, same, -⟩)
        · exact .inr later
        · exact .inl same
      · rintro (same | later)
        · by_cases later : ∃ entry ∈ entries, mediaTypeOf entry.1 = mediaTypeOf contentType
          · exact .inl later
          · exact .inr ⟨entry.2, same, rfl, by simpa using later⟩
        · exact .inl later

theorem covers_iff (policy : EscapePolicy) (contentType : Text) :
    policy.covers contentType ↔ ∃ decision, entry? policy contentType = some decision :=
  Option.isSome_iff_exists

/-- After any calls the last decision entered for a media type counts, and a media type without any is verbatim and the
only one not covered.  Content types with the same media type are decided alike, and they are those that differ in
letter case, surrounding blanks and parameters only. -/
theorem last_decision_counts (extra calls : List (Text × Escaping)) (contentType : Text) :
    let policy := (withExtra extra).registerAll calls
    (∀ decision, Latest (history extra calls) contentType decision → policy.decide contentType = decision) ∧
    ((∀ entry ∈ history extra calls, mediaTypeOf entry.1 ≠ mediaTypeOf contentType) →
      policy.decide contentType = .verbatim) ∧
    (policy.escapes contentType ↔ Latest (history extra calls) contentType .escape) ∧
    (policy.covers contentType ↔ ∃ entry ∈ history extra calls, mediaTypeOf entry.1 = mediaTypeOf contentType) ∧
    (∀ other, mediaTypeOf other = mediaTypeOf contentType →
      policy.decide other = policy.decide contentType ∧ policy.covers other = policy.covers contentType) ∧
    ∀ left right, mediaTypeOf left = mediaTypeOf right ↔ ∃ spelled respelled : Spelling,
      spelled.contentType = left ∧ respelled.contentType = right ∧ spelled.media.lower = respelled.media.lower := by
  intro policy
  have held := entry?_history extra calls contentType
  have decides : ∀ decision, Latest (history extra calls) contentType decision →
      policy.decide contentType = decision := by
    intro decision latest
    rw [decide, (held decision).mpr latest]
    rfl
  refine ⟨decides, ?_, ?_, ?_, ?_, ?_⟩
  · intro absent
    have none : entry? policy contentType = none := by
      rw [Option.eq_none_iff_forall_ne_some]
      intro decision found
      obtain ⟨entry, member, same⟩ := (exists_latest_iff _ _).mp ⟨decision, (held decision).mp found⟩
      exact absent entry member same
    rw [decide, none]
    rfl
  · constructor
    · intro escapes
      have escapes := beq_iff_eq.mp escapes
      cases found : entry? policy contentType with
      | none =>
          rw [decide, found] at escapes
          cases escapes
      | some decision =>
          rw [decide, found] at escapes
          obtain rfl : decision = .escape := escapes
          exact (held _).mp found
    · intro latest
      rw [escapes, decides _ latest]
      rfl
  · rw [covers_iff, ← exists_latest_iff]
    exact exists_congr held
  · intro other same
    rw [decide, decide, covers, covers, entry?, entry?, same]
    exact ⟨rfl, rfl⟩
  · intro left right
    constructor
    · intro same
      obtain ⟨spelled, rfl⟩ := Spelling.exists_contentType left
      obtain ⟨respelled, rfl⟩ := Spelling.exists_contentType right
      rw [spelled.mediaTypeOf_contentType, respelled.mediaTypeOf_contentType] at same
      exact ⟨spelled, respelled, rfl, rfl, same⟩
    · rintro ⟨spelled, respelled, rfl, rfl, same⟩
      rw [spelled.mediaTypeOf_contentType, respelled.mediaTypeOf_contentType, same]

example : (withExtra [("Text/Plain ; charset=utf-8", .escape)]).decide " text/plain" = .escape := by decide +kernel

end EscapePolicy

end Stencil
