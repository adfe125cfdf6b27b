import Stencil.Proofs.DisplayHistory
import Stencil.Proofs.RoutineCalls

/-!
# Entities

Escaped text holds none of the characters that markup gives a meaning to, except for the ampersands that start the
entities put in.  Reading these entities back in one pass gives the text again, whatever it looked like before.
-/

namespace Stencil
namespace Html

/-- The code points that markup gives a meaning to. -/
def specials : List Char := ['&', '<', '>', '"', '\'']

/-- The entities that stand for them. -/
def entities : List Text := ["&amp;", "&lt;", "&gt;", "&quot;", "&#39;"]

/-- Replace the entities by the code points that they stand for, in one pass from the start. -/
def unescape : Text → Text
  | '&' :: 'a' :: 'm' :: 'p' :: ';' :: rest => '&' :: unescape rest
  | '&' :: 'l' :: 't' :: ';' :: rest => '<' :: unescape rest
  | '&' :: 'g' :: 't' :: ';' :: rest => '>' :: unescape rest
  | '&' :: 'q' :: 'u' :: 'o' :: 't' :: ';' :: rest => '"' :: unescape rest
  | '&' :: '#' :: '3' :: '9' :: ';' :: rest => '\'' :: unescape rest
  | char :: rest => char :: unescape rest
  | [] => []

/-- Markup that stands for a text: apart from the ampersands of entities it has no character with a meaning, its
entities give the text back, and it is the text itself only if there was nothing to escape. -/
structure StandsFor (markup text : Text) : Prop where
  free : ∀ char ∈ markup, char ∉ ['<', '>', '"', '\'']
  ampersands : ∀ before after, markup = before ++ '&' :: after → ∃ entity ∈ entities, entity <+: '&' :: after
  decoded : unescape markup = text
  unchanged : markup = text ↔ ∀ char ∈ text, char ∉ specials

/-! ## One character -/

@[simp] theorem escape_nil : escape [] = [] := rfl

@[simp] theorem escape_cons (char : Char) (text : Text) : escape (char :: text) = escapeChar char ++ escape text := rfl

theorem escape_append (first second : Text) : escape (first ++ second) = escape first ++ escape second :=
  List.flatMap_append

theorem escapeChar_plain {char : Char} (plain : char ∉ specials) : escapeChar char = [char] := by
  simp only [specials, List.mem_cons, List.not_mem_nil, or_false, not_or] at plain
  obtain ⟨ampersand, less, greater, quote, apostrophe⟩ := plain
  unfold escapeChar entity?
  split <;> first | contradiction | rfl

/-- A character with a meaning becomes an ampersand and the name of an entity, which has no such character. -/
theorem escapeChar_special {char : Char} (special : char ∈ specials) :
    ∃ name : Text, escapeChar char = '&' :: name ∧ '&' :: name ∈ entities ∧ name ≠ [] ∧
      ∀ other ∈ name, other ∉ specials := by
  simp only [specials, List.mem_cons, List.not_mem_nil, or_false] at special
  have plain (name : Text) (free : name.all (!specials.contains ·)) : ∀ other ∈ name, other ∉ specials := by
    simpa using free
  rcases special with rfl | rfl | rfl | rfl | rfl
  · exact ⟨"amp;", rfl, by decide, by decide, plain _ rfl⟩
  · exact ⟨"lt;", rfl, by decide, by decide, plain _ rfl⟩
  · exact ⟨"gt;", rfl, by decide, by decide, plain _ rfl⟩
  · exact ⟨"quot;", rfl, by decide, by decide, plain _ rfl⟩
  · exact ⟨"#39;", rfl, by decide, by decide, plain _ rfl⟩

theorem unescape_cons {char : Char} (plain : char ≠ '&') (rest : Text) :
    unescape (char :: rest) = char :: unescape rest := by
  conv_lhs => unfold unescape
  split <;> simp_all

/-- What was put in for a character is read back as one, whatever stands behind it. -/
theorem unescape_escapeChar (char : Char) (rest : Text) :
    unescape (escapeChar char ++ rest) = char :: unescape rest := by
  by_cases special : char ∈ specials
  · simp only [specials, List.mem_cons, List.not_mem_nil, or_false] at special
    rcases special with rfl | rfl | rfl | rfl | rfl <;> rfl
  · rw [escapeChar_plain special, List.singleton_append]
    refine unescape_cons ?_ rest
    rintro rfl
    exact special List.mem_cons_self

/-! ## Texts -/

theorem unescape_escape (text : Text) : unescape (escape text) = text := by
  induction text with
  | nil => rfl
  | cons char text ih => rw [escape_cons, unescape_escapeChar, ih]

theorem escape_free {text : Text} {char : Char} (member : char ∈ escape text) : char ∉ ['<', '>', '"', '\''] := by
  obtain ⟨source, -, inside⟩ := List.mem_flatMap.mp member
  by_cases special : source ∈ specials
  · obtain ⟨name, form, -, -, clean⟩ := escapeChar_special special
    rw [form] at inside
    rcases List.mem_cons.mp inside with rfl | named
    · decide
    · exact fun bad => clean char named (List.mem_cons_of_mem _ bad)
  · rw [escapeChar_plain special] at inside
    rw [List.mem_singleton.mp inside]
    exact fun bad => special (List.mem_cons_of_mem _ bad)

/-- An ampersand in what was put in for one character is the first of an entity. -/
theorem ampersand_of_escapeChar {char : Char} {before after : Text} (split : escapeChar char = before ++ '&' :: after) :
    before = [] ∧ '&' :: after ∈ entities := by
  by_cases special : char ∈ specials
  · obtain ⟨name, form, entity, -, clean⟩ := escapeChar_special special
    rw [form] at split
    cases before with
    | nil =>
        rw [(List.cons.inj split).2] at entity
        exact ⟨rfl, entity⟩
    | cons first before =>
        have inside : '&' ∈ name := by
          rw [(List.cons.inj split).2]
          simp
        exact absurd List.mem_cons_self (clean '&' inside)
  · rw [escapeChar_plain special] at split
    cases before with
    | nil => exact absurd ((List.cons.inj split).1 ▸ List.mem_cons_self) special
    | cons first before => cases before <;> cases (List.cons.inj split).2

theorem ampersand_of_escape {text before after : Text} (split : escape text = before ++ '&' :: after) :
    ∃ entity ∈ entities, entity <+: '&' :: after := by
  induction text generalizing before with
  | nil => simp at split
  | cons char text ih =>
      rw [escape_cons] at split
      rcases List.append_eq_append_iff.mp split with ⟨rest, rfl, behind⟩ | ⟨rest, own, behind⟩
      · exact ih behind
      · cases rest with
        | nil => exact @ih [] behind.symm
        | cons first rest =>
            obtain ⟨rfl, rfl⟩ := List.cons.inj behind
            obtain ⟨-, entity⟩ := ampersand_of_escapeChar own
            exact ⟨_, entity, ⟨escape text, rfl⟩⟩

theorem length_le_escape (text : Text) : text.length ≤ (escape text).length := by
  induction text with
  | nil => exact Nat.le_refl 0
  | cons char text ih =>
      have occupied : 0 < (escapeChar char).length := by
        by_cases special : char ∈ specials
        · obtain ⟨name, form, -⟩ := escapeChar_special special
          simp [form]
        · simp [escapeChar_plain special]
      rw [escape_cons, List.length_append, List.length_cons]
      omega

theorem escape_eq_self_iff (text : Text) : escape text = text ↔ ∀ char ∈ text, char ∉ specials := by
  induction text with
  | nil => simp
  | cons char text ih =>
      rw [List.forall_mem_cons, ← ih, escape_cons]
      constructor
      · intro same
        by_cases special : char ∈ specials
        · obtain ⟨name, form, -, occupied, -⟩ := escapeChar_special special
          have lengths := congrArg List.length same
          have longer := length_le_escape text
          have named := List.length_pos_of_ne_nil occupied
          rw [form, List.length_append, List.length_cons, List.length_cons] at lengths
          omega
        · rw [escapeChar_plain special] at same
          exact ⟨special, (List.cons.inj same).2⟩
      · rintro ⟨plain, same⟩
        rw [escapeChar_plain plain, same, List.singleton_append]

theorem standsFor_escape (text : Text) : StandsFor (escape text) text where
  free _ := escape_free
  ampersands _ _ := ampersand_of_escape
  decoded := unescape_escape text
  unchanged := escape_eq_self_iff text

end Html

/-! ## Values -/

namespace Effect

/-- Escaping a value that says nothing of markup gives its text escaped.  What comes out stands for the text, and fails
to come out only where the text does.  Texts put together are escaped one by one. -/
theorem escaped_value_stands_for_text {value : Value} {world asked : World} {found : Option Value}
    (looked : attributeIfAny value "__html__" world = .done found asked) (lacks : found = none ∨ found = some .none) :
    (∀ steps depth, match callWithin steps depth (.builtin .text) [value] asked with
      | .done text _ => ∃ identity markup after,
          callWithin steps (depth + 1) (.builtin .escape) [value] world = .done (.text identity false markup) after ∧
            markup = Html.escape (contentOf text) ∧ Html.StandsFor markup (contentOf text)
      | .failed error after => callWithin steps (depth + 1) (.builtin .escape) [value] world = .failed error after
      | .exhausted => callWithin steps (depth + 1) (.builtin .escape) [value] world = .exhausted) ∧
    ∀ first second, Html.escape (first ++ second) = Html.escape first ++ Html.escape second := by
  refine ⟨fun steps depth => ?_, Html.escape_append⟩
  have escaped : callWithin steps (depth + 1) (.builtin .escape) [value] world =
      (callWithin steps depth (.builtin .text) [value] >>= fun text => newText (Html.escape (contentOf text))) asked := by
    show markupOf (callWithin steps depth) value world = _
    rw [markupOf, bind_done looked]
    rcases lacks with rfl | rfl <;> rfl
  cases shown : callWithin steps depth (.builtin .text) [value] asked with
  | done text after =>
      obtain ⟨identity, count, made, -⟩ := Routine.newText_done (Html.escape (contentOf text)) after
      exact ⟨identity, _, _, escaped.trans ((bind_done shown).trans made), rfl, Html.standsFor_escape _⟩
  | failed error after => exact escaped.trans (bind_failed shown)
  | exhausted => exact escaped.trans (bind_exhausted shown)

/-- An instance that shows itself between angle brackets is inserted with entities in their place. -/
theorem bare_instance_escaped : ∃ asked, attributeIfAny (.object 0) "__html__" pageWorld = .done none asked ∧
    ∃ identity after,
      callWithin 1 2 (.builtin .escape) [.object 0] pageWorld =
        .done (.text identity false "&lt;site.Note object&gt;") after ∧
      Html.StandsFor "&lt;site.Note object&gt;" "<site.Note object>" := by
  obtain ⟨asked, looked, identity, after, shown⟩ : ∃ asked,
      attributeIfAny (.object 0) "__html__" pageWorld = .done none asked ∧ ∃ identity after,
        callWithin 1 1 (.builtin .text) [.object 0] asked = .done (.text identity false "<site.Note object>") after :=
    ⟨_, rfl, _, _, rfl⟩
  have escaped := (escaped_value_stands_for_text looked (.inl rfl)).1 1 1
  rw [shown] at escaped
  obtain ⟨identity', markup, after', ended, form, stands⟩ := escaped
  have written : markup = "&lt;site.Note object&gt;" := form.trans rfl
  rw [written] at ended stands
  exact ⟨asked, looked, identity', after', ended, stands⟩

end Effect
end Stencil
