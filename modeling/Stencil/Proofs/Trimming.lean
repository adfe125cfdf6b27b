import Mathlib.Data.List.DropRight
import Stencil.Text.Blank

/-!
# Trimmed texts

Trimming keeps only characters of a text; what it keeps neither starts nor ends with a blank, and it keeps all of a
text that does neither.  A text that starts with another one is that one and what follows it.
-/

namespace Stencil.Text

theorem eq_of_afterLead? {lead text rest : Text} (found : afterLead? lead text = some rest) : text = lead ++ rest := by
  fun_induction afterLead? lead text with
  | case1 => exact Option.some.inj found
  | case2 => cases found
  | case3 lead char text ih => exact congrArg (char :: ·) (ih found)
  | case4 => cases found

theorem eq_of_startsWith {lead text : Text} (start : startsWith lead text) : ∃ rest, text = lead ++ rest := by
  obtain ⟨rest, found⟩ := Option.isSome_iff_exists.mp start
  exact ⟨rest, eq_of_afterLead? found⟩

theorem dropTailWhile_eq_rdropWhile (test : Char → Bool) (text : Text) :
    dropTailWhile test text = text.rdropWhile test := by
  have snoc (text : Text) (last : Char) : dropTailWhile test (text ++ [last]) =
      if test last then dropTailWhile test text else text ++ [last] := by
    induction text with
    | nil => by_cases blank : test last <;> simp [dropTailWhile, blank]
    | cons char text ih =>
      rw [List.cons_append, dropTailWhile, ih]
      by_cases blank : test last
      · rw [if_pos blank, if_pos blank]
        rfl
      · rw [if_neg blank, if_neg blank]
        cases text <;> rfl
  induction text using List.reverseRecOn with
  | nil => rfl
  | append_singleton text last ih => rw [snoc, List.rdropWhile_concat, ih]

theorem trim_eq (text : Text) : text.trim = (text.dropWhile isBlank).rdropWhile isBlank :=
  dropTailWhile_eq_rdropWhile _ _

theorem mem_of_mem_trim {text : Text} {char : Char} (member : char ∈ text.trim) : char ∈ text := by
  rw [trim_eq] at member
  exact (List.dropWhile_sublist _).subset ((List.rdropWhile_prefix _ _).subset member)

theorem head?_trim {text : Text} {char : Char} (first : char ∈ text.trim.head?) : isBlank char = false := by
  rw [trim_eq] at first
  have start : char ∈ (List.dropWhile isBlank text).head? := by
    obtain ⟨rest, same⟩ := List.rdropWhile_prefix isBlank (List.dropWhile isBlank text)
    rw [← same]
    exact List.mem_head?_append_of_mem_head? first
  have stopped := List.head?_dropWhile_not isBlank text
  rwa [start] at stopped

theorem getLast?_trim {text : Text} {char : Char} (last : char ∈ text.trim.getLast?) : isBlank char = false := by
  rw [trim_eq] at last
  obtain ⟨occupied, rfl⟩ := List.mem_getLast?_eq_getLast last
  exact Bool.eq_false_iff.mpr (List.rdropWhile_last_not _ _ occupied)

/-- A text that neither starts nor ends with a blank is kept. -/
theorem trim_eq_self {text : Text} (first : ∀ char ∈ text.head?, isBlank char = false)
    (last : ∀ char ∈ text.getLast?, isBlank char = false) : text.trim = text := by
  have start : text.dropWhile isBlank = text := by
    cases text with
    | nil => rfl
    | cons char text => exact List.dropWhile_cons_of_neg (by simp [first char rfl])
  rw [trim_eq, start, List.rdropWhile_eq_self_iff]
  intro occupied
  simpa using last _ (List.getLast_mem_getLast? occupied)

theorem dropWhile_trim (text : Text) : text.trim.dropWhile isBlank = text.trim := by
  cases trimmed : text.trim with
  | nil => rfl
  | cons char rest =>
    have first : char ∈ text.trim.head? := by rw [trimmed]; rfl
    exact List.dropWhile_cons_of_neg (by simp [head?_trim first])

@[simp] theorem trim_trim (text : Text) : text.trim.trim = text.trim := by
  rw [trim_eq text.trim, dropWhile_trim, trim_eq text, List.rdropWhile_idempotent]

/-- A first character that is no blank is kept. -/
theorem head?_trim_cons {char : Char} (shown : isBlank char = false) (text : Text) :
    (trim (char :: text)).head? = some char := by
  have start : (char :: text).dropWhile isBlank = char :: text := List.dropWhile_cons_of_neg (by simp [shown])
  rw [trim_eq, start]
  obtain ⟨rest, same⟩ := List.rdropWhile_prefix isBlank (char :: text)
  cases kept : (char :: text).rdropWhile isBlank with
  | nil =>
    have blank := List.rdropWhile_eq_nil_iff.mp kept char (.head _)
    cases shown.symm.trans blank
  | cons first others =>
    rw [kept] at same
    injection same with first
    rw [first]
    rfl

theorem trim_cons_blank {char : Char} (blank : isBlank char = true) (text : Text) :
    trim (char :: text) = text.trim := by
  rw [trim_eq, trim_eq, List.dropWhile_cons_of_pos blank]

/-- A blank behind a trimmed text is dropped. -/
theorem trim_snoc_blank {text : Text} {char : Char} (blank : isBlank char = true) (trimmed : text.trim = text) :
    trim (text ++ [char]) = text := by
  cases text with
  | nil => rw [List.nil_append, trim_cons_blank blank]; rfl
  | cons head rest =>
    have start := dropWhile_trim (head :: rest)
    rw [trimmed] at start
    have first : ¬ isBlank head = true := by
      intro blank
      rw [List.dropWhile_cons_of_pos blank] at start
      have shorter := (List.dropWhile_sublist isBlank (l := rest)).length_le
      rw [start, List.length_cons] at shorter
      omega
    rw [trim_eq, List.cons_append, List.dropWhile_cons_of_neg first, ← List.cons_append,
      List.rdropWhile_concat_pos _ _ _ blank, ← dropTailWhile_eq_rdropWhile]
    rw [trim_eq, start, ← dropTailWhile_eq_rdropWhile] at trimmed
    exact trimmed

end Stencil.Text
