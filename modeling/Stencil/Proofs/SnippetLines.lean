import Stencil.Diagnostic.Snippet
import Stencil.Proofs.LineLocality

/-!
# The lines of snippets

A snippet takes its lines from the pieces of a source between its line feeds, and not from the lines that the source is
read by.  It shows the lines that are near enough, in order, but without any carriage return at their ends; and when the
source ends with a line feed it can show one more line behind the last one, which is empty.
-/

namespace Stencil

/-- The numeral of an integer has no characters but digits and a minus. -/
theorem Text.mem_ofInt {number : Int} {char : Char} (inside : char ∈ Text.ofInt number) :
    char.isDigit = true ∨ char = '-' := by
  cases number with
  | ofNat magnitude => exact .inl (Nat.isDigit_of_mem_toDigits (by decide) (by decide) inside)
  | negSucc below =>
      rcases List.mem_cons.mp inside with rfl | inside
      · exact .inr rfl
      · exact .inl (Nat.isDigit_of_mem_toDigits (by decide) (by decide) inside)

namespace Snippet

/-- Those of numbered lines that are at most so far away from a line. -/
def near (line context : Int) (lines : List (Int × Text)) : List (Int × Text) :=
  lines.filter fun entry => (entry.1 - line).natAbs ≤ context

/-- The line that a source seems to have behind the line feed at its end. -/
def phantom (source : Text) : List Text := if source.getLast? = some '\n' then [[]] else []

/-! ## Windows -/

theorem number_append (first : Int) (texts more : List Text) :
    number first (texts ++ more) = number first texts ++ number (first + texts.length) more := by
  induction texts generalizing first with
  | nil => simp [number]
  | cons text texts ih =>
      rw [List.cons_append, number, ih, number, List.length_cons, Nat.cast_succ, Int.add_assoc, Int.add_comm 1]
      rfl

theorem number_map (f : Text → Text) (first : Int) (texts : List Text) :
    number first (texts.map f) = (number first texts).map fun entry => (entry.1, f entry.2) := by
  induction texts generalizing first with
  | nil => rfl
  | cons text texts ih => exact congrArg _ (ih (first + 1))

theorem mem_number {first number' : Int} {text : Text} {texts : List Text} :
    (number', text) ∈ number first texts ↔ ∃ place : Nat, texts[place]? = some text ∧ number' = first + place := by
  induction texts generalizing first with
  | nil => simp [number]
  | cons head texts ih =>
      rw [number, List.mem_cons, ih]
      constructor
      · rintro (same | ⟨place, found, rfl⟩)
        · cases same
          exact ⟨0, rfl, (Int.add_zero _).symm⟩
        · exact ⟨place + 1, found, by omega⟩
      · rintro ⟨place, found, rfl⟩
        cases place with
        | zero =>
            cases found
            exact .inl (by simp)
        | succ place => exact .inr ⟨place, found, by omega⟩

/-- The numbered texts between two numbers are a stretch of the texts. -/
theorem filter_number (low high first : Int) (texts : List Text) :
    (number first texts).filter (fun entry => low ≤ entry.1 ∧ entry.1 ≤ high) =
      number (max first low) ((texts.drop (low - first).toNat).take (high + 1 - max first low).toNat) := by
  induction texts generalizing first with
  | nil => simp [number]
  | cons text texts ih =>
      rw [number, List.filter_cons, ih]
      by_cases early : first < low
      · -- In front of the window a number is left out and the window comes one text nearer.
        have dropped : (low - first).toNat = (low - (first + 1)).toNat + 1 := by omega
        have start : max (first + 1) low = max first low := by omega
        rw [if_neg (by simp; omega), dropped, List.drop_succ_cons, start]
      · have start : max first low = first := by omega
        have next : max (first + 1) low = first + 1 := by omega
        have all : (low - first).toNat = 0 := by omega
        have all' : (low - (first + 1)).toNat = 0 := by omega
        rw [start, next, all, all', List.drop_zero, List.drop_zero]
        by_cases late : high < first
        · have none_left : (high + 1 - first).toNat = 0 := by omega
          have none_left' : (high + 1 - (first + 1)).toNat = 0 := by omega
          rw [if_neg (by simp; omega), none_left, none_left', List.take_zero, List.take_zero]
          rfl
        · have left : (high + 1 - first).toNat = (high + 1 - (first + 1)).toNat + 1 := by omega
          rw [if_pos (by simp; omega), left, List.take_succ_cons]
          rfl

/-- A snippet shows the pieces between line feeds that are near enough. -/
theorem around_pieces (source : Text) (line context : Int) (column : Option Int) :
    (around source line context column).lines = near line context (number 1 ((Text.splitOn '\n' source).map content)) := by
  have close : near line context (number 1 ((Text.splitOn '\n' source).map content)) =
      (number 1 ((Text.splitOn '\n' source).map content)).filter fun entry =>
        line - context ≤ entry.1 ∧ entry.1 ≤ line + context := by
    refine List.filter_congr fun entry _ => ?_
    rw [decide_eq_decide]
    omega
  have start : max 0 (line - 1 - context) + 1 = max 1 (line - context) := by omega
  have dropped : (max 0 (line - 1 - context)).toNat = (line - context - 1).toNat := by omega
  rw [close, filter_number, around]
  dsimp only
  rw [start, dropped, List.map_take, List.map_drop]
  congr 1
  rw [List.take_eq_take_iff, List.length_drop, List.length_map]
  omega

/-! ## Pieces and lines -/

/-- A piece is shown with no other characters than its own. -/
theorem content_subset (piece : Text) : content piece ⊆ piece := by
  rw [content, Text.dropTailWhile_eq_rdropWhile]
  exact (List.rdropWhile_prefix _ _).subset

theorem content_snoc (text : Text) : content (text ++ ['\r']) = content text := by
  simp [content, Text.dropTailWhile_eq_rdropWhile]

theorem content_ofPiece (piece : Text) : content (RawLine.ofPiece piece).1 = content piece := by
  by_cases back : piece.getLast? = some '\r'
  · have whole : piece.dropLast ++ ['\r'] = piece := List.dropLast_append_getLast? _ back
    rw [RawLine.ofPiece, if_pos back]
    calc content piece.dropLast = content (piece.dropLast ++ ['\r']) := (content_snoc _).symm
      _ = content piece := by rw [whole]
  · rw [RawLine.ofPiece, if_neg back]

/-- A text is shown as it is when it does not end with a carriage return. -/
theorem content_eq_self_iff (text : Text) : content text = text ↔ text.getLast? ≠ some '\r' := by
  rw [content, Text.dropTailWhile_eq_rdropWhile, List.rdropWhile_eq_self_iff]
  constructor
  · intro kept back
    obtain ⟨front, rfl⟩ := List.getLast?_eq_some_iff.mp back
    simpa using kept (by simp)
  · intro other occupied
    rw [List.getLast?_eq_getLast_of_ne_nil occupied] at other
    simpa using other

/-- The pieces of a source are its lines, and one more that is empty when the source ends with a line feed. -/
theorem contents_splitOn {source : Text} (filled : source ≠ []) :
    (Text.splitOn '\n' source).map content = (splitLines source).map (content ·.1) ++ phantom source := by
  obtain ⟨pieces, last, split, whole⟩ := splitOn_ends '\n' source
  have fronts : pieces.map content = (pieces.map RawLine.ofPiece).map (content ·.1) := by
    simp [Function.comp_def, content_ofPiece]
  cases last with
  | nil =>
      rcases List.eq_nil_or_concat' pieces with rfl | ⟨front, final, rfl⟩
      · exact absurd whole.symm filled
      · have ends : source.getLast? = some '\n' := by
          rw [← whole]
          simp
        have lines : splitLines source = (front ++ [final]).map RawLine.ofPiece := by simp [splitLines, split]
        rw [phantom, if_pos ends, lines, split, List.map_append, fronts]
        rfl
  | cons char last =>
      have clean : '\n' ∉ char :: last := feeds_of_splitOn '\n' source _ (by simp [split])
      have other : source.getLast? ≠ some '\n' := by
        rw [← whole, List.getLast?_append_of_ne_nil _ (List.cons_ne_nil _ _)]
        exact fun ends => clean (List.mem_of_getLast? ends)
      have lines : splitLines source = pieces.map RawLine.ofPiece ++ [(char :: last, [])] := by simp [splitLines, split]
      rw [phantom, if_neg other, lines, split, List.map_append, fronts, List.map_append, List.append_nil]
      rfl

/-! ## Snippets and lines -/

variable {source : Text} {line context : Int}

/-- A snippet shows the lines of a source that are near enough, without carriage returns at their ends, and then the empty
line behind a line feed at the end if that is near enough. -/
theorem around_lines (filled : source ≠ []) (column : Option Int) : (around source line context column).lines =
    near line context (number 1 ((splitLines source).map (content ·.1) ++ phantom source)) := by
  rw [around_pieces, contents_splitOn filled]

theorem near_append (lines more : List (Int × Text)) :
    near line context (lines ++ more) = near line context lines ++ near line context more :=
  List.filter_append ..

theorem near_map (f : Text → Text) (lines : List (Int × Text)) :
    near line context (lines.map fun entry => (entry.1, f entry.2)) =
      (near line context lines).map fun entry => (entry.1, f entry.2) :=
  List.filter_map

/-- Whether a snippet around a line reaches the line that a source seems to have behind its last one. -/
theorem near_phantom (inside : line ≤ (splitLines source).length) :
    near line context (number (1 + (splitLines source).length) (phantom source)) = [] ↔
      ¬ (source.getLast? = some '\n' ∧ ((splitLines source).length + 1 - line : Int) ≤ context) := by
  unfold phantom
  split
  · rename_i ends
    simp only [near, number, List.filter_eq_nil_iff, List.mem_singleton, forall_eq, decide_eq_true_eq, ends, true_and]
    omega
  · rename_i other
    simp [near, number, other]

theorem map_append_eq_self_iff {α : Type} (f : α → α) (items more : List α) :
    items.map f ++ more = items ↔ (∀ item ∈ items, f item = item) ∧ more = [] := by
  constructor
  · intro same
    have none_more : more = [] := by
      have lengths := congrArg List.length same
      rw [List.length_append, List.length_map] at lengths
      exact List.eq_nil_of_length_eq_zero (by omega)
    rw [none_more, List.append_nil] at same
    exact ⟨List.map_inj_left.mp (same.trans (List.map_id items).symm), none_more⟩
  · rintro ⟨same, rfl⟩
    rw [List.append_nil, List.map_congr_left same, List.map_id']

/-- The lines of a snippet are the near lines of the source, without carriage returns at their ends, and then the empty
line behind a line feed at the end if that is near as well.  The line at fault is among them, and they are the lines as
the source is read exactly if no near line ends with a carriage return and the line behind the last one is not near. -/
theorem snippet_shows_near_lines (column : Option Int) (first : 1 ≤ line) (inside : line ≤ (splitLines source).length)
    (wide : 0 ≤ context) :
    (around source line context column).lines =
        near line context (number 1 ((splitLines source).map (content ·.1) ++ phantom source)) ∧
      (∃ raw, (splitLines source)[line.toNat - 1]? = some raw ∧
        (line, content raw.1) ∈ (around source line context column).lines) ∧
      ((around source line context column).lines = near line context (number 1 ((splitLines source).map Prod.fst)) ↔
        (∀ entry ∈ near line context (number 1 ((splitLines source).map Prod.fst)), entry.2.getLast? ≠ some '\r') ∧
          ¬ (source.getLast? = some '\n' ∧ ((splitLines source).length + 1 - line : Int) ≤ context)) := by
  have filled : source ≠ [] := by
    rintro rfl
    have empty : line ≤ 0 := inside
    omega
  have lines : (around source line context column).lines =
      near line context (number 1 ((splitLines source).map (content ·.1) ++ phantom source)) := around_lines filled column
  refine ⟨lines, ?_, ?_⟩
  · obtain ⟨raw, there⟩ : ∃ raw, (splitLines source)[line.toNat - 1]? = some raw :=
      ⟨_, List.getElem?_eq_getElem (by omega)⟩
    have numbered : (line, content raw.1) ∈
        number 1 ((splitLines source).map (content ·.1) ++ phantom source) := by
      refine mem_number.mpr ⟨line.toNat - 1, ?_, by omega⟩
      rw [List.getElem?_append_left (by rw [List.length_map]; omega), List.getElem?_map, there, Option.map_some]
    refine ⟨raw, there, ?_⟩
    rw [lines]
    exact List.mem_filter.mpr ⟨numbered, by simpa using wide⟩
  · have contents : (splitLines source).map (content ·.1) = ((splitLines source).map Prod.fst).map content := by
      simp
    rw [lines, contents, number_append, near_append, number_map, near_map, map_append_eq_self_iff, List.length_map,
      List.length_map, near_phantom inside]
    refine and_congr_left fun _ => forall₂_congr fun entry _ => ?_
    rw [Prod.ext_iff, ← content_eq_self_iff]
    exact and_iff_right rfl

/-- Two carriage returns at the end of a line are left out, and the line behind the last one is shown. -/
theorem returns_left_out : (around "a\r\r\nb\n" 2 1 none).lines = [(1, "a".toList), (2, "b".toList), (3, [])] :=
  (snippet_shows_near_lines none (by decide) (by decide) (by decide)).1.trans (by decide)

/-- A source of one line that ends with a line feed is shown with two lines. -/
theorem final_feed_shows_second_line :
    (splitLines "a\n").length = 1 ∧ (around "a\n" 1 2 none).lines = [(1, "a".toList), (2, [])] ∧
      near 1 2 (number 1 ((splitLines "a\n").map Prod.fst)) = [(1, "a".toList)] := by
  decide

end Snippet
end Stencil
