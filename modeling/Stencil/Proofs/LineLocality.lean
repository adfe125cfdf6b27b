import Stencil.Proofs.FilePlaces
import Stencil.Proofs.LiteralSources
import Stencil.Proofs.PlainSources
import Stencil.Proofs.Renumbering
import Stencil.Proofs.SourcePieces

/-!
# Sources line by line

A source is its lines one after the other, each with its terminator, and there is only one way to take it apart like
that.  Lines are classified one at a time, so what comes behind the end of a line is read as it is read on its own, under
later numbers.
-/

namespace Stencil

/-- Whether a line has no line feed inside and ends in one; a carriage return before the line feed belongs to the
terminator. -/
structure RawLine.Closed (raw : RawLine) : Prop where
  clean : '\n' ∉ raw.1
  terminator : raw.2 = ['\n'] ∨ raw.2 = ['\r', '\n']
  returns : raw.2 = ['\n'] → raw.1.getLast? ≠ some '\r'

/-- Whether lines, each with its terminator, make a source: no content has a line feed inside, only the last line can be
without a terminator, and then it has some content, and no content has the carriage return of its terminator. -/
structure Decomposes (source : Text) (raws : List RawLine) : Prop where
  whole : raws.flatMap RawLine.text = source
  clean : ∀ raw ∈ raws, '\n' ∉ raw.1
  terminators : ∀ raw ∈ raws, raw.2 = ['\n'] ∨ raw.2 = ['\r', '\n'] ∨ raw.2 = [] ∧ raw.1 ≠ []
  terminated : ∀ raw ∈ raws.dropLast, raw.2 ≠ []
  returns : ∀ raw ∈ raws, raw.2 = ['\n'] → raw.1.getLast? ≠ some '\r'

/-! ## Taking sources apart -/

theorem splitOn_ne_nil (separator : Char) (text : Text) : Text.splitOn separator text ≠ [] := by
  obtain ⟨pieces, last, split, -⟩ := splitOn_ends separator text
  simp [split]

theorem splitLines_separated {piece : Text} (clean : '\n' ∉ piece) (rest : Text) :
    splitLines (piece ++ '\n' :: rest) = RawLine.ofPiece piece :: splitLines rest := by
  have several := splitOn_ne_nil '\n' rest
  have last : (piece :: Text.splitOn '\n' rest).getLast? = (Text.splitOn '\n' rest).getLast? := by
    rw [List.getLast?_cons]
    cases found : (Text.splitOn '\n' rest).getLast? with
    | none => exact absurd (List.getLast?_eq_none_iff.mp found) several
    | some _ => rfl
  simp only [splitLines, Routine.splitOn_line clean, last, List.dropLast_cons_of_ne_nil several, List.map_cons]
  split <;> rfl

theorem splitLines_unterminated {content : Text} (clean : '\n' ∉ content) (filled : content ≠ []) :
    splitLines content = [(content, [])] := by
  cases content with
  | nil => exact absurd rfl filled
  | cons char content => simp [splitLines, splitOn_clean clean]

theorem RawLine.closed_ofPiece {piece : Text} (clean : '\n' ∉ piece) : (RawLine.ofPiece piece).Closed := by
  unfold RawLine.ofPiece
  split
  · exact ⟨fun inside => clean (List.dropLast_subset _ inside), .inr rfl, by simp⟩
  · rename_i back
    exact ⟨clean, .inl rfl, fun _ => back⟩

/-- A line that ends in a line feed is what its text in front of the line feed becomes. -/
theorem RawLine.Closed.ofPiece {raw : RawLine} (closed : raw.Closed) :
    ∃ piece, '\n' ∉ piece ∧ raw.text = piece ++ ['\n'] ∧ RawLine.ofPiece piece = raw := by
  obtain ⟨content, terminator⟩ := raw
  obtain ⟨clean, rfl | rfl, returns⟩ := closed
  · exact ⟨content, clean, rfl, by rw [RawLine.ofPiece, if_neg (returns rfl)]⟩
  · refine ⟨content ++ ['\r'], by simpa using clean, by simp [RawLine.text], ?_⟩
    simp [RawLine.ofPiece]

/-- Lines that end in line feeds are found in front of anything. -/
theorem splitLines_closed {raws : List RawLine} (closed : ∀ raw ∈ raws, raw.Closed) (rest : Text) :
    splitLines (raws.flatMap RawLine.text ++ rest) = raws ++ splitLines rest := by
  induction raws with
  | nil => rfl
  | cons raw raws ih =>
      obtain ⟨own, others⟩ := List.forall_mem_cons.mp closed
      obtain ⟨piece, clean, text, made⟩ := own.ofPiece
      calc splitLines ((raw :: raws).flatMap RawLine.text ++ rest)
          = splitLines (piece ++ '\n' :: (raws.flatMap RawLine.text ++ rest)) := by simp [text]
        _ = raw :: splitLines (raws.flatMap RawLine.text ++ rest) := by rw [splitLines_separated clean, made]
        _ = raw :: raws ++ splitLines rest := by rw [ih others]; rfl

theorem Decomposes.closed {source : Text} {raws : List RawLine} (decomposes : Decomposes source raws) {raw : RawLine}
    (member : raw ∈ raws) (ends : raw.2 ≠ []) : raw.Closed where
  clean := decomposes.clean raw member
  terminator := by
    obtain single | pair | ⟨none, -⟩ := decomposes.terminators raw member
    · exact .inl single
    · exact .inr pair
    · exact absurd none ends
  returns := decomposes.returns raw member

/-- The lines of a source can be read off any way of taking it apart. -/
theorem Decomposes.eq_splitLines {source : Text} {raws : List RawLine} (decomposes : Decomposes source raws) :
    raws = splitLines source := by
  have whole := decomposes.whole
  rcases List.eq_nil_or_concat' raws with rfl | ⟨front, last, rfl⟩
  · subst whole
    rfl
  · have inside : last ∈ front ++ [last] := by simp
    have fronts : ∀ raw ∈ front, raw.Closed := fun raw member =>
      decomposes.closed (by simp [member]) (decomposes.terminated raw (by simpa using member))
    rw [List.flatMap_append, List.flatMap_singleton] at whole
    by_cases ends : last.2 = []
    · have filled : last.1 ≠ [] := by simpa [ends] using decomposes.terminators last inside
      rw [← whole, splitLines_closed fronts, RawLine.text, ends, List.append_nil,
        splitLines_unterminated (decomposes.clean last inside) filled, ← ends]
    · have closed := decomposes.closed inside ends
      have all : ∀ raw ∈ front ++ [last], raw.Closed := by
        intro raw member
        rcases List.mem_append.mp member with member | member
        · exact fronts raw member
        · rwa [List.mem_singleton.mp member]
      calc front ++ [last] = splitLines ((front ++ [last]).flatMap RawLine.text ++ []) := by
            rw [splitLines_closed all]
            exact (List.append_nil _).symm
        _ = splitLines source := by simp [← whole]

theorem terminators_splitLines (source : Text) : ∃ (pieces : List Text) (last : Text),
    (∀ piece ∈ pieces, '\n' ∉ piece) ∧ '\n' ∉ last ∧ splitLines source = pieces.map RawLine.ofPiece ++ if last = [] then [] else [(last, [])] := by
  obtain ⟨pieces, last, split, -⟩ := splitOn_ends '\n' source
  have clean := feeds_of_splitOn '\n' source
  rw [split] at clean
  refine ⟨pieces, last, fun piece member => clean piece (by simp [member]), clean last (by simp), ?_⟩
  cases last <;> simp [splitLines, split]

/-- The lines of a source make it. -/
theorem decomposes_splitLines (source : Text) : Decomposes source (splitLines source) := by
  have whole := flatMap_splitLines source
  obtain ⟨pieces, last, clean, tail, lines⟩ := terminators_splitLines source
  rw [lines] at whole ⊢
  have front : ∀ raw ∈ pieces.map RawLine.ofPiece, raw.Closed := by
    intro raw member
    obtain ⟨piece, inside, rfl⟩ := List.mem_map.mp member
    exact RawLine.closed_ofPiece (clean piece inside)
  have ended : ∀ raw ∈ pieces.map RawLine.ofPiece, raw.2 ≠ [] := by
    intro raw member
    obtain single | pair := (front raw member).terminator
    · simp [single]
    · simp [pair]
  by_cases filled : last = []
  · rw [if_pos filled, List.append_nil] at whole ⊢
    exact ⟨whole, fun raw member => (front raw member).clean, fun raw member => (front raw member).terminator.imp_right .inl,
      fun raw member => ended raw (List.dropLast_subset _ member), fun raw member => (front raw member).returns⟩
  · rw [if_neg filled] at whole ⊢
    refine ⟨whole, fun raw member => ?_, fun raw member => ?_, fun raw member => ?_, fun raw member => ?_⟩
    · rcases List.mem_append.mp member with member | member
      · exact (front raw member).clean
      · rwa [List.mem_singleton.mp member]
    · rcases List.mem_append.mp member with member | member
      · exact (front raw member).terminator.imp_right .inl
      · rw [List.mem_singleton.mp member]
        exact .inr (.inr ⟨rfl, filled⟩)
    · rw [List.dropLast_concat] at member
      exact ended raw member
    · rcases List.mem_append.mp member with member | member
      · exact (front raw member).returns
      · rw [List.mem_singleton.mp member]
        simp

/-- The lines of a source that ends with a line are the first lines of whatever begins with it. -/
theorem splitLines_append {before : Text} (ends : before = [] ∨ before.getLast? = some '\n') (after : Text) :
    splitLines (before ++ after) = splitLines before ++ splitLines after := by
  have decomposes := decomposes_splitLines before
  have closed : ∀ raw ∈ splitLines before, raw.Closed := by
    intro raw member
    refine decomposes.closed member fun unended => ?_
    obtain ⟨front, last, lines⟩ : ∃ front last, splitLines before = front ++ [last] :=
      ⟨_, _, (List.dropLast_append_getLast (List.ne_nil_of_mem member)).symm⟩
    have whole := decomposes.whole
    have terminated := decomposes.terminated raw
    rw [lines, List.dropLast_concat] at terminated
    rw [lines] at member whole
    have here : raw = last := by
      rcases List.mem_append.mp member with member | member
      · exact absurd unended (terminated member)
      · exact List.mem_singleton.mp member
    subst here
    have filled : raw.1 ≠ [] := by simpa [unended] using decomposes.terminators raw (by simp [lines])
    obtain ⟨char, back⟩ := Option.ne_none_iff_exists'.mp (mt List.getLast?_eq_none_iff.mp filled)
    have final : before.getLast? = some char := by
      rw [← whole, List.flatMap_append, List.flatMap_singleton, RawLine.text, unended, List.append_nil,
        List.getLast?_append, back, Option.some_or]
    have clean := decomposes.clean raw (by simp [lines])
    rcases ends with rfl | ends
    · cases final
    · rw [final] at ends
      exact clean (Option.some.inj ends ▸ List.mem_of_getLast? back)
  calc splitLines (before ++ after) = splitLines ((splitLines before).flatMap RawLine.text ++ after) := by
        rw [decomposes.whole]
    _ = splitLines before ++ splitLines after := splitLines_closed closed after

/-! ## Classifying line by line -/

namespace Line

/-- The outcome of classifying lines, under other numbers. -/
def renumbered (f : Int → Int) (outcome : Except Flaw (List Line)) : Except Flaw (List Line) :=
  (outcome.map (List.map (renumber f))).mapError (Flaw.renumber f)

theorem classify_number {marker : Text} {number : Int} {raw : RawLine} {line : Line}
    (read : classify marker number raw = .ok line) :
    line.number = number ∧ line.content = raw.1 ∧ line.terminator = raw.2 := by
  unfold classify at read
  split at read
  · cases read
    exact ⟨rfl, rfl, rfl⟩
  · split at read
    · cases read
      exact ⟨rfl, rfl, rfl⟩
    · split at read
      · cases read
        exact ⟨rfl, rfl, rfl⟩
      · cases read

theorem classify_renumber (marker : Text) (f : Int → Int) (number : Int) (raw : RawLine) :
    classify marker (f number) raw = ((classify marker number raw).map (renumber f)).mapError (Flaw.renumber f) := by
  unfold classify
  cases statement? marker raw.1 with
  | some statement => rfl
  | none =>
      cases raw.1.isEmpty with
      | true => rfl
      | false =>
          dsimp only
          cases scan raw.1 <;> rfl

/-- There is one line for each physical line, with its number. -/
theorem classifyFrom_numbered {marker : Text} {number : Int} {raws : List RawLine} {lines : List Line}
    (read : classifyFrom marker number raws = .ok lines) :
    lines.map (fun line => (line.number, line.content, line.terminator)) =
      raws.mapIdx fun place raw => (number + place, raw.1, raw.2) := by
  induction raws generalizing number lines with
  | nil =>
      cases read
      rfl
  | cons raw raws ih =>
      rw [classifyFrom] at read
      split at read
      · cases read
      · rename_i line first
        split at read
        · cases read
        · rename_i others rest
          cases read
          obtain ⟨own, content, terminator⟩ := classify_number first
          rw [List.map_cons, List.mapIdx_cons, ih rest, own, content, terminator]
          have moved : (fun place (raw : RawLine) => (number + 1 + ((place : Nat) : Int), raw.1, raw.2)) =
              fun place raw => (number + ((place + 1 : Nat) : Int), raw.1, raw.2) := by
            funext place raw
            rw [Nat.cast_succ, Int.add_assoc, Int.add_comm 1]
          rw [moved]
          simp

/-- Lines under later numbers are classified as they are under earlier ones. -/
theorem classifyFrom_renumber (marker : Text) (shift number : Int) (raws : List RawLine) :
    classifyFrom marker (number + shift) raws = renumbered (· + shift) (classifyFrom marker number raws) := by
  induction raws generalizing number with
  | nil => rfl
  | cons raw raws ih =>
      have next : number + shift + 1 = number + 1 + shift := by omega
      rw [classifyFrom, classifyFrom, classify_renumber marker (· + shift) number raw, next, ih (number + 1)]
      cases classify marker number raw with
      | error flaw => rfl
      | ok line => cases classifyFrom marker (number + 1) raws <;> rfl

/-- Lines are classified up to the first flaw. -/
theorem classifyFrom_append (marker : Text) (number : Int) (raws more : List RawLine) :
    classifyFrom marker number (raws ++ more) = (do
      let lines ← classifyFrom marker number raws
      let others ← classifyFrom marker (number + raws.length) more
      return lines ++ others) := by
  induction raws generalizing number with
  | nil =>
      rw [List.nil_append, List.length_nil, Nat.cast_zero, Int.add_zero]
      cases classifyFrom marker number more <;> rfl
  | cons raw raws ih =>
      have next : number + ((raw :: raws).length : Int) = number + 1 + raws.length := by
        rw [List.length_cons, Nat.cast_succ]
        omega
      rw [List.cons_append, classifyFrom, classifyFrom, next, ih (number + 1)]
      cases classify marker number raw with
      | error flaw => rfl
      | ok line =>
          cases classifyFrom marker (number + 1) raws with
          | error flaw => rfl
          | ok lines => cases classifyFrom marker (number + 1 + raws.length) more <;> rfl

end Line

/-- The lines of a source, with their terminators, make it, and no other lines do.  Classifying gives one line for each of
them, numbered from one on; what stands behind a source that ends with a line is classified as it is on its own, under
later numbers, unless the source has a flaw, which comes first. -/
theorem source_read_by_lines (marker source : Text) :
    (∀ raws, Decomposes source raws ↔ raws = splitLines source) ∧
    (∀ lines, Line.ofSource marker source = .ok lines →
      lines.map (fun line => (line.number, line.content, line.terminator)) =
        (splitLines source).mapIdx fun place raw => (1 + (place : Int), raw.1, raw.2)) ∧
    (source = [] ∨ source.getLast? = some '\n' → ∀ behind,
      Line.ofSource marker (source ++ behind) = (do
        let lines ← Line.ofSource marker source
        let others ← Line.renumbered (· + ((splitLines source).length : Int)) (Line.ofSource marker behind)
        return lines ++ others)) := by
  refine ⟨fun raws => ⟨Decomposes.eq_splitLines, ?_⟩, fun lines read => Line.classifyFrom_numbered read, ?_⟩
  · rintro rfl
    exact decomposes_splitLines source
  · intro ends behind
    rw [Line.ofSource, splitLines_append ends, Line.classifyFrom_append, Line.classifyFrom_renumber]
    rfl

/-- An unclosed fragment behind an opener is told on the line on which it stands. -/
theorem unclosed_behind_opener : Line.ofSource "%%" ("%% if x \x7b\r\n" ++ "a \x7b\x7b b".toList) = (do
    let lines ← Line.ofSource "%%" "%% if x \x7b\r\n"
    let others ← Line.renumbered (· + 1) (Line.ofSource "%%" "a \x7b\x7b b")
    return lines ++ others) :=
  (source_read_by_lines "%%" "%% if x \x7b\r\n").2.2 (by decide) "a \x7b\x7b b"

end Stencil
