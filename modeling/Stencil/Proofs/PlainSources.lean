import Stencil.Proofs.LeftmostMarkers
import Stencil.Proofs.LineOrder
import Stencil.Proofs.Suite
import Stencil.Proofs.Trimming

/-!
# Plain sources

A source without directives and without markers of fragments is nothing but output: its lines are leaves of the tree,
and the instructions of its plan are literals that make the source again.
-/

namespace Stencil

/-- Whether no line of a text is a directive and no fragment starts anywhere in it. -/
structure PlainText (marker text : Text) : Prop where
  directives : ∀ raw ∈ splitLines text, ¬ marker <+: raw.1.trimStart
  braces : ¬ Marker.braces.text <:+: text
  dollars : ¬ Marker.dollars.text <:+: text

/-! ## Lines make their source -/

theorem splitOn_ends (separator : Char) (text : Text) : ∃ pieces last, Text.splitOn separator text = pieces ++ [last] ∧
    (pieces.flatMap fun piece => piece ++ [separator]) ++ last = text := by
  induction text with
  | nil => exact ⟨[], [], rfl, rfl⟩
  | cons char text ih =>
      obtain ⟨pieces, last, split, whole⟩ := ih
      by_cases same : char = separator
      · subst same
        refine ⟨[] :: pieces, last, ?_, ?_⟩
        · rw [Text.splitOn, if_pos rfl, split]
          rfl
        · rw [List.flatMap_cons, List.nil_append, List.append_assoc, whole]
          rfl
      · cases pieces with
        | nil =>
            refine ⟨[], char :: last, ?_, ?_⟩
            · simp [Text.splitOn, same, split]
            · exact congrArg (char :: ·) whole
        | cons piece pieces =>
            refine ⟨(char :: piece) :: pieces, last, ?_, ?_⟩
            · simp [Text.splitOn, same, split]
            · exact congrArg (char :: ·) whole

/-- A line with its terminator. -/
def RawLine.text (raw : RawLine) : Text := raw.1 ++ raw.2

theorem text_ofPiece (piece : Text) : (RawLine.ofPiece piece).text = piece ++ ['\n'] := by
  by_cases back : piece.getLast? = some '\r'
  · have whole : piece.dropLast ++ ['\r'] = piece := List.dropLast_append_getLast? _ back
    rw [RawLine.ofPiece, if_pos back, RawLine.text]
    calc piece.dropLast ++ ['\r', '\n'] = piece.dropLast ++ ['\r'] ++ ['\n'] := by simp
      _ = piece ++ ['\n'] := by rw [whole]
  · rw [RawLine.ofPiece, if_neg back, RawLine.text]

/-- The lines of a source, each with its terminator, make the source. -/
theorem flatMap_splitLines (source : Text) : (splitLines source).flatMap RawLine.text = source := by
  obtain ⟨pieces, last, split, whole⟩ := splitOn_ends '\n' source
  have closed : (pieces.map RawLine.ofPiece).flatMap RawLine.text = pieces.flatMap fun piece => piece ++ ['\n'] := by
    rw [List.flatMap_map]
    exact congrArg (pieces.flatMap ·) (funext text_ofPiece)
  cases last with
  | nil =>
      have lines : splitLines source = pieces.map RawLine.ofPiece := by simp [splitLines, split]
      rw [lines, closed, ← whole, List.append_nil]
  | cons char rest =>
      have lines : splitLines source = pieces.map RawLine.ofPiece ++ [(char :: rest, [])] := by
        simp [splitLines, split]
      rw [lines, List.flatMap_append, closed, List.flatMap_singleton, RawLine.text, List.append_nil, whole]

theorem infix_of_splitLines {source : Text} {raw : RawLine} (member : raw ∈ splitLines source) : raw.1 <:+: source := by
  have inside : raw.text <:+: source := by
    obtain ⟨before, after, split⟩ := List.append_of_mem member
    refine ⟨before.flatMap RawLine.text, after.flatMap RawLine.text, ?_⟩
    calc before.flatMap RawLine.text ++ raw.text ++ after.flatMap RawLine.text
        = (splitLines source).flatMap RawLine.text :=
          by rw [split, List.flatMap_append, List.flatMap_cons, List.append_assoc]
      _ = source := flatMap_splitLines source
  exact (List.prefix_append raw.1 raw.2).isInfix.trans inside

/-! ## Classification -/

/-- A line that is output as it stands. -/
def plainLine (number : Int) (raw : RawLine) : Line :=
  ⟨number, raw.1, raw.2, if raw.1.isEmpty then .blank else .text [.literal raw.1]⟩

/-- Lines that are output as they stand, numbered from a number on. -/
def plainLinesFrom : Int → List RawLine → List Line
  | _, [] => []
  | number, raw :: raws => plainLine number raw :: plainLinesFrom (number + 1) raws

theorem first?_eq_none {text : Text} (braces : ¬ Marker.braces.text <:+: text)
    (dollars : ¬ Marker.dollars.text <:+: text) :
    Marker.first? text = none := by
  rw [Option.eq_none_iff_forall_ne_some]
  rintro ⟨before, marker, after⟩ found
  obtain ⟨whole, -⟩ := Marker.first?_eq_some found
  have inside : marker.text <:+: text := ⟨before, after, by rw [whole, List.append_assoc]⟩
  cases marker with
  | braces => exact braces inside
  | dollars => exact dollars inside

theorem classify_plain {marker : Text} {raw : RawLine} (number : Int) (undirected : ¬ marker <+: raw.1.trimStart)
    (unmarked : Marker.first? raw.1 = none) : Line.classify marker number raw = .ok (plainLine number raw) := by
  have statement : Line.statement? marker raw.1 = none := by
    rw [Line.statement?, Option.map_eq_none_iff, Option.eq_none_iff_forall_ne_some]
    intro rest found
    exact undirected ⟨rest, (Text.eq_of_afterLead? found).symm⟩
  rw [Line.classify, statement, plainLine]
  dsimp only
  by_cases empty : raw.1.isEmpty
  · rw [if_pos empty, if_pos empty]
  · rw [if_neg empty, if_neg empty, scan, scanFrom_free unmarked]
    obtain ⟨content, terminator⟩ := raw
    cases content with
    | nil => exact absurd rfl empty
    | cons char content => rfl

theorem classifyFrom_plain {marker : Text} {raws : List RawLine}
    (plain : ∀ raw ∈ raws, ¬ marker <+: raw.1.trimStart ∧ Marker.first? raw.1 = none) (number : Int) :
    Line.classifyFrom marker number raws = .ok (plainLinesFrom number raws) := by
  induction raws generalizing number with
  | nil => rfl
  | cons raw raws ih =>
      obtain ⟨⟨undirected, unmarked⟩, others⟩ := List.forall_mem_cons.mp plain
      rw [Line.classifyFrom, classify_plain number undirected unmarked]
      dsimp only
      rw [ih others]
      rfl

/-! ## Trees and plans -/

/-- A line as a leaf of a tree. -/
def Line.leaf (line : Line) : Node := .leaf line.number line

theorem run_plain (root : List Node) (number : Int) (raws : List RawLine) :
    (⟨root, [], none, none⟩ : Matching).run (plainLinesFrom number raws) =
      .ok ⟨root ++ (plainLinesFrom number raws).map Line.leaf, [], none, none⟩ := by
  induction raws generalizing root number with
  | nil => rw [plainLinesFrom, List.map_nil, List.append_nil, Matching.run]
  | cons raw raws ih =>
      have step : (⟨root, [], none, none⟩ : Matching).step (plainLine number raw) =
          .ok ⟨root ++ [(plainLine number raw).leaf], [], none, none⟩ := by
        by_cases empty : raw.1.isEmpty <;> simp [Matching.step, plainLine, empty] <;> rfl
      rw [plainLinesFrom, Matching.run, step]
      dsimp only
      rw [ih, List.map_cons, List.append_assoc, List.singleton_append]

/-- The literals of a line with the line that they come from. -/
def plainPieces (number : Int) (raw : RawLine) : List (Text × Int) :=
  ([raw.1, raw.2].filter fun piece => !piece.isEmpty).map fun piece => (piece, number)

/-- The literals of lines that are numbered from a number on. -/
def plainPiecesFrom : Int → List RawLine → List (Text × Int)
  | _, [] => []
  | number, raw :: raws => plainPieces number raw ++ plainPiecesFrom (number + 1) raws

theorem instructions_plainLine (escape : Bool) (number : Int) (raw : RawLine) :
    (plainLine number raw).instructions escape =
      (plainPieces number raw).map fun piece => .literal piece.1 piece.2 := by
  obtain ⟨content, terminator⟩ := raw
  cases content <;> cases terminator <;> rfl

theorem lineDrafts_plainLine (escape : Bool) (level : Nat) (number : Int) (raw : RawLine) :
    Routine.lineDrafts escape level (plainLine number raw) =
      (plainPieces number raw).map fun piece => .text piece.1 piece.2 := by
  obtain ⟨content, terminator⟩ := raw
  cases content <;> cases terminator <;> rfl

theorem instructions_plain (escape : Bool) (number : Int) (raws : List RawLine) :
    nodeInstructions escape ((plainLinesFrom number raws).map Line.leaf) =
      (plainPiecesFrom number raws).map fun piece => .literal piece.1 piece.2 := by
  induction raws generalizing number with
  | nil => rfl
  | cons raw raws ih =>
      rw [plainPiecesFrom, List.map_append, ← ih (number + 1), ← instructions_plainLine escape]
      rfl

theorem drafts_plain (escape : Bool) (level : Nat) (number : Int) (raws : List RawLine) :
    Routine.draftsAmong escape level ((plainLinesFrom number raws).map Line.leaf) =
      (plainPiecesFrom number raws).map fun piece => .text piece.1 piece.2 := by
  induction raws generalizing number with
  | nil => rfl
  | cons raw raws ih =>
      rw [plainPiecesFrom, List.map_append, ← ih (number + 1), ← lineDrafts_plainLine escape level]
      rfl

theorem flatMap_plainPieces (number : Int) (raws : List RawLine) :
    (plainPiecesFrom number raws).flatMap Prod.fst = raws.flatMap RawLine.text := by
  induction raws generalizing number with
  | nil => rfl
  | cons raw raws ih =>
      have own : (plainPieces number raw).flatMap Prod.fst = raw.text := by
        obtain ⟨content, terminator⟩ := raw
        cases content <;> cases terminator <;> simp [plainPieces, RawLine.text]
      rw [plainPiecesFrom, List.flatMap_append, own, ih, List.flatMap_cons]

theorem occupied_plainPieces {number : Int} {raws : List RawLine} :
    ∀ piece ∈ plainPiecesFrom number raws, piece.1 ≠ [] := by
  induction raws generalizing number with
  | nil => simp [plainPiecesFrom]
  | cons raw raws ih =>
      intro piece member
      rcases List.mem_append.mp member with own | later
      · obtain ⟨text, kept, rfl⟩ := List.mem_map.mp own
        have occupied := (List.mem_filter.mp kept).2
        rintro rfl
        cases occupied
      · exact ih piece later

/-- The texts of a run are joined, and the joined text comes from the line of the first one. -/
theorem joinTexts_texts (piece : Text × Int) (pieces : List (Text × Int)) :
    Routine.Draft.joinTexts ((piece :: pieces).map fun piece => .text piece.1 piece.2) =
      [.text ((piece :: pieces).flatMap Prod.fst) piece.2] := by
  induction pieces generalizing piece with
  | nil => simp [Routine.Draft.joinTexts]
  | cons next pieces ih =>
      rw [List.map_cons, Routine.Draft.joinTexts, ih next]
      rfl

/-! ## Plain sources -/

section Sources

variable {marker : Text} {source : TemplateSource}

/-- The tree of a plain source: every line is a leaf. -/
def plainTree (source : TemplateSource) : Tree :=
  ⟨(plainLinesFrom 1 (splitLines source.text)).map Line.leaf, source.name⟩

theorem tree_of_plain (plain : PlainText marker source.text) : source.tree marker = .ok (plainTree source) := by
  have lines : Line.ofSource marker source.text = .ok (plainLinesFrom 1 (splitLines source.text)) := by
    apply classifyFrom_plain
    intro raw member
    have inside := infix_of_splitLines member
    refine ⟨plain.directives raw member, first?_eq_none ?_ ?_⟩
    · exact fun braces => plain.braces (braces.trans inside)
    · exact fun dollars => plain.dollars (dollars.trans inside)
  have matched : Tree.ofLines source.name (plainLinesFrom 1 (splitLines source.text)) = .ok (plainTree source) := by
    have run := run_plain [] 1 (splitLines source.text)
    rw [Tree.ofLines, Matching.start, run]
    rfl
  rw [TemplateSource.tree, lines]
  exact matched

theorem plan_of_plain (plain : PlainText marker source.text) (escape : Bool) :
    source.plan marker escape = .ok ((plainTree source).plan escape) := by
  rw [TemplateSource.plan, tree_of_plain plain]
  rfl

/-- The plan of a plain source consists of literals that make the source. -/
theorem literals_of_plain (source : TemplateSource) (escape : Bool) : ∃ pieces : List (Text × Int),
    ((plainTree source).plan escape).instructions = pieces.map (fun piece => .literal piece.1 piece.2) ∧
      pieces.flatMap Prod.fst = source.text := by
  refine ⟨plainPiecesFrom 1 (splitLines source.text), instructions_plain escape 1 _, ?_⟩
  rw [flatMap_plainPieces, flatMap_splitLines]

/-- The suite of a plain source is one line that appends the source, or nothing when the source is empty. -/
theorem suite_of_plain (source : TemplateSource) (escape : Bool) (level : Nat) : ∃ origin,
    Routine.suite escape level (plainTree source).body =
      if source.text = [] then []
      else [⟨level, Routine.Writing.appendLine (Quoted.encode source.text), origin⟩] := by
  have whole : (plainPiecesFrom 1 (splitLines source.text)).flatMap Prod.fst = source.text := by
    rw [flatMap_plainPieces, flatMap_splitLines]
  have occupied := @occupied_plainPieces 1 (splitLines source.text)
  rw [plainTree, Routine.suite, drafts_plain, Routine.Draft.toLines]
  cases pieces : plainPiecesFrom 1 (splitLines source.text) with
  | nil =>
      rw [pieces] at whole
      exact ⟨0, (if_pos whole.symm).symm⟩
  | cons piece pieces' =>
      rw [pieces] at whole occupied
      have filled : source.text ≠ [] := by
        rw [← whole, List.flatMap_cons]
        exact fun empty => occupied piece List.mem_cons_self (List.append_eq_nil_iff.mp empty).1
      refine ⟨piece.2, ?_⟩
      rw [joinTexts_texts, whole, if_neg filled]
      rfl

end Sources
end Stencil
