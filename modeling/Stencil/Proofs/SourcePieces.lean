import Stencil.Proofs.LeftmostMarkers
import Stencil.Proofs.LineOrder
import Stencil.Proofs.Lowering
import Stencil.Proofs.Trimming

/-!
# The pieces of a source

Every fragment, statement and head of an accepted source is trimmed, stands on one line of the source and keeps
the number of that line.
-/

namespace Stencil

open Script

/-! ## Tidy texts -/

/-- Whether a text stands on one line and does not start with a blank. -/
def Tidy (text : Text) : Prop := '\n' ∉ text ∧ ∀ char ∈ text.head?, isBlank char = false

theorem tidy_trim {text : Text} (feeds : '\n' ∉ text) : Tidy text.trim :=
  ⟨fun member => feeds (Text.mem_of_mem_trim member), fun _ => Text.head?_trim⟩

/-! ## Fragments and directives -/

theorem mem_of_first? {text before after : Text} {marker : Marker}
    (found : Marker.first? text = some (before, marker, after)) {char : Char} (member : char ∈ after) :
    char ∈ text := by
  rw [(Marker.first?_eq_some found).1]
  exact List.mem_append_right _ (List.mem_append_right _ member)

theorem mem_of_breakAtClose? {text before after : Text} (found : breakAtClose? text = some (before, after))
    {char : Char} (member : char ∈ before ∨ char ∈ after) : char ∈ text := by
  rw [(breakAtClose?_eq_some found).1]
  exact List.mem_append.mpr (member.imp_right (List.mem_append_right _))

theorem tidy_of_scanFrom {column : Nat} {content : Text} {parts : List Part} (feeds : '\n' ∉ content)
    (scanned : scanFrom column content = .ok parts) :
    ∀ inserted, .fragment inserted ∈ parts → Tidy inserted.code := by
  have literal (text : Text) (inserted : Fragment) : .fragment inserted ∉ Part.run text := by
    cases text <;> simp [Part.run]
  fun_induction scanFrom column content generalizing parts with
  | case1 column content =>
      cases scanned
      exact fun inserted member => absurd member (literal content inserted)
  | case2 column content before after found =>
      cases scanned
      intro inserted member
      rcases List.mem_append.mp member with inside | last
      · exact absurd inside (literal before inserted)
      · cases List.mem_singleton.mp last
        exact tidy_trim fun member => feeds (mem_of_first? found member)
  | case3 => cases scanned
  | case4 => cases scanned
  | case5 column content before after found start inside rest closed stop others inner =>
      rename_i ih
      cases scanned
      have clean : '\n' ∉ after := fun member => feeds (mem_of_first? found member)
      intro inserted member
      rcases List.mem_append.mp member with first | member
      · exact absurd first (literal before inserted)
      · rcases List.mem_cons.mp member with same | others
        · cases same
          exact tidy_trim fun member => clean (mem_of_breakAtClose? closed (.inl member))
        · exact ih (fun member => clean (mem_of_breakAtClose? closed (.inr member))) inner inserted others

theorem tidy_headOf {statement : Text} (feeds : '\n' ∉ statement) : Tidy (Directive.headOf statement) :=
  tidy_trim fun member => feeds (List.dropLast_subset _ member)

/-- The head or statement that a directive holds. -/
def Directive.piece? : Directive → Option Text
  | .reopener head | .opener head => some head
  | .statement code => some code
  | _ => none

theorem tidy_of_ofStatement {statement piece : Text} (feeds : '\n' ∉ statement)
    (found : (Directive.ofStatement statement).piece? = some piece) : Tidy piece := by
  have trimmed := tidy_trim feeds
  unfold Directive.ofStatement at found
  split at found
  · cases found
  · cases found
  · cases found
  · rename_i rest _ same
    rw [same] at trimmed
    have clean : '\n' ∉ Text.trim rest := fun member => trimmed.1 (.tail _ (Text.mem_of_mem_trim member))
    dsimp only at found
    split at found
    · cases found
      exact tidy_headOf clean
    · cases found
  · split at found
    · cases found
      exact tidy_headOf trimmed.1
    · cases found
      exact trimmed

/-! ## Lines -/

/-- Whether a line has a number of a line of a source and holds what such a line can hold. -/
def Line.Sourced (line : Line) : Prop :=
  0 < line.number ∧ match line.form with
    | .text parts => ∀ inserted, .fragment inserted ∈ parts → Tidy inserted.code
    | .directive statement => '\n' ∉ statement
    | .blank => True

theorem Line.sourced_of_classify {marker : Text} {number : Int} {raw : RawLine} {line : Line}
    (positive : 0 < number) (feeds : '\n' ∉ raw.1) (classified : classify marker number raw = .ok line) :
    line.Sourced := by
  unfold classify at classified
  split at classified
  · rename_i statement found
    cases classified
    refine ⟨positive, fun member => feeds ?_⟩
    obtain ⟨behind, lead, same⟩ := Option.map_eq_some_iff.mp found
    have inside : '\n' ∈ behind := by
      split at same
      · exact .tail _ (same ▸ member)
      · exact same ▸ member
    have outside : '\n' ∈ raw.1.trimStart := by
      rw [Text.eq_of_afterLead? lead]
      exact List.mem_append_right _ inside
    exact (List.dropWhile_sublist _).subset outside
  · split at classified
    · cases classified
      exact ⟨positive, trivial⟩
    · split at classified
      · rename_i parts scanned
        cases classified
        exact ⟨positive, tidy_of_scanFrom feeds scanned⟩
      · cases classified

theorem Line.sourced_of_classifyFrom {marker : Text} {number : Int} {raws : List RawLine} {lines : List Line}
    (positive : 0 < number) (feeds : ∀ raw ∈ raws, '\n' ∉ raw.1)
    (classified : classifyFrom marker number raws = .ok lines) : ∀ line ∈ lines, line.Sourced := by
  induction raws generalizing number lines with
  | nil =>
      cases classified
      simp
  | cons raw raws ih =>
      simp only [classifyFrom] at classified
      split at classified
      · cases classified
      · rename_i line first
        split at classified
        · cases classified
        · rename_i others rest
          cases classified
          rw [List.forall_mem_cons] at feeds ⊢
          exact ⟨sourced_of_classify positive feeds.1 first, ih (by omega) feeds.2 rest⟩

theorem feeds_of_splitOn (separator : Char) (text : Text) :
    ∀ piece ∈ Text.splitOn separator text, separator ∉ piece := by
  induction text with
  | nil => simp [Text.splitOn]
  | cons char text ih =>
      rw [Text.splitOn]
      split
      · simpa using ih
      · rename_i other
        split
        · simpa using Ne.symm other
        · rename_i piece pieces same
          rw [same, List.forall_mem_cons] at ih
          rw [List.forall_mem_cons]
          refine ⟨fun member => ?_, ih.2⟩
          rcases List.mem_cons.mp member with same | inside
          · exact other same.symm
          · exact ih.1 inside

theorem feeds_of_splitLines {source : Text} {raw : RawLine} (member : raw ∈ splitLines source) : '\n' ∉ raw.1 := by
  have pieces := feeds_of_splitOn '\n' source
  have ofPiece (piece : Text) (clean : '\n' ∉ piece) : '\n' ∉ (RawLine.ofPiece piece).1 := by
    unfold RawLine.ofPiece
    split
    · exact fun member => clean (List.dropLast_subset _ member)
    · exact clean
  have closed (inside : raw ∈ (Text.splitOn '\n' source).dropLast.map RawLine.ofPiece) : '\n' ∉ raw.1 := by
    obtain ⟨piece, listed, rfl⟩ := List.mem_map.mp inside
    exact ofPiece piece (pieces piece (List.dropLast_subset _ listed))
  simp only [splitLines] at member
  split at member
  · rename_i char rest last
    rcases List.mem_append.mp member with inside | last'
    · exact closed inside
    · obtain rfl := List.mem_singleton.mp last'
      exact pieces _ (List.mem_of_getLast? last)
  · exact closed member

/-! ## Instructions -/

/-- The fragment, statement or head of an instruction, with its line. -/
def Instruction.piece? : Instruction → Option (Int × Text)
  | .insert code _ line | .begin code _ line | .exec code line => some (line, code)
  | _ => none

theorem pieces_of_line (escape : Bool) (line : Line) :
    (line.instructions escape).filterMap Instruction.piece? =
      line.fragments.map fun inserted => (line.number, inserted.code) := by
  have ended : (if line.terminator.isEmpty then ([] : List Instruction)
      else [.literal line.terminator line.number]).filterMap Instruction.piece? = [] := by
    split <;> rfl
  rw [Line.instructions, Line.fragments, List.filterMap_append, ended, List.append_nil]
  cases line.form with
  | text parts =>
      induction parts with
      | nil => rfl
      | cons part parts ih =>
          dsimp only at ih ⊢
          rw [List.flatMap_cons, List.filterMap_append, ih]
          rcases part with (_ | _) | _ <;> rfl
  | _ => rfl

mutual

theorem pieces_of_node (escape : Bool) (node : Node) :
    (node.instructions escape).filterMap Instruction.piece? = node.pieces := by
  cases node with
  | leaf number line => exact pieces_of_line escape line
  | statement number code => rfl
  | stray number sort => rfl
  | control block =>
      obtain ⟨number, head, body, arms, stop⟩ := block
      rw [Node.instructions, Node.pieces, List.filterMap_cons, List.filterMap_append, List.filterMap_append,
        pieces_of_nodes escape body, pieces_of_arms escape arms]
      simp [Instruction.piece?]

theorem pieces_of_nodes (escape : Bool) (nodes : List Node) :
    (nodeInstructions escape nodes).filterMap Instruction.piece? = piecesAmong nodes := by
  cases nodes with
  | nil => rfl
  | cons node nodes =>
      rw [nodeInstructions, piecesAmong, List.filterMap_append, pieces_of_node escape node,
        pieces_of_nodes escape nodes]

theorem pieces_of_arms (escape : Bool) (arms : List Block) :
    (armInstructions escape arms).filterMap Instruction.piece? = piecesOfArms arms := by
  cases arms with
  | nil => rfl
  | cons arm arms =>
      obtain ⟨number, head, body, arms', stop⟩ := arm
      rw [armInstructions, piecesOfArms, List.filterMap_append, List.filterMap_cons, List.filterMap_append,
        pieces_of_nodes escape body, pieces_of_arms escape arms]
      simp [Instruction.piece?]

end

theorem pieces_withoutEnds (instructions : List Instruction) :
    (withoutEnds instructions).filterMap Instruction.piece? = instructions.filterMap Instruction.piece? := by
  induction instructions with
  | nil => rfl
  | cons instruction instructions ih =>
      cases instruction with
      | finish line => exact ih
      | literal text line => exact ih
      | _ => exact congrArg (_ :: ·) ih

theorem Line.piece_of_reading {escape arm : Bool} {line : Line} (sourced : line.Sourced) {instruction : Instruction}
    (member : instruction ∈ line.reading escape arm) {piece : Int × Text} (found : instruction.piece? = some piece) :
    0 < piece.1 ∧ Tidy piece.2 := by
  obtain ⟨positive, holds⟩ := sourced
  unfold Line.reading at member
  split at member
  · rename_i parts form
    rw [form] at holds
    rcases List.mem_append.mp member with inside | ended
    · obtain ⟨part, listed, rfl⟩ := List.mem_map.mp inside
      cases part with
      | literal text => cases found
      | fragment inserted =>
          cases found
          exact ⟨positive, holds inserted listed⟩
    · split at ended
      · cases ended
      · cases List.mem_singleton.mp ended
        cases found
  · cases List.mem_singleton.mp member
    cases found
  · rename_i statement form
    rw [form] at holds
    have tidy {code : Text} (same : (Directive.ofStatement statement).piece? = some code) : Tidy code :=
      tidy_of_ofStatement holds same
    generalize Directive.ofStatement statement = directive at member tidy
    cases directive with
    | comment | closer | malformed rest => cases member
    | statement code | opener code | reopener code =>
        cases List.mem_singleton.mp member
        cases found
        exact ⟨positive, tidy rfl⟩

theorem Line.piece_of_readingFrom {escape : Bool} {before lines : List Line} (sourced : ∀ line ∈ lines, line.Sourced)
    {instruction : Instruction} (member : instruction ∈ readingFrom escape before lines) {piece : Int × Text}
    (found : instruction.piece? = some piece) : 0 < piece.1 ∧ Tidy piece.2 := by
  induction lines generalizing before with
  | nil => cases member
  | cons line lines ih =>
      rw [List.forall_mem_cons] at sourced
      rcases List.mem_append.mp member with first | others
      · exact piece_of_reading sourced.1 first found
      · exact ih sourced.2 others

/-- The pieces of an accepted source are sound when they hold no carriage return. -/
theorem sound_of_source {marker : Text} {source : TemplateSource} {tree : Tree}
    (accepted : source.tree marker = .ok tree) (returns : ∀ piece ∈ piecesAmong tree.body, '\r' ∉ piece.2) :
    ∀ piece ∈ piecesAmong tree.body, Routine.Sound piece := by
  intro piece member
  have clean := returns piece member
  rw [← pieces_of_nodes false, ← pieces_withoutEnds] at member
  obtain ⟨instruction, listed, found⟩ := List.mem_filterMap.mp member
  unfold TemplateSource.tree at accepted
  cases read : Line.ofSource marker source.text with
  | error flaw => simp [read, bind, Except.bind] at accepted
  | ok lines =>
      rw [read] at accepted
      have view : withoutEnds (nodeInstructions false tree.body) = Line.readingFrom false [] lines :=
        withoutEnds_plan_of_ofLines accepted (Line.proper_of_ofSource read)
      rw [view] at listed
      have sourced := Line.sourced_of_classifyFrom (by decide) (fun _ => feeds_of_splitLines) read
      obtain ⟨positive, feeds, starts⟩ := Line.piece_of_readingFrom sourced listed found
      exact ⟨positive, feeds, clean, starts⟩

end Stencil
