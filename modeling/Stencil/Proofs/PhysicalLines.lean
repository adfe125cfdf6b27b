import Stencil.Proofs.FilePlaces
import Stencil.Proofs.LineMap
import Stencil.Proofs.PrintedTree

/-!
# Physical lines

The reader of scripts ends a line at a line feed, at a carriage return and at the two together, and it counts these
physical lines.  A line that the generator writes has no line feed inside, but it has the carriage returns of the piece
of the source that is written on it.  So the text of a routine has one physical line for each line that is noted, and
one more for each carriage return in a fragment, a head or a statement.
-/

namespace Stencil

namespace Script

/-- The physical lines of a script: every line feed, every carriage return, and every line feed with a carriage return
in front ends one. -/
def physicalLines (text : Text) : List Text := (Text.splitOn '\n' (unifyBreaks text)).dropLast

/-- A character as it is read: a carriage return is read like a line feed. -/
def unifyBreak (char : Char) : Char := if char = '\r' then '\n' else char

/-! ## Reading line breaks -/

theorem unifyBreaks_apart {char : Char} {text : Text} (occupied : text ≠ [])
    (apart : char = '\r' → text.head? ≠ some '\n') : unifyBreaks (char :: text) = unifyBreak char :: unifyBreaks text := by
  obtain ⟨next, text, rfl⟩ := List.exists_cons_of_ne_nil occupied
  by_cases back : char = '\r'
  · subst back
    have other : next ≠ '\n' := fun same => apart rfl (same ▸ rfl)
    rw [unifyBreaks, unifyBreak]
    · exact fun _ _ same => other (List.cons.inj same).1
    · exact List.cons_ne_nil _ _
  · rw [unifyBreaks, unifyBreak]
    · exact fun _ same => absurd same back
    · exact List.cons_ne_nil _ _

theorem unifyBreaks_feed (more : Text) : unifyBreaks ('\n' :: more) = '\n' :: unifyBreaks more := by
  cases more with
  | nil => rfl
  | cons next more => exact unifyBreaks_apart (List.cons_ne_nil _ _) (fun same => absurd same (by decide))

/-- Inside of a line the characters are read one by one, since a carriage return in front of the line feed that ends
the line is the only one that is read together with another character. -/
theorem unifyBreaks_inside {line : Text} (clean : '\n' ∉ line) (open_ : line.getLast? ≠ some '\r') (more : Text) :
    unifyBreaks (line ++ '\n' :: more) = line.map unifyBreak ++ '\n' :: unifyBreaks more := by
  induction line with
  | nil => exact unifyBreaks_feed more
  | cons char line ih =>
      rw [List.mem_cons, not_or] at clean
      have apart : char = '\r' → (line ++ '\n' :: more).head? ≠ some '\n' := by
        rintro rfl
        cases line with
        | nil => exact absurd rfl open_
        | cons next line =>
            intro first
            obtain rfl := Option.some.inj first
            exact clean.2 List.mem_cons_self
      have rest : line.getLast? ≠ some '\r' := by
        cases line with
        | nil => simp
        | cons next line => simpa using open_
      rw [List.cons_append, unifyBreaks_apart (by simp) apart, ih clean.2 rest]
      rfl

end Script

namespace Text

theorem splitOn_append (separator : Char) (text more : Text) :
    splitOn separator (text ++ separator :: more) = splitOn separator text ++ splitOn separator more := by
  induction text with
  | nil => simp [splitOn]
  | cons char text ih =>
      rw [List.cons_append, splitOn, splitOn, ih]
      split
      · rfl
      · cases split : splitOn separator text with
        | nil =>
            have count := Routine.length_splitOn separator text
            rw [split] at count
            cases count
        | cons piece pieces => rfl

theorem splitOn_unifyBreak {line : Text} (clean : '\n' ∉ line) :
    splitOn '\n' (line.map Script.unifyBreak) = splitOn '\r' line := by
  induction line with
  | nil => rfl
  | cons char line ih =>
      rw [List.mem_cons, not_or] at clean
      rw [List.map_cons, splitOn, splitOn, ih clean.2, Script.unifyBreak]
      by_cases back : char = '\r'
      · simp [back]
      · simp [back, Ne.symm clean.1]

end Text

namespace Script

theorem physicalLines_line {line : Text} (clean : '\n' ∉ line) (open_ : line.getLast? ≠ some '\r') (more : Text) :
    physicalLines (line ++ '\n' :: more) = Text.splitOn '\r' line ++ physicalLines more := by
  have occupied : Text.splitOn '\n' (unifyBreaks more) ≠ [] := by
    have count := Routine.length_splitOn '\n' (unifyBreaks more)
    exact List.ne_nil_of_length_eq_add_one count
  rw [physicalLines, unifyBreaks_inside clean open_, Text.splitOn_append, Text.splitOn_unifyBreak clean,
    List.dropLast_append_of_ne_nil occupied]
  rfl

/-- The physical lines of lines that are joined and ended by line feeds. -/
theorem physicalLines_join {lines : List Text} (occupied : lines ≠ [])
    (clean : ∀ line ∈ lines, '\n' ∉ line ∧ line.getLast? ≠ some '\r') :
    physicalLines (Text.join ['\n'] lines ++ ['\n']) = lines.flatMap (Text.splitOn '\r') := by
  induction lines with
  | nil => exact absurd rfl occupied
  | cons first lines ih =>
      obtain ⟨⟨own, open_⟩, others⟩ := List.forall_mem_cons.mp clean
      cases lines with
      | nil => exact physicalLines_line own open_ []
      | cons second lines =>
          calc physicalLines (Text.join ['\n'] (first :: second :: lines) ++ ['\n'])
              = physicalLines (first ++ '\n' :: (Text.join ['\n'] (second :: lines) ++ ['\n'])) := by simp [Text.join]
            _ = Text.splitOn '\r' first ++ physicalLines (Text.join ['\n'] (second :: lines) ++ ['\n']) :=
              physicalLines_line own open_ _
            _ = (first :: second :: lines).flatMap (Text.splitOn '\r') := by
              rw [ih (List.cons_ne_nil _ _) others]
              rfl

end Script

/-! ## Pieces are trimmed -/

theorem trimmed_of_scanFrom {column : Nat} {content : Text} {parts : List Part}
    (scanned : scanFrom column content = .ok parts) :
    ∀ inserted, .fragment inserted ∈ parts → inserted.code.trim = inserted.code := by
  have literal (text : Text) (inserted : Fragment) : .fragment inserted ∉ Part.run text := by
    cases text <;> simp [Part.run]
  fun_induction scanFrom column content generalizing parts with
  | case1 column content =>
      cases scanned
      exact fun inserted member => absurd member (literal content inserted)
  | case2 column content before after found =>
      cases scanned
      intro inserted member
      rcases List.mem_append.mp member with inside | last
      · exact absurd inside (literal before inserted)
      · cases List.mem_singleton.mp last
        exact Text.trim_trim _
  | case3 => cases scanned
  | case4 => cases scanned
  | case5 column content before after found start inside rest closed stop others inner =>
      rename_i ih
      cases scanned
      intro inserted member
      rcases List.mem_append.mp member with first | member
      · exact absurd first (literal before inserted)
      · rcases List.mem_cons.mp member with same | others
        · cases same
          exact Text.trim_trim _
        · exact ih inner inserted others

theorem trimmed_of_ofStatement {statement piece : Text}
    (found : (Directive.ofStatement statement).piece? = some piece) : piece.trim = piece := by
  unfold Directive.ofStatement at found
  split at found
  · cases found
  · cases found
  · cases found
  · dsimp only at found
    split at found
    · cases found
      exact Directive.trim_headOf _
    · cases found
  · split at found
    · cases found
      exact Directive.trim_headOf _
    · cases found
      exact Text.trim_trim _

/-- The pieces of a line are trimmed. -/
theorem Line.trimmed_of_reading {marker : Text} {number : Int} {raw : RawLine} {line : Line} {escape arm : Bool}
    (classified : classify marker number raw = .ok line) {instruction : Instruction}
    (member : instruction ∈ line.reading escape arm) {piece : Int × Text} (found : instruction.piece? = some piece) :
    piece.2.trim = piece.2 := by
  unfold classify at classified
  split at classified
  · rename_i statement _
    cases classified
    unfold reading at member
    dsimp only at member
    have trimmed {code : Text} (same : (Directive.ofStatement statement).piece? = some code) : code.trim = code :=
      trimmed_of_ofStatement same
    generalize Directive.ofStatement statement = directive at member trimmed
    cases directive with
    | comment | closer | malformed rest => cases member
    | statement code | opener code | reopener code =>
        cases List.mem_singleton.mp member
        cases found
        exact trimmed rfl
  · split at classified
    · cases classified
      cases List.mem_singleton.mp member
      cases found
    · split at classified
      · rename_i parts scanned
        cases classified
        rcases List.mem_append.mp member with inside | last
        · obtain ⟨part, listed, rfl⟩ := List.mem_map.mp inside
          cases part with
          | literal text => cases found
          | fragment inserted =>
              cases found
              exact trimmed_of_scanFrom scanned inserted listed
        · split at last
          · cases last
          · cases List.mem_singleton.mp last
            cases found
      · cases classified

/-- The fragments, heads and statements of a plan, in their order. -/
def Plan.pieces (plan : Plan) : List Text := (plan.instructions.filterMap Instruction.piece?).map Prod.snd

/-- The pieces of an accepted source are trimmed. -/
theorem trimmed_of_plan {source : TemplateSource} {marker : Text} {escape : Bool} {plan : Plan}
    (accepted : source.plan marker escape = .ok plan) : ∀ piece ∈ plan.pieces, piece.trim = piece := by
  obtain ⟨lines, tree, read, matched, rfl⟩ := tree_of_plan accepted
  have view : withoutEnds (tree.plan escape).instructions = Line.readingFrom escape [] lines :=
    withoutEnds_plan_of_ofLines matched (Line.proper_of_ofSource read)
  obtain ⟨-, placed⟩ := Line.numbers_of_classifyFrom read
  intro code member
  rw [Plan.pieces, ← pieces_withoutEnds, view] at member
  obtain ⟨piece, listed, rfl⟩ := List.mem_map.mp member
  obtain ⟨instruction, inside, found⟩ := List.mem_filterMap.mp listed
  obtain ⟨line, own, arm, reading⟩ := mem_readingFrom inside
  obtain ⟨-, raw, -, -, classified⟩ := placed line own
  exact Line.trimmed_of_reading classified reading found

theorem open_of_trimmed {text : Text} (trimmed : text.trim = text) : text.getLast? ≠ some '\r' := by
  intro last
  rw [← trimmed] at last
  cases Text.getLast?_trim last

/-! ## Physical lines of a sheet -/

theorem originAt_ext {origins others : List Int} :
    (∀ number, originAt origins number = originAt others number) ↔ origins = others := by
  constructor
  · intro same
    apply List.ext_getElem?
    intro position
    exact same (.ofNat (position + 1))
  · rintro rfl number
    rfl

namespace Sheet

/-- The physical lines of a sheet, each with the template line that is noted for the line that it is a part of. -/
def physical (sheet : Sheet) : List GeneratedLine :=
  sheet.lines.flatMap fun line => (Text.splitOn '\r' line.text).map fun text => ⟨text, line.origin⟩

/-- What is written on a sheet, the ends of lines aside. -/
def content (sheet : Sheet) : Text := (sheet.lines.map GeneratedLine.text).flatten

theorem length_physical (sheet : Sheet) :
    sheet.physical.length = sheet.origins.length + sheet.content.count '\r' := by
  obtain ⟨lines, level⟩ := sheet
  simp only [physical, origins, content]
  induction lines with
  | nil => rfl
  | cons line lines ih =>
      simp only [List.flatMap_cons, List.length_append, List.length_map, Routine.length_splitOn, List.map_cons,
        List.flatten_cons, List.count_append, List.length_cons] at ih ⊢
      omega

theorem physical_of_clean {sheet : Sheet} (clean : '\r' ∉ sheet.content) : sheet.physical = sheet.lines := by
  obtain ⟨lines, level⟩ := sheet
  simp only [physical, content] at clean ⊢
  induction lines with
  | nil => rfl
  | cons line lines ih =>
      rw [List.map_cons, List.flatten_cons, List.mem_append, not_or] at clean
      rw [List.flatMap_cons, ih clean.2, splitOn_clean clean.1]
      rfl

/-- The physical lines of the text of a sheet, when no line of it has a line feed inside or ends with a carriage
return. -/
theorem physicalLines_toText {sheet : Sheet} (occupied : sheet.lines ≠ [])
    (clean : ∀ line ∈ sheet.lines, '\n' ∉ line.text ∧ line.text.getLast? ≠ some '\r') :
    Script.physicalLines sheet.toText = sheet.physical.map GeneratedLine.text := by
  have texts : sheet.physical.map GeneratedLine.text =
      (sheet.lines.map GeneratedLine.text).flatMap (Text.splitOn '\r') := by
    rw [physical, List.map_flatMap, List.flatMap_map]
    congr 1
    funext line
    rw [List.map_map]
    exact List.map_id _
  rw [texts, toText, Script.physicalLines_join (by simpa using occupied)]
  intro text member
  obtain ⟨line, listed, rfl⟩ := List.mem_map.mp member
  exact clean line listed

/-- The physical lines are noted as the lines are just when there are no carriage returns. -/
theorem origins_physical_iff (sheet : Sheet) :
    (∀ number, originAt sheet.origins number = originAt (sheet.physical.map GeneratedLine.origin) number) ↔
      '\r' ∉ sheet.content := by
  rw [originAt_ext]
  constructor
  · intro same
    have lengths := congrArg List.length same
    rw [List.length_map, length_physical] at lengths
    exact List.count_eq_zero.mp (by omega)
  · intro clean
    rw [physical_of_clean clean]
    rfl

end Sheet

namespace Routine

/-! ## Carriage returns of a routine -/

namespace Cause

/-- The piece of the source that is written for a cause. -/
def piece : Cause → Text
  | fragment code _ | statement code _ | head code _ => code
  | _ => []

/-- The only carriage returns that are written are those of pieces. -/
theorem returns_text (cause : Cause) : cause.text.count '\r' = cause.piece.count '\r' := by
  cases cause with
  | literals first others => exact List.count_eq_zero.mpr (clean_appendLine _ (by decide))
  | fragment code line =>
      rw [text, List.count_append]
      exact Nat.zero_add _
  | value escape line => cases escape <;> rfl
  | statement code line => rfl
  | head code line =>
      rw [text, List.count_append]
      exact Nat.add_zero _
  | emptyBody opener stop => rfl

/-- What is written ends with a carriage return only if a piece does. -/
theorem open_text {cause : Cause} (trimmed : cause.piece.getLast? ≠ some '\r') : cause.text.getLast? ≠ some '\r' := by
  cases cause with
  | literals first others =>
      intro last
      exact clean_appendLine _ (by decide) (List.mem_of_getLast? last)
  | fragment code line =>
      rw [text, List.getLast?_append]
      cases last : code.getLast? with
      | none => decide
      | some char => exact fun same => trimmed (last.trans same)
  | value escape line =>
      have both : ∀ escape, (Writing.appendLine (Writing.converter escape ++ ['('] ++ valueName ++ [')'])).getLast? ≠
          some '\r' := by decide
      exact both escape
  | statement code line => exact trimmed
  | head code line =>
      rw [text, List.getLast?_append]
      exact fun same => absurd (Option.some.inj same) (by decide)
  | emptyBody opener stop => exact (by decide : ("pass".toList).getLast? ≠ some '\r')

/-- The pieces of the causes of instructions are those of the instructions, and nothing else has a character. -/
theorem pieces_among (held : List (Text × Int)) (instructions : List Instruction) :
    ((among held instructions).map piece).flatten =
      ((instructions.filterMap Instruction.piece?).map Prod.snd).flatten := by
  have none (held : List (Text × Int)) : ((ofHeld held).map piece).flatten = [] := by cases held <;> rfl
  have body (opener : Int) (rest : List Instruction) : ((ofBody opener rest).map piece).flatten = [] := by
    unfold ofBody
    split <;> rfl
  fun_induction among held instructions with
  | case1 held => exact none held
  | case2 held text line rest ih => exact ih
  | case3 held code escape line rest ih =>
      simp [none, ih, piece, Instruction.piece?]
  | case4 held code line rest ih =>
      simp [none, ih, piece, Instruction.piece?]
  | case5 held code arm line rest ih =>
      simp [none, body, ih, piece, Instruction.piece?]
  | case6 held line rest ih =>
      rw [List.map_append, List.flatten_append, none, List.nil_append, ih]
      rfl

end Cause

theorem Cause.piece_of_from {instructions : List Instruction} {cause : Cause} (found : cause.From instructions) :
    cause.piece = [] ∨ cause.piece ∈ (instructions.filterMap Instruction.piece?).map Prod.snd := by
  have listed {instruction : Instruction} {piece : Int × Text} (member : instruction ∈ instructions)
      (own : instruction.piece? = some piece) :
      piece.2 ∈ (instructions.filterMap Instruction.piece?).map Prod.snd :=
    List.mem_map_of_mem (List.mem_filterMap.mpr ⟨instruction, member, own⟩)
  cases cause with
  | literals first others => exact .inl rfl
  | fragment code line =>
      obtain ⟨escape, member⟩ := found
      exact .inr (listed member rfl)
  | value escape line => exact .inl rfl
  | statement code line => exact .inr (listed found rfl)
  | head code line =>
      obtain ⟨arm, member⟩ := found
      exact .inr (listed member rfl)
  | emptyBody opener stop => exact .inl rfl

theorem returns_of_explained {lines : List GeneratedLine} {causes : List Cause}
    (explained : List.Forall₂ Cause.Explains lines causes) :
    (lines.map GeneratedLine.text).flatten.count '\r' = (causes.map Cause.piece).flatten.count '\r' := by
  induction explained with
  | nil => rfl
  | cons explains _ ih =>
      obtain ⟨level, rfl⟩ := explains
      have blank : (Sheet.indentation level).count '\r' = 0 :=
        List.count_eq_zero.mpr fun member => absurd (List.eq_of_mem_replicate member) (by decide)
      rw [List.map_cons, List.map_cons, List.flatten_cons, List.flatten_cons, List.count_append, List.count_append, ih,
        Cause.written, List.count_append, blank, Cause.returns_text, Nat.zero_add]

theorem open_of_explained {lines : List GeneratedLine} {causes : List Cause}
    (explained : List.Forall₂ Cause.Explains lines causes)
    (trimmed : ∀ cause ∈ causes, cause.piece.getLast? ≠ some '\r') :
    ∀ line ∈ lines, line.text.getLast? ≠ some '\r' := by
  induction explained with
  | nil => exact nofun
  | cons explains _ ih =>
      rw [List.forall_mem_cons] at trimmed
      refine List.forall_mem_cons.mpr ⟨?_, ih trimmed.2⟩
      obtain ⟨level, rfl⟩ := explains
      have own := Cause.open_text trimmed.1
      rw [Cause.written, List.getLast?_append]
      intro last
      rcases Option.or_eq_some_iff.mp last with text | ⟨-, blank⟩
      · exact own text
      · cases List.eq_of_mem_replicate (List.mem_of_getLast? blank)

/-- The sheet of an accepted source: between the prologue and the two lines that return stands one line for every cause
in the plan. -/
theorem sheet_of_plan {source : TemplateSource} {marker : Text} {escape : Bool} {plan : Plan}
    (accepted : source.plan marker escape = .ok plan) :
    ∃ body, sheet? plan = some (sheetAround body (finalLine plan)) ∧
      List.Forall₂ Cause.Explains body (Cause.among [] plan.instructions) ∧
      ∀ cause ∈ Cause.among [] plan.instructions, cause.StandsIn source.text ∧ cause.From plan.instructions := by
  obtain ⟨ascending, placed⟩ := plan_follows_lines accepted
  have occupied : ∀ line, .literal [] line ∉ plan.instructions := by
    intro line member
    obtain ⟨raw, -, empty, -⟩ := placed _ member
    exact empty rfl
  have found := Cause.from_among [] plan.instructions nofun (fun instruction member => member) ascending
  obtain ⟨lines, tree, -, -, rfl⟩ := tree_of_plan accepted
  have written := sheet?_plan escape tree
  rw [List.map_append] at written
  exact ⟨_, written, suite_explained escape tree occupied,
    fun cause member => ⟨Cause.standsIn_of_from placed (found cause member), found cause member⟩⟩

theorem returns_sheetAround (body : List GeneratedLine) (last : Int) :
    (sheetAround body last).content.count '\r' = (body.map GeneratedLine.text).flatten.count '\r' := by
  have before : (prologue.lines.map GeneratedLine.text).flatten.count '\r' = 0 := by decide
  have after : (((epilogue last).map SuiteLine.generated).map GeneratedLine.text).flatten.count '\r' = 0 :=
    (by decide : (((epilogue 1).map SuiteLine.generated).map GeneratedLine.text).flatten.count '\r' = 0)
  rw [Sheet.content, sheetAround, List.map_append, List.map_append, List.flatten_append, List.flatten_append,
    List.count_append, List.count_append, before, after, Nat.zero_add, Nat.add_zero]

theorem ended_sheetAround {body : List GeneratedLine} {last : Int}
    (ended : ∀ line ∈ body, '\n' ∉ line.text ∧ line.text.getLast? ≠ some '\r') :
    ∀ line ∈ (sheetAround body last).lines, '\n' ∉ line.text ∧ line.text.getLast? ≠ some '\r' := by
  have before : ∀ line ∈ prologue.lines, '\n' ∉ line.text ∧ line.text.getLast? ≠ some '\r' := by decide
  have after : ∀ text ∈ ((epilogue last).map SuiteLine.generated).map GeneratedLine.text,
      '\n' ∉ text ∧ text.getLast? ≠ some '\r' :=
    (by decide : ∀ text ∈ ((epilogue 1).map SuiteLine.generated).map GeneratedLine.text,
      '\n' ∉ text ∧ text.getLast? ≠ some '\r')
  refine List.forall_mem_append.mpr ⟨before, List.forall_mem_append.mpr ⟨ended, fun line member => ?_⟩⟩
  exact after line.text (List.mem_map_of_mem member)

/-- The text of the routine of an accepted source has the physical lines of its sheet.  There is one for every template
line that is noted, and one more for every carriage return in a fragment, a head or a statement; so the template line
that is noted under the number of a physical line is always the one that the line comes from just when none of the
pieces holds a carriage return. -/
theorem physical_lines_of_routine {source : TemplateSource} {marker : Text} {escape : Bool} {plan : Plan}
    (accepted : source.plan marker escape = .ok plan) :
    ∃ sheet, sheet? plan = some sheet ∧
      (∀ routine, source.routine marker escape = .ok routine →
        routine.origins = sheet.origins ∧ routine.text = sheet.toText) ∧
      Script.physicalLines sheet.toText = sheet.physical.map GeneratedLine.text ∧
      sheet.physical.length = sheet.origins.length + plan.pieces.flatten.count '\r' ∧
      ((∀ number, originAt sheet.origins number = originAt (sheet.physical.map GeneratedLine.origin) number) ↔
        ∀ piece ∈ plan.pieces, '\r' ∉ piece) := by
  obtain ⟨body, written, explained, found⟩ := sheet_of_plan accepted
  have trimmed : ∀ cause ∈ Cause.among [] plan.instructions, cause.piece.getLast? ≠ some '\r' := by
    intro cause member
    rcases Cause.piece_of_from (found cause member).2 with empty | listed
    · rw [empty]
      exact nofun
    · exact open_of_trimmed (trimmed_of_plan accepted _ listed)
  have feeds := feeds_of_explained explained fun cause member => (found cause member).1
  have opens := open_of_explained explained trimmed
  have returns := returns_sheetAround body (finalLine plan)
  rw [returns_of_explained explained, Cause.pieces_among] at returns
  have none : '\r' ∉ (sheetAround body (finalLine plan)).content ↔ ∀ piece ∈ plan.pieces, '\r' ∉ piece := by
    rw [← List.count_eq_zero, returns, List.count_eq_zero, List.mem_flatten]
    push Not
    rfl
  refine ⟨_, written, fun routine compiled => ?_, ?_, ?_, ?_⟩
  · simp only [TemplateSource.routine, accepted, ofPlan, written] at compiled
    exact ofSheet_origins compiled
  · refine Sheet.physicalLines_toText (List.cons_ne_nil _ _) (ended_sheetAround fun line member => ?_)
    exact ⟨feeds line member, opens line member⟩
  · rw [Sheet.length_physical, returns]
    rfl
  · rw [Sheet.origins_physical_iff, none]

/-- A template with a carriage return between brackets. -/
def brokenSource : TemplateSource :=
  ⟨"%% x = [1,\r2]\n%% self.y\n%% pass\n", none, none, "text/plain"⟩

/-- The carriage return makes one more physical line than there are template lines noted. -/
theorem brokenSource_physical_lines :
    ∃ plan, brokenSource.plan Environment.standardMarker false = .ok plan ∧ ∃ sheet, sheet? plan = some sheet ∧
      sheet.physical.length = sheet.origins.length + 1 := by
  have accepted : brokenSource.plan Environment.standardMarker false = .ok
      ⟨[.exec "x = [1,\r2]" 1, .exec "self.y" 2, .exec "pass" 3], false, none⟩ := by decide +kernel
  obtain ⟨sheet, written, -, -, count, -⟩ := physical_lines_of_routine accepted
  exact ⟨_, accepted, sheet, written, count⟩

/-- Lines and template lines of a routine that is out of step with its map: the ninth of twelve physical lines comes from
the second line of the template, but the third line is noted under its number. -/
theorem brokenSource_out_of_step :
    ((brokenSource.routine Environment.standardMarker false).toOption.map fun routine =>
      ((Script.physicalLines routine.text).length, routine.origins.length,
        (Script.physicalLines routine.text)[8]?, routine.originOf 9)) =
      some (12, 11, some ("        self.y" : Text), some 3) := by decide +kernel

end Routine
end Stencil
