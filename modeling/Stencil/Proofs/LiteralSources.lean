import Stencil.Proofs.AcceptedScripts
import Stencil.Proofs.PlainSources
import Stencil.Proofs.RoutineCalls

/-!
# Sources that render themselves

The routine of a source without directives and fragments appends the source as one literal, whatever characters the
source holds.  Compiling it succeeds, the literal stands for the source, and rendering gives the source back.
-/

namespace Stencil

open Effect Script

namespace Routine

/-! ## The script of a literal -/

/-- The line that appends a text, unless the text is empty. -/
def literalSuite (text : Text) (origin : Int) : List SuiteLine :=
  if text = [] then [] else [⟨2, Writing.appendLine (Quoted.encode text), origin⟩]

/-- The statement that appends a text, unless the text is empty. -/
def literalStatements (text : Text) : List Stmt :=
  if text = [] then [] else [appending 7 (.constant (.text text))]

/-- The lines of the routine that appends a text. -/
def literalLines (text : Text) (origin last : Int) : List SuiteLine :=
  prologueLines ++ (literalSuite text origin ++ epilogue last)

/-- The line behind the one that appends a text. -/
def lineBehind (text : Text) : Nat := (literalSuite text 0).length + 7

theorem reads_literal (text : Text) (origin : Int) : ∃ found,
    ReadAs 7 ((literalSuite text origin).map SuiteLine.script) found ∧
      Clauses 8 found .nothing (literalStatements text) := by
  by_cases empty : text = []
  · rw [literalSuite, literalStatements, if_pos empty, if_pos empty]
    exact ⟨[], .nil 7, .nil 8⟩
  · rw [literalSuite, literalStatements, if_neg empty, if_neg empty]
    exact (simple_appendLine text).alone 7 2 origin

theorem laid_literal (text : Text) (origin last : Int) :
    (layLines [⟨0, 0⟩] (((literalLines text origin last).map SuiteLine.script).map ScriptLine.bare)).2.isOk := by
  unfold literalLines literalSuite
  by_cases empty : text = []
  · rw [if_pos empty]
    rfl
  · rw [if_neg empty]
    rfl

theorem placed_literal (text : Text) (line : Nat) :
    misplacedIn? (routineScript (literalStatements text) line) = none := by
  unfold literalStatements
  by_cases empty : text = []
  · rw [if_pos empty]
    rfl
  · rw [if_neg empty]
    rfl

theorem readScript_literal (text : Text) (origin last : Int) :
    readScript (((literalLines text origin last).map SuiteLine.script).flatMap ScriptLine.written) =
      .ok (some (routineScript (literalStatements text) (lineBehind text))) := by
  obtain ⟨found, read, clauses⟩ := reads_literal text origin
  obtain ⟨whole, readWhole, clausesWhole⟩ := reads_around read clauses last
  have behind : (literalSuite text origin).length = (literalSuite text 0).length := by
    unfold literalSuite
    by_cases empty : text = []
    · rw [if_pos empty, if_pos empty]
    · rw [if_neg empty, if_neg empty]
      rfl
  rw [behind] at clausesWhole
  exact readScript_of_lines readWhole clausesWhole (laid_literal text origin last) (placed_literal text _)

/-- No line of the routine that appends a text holds what breaks a line. -/
theorem clean_literalLines (text : Text) (origin last : Int) {char : Char} (breaks : char ∈ Quoted.breaking) :
    ∀ line ∈ literalLines text origin last, char ∉ line.text := by
  have texts : (prologueLines ++ epilogue last).map SuiteLine.text =
      (prologueLines ++ epilogue 0).map SuiteLine.text := rfl
  have closed : ∀ text ∈ (prologueLines ++ epilogue 0).map SuiteLine.text, char ∉ text :=
    Quoted.breaking_cases breaks (by decide) (by decide) (by decide)
  have around (line : SuiteLine) (member : line ∈ prologueLines ++ epilogue last) : char ∉ line.text :=
    closed line.text (texts ▸ List.mem_map_of_mem member)
  intro line member
  simp only [literalLines, List.mem_append] at member
  rcases member with first | own | last
  · exact around line (List.mem_append_left _ first)
  · unfold literalSuite at own
    split at own
    · cases own
    · rw [List.mem_singleton.mp own]
      exact clean_appendLine text breaks
  · exact around line (List.mem_append_right _ last)

/-! ## The routine of a plain source -/

/-- The written lines of a routine that appends a text. -/
def literalText (text : Text) (origin last : Int) : Text :=
  ((literalLines text origin last).map SuiteLine.script).flatMap ScriptLine.written

theorem null_literalText (text : Text) (origin last : Int) :
    (literalText text origin last).contains '\x00' = false := by
  have clean : '\x00' ∉ literalText text origin last := by
    intro member
    obtain ⟨written, listed, inside⟩ := List.mem_flatMap.mp member
    obtain ⟨line, own, rfl⟩ := List.mem_map.mp listed
    have apart := clean_literalLines text origin last (by decide : '\x00' ∈ Quoted.breaking) line own
    simp only [ScriptLine.written, SuiteLine.script, List.mem_append, List.mem_singleton, List.mem_replicate] at inside
    rcases inside with (⟨-, space⟩ | inside) | feed
    · cases space
    · exact apart inside
    · cases feed
  simpa using clean

theorem ofSheet_literal (about : Origin) (text : Text) (origin last : Int) :
    ∃ routine, ofSheet about ⟨(literalLines text origin last).map SuiteLine.generated, 0⟩ = .ok routine ∧
      routine.text = literalText text origin last ∧
      routine.body = preparing ++ (literalStatements text ++ [returning (lineBehind text)]) := by
  have written : Sheet.toText ⟨(literalLines text origin last).map SuiteLine.generated, 0⟩ =
      literalText text origin last := by
    rw [Sheet.toText, List.map_map]
    exact join_lines _ (List.cons_ne_nil _ _)
  have read : readScript (literalText text origin last) =
      .ok (some (routineScript (literalStatements text) (lineBehind text))) := readScript_literal text origin last
  unfold ofSheet
  rw [written]
  dsimp only
  rw [if_neg (by rw [null_literalText]; decide), read]
  exact ⟨_, rfl, rfl, rfl⟩

/-- The routine of a plain source appends the source as a literal. -/
theorem routine_of_plain {marker : Text} {source : TemplateSource} (plain : PlainText marker source.text)
    (escape : Bool) :
    ∃ routine origin last, source.routine marker escape = .ok routine ∧
      routine.text = literalText source.text origin last ∧
      routine.body = preparing ++ (literalStatements source.text ++ [returning (lineBehind source.text)]) := by
  obtain ⟨origin, suite⟩ := suite_of_plain source escape 2
  obtain ⟨routine, accepted, text, body⟩ :=
    ofSheet_literal source.origin source.text origin (finalLine ((plainTree source).plan escape))
  refine ⟨routine, origin, _, ?_, text, body⟩
  simp only [TemplateSource.routine, plan_of_plain plain escape, ofPlan, sheet?_plan, prologue_lines,
    ← List.map_append, suite]
  exact accepted

/-! ## Lines that append -/

/-- The lines of a routine that append a value to the output. -/
def appendLines (routine : Routine) : List Text :=
  (Text.splitOn '\n' routine.text).filter fun line => Text.startsWith (appendName ++ ['(']) (Text.trimStart line)

theorem splitOn_line {separator : Char} {line : Text} (clean : separator ∉ line) (more : Text) :
    Text.splitOn separator (line ++ separator :: more) = line :: Text.splitOn separator more := by
  induction line with
  | nil => rw [List.nil_append, Text.splitOn, if_pos rfl]
  | cons char line ih =>
      rw [List.mem_cons, not_or] at clean
      rw [List.cons_append, Text.splitOn, if_neg (Ne.symm clean.1), ih clean.2]

theorem splitOn_written {lines : List ScriptLine} (clean : ∀ line ∈ lines, '\n' ∉ line.text) :
    Text.splitOn '\n' (lines.flatMap ScriptLine.written) =
      lines.map (fun line => List.replicate line.width ' ' ++ line.text) ++ [[]] := by
  induction lines with
  | nil => rfl
  | cons line lines ih =>
      obtain ⟨own, others⟩ := List.forall_mem_cons.mp clean
      have whole : '\n' ∉ List.replicate line.width ' ' ++ line.text := by
        rw [List.mem_append, List.mem_replicate]
        rintro (⟨-, space⟩ | inside)
        · cases space
        · exact own inside
      rw [List.flatMap_cons, ScriptLine.written, List.append_assoc _ ['\n'], List.singleton_append,
        splitOn_line whole, ih others]
      rfl

theorem appendLines_of_text {routine : Routine} {text : Text} {origin last : Int}
    (written : routine.text = literalText text origin last) :
    appendLines routine =
      if text = [] then [] else [List.replicate 8 ' ' ++ Writing.appendLine (Quoted.encode text)] := by
  have clean : ∀ line ∈ (literalLines text origin last).map SuiteLine.script, '\n' ∉ line.text := by
    intro line member
    obtain ⟨own, listed, rfl⟩ := List.mem_map.mp member
    exact clean_literalLines text origin last (by decide) own listed
  rw [appendLines, written, literalText, splitOn_written clean, literalLines, literalSuite]
  by_cases empty : text = []
  · rw [if_pos empty, if_pos empty]
    rfl
  · rw [if_neg empty, if_neg empty]
    rfl

/-! ## Rendering -/

/-- The statements behind the first ones of a literal's routine give back the literal. -/
theorem runBlock_literal {veil : Veil} {escape : Bool} {bound : List Text} {here : Activation} {world : World}
    (own : here.scope = veil.scope) (holding : Holding veil escape bound [] world) (text : Text)
    (steps depth rounds line : Nat) : ∃ identity after,
      runBlock (callWithin steps (depth + 1)) rounds here (literalStatements text ++ [returning line]) world =
        .done (.finish (.text identity false text)) after := by
  have last {items : List Value} {between : World} (output : outputOf? items = some text)
      (gathered : Holding veil escape bound items between) : ∃ identity after,
        runBlock (callWithin steps (depth + 1)) rounds here [returning line] between =
          .done (.finish (.text identity false text)) after := by
    obtain ⟨identity, count, returned⟩ := run_returning own gathered output steps depth rounds line
    refine ⟨identity, { between with identities := count }, ?_⟩
    rw [runBlock, bind_done returned]
    rfl
  unfold literalStatements
  by_cases empty : text = []
  · rw [if_pos empty, List.nil_append]
    exact last (empty ▸ rfl) holding
  · rw [if_neg empty, List.singleton_append]
    have output : outputOf? [.plain text] = some text := congrArg some (List.append_nil text)
    rw [runBlock_proceed (run_appending_text own holding steps depth rounds 7 text)]
    exact last output (holding_gather holding (.plain text))

/-- A template whose routine appends one literal renders to the literal. -/
theorem render_literal {template : Template} {number : Nat} {world : World} {text : Text} {line : Nat}
    (standing : Standing template number world)
    (body : template.routine.body = preparing ++ (literalStatements text ++ [returning line]))
    (steps depth : Nat) (context : Value) : ∃ identity after,
      render (callWithin steps (depth + 2)) number context world = .done (.text identity false text) after := by
  have names : namesOfCall template.routine.body = ["self".toList, escapeName, textName, bufferName, appendName] := by
    rw [body, literalStatements]
    by_cases empty : text = []
    · rw [if_pos empty]
      rfl
    · rw [if_neg empty]
      rfl
  obtain ⟨outer, globals, -, -, -, inside, rendered⟩ :=
    render_standing standing (by rw [names]; decide) steps (depth + 1) context
  rw [names] at inside
  have own : ∀ name ∈ [escapeName, textName, bufferName, appendName],
      ["self".toList, escapeName, textName, bufferName, appendName].contains name := by decide
  have fresh : ∀ entry ∈ [("self".toList, context)], isOwnName entry.1 = false := by
    intro entry member
    rw [List.mem_singleton.mp member]
    rfl
  have holding := holding_prepared false inside own fresh
  obtain ⟨identity, after, ran⟩ := runBlock_literal rfl holding text steps depth steps line
  refine ⟨identity, after, rendered.trans ?_⟩
  have whole : runBlock (callWithin steps (depth + 1)) steps (callOf template globals world) template.routine.body
      (begun (namesOfCall template.routine.body) outer context world) =
      .done (.finish (.text identity false text)) after := by
    rw [names, body, run_preparing steps inside own fresh]
    exact ran
  rw [recover, bind_done whole]
  rfl

end Routine

/-! ## Sources that render themselves -/

section Main

open Routine

/-- A source in which no line is a directive and no fragment starts is its own rendering.  Its plan consists of literals
that make the source; its routine has one line that appends a literal, or none for an empty source, and the literal is
closed by its quote, has no line breaks and stands for the source; compiling it succeeds in every world, whatever is
decided about escaping; and rendering it with any context gives the source back as long as the template stands. -/
theorem plain_source_renders_itself {environment : Environment} {source : TemplateSource}
    (plain : PlainText environment.marker source.text) :
    (∀ escape, ∃ (plan : Plan) (pieces : List (Text × Int)), source.plan environment.marker escape = .ok plan ∧
      plan.instructions = pieces.map (fun piece => .literal piece.1 piece.2) ∧
      pieces.flatMap Prod.fst = source.text) ∧
    (∀ escape, ∃ routine, source.routine environment.marker escape = .ok routine ∧
      (source.text = [] → appendLines routine = []) ∧
      (source.text ≠ [] → ∃ quote inside,
        appendLines routine = [List.replicate 8 ' ' ++ Writing.appendLine (quote :: inside ++ [quote])] ∧
        quote ∈ ['\'', '"'] ∧ '\n' ∉ inside ∧ '\r' ∉ inside ∧
        readShort quote (inside ++ [quote]) = .ok (inside, []) ∧ Quoted.decode? inside = some source.text)) ∧
    ∀ decision globals world, ∃ number template after,
      compile environment source decision globals world = .done number after ∧ Standing template number after ∧
      template.source = source ∧ (∀ escape, decision = some escape → template.escape = escape) ∧
      ∀ later, Standing template number later → ∀ context, ∃ identity final,
        render callValue number context later = .done (.text identity false source.text) final := by
  refine ⟨fun escape => ?_, fun escape => ?_, fun decision globals world => ?_⟩
  · obtain ⟨pieces, instructions, whole⟩ := literals_of_plain source escape
    exact ⟨_, pieces, plan_of_plain plain escape, instructions, whole⟩
  · obtain ⟨routine, origin, last, accepted, written, -⟩ := routine_of_plain plain escape
    have lines := appendLines_of_text written
    refine ⟨routine, accepted, fun empty => lines.trans (if_pos empty), fun occupied => ?_⟩
    have quoted := Quoted.isQuote_quoteFor source.text
    refine ⟨_, _, lines.trans (if_neg occupied), ?_, Quoted.clean_inside quoted _ (by decide),
      Quoted.clean_inside quoted _ (by decide), readShort_inside quoted source.text [],
      Quoted.decode?_inside quoted source.text⟩
    rcases quoted with same | same
    · exact List.mem_cons.mpr (.inl same)
    · exact List.mem_cons.mpr (.inr (List.mem_singleton.mpr same))
  · obtain ⟨escape, given, decided⟩ := compile_decided environment source decision globals world
    obtain ⟨routine, origin, last, accepted, -, body⟩ := routine_of_plain plain escape
    refine ⟨_, _, _, decided.trans (compile_installed accepted globals world), standing_installed _ _ _ _ _, rfl, given,
      fun later stands context => ?_⟩
    exact render_literal stands body loopBound 998 context

/-- A source with both quotes, a backslash, each kind of line break and single characters of the markers. -/
def quotedSource : TemplateSource := ⟨"it's \"\\n\"\r\n \x7b % $5\rend\n\x07", none, none, "text/plain"⟩

/-- An environment with the standard marker. -/
def standingEnvironment : Environment := ⟨none, 0, Environment.standardMarker⟩

theorem quotedSource_renders_itself : PlainText standingEnvironment.marker quotedSource.text ∧
    ∀ world context, ∃ number template after,
      compile standingEnvironment quotedSource none 0 world = .done number after ∧ Standing template number after ∧
      ∃ identity final, render callValue number context after = .done
        (.text identity false quotedSource.text) final := by
  have plain : PlainText standingEnvironment.marker quotedSource.text := ⟨by decide, by decide, by decide⟩
  refine ⟨plain, fun world context => ?_⟩
  obtain ⟨-, -, compiles⟩ := plain_source_renders_itself plain
  obtain ⟨number, template, after, compiled, standing, -, -, renders⟩ := compiles none 0 world
  exact ⟨number, template, after, compiled, standing, renders after standing context⟩

end Main

end Stencil
