import Stencil.Proofs.SnippetLines
import Stencil.World.Convert

/-!
# Reports without their colours

Stripping a coloured report gives what stripping the plain one gives, even when the templates that it shows have whole or
broken escape sequences of their own.  No sequence goes on over a line feed or another escape character, and whatever is
painted ends before one of them, so a broken sequence stays broken in the same way with and without colours.
-/

namespace Stencil

/-- The character that escape sequences start with. -/
def escapeCharacter : Char := '\x1b'

/-- Whether a text has no escape sequence, not even the start of one. -/
def Plain (text : Text) : Prop := escapeCharacter ∉ text

instance (text : Text) : Decidable (Plain text) := inferInstanceAs (Decidable (_ ∉ _))

/-- Whether no escape sequence in front of a text can go on in it. -/
def Interrupts (text : Text) : Prop := ∀ char ∈ text.head?, char = '\n' ∨ char = escapeCharacter

theorem interrupts_feed (text : Text) : Interrupts ('\n' :: text) := by
  rintro char ⟨⟩
  exact .inl rfl

theorem interrupts_sequence (tint : Tint) (text : Text) : Interrupts (tint.sequence ++ text) := by
  rintro char ⟨⟩
  exact .inr rfl

/-! ## Sequences at the end of a text -/

theorem afterControl?_interrupted {text : Text} (interrupts : Interrupts text) (intermediate : Bool) :
    afterControl? intermediate text = none := by
  cases text with
  | nil => rfl
  | cons char text =>
      rcases interrupts char rfl with rfl | rfl <;> cases intermediate <;> rfl

theorem afterControl?_append {rest : Text} (interrupts : Interrupts rest) (intermediate : Bool) (text : Text) :
    afterControl? intermediate (text ++ rest) = (afterControl? intermediate text).map (· ++ rest) := by
  induction text generalizing intermediate with
  | nil => exact afterControl?_interrupted interrupts intermediate
  | cons char text ih =>
      rw [List.cons_append, afterControl?, afterControl?]
      split
      · exact ih false
      split
      · exact ih true
      split <;> rfl

theorem afterEscape?_append {rest : Text} (interrupts : Interrupts rest) (text : Text) :
    afterEscape? (text ++ rest) = (afterEscape? text).map (· ++ rest) := by
  cases text with
  | nil =>
      cases rest with
      | nil => rfl
      | cons char rest => rcases interrupts char rfl with rfl | rfl <;> rfl
  | cons char text =>
      by_cases control : char = '['
      · subst control
        exact afterControl?_append interrupts false text
      · simp only [List.cons_append, afterEscape?]
        split <;> rfl

theorem stripPaint_found {text rest : Text} (found : afterEscape? text = some rest) :
    stripPaint (escapeCharacter :: text) = stripPaint rest := by
  rw [stripPaint, escapeCharacter, if_pos rfl]
  split
  · rename_i other same
    rw [Option.some.inj (same.symm.trans found)]
  · rename_i broken
    cases broken.symm.trans found

theorem stripPaint_broken {text : Text} (broken : afterEscape? text = none) :
    stripPaint (escapeCharacter :: text) = escapeCharacter :: stripPaint text := by
  rw [stripPaint, escapeCharacter, if_pos rfl]
  split
  · rename_i found
    cases broken.symm.trans found
  · rfl

theorem stripPaint_other {char : Char} (other : char ≠ escapeCharacter) (text : Text) :
    stripPaint (char :: text) = char :: stripPaint text := by
  rw [stripPaint]
  exact if_neg other

/-- What stands behind a place where no sequence can go on is stripped by itself. -/
theorem stripPaint_append {rest : Text} (interrupts : Interrupts rest) (text : Text) :
    stripPaint (text ++ rest) = stripPaint text ++ stripPaint rest := by
  -- Whether an escape character starts a sequence is decided before `rest` comes, so both readings take the same steps.
  fun_induction stripPaint text with
  | case1 => rfl
  | case2 text after found ih =>
      have found' : afterEscape? (text ++ rest) = some (after ++ rest) := by
        rw [afterEscape?_append interrupts, found, Option.map_some]
      exact (stripPaint_found found').trans ih
  | case3 text broken ih =>
      have broken' : afterEscape? (text ++ rest) = none := by
        rw [afterEscape?_append interrupts, broken, Option.map_none]
      exact (stripPaint_broken broken').trans (congrArg _ ih)
  | case4 char text other ih => exact (stripPaint_other other _).trans (congrArg _ ih)

theorem stripPaint_plain_append {text : Text} (plain : Plain text) (rest : Text) :
    stripPaint (text ++ rest) = text ++ stripPaint rest := by
  induction text with
  | nil => rfl
  | cons char text ih =>
      obtain ⟨other, plain⟩ := not_or.mp (mt List.mem_cons.mpr plain)
      exact (stripPaint_other (Ne.symm other) _).trans (congrArg _ (ih plain))

theorem stripPaint_nil : stripPaint [] = [] := by
  rw [stripPaint]

theorem stripPaint_plain {text : Text} (plain : Plain text) : stripPaint text = text := by
  simpa [stripPaint_nil] using stripPaint_plain_append plain []

theorem stripPaint_sequence (tint : Tint) (text : Text) : stripPaint (tint.sequence ++ text) = stripPaint text := by
  cases tint <;> exact stripPaint_found rfl

theorem stripPaint_sequences (tints : List Tint) (text : Text) :
    stripPaint (tints.flatMap Tint.sequence ++ text) = stripPaint text := by
  induction tints with
  | nil => rfl
  | cons tint tints ih => rw [List.flatMap_cons, List.append_assoc, stripPaint_sequence, ih]

/-! ## Painted texts -/

theorem stripPaint_reset : stripPaint Tint.reset.sequence = [] := by
  simpa [stripPaint_nil] using stripPaint_sequence .reset []

/-- Painting a text changes nothing about what is left of it. -/
theorem stripPaint_paint (colours : Bool) (tints : List Tint) (text : Text) :
    stripPaint (paint colours tints text) = stripPaint text := by
  unfold paint
  split
  · have interrupts : Interrupts Tint.reset.sequence := by
      simpa using interrupts_sequence .reset []
    rw [List.append_assoc, stripPaint_sequences, stripPaint_append interrupts, stripPaint_reset, List.append_nil]
  · rfl

/-- A plain text that is painted is left as it is, whatever stands behind it. -/
theorem stripPaint_paint_append (colours : Bool) (tints : List Tint) {text : Text} (plain : Plain text) (rest : Text) :
    stripPaint (paint colours tints text ++ rest) = text ++ stripPaint rest := by
  unfold paint
  split
  · rw [List.append_assoc, List.append_assoc, stripPaint_sequences, stripPaint_plain_append plain, stripPaint_sequence]
  · exact stripPaint_plain_append plain rest

/-- Rows are stripped one by one. -/
theorem stripPaint_join (rows : List Text) :
    stripPaint (Text.join ['\n'] rows) = Text.join ['\n'] (rows.map stripPaint) := by
  induction rows with
  | nil => exact stripPaint_nil
  | cons row rows ih =>
      cases rows with
      | nil => rfl
      | cons next rows =>
          calc stripPaint (Text.join ['\n'] (row :: next :: rows))
              = stripPaint (row ++ '\n' :: Text.join ['\n'] (next :: rows)) := by simp [Text.join]
            _ = stripPaint row ++ '\n' :: stripPaint (Text.join ['\n'] (next :: rows)) := by
                rw [stripPaint_append (interrupts_feed _), stripPaint_other (by decide)]
            _ = Text.join ['\n'] ((row :: next :: rows).map stripPaint) := by
                rw [ih]
                simp [Text.join]

/-! ## Rows of reports -/

theorem plain_append {first second : Text} : Plain (first ++ second) ↔ Plain first ∧ Plain second := by
  simp [Plain]

theorem plain_cons {char : Char} {text : Text} : Plain (char :: text) ↔ char ≠ escapeCharacter ∧ Plain text := by
  simp [Plain, eq_comm]

theorem plain_nil : Plain [] := nofun

theorem plain_join {rows : List Text} (plain : ∀ row ∈ rows, Plain row) : Plain (Text.join ['\n'] rows) := by
  induction rows with
  | nil => exact plain_nil
  | cons row rows ih =>
      obtain ⟨own, others⟩ := List.forall_mem_cons.mp plain
      cases rows with
      | nil => exact own
      | cons next rows => exact plain_append.mpr ⟨plain_append.mpr ⟨own, by decide⟩, ih others⟩

theorem plain_ofInt (number : Int) : Plain (Text.ofInt number) :=
  fun inside => absurd (Text.mem_ofInt inside) (by decide)

theorem plain_spaces (count : Int) : Plain (Text.spaces count) := by
  intro inside
  exact absurd (List.eq_of_mem_replicate inside) (by decide)

theorem plain_padLeft (width : Nat) {text : Text} (plain : Plain text) : Plain (Text.padLeft width text) := by
  refine plain_append.mpr ⟨fun inside => ?_, plain⟩
  exact absurd (List.eq_of_mem_replicate inside) (by decide)

theorem plain_toText (code : ErrorCode) : Plain code.toText := by
  cases code <;> decide

/-- What stands in front of a numbered line. -/
theorem plain_marked (atFault : Bool) (number : Int) :
    Plain ((if atFault then '>' else ' ') :: Text.padLeft 3 (Text.ofInt number)) :=
  plain_cons.mpr ⟨by cases atFault <;> decide, plain_padLeft 3 (plain_ofInt number)⟩

namespace Paint

/-- No code is empty, so every code stands in front of its message. -/
theorem header_coded (colours : Bool) (errorCode : ErrorCode) (message : Text) :
    header colours (some errorCode.toText) message = code colours errorCode.toText ++ ": " ++ message := by
  cases errorCode <;> rfl

theorem stripPaint_header (colours : Bool) (errorCode : Option ErrorCode) (message : Text) :
    stripPaint (header colours (errorCode.map ErrorCode.toText) message) =
      stripPaint (header false (errorCode.map ErrorCode.toText) message) := by
  cases errorCode with
  | none => rfl
  | some errorCode =>
      have headed (colours : Bool) : stripPaint (header colours (some errorCode.toText) message) =
          errorCode.toText ++ stripPaint (": " ++ message) := by
        rw [header_coded, List.append_assoc]
        exact stripPaint_paint_append colours _ (plain_toText errorCode) _
      rw [Option.map_some, headed, headed]

theorem stripPaint_sourceLine (colours : Bool) (number : Int) (content : Text) (atFault : Bool) :
    stripPaint (sourceLine colours number content atFault) = stripPaint (sourceLine false number content atFault) := by
  have numbered (colours : Bool) : stripPaint (sourceLine colours number content atFault) =
      (if atFault then '>' else ' ') :: Text.padLeft 3 (Text.ofInt number) ++ (" | ".toList ++ stripPaint content) := by
    rw [sourceLine, List.append_assoc, lineNumber, stripPaint_paint_append colours _ (plain_marked atFault number),
      stripPaint_plain_append (by decide : Plain " | ".toList)]
    cases atFault <;> exact congrArg _ (congrArg _ (stripPaint_paint colours _ content))
  rw [numbered, numbered]

end Paint

namespace Snippet

theorem stripPaint_caretLine (colours : Bool) (column : Int) :
    stripPaint (caretLine colours column) = stripPaint (caretLine false column) := by
  have painted (colours : Bool) : stripPaint (caretLine colours column) =
      "     |".toList ++ (" ".toList ++ stripPaint (Text.spaces column ++ ['^'])) := by
    rw [caretLine, List.append_assoc, Paint.faint, stripPaint_paint_append colours _ (by decide),
      stripPaint_plain_append (by decide : Plain " ".toList)]
    exact congrArg _ (congrArg _ (stripPaint_paint colours _ _))
  rw [painted, painted]

theorem stripPaint_rows (colours : Bool) (snippet : Snippet) (line : Int × Text) :
    (snippet.rows colours line).map stripPaint = (snippet.rows false line).map stripPaint := by
  have row := Paint.stripPaint_sourceLine colours line.1 line.2 (line.1 == snippet.faultLine)
  unfold rows
  cases snippet.column with
  | none => simp only [List.map_cons, row]
  | some column =>
      dsimp only
      split <;> simp only [List.map_cons, row, stripPaint_caretLine colours column]

theorem stripPaint_toText (colours : Bool) (snippet : Snippet) :
    stripPaint (snippet.toText colours) = stripPaint (snippet.toText false) := by
  simp only [toText, stripPaint_join, List.map_cons, List.map_append, List.map_flatMap, List.map_nil, Paint.faint,
    stripPaint_paint, stripPaint_rows colours]

end Snippet

theorem stripPaint_stackText (colours : Bool) (stack : List EnclosingFrame) :
    stripPaint (stackText colours stack) = stripPaint (stackText false stack) := by
  cases stack with
  | nil => rfl
  | cons frame stack =>
      have bullet (colours : Bool) (place : Text) :
          stripPaint ("  • ".toList ++ Paint.location colours place) = "  • ".toList ++ stripPaint place := by
        rw [stripPaint_plain_append (by decide : Plain "  • ".toList), Paint.location, stripPaint_paint]
      simp only [stackText, stripPaint_join, List.map_cons, List.map_map, Function.comp_def, Paint.faint, stripPaint_paint,
        bullet]

theorem stripPaint_documentationRows (colours : Bool) (code : Option ErrorCode) :
    (SourceFault.documentationRows colours code).map stripPaint =
      (SourceFault.documentationRows false code).map stripPaint := by
  cases code with
  | none => rfl
  | some code =>
      have row (colours : Bool) : stripPaint ("  ".toList ++ Paint.faint colours "Docs:" ++ " ".toList ++
          Paint.link colours code.documentation) = "  Docs: ".toList ++ stripPaint code.documentation := by
        rw [List.append_assoc, List.append_assoc, stripPaint_plain_append (by decide : Plain "  ".toList), Paint.faint,
          stripPaint_paint_append colours _ (by decide), stripPaint_plain_append (by decide : Plain " ".toList), Paint.link,
          stripPaint_paint]
        rfl
      exact congrArg (· :: []) ((row colours).trans (row false).symm)

/-! ## Reports -/

namespace SourceFault

theorem stripPaint_compact (colours : Bool) (fault : SourceFault) :
    stripPaint (fault.compact colours) = stripPaint (fault.compact false) := by
  have place (colours : Bool) : stripPaint ("  --> ".toList ++ Paint.location colours fault.location) =
      "  --> ".toList ++ stripPaint fault.location := by
    rw [stripPaint_plain_append (by decide : Plain "  --> ".toList), Paint.location, stripPaint_paint]
  unfold compact
  cases fault.shownSource? with
  | none =>
      simp only [stripPaint_join, List.map_cons, List.map_append, Paint.stripPaint_header colours, place, List.map_nil,
        stripPaint_documentationRows colours]
  | some shown =>
      simp only [stripPaint_join, List.map_cons, List.map_append, Paint.stripPaint_header colours, place, List.map_nil,
        stripPaint_documentationRows colours, Snippet.stripPaint_toText colours]

end SourceFault

namespace RenderFault

theorem stripPaint_locationRow (colours : Bool) (fault : RenderFault) :
    stripPaint (fault.locationRow colours) = stripPaint (fault.locationRow false) := by
  have place (colours : Bool) : stripPaint (fault.locationRow colours) =
      "  Location: ".toList ++ stripPaint fault.location := by
    unfold locationRow
    rw [stripPaint_plain_append (by decide : Plain "  Location: ".toList), Paint.location, stripPaint_paint]
  rw [place, place]

theorem stripPaint_contextRows (colours : Bool) (fault : RenderFault) :
    (fault.contextRows colours).map stripPaint = (fault.contextRows false).map stripPaint := by
  unfold contextRows
  cases fault.snippet <;> cases fault.stack.isEmpty <;>
    simp [Snippet.stripPaint_toText colours, stripPaint_stackText colours]

/-- The suggestion stands behind its painted title. -/
theorem stripPaint_suggestionRows (colours : Bool) {lead title : Text} (led : Plain lead) (titled : Plain title)
    (fault : RenderFault) :
    (fault.suggestionRows (lead ++ Paint.hint colours title)).map stripPaint =
      (fault.suggestionRows (lead ++ Paint.hint false title)).map stripPaint := by
  unfold suggestionRows
  cases firstGiven? [fault.suggestion] with
  | none => rfl
  | some suggestion =>
      have row (colours : Bool) : stripPaint (lead ++ Paint.hint colours title ++ " ".toList ++ suggestion) =
          lead ++ (title ++ stripPaint (" ".toList ++ suggestion)) := by
        rw [List.append_assoc, List.append_assoc, stripPaint_plain_append led, Paint.hint,
          stripPaint_paint_append colours _ titled]
      exact congrArg (· :: []) ((row colours).trans (row false).symm)

theorem stripPaint_message (colours : Bool) (fault : RenderFault) :
    stripPaint (fault.message colours) = stripPaint (fault.message false) := by
  have suggestion := stripPaint_suggestionRows colours (by decide : Plain "\n  ".toList)
    (by decide : Plain "Suggestion:".toList) fault
  unfold message
  cases fault.hasLocation <;>
    simp only [stripPaint_join, List.map_cons, List.map_append, stripPaint_locationRow colours, suggestion,
      stripPaint_contextRows colours, List.map_nil, if_true, Bool.false_eq_true, if_false]

theorem stripPaint_compact (colours : Bool) (fault : RenderFault) :
    stripPaint (fault.compact colours) = stripPaint (fault.compact false) := by
  have suggestion := stripPaint_suggestionRows colours (by decide : Plain "  ".toList) (by decide : Plain "Hint:".toList)
    fault
  simp only [compact, stripPaint_join, List.map_cons, List.map_append, Paint.stripPaint_header colours,
    stripPaint_locationRow colours, suggestion, stripPaint_contextRows colours, stripPaint_documentationRows colours]

end RenderFault

/-! ## Reports of plain texts -/

theorem plain_of_firstGiven? {texts : List (Option Text)} {text : Text}
    (plain : ∀ text, some text ∈ texts → Plain text) (found : firstGiven? texts = some text) : Plain text := by
  obtain ⟨given, inside, same⟩ := List.exists_of_findSome?_eq_some found
  match given, same with
  | some (char :: rest), same =>
      cases same
      exact plain _ inside

theorem mem_of_mem_splitOn {separator char : Char} {text piece : Text} (piece_mem : piece ∈ Text.splitOn separator text)
    (char_mem : char ∈ piece) : char ∈ text := by
  obtain ⟨pieces, last, split, whole⟩ := splitOn_ends separator text
  rw [split] at piece_mem
  rw [← whole]
  rcases List.mem_append.mp piece_mem with front | back
  · exact List.mem_append_left _ (List.mem_flatMap.mpr ⟨piece, front, List.mem_append_left _ char_mem⟩)
  · rw [List.mem_singleton.mp back] at char_mem
    exact List.mem_append_right _ char_mem

namespace Snippet

theorem plain_content {source piece : Text} (plain : Plain source) (there : piece ∈ Text.splitOn '\n' source) :
    Plain (content piece) :=
  fun inside => plain (mem_of_mem_splitOn there (content_subset piece inside))

/-- A snippet shows no characters but those of the source. -/
theorem plain_around {source : Text} (plain : Plain source) (line context : Int) (column : Option Int) :
    ∀ entry ∈ (around source line context column).lines, Plain entry.2 := by
  rintro ⟨number, text⟩ shown
  rw [around_pieces] at shown
  obtain ⟨place, found, -⟩ := mem_number.mp (List.mem_filter.mp shown).1
  obtain ⟨piece, there, rfl⟩ := List.mem_map.mp (List.mem_of_getElem? found)
  exact plain_content plain there

theorem plain_toText {snippet : Snippet} (plain : ∀ entry ∈ snippet.lines, Plain entry.2) :
    Plain (snippet.toText false) := by
  have caret (column : Int) : Plain (caretLine false column) :=
    plain_append.mpr ⟨by decide, plain_append.mpr ⟨plain_spaces column, by decide⟩⟩
  have row {entry : Int × Text} (inside : entry ∈ snippet.lines) (atFault : Bool) :
      Plain (Paint.sourceLine false entry.1 entry.2 atFault) := by
    refine plain_append.mpr ⟨plain_append.mpr ⟨plain_marked atFault entry.1, by decide⟩, ?_⟩
    cases atFault <;> exact plain entry inside
  refine plain_join (List.forall_mem_cons.mpr ⟨by decide, fun shown inside => ?_⟩)
  rcases List.mem_append.mp inside with inside | rule
  · obtain ⟨entry, there, inside⟩ := List.mem_flatMap.mp inside
    unfold rows at inside
    dsimp only at inside
    split at inside
    · split at inside
      · rcases List.mem_cons.mp inside with rfl | inside
        · exact row there _
        · rw [List.mem_singleton.mp inside]
          exact caret _
      · rw [List.mem_singleton.mp inside]
        exact row there _
    · rw [List.mem_singleton.mp inside]
      exact row there _
  · rw [List.mem_singleton.mp rule]
    exact (by decide : Plain "   |".toList)

end Snippet

theorem plain_header {message : Text} (code : Option ErrorCode) (plain : Plain message) :
    Plain (Paint.header false (code.map ErrorCode.toText) message) := by
  cases code with
  | none => exact plain
  | some code =>
      rw [Option.map_some, Paint.header_coded]
      exact plain_append.mpr ⟨plain_append.mpr ⟨plain_toText code, by decide⟩, plain⟩

theorem plain_documentationRows (code : Option ErrorCode) :
    ∀ row ∈ SourceFault.documentationRows false code, Plain row := by
  cases code with
  | none => exact nofun
  | some code =>
      intro row inside
      rw [List.mem_singleton.mp inside]
      cases code <;> decide +kernel

theorem plain_stackText {stack : List EnclosingFrame} (plain : ∀ frame ∈ stack, Plain frame.1) :
    Plain (stackText false stack) := by
  cases stack with
  | nil => exact plain_nil
  | cons frame stack =>
      refine plain_join (List.forall_mem_cons.mpr ⟨by decide, fun row inside => ?_⟩)
      obtain ⟨frame, there, rfl⟩ := List.mem_map.mp inside
      exact plain_append.mpr ⟨by decide, plain_append.mpr ⟨plain_append.mpr ⟨plain frame there, by decide⟩, plain_ofInt _⟩⟩

/-- A place and the line after it, if there is one. -/
theorem plain_place {place : Text} (plain : Plain place) (line : Option Int) :
    Plain (match SourceFault.knownLine? line with
      | some line => place ++ ":" ++ Text.ofInt line
      | none => place) := by
  split
  · exact plain_append.mpr ⟨plain_append.mpr ⟨plain, by decide⟩, plain_ofInt _⟩
  · exact plain

theorem plain_getD {texts : List (Option Text)} (plain : ∀ text, some text ∈ texts → Plain text) :
    Plain ((firstGiven? texts).getD "<template>".toList) := by
  cases found : firstGiven? texts with
  | none => exact (by decide : Plain "<template>".toList)
  | some text => exact plain_of_firstGiven? plain found

namespace SourceFault

/-- The line that the long message shows is a piece of the source. -/
theorem of_sourceLine? {fault : SourceFault} {line : Int} {content : Text}
    (found : fault.sourceLine? = some (line, content)) : ∃ source piece, fault.shownSource? = some (source, line) ∧
      piece ∈ Text.splitOn '\n' source ∧ content = Snippet.content piece := by
  unfold sourceLine? at found
  obtain ⟨⟨source, shown⟩, known, found⟩ := Option.bind_eq_some_iff.mp found
  dsimp only at found
  split at found
  · obtain ⟨piece, there, same⟩ := Option.bind_eq_some_iff.mp found
    cases same
    exact ⟨source, piece, known, List.mem_of_getElem? there, rfl⟩
  · cases found

/-- The texts that a report is given. -/
def texts (fault : SourceFault) : List Text :=
  fault.text :: (fault.origin.name.toList ++ fault.origin.file.toList ++ fault.origin.source.toList)

variable {fault : SourceFault} (plain : ∀ text ∈ fault.texts, Plain text)
include plain

theorem plain_location : Plain fault.location := by
  refine plain_place (plain_getD fun text given => ?_) _
  refine plain text (List.mem_cons_of_mem _ ?_)
  simp only [List.mem_cons, List.not_mem_nil, or_false] at given
  rcases given with given | given <;> simp [← given]

theorem plain_source {source : Text} {line : Int} (shown : fault.shownSource? = some (source, line)) : Plain source := by
  simp only [shownSource?, Option.bind_eq_bind, Option.bind_eq_some_iff, Option.pure_def, Option.some.injEq,
    Prod.mk.injEq] at shown
  obtain ⟨source, given, -, -, rfl, -⟩ := shown
  refine plain_of_firstGiven? (fun text given => plain text (List.mem_cons_of_mem _ ?_)) given
  simp [← List.mem_singleton.mp given]

theorem plain_compact : Plain (fault.compact false) := by
  have header := plain_header fault.code (plain fault.text List.mem_cons_self)
  have place : Plain ("  --> ".toList ++ Paint.location false fault.location) :=
    plain_append.mpr ⟨by decide, plain_location plain⟩
  refine plain_join (List.forall_mem_cons.mpr ⟨header, List.forall_mem_cons.mpr ⟨place, fun row inside => ?_⟩⟩)
  rcases List.mem_append.mp inside with inside | inside
  · split at inside
    · rename_i source line shown
      rw [List.mem_singleton.mp inside]
      exact Snippet.plain_toText (Snippet.plain_around (plain_source plain shown) _ _ _)
    · cases inside
  · exact plain_documentationRows fault.code row inside

theorem plain_message : Plain fault.message := by
  have suffix : Plain fault.columnSuffix := by
    unfold columnSuffix
    split
    · exact plain_cons.mpr ⟨by decide, plain_ofInt _⟩
    · exact plain_nil
  have pointer : Plain (caret fault.column) := by
    unfold caret
    split
    · exact plain_append.mpr ⟨plain_append.mpr ⟨by decide, plain_spaces _⟩, by decide⟩
    · exact plain_nil
  have shown : Plain fault.excerpt := by
    unfold excerpt
    split
    · rename_i line content found
      obtain ⟨source, piece, known, there, rfl⟩ := of_sourceLine? found
      have numbered : Plain (Text.padLeft 3 (Text.ofInt line)) := plain_padLeft 3 (plain_ofInt line)
      exact plain_append.mpr ⟨plain_append.mpr ⟨plain_append.mpr ⟨plain_append.mpr ⟨by decide, numbered⟩, by decide⟩,
        Snippet.plain_content (plain_source plain known) there⟩, pointer⟩
    · exact plain_nil
  refine plain_append.mpr ⟨plain_append.mpr ⟨plain_append.mpr ⟨plain_append.mpr ⟨plain_append.mpr ⟨by decide, ?_⟩, by decide⟩,
    plain_location plain⟩, suffix⟩, shown⟩
  exact plain fault.text List.mem_cons_self

end SourceFault

namespace RenderFault

/-- The texts that a report is given. -/
def texts (fault : RenderFault) : List Text :=
  fault.text :: (fault.name.toList ++ fault.suggestion.toList ++
    (fault.snippet.toList.flatMap fun snippet => snippet.lines.map Prod.snd) ++ fault.stack.map Prod.fst)

variable {fault : RenderFault} (plain : ∀ text ∈ fault.texts, Plain text)
include plain

theorem plain_locationRow : Plain (fault.locationRow false) := by
  refine plain_append.mpr ⟨by decide, plain_place (plain_getD fun text given => plain text (List.mem_cons_of_mem _ ?_)) _⟩
  simp [← List.mem_singleton.mp given]

theorem plain_contextRows : ∀ row ∈ fault.contextRows false, Plain row := by
  intro row inside
  rcases List.mem_append.mp inside with inside | inside
  · split at inside
    · rename_i snippet shown
      rw [List.mem_singleton.mp inside]
      refine Snippet.plain_toText fun entry there => plain entry.2 (List.mem_cons_of_mem _ ?_)
      have shown' : entry.2 ∈ snippet.lines.map Prod.snd := List.mem_map_of_mem there
      simp [shown, shown']
    · cases inside
  · split at inside
    · cases inside
    · simp only [List.mem_cons, List.not_mem_nil, or_false] at inside
      rcases inside with rfl | rfl
      · exact plain_nil
      · refine plain_stackText fun frame there => plain frame.1 (List.mem_cons_of_mem _ ?_)
        exact List.mem_append_right _ (List.mem_map_of_mem there)

theorem plain_suggestionRows {title : Text} (titled : Plain title) : ∀ row ∈ fault.suggestionRows title, Plain row := by
  intro row inside
  unfold suggestionRows at inside
  split at inside
  · rename_i suggestion given
    rw [List.mem_singleton.mp inside]
    refine plain_append.mpr ⟨plain_append.mpr ⟨titled, by decide⟩, plain_of_firstGiven? (fun text given => ?_) given⟩
    refine plain text (List.mem_cons_of_mem _ ?_)
    simp [← List.mem_singleton.mp given]
  · cases inside

theorem plain_message : Plain (fault.message false) := by
  have header : Plain ("Runtime Error: ".toList ++ fault.text) :=
    plain_append.mpr ⟨by decide, plain fault.text List.mem_cons_self⟩
  refine plain_join (List.forall_mem_cons.mpr ⟨header, fun row inside => ?_⟩)
  rcases List.mem_append.mp inside with inside | inside
  · rcases List.mem_append.mp inside with inside | inside
    · split at inside
      · rw [List.mem_singleton.mp inside]
        exact plain_locationRow plain
      · cases inside
    · exact plain_contextRows plain row inside
  · exact plain_suggestionRows plain (by decide) row inside

theorem plain_compact : Plain (fault.compact false) := by
  have header := plain_header fault.code (plain fault.text List.mem_cons_self)
  refine plain_join (List.forall_mem_cons.mpr ⟨header,
    List.forall_mem_cons.mpr ⟨plain_locationRow plain, fun row inside => ?_⟩⟩)
  rcases List.mem_append.mp inside with inside | inside
  · rcases List.mem_append.mp inside with inside | inside
    · exact plain_contextRows plain row inside
    · exact plain_suggestionRows plain (by decide) row inside
  · exact plain_documentationRows fault.code row inside

end RenderFault

namespace Report

/-- The compact message of a report. -/
def compact (colours : Bool) : Report → Text
  | .source fault => fault.compact colours
  | .rendering fault => fault.compact colours

/-- The texts that a report is given. -/
def texts : Report → List Text
  | .source fault => fault.texts
  | .rendering fault => fault.texts

/-- A report after its failure passed through templates, the innermost first; a refused source passes through none. -/
def enclosed (frames : List EnclosingFrame) : Report → Report
  | .source fault => .source fault
  | .rendering fault => .rendering (frames.foldl (fun fault frame => fault.enclose frame) fault)

theorem stripPaint_message (colours : Bool) (report : Report) :
    stripPaint (report.message colours) = stripPaint (report.message false) := by
  cases report with
  | source fault => rfl
  | rendering fault => exact fault.stripPaint_message colours

theorem stripPaint_compact (colours : Bool) (report : Report) :
    stripPaint (report.compact colours) = stripPaint (report.compact false) := by
  cases report with
  | source fault => exact fault.stripPaint_compact colours
  | rendering fault => exact fault.stripPaint_compact colours

theorem plain_message {report : Report} (plain : ∀ text ∈ report.texts, Plain text) : Plain (report.message false) := by
  cases report with
  | source fault => exact SourceFault.plain_message plain
  | rendering fault => exact RenderFault.plain_message plain

theorem plain_compact {report : Report} (plain : ∀ text ∈ report.texts, Plain text) : Plain (report.compact false) := by
  cases report with
  | source fault => exact SourceFault.plain_compact plain
  | rendering fault => exact RenderFault.plain_compact plain

end Report

/-- Stripping the messages of a report with colours gives what stripping those without colours gives, whatever escape
sequences its texts have; and if they have none, it gives the messages without colours. -/
theorem colours_only_decorate (report : Report) (frames : List EnclosingFrame) :
    stripPaint ((report.enclosed frames).message true) = stripPaint ((report.enclosed frames).message false) ∧
      stripPaint ((report.enclosed frames).compact true) = stripPaint ((report.enclosed frames).compact false) ∧
      ((∀ text ∈ (report.enclosed frames).texts, Plain text) →
        stripPaint ((report.enclosed frames).message true) = (report.enclosed frames).message false ∧
          stripPaint ((report.enclosed frames).compact true) = (report.enclosed frames).compact false) := by
  have message := (report.enclosed frames).stripPaint_message true
  have compact := (report.enclosed frames).stripPaint_compact true
  exact ⟨message, compact, fun plain => ⟨message.trans (stripPaint_plain (Report.plain_message plain)),
    compact.trans (stripPaint_plain (Report.plain_compact plain))⟩⟩

/-- A report on a template that failed inside of another one. -/
def nestedReport : Report :=
  .rendering ⟨"boom", some "item.html", some 1, some "look up", some (.around "{{ x }}\n" 1 2 (some 0)), [],
    some .runtimeError⟩

theorem nestedReport_only_decorated :
    (∀ text ∈ (nestedReport.enclosed [("page.html", 12)]).texts, Plain text) ∧
      stripPaint ((nestedReport.enclosed [("page.html", 12)]).message true) =
        (nestedReport.enclosed [("page.html", 12)]).message false :=
  have plain : ∀ text ∈ (nestedReport.enclosed [("page.html", 12)]).texts, Plain text := by decide
  ⟨plain, ((colours_only_decorate nestedReport [("page.html", 12)]).2.2 plain).1⟩

end Stencil
