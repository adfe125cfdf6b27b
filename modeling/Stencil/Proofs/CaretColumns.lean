import Stencil.Proofs.PhysicalLines
import Stencil.Proofs.SnippetLines

/-!
# The columns of carets

A message points at a column of a source with a caret in the row below the line at fault.  The line stands behind its
number, in a field that is three wide and grows with longer numbers; the margin of the caret is always the same.  The long
message has a margin that is one too narrow even for short numbers, and both messages have one that is too narrow for
numbers of more than three digits.
-/

namespace Stencil

/-- What stands in front of the line of the given number where a message shows it. -/
def gutter (mark : Text) (number : Int) : Text := mark ++ Text.padLeft 3 (Text.ofInt number) ++ " | "

/-- The row with a caret behind a margin and so many spaces. -/
def caretRow (margin : Text) (column : Int) : Text := margin ++ Text.spaces column ++ ['^']

/-- The digits of a number that a field three wide has no place for. -/
def overlong (number : Nat) : Nat := (Text.ofNat number).length - 3

/-- Whether two rows stand below each other in a text. -/
def Stacked (upper lower text : Text) : Prop :=
  ∃ before after, Text.splitOn '\n' text = before ++ upper :: lower :: after

/-! ## Lengths -/

theorem overlong_eq_zero_iff (number : Nat) : overlong number = 0 ↔ number < 1000 := by
  rw [overlong, Nat.sub_eq_zero_iff_le, Text.ofNat]
  exact Nat.length_toDigits_le_iff (by decide) (by decide)

theorem length_gutter (mark : Text) (number : Nat) : (gutter mark number).length = mark.length + 6 + overlong number := by
  have field : (Text.padLeft 3 (Text.ofInt number)).length = 3 + overlong number := by
    change (List.replicate _ ' ' ++ Text.ofNat number).length = _
    rw [List.length_append, List.length_replicate, overlong]
    change 3 - (Text.ofNat number).length + (Text.ofNat number).length = _
    omega
  have bar : " | ".toList.length = 3 := rfl
  rw [gutter, List.length_append, List.length_append, field, bar]
  omega

/-- The caret is the last character of its row, behind the margin and the spaces. -/
theorem idxOf_caretRow {margin : Text} (clean : '^' ∉ margin) (column : Nat) :
    (caretRow margin column).idxOf '^' = margin.length + column := by
  have blank : '^' ∉ margin ++ Text.spaces column := by simp [Text.spaces, clean]
  rw [caretRow, List.idxOf_append_of_notMem blank]
  simp [Text.spaces]

/-! ## Rows -/

theorem feed_content {piece : Text} (clean : '\n' ∉ piece) : '\n' ∉ Snippet.content piece :=
  fun feed => clean (Snippet.content_subset piece feed)

theorem feed_gutter {mark content : Text} (own : '\n' ∉ mark) (clean : '\n' ∉ content) (number : Int) :
    '\n' ∉ gutter mark number ++ content := by
  have numeral : '\n' ∉ Text.ofInt number := fun feed => absurd (Text.mem_ofInt feed) (by decide)
  simp [gutter, Text.padLeft, own, clean, numeral]

theorem feed_caretRow {margin : Text} (clean : '\n' ∉ margin) (column : Int) : '\n' ∉ caretRow margin column := by
  simp [caretRow, Text.spaces, clean]

/-- The rows of a text that joins others are those of each. -/
theorem splitOn_rows {texts : List Text} (occupied : texts ≠ []) :
    Text.splitOn '\n' (Text.join ['\n'] texts) = texts.flatMap (Text.splitOn '\n') := by
  induction texts with
  | nil => exact absurd rfl occupied
  | cons first texts ih =>
      cases texts with
      | nil => simp [Text.join]
      | cons second texts =>
          have whole : Text.join ['\n'] (first :: second :: texts) =
              first ++ '\n' :: Text.join ['\n'] (second :: texts) := by
            simp [Text.join]
          rw [whole, Text.splitOn_append, ih (List.cons_ne_nil _ _)]
          rfl

variable {upper lower text : Text}

theorem stacked_join (left right : List Text) (feeds : '\n' ∉ upper) (feeds' : '\n' ∉ lower) :
    Stacked upper lower (Text.join ['\n'] (left ++ upper :: lower :: right)) := by
  refine ⟨left.flatMap (Text.splitOn '\n'), right.flatMap (Text.splitOn '\n'), ?_⟩
  rw [splitOn_rows (List.append_ne_nil_of_right_ne_nil _ (List.cons_ne_nil _ _)), List.flatMap_append, List.flatMap_cons,
    List.flatMap_cons, splitOn_clean feeds, splitOn_clean feeds']
  rfl

theorem Stacked.join {texts : List Text} (stacked : Stacked upper lower text) (member : text ∈ texts) :
    Stacked upper lower (Text.join ['\n'] texts) := by
  obtain ⟨before, after, rows⟩ := stacked
  obtain ⟨left, right, rfl⟩ := List.append_of_mem member
  refine ⟨left.flatMap (Text.splitOn '\n') ++ before, after ++ right.flatMap (Text.splitOn '\n'), ?_⟩
  rw [splitOn_rows (List.ne_nil_of_mem member), List.flatMap_append, List.flatMap_cons, rows]
  simp

/-! ## The messages -/

variable {fault : SourceFault} {source piece : Text} {line column : Nat}

/-- A snippet shows the line at fault behind a mark, and the caret below it. -/
theorem Snippet.stacked_around {context : Int} (wide : 0 ≤ context) (column : Int)
    (found : (Text.splitOn '\n' source)[line]? = some piece) :
    Stacked (gutter ['>'] (line + 1 : Int) ++ content piece) (caretRow "     | " column)
      ((around source (line + 1 : Int) context (some column)).toText false) := by
  have clean : '\n' ∉ piece := feeds_of_splitOn '\n' source piece (List.mem_of_getElem? found)
  have shown : ((line + 1 : Int), content piece) ∈ (around source (line + 1 : Int) context (some column)).lines := by
    have numbered : ((line + 1 : Int), content piece) ∈ number 1 ((Text.splitOn '\n' source).map content) :=
      mem_number.mpr ⟨line, by rw [List.getElem?_map, found, Option.map_some], Int.add_comm ..⟩
    rw [around_pieces]
    exact List.mem_filter.mpr ⟨numbered, by simpa using wide⟩
  -- The line at fault has two rows, which are neighbours among the rows of all lines.
  obtain ⟨left, right, lines⟩ := List.append_of_mem shown
  have own : (around source (line + 1 : Int) context (some column)).rows false ((line + 1 : Int), content piece) =
      [gutter ['>'] (line + 1 : Int) ++ content piece, caretRow "     | " column] := by
    unfold rows caretLine Paint.sourceLine gutter caretRow
    simp [around, Paint.lineNumber, Paint.faultLine, Paint.faint, paint]
  have feeds : '\n' ∉ gutter ['>'] (line + 1 : Int) ++ content piece := feed_gutter (by decide) (feed_content clean) _
  have feeds' : '\n' ∉ caretRow "     | " column := feed_caretRow (by decide) column
  unfold toText
  dsimp only
  rw [lines, List.flatMap_append, List.flatMap_cons, own, List.append_assoc]
  exact stacked_join (_ :: _) _ feeds feeds'

namespace SourceFault

theorem shownSource?_given (given : fault.origin.source = some source) (occupied : source ≠ [])
    (numbered : fault.line = some (line + 1 : Int)) : fault.shownSource? = some (source, (line + 1 : Int)) := by
  obtain ⟨char, rest, rfl⟩ := List.exists_cons_of_ne_nil occupied
  have known : knownLine? (some (line + 1 : Int)) = some (line + 1 : Int) := by
    rw [knownLine?, Option.filter_some, if_pos (by simp; omega)]
  rw [shownSource?, given, numbered, known]
  rfl

theorem sourceLine?_given (given : fault.origin.source = some source) (occupied : source ≠ [])
    (numbered : fault.line = some (line + 1 : Int)) (found : (Text.splitOn '\n' source)[line]? = some piece) :
    fault.sourceLine? = some ((line + 1 : Int), Snippet.content piece) := by
  rw [sourceLine?, shownSource?_given given occupied numbered]
  change ((Text.splitOn '\n' source)[line]? >>= fun piece => some ((line + 1 : Int), Snippet.content piece)) = _
  rw [found]
  rfl

theorem stacked_message (given : fault.origin.source = some source) (occupied : source ≠ [])
    (numbered : fault.line = some (line + 1 : Int)) (found : (Text.splitOn '\n' source)[line]? = some piece)
    (pointed : fault.column = some (column : Int)) :
    Stacked (gutter [] (line + 1 : Int) ++ Snippet.content piece) (caretRow "   | " column) fault.message := by
  have clean : '\n' ∉ piece := feeds_of_splitOn '\n' source piece (List.mem_of_getElem? found)
  have whole : fault.message = Text.join ['\n']
      (["Syntax Error: " ++ fault.text, "  --> " ++ fault.location ++ fault.columnSuffix, "   |"] ++
        [gutter [] (line + 1 : Int) ++ Snippet.content piece, caretRow "   | " column]) := by
    unfold message excerpt caret gutter caretRow
    rw [sourceLine?_given given occupied numbered found, pointed]
    simp [Text.join]
  rw [whole]
  exact stacked_join _ [] (feed_gutter List.not_mem_nil (feed_content clean) _) (feed_caretRow (by decide) column)

theorem stacked_compact (given : fault.origin.source = some source) (occupied : source ≠ [])
    (numbered : fault.line = some (line + 1 : Int)) (found : (Text.splitOn '\n' source)[line]? = some piece)
    (pointed : fault.column = some (column : Int)) :
    Stacked (gutter ['>'] (line + 1 : Int) ++ Snippet.content piece) (caretRow "     | " column)
      (fault.compact false) := by
  have shown := Snippet.stacked_around (by decide : (0 : Int) ≤ 2) column found
  unfold compact
  rw [shownSource?_given given occupied numbered, pointed]
  exact shown.join (by simp)

/-- Both messages show the line at fault behind its gutter and the caret in the row below.  In the long message the caret
always stands left of the column that it is meant for, and in the compact one just for the lines from the thousandth on:
by one column for each digit of the line number over three, and in the long message by one more. -/
theorem caret_columns (given : fault.origin.source = some source) (occupied : source ≠ [])
    (numbered : fault.line = some (line + 1 : Int)) (found : (Text.splitOn '\n' source)[line]? = some piece)
    (pointed : fault.column = some (column : Int)) :
    (Stacked (gutter [] (line + 1 : Int) ++ Snippet.content piece) (caretRow "   | " column) fault.message ∧
      (caretRow "   | " column).idxOf '^' + (1 + overlong (line + 1)) = (gutter [] (line + 1 : Int)).length + column) ∧
    Stacked (gutter ['>'] (line + 1 : Int) ++ Snippet.content piece) (caretRow "     | " column) (fault.compact false) ∧
      (caretRow "     | " column).idxOf '^' + overlong (line + 1) = (gutter ['>'] (line + 1 : Int)).length + column ∧
      ((caretRow "     | " column).idxOf '^' = (gutter ['>'] (line + 1 : Int)).length + column ↔ line + 1 < 1000) := by
  have long : (caretRow "   | " column).idxOf '^' = 5 + column := idxOf_caretRow (by decide) column
  have compact : (caretRow "     | " column).idxOf '^' = 7 + column := idxOf_caretRow (by decide) column
  have unmarked : (gutter [] (line + 1 : Int)).length = 6 + overlong (line + 1) := length_gutter [] (line + 1)
  have marked : (gutter ['>'] (line + 1 : Int)).length = 7 + overlong (line + 1) := length_gutter ['>'] (line + 1)
  rw [← overlong_eq_zero_iff (line + 1), long, compact, unmarked, marked]
  exact ⟨⟨stacked_message given occupied numbered found pointed, by omega⟩,
    stacked_compact given occupied numbered found pointed, by omega, by omega⟩

/-- A report on the first column of a line behind so many empty ones. -/
def behindEmpty (count : Nat) : SourceFault :=
  ⟨.general, "boom", some (count + 1 : Int), ⟨none, none, some (List.replicate count '\n' ++ "ab")⟩, some 0, none⟩

/-- On the thousandth line the carets stand two columns and one column left of the first column. -/
theorem thousandth_line_misses : (Text.splitOn '\n' (List.replicate 999 '\n' ++ "ab"))[999]? = some "ab".toList ∧
    (caretRow "   | " 0).idxOf '^' + 2 = (gutter [] 1000).length ∧
    (caretRow "     | " 0).idxOf '^' + 1 = (gutter ['>'] 1000).length := by
  have found : (Text.splitOn '\n' (List.replicate 999 '\n' ++ "ab"))[999]? = some "ab".toList := by decide +kernel
  have columns := @caret_columns (behindEmpty 999) _ _ _ 0 rfl (by decide +kernel) rfl found rfl
  exact ⟨found, columns.1.2, columns.2.2.1⟩

/-- The caret for the first column stands below the space in front of it: on the first line in the long message, and on the
thousandth line in the compact one too. -/
theorem first_column_missed :
    ((behindEmpty 0).message = "Syntax Error: boom\n  --> <template>:1:0\n   |\n  1 | ab\n   | ^".toList ∧
      "  1 | ab".toList.idxOf 'a' = 6 ∧ "   | ^".toList.idxOf '^' = 5) ∧
    (behindEmpty 999).compact false =
        "boom\n  --> <template>:1000\n   |\n 998 | \n 999 | \n>1000 | ab\n     | ^\n   |".toList ∧
      ">1000 | ab".toList.idxOf 'a' = 8 ∧ "     | ^".toList.idxOf '^' = 7 := by
  decide +kernel

end SourceFault
end Stencil
