import Stencil.Line.Scan
import Mathlib.Data.List.Chain

/-!
# The leftmost reading of a line

The parts of a line are described by positions in its content alone: they tile it, each fragment starts at the first
marker behind the fragment before it, and a fragment between braces ends at the first pair of close braces.  Scanning
finds the one list of parts that fits this description, or the pair of open braces at which the reading is stuck.
-/

namespace Stencil

/-! ## Positions -/

/-- The two characters of a marker. -/
def Marker.text : Marker → Text
  | braces => ['{', '{']
  | dollars => ['$', '$']

/-- The two characters that end a fragment between braces. -/
def closeMark : Text := ['}', '}']

/-- Whether a text stands at a position of a content. -/
def StandsAt (text content : Text) (position : Nat) : Prop := text <+: content.drop position

/-- Whether some marker stands at a position of a content. -/
def MarkerAt (content : Text) (position : Nat) : Prop := ∃ marker : Marker, StandsAt marker.text content position

/-- Whether a position is the first one, from another one on, that has a property. -/
structure FirstFrom (property : Nat → Prop) (start position : Nat) : Prop where
  reached : start ≤ position
  holds : property position
  least : ∀ other, start ≤ other → other < position → ¬ property other

/-- Whether the code and the end of a fragment are those that its marker gives it: two open braces look for the
first two close braces, two dollar signs take the rest of the content. -/
inductive Fragment.FollowsMarker (content : Text) (fragment : Fragment) : Prop where
  | braces {close : Nat} (opened : StandsAt Marker.braces.text content fragment.start)
      (closed : FirstFrom (StandsAt closeMark content) (fragment.start + 2) close)
      (stop : fragment.stop = close + 2)
      (code : fragment.code = Text.trim (content.extract (fragment.start + 2) close))
  | dollars (opened : StandsAt Marker.dollars.text content fragment.start)
      (stop : fragment.stop = content.length)
      (code : fragment.code = Text.trim (content.drop (fragment.start + 2)))

namespace Part

/-- The fragment that a part is, if it is one. -/
def fragment? : Part → Option Fragment
  | .literal _ => none
  | .fragment inserted => some inserted

/-- The piece of a content that a part stands for. -/
def source (content : Text) : Part → Text
  | .literal text => text
  | .fragment inserted => content.extract inserted.start inserted.stop

end Part

/-- Whether parts stand one behind the other in a content, from a position on up to its end. -/
def Tiles (content : Text) : Nat → List Part → Prop
  | position, [] => position = content.length
  | position, .literal text :: parts => StandsAt text content position ∧ Tiles content (position + text.length) parts
  | position, .fragment fragment :: parts =>
    fragment.start = position ∧ position ≤ fragment.stop ∧ Tiles content fragment.stop parts

/-- Whether every fragment starts at the first marker behind the one before it and follows that marker. -/
def Successive (content : Text) : Nat → List Fragment → Prop
  | _, [] => True
  | position, fragment :: fragments =>
    FirstFrom (MarkerAt content) position fragment.start ∧ fragment.FollowsMarker content ∧
      Successive content fragment.stop fragments

/-- Parts that are the leftmost reading of a content from a position on. -/
structure LeftmostReading (content : Text) (position : Nat) (parts : List Part) : Prop where
  tiles : Tiles content position parts
  whole : parts.flatMap (Part.source content) = content.drop position
  occupied : Part.literal [] ∉ parts
  free : ∀ text, Part.literal text ∈ parts → ∀ place, ¬ MarkerAt text place
  apart : parts.IsChain fun left right => left.fragment? ≠ none ∨ right.fragment? ≠ none
  successive : Successive content position (parts.filterMap Part.fragment?)
  last : ∀ fragment, Part.fragment fragment ∈ parts → StandsAt Marker.dollars.text content fragment.start →
    parts.getLast? = some (.fragment fragment)

/-- The positions at which the reading of a content from the left goes on behind a fragment. -/
inductive ReadUpTo (content : Text) : Nat → Prop where
  | nothing : ReadUpTo content 0
  | fragment {position start close : Nat} (before : ReadUpTo content position)
      (first : FirstFrom (MarkerAt content) position start) (opened : StandsAt Marker.braces.text content start)
      (closed : FirstFrom (StandsAt closeMark content) (start + 2) close) : ReadUpTo content (close + 2)

/-- Whether the reading of a content from the left comes to two open braces without two close braces behind them. -/
structure StuckAt (content : Text) (column : Nat) : Prop where
  first : ∃ position, ReadUpTo content position ∧ FirstFrom (MarkerAt content) position column
  opened : StandsAt Marker.braces.text content column
  unclosed : ∀ close, column + 2 ≤ close → ¬ StandsAt closeMark content close

/-! ## Finding marks -/

theorem standsAt_cons_succ (text : Text) (char : Char) (content : Text) (position : Nat) :
    StandsAt text (char :: content) (position + 1) ↔ StandsAt text content position := by
  rw [StandsAt, StandsAt, List.drop_succ_cons]

theorem markerAt_cons_succ (char : Char) (content : Text) (position : Nat) :
    MarkerAt (char :: content) (position + 1) ↔ MarkerAt content position := by
  simp only [MarkerAt, standsAt_cons_succ]

theorem standsAt_drop (text content : Text) (start position : Nat) :
    StandsAt text (content.drop start) position ↔ StandsAt text content (start + position) := by
  rw [StandsAt, StandsAt, List.drop_drop]

theorem length_le_of_standsAt {text content : Text} {position : Nat} (occupied : text ≠ [])
    (stands : StandsAt text content position) : position + text.length ≤ content.length := by
  have bound := stands.length_le
  have some := List.length_pos_iff.mpr occupied
  rw [List.length_drop] at bound
  omega

theorem not_markerAt_nil (position : Nat) : ¬ MarkerAt [] position := by
  rintro ⟨marker, stands⟩
  rw [StandsAt, List.drop_nil, List.prefix_nil] at stands
  cases marker <;> cases stands

theorem not_markerAt_zero {char : Char} {text : Text}
    (noBraces : ∀ after, char = '{' → text = '{' :: after → False)
    (noDollars : ∀ after, char = '$' → text = '$' :: after → False) : ¬ MarkerAt (char :: text) 0 := by
  rintro ⟨marker, after, same⟩
  rw [List.drop_zero] at same
  cases marker with
  | braces =>
    injection same with first same
    exact noBraces after first.symm same.symm
  | dollars =>
    injection same with first same
    exact noDollars after first.symm same.symm

theorem not_markerAt_of_first?_eq_none {text : Text} (missing : Marker.first? text = none) (place : Nat) :
    ¬ MarkerAt text place := by
  fun_induction Marker.first? text generalizing place with
  | case1 => cases missing
  | case2 => cases missing
  | case3 => exact not_markerAt_nil place
  | case4 char text noBraces noDollars inner step =>
    cases place with
    | zero => exact not_markerAt_zero noBraces noDollars
    | succ place =>
      rw [markerAt_cons_succ]
      exact step inner place
  | case5 => cases missing

theorem Marker.first?_eq_some {text before after : Text} {marker : Marker}
    (found : Marker.first? text = some (before, marker, after)) :
    text = before ++ (marker.text ++ after) ∧ ∀ place < before.length, ¬ MarkerAt text place := by
  fun_induction Marker.first? text generalizing before marker after with
  | case1 => cases found; exact ⟨rfl, fun _ small => absurd small (Nat.not_lt_zero _)⟩
  | case2 => cases found; exact ⟨rfl, fun _ small => absurd small (Nat.not_lt_zero _)⟩
  | case3 => cases found
  | case4 => cases found
  | case5 char text noBraces noDollars before marker after inner step =>
    cases found
    obtain ⟨same, least⟩ := step inner
    refine ⟨congrArg (char :: ·) same, fun place small => ?_⟩
    cases place with
    | zero => exact not_markerAt_zero noBraces noDollars
    | succ place =>
      rw [markerAt_cons_succ]
      exact least place (Nat.lt_of_succ_lt_succ small)

theorem not_closeMark_zero {char : Char} {text : Text}
    (other : ∀ after, char = '}' → text = '}' :: after → False) : ¬ StandsAt closeMark (char :: text) 0 := by
  rintro ⟨after, same⟩
  rw [List.drop_zero] at same
  injection same with first same
  exact other after first.symm same.symm

theorem not_closeMark_of_breakAtClose?_eq_none {text : Text} (missing : breakAtClose? text = none) (place : Nat) :
    ¬ StandsAt closeMark text place := by
  fun_induction breakAtClose? text generalizing place with
  | case1 => cases missing
  | case2 =>
    rw [StandsAt, List.drop_nil, List.prefix_nil]
    exact List.cons_ne_nil _ _
  | case3 char text other inner step =>
    cases place with
    | zero => exact not_closeMark_zero other
    | succ place =>
      rw [standsAt_cons_succ]
      exact step inner place
  | case4 => cases missing

theorem breakAtClose?_eq_some {text inside after : Text} (found : breakAtClose? text = some (inside, after)) :
    text = inside ++ (closeMark ++ after) ∧ ∀ place < inside.length, ¬ StandsAt closeMark text place := by
  fun_induction breakAtClose? text generalizing inside after with
  | case1 => cases found; exact ⟨rfl, fun _ small => absurd small (Nat.not_lt_zero _)⟩
  | case2 => cases found
  | case3 => cases found
  | case4 char text other inside after inner step =>
    cases found
    obtain ⟨same, least⟩ := step inner
    refine ⟨congrArg (char :: ·) same, fun place small => ?_⟩
    cases place with
    | zero => exact not_closeMark_zero other
    | succ place =>
      rw [standsAt_cons_succ]
      exact least place (Nat.lt_of_succ_lt_succ small)

/-- What stands in the rest of a content stands in the content. -/
theorem firstFrom_of_rest {content front mark after : Text} {position : Nat} {property : Nat → Prop}
    (rest : content.drop position = front ++ (mark ++ after))
    (holds : StandsAt mark content (position + front.length) → property (position + front.length))
    (least : ∀ place < front.length, ¬ property (position + place)) :
    FirstFrom property position (position + front.length) ∧ StandsAt mark content (position + front.length) ∧
      content.extract position (position + front.length) = front ∧
      content.drop (position + front.length + mark.length) = after := by
  have behind : content.drop (position + front.length) = mark ++ after := by
    rw [← List.drop_drop, rest, List.drop_left]
  have stands : StandsAt mark content (position + front.length) := ⟨after, behind.symm⟩
  refine ⟨⟨Nat.le_add_right _ _, holds stands, fun other reached small => ?_⟩, stands, ?_, ?_⟩
  · obtain ⟨place, rfl⟩ := Nat.exists_eq_add_of_le reached
    exact least place (by omega)
  · rw [List.extract_eq_take_drop, rest, Nat.add_sub_cancel_left, List.take_left]
  · rw [← List.drop_drop, behind, List.drop_left]

/-! ## One turn of a scan -/

/-- How scanning goes on at a position, and what it comes to. -/
inductive Turn (content : Text) (position : Nat) : Except Nat (List Part) → Prop where
  | free (nowhere : ∀ place, position ≤ place → ¬ MarkerAt content place) :
      Turn content position (.ok (Part.run (content.drop position)))
  | dollars {start : Nat} (first : FirstFrom (MarkerAt content) position start)
      (opened : StandsAt Marker.dollars.text content start) :
      Turn content position (.ok (Part.run (content.extract position start) ++
        [.fragment ⟨Text.trim (content.drop (start + 2)), start, content.length⟩]))
  | stuck {start : Nat} (first : FirstFrom (MarkerAt content) position start)
      (opened : StandsAt Marker.braces.text content start)
      (unclosed : ∀ close, start + 2 ≤ close → ¬ StandsAt closeMark content close) :
      Turn content position (.error start)
  | braces {start close : Nat} (first : FirstFrom (MarkerAt content) position start)
      (opened : StandsAt Marker.braces.text content start)
      (closed : FirstFrom (StandsAt closeMark content) (start + 2) close) :
      Turn content position ((scanFrom (close + 2) (content.drop (close + 2))).map fun parts =>
        Part.run (content.extract position start) ++
          .fragment ⟨Text.trim (content.extract (start + 2) close), start, close + 2⟩ :: parts)

section Equations

variable {column : Nat} {text before after inside rest : Text}

theorem scanFrom_free (missing : Marker.first? text = none) : scanFrom column text = .ok (Part.run text) := by
  rw [scanFrom]
  split
  · rfl
  all_goals simp_all only [reduceCtorEq]

theorem scanFrom_dollars (found : Marker.first? text = some (before, .dollars, after)) :
    scanFrom column text = .ok (Part.run before ++
      [.fragment ⟨Text.trim after, column + before.length, column + text.length⟩]) := by
  rw [scanFrom]
  split
  · simp_all only [reduceCtorEq]
  · rename_i same
    cases found.symm.trans same
    rfl
  · simp_all

theorem scanFrom_stuck (found : Marker.first? text = some (before, .braces, after))
    (unclosed : breakAtClose? after = none) : scanFrom column text = .error (column + before.length) := by
  rw [scanFrom]
  split
  · simp_all only [reduceCtorEq]
  · simp_all
  · rename_i same
    cases found.symm.trans same
    split
    · rfl
    · simp_all only [reduceCtorEq]

theorem scanFrom_braces (found : Marker.first? text = some (before, .braces, after))
    (closed : breakAtClose? after = some (inside, rest)) :
    scanFrom column text =
      (scanFrom (column + before.length + 2 + inside.length + 2) rest).map fun parts => Part.run before ++
        .fragment ⟨Text.trim inside, column + before.length, column + before.length + 2 + inside.length + 2⟩ ::
          parts := by
  rw [scanFrom]
  split
  · simp_all only [reduceCtorEq]
  · simp_all
  · rename_i same
    cases found.symm.trans same
    split
    · simp_all only [reduceCtorEq]
    · rename_i same
      cases closed.symm.trans same
      dsimp only
      split <;> rename_i outcome <;> rw [outcome] <;> rfl

end Equations

theorem turn_scanFrom (content : Text) (position : Nat) :
    Turn content position (scanFrom position (content.drop position)) := by
  cases found : Marker.first? (content.drop position) with
  | none =>
    rw [scanFrom_free found]
    refine .free fun place reached ⟨marker, stands⟩ => ?_
    obtain ⟨place, rfl⟩ := Nat.exists_eq_add_of_le reached
    exact not_markerAt_of_first?_eq_none found place ⟨marker, (standsAt_drop _ _ _ _).mpr stands⟩
  | some split =>
    obtain ⟨before, marker, after⟩ := split
    obtain ⟨same, least⟩ := Marker.first?_eq_some found
    have first : FirstFrom (MarkerAt content) position (position + before.length) ∧ _ :=
      firstFrom_of_rest same (fun stands => ⟨marker, stands⟩)
        fun place small ⟨other, stands⟩ => least place small ⟨other, (standsAt_drop _ _ _ _).mpr stands⟩
    obtain ⟨first, opened, front, behind⟩ := first
    have width : marker.text.length = 2 := by cases marker <;> rfl
    rw [width] at behind
    cases marker with
    | dollars =>
      have inside := length_le_of_standsAt (by decide) opened
      have stop : position + (content.drop position).length = content.length := by
        rw [List.length_drop]
        omega
      have turn := Turn.dollars first opened
      rwa [front, behind, ← stop, ← scanFrom_dollars found] at turn
    | braces =>
      cases closing : breakAtClose? after with
      | none =>
        rw [scanFrom_stuck found closing]
        refine .stuck first opened fun close reached stands => ?_
        obtain ⟨place, rfl⟩ := Nat.exists_eq_add_of_le reached
        rw [← behind] at closing
        exact not_closeMark_of_breakAtClose?_eq_none closing place ((standsAt_drop _ _ _ _).mpr stands)
      | some split =>
        obtain ⟨inside, rest⟩ := split
        obtain ⟨same, least⟩ := breakAtClose?_eq_some closing
        rw [← behind] at same least
        obtain ⟨closed, _, code, remaining⟩ := firstFrom_of_rest same id
          fun place small stands => least place small ((standsAt_drop _ _ _ _).mpr stands)
        have turn := Turn.braces first opened closed
        rw [front, code] at turn
        rw [scanFrom_braces found closing, ← remaining]
        exact turn

/-! ## Readings -/

variable {content : Text} {position : Nat} {parts : List Part}

theorem whole_of_tiles (tiles : Tiles content position parts) :
    parts.flatMap (Part.source content) = content.drop position := by
  induction parts generalizing position with
  | nil =>
    rw [tiles, List.drop_length]
    rfl
  | cons part parts ih =>
    cases part with
    | literal text =>
      obtain ⟨⟨rest, same⟩, behind⟩ := tiles
      rw [List.flatMap_cons, ih behind, ← List.drop_drop, ← same, List.drop_left]
      rfl
    | fragment inserted =>
      obtain ⟨rfl, ordered, behind⟩ := tiles
      have stop : inserted.stop = inserted.start + (inserted.stop - inserted.start) := by omega
      rw [List.flatMap_cons, ih behind, Part.source, List.extract_eq_take_drop, stop, ← List.drop_drop,
        Nat.add_sub_cancel_left, List.take_append_drop]

theorem literal_mem_run {text run : Text} : Part.literal text ∈ Part.run run ↔ text = run ∧ run ≠ [] := by
  cases run <;> simp [Part.run]

theorem fragment_not_mem_run {fragment : Fragment} {run : Text} : Part.fragment fragment ∉ Part.run run := by
  cases run <;> simp [Part.run]

theorem filterMap_fragment?_run (run : Text) : (Part.run run).filterMap Part.fragment? = [] := by
  cases run <;> rfl

theorem tiles_run {run : Text} (stands : StandsAt run content position)
    (behind : Tiles content (position + run.length) parts) : Tiles content position (Part.run run ++ parts) := by
  cases run with
  | nil => exact behind
  | cons char run => exact ⟨stands, behind⟩

theorem standsAt_extract {start : Nat} (inside : start ≤ content.length) (reached : position ≤ start) :
    StandsAt (content.extract position start) content position ∧
      position + (content.extract position start).length = start := by
  rw [StandsAt, List.extract_eq_take_drop]
  refine ⟨List.take_prefix _ _, ?_⟩
  rw [List.length_take, List.length_drop]
  omega

theorem start_le_length {fragment : Fragment} (follows : fragment.FollowsMarker content) :
    fragment.start + 2 ≤ fragment.stop ∧ fragment.stop ≤ content.length := by
  cases follows with
  | braces opened closed stop code =>
    have inside := length_le_of_standsAt (by decide) closed.holds
    have reached := closed.reached
    rw [stop]
    exact ⟨by omega, inside⟩
  | dollars opened stop code =>
    rw [stop]
    exact ⟨length_le_of_standsAt (by decide) opened, Nat.le_refl _⟩

/-- A marker in a run that stands in a content stands in the content. -/
theorem markerAt_of_run {run : Text} {place : Nat} (stands : StandsAt run content position)
    (marker : MarkerAt run place) : MarkerAt content (position + place) ∧ place < run.length := by
  obtain ⟨marker, inner⟩ := marker
  have width : marker.text.length = 2 := by cases marker <;> rfl
  have bound := length_le_of_standsAt (by cases marker <;> exact List.cons_ne_nil _ _) inner
  obtain ⟨after, same⟩ := stands
  refine ⟨⟨marker, ?_⟩, by omega⟩
  obtain ⟨rest, within⟩ := inner
  refine ⟨rest ++ after, ?_⟩
  rw [← List.drop_drop, ← same, List.drop_append_of_le_length (by omega), ← within, List.append_assoc]

/-- Where no marker is left, the rest of the content is one literal run. -/
theorem LeftmostReading.ofRun (inside : position ≤ content.length)
    (nowhere : ∀ place, position ≤ place → ¬ MarkerAt content place) :
    LeftmostReading content position (Part.run (content.drop position)) := by
  have stands : StandsAt (content.drop position) content position := List.prefix_refl _
  have tiles : Tiles content position (Part.run (content.drop position)) := by
    have behind : Tiles content (position + (content.drop position).length) [] := by
      rw [Tiles, List.length_drop]
      omega
    simpa using tiles_run stands behind
  refine ⟨tiles, whole_of_tiles tiles, ?_, ?_, ?_, ?_, ?_⟩
  · intro member
    obtain ⟨same, occupied⟩ := literal_mem_run.mp member
    exact occupied same.symm
  · intro text member place marker
    obtain ⟨rfl, -⟩ := literal_mem_run.mp member
    exact nowhere _ (Nat.le_add_right _ _) (markerAt_of_run stands marker).1
  · cases content.drop position <;> simp [Part.run]
  · rw [filterMap_fragment?_run]
    trivial
  · exact fun fragment member => absurd member fragment_not_mem_run

/-- A fragment at the first marker, with the run before it, in front of a reading. -/
theorem LeftmostReading.ofFragment {fragment : Fragment} {rest : List Part}
    (first : FirstFrom (MarkerAt content) position fragment.start) (follows : fragment.FollowsMarker content)
    (last : StandsAt Marker.dollars.text content fragment.start → rest = [])
    (reading : LeftmostReading content fragment.stop rest) :
    LeftmostReading content position
      (Part.run (content.extract position fragment.start) ++ .fragment fragment :: rest) := by
  obtain ⟨ordered, bounded⟩ := start_le_length follows
  have inside : fragment.start ≤ content.length := by omega
  obtain ⟨stands, reached⟩ := standsAt_extract inside first.reached
  have tiles : Tiles content position
      (Part.run (content.extract position fragment.start) ++ .fragment fragment :: rest) :=
    tiles_run stands ⟨reached.symm, by omega, reading.tiles⟩
  refine ⟨tiles, whole_of_tiles tiles, ?_, ?_, ?_, ?_, ?_⟩
  · intro member
    rcases List.mem_append.mp member with member | member
    · obtain ⟨same, occupied⟩ := literal_mem_run.mp member
      exact occupied same.symm
    · exact reading.occupied (by simpa using member)
  · intro text member place marker
    rcases List.mem_append.mp member with member | member
    · obtain ⟨rfl, -⟩ := literal_mem_run.mp member
      have := (markerAt_of_run stands marker).2
      exact first.least _ (Nat.le_add_right _ _) (by omega) (markerAt_of_run stands marker).1
    · exact reading.free text (by simpa using member) place marker
  · have tail : (Part.fragment fragment :: rest).IsChain
        fun left right => left.fragment? ≠ none ∨ right.fragment? ≠ none := by
      cases rest with
      | nil => exact .singleton _
      | cons next rest => exact .cons_cons (.inl (by simp [Part.fragment?])) reading.apart
    cases content.extract position fragment.start with
    | nil => exact tail
    | cons char run => exact .cons_cons (.inr (by simp [Part.fragment?])) tail
  · rw [List.filterMap_append, filterMap_fragment?_run]
    exact ⟨first, follows, reading.successive⟩
  · intro other member dollars
    rcases List.mem_append.mp member with member | member
    · exact absurd member fragment_not_mem_run
    · rw [List.getLast?_append_of_ne_nil _ (List.cons_ne_nil _ _)]
      rcases List.mem_cons.mp member with same | member
      · cases same
        rw [last dollars]
        rfl
      · have occupied : rest ≠ [] := List.ne_nil_of_mem member
        rw [List.getLast?_cons_of_ne_nil occupied, reading.last other member dollars]

/-- Nothing is left to read at the end of a content. -/
theorem eq_nil_of_reading_end (reading : LeftmostReading content content.length parts) : parts = [] := by
  cases parts with
  | nil => rfl
  | cons part parts =>
    cases part with
    | literal text =>
      have bound := reading.tiles.1.length_le
      rw [List.drop_length, List.length_nil, Nat.le_zero, List.length_eq_zero_iff] at bound
      exact absurd (bound ▸ .head _) reading.occupied
    | fragment inserted =>
      have bound := start_le_length reading.successive.2.1
      have start := reading.tiles.1
      omega

/-- Behind its first part, a reading is a reading again, when its fragments are successive there. -/
theorem LeftmostReading.tail {part : Part} {rest : List Part} {behind : Nat}
    (reading : LeftmostReading content position (part :: rest)) (tiles : Tiles content behind rest)
    (successive : Successive content behind (rest.filterMap Part.fragment?)) :
    LeftmostReading content behind rest where
  tiles := tiles
  whole := whole_of_tiles tiles
  occupied member := reading.occupied (.tail _ member)
  free text member := reading.free text (.tail _ member)
  apart := reading.apart.tail
  successive := successive
  last other member dollars := by
    have last := reading.last other (.tail _ member) dollars
    rwa [List.getLast?_cons_of_ne_nil (List.ne_nil_of_mem member)] at last

theorem LeftmostReading.behindFragment {fragment : Fragment} {rest : List Part}
    (reading : LeftmostReading content position (.fragment fragment :: rest)) :
    LeftmostReading content fragment.stop rest :=
  reading.tail reading.tiles.2.2 reading.successive.2.2

/-- A reading is one run without markers, or a run up to the first marker, its fragment, and a reading. -/
theorem LeftmostReading.split (reading : LeftmostReading content position parts) :
    ((∀ place, position ≤ place → ¬ MarkerAt content place) ∧ parts = Part.run (content.drop position)) ∨
      ∃ fragment rest, FirstFrom (MarkerAt content) position fragment.start ∧ fragment.FollowsMarker content ∧
        LeftmostReading content fragment.stop rest ∧
        parts = Part.run (content.extract position fragment.start) ++ .fragment fragment :: rest := by
  have run_of_standsAt {text : Text} (stands : StandsAt text content position) (occupied : text ≠ []) :
      [Part.literal text] = Part.run (content.extract position (position + text.length)) := by
    obtain ⟨after, same⟩ := stands
    rw [List.extract_eq_take_drop, Nat.add_sub_cancel_left, ← same, List.take_left]
    cases text with
    | nil => exact absurd rfl occupied
    | cons char text => rfl
  match parts with
  | [] =>
    have whole := reading.whole
    rw [List.flatMap_nil] at whole
    refine .inl ⟨fun place reached ⟨marker, stands⟩ => ?_, by rw [← whole]; rfl⟩
    have bound := length_le_of_standsAt (by cases marker <;> exact List.cons_ne_nil _ _) stands
    have end' : position = content.length := reading.tiles
    cases marker <;> simp [Marker.text] at bound <;> omega
  | .fragment fragment :: rest =>
    refine .inr ⟨fragment, rest, reading.successive.1, reading.successive.2.1, reading.behindFragment, ?_⟩
    rw [reading.tiles.1, List.extract_eq_take_drop, Nat.sub_self, List.take_zero]
    rfl
  | [.literal text] =>
    have occupied : text ≠ [] := fun empty => reading.occupied (empty ▸ .head _)
    have whole : text ++ [] = content.drop position := reading.whole
    rw [List.append_nil] at whole
    refine .inl ⟨fun place reached ⟨marker, stands⟩ => ?_, ?_⟩
    · obtain ⟨place, rfl⟩ := Nat.exists_eq_add_of_le reached
      refine reading.free text (.head _) place ⟨marker, ?_⟩
      rw [whole]
      exact (standsAt_drop _ _ _ _).mpr stands
    · rw [← whole]
      cases text with
      | nil => exact absurd rfl occupied
      | cons char text => rfl
  | .literal text :: .literal more :: rest =>
    have apart := (List.isChain_cons_cons.mp reading.apart).1
    simp [Part.fragment?] at apart
  | .literal text :: .fragment fragment :: rest =>
    have occupied : text ≠ [] := fun empty => reading.occupied (empty ▸ .head _)
    obtain ⟨stands, start, ordered, behind⟩ := reading.tiles
    have between : LeftmostReading content (position + text.length) (.fragment fragment :: rest) := by
      refine reading.tail ⟨start, ordered, behind⟩ ⟨⟨by omega, reading.successive.1.holds, ?_⟩, reading.successive.2⟩
      intro other reached small
      omega
    refine .inr ⟨fragment, rest, reading.successive.1, reading.successive.2.1, between.behindFragment, ?_⟩
    rw [start, ← run_of_standsAt stands occupied]
    rfl

/-! ## Scanning -/

theorem firstFrom_unique {property : Nat → Prop} {start one other : Nat} (first : FirstFrom property start one)
    (second : FirstFrom property start other) : one = other := by
  rcases Nat.lt_trichotomy one other with small | same | small
  · exact absurd first.holds (second.least one first.reached small)
  · exact same
  · exact absurd second.holds (first.least other second.reached small)

/-- Only one marker can stand at a position. -/
theorem not_dollars_of_braces {start : Nat} (braces : StandsAt Marker.braces.text content start) :
    ¬ StandsAt Marker.dollars.text content start := by
  intro dollars
  obtain ⟨after, same⟩ := braces
  obtain ⟨after', same'⟩ := dollars
  cases same.trans same'.symm

theorem reading_at_end (content : Text) : LeftmostReading content content.length [] := by
  have reading := LeftmostReading.ofRun (Nat.le_refl content.length) fun place reached ⟨marker, stands⟩ => by
    have bound := length_le_of_standsAt (by cases marker <;> exact List.cons_ne_nil _ _) stands
    cases marker <;> simp [Marker.text] at bound <;> omega
  rwa [List.drop_length] at reading

theorem ok_map_iff {α β ε : Type} {result : Except ε α} {f : α → β} {value : β} :
    result.map f = .ok value ↔ ∃ found, result = .ok found ∧ f found = value := by
  cases result <;> simp [Except.map]

/-- Scanning finds the leftmost reading and nothing else, if there is one. -/
theorem scanFrom_eq_ok_iff (inside : position ≤ content.length) :
    scanFrom position (content.drop position) = .ok parts ↔ LeftmostReading content position parts := by
  induction left : content.length - position using Nat.strong_induction_on generalizing position parts with
  | _ left ih =>
  subst left
  have turn := turn_scanFrom content position
  generalize scanFrom position (content.drop position) = outcome at turn
  cases turn with
  | free nowhere =>
    constructor
    · rintro ⟨⟩
      exact .ofRun inside nowhere
    · intro reading
      rcases reading.split with ⟨-, rfl⟩ | ⟨fragment, rest, first, -, -, -⟩
      · rfl
      · exact absurd first.holds (nowhere _ first.reached)
  | @dollars start first opened =>
    constructor
    · rintro ⟨⟩
      have follows : Fragment.FollowsMarker content ⟨Text.trim (content.drop (start + 2)), start, content.length⟩ :=
        .dollars opened rfl rfl
      exact .ofFragment first follows (fun _ => rfl) (reading_at_end content)
    · intro reading
      rcases reading.split with ⟨nowhere, -⟩ | ⟨⟨code, start', stop⟩, rest, other, follows, behind, rfl⟩
      · exact absurd first.holds (nowhere _ first.reached)
      · obtain rfl : start = start' := firstFrom_unique first other
        cases follows with
        | braces braces => exact absurd opened (not_dollars_of_braces braces)
        | dollars _ ends means =>
          obtain rfl : stop = content.length := ends
          obtain rfl : code = Text.trim (content.drop (start + 2)) := means
          rw [eq_nil_of_reading_end behind]
  | @stuck start first opened unclosed =>
    refine ⟨nofun, fun reading => ?_⟩
    rcases reading.split with ⟨nowhere, -⟩ | ⟨fragment, rest, other, follows, -, -⟩
    · exact absurd first.holds (nowhere _ first.reached)
    · obtain rfl : start = fragment.start := firstFrom_unique first other
      cases follows with
      | braces _ closed => exact absurd closed.holds (unclosed _ closed.reached)
      | dollars dollars => exact absurd dollars (not_dollars_of_braces opened)
  | @braces start close first opened closed =>
    have bound : close + 2 ≤ content.length := length_le_of_standsAt (by decide) closed.holds
    have nearer : content.length - (close + 2) < content.length - position := by
      have := first.reached
      have := closed.reached
      omega
    rw [ok_map_iff]
    constructor
    · rintro ⟨rest, scanned, rfl⟩
      have follows : Fragment.FollowsMarker content ⟨Text.trim (content.extract (start + 2) close), start, close + 2⟩ :=
        .braces opened closed rfl rfl
      exact .ofFragment first follows (fun dollars => absurd dollars (not_dollars_of_braces opened))
        ((ih _ nearer bound rfl).mp scanned)
    · intro reading
      rcases reading.split with ⟨nowhere, -⟩ | ⟨⟨code, start', stop⟩, rest, other, follows, behind, rfl⟩
      · exact absurd first.holds (nowhere _ first.reached)
      · obtain rfl : start = start' := firstFrom_unique first other
        cases follows with
        | dollars dollars => exact absurd dollars (not_dollars_of_braces opened)
        | @braces close' _ closed' ends means =>
          obtain rfl : close = close' := firstFrom_unique closed closed'
          obtain rfl : stop = close + 2 := ends
          obtain rfl : code = Text.trim (content.extract (start + 2) close) := means
          exact ⟨rest, (ih _ nearer bound rfl).mpr behind, rfl⟩

theorem error_map_iff {α β ε : Type} {result : Except ε α} {f : α → β} {error : ε} :
    result.map f = .error error ↔ result = .error error := by
  cases result <;> simp [Except.map]

/-- A scan that fails from a position that reading comes to is stuck at the place that it names. -/
theorem stuckAt_of_scanFrom {column : Nat} (before : ReadUpTo content position)
    (scanned : scanFrom position (content.drop position) = .error column) : StuckAt content column := by
  induction left : content.length - position using Nat.strong_induction_on generalizing position with
  | _ left ih =>
  subst left
  have turn := turn_scanFrom content position
  generalize scanFrom position (content.drop position) = outcome at turn scanned
  cases turn with
  | free => cases scanned
  | dollars => cases scanned
  | stuck first opened unclosed =>
    cases scanned
    exact ⟨⟨position, before, first⟩, opened, unclosed⟩
  | @braces start close first opened closed =>
    have bound : close + 2 ≤ content.length := length_le_of_standsAt (by decide) closed.holds
    have nearer : content.length - (close + 2) < content.length - position := by
      have := first.reached
      have := closed.reached
      omega
    exact ih _ nearer (before.fragment first opened closed) (error_map_iff.mp scanned) rfl

/-- A failure behind a fragment is the failure of the whole scan. -/
theorem error_of_readUpTo {column : Nat} (before : ReadUpTo content position)
    (scanned : scanFrom position (content.drop position) = .error column) : scan content = .error column := by
  induction before with
  | nothing => exact scanned
  | @fragment position start close before first opened closed ih =>
    apply ih
    have turn := turn_scanFrom content position
    generalize scanFrom position (content.drop position) = outcome at turn
    cases turn with
    | free nowhere => exact absurd first.holds (nowhere _ first.reached)
    | dollars other dollars =>
      cases firstFrom_unique first other
      exact absurd dollars (not_dollars_of_braces opened)
    | stuck other _ unclosed =>
      cases firstFrom_unique first other
      exact absurd closed.holds (unclosed _ closed.reached)
    | braces other _ closed' =>
      cases firstFrom_unique first other
      cases firstFrom_unique closed closed'
      exact error_map_iff.mpr scanned

theorem scan_eq_error_iff (column : Nat) : scan content = .error column ↔ StuckAt content column := by
  refine ⟨fun scanned => stuckAt_of_scanFrom .nothing scanned, fun stuck => ?_⟩
  obtain ⟨position, before, first⟩ := stuck.first
  refine error_of_readUpTo before ?_
  have turn := turn_scanFrom content position
  generalize scanFrom position (content.drop position) = outcome at turn
  cases turn with
  | free nowhere => exact absurd first.holds (nowhere _ first.reached)
  | dollars other dollars =>
    cases firstFrom_unique first other
    exact absurd dollars (not_dollars_of_braces stuck.opened)
  | stuck other =>
    cases firstFrom_unique first other
    rfl
  | braces other _ closed =>
    cases firstFrom_unique first other
    exact absurd closed.holds (stuck.unclosed _ closed.reached)

/-- Every content has either exactly one leftmost reading, which scanning finds, or a place at which the reading
is stuck, which scanning names. -/
theorem scan_reads_leftmost (content : Text) :
    (∀ parts, scan content = .ok parts ↔ LeftmostReading content 0 parts) ∧
      ∀ column, scan content = .error column ↔ StuckAt content column :=
  ⟨fun _ => scanFrom_eq_ok_iff (Nat.zero_le _), scan_eq_error_iff⟩

end Stencil
