import Stencil.Proofs.BlockGeometry
import Stencil.Proofs.LineLocality

/-!
# Missing closers

Leaving a closer out of an accepted template closes every block around it one closer later, so that the outermost of
them is never closed and is the one reported.  That is the block which the closer closed only when it stood outside of
all others.  An opener that the closer joined to its block may be separated from an earlier one now, and is reported
first.
-/

namespace Stencil

namespace Braces

/-! ## Counting open blocks -/

@[simp] theorem depth_append (lines more : List Line) : depth (lines ++ more) = depth lines + depth more := by
  simp [depth]

@[simp] theorem depth_cons (line : Line) (lines : List Line) :
    depth (line :: lines) = line.depthChange + depth lines := by
  simp [depth]

theorem depthChange_nonneg {line : Line} (open_ : line.directive? ≠ some .closer) : 0 ≤ line.depthChange := by
  unfold Line.depthChange
  split
  · exact Int.one_nonneg
  · rename_i closes
    exact absurd closes open_
  · exact Int.le_refl 0

theorem StaysOpen.front {front back : List Line} (stays : StaysOpen (front ++ back)) : StaysOpen front :=
  fun before line after split closes => stays before line (after ++ back) (by simp [split]) closes

theorem StaysOpen.depth_nonneg {lines : List Line} (stays : StaysOpen lines) : 0 ≤ depth lines := by
  induction lines using List.reverseRecOn with
  | nil => exact Int.le_refl 0
  | append_singleton lines line ih =>
      have earlier : 0 ≤ depth lines := ih stays.front
      rw [depth_snoc]
      by_cases closes : line.directive? = some .closer
      · have inside : 0 < depth lines := stays lines line [] rfl (.inl closes)
        simp only [Line.depthChange, closes]
        omega
      · have change := depthChange_nonneg closes
        omega

/-- Lines that keep the rules close no more blocks than they open. -/
theorem Clean.staysOpen {lines : List Line} (clean : Clean lines) : StaysOpen lines := by
  induction lines using List.reverseRecOn with
  | nil => exact staysOpen_nil
  | append_singleton lines line ih =>
      obtain ⟨earlier, kept⟩ := clean_snoc.mp clean
      refine (ih earlier).snoc fun closes => ?_
      have nonneg := (ih earlier).depth_nonneg
      have inside : depth lines ≠ 0 := fun none => kept (.unmatchedCloser line.number) ⟨closes, none, rfl⟩
      omega

theorem Clean.front {front back : List Line} (clean : Clean (front ++ back)) : Clean front :=
  fun before line after split => clean before line (after ++ back) (by simp [split])

/-- Accepted lines keep the rules and close every block. -/
theorem clean_of_ofLines {name : Option Text} {lines : List Line} {tree : Tree}
    (accepted : Tree.ofLines name lines = .ok tree) : Clean lines ∧ depth lines = 0 := by
  have run := tracks_start.run clean_nil lines
  unfold Tree.ofLines at accepted
  cases result : Matching.start.run lines with
  | error flaw =>
      rw [result] at accepted
      cases accepted
  | ok final =>
      rw [result] at accepted run
      cases opened : outline final with
      | nil =>
          have count := run.1.count
          rw [opened] at count
          exact ⟨run.2, count⟩
      | cons block blocks =>
          dsimp only at accepted
          rw [finish_of_outline_cons opened] at accepted
          cases accepted

/-! ## Which block is open -/

/-- Lines that keep the rules leave as many blocks open as they have opened and not closed. -/
theorem Clean.leavesOpen {lines : List Line} (clean : Clean lines) {inside : Nat} (fewer : inside < depth lines) :
    ∃ head number, LeavesOpen lines inside head number := by
  have run := tracks_start.run clean_nil lines
  cases result : Matching.start.run lines with
  | error flaw =>
      rw [result] at run
      obtain ⟨older, line, after, split, -, breaks⟩ := run
      exact absurd breaks (clean older line after split flaw)
  | ok final =>
      rw [result] at run
      have count := run.1.count
      rw [List.nil_append] at count
      have present : inside < (outline final).length := by omega
      exact ⟨_, _, run.1.leaves inside _ _ (List.getElem?_eq_getElem present)⟩

/-- More blocks are open inside a block around an opener than inside the block of that opener. -/
theorem depth_ne_of_opener {between after : List Line} {opener : Line} {head : Text}
    (stays : StaysOpen (between ++ opener :: after)) (opens : opener.OpensBlock head) :
    depth (between ++ opener :: after) ≠ depth after := by
  have nonneg := stays.front.depth_nonneg
  rw [depth_append, depth_cons]
  rcases opens with found | found
  · simp only [Line.depthChange, found]
    omega
  · have inside := stays between opener after rfl (.inr ⟨head, found⟩)
    simp only [Line.depthChange, found]
    omega

/-- A list split at two items: they are at the same place, or one of them is behind the other. -/
theorem split_cases {α : Type} {before after before' after' : List α} {item item' : α}
    (same : before ++ item :: after = before' ++ item' :: after') :
    (item = item' ∧ after = after') ∨ (∃ rest, after = rest ++ item' :: after') ∨
      ∃ rest, before = before' ++ item' :: rest ∧ after' = rest ++ item :: after := by
  rcases append_eq_append_cons.mp same with later | ⟨rest, rfl, behind⟩
  · exact .inr (.inr later)
  · cases rest with
    | nil => exact .inl (List.cons.inj behind)
    | cons first rest => exact .inr (.inl ⟨rest, (List.cons.inj behind).2⟩)

/-- There is one open block with so many more open inside it. -/
theorem LeavesOpen.unique {lines : List Line} {inside : Int} {head other : Text} {number line : Int}
    (leaves : LeavesOpen lines inside head number) (leaves' : LeavesOpen lines inside other line) :
    number = line := by
  obtain ⟨before, opener, after, rfl, opens, rfl, stays, rfl⟩ := leaves
  obtain ⟨before', opener', after', same, opens', rfl, stays', level⟩ := leaves'
  rcases split_cases same with ⟨rfl, -⟩ | ⟨between, rfl⟩ | ⟨between, -, rfl⟩
  · rfl
  · exact absurd level.symm (depth_ne_of_opener stays opens')
  · exact absurd level (depth_ne_of_opener stays' opens)

/-- Blocks with different numbers of blocks open inside them were opened on different lines. -/
theorem LeavesOpen.level {lines : List Line} {inside level : Int} {head other : Text} {number line : Int}
    (ascending : Ascending lines) (leaves : LeavesOpen lines inside head number)
    (leaves' : LeavesOpen lines level other line) (here : number = line) : inside = level := by
  obtain ⟨before, opener, after, rfl, -, rfl, -, rfl⟩ := leaves
  obtain ⟨before', opener', after', same, -, rfl, -, rfl⟩ := leaves'
  rcases split_cases same with ⟨-, rfl⟩ | ⟨between, rfl⟩ | ⟨between, rfl, -⟩
  · rfl
  · have below : opener.number < opener'.number := ascending.behind (List.mem_append_right between List.mem_cons_self)
    omega
  · have below : opener'.number < opener.number := ascending.lt (by simp) List.mem_cons_self
    omega

/-! ## Leaving a closer out -/

/-- Without the closer between them, lines have an opener that text separates from a closer before it; with the closer
it continues a block. -/
def LosesBlock (front back : List Line) (arm : Line) (head : Text) : Prop :=
  Separated front ∧ ∃ comments rest, back = comments ++ arm :: rest ∧
    (∀ line ∈ comments, line.directive? = some .comment) ∧ arm.directive? = some (.opener head) ∧
      Directive.isContinuation head = true

/-- The flaw of lines between which a closer is left out: an arm that has lost its block, and otherwise the outermost of
the blocks that were open at the closer. -/
def Blames (front back : List Line) : Flaw → Prop
  | .separatedArm head _ number => ∃ arm, LosesBlock front back arm head ∧ number = arm.number
  | .unclosedBlock head number =>
    (∀ arm other, ¬ LosesBlock front back arm other) ∧ LeavesOpen front (depth front - 1) head number
  | _ => False

/-- Comments separate nothing and join nothing. -/
theorem Separated.comments {lines comments : List Line} (apart : Separated lines)
    (quiet : ∀ line ∈ comments, line.directive? = some .comment) : Separated (lines ++ comments) := by
  obtain ⟨between, ⟨older, closer, rfl, closes⟩, others, output, member, silent⟩ := apart
  refine ⟨between ++ comments, ⟨older, closer, by simp, closes⟩, fun line inside => ?_, output, by simp [member],
    silent⟩
  exact (List.mem_append.mp inside).elim (others line) fun inside => .inr (quiet line inside)

section Closer

variable {front back between : List Line} {closer : Line}

/-- Behind a closer an opener can continue a block as long as there are only comments and output. -/
theorem chained_or_separated (closes : closer.directive? = some .closer)
    (near : Chained (front ++ between) ∨ Separated (front ++ between)) :
    Chained (front ++ closer :: between) ∨ Separated (front ++ closer :: between) := by
  induction between using List.reverseRecOn with
  | nil => exact .inl (chained_snoc.mpr (.inl closes))
  | append_singleton between line ih =>
      rw [← List.append_assoc, chained_snoc, separated_snoc] at near
      rw [← List.cons_append, ← List.append_assoc, chained_snoc, separated_snoc]
      rcases near with (found | ⟨found, near⟩) | (⟨found, near⟩ | ⟨found, near⟩)
      · exact .inl (.inl found)
      · exact (ih (.inl near)).imp (fun near => .inr ⟨found, near⟩) fun near => .inl ⟨found, near⟩
      · exact (ih (.inr near)).imp (fun near => .inr ⟨found, near⟩) fun near => .inl ⟨found, near⟩
      · exact .inr (.inr ⟨found, ih near⟩)

/-- A closer keeps text in front of it from separating what is behind it only when nothing but comments is in
between. -/
theorem separated_without (closes : closer.directive? = some .closer) (apart : Separated (front ++ between))
    (joined : ¬ Separated (front ++ closer :: between)) :
    Separated front ∧ ∀ line ∈ between, line.directive? = some .comment := by
  induction between using List.reverseRecOn with
  | nil => exact ⟨by simpa using apart, by simp⟩
  | append_singleton between line ih =>
      rw [← List.append_assoc, separated_snoc] at apart
      rw [← List.cons_append, ← List.append_assoc, separated_snoc] at joined
      rcases apart with ⟨found, apart⟩ | ⟨found, near⟩
      · obtain ⟨before, comments⟩ := ih apart fun apart => joined (.inl ⟨found, apart⟩)
        exact ⟨before, by simpa [or_imp, forall_and, found] using comments⟩
      · exact absurd (.inr ⟨found, chained_or_separated closes near⟩) joined

theorem Clean.depth_nonneg {line : Line} {after : List Line}
    (clean : Clean (front ++ closer :: (between ++ line :: after))) : 0 ≤ depth (front ++ closer :: between) := by
  rw [← List.cons_append, ← List.append_assoc] at clean
  exact clean.front.staysOpen.depth_nonneg

/-- A line behind the closer breaks a rule without it only when it has lost its block. -/
theorem losesBlock_of_breaks {line : Line} {after : List Line} {flaw : Flaw}
    (clean : Clean (front ++ closer :: (between ++ line :: after))) (closes : closer.directive? = some .closer)
    (breaks : Breaks (front ++ between) line flaw) :
    ∃ head first, flaw = .separatedArm head first line.number ∧
      LosesBlock front (between ++ line :: after) line head := by
  have kept := clean (front ++ closer :: between) line after (by simp)
  have nonneg := clean.depth_nonneg
  cases flaw with
  | malformedCloser rest number => exact absurd breaks (kept (.malformedCloser rest number))
  | unmatchedCloser number =>
      have outside := breaks.2.1
      simp [Line.depthChange, closes] at nonneg outside
      omega
  | separatedArm head first number =>
      obtain ⟨opens, continues, apart, rfl⟩ := breaks
      have joined : ¬ Separated (front ++ closer :: between) :=
        fun apart => kept (.separatedArm head first line.number) ⟨opens, continues, apart, rfl⟩
      obtain ⟨before, comments⟩ := separated_without closes apart joined
      exact ⟨head, first, rfl, before, between, after, rfl, comments, opens, continues⟩
  | unterminatedFragment | unclosedBlock | rejected => exact breaks.elim

/-- Without the closer one block stays open. -/
theorem depth_without (closed : depth (front ++ closer :: back) = 0) (closes : closer.directive? = some .closer) :
    depth (front ++ back) = 1 := by
  simp only [depth_append, depth_cons, Line.depthChange, closes] at closed ⊢
  omega

/-- The block that is never closed without a closer is the outermost one at the closer. -/
theorem leavesOpen_outermost {head : Text} {number : Int} (clean : Clean (front ++ closer :: back))
    (closed : depth (front ++ closer :: back) = 0) (closes : closer.directive? = some .closer)
    (leaves : LeavesOpen (front ++ back) 0 head number) : LeavesOpen front (depth front - 1) head number := by
  obtain ⟨before, opener, after, split, opens, isNumber, stays, level⟩ := leaves
  have total := depth_without closed closes
  rcases append_eq_append_cons.mp split with ⟨between, rfl, rfl⟩ | ⟨between, rfl, rfl⟩
  · refine ⟨before, opener, between, rfl, opens, isNumber, stays.front, ?_⟩
    simp only [depth_append, depth_cons] at total level ⊢
    omega
  -- The opener would have no block around it, and the closer would close none.
  · exfalso
    have nonneg := clean.depth_nonneg
    simp only [depth_append, depth_cons] at total nonneg
    have change : closer.depthChange = -1 := by simp [Line.depthChange, closes]
    rcases opens with found | found
    · have change' : opener.depthChange = 1 := by simp [Line.depthChange, found]
      omega
    · have change' : opener.depthChange = 0 := by simp [Line.depthChange, found]
      have inside := clean.staysOpen (front ++ closer :: between) opener after (by simp) (.inr ⟨head, found⟩)
      simp only [depth_append, depth_cons] at inside
      omega

/-- An accepted template without one of its closers is refused. -/
theorem refused_without {name : Option Text} {tree : Tree}
    (accepted : Tree.ofLines name (front ++ closer :: back) = .ok tree) (closes : closer.directive? = some .closer) :
    ∃ flaw, Tree.ofLines name (front ++ back) = .error flaw ∧ Blames front back flaw := by
  obtain ⟨clean, closed⟩ := clean_of_ofLines accepted
  have run := tracks_start.run clean_nil (front ++ back)
  rw [List.nil_append] at run
  cases result : Matching.start.run (front ++ back) with
  | error flaw =>
      rw [result] at run
      obtain ⟨older, line, after, split, -, breaks⟩ := run
      refine ⟨flaw, by simp [Tree.ofLines, result], ?_⟩
      rcases append_eq_append_cons.mp split with ⟨rest, rfl, rfl⟩ | ⟨rest, rfl, rfl⟩
      · exact absurd breaks (clean older line (rest ++ closer :: back) (by simp) flaw)
      · obtain ⟨head, first, rfl, loses⟩ := losesBlock_of_breaks clean closes breaks
        exact ⟨line, loses, rfl⟩
  | ok final =>
      rw [result] at run
      obtain ⟨tracks, clean'⟩ := run
      have total := depth_without closed closes
      cases opened : outline final with
      | nil =>
          rw [tracks.count, opened] at total
          cases total
      | cons block blocks =>
          obtain ⟨head, number⟩ := block
          have leaves : LeavesOpen (front ++ back) 0 head number := tracks.leaves 0 head number (by simp [opened])
          refine ⟨.unclosedBlock head number, by simp [Tree.ofLines, result, finish_of_outline_cons opened], ?_,
            leavesOpen_outermost clean closed closes leaves⟩
          rintro arm other ⟨apart, comments, rest, rfl, quiet, opens, continues⟩
          exact clean' (front ++ comments) arm rest (by simp) (.separatedArm other 0 arm.number)
            ⟨opens, continues, apart.comments quiet, rfl⟩

end Closer

end Braces

/-! ## Sources without a line -/

/-- Leaving out a line takes nothing from the others. -/
theorem Decomposes.without {source : Text} {front back : List RawLine} {raw : RawLine}
    (decomposes : Decomposes source (front ++ raw :: back)) :
    Decomposes ((front ++ back).flatMap RawLine.text) (front ++ back) := by
  have among : front ++ back ⊆ front ++ raw :: back := by simp
  have inner : (front ++ back).dropLast ⊆ (front ++ raw :: back).dropLast := by
    cases back with
    | nil =>
        rw [List.append_nil, List.dropLast_concat]
        exact List.dropLast_subset front
    | cons first back => simp [List.dropLast_append_of_ne_nil]
  exact ⟨rfl, fun other member => decomposes.clean other (among member),
    fun other member => decomposes.terminators other (among member),
    fun other member => decomposes.terminated other (inner member),
    fun other member => decomposes.returns other (among member)⟩

/-- Classified lines come from the physical lines at the same places. -/
theorem Line.classifyFrom_split {marker : Text} {number : Int} {raws : List RawLine} {front back : List Line}
    (read : classifyFrom marker number raws = .ok (front ++ back)) :
    ∃ first rest, raws = first ++ rest ∧ first.length = front.length ∧ classifyFrom marker number first = .ok front ∧
      classifyFrom marker (number + front.length) rest = .ok back := by
  induction front generalizing number raws with
  | nil => exact ⟨[], raws, rfl, rfl, rfl, by simpa using read⟩
  | cons line front ih =>
      cases raws with
      | nil => cases read
      | cons raw raws =>
          rw [classifyFrom] at read
          split at read
          · cases read
          · rename_i own first
            split at read
            · cases read
            · rename_i others behind
              obtain ⟨rfl, rfl⟩ := List.cons.inj (Except.ok.inj read)
              obtain ⟨before, rest, rfl, same, read', read''⟩ := ih behind
              refine ⟨raw :: before, rest, rfl, by simp [same], by simp [classifyFrom, first, read'], ?_⟩
              rw [List.length_cons, Nat.cast_succ, Int.add_comm _ 1, ← Int.add_assoc]
              exact read''

namespace TemplateSource

/-- The source without the line at a place. -/
def withoutLine (place : Nat) (source : TemplateSource) : TemplateSource :=
  { source with text := ((splitLines source.text).eraseIdx place).flatMap RawLine.text }

end TemplateSource

/-- Without one of its lines, a source has the other lines, those behind it one number earlier. -/
theorem ofSource_withoutLine {marker : Text} {source : TemplateSource} {front back : List Line} {line : Line}
    (read : Line.ofSource marker source.text = .ok (front ++ line :: back)) :
    Line.ofSource marker (source.withoutLine front.length).text = .ok (front ++ back.map (Line.renumber (· - 1))) := by
  obtain ⟨first, rest, split, places, before, behind⟩ := Line.classifyFrom_split read
  obtain ⟨own, others, rfl, one, -, after⟩ := @Line.classifyFrom_split marker _ _ [line] back behind
  obtain ⟨raw, rfl⟩ := List.length_eq_one_iff.mp one
  have erased : (splitLines source.text).eraseIdx front.length = first ++ others := by
    rw [split, ← places, List.eraseIdx_append_of_length_le (Nat.le_refl _)]
    simp
  have lines : splitLines (source.withoutLine front.length).text = first ++ others := by
    have decomposes := decomposes_splitLines source.text
    rw [split, List.singleton_append] at decomposes
    rw [TemplateSource.withoutLine, erased]
    exact decomposes.without.eq_splitLines.symm
  have earlier : Line.classifyFrom marker (1 + first.length) others = .ok (back.map (Line.renumber (· - 1))) := by
    have moved := Line.classifyFrom_renumber marker (-1) (1 + front.length + ([line].length : Nat)) others
    rw [after, List.length_singleton, Nat.cast_one, Int.add_neg_cancel_right] at moved
    rw [places]
    exact moved
  rw [Line.ofSource, lines, Line.classifyFrom_append, before, earlier]
  rfl

/-- The lines that stay when a closer is left out, with the numbers they have then. -/
theorem accepted_around {name : Option Text} {tree : Tree} {front back : List Line} {closer : Line}
    (ascending : Ascending (front ++ closer :: back))
    (accepted : Tree.ofLines name (front ++ closer :: back) = .ok tree) (closes : closer.directive? = some .closer) :
    ∃ closer' tree', closer'.directive? = some .closer ∧
      Tree.ofLines name (front ++ closer' :: back.map (Line.renumber (· - 1))) = .ok tree' := by
  let move (number : Int) : Int := if number < closer.number then number else number - 1
  have before : front.map (Line.renumber move) = front := by
    refine (List.map_congr_left fun line member => ?_).trans (List.map_id front)
    have lower : line.number < closer.number := ascending.lt member List.mem_cons_self
    simp [Line.renumber, move, lower]
  have behind : back.map (Line.renumber move) = back.map (Line.renumber (· - 1)) := by
    refine List.map_congr_left fun line member => ?_
    have upper : closer.number < line.number := ascending.behind member
    simp [Line.renumber, move, Int.not_lt.mpr (Int.le_of_lt upper)]
  have moved := ofLines_renumber move name (front ++ closer :: back)
  rw [accepted, List.map_append, List.map_cons, before, behind] at moved
  exact ⟨closer.renumber move, _, closes, moved⟩

/-- Leaving a lone closer out of an accepted template always makes it refused.  The flaw is an arm that the closer joined
to its block and that text separates from an earlier closer, on the line which it has then, or else the outermost of the
blocks that were open at the closer.  So the line that is told is that of the opener which the closer matched just when
no other block was open around it and no arm lost its block. -/
theorem missing_closer_reported {marker : Text} {source : TemplateSource} {tree : Tree} {front back : List Line}
    {closer : Line} (accepted : source.tree marker = .ok tree)
    (read : Line.ofSource marker source.text = .ok (front ++ closer :: back))
    (closes : closer.directive? = some .closer) :
    ∃ flaw head opened, (source.withoutLine front.length).tree marker = .error flaw ∧
      Braces.Blames front (back.map (Line.renumber (· - 1))) flaw ∧ Braces.LeavesOpen front 0 head opened ∧
        (flaw.line? = some opened ↔ Braces.depth front = 1 ∧
          ∀ arm other, ¬ Braces.LosesBlock front (back.map (Line.renumber (· - 1))) arm other) := by
  have matched : Tree.ofLines source.name (front ++ closer :: back) = .ok tree := by
    rw [TemplateSource.tree, read] at accepted
    exact accepted
  have ascending : Ascending (front ++ closer :: back) := (Line.ascending_of_classifyFrom read).1
  have shorter := ofSource_withoutLine read
  have ascending' : Ascending (front ++ back.map (Line.renumber (· - 1))) := (Line.ascending_of_classifyFrom shorter).1
  obtain ⟨closer', tree', closes', accepted'⟩ := accepted_around ascending matched closes
  obtain ⟨flaw, refused, blames⟩ := Braces.refused_without accepted' closes'
  have clean := (Braces.clean_of_ofLines matched).1
  have inside : 0 < Braces.depth front := clean.staysOpen front closer back rfl (.inl closes)
  obtain ⟨head, opened, leaves⟩ : ∃ head opened, Braces.LeavesOpen front 0 head opened :=
    @Braces.Clean.leavesOpen front clean.front 0 inside
  refine ⟨flaw, head, opened, ?_, blames, leaves, ?_⟩
  · rw [TemplateSource.tree, shorter]
    exact refused
  · cases flaw with
    | separatedArm other first number =>
        obtain ⟨arm, loses, rfl⟩ := blames
        have later : opened < arm.number := by
          obtain ⟨older, opener, newer, rfl, -, rfl, -⟩ := leaves
          obtain ⟨-, comments, rest, behind, -⟩ := loses
          refine ascending'.lt (by simp) ?_
          rw [behind]
          simp
        constructor
        · intro same
          have : arm.number = opened := Option.some.inj same
          omega
        · rintro ⟨-, keeps⟩
          exact absurd loses (keeps arm other)
    | unclosedBlock other number =>
        obtain ⟨keeps, outermost⟩ := blames
        constructor
        · intro same
          have before : Ascending front := ascending.part (List.prefix_append front _).isInfix
          have level := leaves.level before outermost (Option.some.inj same).symm
          exact ⟨by omega, keeps⟩
        · rintro ⟨one, -⟩
          rw [one] at outermost
          exact congrArg some (outermost.unique leaves)
    | unterminatedFragment | unmatchedCloser | malformedCloser | rejected => exact blames.elim

/-- A block inside another one. -/
def nestedBlocks : TemplateSource := ⟨"%% if a \x7b\n%% if b \x7b\n%% \x7d\n%% \x7d\n", none, none, "text/plain"⟩

/-- The lines of the two openers. -/
def nestedOpeners : List Line :=
  [⟨1, "%% if a \x7b", ['\n'], .directive "if a \x7b"⟩, ⟨2, "%% if b \x7b", ['\n'], .directive "if b \x7b"⟩]

/-- The line of the closer of one of the blocks. -/
def nestedCloser (number : Int) : Line := ⟨number, "%% \x7d", ['\n'], .directive "\x7d"⟩

theorem nestedBlocks_without_inner_closer :
    ∃ tree flaw head opened, nestedBlocks.tree Environment.standardMarker = .ok tree ∧
      Line.ofSource Environment.standardMarker nestedBlocks.text =
        .ok (nestedOpeners ++ nestedCloser 3 :: [nestedCloser 4]) ∧
      (nestedBlocks.withoutLine 2).tree Environment.standardMarker = .error flaw ∧
      Braces.Blames nestedOpeners [nestedCloser 3] flaw ∧ Braces.LeavesOpen nestedOpeners 0 head opened := by
  have accepted : nestedBlocks.tree Environment.standardMarker =
      .ok ⟨[.control (.mk 1 "if a" [.control (.mk 2 "if b" [] [] 3)] [] 4)], none⟩ := rfl
  have read : Line.ofSource Environment.standardMarker nestedBlocks.text =
      .ok (nestedOpeners ++ nestedCloser 3 :: [nestedCloser 4]) := by decide +kernel
  obtain ⟨flaw, head, opened, refused, blames, leaves, -⟩ := missing_closer_reported accepted read rfl
  exact ⟨_, flaw, head, opened, accepted, read, refused, blames, leaves⟩

/-- Without the closer of the inner block the outer opener is told.  No other line could be told for every closer, since
leaving out the one or the other gives the same source. -/
theorem inner_closer_blames_outer_opener :
    (∃ tree, nestedBlocks.tree Environment.standardMarker = .ok tree) ∧
      Line.ofSource Environment.standardMarker nestedBlocks.text =
        .ok (nestedOpeners ++ nestedCloser 3 :: [nestedCloser 4]) ∧
      (nestedCloser 3).directive? = some .closer ∧ Braces.LeavesOpen nestedOpeners 0 "if b" 2 ∧
      (nestedBlocks.withoutLine 2).tree Environment.standardMarker = .error (.unclosedBlock "if a" 1) ∧
      nestedBlocks.withoutLine 3 = nestedBlocks.withoutLine 2 := by
  have innermost : Braces.LeavesOpen nestedOpeners 0 "if b" 2 :=
    ⟨nestedOpeners.take 1, ⟨2, "%% if b \x7b", ['\n'], .directive "if b \x7b"⟩, [], rfl, .inl rfl, rfl,
      Braces.staysOpen_nil, rfl⟩
  exact ⟨⟨_, rfl⟩, by decide +kernel, rfl, innermost, rfl, by decide +kernel⟩

end Stencil
