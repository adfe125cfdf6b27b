import Mathlib.Data.List.Forall2
import Stencil.Proofs.Suite

/-!
# Written lines

Every line that the generator writes has a cause in the plan: some literals that follow each other, one half of a
fragment, a statement, the head of a block, or a body without anything in it.  The causes of a plan are read off its
instructions one after the other, without a sheet or a stack of bodies, and the lines of the routine are those of the
causes in the same order.
-/

namespace Stencil

namespace Routine

/-! ## Causes -/

/-- What a line of a routine is written for, with the template lines of it. -/
inductive Cause where
  /-- Literals that follow each other. -/
  | literals (first : Text × Int) (others : List (Text × Int))
  /-- A fragment, whose value is kept. -/
  | fragment (code : Text) (line : Int)
  /-- The value that was kept last, which is converted and appended. -/
  | value (escape : Bool) (line : Int)
  | statement (code : Text) (line : Int)
  | head (code : Text) (line : Int)
  /-- A body in which nothing was written, from its opener to the line that ends it. -/
  | emptyBody (opener stop : Int)

namespace Cause

/-- What is written, its indentation aside. -/
def text : Cause → Text
  | literals first others => Writing.appendLine (Quoted.encode ((first :: others).flatMap Prod.fst))
  | fragment code _ => valueName ++ " = " ++ code
  | value escape _ => Writing.appendLine (Writing.converter escape ++ ['('] ++ valueName ++ [')'])
  | statement code _ => code
  | head code _ => code ++ [':']
  | emptyBody _ _ => "pass"

/-- The template line that is noted for what is written. -/
def origin : Cause → Int
  | literals first _ => first.2
  | fragment _ line | value _ line | statement _ line | head _ line => line
  | emptyBody _ stop => stop

/-- The line of a sheet that a cause leads to at a level. -/
def written (level : Int) (cause : Cause) : GeneratedLine := ⟨Sheet.indentation level ++ cause.text, cause.origin⟩

/-- Whether a line of a sheet is that of a cause at some level. -/
def Explains (line : GeneratedLine) (cause : Cause) : Prop := ∃ level, line = cause.written level

/-- The cause of the literals that are held back, if there are any. -/
def ofHeld : List (Text × Int) → List Cause
  | [] => []
  | first :: others => [literals first others]

/-- The cause of a body that is ended by the next instruction. -/
def ofBody (opener : Int) : List Instruction → List Cause
  | .finish stop :: _ | .begin _ true stop :: _ => [emptyBody opener stop]
  | _ => []

/-- The causes of instructions that stand behind some literals. -/
def among (held : List (Text × Int)) : List Instruction → List Cause
  | [] => ofHeld held
  | .literal text line :: rest => among (held ++ [(text, line)]) rest
  | .insert code escape line :: rest => ofHeld held ++ fragment code line :: value escape line :: among [] rest
  | .exec code line :: rest => ofHeld held ++ statement code line :: among [] rest
  | .begin code _ line :: rest => ofHeld held ++ head code line :: (ofBody line rest ++ among [] rest)
  | .finish _ :: rest => ofHeld held ++ among [] rest

end Cause

/-! ## Causes in order -/

namespace Cause

/-- Whether causes are noted with some template lines, in ascending order. -/
def Follows (lines : List Int) (causes : List Cause) : Prop :=
  (causes.map origin).Pairwise (· ≤ ·) ∧ ∀ cause ∈ causes, cause.origin ∈ lines

theorem Follows.append {lines more : List Int} {first others : List Cause} (left : Follows lines first)
    (right : Follows more others) (sorted : (lines ++ more).Pairwise (· ≤ ·)) :
    Follows (lines ++ more) (first ++ others) := by
  obtain ⟨-, -, apart⟩ := List.pairwise_append.mp sorted
  refine ⟨?_, fun cause member => ?_⟩
  · rw [List.map_append]
    refine List.pairwise_append.mpr ⟨left.1, right.1, fun origin early late after => ?_⟩
    obtain ⟨cause, own, rfl⟩ := List.mem_map.mp early
    obtain ⟨cause', own', rfl⟩ := List.mem_map.mp after
    exact apart _ (left.2 cause own) _ (right.2 cause' own')
  · rcases List.mem_append.mp member with early | late
    · exact List.mem_append_left _ (left.2 cause early)
    · exact List.mem_append_right _ (right.2 cause late)

theorem follows_ofHeld (held : List (Text × Int)) : Follows (held.map Prod.snd) (ofHeld held) := by
  cases held with
  | nil => exact ⟨.nil, nofun⟩
  | cons first others =>
      refine ⟨List.pairwise_singleton _ _, fun cause member => ?_⟩
      rw [List.mem_singleton.mp member]
      exact List.mem_cons_self

/-- A body is ended by the first of the instructions behind it. -/
theorem follows_ofBody (opener : Int) {instructions : List Instruction} {causes : List Cause}
    (sorted : (instructions.map Instruction.line).Pairwise (· ≤ ·))
    (follows : Follows (instructions.map Instruction.line) causes) :
    Follows (instructions.map Instruction.line) (ofBody opener instructions ++ causes) := by
  have first {instruction : Instruction} {rest : List Instruction} (same : instructions = instruction :: rest)
      {cause : Cause} (noted : cause.origin = instruction.line) :
      Follows (instructions.map Instruction.line) (cause :: causes) := by
    subst same
    rw [List.map_cons, List.pairwise_cons] at sorted
    refine ⟨List.pairwise_cons.mpr ⟨fun origin later => ?_, follows.1⟩, List.forall_mem_cons.mpr ⟨?_, follows.2⟩⟩
    · obtain ⟨other, member, rfl⟩ := List.mem_map.mp later
      rw [noted]
      rcases List.mem_cons.mp (follows.2 other member) with same | behind
      · exact Int.le_of_eq same.symm
      · exact sorted.1 _ behind
    · rw [noted]
      exact List.mem_cons_self
  unfold ofBody
  split
  · exact first rfl rfl
  · exact first rfl rfl
  · exact follows

/-- The causes of instructions are noted with the template lines of the instructions. -/
theorem follows_among (held : List (Text × Int)) (instructions : List Instruction)
    (sorted : (held.map Prod.snd ++ instructions.map Instruction.line).Pairwise (· ≤ ·)) :
    Follows (held.map Prod.snd ++ instructions.map Instruction.line) (among held instructions) := by
  have behind {held : List (Text × Int)} {instruction : Instruction} {rest : List Instruction}
      (sorted : (held.map Prod.snd ++ (instruction :: rest).map Instruction.line).Pairwise (· ≤ ·)) :
      (instruction.line :: rest.map Instruction.line).Pairwise (· ≤ ·) :=
    (List.pairwise_append.mp sorted).2.1
  fun_induction among held instructions with
  | case1 held =>
      rw [List.map_nil, List.append_nil]
      exact follows_ofHeld held
  | case2 held text line rest ih =>
      rw [List.map_append, List.append_assoc] at ih
      exact ih sorted
  | case3 held code escape line rest ih =>
      have own : Follows [line] [fragment code line, value escape line] :=
        ⟨List.pairwise_pair.mpr (Int.le_refl line), by simp [origin]⟩
      exact (follows_ofHeld held).append
        (own.append (ih (behind sorted).of_cons) (behind sorted)) sorted
  | case4 held code line rest ih =>
      have own : Follows [line] [statement code line] := ⟨List.pairwise_singleton _ _, by simp [origin]⟩
      exact (follows_ofHeld held).append (own.append (ih (behind sorted).of_cons) (behind sorted)) sorted
  | case5 held code arm line rest ih =>
      have own : Follows [line] [head code line] := ⟨List.pairwise_singleton _ _, by simp [origin]⟩
      have later := follows_ofBody line (behind sorted).of_cons (ih (behind sorted).of_cons)
      exact (follows_ofHeld held).append (own.append later (behind sorted)) sorted
  | case6 held line rest ih =>
      have own : Follows [line] [] := ⟨.nil, nofun⟩
      exact (follows_ofHeld held).append (own.append (ih (behind sorted).of_cons) (behind sorted)) sorted

/-- Whether a cause is found in instructions. -/
def From (instructions : List Instruction) : Cause → Prop
  | literals first others => ∀ piece ∈ first :: others, .literal piece.1 piece.2 ∈ instructions
  | fragment code line => ∃ escape, .insert code escape line ∈ instructions
  | value escape line => ∃ code, .insert code escape line ∈ instructions
  | statement code line => .exec code line ∈ instructions
  | head code line => ∃ arm, .begin code arm line ∈ instructions
  | emptyBody opener stop => opener ≤ stop ∧ ∃ code arm, .begin code arm opener ∈ instructions

theorem from_ofHeld {all : List Instruction} {held : List (Text × Int)}
    (found : ∀ piece ∈ held, .literal piece.1 piece.2 ∈ all) : ∀ cause ∈ ofHeld held, cause.From all := by
  cases held with
  | nil => exact nofun
  | cons first others =>
      intro cause member
      rw [List.mem_singleton.mp member]
      exact found

theorem from_ofBody {all : List Instruction} {code : Text} {arm : Bool} {opener : Int}
    (opened : .begin code arm opener ∈ all) {instructions : List Instruction}
    (later : ∀ line ∈ instructions.map Instruction.line, opener ≤ line) :
    ∀ cause ∈ ofBody opener instructions, cause.From all := by
  unfold ofBody
  split
  · intro cause member
    rw [List.mem_singleton.mp member]
    exact ⟨later _ List.mem_cons_self, code, arm, opened⟩
  · intro cause member
    rw [List.mem_singleton.mp member]
    exact ⟨later _ List.mem_cons_self, code, arm, opened⟩
  · exact nofun

/-- Every cause is found where it was read off. -/
theorem from_among {all : List Instruction} (held : List (Text × Int)) (instructions : List Instruction)
    (found : ∀ piece ∈ held, .literal piece.1 piece.2 ∈ all) (inside : ∀ instruction ∈ instructions, instruction ∈ all)
    (sorted : (instructions.map Instruction.line).Pairwise (· ≤ ·)) :
    ∀ cause ∈ among held instructions, cause.From all := by
  fun_induction among held instructions with
  | case1 held => exact from_ofHeld found
  | case2 held text line rest ih =>
      rw [List.forall_mem_cons] at inside
      refine ih (fun piece member => ?_) inside.2 sorted.of_cons
      rcases List.mem_append.mp member with before | last
      · exact found piece before
      · rw [List.mem_singleton.mp last]
        exact inside.1
  | case3 held code escape line rest ih =>
      rw [List.forall_mem_cons] at inside
      refine List.forall_mem_append.mpr ⟨from_ofHeld found, List.forall_mem_cons.mpr ⟨⟨escape, inside.1⟩,
        List.forall_mem_cons.mpr ⟨⟨code, inside.1⟩, ih nofun inside.2 sorted.of_cons⟩⟩⟩
  | case4 held code line rest ih =>
      rw [List.forall_mem_cons] at inside
      exact List.forall_mem_append.mpr ⟨from_ofHeld found, List.forall_mem_cons.mpr ⟨inside.1,
        ih nofun inside.2 sorted.of_cons⟩⟩
  | case5 held code arm line rest ih =>
      rw [List.forall_mem_cons] at inside
      have ended := from_ofBody inside.1 (List.pairwise_cons.mp sorted).1
      exact List.forall_mem_append.mpr ⟨from_ofHeld found, List.forall_mem_cons.mpr ⟨⟨arm, inside.1⟩,
        List.forall_mem_append.mpr ⟨ended, ih nofun inside.2 sorted.of_cons⟩⟩⟩
  | case6 held line rest ih =>
      rw [List.forall_mem_cons] at inside
      exact List.forall_mem_append.mpr ⟨from_ofHeld found, ih nofun inside.2 sorted.of_cons⟩

end Cause

/-! ## What the generator writes -/

theorem lines_dedent {sheet outer : Sheet} (dedented : sheet.dedent? = some outer) : outer.lines = sheet.lines := by
  unfold Sheet.dedent? at dedented
  split at dedented
  · cases dedented
  · obtain rfl := Option.some.inj dedented
    rfl

namespace Writing

/-- Whether the literals that are held back are the given ones. -/
structure Holds (held : List (Text × Int)) (state : Writing) : Prop where
  text : state.held = held.flatMap Prod.fst
  line : ∀ first ∈ held.head?, state.heldLine = first.2
  occupied : ∀ piece ∈ held, piece.1 ≠ []

theorem Holds.nil {state : Writing} (nothing : state.held = []) : Holds [] state :=
  ⟨nothing, nofun, nofun⟩

theorem Holds.held_eq_nil {held : List (Text × Int)} {state : Writing} (holds : Holds held state) :
    state.held = [] ↔ held = [] := by
  constructor
  · intro nothing
    cases held with
    | nil => rfl
    | cons first others =>
        have whole := holds.text
        rw [nothing, List.flatMap_cons] at whole
        exact absurd (List.append_eq_nil_iff.mp whole.symm).1 (holds.occupied first List.mem_cons_self)
  · rintro rfl
    exact holds.text

theorem Holds.append {held : List (Text × Int)} {state : Writing} (holds : Holds held state) {text : Text} (line : Int)
    (occupied : text ≠ []) : Holds (held ++ [(text, line)])
      { state.note line with
        held := state.held ++ text
        heldLine := if state.held.isEmpty then line else state.heldLine } where
  text := by rw [List.flatMap_append, ← holds.text, List.flatMap_singleton]
  line := by
    cases held with
    | nil =>
        rintro first ⟨⟩
        exact if_pos (List.isEmpty_iff.mpr (holds.held_eq_nil.mpr rfl))
    | cons first others =>
        rintro first ⟨⟩
        have more : state.held ≠ [] := fun nothing => List.cons_ne_nil _ _ (holds.held_eq_nil.mp nothing)
        exact (if_neg fun empty => more (List.isEmpty_iff.mp empty)).trans (holds.line _ rfl)
  occupied := by
    intro piece member
    rcases List.mem_append.mp member with before | last
    · exact holds.occupied piece before
    · rw [List.mem_singleton.mp last]
      exact occupied

theorem Holds.lines_flush {held : List (Text × Int)} {state : Writing} (holds : Holds held state) :
    state.flush.sheet.lines = state.sheet.lines ++ (Cause.ofHeld held).map (Cause.written state.sheet.level) := by
  cases held with
  | nil => rw [flush_of_held (holds.held_eq_nil.mpr rfl), Cause.ofHeld, List.map_nil, List.append_nil]
  | cons first others =>
      have occupied : state.held ≠ [] := fun nothing => List.cons_ne_nil _ _ (holds.held_eq_nil.mp nothing)
      obtain ⟨char, rest, same⟩ := List.exists_cons_of_ne_nil occupied
      have text : Cause.text (.literals first others) = appendLine (Quoted.encode state.held) := by
        rw [Cause.text, ← holds.text]
      rw [flush, same]
      dsimp only [emit, Sheet.write, Sheet.writeAt]
      rw [Cause.ofHeld, List.map_singleton, Cause.written, text, same, holds.line first rfl]
      rfl

/-- Whether the innermost body of a state has something in it, or nothing since an opener. -/
def Body (opener : Option Int) (held : List (Text × Int)) (state : Writing) : Prop :=
  match opener with
  | none => state.frame.written = true ∨ held ≠ []
  | some _ => state.frame.written = false ∧ held = []

theorem Body.written_flush {held : List (Text × Int)} {state : Writing} (holds : Holds held state)
    (body : Body none held state) : state.flush.frame.written = true := by
  rw [Writing.written_flush, Busy]
  exact body.imp_right fun occupied nothing => occupied (holds.held_eq_nil.mp nothing)

/-- The causes of what comes next in a body. -/
def causes (opener : Option Int) (held : List (Text × Int)) (instructions : List Instruction) : List Cause :=
  (match opener with
    | none => []
    | some opener => Cause.ofBody opener instructions) ++ Cause.among held instructions

/-- Where the generator stands: the literals that it holds back, and the opener of a body without anything in it. -/
structure Stands (opener : Option Int) (held : List (Text × Int)) (state : Writing) : Prop where
  holds : Holds held state
  body : Body opener held state
  around : ∀ frame ∈ state.outer, frame.written = true

theorem Stands.note {opener : Option Int} {held : List (Text × Int)} {state : Writing}
    (stands : Stands opener held state) (line : Int) : Stands opener held (state.note line) :=
  ⟨⟨stands.holds.text, stands.holds.line, stands.holds.occupied⟩, stands.body, stands.around⟩

/-- Behind a line the generator holds nothing back. -/
theorem Stands.emitted {state : Writing} (idle : state.held = []) (around : ∀ frame ∈ state.outer, frame.written = true)
    (text : Text) (line : Int) : Stands none [] (state.emit text line) :=
  ⟨.nil idle, .inl rfl, around⟩

/-- What is written from one state to another has the given causes. -/
def Adds (causes : List Cause) (before after : Writing) : Prop :=
  ∃ lines, after.sheet.lines = before.sheet.lines ++ lines ∧ List.Forall₂ Cause.Explains lines causes

theorem Adds.of_eq {causes : List Cause} {before after : Writing} {level : Int}
    (written : after.sheet.lines = before.sheet.lines ++ causes.map (Cause.written level)) :
    Adds causes before after :=
  ⟨_, written, List.forall₂_map_left_iff.mpr (List.forall₂_same.mpr fun _ _ => ⟨level, rfl⟩)⟩

theorem Adds.trans {first others : List Cause} {before between after : Writing} (left : Adds first before between)
    (right : Adds others between after) : Adds (first ++ others) before after := by
  obtain ⟨lines, written, explained⟩ := left
  obtain ⟨more, written', explained'⟩ := right
  exact ⟨lines ++ more, by rw [written', written, List.append_assoc], List.rel_append explained explained'⟩

theorem adds_emit (state : Writing) (cause : Cause) : Adds [cause] state (state.emit cause.text cause.origin) :=
  .of_eq rfl

theorem Stands.adds_flush {opener : Option Int} {held : List (Text × Int)} {state : Writing}
    (stands : Stands opener held state) (line : Int) : Adds (Cause.ofHeld held) state (state.note line).flush :=
  .of_eq (stands.note line).holds.lines_flush

/-- The cause of a body that is ended on a line. -/
def bodyCause (opener : Option Int) (stop : Int) : List Cause :=
  match opener with
  | none => []
  | some opener => [.emptyBody opener stop]

theorem held_fill (stop : Int) (state : Writing) : (state.fill stop).held = state.held := by
  unfold fill
  split <;> rfl

theorem outer_fill (stop : Int) (state : Writing) : (state.fill stop).outer = state.outer := by
  unfold fill
  split <;> rfl

/-- Filling a body writes the line that does nothing if the body has nothing in it. -/
theorem Stands.adds_fill {opener : Option Int} {held : List (Text × Int)} {state : Writing}
    (stands : Stands opener held state) (stop : Int) :
    Adds (bodyCause opener stop ++ Cause.ofHeld held) state ((state.note stop).flush.fill stop) := by
  cases opener with
  | none =>
      have written : (state.note stop).flush.frame.written = true :=
        (stands.note stop).body.written_flush (stands.note stop).holds
      rw [fill, if_pos written]
      exact stands.adds_flush stop
  | some opener =>
      obtain ⟨unwritten, rfl⟩ := stands.body
      have idle : (state.note stop).flush = state.note stop :=
        flush_of_held ((stands.note stop).holds.held_eq_nil.mpr rfl)
      have unwritten' : (state.note stop).frame.written = false := unwritten
      rw [idle, fill, if_neg (Bool.eq_false_iff.mp unwritten')]
      exact .of_eq rfl

theorem Stands.around_flush {opener : Option Int} {held : List (Text × Int)} {state : Writing}
    (stands : Stands opener held state) (line : Int) :
    ∀ frame ∈ (state.note line).flush.outer, frame.written = true := by
  rw [outer_flush]
  exact stands.around

/-- Behind a filled body the generator holds nothing back. -/
theorem Stands.filled {opener : Option Int} {held : List (Text × Int)} {state : Writing}
    (stands : Stands opener held state) (line : Int) : ((state.note line).flush.fill line).held = [] ∧
      ∀ frame ∈ ((state.note line).flush.fill line).outer, frame.written = true := by
  rw [held_fill, outer_fill]
  exact ⟨held_flush (state.note line), stands.around_flush line⟩

/-- The end of a body writes what is held back, and fills the body. -/
theorem Stands.finish {opener : Option Int} {held : List (Text × Int)} {state next : Writing}
    (stands : Stands opener held state) {line : Int} (step : state.step (.finish line) = some next) :
    Stands none [] next ∧ Adds (bodyCause opener line ++ Cause.ofHeld held) state next := by
  have adds := stands.adds_fill line
  obtain ⟨idle, around⟩ := stands.filled line
  change Writing.stepFlushed (state.note line).flush (.finish line) = some next at step
  rw [Writing.stepFlushed] at step
  split at step
  · cases step
  · rename_i frame outer enclosing
    rw [enclosing, List.forall_mem_cons] at around
    have stands' (sheet : Sheet) : Stands none []
        { (state.note line).flush.fill line with sheet := sheet, frame := frame, outer := outer } :=
      ⟨.nil idle, .inl around.1, around.2⟩
    split at step
    · obtain rfl := Option.some.inj step
      exact ⟨stands' _, adds⟩
    · obtain ⟨sheet, dedented, rfl⟩ := Option.map_eq_some_iff.mp step
      obtain ⟨lines, written, explained⟩ := adds
      exact ⟨stands' sheet, lines, (lines_dedent dedented).trans written, explained⟩

/-- One step writes the lines of the causes that come first. -/
theorem Stands.step {opener : Option Int} {held : List (Text × Int)} {state next : Writing}
    (stands : Stands opener held state) {instruction : Instruction} (step : state.step instruction = some next)
    (occupied : ∀ line, instruction ≠ .literal [] line) :
    ∃ opener' held' first, Stands opener' held' next ∧ Adds first state next ∧
      ∀ rest, causes opener held (instruction :: rest) = first ++ causes opener' held' rest := by
  cases instruction with
  | literal text line =>
      obtain rfl := Option.some.inj step
      refine ⟨none, held ++ [(text, line)], [],
        ⟨stands.holds.append line fun empty => occupied line (empty ▸ rfl), ?_, stands.around⟩,
        ⟨[], (List.append_nil _).symm, .nil⟩, ?_⟩
      · exact .inr (List.append_ne_nil_of_right_ne_nil _ (List.cons_ne_nil _ _))
      · intro rest
        cases opener <;> rfl
  | insert code escape line =>
      obtain rfl := Option.some.inj step
      refine ⟨none, [], Cause.ofHeld held ++ ([.fragment code line] ++ [.value escape line]),
        ⟨.nil (held_flush (state.note line)), .inl rfl, stands.around_flush line⟩, ?_, ?_⟩
      · exact (stands.adds_flush line).trans
          ((adds_emit _ (.fragment code line)).trans (adds_emit _ (.value escape line)))
      · intro rest
        cases opener <;> simp [causes, Cause.ofBody, Cause.among]
  | exec code line =>
      obtain rfl := Option.some.inj step
      refine ⟨none, [], Cause.ofHeld held ++ [.statement code line],
        .emitted (held_flush _) (stands.around_flush line) _ _, ?_, ?_⟩
      · exact (stands.adds_flush line).trans (adds_emit _ (.statement code line))
      · intro rest
        cases opener <;> simp [causes, Cause.ofBody, Cause.among]
  | begin code arm line =>
      cases arm with
      | false =>
          obtain rfl := Option.some.inj step
          refine ⟨some line, [], Cause.ofHeld held ++ [.head code line],
            ⟨.nil (held_flush _), ⟨rfl, rfl⟩, List.forall_mem_cons.mpr ⟨rfl, stands.around_flush line⟩⟩, ?_, ?_⟩
          · exact (stands.adds_flush line).trans (adds_emit _ (.head code line))
          · intro rest
            cases opener <;> simp [causes, Cause.ofBody, Cause.among]
      | true =>
          obtain rfl := Option.some.inj step
          obtain ⟨idle, around⟩ := stands.filled line
          refine ⟨some line, [], (bodyCause opener line ++ Cause.ofHeld held) ++ [.head code line],
            ⟨.nil idle, ⟨rfl, rfl⟩, List.forall_mem_cons.mpr ⟨rfl, around⟩⟩, ?_, ?_⟩
          · exact (stands.adds_fill line).trans (.of_eq rfl)
          · intro rest
            cases opener <;> simp [causes, bodyCause, Cause.ofBody, Cause.among]
  | finish line =>
      obtain ⟨stands', adds⟩ := stands.finish step
      refine ⟨none, [], bodyCause opener line ++ Cause.ofHeld held, stands', adds, ?_⟩
      intro rest
      cases opener <;> simp [causes, bodyCause, Cause.ofBody, Cause.among]

/-- Running instructions writes the lines of their causes. -/
theorem Stands.run {opener : Option Int} {held : List (Text × Int)} {instructions : List Instruction}
    {state next : Writing} (stands : Stands opener held state) (run : state.run instructions = some next)
    (occupied : ∀ line, .literal [] line ∉ instructions) :
    Adds (causes opener held instructions) state next.flush := by
  induction instructions generalizing opener held state with
  | nil =>
      obtain rfl := Option.some.inj run
      have nothing : causes opener held [] = Cause.ofHeld held := by cases opener <;> rfl
      rw [nothing]
      exact .of_eq stands.holds.lines_flush
  | cons instruction rest ih =>
      obtain ⟨between, step, run⟩ := Option.bind_eq_some_iff.mp run
      obtain ⟨opener', held', first, stands', adds, same⟩ :=
        stands.step step fun line empty => occupied line (empty ▸ List.mem_cons_self)
      rw [same]
      exact adds.trans (ih stands' run fun line member => occupied line (List.mem_cons_of_mem _ member))

end Writing

/-- The suite of a tree has the lines that the causes in its plan lead to, in the same order. -/
theorem suite_explained (escape : Bool) (tree : Tree)
    (occupied : ∀ line, .literal [] line ∉ (tree.plan escape).instructions) :
    List.Forall₂ Cause.Explains ((suite escape 2 tree.body).map SuiteLine.generated)
      (Cause.among [] (tree.plan escape).instructions) := by
  obtain ⟨state, run, wrote⟩ := Writing.writes_nodes escape 2 tree.body opening rfl
  have lines : state.flush.sheet.lines = prologue.lines ++ (suite escape 2 tree.body).map SuiteLine.generated := by
    rw [Writing.lines_flush, wrote.lines, Writing.followedBy_of_held rfl, List.append_nil]
    rfl
  have stands : Writing.Stands none [] opening := ⟨.nil rfl, .inl rfl, nofun⟩
  obtain ⟨written, same, explained⟩ := stands.run run occupied
  obtain rfl := List.append_cancel_left (same.symm.trans lines)
  exact explained

end Routine
end Stencil
