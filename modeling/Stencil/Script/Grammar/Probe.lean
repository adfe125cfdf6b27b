import Stencil.Script.Grammar.Tree
import Stencil.Script.Layout
import Std.Data.HashMap

/-!
# Probing a script

A probe looks for a piece of a script at a position.  It finds the piece, misses it, or refuses the script with a
message.  Alternatives are tried in order, and the first that finds its piece is taken; an alternative may rule out
those after it.  What a rule found at a position is kept, and so is how far the script has been looked at, since some
messages blame the last symbol that was looked at.
-/

namespace Stencil.Script

/-- The rules that are looked up by name: those that a piece of themselves can occur in, and those whose results are
kept. -/
inductive Rule where
  | statements | simpleStatement | block | elifBranch
  | starExpression | expression | plainExpression | namedExpression | comparedAssignment
  | disjunction | conjunction | inversion
  | bitwiseOr | bitwiseXor | bitwiseAnd | shift | sum | term | factor | awaited | primary | strings
  | arguments | starTarget | starAtomTarget | targetPrimary | singleTarget | deleteTarget
  | annotationTarget | pattern | closedPattern | starPattern | attributeName
  deriving DecidableEq, Hashable, Repr

/-- Whether what a rule found is kept. -/
def Rule.isKept : Rule → Bool
  | .statements | .elifBranch | .plainExpression | .namedExpression | .singleTarget | .annotationTarget
  | .pattern => false
  | _ => true

/-- What is looked at, and how closely. -/
structure Inquiry where
  entries : Array Entry
  ending : Ending
  /-- Whether to look for mistakes that can be explained. -/
  strict : Bool

/-- How far a probe has come. -/
structure Cursor where
  position : Nat
  /-- How many entries have been looked at. -/
  reached : Nat
  /-- What the rules found: the piece and the position behind it. -/
  kept : Std.HashMap (Rule × Nat) (Option (Tree × Nat))

/-- What comes of a probe. -/
inductive Outcome (α : Type) where
  | found (value : α) (cursor : Cursor)
  /-- Nothing was found; `committed` rules out the other alternatives. -/
  | missed (committed : Bool) (cursor : Cursor)
  /-- The script is refused.  If the symbols did not run out, the line of the last one that was looked at is
  known. -/
  | refused (refusal : Refusal) (seen : Option Nat)

/-- A search for a piece at the current position. -/
def Probe (α : Type) := Inquiry → Cursor → Outcome α

namespace Probe

/-- Probes are run one after the other, each where the one before it stopped. -/
instance : Monad Probe where
  pure value := fun _ cursor => .found value cursor
  bind probe next := fun inquiry cursor =>
    match probe inquiry cursor with
    | .found value after => next value inquiry after
    | .missed committed after => .missed committed after
    | .refused refusal seen => .refused refusal seen

variable {α β : Type}

/-- Find nothing. -/
def miss : Probe α := fun _ cursor => .missed false cursor

/-- Find nothing, and rule out the other alternatives. -/
def decline : Probe α := fun _ cursor => .missed true cursor

/-- From here on the other alternatives are ruled out. -/
def commit (probe : Probe α) : Probe α := fun inquiry cursor =>
  match probe inquiry cursor with
  | .missed _ after => .missed true after
  | outcome => outcome

/-- The first alternative that finds its piece. -/
def firstOf : List (Probe α) → Probe α
  | [] => miss
  | probe :: probes => fun inquiry cursor =>
    let start := cursor.position
    match probe inquiry cursor with
    | .missed false after => firstOf probes inquiry { after with position := start }
    | .missed true after => .missed false after
    | outcome => outcome

/-- A piece that may be absent. -/
def maybe (probe : Probe α) : Probe (Option α) := fun inquiry cursor =>
  let start := cursor.position
  match probe inquiry cursor with
  | .found value after => .found (some value) after
  | .missed _ after => .found none { after with position := start }
  | .refused refusal seen => .refused refusal seen

/-- A piece that comes next, without passing over it. -/
def ahead (probe : Probe α) : Probe Unit := fun inquiry cursor =>
  let start := cursor.position
  match probe inquiry cursor with
  | .found _ after => .found () { after with position := start }
  | .missed _ after => .missed false after
  | .refused refusal seen => .refused refusal seen

/-- A piece that must not come next. -/
def notAhead (probe : Probe α) : Probe Unit := fun inquiry cursor =>
  let start := cursor.position
  match probe inquiry cursor with
  | .found _ after => .missed false after
  | .missed _ after => .found () { after with position := start }
  | .refused refusal seen => .refused refusal seen

/-- Pieces one after the other, as many as there are and at most `count`. -/
def manyUpTo (probe : Probe α) : (count : Nat) → Probe (List α)
  | 0 => pure []
  | count + 1 => fun inquiry cursor =>
    let start := cursor.position
    match probe inquiry cursor with
    | .found value after =>
      match manyUpTo probe count inquiry after with
      | .found values last => .found (value :: values) last
      | outcome => outcome
    | .missed _ after => .found [] { after with position := start }
    | .refused refusal seen => .refused refusal seen

/-- Pieces one after the other, as many as there are. -/
def many (probe : Probe α) : Probe (List α) := fun inquiry cursor =>
  manyUpTo probe inquiry.entries.size inquiry cursor

/-- A piece that grows as long as a step finds more of it, at most `count` times. -/
def growUpTo (step : α → Probe α) : (count : Nat) → α → Probe α
  | 0, value => pure value
  | count + 1, value => fun inquiry cursor =>
    let start := cursor.position
    match step value inquiry cursor with
    | .found grown after => growUpTo step count grown inquiry after
    | .missed _ after => .found value { after with position := start }
    | .refused refusal seen => .refused refusal seen

/-- A piece that grows as long as a step finds more of it. -/
def grow (step : α → Probe α) (value : α) : Probe α := fun inquiry cursor =>
  growUpTo step inquiry.entries.size value inquiry cursor

/-- One piece or more. -/
def atLeastOne (probe : Probe α) : Probe (List α) := do
  let first ← probe
  return first :: (← many probe)

/-- One piece or more, with separators between them. -/
def separated (separator : Probe β) (probe : Probe α) : Probe (List α) := do
  let first ← probe
  return first :: (← many (do let _ ← separator; probe))

/-- Look for mistakes only when they are to be explained. -/
def whenStrict (probe : Probe α) : Probe α := fun inquiry cursor =>
  if inquiry.strict then probe inquiry cursor else .missed false cursor

/-- Look for a piece without looking for mistakes in it. -/
def leniently (probe : Probe α) : Probe α := fun inquiry cursor =>
  probe { inquiry with strict := false } cursor

/-- Note what a rule found at a position. -/
def Cursor.note (rule : Rule) (start : Nat) (result : Option (Tree × Nat)) : Cursor → Cursor
  | ⟨position, reached, kept⟩ => ⟨position, reached, kept.insert (rule, start) result⟩

/-- Keep what a rule finds. -/
def keep (rule : Rule) (probe : Probe Tree) : Probe Tree := fun inquiry cursor =>
  let start := cursor.position
  match cursor.kept[(rule, start)]? with
  | some (some (tree, stop)) => .found tree { cursor with position := stop }
  | some none => .missed false cursor
  | none =>
    match probe inquiry cursor with
    | .found tree after =>
      let stop := after.position
      .found tree (Cursor.note rule start (some (tree, stop)) after)
    | .missed _ after => .missed false (Cursor.note rule start none after)
    | .refused refusal seen => .refused refusal seen

/-- The next entry. -/
def entry : Probe Entry := fun inquiry cursor =>
  let next := cursor.position + 1
  match inquiry.entries[cursor.position]? with
  | some found => .found found { cursor with position := next, reached := max cursor.reached next }
  | none =>
    match inquiry.ending with
    | .complete => .missed false cursor
    | .stuck refusal | .refused refusal => .refused refusal none

/-- The line of the next entry. -/
def lineHere : Probe Nat := fun inquiry cursor =>
  let start := cursor.position
  match entry inquiry cursor with
  | .found found after => .found found.line { after with position := start }
  | .missed committed after => .missed committed after
  | .refused refusal seen => .refused refusal seen

/-- The entry before the current position. -/
def lastEntry : Probe Entry := fun inquiry cursor =>
  match inquiry.entries[cursor.position - 1]? with
  | some found => .found found cursor
  | none => .missed false cursor

/-- The next entry, if it passes a test. -/
def entryThat (test : Symbol → Bool) : Probe Entry := do
  let found ← entry
  if test found.symbol then return found else miss

/-- A symbol that is no token. -/
def symbol (wanted : Symbol) : Probe Nat := do return (← entryThat (· == wanted)).line

/-- A mark, with its line. -/
def mark (wanted : String) : Probe Nat := do
  return (← entryThat fun found => found == .token (.mark wanted.toList)).line

/-- A word, with its line. -/
def word (wanted : String) : Probe Nat := do
  return (← entryThat fun found => found == .token (.word wanted.toList)).line

/-- One of several marks, with its line. -/
def oneMark (wanted : List String) : Probe Nat := firstOf (wanted.map mark)

/-- One of several words, with its line. -/
def oneWord (wanted : List String) : Probe Nat := firstOf (wanted.map word)

/-- Pass over a piece without a value of its own. -/
def skip (probe : Probe α) : Probe Unit := do
  let _ ← probe
  return ()

/-- A piece of a certain form that starts here, with the parts that a probe finds. -/
def piece (form : Form) (probe : Probe (List Tree)) : Probe Tree := do
  let line ← lineHere
  let parts ← probe
  return .node form line parts

/-- A piece of a certain form that starts here, whose parts do not matter. -/
def whole (form : Form) (probe : Probe α) : Probe Tree := piece form (do let _ ← probe; return [])

/-- The line of the last entry that was looked at. -/
def seenLine (inquiry : Inquiry) (cursor : Cursor) : Nat :=
  ((inquiry.entries[cursor.reached - 1]?).map Entry.line).getD 1

/-- Refuse the script and blame a line. -/
def refuseAt (line : Nat) (message : Text) : Probe α := fun inquiry cursor =>
  .refused ⟨.form, message, line⟩ (some (seenLine inquiry cursor))

/-- Refuse the script and blame the last entry that was looked at. -/
def refuseLast (message : Text) : Probe α := fun inquiry cursor =>
  let line := seenLine inquiry cursor
  .refused ⟨.form, message, line⟩ (some line)

/-- Refuse the indentation of the last entry that was looked at. -/
def refuseIndent (message : Text) : Probe α := fun inquiry cursor =>
  let line := seenLine inquiry cursor
  .refused ⟨.indentation, message, line⟩ (some line)

/-- A mark that has to come next. -/
def demand (wanted : String) : Probe Nat := do
  let found ← entry
  if found.symbol == .token (.mark wanted.toList) then return found.line
  else refuseAt found.line ("expected '" ++ (wanted : Text) ++ "'")

/-- Refuse a piece that would have to be a target and cannot be one; otherwise rule out the other
alternatives. -/
def refuseTarget (purpose : Purpose) (tree : Tree) : Probe α :=
  match tree.badTarget? purpose with
  | some bad => refuseAt bad.line (badTargetMessage purpose bad)
  | none => decline

end Probe

/-- Look up rules by name. -/
abbrev Lookup := Rule → Probe Tree

end Stencil.Script
