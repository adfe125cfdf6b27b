import Stencil.Line.Basic
import Stencil.Text.Blank

/-!
# Reading the fragments of a line

The leftmost marker wins: two open braces start a fragment that runs to the next two close braces, and two
dollar signs start one that takes the rest of the line.  The literal runs around the fragments are kept
as they are, and empty ones are left out.
-/

namespace Stencil

/-- The markers that start a fragment. -/
inductive Marker where
  | braces
  | dollars
  deriving DecidableEq, Repr

/-- The first marker of a text, with what stands before and after it. -/
def Marker.first? : Text → Option (Text × Marker × Text)
  | '{' :: '{' :: after => some ([], .braces, after)
  | '$' :: '$' :: after => some ([], .dollars, after)
  | [] => none
  | char :: text =>
    match Marker.first? text with
    | none => none
    | some (before, marker, after) => some (char :: before, marker, after)

/-- What stands before and after the first two close braces. -/
def breakAtClose? : Text → Option (Text × Text)
  | '}' :: '}' :: after => some ([], after)
  | [] => none
  | char :: text =>
    match breakAtClose? text with
    | none => none
    | some (before, after) => some (char :: before, after)

theorem Marker.length_of_first? {text before after : Text} {marker : Marker}
    (found : Marker.first? text = some (before, marker, after)) :
    text.length = before.length + 2 + after.length := by
  fun_induction Marker.first? text generalizing before marker after with
  | case1 after => simp only [Option.some.injEq, Prod.mk.injEq] at found; simp [← found.1, ← found.2.2]; omega
  | case2 after => simp only [Option.some.injEq, Prod.mk.injEq] at found; simp [← found.1, ← found.2.2]; omega
  | case3 => simp at found
  | case4 => simp at found
  | case5 char text _ _ before marker after inner step =>
    simp only [Option.some.injEq, Prod.mk.injEq] at found
    have := step inner
    simp [← found.1, ← found.2.2]
    omega

theorem length_of_breakAtClose? {text before after : Text}
    (found : breakAtClose? text = some (before, after)) :
    text.length = before.length + 2 + after.length := by
  fun_induction breakAtClose? text generalizing before after with
  | case1 after => simp only [Option.some.injEq, Prod.mk.injEq] at found; simp [← found.1, ← found.2]; omega
  | case2 => simp at found
  | case3 => simp at found
  | case4 char text _ before after inner step =>
    simp only [Option.some.injEq, Prod.mk.injEq] at found
    have := step inner
    simp [← found.1, ← found.2]
    omega

/-- A literal run as a list of parts; an empty run is none. -/
def Part.run : Text → List Part
  | [] => []
  | char :: text => [.literal (char :: text)]

/-- The parts of the rest of a line that starts at `column`, or the column of a pair of open braces
that is never closed. -/
def scanFrom (column : Nat) (content : Text) : Except Nat (List Part) :=
  match found : Marker.first? content with
  | none => .ok (Part.run content)
  | some (before, .dollars, after) =>
    .ok (Part.run before ++
      [.fragment ⟨after.trim, column + before.length, column + content.length⟩])
  | some (before, .braces, after) =>
    let start := column + before.length
    match _closed : breakAtClose? after with
    | none => .error start
    | some (inside, rest) =>
      let stop := start + 2 + inside.length + 2
      match scanFrom stop rest with
      | .error unclosed => .error unclosed
      | .ok parts => .ok (Part.run before ++ .fragment ⟨inside.trim, start, stop⟩ :: parts)
termination_by content.length
decreasing_by
  have := Marker.length_of_first? found
  have := length_of_breakAtClose? _closed
  omega

/-- The parts of a line's content, or the column of a pair of open braces that is never closed. -/
def scan (content : Text) : Except Nat (List Part) := scanFrom 0 content

end Stencil
