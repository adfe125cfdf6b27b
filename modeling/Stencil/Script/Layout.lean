import Stencil.Script.Token

/-!
# The layout of a script

The indentations of the logical lines are made into symbols of their own: one where a suite begins, and one for
every suite that ends.  A line that ends suites must be indented as far as one of the lines before it, and tabs must
not decide how far a line is indented.
-/

namespace Stencil.Script

/-- What a script is a sequence of. -/
inductive Symbol where
  | token (token : Token)
  | newline
  | indent
  | dedent
  | finish
  deriving DecidableEq, Repr

/-- A symbol with its place. -/
structure Entry where
  symbol : Symbol
  line : Nat
  /-- How many brackets are open after it. -/
  depth : Nat
  deriving DecidableEq, Repr

/-- A script as a sequence of symbols. -/
structure Layout where
  entries : List Entry
  /-- The brackets that are open at the end, innermost first. -/
  unclosed : List OpenBracket
  ending : Ending
  deriving DecidableEq, Repr

/-- How many indentations may be open at once, the outermost one included. -/
def indentLimit : Nat := 100

/-- The refusal of a line whose indentation depends on the width of a tab. -/
def mixedTabs (line : Nat) : Refusal :=
  ⟨.tabs, "inconsistent use of tabs and spaces in indentation", line⟩

/-- Leave the indentations that are wider than a line's, and count them. -/
def leaveWider (indent : Indent) : List Indent → Nat × List Indent
  | [] => (0, [])
  | open' :: outer =>
    if indent.wide < open'.wide then
      let (count, rest) := leaveWider indent outer
      (count + 1, rest)
    else (0, open' :: outer)

/-- Compare a line's indentation with those that are open, innermost first: the symbols in front of the line, and
the indentations that are open in it. -/
def enterLine (line : LogicalLine) (opened : List Indent) : Except Refusal (List Symbol × List Indent) :=
  let (count, rest) := leaveWider line.indent opened
  match rest with
  | [] => .ok ([], opened)
  | found :: _ =>
    if line.indent.wide = found.wide then
      if line.indent.narrow = found.narrow then .ok (List.replicate count .dedent, rest)
      else .error (mixedTabs line.start)
    else if 0 < count then
      .error ⟨.indentation, "unindent does not match any outer indentation level", line.start⟩
    else if indentLimit ≤ opened.length then
      .error ⟨.indentation, "too many levels of indentation", line.start⟩
    else if line.indent.narrow ≤ found.narrow then .error (mixedTabs line.start)
    else .ok ([.indent], line.indent :: opened)

/-- The entries of the tokens of a logical line. -/
def LogicalLine.entries (line : LogicalLine) : List Entry :=
  line.tokens.map fun placed => ⟨.token placed.token, placed.line, placed.depth⟩

/-- The entries of the symbols in front of a logical line. -/
def LogicalLine.leading (line : LogicalLine) (symbols : List Symbol) : List Entry :=
  symbols.map fun symbol => ⟨symbol, line.start, 0⟩

/-- The entries of a list of logical lines, the indentations that are open at their end, and why a line cannot
stand where it stands. -/
def layLines (opened : List Indent) : List LogicalLine → List Entry × Except Refusal (List Indent)
  | [] => ([], .ok opened)
  | line :: lines =>
    match enterLine line opened with
    | .error refusal => ([], .error refusal)
    | .ok (symbols, opened) =>
      let (entries, result) := layLines opened lines
      (line.leading symbols ++ line.entries ++ ⟨.newline, line.stop, 0⟩ :: entries, result)

/-- The layout of a script. -/
def Layout.ofReading (reading : Reading) : Layout :=
  match layLines [⟨0, 0⟩] reading.lines with
  | (entries, .error refusal) => ⟨entries, [], .stuck refusal⟩
  | (entries, .ok opened) =>
    match reading.unfinished with
    | some line =>
      match enterLine line opened with
      | .error refusal => ⟨entries, [], .stuck refusal⟩
      | .ok (symbols, _) =>
        ⟨entries ++ line.leading symbols ++ line.entries, reading.unclosed, reading.ending⟩
    | none =>
      match reading.ending with
      | .complete =>
        let stop := (reading.lines.getLast?.map LogicalLine.stop).getD 1
        ⟨entries ++ List.replicate (opened.length - 1) ⟨.dedent, stop, 0⟩ ++ [⟨.finish, stop, 0⟩], [], .complete⟩
      | ending => ⟨entries, reading.unclosed, ending⟩

end Stencil.Script
