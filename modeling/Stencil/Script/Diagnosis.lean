import Stencil.Script.Grammar.Statement

/-!
# Why a script is refused

The grammar is followed twice: first without looking for mistakes, to see how far it can be followed, then with the
mistakes that have messages of their own.  If no mistake is recognised, the last symbol that was looked at the first
time is to blame.  Some flaws of the tokens win over everything but an unexpected indentation, wherever they are,
and a bracket that is never closed is to blame for everything that seems wrong on later lines.
-/

namespace Stencil.Script

open Grammar

/-- What a rule looks for. -/
def Rule.probe (r : Lookup) : Rule → Probe Tree
  | .statements => Probe.whole .other (Grammar.statements r)
  | .simpleStatement => Grammar.simpleStatement r
  | .block => Grammar.block r
  | .elifBranch => Probe.whole .other (conditional r "elif")
  | .starExpression => Grammar.starExpression r
  | .expression => Grammar.expression r
  | .plainExpression => Probe.leniently (Grammar.plainExpression r)
  | .namedExpression => Grammar.namedExpression r
  | .comparedAssignment => Grammar.comparedAssignment r
  | .disjunction => joinedByWord "or" (r .conjunction)
  | .conjunction => joinedByWord "and" (r .inversion)
  | .inversion => Grammar.inversion r
  | .bitwiseOr => joined ["|"] (r .bitwiseXor)
  | .bitwiseXor => joined ["^"] (r .bitwiseAnd)
  | .bitwiseAnd => joined ["&"] (r .shift)
  | .shift => joined ["<<", ">>"] (r .sum)
  | .sum => joined ["+", "-"] (r .term)
  | .term => joined ["*", "/", "//", "%", "@"] (r .factor)
  | .factor => Grammar.factor r
  | .awaited => Grammar.awaited r
  | .primary => Grammar.primary r
  | .strings => Grammar.strings
  | .arguments => Grammar.arguments r
  | .starTarget => Grammar.starTarget r
  | .starAtomTarget => Grammar.starAtomTarget r
  | .targetPrimary => Grammar.targetPrimary r
  | .singleTarget => Grammar.singleTarget r
  | .deleteTarget => Grammar.deleteTarget r
  | .annotationTarget => Grammar.annotationTarget r
  | .pattern => Grammar.pattern r
  | .closedPattern => Grammar.closedPattern r
  | .starPattern => Grammar.starPattern
  | .attributeName => Grammar.attributeName

/-- Follow a rule; rules are nested at most `depth` times. -/
def follow : (depth : Nat) → Lookup
  | 0, _ => Probe.miss
  | depth + 1, rule =>
    let probe := rule.probe (follow depth)
    if rule.isKept then Probe.keep rule probe else probe

/-- How often rules may be nested. -/
def depthLimit : Nat := 6000

/-- Look at a script from its start, when so many of its entries have been looked at. -/
def inspect (layout : Layout) (strict : Bool) (reached : Nat) : Outcome Unit :=
  Grammar.script (follow depthLimit) ⟨layout.entries.toArray, layout.ending, strict⟩ ⟨0, reached, ∅⟩

/-- What is to blame when a refusal has been found before the symbols ran out: a later flaw of the tokens, or a
bracket that is never closed, if the last symbol that was looked at stands on a later line. -/
def Layout.judge (layout : Layout) (refusal : Refusal) (seen : Nat) : Refusal :=
  match layout.ending, layout.unclosed with
  | .refused found, _ => found
  | _, found :: _ => if found.line < seen then neverClosed found else refusal
  | _, [] => refusal

/-- What is to blame when no mistake has been recognised: the entry at which the grammar could not be followed. -/
def Layout.general (layout : Layout) (blamed seen : Nat) : Refusal :=
  let entryAt (reached : Nat) : Entry := (layout.entries[reached - 1]?).getD ⟨.finish, 1, 0⟩
  match (entryAt blamed).symbol with
  | .indent => ⟨.indentation, "unexpected indent", (entryAt seen).line⟩
  | .dedent => ⟨.indentation, "unexpected unindent", (entryAt seen).line⟩
  | _ => layout.judge ⟨.form, generalMessage, (entryAt blamed).line⟩ (entryAt seen).line

/-- What is to blame for a refusal that the grammar gives. -/
def Layout.settle (layout : Layout) (refusal : Refusal) : Option Nat → Refusal
  | some line => layout.judge refusal line
  | none => refusal

/-- Why a script is refused; absent when the grammar can be followed to its end. -/
def Layout.diagnose? (layout : Layout) : Option Refusal :=
  match inspect layout false 0 with
  | .found _ _ => none
  | .refused refusal seen => some (layout.settle refusal seen)
  | .missed _ first =>
    match inspect layout true first.reached with
    | .refused refusal seen => some (layout.settle refusal seen)
    | .missed _ second | .found _ second => some (layout.general first.reached second.reached)

end Stencil.Script
