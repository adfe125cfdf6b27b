import Stencil.Script.Grammar.Expression

/-!
# The grammar of patterns

What the subject of a choice can be compared with.
-/

namespace Stencil.Script.Grammar

open Probe

/-- A number, which may be negative. -/
def signedNumber : Probe Unit := do
  let _ ← maybe (mark "-")
  skip number

/-- A number of a kind that complex numbers are made of. -/
def numberThat (test : Token → Bool) (message : Text) : Probe Unit := do
  let found ← entryThat fun found => match found with
    | .token (.integer _) | .token (.vast _) | .token .fraction | .token .imaginary => true
    | _ => false
  match found.symbol with
  | .token token => if test token then pure () else refuseAt found.line message
  | _ => miss

/-- A complex number. -/
def complexNumber : Probe Unit := do
  let _ ← maybe (mark "-")
  numberThat (· != .imaginary) "real number required in complex literal"
  let _ ← oneMark ["+", "-"]
  numberThat (· == .imaginary) "imaginary number required in complex literal"

/-- A literal that a pattern can be. -/
def literalPattern (r : Lookup) : Probe Unit :=
  firstOf
    [do
      signedNumber
      notAhead (oneMark ["+", "-"]),
     complexNumber,
     skip (r .strings),
     skip (oneWord ["None", "True", "False"])]

/-- A name that a value is bound to. -/
def captureName : Probe Tree := do
  notAhead (word "_")
  let found ← name
  notAhead (oneMark [".", "(", "="])
  return found

/-- A name, or an attribute of one. -/
def attributeName : Probe Tree := do
  let first ← name
  grow (fun _ => attributeTrailer first.line) first

/-- An attribute of a name. -/
def dottedValue (r : Lookup) : Probe Unit := do
  let found ← r .attributeName
  if found.form == .attribute then pure () else miss

/-- A pattern that may stand behind a star. -/
def maybeStarPattern (r : Lookup) : Probe Tree := firstOf [r .starPattern, r .pattern]

/-- Patterns with commas between them. -/
def sequenceInside (r : Lookup) : Probe Unit := do
  let _ ← separated (mark ",") (maybeStarPattern r)
  skip (maybe (mark ","))

/-- Patterns with at least one comma. -/
def openSequence (r : Lookup) : Probe Unit := do
  let _ ← maybeStarPattern r
  let _ ← mark ","
  skip (maybe (sequenceInside r))

/-- The rest of a mapping. -/
def restPattern : Probe Unit := do
  let _ ← mark "**"
  skip captureName

/-- An entry of a mapping. -/
def mappingEntry (r : Lookup) : Probe Unit := do
  firstOf [literalPattern r, dottedValue r]
  let _ ← mark ":"
  skip (r .pattern)

/-- The inside of a mapping. -/
def mappingInside (r : Lookup) : Probe Unit :=
  firstOf
    [skip (mark "\x7d"),
     do
      restPattern
      let _ ← maybe (mark ",")
      skip (mark "\x7d"),
     do
      let _ ← separated (mark ",") (mappingEntry r)
      let _ ← mark ","
      restPattern
      let _ ← maybe (mark ",")
      skip (mark "\x7d"),
     do
      let _ ← separated (mark ",") (mappingEntry r)
      let _ ← maybe (mark ",")
      skip (mark "\x7d")]

/-- Patterns for the positional parts of a class, by the first of them. -/
def positionalPatterns (r : Lookup) : Probe Tree := do
  let found ← separated (mark ",") (r .pattern)
  match found with
  | first :: _ => return first
  | [] => miss

/-- Patterns for the named parts of a class. -/
def namedPatterns (r : Lookup) : Probe Unit :=
  skip (separated (mark ",") do
    let _ ← name
    let _ ← mark "="
    r .pattern)

/-- A pattern for the instances of a class. -/
def classPattern (r : Lookup) : Probe Unit :=
  let inside (parts : Probe Unit) : Probe Unit := do
    let _ ← r .attributeName
    let _ ← mark "("
    parts
    skip (mark ")")
  firstOf
    [inside (pure ()),
     inside do
      let _ ← positionalPatterns r
      skip (maybe (mark ",")),
     inside do
      namedPatterns r
      skip (maybe (mark ",")),
     inside do
      let _ ← positionalPatterns r
      let _ ← mark ","
      namedPatterns r
      skip (maybe (mark ",")),
     whenStrict do
      let _ ← r .attributeName
      let _ ← mark "("
      let _ ← maybe do
        let _ ← positionalPatterns r
        mark ","
      namedPatterns r
      let _ ← mark ","
      let bad ← positionalPatterns r
      refuseAt bad.line "positional patterns follow keyword patterns"]

/-- A pattern without alternatives. -/
def closedPattern (r : Lookup) : Probe Tree :=
  whole .other (firstOf
    [literalPattern r,
     skip captureName,
     skip (word "_"),
     do
      dottedValue r
      notAhead (oneMark [".", "(", "="]),
     do
      let _ ← mark "("
      let _ ← r .pattern
      skip (mark ")"),
     do
      let _ ← mark "["
      let _ ← maybe (sequenceInside r)
      skip (mark "]"),
     do
      let _ ← mark "("
      let _ ← maybe (openSequence r)
      skip (mark ")"),
     do
      let _ ← mark "\x7b"
      mappingInside r,
     classPattern r])

/-- A pattern behind a star. -/
def starPattern : Probe Tree :=
  whole .other do
    let _ ← mark "*"
    firstOf [skip captureName, skip (word "_")]

/-- Patterns of which one has to fit. -/
def alternatives (r : Lookup) : Probe Unit := skip (separated (mark "|") (r .closedPattern))

/-- A pattern. -/
def pattern (r : Lookup) : Probe Tree :=
  whole .other (firstOf
    [do
      alternatives r
      let _ ← word "as"
      skip captureName,
     whenStrict (firstOf
      [do
        alternatives r
        let _ ← word "as"
        let line ← word "_"
        refuseAt line "cannot use '_' as a target",
       do
        alternatives r
        let _ ← word "as"
        notAhead name
        let bad ← r .expression
        refuseAt bad.line "invalid pattern target"]),
     alternatives r])

/-- The patterns of an arm. -/
def patterns (r : Lookup) : Probe Unit := firstOf [openSequence r, skip (r .pattern)]

end Stencil.Script.Grammar
