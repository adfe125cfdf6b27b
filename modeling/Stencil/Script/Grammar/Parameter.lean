import Stencil.Script.Grammar.Name

/-!
# The grammar of parameters

The parameters of functions with names and of those without are alike; the former may be annotated and end at a
round bracket, the latter end at a colon.
-/

namespace Stencil.Script.Grammar

open Probe

/-- Where parameters stand. -/
inductive ParameterStyle where
  | named
  | bare
  deriving DecidableEq, Repr

/-- The mark behind the parameters. -/
def ParameterStyle.closer : ParameterStyle → String
  | .named => ")"
  | .bare => ":"

/-- The end of a parameter: a comma, or the end of all parameters. -/
def parameterEnd (style : ParameterStyle) : Probe Unit :=
  firstOf [skip (mark ","), ahead (mark style.closer)]

/-- The annotation of a parameter, where there may be one. -/
def annotation (r : Lookup) (style : ParameterStyle) : Probe Unit :=
  if style = .named then skip (maybe do
    let _ ← mark ":"
    r .expression)
  else pure ()

/-- A parameter. -/
def parameter (r : Lookup) (style : ParameterStyle) : Probe Tree := do
  let found ← name
  annotation r style
  return found

/-- The default value of a parameter. -/
def defaultValue (r : Lookup) : Probe Unit :=
  firstOf
    [do
      let _ ← mark "="
      skip (r .expression),
     whenStrict do
      let line ← mark "="
      ahead (oneMark [")", ","])
      refuseAt line "expected default value expression"]

/-- A parameter without a default value. -/
def parameterWithout (r : Lookup) (style : ParameterStyle) : Probe Tree := do
  let found ← parameter r style
  parameterEnd style
  return found

/-- A parameter with a default value. -/
def parameterWith (r : Lookup) (style : ParameterStyle) : Probe Tree := do
  let found ← parameter r style
  defaultValue r
  parameterEnd style
  return found

/-- A parameter that may have a default value. -/
def parameterMaybeWith (r : Lookup) (style : ParameterStyle) : Probe Tree := do
  let found ← parameter r style
  let _ ← maybe (defaultValue r)
  parameterEnd style
  return found

/-- Parameters without default values in front of a slash. -/
def slashWithout (r : Lookup) (style : ParameterStyle) : Probe Unit := do
  let _ ← atLeastOne (parameterWithout r style)
  let _ ← mark "/"
  parameterEnd style

/-- Parameters in front of a slash, of which the last have default values. -/
def slashWith (r : Lookup) (style : ParameterStyle) : Probe Unit := do
  let _ ← many (parameterWithout r style)
  let _ ← atLeastOne (parameterWith r style)
  let _ ← mark "/"
  parameterEnd style

/-- The parameter for all other arguments by name, written in a way that it cannot be. -/
def restMistake (r : Lookup) (style : ParameterStyle) : Probe Unit :=
  firstOf
    [do
      let _ ← mark "**"
      let _ ← parameter r style
      let line ← mark "="
      refuseAt line "var-keyword argument cannot have default value",
     do
      let _ ← mark "**"
      let _ ← parameter r style
      let _ ← mark ","
      let found ← parameter r style
      refuseAt found.line "arguments cannot follow var-keyword argument",
     do
      let _ ← mark "**"
      let _ ← parameter r style
      let _ ← mark ","
      let line ← oneMark ["*", "**", "/"]
      refuseAt line "arguments cannot follow var-keyword argument"]

/-- The parameter for all other arguments by name. -/
def restParameter (r : Lookup) (style : ParameterStyle) : Probe Unit :=
  firstOf
    [whenStrict (restMistake r style),
     do
      let _ ← mark "**"
      skip (parameterWithout r style)]

/-- The parameters from the star on, written in a way that they cannot be. -/
def starMistake (r : Lookup) (style : ParameterStyle) : Probe Unit :=
  firstOf
    [do
      let line ← mark "*"
      firstOf
        [skip (mark style.closer),
         do
          let _ ← mark ","
          skip (oneMark [style.closer, "**"])]
      if style = .named then refuseAt line "named arguments must follow bare *"
      else refuseLast "named arguments must follow bare *",
     do
      let _ ← mark "*"
      let _ ← parameter r style
      let line ← mark "="
      refuseAt line "var-positional argument cannot have default value",
     do
      let _ ← mark "*"
      firstOf [skip (parameterWithout r style), skip (mark ",")]
      let _ ← many (parameterMaybeWith r style)
      let line ← mark "*"
      firstOf [skip (parameterWithout r style), skip (mark ",")]
      refuseAt line "* argument may appear only once"]

/-- A parameter behind a star whose annotation is behind a star too. -/
def starAnnotated (r : Lookup) (style : ParameterStyle) : Probe Unit :=
  if style = .named then do
    let _ ← name
    let _ ← mark ":"
    let _ ← r .starExpression
    parameterEnd style
  else miss

/-- The parameters from the star on. -/
def starParameters (r : Lookup) (style : ParameterStyle) : Probe Unit :=
  let after (first : Probe Unit) : Probe Unit := do
    let _ ← mark "*"
    first
    let _ ← many (parameterMaybeWith r style)
    skip (maybe (restParameter r style))
  firstOf
    [whenStrict (starMistake r style),
     after (skip (parameterWithout r style)),
     after (starAnnotated r style),
     do
      let _ ← mark "*"
      let _ ← mark ","
      let _ ← atLeastOne (parameterMaybeWith r style)
      skip (maybe (restParameter r style)),
     restParameter r style]

/-- Parameters in an order that they cannot have. -/
def parametersMistake (r : Lookup) (style : ParameterStyle) : Probe Unit :=
  let slashes : Probe Unit := firstOf [slashWithout r style, slashWith r style]
  firstOf
    [do
      let _ ← many (parameterWithout r style)
      firstOf [slashWith r style, skip (atLeastOne (parameterWith r style))]
      let found ← parameterWithout r style
      refuseAt found.line "non-default argument follows default argument",
     do
      let _ ← many (parameterWithout r style)
      let line ← mark "("
      if style = .named then
        let _ ← atLeastOne (parameterWithout r style)
      else
        let _ ← separated (mark ",") name
      let _ ← maybe (mark ",")
      let _ ← mark ")"
      refuseAt line
        (if style = .named then ("Function parameters cannot be parenthesized" : Text)
         else "Lambda expression parameters cannot be parenthesized"),
     do
      let line ← mark "/"
      let _ ← mark ","
      refuseAt line "at least one argument must precede /",
     do
      slashes
      let _ ← many (parameterMaybeWith r style)
      let line ← mark "/"
      refuseAt line "/ may appear only once",
     do
      let _ ← maybe slashes
      let _ ← many (parameterMaybeWith r style)
      let _ ← mark "*"
      firstOf [skip (mark ","), skip (parameterWithout r style)]
      let _ ← many (parameterMaybeWith r style)
      let line ← mark "/"
      refuseAt line "/ must be ahead of *",
     do
      let _ ← atLeastOne (parameterMaybeWith r style)
      let _ ← mark "/"
      let line ← mark "*"
      refuseAt line "expected comma between / and *"]

/-- The parameters of a function. -/
def parameters (r : Lookup) (style : ParameterStyle) : Probe Unit :=
  let without := parameterWithout r style
  let withDefault := parameterWith r style
  let star := skip (maybe (starParameters r style))
  firstOf
    [whenStrict (parametersMistake r style),
     do
      slashWithout r style
      let _ ← many without
      let _ ← many withDefault
      star,
     do
      slashWith r style
      let _ ← many withDefault
      star,
     do
      let _ ← atLeastOne without
      let _ ← many withDefault
      star,
     do
      let _ ← atLeastOne withDefault
      star,
     starParameters r style]

end Stencil.Script.Grammar
