import Stencil.Text.Case

/-!
# Error codes

Every kind of template error has a code that can be looked up in the documentation.
-/

namespace Stencil

/-- The codes of template errors. -/
inductive ErrorCode where
  | unterminatedInterpolation
  | unbalancedBlock
  | unmatchedCloser
  | malformedCloser
  | ambiguousArm
  | expressionSyntax
  | runtimeError
  | templateNotFound
  | templateUnreadable
  deriving DecidableEq, Repr

namespace ErrorCode

/-- All codes. -/
def all : List ErrorCode :=
  [unterminatedInterpolation, unbalancedBlock, unmatchedCloser, malformedCloser, ambiguousArm,
    expressionSyntax, runtimeError, templateNotFound, templateUnreadable]

/-- The stage that reports a code. -/
inductive Stage where
  | lexer | parser | codegen | runtime | template
  deriving DecidableEq, Repr

/-- The stage that reports a code. -/
def stage : ErrorCode → Stage
  | unterminatedInterpolation => .lexer
  | unbalancedBlock | unmatchedCloser | malformedCloser | ambiguousArm => .parser
  | expressionSyntax => .codegen
  | runtimeError => .runtime
  | templateNotFound | templateUnreadable => .template

/-- The name of a stage in words. -/
def Stage.name : Stage → Text
  | lexer => "lexer"
  | parser => "parser"
  | codegen => "codegen"
  | runtime => "runtime"
  | template => "template"

/-- The name of a stage inside a code. -/
def Stage.mark : Stage → Text
  | lexer => "LEX"
  | parser => "PAR"
  | codegen => "GEN"
  | runtime => "RUN"
  | template => "TPL"

/-- The number of a code within its stage. -/
def ordinal : ErrorCode → Nat
  | unterminatedInterpolation | unbalancedBlock | expressionSyntax | runtimeError
  | templateNotFound => 1
  | unmatchedCloser | templateUnreadable => 2
  | malformedCloser => 3
  | ambiguousArm => 4

/-- The written form of a code. -/
def toText (code : ErrorCode) : Text :=
  "KLN-" ++ code.stage.mark ++ "-00" ++ Text.ofNat code.ordinal

/-- The name of a code. -/
def name : ErrorCode → Text
  | unterminatedInterpolation => "UNTERMINATED_INTERPOLATION"
  | unbalancedBlock => "UNBALANCED_BLOCK"
  | unmatchedCloser => "UNMATCHED_CLOSER"
  | malformedCloser => "MALFORMED_CLOSER"
  | ambiguousArm => "AMBIGUOUS_ARM"
  | expressionSyntax => "EXPRESSION_SYNTAX"
  | runtimeError => "RUNTIME_ERROR"
  | templateNotFound => "TEMPLATE_NOT_FOUND"
  | templateUnreadable => "TEMPLATE_UNREADABLE"

/-- The documentation page of a code. -/
def documentation (code : ErrorCode) : Text :=
  "https://kiln.readthedocs.io/en/latest/errors/#" ++ code.toText.lower

/-- The code with a given written form. -/
def ofText? (text : Text) : Option ErrorCode := all.find? fun code => code.toText == text

end ErrorCode
end Stencil
