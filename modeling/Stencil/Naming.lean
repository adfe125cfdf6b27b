import Stencil.Text.Case

/-!
# Names of template files

A class is named after its template: its name is cut before every capital, the last word becomes the suffix of
the file name and the others are joined with hyphens, all in lower case.
-/

namespace Stencil.Naming

/-- The words of the rest of a name, whose current word is given backwards. -/
def wordsFrom (word : Text) : Text → List Text
  | [] => [word.reverse]
  | char :: name =>
    if isUpperCase char then word.reverse :: wordsFrom [char] name
    else wordsFrom (char :: word) name

/-- The words of a name: every capital starts one, and so does the beginning of the name. -/
def words : Text → List Text
  | [] => []
  | char :: name => wordsFrom [char] name

/-- Why a name has no file name. -/
inductive NamingError where
  | emptyName
  deriving DecidableEq, Repr

/-- The description of a naming error. -/
def NamingError.message : NamingError → Text
  | emptyName => "context name must not be empty"

/-- The file name for a list of lower-case words: with a declared suffix every word belongs to the
stem, otherwise the last of several words is the suffix. -/
def fileNameOfWords (words : List Text) : Option Text → Text
  | some suffix => Text.join ['-'] words ++ '.' :: suffix.dropWhile (· == '.')
  | none =>
    match words with
    | [word] => word
    | words => Text.join ['-'] words.dropLast ++ '.' :: words.getLast?.getD []

/-- The file name of the template of a class. -/
def fileName (name : Text) (suffix : Option Text) : Except NamingError Text :=
  if name.isEmpty then .error .emptyName
  else .ok (fileNameOfWords ((words name).map Text.lower) suffix)

end Stencil.Naming
