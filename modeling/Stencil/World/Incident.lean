import Stencil.World.Iterate

/-!
# Making and reading errors

What the arguments of a new error say, which of them it refuses, and how an error reads as text: its only argument,
all its arguments as a tuple, or, for some kinds, a sentence about what went wrong.
-/

namespace Stencil
namespace Effect

/-- What the fields of an error hold, in the order of the fields. -/
def notes (names : List String) (values : List Value) : List (Text × Value) :=
  (names.map String.toList).zip values

/-- Refuse a number of arguments that a kind of error does not take. -/
def raiseMiscounted {α : Type} (bound : Text) (expected given : Nat) : Effect α :=
  raiseText .typing ("function takes " ++ bound ++ [' '] ++ Text.ofNat expected ++ " argument"
    ++ (if expected = 1 then [] else ['s']) ++ " (" ++ Text.ofNat given ++ " given)")

/-- Refuse an argument that is not a text. -/
def requireTextAt (lead : Text) (place : Nat) (value : Value) : Effect Unit :=
  requireTextFor (lead ++ "argument " ++ Text.ofNat place) value

/-- Refuse an argument that is not a number. -/
def requireNumber (value : Value) : Effect Unit :=
  if value.toInt?.isSome then return ()
  else raiseAbout value ['\''] "' object cannot be interpreted as an integer"

/-- An error about an operation of the system: with two to five arguments the first two are its number and
its text, and the third and the fifth name files. -/
def systemIncident (kind : ErrorKind) (arguments : List Value) : Incident :=
  let kind := match kind, arguments with
    | .system none, number :: _ :: _ => match number.toInt? with
      | some number => .system (SystemTrouble.ofNumber? number)
      | none => kind
    | _, _ => kind
  match arguments with
  | number :: text :: more =>
    let written := kind = .system (some .blocking) && (more.head?.bind Value.toInt?).isSome
    let kept := notes ["errno", "strerror"] [number, text]
    match more with
    | [] | .none :: _ => ⟨kind, arguments, kept, none, [], none⟩
    | file :: others =>
      if written then
        ⟨kind, arguments, kept ++ notes ["characters_written"] [file], none, [], none⟩
      else
        let second := match others with
          | [_, .none] | [] | [_] => []
          | _ :: second :: _ => notes ["filename2"] [second]
        ⟨kind, [number, text], kept ++ notes ["filename"] [file] ++ second, none, [], none⟩
  | _ => ⟨kind, arguments, [], none, [], none⟩

/-- An error about a malformed program: a second argument of two tells where. -/
def malformedIncident (call : Caller) (kind : ErrorKind) (arguments : List Value) : Effect Incident := do
  let message := notes ["msg"] (arguments.take 1)
  match arguments with
  | [_, place] =>
    let details ← valuesIn call place
    if details.length < 4 then raiseMiscounted "at least" 4 details.length
    else if 6 < details.length then raiseMiscounted "at most" 6 details.length
    else if details.length = 5 then
      raiseText .typing "end_offset must be provided when end_lineno is provided"
    else
      let places :=
        notes ["filename", "lineno", "offset", "text", "end_lineno", "end_offset"] details
      return ⟨kind, arguments, message ++ places, none, [], none⟩
  | _ => return ⟨kind, arguments, message, none, [], none⟩

/-- An error about a text that cannot be converted: the text, a stretch of it and a reason, behind the name of
an encoding unless the text is merely translated. -/
def unicodeIncident (kind : ErrorKind) (arguments : List Value) : Effect Incident := do
  let named := kind != .translating
  let (lead, rest) := if named then (arguments.take 1, arguments.drop 1) else ([], arguments)
  let count := if named then 5 else 4
  match rest with
  | [subject, first, last, reason] =>
    if lead.length + 4 ≠ count then raiseMiscounted "exactly" count arguments.length
    else
      for encoding in lead do
        requireTextAt [] 1 encoding
      if kind != .decoding then requireTextAt [] (count - 3) subject
      requireNumber first
      requireNumber last
      requireTextAt [] count reason
      if kind = .decoding then raiseAbout subject "a bytes-like object is required, not '" ['\'']
      else
        let details :=
          notes ["encoding"] lead ++ notes ["object", "start", "end", "reason"] rest
        return ⟨kind, arguments, details, none, [], none⟩
  | _ => raiseMiscounted "exactly" count arguments.length

/-- The values of a sequence. -/
def sequenceValues? (world : World) (value : Value) : Option (List Value) :=
  match value with
  | .text _ _ _ | .tuple _ _ | .range _ _ _ _ => world.valuesOf? value
  | _ => world.itemsOf? value

/-- The kinds of values that are errors; a value that is none is given by its place. -/
def kindsIn (world : World) : (place : Nat) → List Value → Except Nat (List ErrorKind)
  | _, [] => .ok []
  | place, value :: values => do
    match value with
    | .object address => match world.incident? address with
      | some incident => return incident.kind :: (← kindsIn world (place + 1) values)
      | none => throw place
    | _ => throw place

/-- An error that gathers others. -/
def groupIncident (kind : ErrorKind) (arguments : List Value) : Effect Incident := do
  let maker : Text := "BaseExceptionGroup.__new__() "
  match arguments with
  | [message, gathered] =>
    requireTextAt maker 1 message
    let world ← Effect.world
    match sequenceValues? world gathered with
    | none => raiseText .typing "second argument (exceptions) must be a sequence"
    | some [] => raiseText .value "second argument (exceptions) must be a non-empty sequence"
    | some errors => match kindsIn world 0 errors with
      | .error place => raiseText .value ("Item " ++ Text.ofNat place
          ++ " of second argument (exceptions) is not an exception")
      | .ok kinds =>
        let details := notes ["message", "exceptions"] [message, .tuple 0 errors]
        if kinds.all fun gathered => gathered.isA .exception then
          return ⟨.group, arguments, details, none, [], none⟩
        else if kind = .group then raiseText .typing "Cannot nest BaseExceptions in an ExceptionGroup"
        else return ⟨kind, arguments, details, none, [], none⟩
  | _ => raiseText .typing (maker ++ "takes exactly 2 arguments (" ++ Text.ofNat arguments.length
      ++ " given)")

/-- What a new error of a kind with some arguments is. -/
def newIncident (call : Caller) (kind : ErrorKind) (arguments : List Value) : Effect Incident :=
  let saying (attributes : List (Text × Value)) : Effect Incident :=
    return ⟨kind, arguments, attributes, none, [], none⟩
  if kind.isA (.system none) then return systemIncident kind arguments
  else if kind.isA .malformed then malformedIncident call kind arguments
  else match kind with
    | .decoding | .encoding | .translating => unicodeIncident kind arguments
    | .baseGroup | .group => groupIncident kind arguments
    | .stopIteration => saying (notes ["value"] (arguments.take 1))
    | .importing | .moduleMissing =>
      saying (if arguments.length = 1 then notes ["msg"] arguments else [])
    | .exit => saying (match arguments with
      | [] => []
      | [code] => notes ["code"] [code]
      | _ => notes ["code"] [.tuple 0 arguments])
    | _ => saying []

/-- Make a new error: its address. -/
def newError (call : Caller) (kind : ErrorKind) (arguments : List Value) : Effect Nat := do
  allocate (.error (← newIncident call kind arguments))

/-- The text of a value. -/
def plainText (call : Caller) (value : Value) : Effect Text := do
  return contentOf (← call (.builtin .text) [value])

/-- The last component of a written path. -/
def baseName (path : Text) : Text := ((Text.splitOn '/' path).getLast?).getD []

/-- The text of an error about an operation of the system. -/
def systemText (call : Caller) (number text : Value) (files : List Value) : Effect Text := do
  let lead := "[Errno " ++ (← plainText call number) ++ "] " ++ (← plainText call text)
  match files with
  | [] => return lead
  | [file] => return lead ++ ": " ++ (← shown file)
  | file :: other :: _ => return lead ++ ": " ++ (← shown file) ++ " -> " ++ (← shown other)

/-- The text of an error about a malformed program. -/
def malformedText (call : Caller) (message : Value) (file line : Option Value) : Effect Text := do
  let message ← plainText call message
  match file, line with
  | some (.text _ _ file), some (.int _ line) =>
    return message ++ " (" ++ baseName file ++ ", line " ++ Text.ofInt line ++ ")"
  | some (.text _ _ file), _ => return message ++ " (" ++ baseName file ++ ")"
  | _, some (.int _ line) => return message ++ " (line " ++ Text.ofInt line ++ ")"
  | _, _ => return message

/-- The text of an error about a text that cannot be converted. -/
def unicodeText (encoding : Option Text) (subject : Text) (first last : Int) (reason : Text) : Text :=
  let lead : Text := match encoding with
    | some encoding => ['\''] ++ encoding ++ "' codec can't encode character"
    | none => "can't translate character"
  let single := if last = first + 1 ∧ 0 ≤ first then subject[first.toNat]? else none
  let stretch : Text := match single with
    | some char =>
      let number := char.toNat
      let code : Text :=
        if number ≤ 0xFF then 'x' :: Quoted.hexadecimal 2 number
        else if number ≤ 0xFFFF then 'u' :: Quoted.hexadecimal 4 number
        else 'U' :: Quoted.hexadecimal 8 number
      " '\\" ++ code ++ "' in position " ++ Text.ofInt first
    | none => "s in position " ++ Text.ofInt first ++ ['-'] ++ Text.ofInt (last - 1)
  lead ++ stretch ++ ": " ++ reason

/-- The text of an error that its arguments make up. -/
def argumentsText (call : Caller) (incident : Incident) : Effect Text := do
  match incident.kind, incident.arguments with
  | .quiet, _ | _, [] => return []
  | .key, [argument] => shown argument
  | _, [argument] => plainText call argument
  | _, arguments => shown (.tuple 0 arguments)

/-- The text of an error that carries no report. -/
def incidentText (call : Caller) (incident : Incident) : Effect Text := do
  let field? (name : String) : Option Value := incident.attributes.lookup name.toList
  let kind := incident.kind
  if kind.isA (.system none) then
    match field? "errno", field? "strerror" with
    | some number, some text =>
      systemText call number text ((field? "filename").toList ++ (field? "filename2").toList)
    | _, _ => argumentsText call incident
  else if kind.isA .malformed then
    malformedText call ((field? "msg").getD .none) (field? "filename") (field? "lineno")
  else match kind, field? "message", field? "exceptions", field? "object" with
    | .baseGroup, some message, some (.tuple _ errors), _
    | .group, some message, some (.tuple _ errors), _ =>
      return (← plainText call message) ++ " (" ++ Text.ofNat errors.length ++ " sub-exception"
        ++ (if errors.length = 1 then [] else ['s']) ++ ")"
    | .encoding, _, _, some subject | .translating, _, _, some subject =>
      let number (name : String) : Int := ((field? name).bind Value.toInt?).getD 0
      return unicodeText ((field? "encoding").map contentOf) (contentOf subject) (number "start")
        (number "end") (((field? "reason").map contentOf).getD [])
    | _, _, _, _ => argumentsText call incident

end Effect
end Stencil
