import Stencil.Proofs.DirectRun
import Stencil.Proofs.QuotedText
import Stencil.Routine.Generate

/-!
# The lines of a routine

What the lines that the generator writes by itself are read as.
-/

namespace Stencil

open Script

namespace Routine

/-- The reading of a line that is one logical line of tokens, each with the brackets that are open after it. -/
def soleLine (tokens : List (Token × Nat)) : Reading :=
  .sole ⟨⟨0, 0⟩, tokens.map fun (token, depth) => ⟨token, 1, depth⟩, 1, 1⟩

/-- The state of the reading of a line alone, when tokens have been read and brackets are open. -/
def behind (tokens : List (Token × Nat)) (brackets : List Char) : LexState :=
  ⟨[], some ⟨⟨0, 0⟩, (tokens.map fun (token, depth) => ⟨token, 1, depth⟩).reverse, 1, 1⟩,
    brackets.map fun bracket => ⟨bracket, 1⟩, 1⟩

theorem lexFrom_literal (steps : Nat) {quote : Char} (quoted : Quoted.IsQuote quote) (text rest : Text)
    (tokens : List (Token × Nat)) :
    lexFrom (steps + 1) (behind tokens ['(']) (quote :: (Quoted.inside quote text ++ quote :: ')' :: rest)) =
      lexFrom steps (behind (tokens ++ [(.string text, 1)]) ['(']) (')' :: rest) := by
  have other : ')' ≠ quote := by rcases quoted with rfl | rfl <;> decide
  have dense : isBlank quote = false := by rcases quoted with rfl | rfl <;> decide
  have literal : lexWithin (behind tokens ['(']) quote (Quoted.inside quote text ++ quote :: ')' :: rest) =
      .ofToken (behind tokens ['(']) (lexLiteral ⟨false, false, false⟩ quote (behind tokens ['('])
        (Quoted.inside quote text ++ quote :: ')' :: rest)) := by
    rcases quoted with rfl | rfl <;> rfl
  have feeds : (Quoted.inside quote text).count '\n' = 0 := 
    List.count_eq_zero.mpr (Quoted.clean_inside quoted text (by decide))
  rw [lexFrom_cons steps rfl, literal, lexLiteral, readLiteral_inside _ quoted text other]
  simp only [feeds, token_inside quoted, LexStep.ofToken]
  congr 1
  simp [behind, LexState.push]

theorem appendLine_encode (text : Text) : Writing.appendLine (Quoted.encode text) =
    appendName ++ '(' :: Quoted.quoteFor text ::
      (Quoted.inside (Quoted.quoteFor text) text ++ [Quoted.quoteFor text, ')']) := by
  simp [Writing.appendLine, Quoted.encode, Quoted.inside]

/-- Nothing breaks the line that appends a literal. -/
theorem clean_appendLine (text : Text) {char : Char} (breaks : char ∈ Quoted.breaking) :
    char ∉ Writing.appendLine (Quoted.encode text) := by
  have quoted := Quoted.isQuote_quoteFor text
  have inside := Quoted.clean_inside quoted text breaks
  have opening : char ∉ appendName ++ ['('] :=
    Quoted.breaking_cases breaks (by decide) (by decide) (by decide)
  have quotes : ∀ quote, Quoted.IsQuote quote → char ∉ [quote, ')'] := by
    rintro quote (rfl | rfl)
    · exact Quoted.breaking_cases breaks (by decide) (by decide) (by decide)
    · exact Quoted.breaking_cases breaks (by decide) (by decide) (by decide)
  have around := quotes _ quoted
  have parts : Writing.appendLine (Quoted.encode text) = appendName ++ ['('] ++ [Quoted.quoteFor text] ++
      (Quoted.inside (Quoted.quoteFor text) text ++ [Quoted.quoteFor text, ')']) := by
    rw [appendLine_encode]
    simp
  rw [parts]
  simp only [List.mem_append, not_or] at opening ⊢
  exact ⟨⟨opening, fun first => around (List.mem_cons.mpr (.inl (List.mem_singleton.mp first)))⟩, inside, around⟩

theorem solid_appendLine (text : Text) : Solid (Writing.appendLine (Quoted.encode text)) where
  feeds := clean_appendLine text (by decide)
  returns := clean_appendLine text (by decide)
  starts := by
    rw [appendLine_encode]
    rintro _ ⟨⟩
    rfl

/-- The line that appends a literal. -/
theorem ofText_appendLine (text : Text) : Reading.ofText (Writing.appendLine (Quoted.encode text)) =
    soleLine [(.word appendName, 0), (.mark ['('], 1), (.string text, 1), (.mark [')'], 0)] := by
  have solid := solid_appendLine text
  rw [appendLine_encode] at solid ⊢
  have quoted := Quoted.isQuote_quoteFor text
  generalize Quoted.quoteFor text = quote at quoted solid ⊢
  have close (steps : Nat) : lexFrom (steps + 2)
      (behind [(.word appendName, 0), (.mark ['('], 1), (.string text, 1)] ['(']) (')' :: ['\n']) =
        soleLine [(.word appendName, 0), (.mark ['('], 1), (.string text, 1), (.mark [')'], 0)] := by
    cases steps <;> rfl
  have start (steps : Nat) : lexFrom (steps + 5) (.begun [] 1 0)
      (appendName ++ '(' :: quote :: (Quoted.inside quote text ++ quote :: ')' :: ['\n'])) =
        soleLine [(.word appendName, 0), (.mark ['('], 1), (.string text, 1), (.mark [')'], 0)] :=
    (lexFrom_literal (steps + 2) quoted text ['\n'] [(.word appendName, 0), (.mark ['('], 1)]).trans (close steps)
  rw [ofText_eq_lexFrom solid (List.cons_ne_nil _ _) (by rintro _ ⟨⟩; decide)]
  have name : appendName.length = 12 := rfl
  have enough : (appendName ++ '(' :: quote :: (Quoted.inside quote text ++ [quote, ')'])).length + 2 =
      (Quoted.inside quote text).length + 13 + 5 := by
    simp only [List.length_append, List.length_cons, List.length_nil, name]
    omega
  rw [enough, ← start ((Quoted.inside quote text).length + 13)]
  simp

/-- The line that assigns a fragment's value. -/
theorem ofText_valueLine {code : Text} (solid : Solid code) {line : LogicalLine}
    (alone : Reading.ofText code = .sole line) : Reading.ofText (valueName ++ " = " ++ code) =
      .sole ⟨⟨0, 0⟩, [⟨.word valueName, 1, 0⟩, ⟨.mark ['='], 1, 0⟩] ++ line.tokens.map (Placed.at 1), 1, 1⟩ := by
  obtain ⟨_, _, same, _, _, _, begun⟩ := lexFrom_of_sole solid alone
  have opening : Solid (valueName ++ " = ".toList) := ⟨by decide, by decide, by rintro _ ⟨⟩; rfl⟩
  have whole : Solid (valueName ++ " = " ++ code) := opening.append (List.cons_ne_nil _ _) solid.feeds solid.returns
  have start (steps : Nat) (rest : Text) : lexFrom (steps + 4) (.begun [] 1 0) (valueName ++ " = " ++ rest) =
      lexFrom steps ((LexState.begun [] 1 0).among []
        ⟨⟨0, 0⟩, [⟨.mark ['='], 1, 0⟩, ⟨.word valueName, 1, 0⟩], 1, 1⟩ 1) rest := rfl
  rw [ofText_eq_lexFrom whole (List.cons_ne_nil _ _) (by rintro _ ⟨⟩; decide)]
  have name : (valueName ++ " = ".toList).length = 14 := rfl
  have steps : (valueName ++ " = ".toList ++ code).length + 2 = code.length + 12 + 4 := by
    rw [List.length_append, name]
    omega
  have enough : code.length + ([] : Text).length < code.length + 12 := by simp
  rw [steps, List.append_assoc, start]
  obtain ⟨steps', _, read⟩ := lexFrom_among [] ⟨⟨0, 0⟩, [⟨.mark ['='], 1, 0⟩, ⟨.word valueName, 1, 0⟩], 1, 1⟩ 1 []
    solid.feeds rfl rfl begun enough
  rw [read, lexFrom_nil]
  rfl

/-- The line that appends a fragment's value. -/
theorem ofText_convertLine (escape : Bool) :
    Reading.ofText (Writing.appendLine (Writing.converter escape ++ ['('] ++ valueName ++ [')'])) =
      soleLine [(.word appendName, 0), (.mark ['('], 1), (.word (Writing.converter escape), 1), (.mark ['('], 2),
        (.word valueName, 2), (.mark [')'], 1), (.mark [')'], 0)] := by
  cases escape <;> rfl

/-- The line that does nothing. -/
theorem ofText_pass : Reading.ofText "pass" = soleLine [(.word "pass", 0)] := rfl

/-! ## The statements of the lines -/

/-- The statement that appends the value of an expression. -/
def appending (line : Nat) (argument : Expr) : Stmt :=
  .evaluate line (.call line (.name line appendName) [argument])

/-- The tokens of a line of a routine, on a given line. -/
def tokensOn (line : Nat) (tokens : List (Token × Nat)) : List Placed :=
  tokens.map fun (token, depth) => ⟨token, line, depth⟩

theorem readLine_appendLine (line : Nat) (text : Text) :
    readLine (tokensOn line [(.word appendName, 0), (.mark ['('], 1), (.string text, 1), (.mark [')'], 0)]) =
      some [appending line (.constant (.text text))] := by
  have read : readLine (tokensOn line
      [(.word appendName, 0), (.mark ['('], 1), (.string text, 1), (.mark [')'], 0)]) =
        some [appending line (.constant (.text (text ++ [])))] := rfl
  rw [read, List.append_nil]

/-- No expression starts with a star. -/
theorem barren_star {tokens : List Placed} (start : atMark "*" tokens) : Barren tokens := by
  cases tokens with
  | nil => cases start
  | cons placed tokens =>
      obtain ⟨token, line, depth⟩ := placed
      cases token with
      | mark mark =>
          obtain rfl := eq_of_beq start
          refine ⟨fun steps => ?_, rfl, rfl⟩
          cases steps <;> rfl
      | _ => cases start

theorem readLine_valueLine (line : Nat) {tokens : List Placed} {code : Expr}
    (read : readValue tokens = some (code, [])) :
    readLine (⟨.word valueName, line, 0⟩ :: ⟨.mark ['='], line, 0⟩ :: tokens) =
      some [.assign line [.name valueName] code] := by
  have star : atMark "*" tokens = false := by
    cases start : atMark "*" tokens with
    | false => rfl
    | true =>
        rw [readValue, (barren_star start).exprs] at read
        cases read
  have simple : readSimple (⟨.word valueName, line, 0⟩ :: ⟨.mark ['='], line, 0⟩ :: tokens) =
      readAssignment line [] (.name line valueName) (tokens.length + 2) (⟨.mark ['='], line, 0⟩ :: tokens) := rfl
  have equals : atMark "=" (⟨.mark ['='], line, 0⟩ :: tokens) = true := rfl
  have assignment : readAssignment line [] (.name line valueName) (tokens.length + 2)
      (⟨.mark ['='], line, 0⟩ :: tokens) = some (.assign line [.name valueName] code, []) := by
    rw [readAssignment]
    simp only [equals, List.tail_cons, star, Bool.and_false, Bool.false_eq_true, if_false, if_true, read]
    rfl
  rw [readLine, readSimples, simple, assignment]
  rfl

theorem readLine_convertLine (escape : Bool) (line : Nat) :
    readLine (tokensOn line [(.word appendName, 0), (.mark ['('], 1), (.word (Writing.converter escape), 1),
      (.mark ['('], 2), (.word valueName, 2), (.mark [')'], 1), (.mark [')'], 0)]) =
      some [appending line (.call line (.name line (Writing.converter escape)) [.name line valueName])] := by
  cases escape <;> rfl

end Routine
end Stencil
