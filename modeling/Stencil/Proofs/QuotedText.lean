import Stencil.Script.Literal
import Mathlib.Data.List.Induction
import Mathlib.Tactic.IntervalCases

/-!
# Quoted text is read back

The written form of a text has no line breaks, ends at its own closing quote, and stands for the text.
-/

namespace Stencil.Quoted

/-! ## Hexadecimal numerals -/

theorem hexadecimalDigit?_digitChar {digit : Nat} (small : digit < 16) :
    hexadecimalDigit? (Nat.digitChar digit) = some digit := by
  interval_cases digit <;> rfl

theorem hexadecimalValue?_snoc (digits : Text) (digit : Char) : hexadecimalValue? (digits ++ [digit]) =
    (hexadecimalValue? digits).bind fun value => (hexadecimalDigit? digit).map (value * 16 + ·) := by
  rw [hexadecimalValue?, List.foldlM_append]
  refine congrArg _ (funext fun value => ?_)
  simp

theorem hexadecimalValue?_toDigits (number : Nat) : hexadecimalValue? (Nat.toDigits 16 number) = some number := by
  induction number using Nat.strongRecOn with
  | _ number ih =>
      by_cases small : number < 16
      · rw [Nat.toDigits_of_lt_base small, ← List.nil_append [_], hexadecimalValue?_snoc,
          hexadecimalDigit?_digitChar small]
        simp [hexadecimalValue?]
      · have lower : number / 16 < number := by omega
        rw [Nat.toDigits_of_base_le (by omega) (by omega), hexadecimalValue?_snoc, ih _ lower,
          hexadecimalDigit?_digitChar (Nat.mod_lt _ (by omega))]
        simp only [Option.bind_some, Option.map_some, Option.some.injEq]
        omega

theorem hexadecimalValue?_hexadecimal (width number : Nat) :
    hexadecimalValue? (hexadecimal width number) = some number := by
  have zeros (count : Nat) : List.foldlM (fun value digit => (hexadecimalDigit? digit).map (value * 16 + ·)) 0
      (List.replicate count '0') = some 0 := by
    induction count with
    | zero => rfl
    | succ count ih => exact ih
  rw [hexadecimal, hexadecimalValue?, List.foldlM_append, zeros]
  exact hexadecimalValue?_toDigits number

theorem length_hexadecimal {width number : Nat} (occupied : 0 < width) (small : number < 16 ^ width) :
    (hexadecimal width number).length = width := by
  have := (Nat.length_toDigits_le_iff (by omega) occupied).mpr small
  simp only [hexadecimal, List.length_append, List.length_replicate]
  omega

theorem namedChar?_hexadecimal (width : Nat) (char : Char) : namedChar? (hexadecimal width char.toNat) = some char := by
  rw [namedChar?, hexadecimalValue?_hexadecimal, Option.map_some, Char.ofNat_toNat]

theorem isSome_of_hexadecimalValue? {digits : Text} {value : Nat} (known : hexadecimalValue? digits = some value) :
    ∀ digit ∈ digits, (hexadecimalDigit? digit).isSome := by
  induction digits using List.reverseRecOn generalizing value with
  | nil => simp
  | append_singleton digits last ih =>
      rw [hexadecimalValue?_snoc, Option.bind_eq_some_iff] at known
      obtain ⟨before, first, known⟩ := known
      rw [Option.map_eq_some_iff] at known
      obtain ⟨worth, same, -⟩ := known
      intro digit inside
      rcases List.mem_append.mp inside with inside | inside
      · exact ih first digit inside
      · rw [List.mem_singleton.mp inside, same]
        rfl

/-! ## Single code points -/

/-- The two quotes. -/
def IsQuote (quote : Char) : Prop := quote = '\'' ∨ quote = '"'

theorem decode?_simple {char meant : Char} (escape : simpleEscape? char = some meant)
    (other : char ∉ ['x', 'u', 'U', 'N', '\n']) (octal : isOctal char = false) (rest : Text) :
    decode? ('\\' :: char :: rest) = (decode? rest).map (meant :: ·) := by
  simp only [List.mem_cons, List.not_mem_nil, or_false, not_or] at other
  rw [decode?.eq_def]
  split
  case h_7 past same => exact absurd (List.cons.inj same).2.symm (past _ _ (List.cons.inj same).1.symm)
  all_goals simp_all

theorem decode?_plain {char : Char} (plain : char ≠ '\\') (rest : Text) :
    decode? (char :: rest) = (decode? rest).map (char :: ·) := by
  rw [decode?]
  all_goals simp [plain]

theorem decode?_encodeChar {quote : Char} (quoted : IsQuote quote) (char : Char) (rest : Text) :
    decode? (encodeChar quote char ++ rest) = (decode? rest).map (char :: ·) := by
  have hexadecimal (width : Nat) (occupied : 0 < width) (small : char.toNat < 16 ^ width) :
      (hexadecimal width char.toNat).length = width := length_hexadecimal occupied small
  have named (width : Nat) := namedChar?_hexadecimal width char
  have valid : char.toNat < 0x110000 := by
    have := char.valid
    simp only [UInt32.isValidChar, Nat.isValidChar] at this
    show char.val.toNat < _
    omega
  unfold encodeChar
  split
  · rename_i escaped
    rcases escaped with rfl | rfl
    · rcases quoted with rfl | rfl <;> exact decode?_simple rfl (by decide) rfl rest
    · exact decode?_simple rfl (by decide) rfl rest
  rename_i bare
  have plain : char ≠ '\\' := fun same => bare (.inr same)
  split
  · rename_i same
    subst same
    exact decode?_simple rfl (by decide) rfl rest
  split
  · rename_i same
    subst same
    exact decode?_simple rfl (by decide) rfl rest
  split
  · rename_i same
    subst same
    exact decode?_simple rfl (by decide) rfl rest
  split
  · exact decode?_plain plain rest
  split
  · exact decode?_plain plain rest
  split
  · rename_i small
    match Quoted.hexadecimal 2 char.toNat, hexadecimal 2 (by omega) (by omega), named 2 with
    | [a, b], _, named =>
        simp only [List.cons_append, List.nil_append, decode?, named]
        cases decode? rest <;> rfl
  split
  · rename_i small
    match Quoted.hexadecimal 4 char.toNat, hexadecimal 4 (by omega) (by omega), named 4 with
    | [a, b, c, d], _, named =>
        simp only [List.cons_append, List.nil_append, decode?, named]
        cases decode? rest <;> rfl
  · have small : char.toNat < 16 ^ 8 := by omega
    match Quoted.hexadecimal 8 char.toNat, hexadecimal 8 (by omega) small, named 8 with
    | [a, b, c, d, e, f, g, h], _, named =>
        simp only [List.cons_append, List.nil_append, decode?, named]
        cases decode? rest <;> rfl

/-- The code points that break a line of a script, or the script. -/
def breaking : List Char := ['\n', '\r', '\x00']

@[elab_as_elim]
theorem breaking_cases {property : Char → Prop} {char : Char} (breaks : char ∈ breaking) (feed : property '\n')
    (back : property '\r') (null : property '\x00') : property char := by
  simp only [breaking, List.mem_cons, List.not_mem_nil, or_false] at breaks
  rcases breaks with rfl | rfl | rfl
  · exact feed
  · exact back
  · exact null

/-- The written form of a code point is the code point, or a backslash with a character and hexadecimal digits. -/
theorem encodeChar_forms {quote : Char} (quoted : IsQuote quote) (char : Char) :
    (encodeChar quote char = [char] ∧ char ≠ quote ∧ char ≠ '\\' ∧ char ∉ breaking) ∨
      ∃ next digits, encodeChar quote char = '\\' :: next :: digits ∧ next ∉ breaking ∧
        ∀ digit ∈ digits, (hexadecimalDigit? digit).isSome := by
  have digits (width : Nat) := isSome_of_hexadecimalValue? (hexadecimalValue?_hexadecimal width char.toNat)
  unfold encodeChar
  split
  · rename_i escaped
    refine .inr ⟨char, [], rfl, ?_, by simp⟩
    rcases escaped with rfl | rfl
    · rcases quoted with rfl | rfl <;> decide
    · decide
  rename_i bare
  rw [not_or] at bare
  split
  · exact .inr ⟨'t', [], rfl, by decide, by simp⟩
  split
  · exact .inr ⟨'n', [], rfl, by decide, by simp⟩
  rename_i feed
  split
  · exact .inr ⟨'r', [], rfl, by decide, by simp⟩
  rename_i back
  have clean (other : char ≠ '\x00') : char ∉ breaking := by simp [breaking, feed, back, other]
  split
  · rename_i range
    refine .inl ⟨rfl, bare.1, bare.2, clean ?_⟩
    rintro rfl
    exact absurd range.1 (by decide)
  split
  · rename_i printable
    refine .inl ⟨rfl, bare.1, bare.2, clean ?_⟩
    rintro rfl
    exact absurd printable (by decide)
  split
  · exact .inr ⟨'x', _, rfl, by decide, digits 2⟩
  split
  · exact .inr ⟨'u', _, rfl, by decide, digits 4⟩
  · exact .inr ⟨'U', _, rfl, by decide, digits 8⟩

/-! ## Whole texts -/

/-- The inside of a literal. -/
def inside (quote : Char) (text : Text) : Text := text.flatMap (encodeChar quote)

theorem isQuote_quoteFor (text : Text) : IsQuote (quoteFor text) := by
  unfold quoteFor IsQuote
  split <;> simp

theorem decode?_inside {quote : Char} (quoted : IsQuote quote) (text : Text) :
    decode? (inside quote text) = some text := by
  induction text with
  | nil => simp [inside, decode?]
  | cons char text ih =>
      rw [inside, List.flatMap_cons, decode?_encodeChar quoted]
      exact congrArg _ ih

theorem digit_ne {digit other : Char} (known : (hexadecimalDigit? digit).isSome)
    (unknown : hexadecimalDigit? other = none) : digit ≠ other := by
  rintro rfl
  rw [unknown] at known
  cases known

/-- Nothing breaks the line of a literal. -/
theorem clean_inside {quote : Char} (quoted : IsQuote quote) (text : Text) {char : Char} (breaks : char ∈ breaking) :
    char ∉ inside quote text := by
  have unknown : hexadecimalDigit? char = none := breaking_cases breaks rfl rfl rfl
  have slash : char ≠ '\\' := breaking_cases breaks (by decide) (by decide) (by decide)
  intro member
  obtain ⟨other, -, found⟩ := List.mem_flatMap.mp member
  rcases encodeChar_forms quoted other with ⟨same, -, -, clean⟩ | ⟨next, digits, same, clean, known⟩
  · rw [same, List.mem_singleton] at found
    exact clean (found ▸ breaks)
  · rw [same, List.mem_cons, List.mem_cons] at found
    rcases found with found | found | found
    · exact slash found
    · exact clean (found ▸ breaks)
    · exact digit_ne (known _ found) unknown rfl

end Stencil.Quoted

namespace Stencil.Script

open Quoted

/-- A piece of the inside of a literal that does not end it. -/
theorem readShort_digits {quote : Char} (quoted : IsQuote quote) {digits : Text}
    (known : ∀ digit ∈ digits, (hexadecimalDigit? digit).isSome) {text inside rest : Text}
    (read : readShort quote text = .ok (inside, rest)) :
    readShort quote (digits ++ text) = .ok (digits ++ inside, rest) := by
  induction digits with
  | nil => exact read
  | cons digit digits ih =>
      have more := ih fun other inside => known other (.tail _ inside)
      have known := known digit (.head _)
      have feed : digit ≠ '\n' := digit_ne known rfl
      have slash : digit ≠ '\\' := digit_ne known rfl
      have close : digit ≠ quote := by rcases quoted with rfl | rfl <;> exact digit_ne known rfl
      simp [readShort, slash, close, more]

theorem readShort_inside {quote : Char} (quoted : IsQuote quote) (text rest : Text) :
    readShort quote (inside quote text ++ quote :: rest) = .ok (inside quote text, rest) := by
  have feed : quote ≠ '\n' := by rcases quoted with rfl | rfl <;> decide
  have slash : quote ≠ '\\' := by rcases quoted with rfl | rfl <;> decide
  induction text with
  | nil => simp [inside, readShort, slash]
  | cons char text ih =>
      rw [inside, List.flatMap_cons, List.append_assoc]
      rw [inside] at ih
      rcases encodeChar_forms quoted char with ⟨same, close, slash, clean⟩ | ⟨next, digits, same, -, known⟩
      · have feed : char ≠ '\n' := by
          rintro rfl
          exact clean (by decide)
        simp [same, readShort, slash, close, ih]
      · simp [same, readShort, readShort_digits quoted known ih]

/-- A literal is read up to its closing quote, when another character follows that. -/
theorem readLiteral_inside (place : Nat) {quote : Char} (quoted : IsQuote quote) (text : Text) {next : Char}
    (other : next ≠ quote) (rest : Text) :
    readLiteral place quote (inside quote text ++ quote :: next :: rest) = .ok (inside quote text, next :: rest) := by
  have plain : readPlain place quote (inside quote text ++ quote :: next :: rest) =
      .ok (inside quote text, next :: rest) := by
    rw [readPlain, readShort_inside quoted]
  rw [← plain]
  unfold readLiteral
  split
  · rename_i second third after same
    refine if_neg fun both => ?_
    cases text with
    | nil =>
        cases same
        exact other both.2
    | cons char text =>
        rw [inside, List.flatMap_cons] at same
        rcases encodeChar_forms quoted char with ⟨form, close, -⟩ | ⟨escaped, digits, form, -⟩
        · rw [form] at same
          exact close ((List.cons.inj same).1.trans both.1)
        · rw [form] at same
          have slash : quote = '\\' := ((List.cons.inj same).1.trans both.1).symm
          rcases quoted with rfl | rfl <;> cases slash
  · rfl

theorem token_inside {quote : Char} (quoted : IsQuote quote) (text : Text) :
    LiteralKind.token ⟨false, false, false⟩ (inside quote text) = .string text := by
  simp [LiteralKind.token, decode?_inside quoted]

end Stencil.Script
