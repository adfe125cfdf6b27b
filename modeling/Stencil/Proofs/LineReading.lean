import Mathlib.Data.List.Infix
import Stencil.Proofs.Trimming
import Stencil.Script.Lex

/-!
# Reading inside of a line

A reader of numbers or of literals that succeeds inside of a line never looks past the end of the line: whatever
lines follow, it takes the same from the line and leaves the same of it.
-/

namespace Stencil.Script

variable {ε δ α β : Type}

/-- Whether a reader that succeeds on a line takes the same from it whatever lines follow. -/
def LocalAt (read : Text → Except ε (α × Text)) (line : Text) : Prop :=
  ∀ ⦃found rest⦄, read (line ++ ['\n']) = .ok (found, rest) →
    ∃ left, rest = left ++ ['\n'] ∧ left <:+ line ∧
      ∀ more, read (line ++ '\n' :: more) = .ok (found, left ++ '\n' :: more)

/-- A reader that takes from a line without line feeds the same whatever lines follow. -/
def Local (read : Text → Except ε (α × Text)) : Prop := ∀ ⦃line⦄, '\n' ∉ line → LocalAt read line

theorem LocalAt.of_eq {read read' : Text → Except ε (α × Text)} {line line' : Text}
    (inner : LocalAt read' line') (suffix : line' <:+ line)
    (same : ∀ more, read (line ++ '\n' :: more) = read' (line' ++ '\n' :: more)) : LocalAt read line := by
  intro found rest result
  rw [same] at result
  obtain ⟨left, rfl, suffix', more⟩ := inner result
  exact ⟨left, rfl, suffix'.trans suffix, fun text => (same text).trans (more text)⟩

theorem LocalAt.stop {read : Text → Except ε (α × Text)} {line : Text} (found : α)
    (same : ∀ more, read (line ++ '\n' :: more) = .ok (found, line ++ '\n' :: more)) : LocalAt read line := by
  intro other rest result
  rw [same] at result
  cases result
  exact ⟨line, rfl, List.suffix_rfl, same⟩

theorem LocalAt.refused {read : Text → Except ε (α × Text)} {line : Text}
    (fails : ∀ result, read (line ++ ['\n']) ≠ .ok result) : LocalAt read line :=
  fun _ _ result => absurd result (fails _)

theorem LocalAt.andThen {read : Text → Except ε (α × Text)} {whole : Text → Except δ (β × Text)}
    {next : α → Text → Except δ (β × Text)} {line : Text} (clean : '\n' ∉ line)
    (first : LocalAt read line) (second : ∀ found, Local (next found))
    (passed : ∀ {text found rest}, read text = .ok (found, rest) → whole text = next found rest)
    (failed : ∀ {text reason}, read text = .error reason → ∃ reason', whole text = .error reason') :
    LocalAt whole line := by
  intro found rest result
  cases step : read (line ++ ['\n']) with
  | error reason =>
      obtain ⟨reason', failure⟩ := failed step
      rw [failure] at result
      cases result
  | ok middle =>
      rw [passed step] at result
      obtain ⟨left, same, suffix, more⟩ := first step
      have still : '\n' ∉ left := fun feed => clean (suffix.subset feed)
      rw [same] at result
      obtain ⟨last, rfl, suffix', more'⟩ := second middle.1 still result
      exact ⟨last, rfl, suffix'.trans suffix, fun text => (passed (more text)).trans (more' text)⟩

theorem Local.pure (found : α) : Local fun text => (.ok (found, text) : Except ε (α × Text)) :=
  fun _ _ => .stop found fun _ => rfl

theorem readDigits_digit {isDigit : Char → Bool} {char : Char} (digit : isDigit char = true) (other : char ≠ '_')
    (text : Text) : readDigits isDigit (char :: text) = match readDigits isDigit text with
      | .ok (digits, rest) => .ok (char :: digits, rest)
      | .error rest => .error rest := by
  rw [readDigits, if_pos digit] <;> first | rfl | exact other

theorem local_readDigits {isDigit : Char → Bool} (feed : isDigit '\n' = false) :
    Local (readDigits isDigit) := by
  intro line
  induction line with
  | nil => exact fun _ => .stop [] fun more => by simp [readDigits, feed]
  | cons char line ih =>
      intro clean
      rw [List.mem_cons, not_or] at clean
      by_cases score : char = '_'
      · subst score
        cases line with
        | nil => exact .refused (by simp [readDigits, feed])
        | cons next line =>
            cases digit : isDigit next with
            | true =>
                refine (ih clean.2).of_eq (List.suffix_cons ..) fun more => ?_
                simp [readDigits, digit]
            | false => exact .refused (by simp [readDigits, digit])
      · cases digit : isDigit char with
        | false => exact .stop [] fun more => by simp [readDigits, digit]
        | true =>
            have step := readDigits_digit digit score
            intro found rest read
            rw [List.cons_append, step] at read
            cases inner : readDigits isDigit (line ++ ['\n']) with
            | error reason => simp [inner] at read
            | ok pair =>
                rw [inner] at read
                cases read
                obtain ⟨left, same, suffix, more⟩ := ih clean.2 inner
                refine ⟨left, same, suffix.trans (List.suffix_cons ..), fun text => ?_⟩
                rw [List.cons_append, step, more]

theorem takeWhile_line {test : Char → Bool} (feed : test '\n' = false) (line more : Text) :
    (line ++ '\n' :: more).takeWhile test = line.takeWhile test := by
  induction line with
  | nil => simp [feed]
  | cons char line ih =>
      rw [List.cons_append, List.takeWhile_cons, List.takeWhile_cons, ih]

theorem dropWhile_line {test : Char → Bool} (feed : test '\n' = false) (line more : Text) :
    (line ++ '\n' :: more).dropWhile test = line.dropWhile test ++ '\n' :: more := by
  induction line with
  | nil => simp [feed]
  | cons char line ih =>
      rw [List.cons_append, List.dropWhile_cons, List.dropWhile_cons, ih]
      split <;> simp

theorem startsWith_line {lead : Text} (clean : '\n' ∉ lead) (line more : Text) :
    Text.startsWith lead (line ++ '\n' :: more) = Text.startsWith lead line := by
  induction lead generalizing line with
  | nil => rfl
  | cons wanted lead ih =>
      rw [List.mem_cons, not_or] at clean
      cases line with
      | nil => simp [Text.startsWith, Text.afterLead?, Ne.symm clean.1]
      | cons char line =>
          have step := ih clean.2 line
          simp only [Text.startsWith, List.cons_append, Text.afterLead?] at step ⊢
          split
          · exact step
          · rfl

theorem mayEndNumber_line (line more : Text) :
    mayEndNumber (line ++ '\n' :: more) = mayEndNumber (line ++ ['\n']) := by
  cases line with
  | nil => rfl
  | cons char line =>
      have words (rest : Text) : startsAfterNumber.any
          (fun word => Text.startsWith word (char :: line ++ '\n' :: rest)) =
            startsAfterNumber.any (fun word => Text.startsWith word (char :: line)) := by
        simp only [startsAfterNumber, List.any_cons, List.any_nil]
        rw [startsWith_line (by decide), startsWith_line (by decide), startsWith_line (by decide)]
      simp only [mayEndNumber, List.cons_append]
      rw [← List.cons_append, ← List.cons_append, words, words, takeWhile_line rfl, takeWhile_line rfl]

theorem atDigit_line (line more : Text) : atDigit (line ++ '\n' :: more) = atDigit (line ++ ['\n']) := by
  cases line <;> rfl

theorem local_endNumber (token : Token) (kind : String) : Local (endNumber token kind) := by
  intro line _
  cases ends : mayEndNumber (line ++ ['\n']) with
  | true => exact .stop token fun more => by simp [endNumber, mayEndNumber_line line more, ends]
  | false => exact .refused (by simp [endNumber, ends])

theorem local_endDecimal (token : Token) : Local (endDecimal token) := by
  intro line clean
  cases line with
  | nil => exact (local_endNumber token "decimal" clean).of_eq List.suffix_rfl fun _ => rfl
  | cons char line =>
      have clean' : '\n' ∉ line := fun feed => clean (.tail _ feed)
      by_cases letter : char = 'j' ∨ char = 'J'
      · refine (local_endNumber .imaginary "imaginary" clean').of_eq (List.suffix_cons ..) fun _ => ?_
        rcases letter with rfl | rfl <;> rfl
      · rw [not_or] at letter
        refine (local_endNumber token "decimal" clean).of_eq List.suffix_rfl fun _ => ?_
        simp [endDecimal, letter.1, letter.2]

/-- The reader of digits with something behind them. -/
theorem Local.afterDigits (isDigit : Char → Bool) (feed : isDigit '\n' = false)
    {whole : Text → Except Text (β × Text)} {next : Text → Text → Except Text (β × Text)}
    (second : ∀ digits, Local (next digits)) 
    (passed : ∀ {text digits rest}, readDigits isDigit text = .ok (digits, rest) → whole text = next digits rest)
    (failed : ∀ {text rest}, readDigits isDigit text = .error rest → ∃ reason, whole text = .error reason) :
    Local whole :=
  fun _ clean => .andThen clean (local_readDigits feed clean) second passed failed

theorem local_exponentDigits : Local fun text => match readDigits Char.isDigit text with
    | .ok (_, rest) => endDecimal .fraction rest
    | .error _ => .error (invalidNumeral "decimal") :=
  .afterDigits Char.isDigit (by decide) (fun _ => local_endDecimal .fraction)
    (fun read => by rw [read]) (fun read => ⟨_, by rw [read]⟩)

theorem local_readExponent : Local readExponent := by
  intro line clean
  cases digit : atDigit (line ++ ['\n']) with
  | false => exact .refused (by simp [readExponent, digit])
  | true =>
      refine (local_exponentDigits clean).of_eq List.suffix_rfl fun more => ?_
      exact if_pos ((atDigit_line line more).trans digit)

theorem local_readScale (token : Token) : Local (readScale token) := by
  intro line clean
  cases line with
  | nil => exact (local_endDecimal token clean).of_eq List.suffix_rfl fun _ => rfl
  | cons char line =>
      have clean' : '\n' ∉ line := fun feed => clean (.tail _ feed)
      by_cases letter : char = 'e' ∨ char = 'E'
      · have plain : LocalAt (endNumber token "decimal") (char :: line) := local_endNumber _ _ clean
        cases line with
        | nil =>
            refine plain.of_eq List.suffix_rfl fun _ => ?_
            rcases letter with rfl | rfl <;> rfl
        | cons next line =>
            have clean'' : '\n' ∉ line := fun feed => clean' (.tail _ feed)
            by_cases sign : next = '+' ∨ next = '-'
            · refine (local_readExponent clean'').of_eq
                ((List.suffix_cons ..).trans (List.suffix_cons ..)) fun _ => ?_
              rcases letter with rfl | rfl <;> rcases sign with rfl | rfl <;> rfl
            · rw [not_or] at sign
              have unsigned (more : Text) : readScale token (char :: next :: line ++ '\n' :: more) =
                  if next.isDigit then readExponent (next :: line ++ '\n' :: more)
                  else endNumber token "decimal" (char :: next :: line ++ '\n' :: more) := by
                rcases letter with rfl | rfl <;> simp [readScale, sign.1, sign.2, atDigit] <;> rfl
              cases digit : next.isDigit with
              | true =>
                  exact (local_readExponent clean').of_eq (List.suffix_cons ..) fun more => by
                    rw [unsigned, digit, if_pos rfl]
              | false =>
                  exact plain.of_eq List.suffix_rfl fun more => by
                    rw [unsigned, digit, if_neg (by decide)]
      · rw [not_or] at letter
        refine (local_endDecimal token clean).of_eq List.suffix_rfl fun _ => ?_
        simp [readScale, letter.1, letter.2]

theorem local_fractionDigits : Local fun text => match readDigits Char.isDigit text with
    | .ok (_, rest) => readScale .fraction rest
    | .error _ => .error (invalidNumeral "decimal") :=
  .afterDigits Char.isDigit (by decide) (fun _ => local_readScale .fraction)
    (fun read => by rw [read]) (fun read => ⟨_, by rw [read]⟩)

theorem local_readFraction : Local readFraction := by
  intro line clean
  cases digit : atDigit (line ++ ['\n']) with
  | false =>
      refine (local_readScale .fraction clean).of_eq List.suffix_rfl fun more => ?_
      simp [readFraction, atDigit_line line more, digit]
  | true =>
      refine (local_fractionDigits clean).of_eq List.suffix_rfl fun more => ?_
      exact if_pos ((atDigit_line line more).trans digit)

theorem atScale_line (line more : Text) : atScale (line ++ '\n' :: more) = atScale (line ++ ['\n']) := by
  cases line <;> rfl

theorem local_endWhole (digits : Text) : Local (endWhole digits) := by
  intro line clean
  have whole : LocalAt (fun text => if digits.head? = some '0' && digits.any (· != '0') && !atScale text then
      .error leadingZeros else readScale (wholeNumber digits) text) line := by
    cases zeros : digits.head? = some '0' && digits.any (· != '0') && !atScale (line ++ ['\n']) with
    | true => exact .refused (by simp [zeros])
    | false =>
        refine (local_readScale (wholeNumber digits) clean).of_eq List.suffix_rfl fun more => ?_
        simp only [atScale_line line more, zeros]
        rfl
  by_cases point : ∃ after, line = '.' :: after
  · obtain ⟨after, rfl⟩ := point
    have clean' : '\n' ∉ after := fun feed => clean (.tail _ feed)
    exact (local_readFraction clean').of_eq (List.suffix_cons ..) fun _ => rfl
  · refine whole.of_eq List.suffix_rfl fun more => ?_
    unfold endWhole
    split
    · rename_i after same
      cases line with
      | nil => cases same
      | cons char line =>
          cases same
          exact absurd ⟨line, rfl⟩ point
    · rfl

theorem local_readDecimal {char : Char} (digit : char.isDigit) :
    Local fun text => readDecimal (char :: text) := by
  have other : char ≠ '_' := by
    rintro rfl
    exact absurd digit (by decide)
  have first := readDigits_digit digit other
  refine .afterDigits Char.isDigit (by decide) (fun digits => local_endWhole (char :: digits)) ?_ ?_
  · intro text digits rest read
    simp only [readDecimal, first, read]
  · intro text rest read
    exact ⟨_, by simp only [readDecimal, first, read]; rfl⟩

theorem refuseDigits_error (kind : String) (text : Text) :
    ∃ reason, (refuseDigits kind text : Except Text α) = .error reason := by
  cases text <;> exact ⟨_, rfl⟩

theorem local_endBased (kind : String) (base : Nat) (digits : Text) : Local (endBased kind base digits) := by
  intro line _
  cases wrong : digits.isEmpty || atDigit (line ++ ['\n']) with
  | true =>
      obtain ⟨reason, refused⟩ : ∃ reason, (refuseDigits kind (line ++ ['\n']) : Except Text (Token × Text)) =
          .error reason := refuseDigits_error kind _
      exact .refused (by simp [endBased, wrong, refused])
  | false =>
      cases ends : mayEndNumber (line ++ ['\n']) with
      | false => exact .refused (by simp [endBased, wrong, ends])
      | true =>
          refine .stop (.integer (digits.foldl (fun value digit =>
            value * base + (Quoted.hexadecimalDigit? digit).getD 0) 0)) fun more => ?_
          rw [endBased, atDigit_line line more, wrong, mayEndNumber_line line more, ends]
          rfl

theorem local_readBased (kind : String) (base : Nat) (isDigit : Char → Bool) (feed : isDigit '\n' = false) :
    Local (readBased kind base isDigit) := by
  refine .afterDigits isDigit feed (local_endBased kind base) ?_ ?_
  · intro text digits rest read
    rw [readBased, read]
  · intro text rest read
    rw [readBased, read]
    exact refuseDigits_error kind rest

theorem local_readHexadecimal : Local fun text => match readBased "hexadecimal" 16
    (fun char => (Quoted.hexadecimalDigit? char).isSome) text with
    | .ok found => .ok found
    | .error _ => .error (invalidNumeral "hexadecimal") :=
  fun _ clean => .andThen clean (local_readBased "hexadecimal" 16 (fun char => (Quoted.hexadecimalDigit? char).isSome)
    (by decide) clean) (fun token => Local.pure token) (fun read => by rw [read]) (fun read => ⟨_, by rw [read]⟩)

theorem local_readNumber {char : Char} (start : char.isDigit ∨ char = '.') :
    Local fun text => readNumber (char :: text) := by
  intro line clean
  by_cases point : char = '.'
  · subst point
    exact (local_readFraction clean).of_eq List.suffix_rfl fun _ => rfl
  have digit : char.isDigit := start.resolve_right point
  by_cases based : char = '0' ∧ ∃ letter rest, line = letter :: rest ∧
      letter ∈ ['x', 'X', 'o', 'O', 'b', 'B']
  · obtain ⟨rfl, letter, rest, rfl, known⟩ := based
    have clean' : '\n' ∉ rest := fun feed => clean (.tail _ feed)
    have inner (kind : String) (base : Nat) (isDigit : Char → Bool) (feed : isDigit '\n' = false) :=
      local_readBased kind base isDigit feed clean'
    have hexadecimal := local_readHexadecimal clean'
    have octal := inner "octal" 8 (fun char => '0' ≤ char && char < '8') (by decide)
    have binary := inner "binary" 2 (fun char => char == '0' || char == '1') (by decide)
    simp only [List.mem_cons, List.not_mem_nil, or_false] at known
    rcases known with rfl | rfl | rfl | rfl | rfl | rfl
    · exact hexadecimal.of_eq (List.suffix_cons ..) fun _ => rfl
    · exact hexadecimal.of_eq (List.suffix_cons ..) fun _ => rfl
    · exact octal.of_eq (List.suffix_cons ..) fun _ => rfl
    · exact octal.of_eq (List.suffix_cons ..) fun _ => rfl
    · exact binary.of_eq (List.suffix_cons ..) fun _ => rfl
    · exact binary.of_eq (List.suffix_cons ..) fun _ => rfl
  · refine (local_readDecimal digit clean).of_eq List.suffix_rfl fun more => ?_
    have plain (letter : Char) (rest : Text) (known : letter ∈ ['x', 'X', 'o', 'O', 'b', 'B']) :
        char :: (line ++ '\n' :: more) ≠ '0' :: letter :: rest := by
      intro same
      obtain ⟨zero, tail⟩ := List.cons.inj same
      cases line with
      | nil =>
          obtain ⟨rfl, -⟩ := List.cons.inj tail
          exact absurd known (by decide)
      | cons next line =>
          obtain ⟨rfl, -⟩ := List.cons.inj tail
          exact based ⟨zero, next, line, rfl, known⟩
    unfold readNumber
    split
    · exact absurd ‹_› (plain _ _ (by decide))
    · exact absurd ‹_› (plain _ _ (by decide))
    · exact absurd ‹_› (plain _ _ (by decide))
    · exact absurd ‹_› (plain _ _ (by decide))
    · exact absurd ‹_› (plain _ _ (by decide))
    · exact absurd ‹_› (plain _ _ (by decide))
    · exact absurd (List.cons.inj ‹_›).1 point
    · rfl


/-! ## Literals -/

/-- What a reader takes first may be put in front of what it goes on with. -/
theorem LocalAt.behind {read whole : Text → Except ε (Text × Text)} {line : Text} (lead : Text)
    (inner : LocalAt read line)
    (passed : ∀ {more inside rest}, read (line ++ '\n' :: more) = .ok (inside, rest) →
      whole (lead ++ (line ++ '\n' :: more)) = .ok (lead ++ inside, rest))
    (failed : ∀ {reason}, read (line ++ ['\n']) = .error reason →
      ∃ reason', whole (lead ++ (line ++ ['\n'])) = .error reason') :
    LocalAt whole (lead ++ line) := by
  intro found rest result
  rw [List.append_assoc] at result
  cases step : read (line ++ ['\n']) with
  | error reason =>
      obtain ⟨reason', failure⟩ := failed step
      rw [failure] at result
      cases result
  | ok middle =>
      rw [passed step] at result
      cases result
      obtain ⟨left, same, suffix, more⟩ := inner step
      refine ⟨left, same, suffix.trans (List.suffix_append ..), fun text => ?_⟩
      rw [List.append_assoc]
      exact passed (more text)

theorem local_readShort {quote : Char} (feed : quote ≠ '\n') : Local (readShort quote) := by
  intro line
  induction line using List.twoStepInduction with
  | nil => exact fun _ => .refused (by simp [readShort])
  | singleton char =>
      intro clean
      rw [List.mem_singleton] at clean
      by_cases slash : char = '\\'
      · subst slash
        exact .refused (by simp [readShort])
      · by_cases close : char = quote
        · subst close
          refine (Local.pure [] List.not_mem_nil).of_eq List.nil_suffix fun more => ?_
          simp [readShort, slash]
        · exact .refused (by simp [readShort, Ne.symm clean, slash, close])
  | cons_cons char next line ih ih' =>
      intro clean
      have clean' : '\n' ∉ next :: line := fun inside => clean (.tail _ inside)
      have clean'' : '\n' ∉ line := fun inside => clean' (.tail _ inside)
      by_cases slash : char = '\\'
      · subst slash
        refine (ih clean'').behind ['\\', next] ?_ ?_
        · intro more inside rest read
          simp [readShort, read]
        · intro passed read
          exact ⟨_, by simp [readShort, read]; rfl⟩
      · have plain : char ≠ '\n' := fun same => clean (same ▸ .head _)
        by_cases close : char = quote
        · subst close
          refine (Local.pure [] clean').of_eq (List.suffix_cons ..) fun more => ?_
          simp [readShort, slash]
        · refine (ih' next clean').behind [char] ?_ ?_
          · intro more inside rest read
            rw [List.cons_append] at read
            simp [readShort, slash, close, read]
          · intro passed read
            rw [List.cons_append] at read
            exact ⟨_, by simp [readShort, slash, close, read]; rfl⟩

theorem eq_of_readShort {quote : Char} {text inside rest : Text} (read : readShort quote text = .ok (inside, rest)) :
    text = inside ++ quote :: rest := by
  fun_induction readShort quote text generalizing inside rest with
  | case1 => cases read
  | case2 => cases read
  | case3 char text passed inner ih => cases read
  | case4 char text inside' rest' inner ih =>
      cases read
      rw [ih inner]
      rfl
  | case5 text =>
      cases read
      rfl
  | case6 => cases read
  | case7 char text _ _ _ inside rest inner ih =>
      cases read
      rw [ih inner]
      rfl

theorem local_readLong {quote : Char} (feed : quote ≠ '\n') :
    Local fun text => ((readLong quote text).elim (.error ()) .ok : Except Unit (Text × Text)) := by
  have ended : readLong quote ['\n'] = none := by simp [readLong, feed.symm]
  intro line
  induction line using List.twoStepInduction with
  | nil => exact fun _ => .refused (by simp [ended])
  | singleton char =>
      intro _
      by_cases slash : char = '\\'
      · subst slash
        exact .refused (by simp [readLong])
      · refine .refused ?_
        have apart : Text.startsWith [quote, quote] ['\n'] = false := by
          simp [Text.startsWith, Text.afterLead?, feed]
        simp [readLong, slash, ended, apart]
  | cons_cons char next line ih ih' =>
      intro clean
      have clean' : '\n' ∉ next :: line := fun inside => clean (.tail _ inside)
      have clean'' : '\n' ∉ line := fun inside => clean' (.tail _ inside)
      have elim {text : Text} {result : Except Unit (Text × Text)}
          (read : (readLong quote text).elim (.error ()) .ok = result) :
          readLong quote text = result.toOption := by
        rw [← read]
        cases readLong quote text <;> rfl
      by_cases slash : char = '\\'
      · subst slash
        refine (ih clean'').behind ['\\', next] ?_ ?_
        · intro more inside rest read
          simp [readLong, elim read, Except.toOption]
        · intro reason read
          exact ⟨(), by simp [readLong, elim read, Except.toOption]⟩
      · have same (more : Text) : Text.startsWith [quote, quote] (next :: line ++ '\n' :: more) =
            Text.startsWith [quote, quote] (next :: line) :=
          startsWith_line (by simp [feed.symm]) _ more
        by_cases close : char = quote ∧ Text.startsWith [quote, quote] (next :: line)
        · obtain ⟨rest, tail⟩ := Text.eq_of_startsWith close.2
          obtain ⟨rfl, rfl⟩ := List.cons.inj tail
          obtain ⟨rfl, -⟩ := close
          have clean : '\n' ∉ rest := fun inside => clean'' (.tail _ inside)
          refine (Local.pure [] clean).of_eq ⟨[char, char, char], rfl⟩ fun more => ?_
          simp [readLong, slash, Text.startsWith, Text.afterLead?]
        · have step (more : Text) : readLong quote (char :: (next :: line ++ '\n' :: more)) =
              (readLong quote (next :: line ++ '\n' :: more)).map fun found => (char :: found.1, found.2) := by
            rw [readLong, same, if_neg close] <;> first | rfl | exact fun _ _ backslash => absurd backslash slash
          refine (ih' next clean').behind [char] ?_ ?_
          · intro more inside rest read
            rw [List.singleton_append, step, elim read]
            rfl
          · intro reason read
            refine ⟨(), ?_⟩
            rw [List.singleton_append, step, elim read]
            rfl

theorem eq_of_readLong {quote : Char} {text inside rest : Text} (read : readLong quote text = some (inside, rest)) :
    text = inside ++ quote :: quote :: quote :: rest := by
  fun_induction readLong quote text generalizing inside rest with
  | case1 => cases read
  | case2 char text ih =>
      simp only [Option.map_eq_some_iff, Prod.mk.injEq, Prod.exists] at read
      obtain ⟨inside, rest, inner, rfl, rfl⟩ := read
      rw [ih inner]
      rfl
  | case3 char text _ close =>
      cases read
      obtain ⟨rest, rfl⟩ := Text.eq_of_startsWith close.2
      rw [close.1]
      rfl
  | case4 char text _ _ ih =>
      simp only [Option.map_eq_some_iff, Prod.mk.injEq, Prod.exists] at read
      obtain ⟨inside, rest, inner, rfl, rfl⟩ := read
      rw [ih inner]
      rfl

theorem local_readPlain (place : Nat) {quote : Char} (feed : quote ≠ '\n') : Local (readPlain place quote) :=
  fun _ clean => .andThen clean (local_readShort feed clean) (fun inside => Local.pure inside)
    (fun read => by rw [readPlain, read]) (fun read => ⟨_, by rw [readPlain, read]⟩)

theorem local_readTripled (place : Nat) {quote : Char} (feed : quote ≠ '\n') :
    Local (readTripled place quote) := by
  intro line clean
  refine .andThen clean (local_readLong feed clean) (fun inside => Local.pure inside) ?_ ?_
  · intro text inside rest read
    cases step : readLong quote text with
    | none => simp [step] at read
    | some found =>
        simp only [step, Option.elim_some, Except.ok.injEq] at read
        rw [readTripled, step, read]
  · intro text reason read
    cases step : readLong quote text with
    | none => exact ⟨_, by rw [readTripled, step]⟩
    | some found => simp [step] at read

/-- A literal that is read within a line takes the same from it whatever lines follow. -/
theorem local_readLiteral (place : Nat) {quote : Char} (feed : quote ≠ '\n') :
    Local (readLiteral place quote) := by
  intro line clean
  by_cases triple : ∃ after, line = quote :: quote :: after
  · obtain ⟨after, rfl⟩ := triple
    have clean' : '\n' ∉ after := fun inside => clean (.tail _ (.tail _ inside))
    refine (local_readTripled place feed clean').of_eq ⟨[quote, quote], rfl⟩ fun more => ?_
    exact if_pos ⟨rfl, rfl⟩
  · refine (local_readPlain place feed clean).of_eq List.suffix_rfl fun more => ?_
    unfold readLiteral
    split
    · rename_i second third after same
      rw [if_neg]
      rintro ⟨rfl, rfl⟩
      cases line with
      | nil => exact feed (List.cons.inj same).1.symm
      | cons first line =>
          obtain ⟨rfl, tail⟩ := List.cons.inj same
          cases line with
          | nil => exact feed (List.cons.inj tail).1.symm
          | cons next line =>
              obtain ⟨rfl, -⟩ := List.cons.inj tail
              exact triple ⟨line, rfl⟩
    · rfl

/-- The inside of a literal is a part of the text that it is read from. -/
theorem eq_of_readLiteral {place : Nat} {quote : Char} {text inside rest : Text}
    (read : readLiteral place quote text = .ok (inside, rest)) :
    ∃ before after, text = before ++ inside ++ after ++ rest := by
  have plain (read : readPlain place quote text = .ok (inside, rest)) :
      ∃ before after, text = before ++ inside ++ after ++ rest := by
    unfold readPlain at read
    split at read
    · cases read
      rename_i step
      exact ⟨[], [quote], by simp [eq_of_readShort step]⟩
    · cases read
  unfold readLiteral at read
  split at read
  · split at read
    · rename_i second third after both
      unfold readTripled at read
      split at read
      · cases read
        rename_i step
        exact ⟨[second, third], [quote, quote, quote], by simp [eq_of_readLong step]⟩
      · cases read
    · exact plain read
  · exact plain read

end Stencil.Script
