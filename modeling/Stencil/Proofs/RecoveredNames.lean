import Stencil.Proofs.DeclaredSuffixes
import Stencil.Proofs.FilePlaces

/-!
# Names recovered from file names

A class whose name starts with a capital is known from the name of its template file: the words between the joints,
each with its first letter in upper case again, are the name.  So two such classes never share a file by accident.
-/

namespace Stencil.Naming

/-! ## Words -/

/-- Whether a word starts with a capital and has no other. -/
def Capital (word : Text) : Prop :=
  ∃ first rest, word = first :: rest ∧ isUpperCase first ∧ ∀ char ∈ rest, isUpperCase char = false

theorem capital_wordsFrom {word : Text} (capital : Capital word.reverse) (name : Text) :
    ∀ piece ∈ wordsFrom word name, Capital piece := by
  induction name generalizing word with
  | nil => simpa [wordsFrom] using capital
  | cons char name ih =>
      by_cases upper : isUpperCase char
      · have fresh : Capital [char].reverse := ⟨char, [], rfl, upper, by simp⟩
        simpa [wordsFrom, upper] using ⟨capital, ih fresh⟩
      · obtain ⟨first, rest, same, start, low⟩ := capital
        have longer : Capital (char :: word).reverse := by
          refine ⟨first, rest ++ [char], by simp [same], start, ?_⟩
          rw [List.forall_mem_append, List.forall_mem_singleton]
          exact ⟨low, Bool.eq_false_iff.mpr upper⟩
        simpa [wordsFrom, upper] using ih longer

theorem capital_words {name : Text} (start : name.head?.any isUpperCase) : ∀ word ∈ words name, Capital word := by
  cases name with
  | nil => simp at start
  | cons char name => exact capital_wordsFrom ⟨char, [], rfl, by simpa using start, by simp⟩ name

/-! ## Letter case -/

theorem ascii_forall (property : Char → Prop) (checked : ∀ code < 128, property (Char.ofNat code)) {char : Char}
    (letter : isWordChar char = true) : property char := by
  have ranges := toNat_wordChar letter
  have holds := checked char.toNat (by omega)
  rwa [Char.ofNat_toNat] at holds

theorem lowerWithin_eq {char : Char} (letter : isWordChar char = true) (before after : Text) :
    Case.lowerWithin before char after = [char.toLower] := by
  have image : Case.image Case.lowerRuns Case.lowerExpansions char = [char.toLower] :=
    ascii_forall (fun char => Case.image Case.lowerRuns Case.lowerExpansions char = [char.toLower]) (by decide +kernel)
      letter
  have ranges := toNat_wordChar letter
  rw [Case.lowerWithin, if_neg (by omega), image]

theorem toLower_low {char : Char} (letter : isWordChar char = true) (low : isUpperCase char = false) :
    char.toLower = char :=
  ascii_forall (fun char => isUpperCase char = false → char.toLower = char) (by decide +kernel) letter low

theorem upper_toLower {char : Char} (letter : isWordChar char = true) (upper : isUpperCase char) :
    Text.upper [char.toLower] = [char] :=
  ascii_forall (fun char => isUpperCase char → Text.upper [char.toLower] = [char]) (by decide +kernel) letter upper

theorem lowerFrom_low {word : Text} (letters : ∀ char ∈ word, isWordChar char = true)
    (low : ∀ char ∈ word, isUpperCase char = false) (before : Text) : Case.lowerFrom before word = word := by
  induction word generalizing before with
  | nil => rfl
  | cons char word ih =>
      rw [List.forall_mem_cons] at letters low
      rw [Case.lowerFrom, lowerWithin_eq letters.1, toLower_low letters.1 low.1, ih letters.2 low.2]
      rfl

/-- A word with its first letter in upper case. -/
def capitalised : Text → Text
  | [] => []
  | char :: word => Text.upper [char] ++ word

/-- A word is its lower-case form capitalised. -/
theorem capitalised_lower {word : Text} (capital : Capital word) (letters : ∀ char ∈ word, isWordChar char = true) :
    capitalised word.lower = word := by
  obtain ⟨first, rest, rfl, upper, low⟩ := capital
  obtain ⟨own, others⟩ := List.forall_mem_cons.mp letters
  have lower : Text.lower (first :: rest) = first.toLower :: rest := by
    rw [Text.lower, Case.lowerFrom, lowerWithin_eq own, lowerFrom_low others low]
    rfl
  rw [lower, capitalised, upper_toLower own upper]
  rfl

/-! ## Joints -/

/-- Whether a text has none of the characters that join words. -/
def Unjoined (word : Text) : Prop := '-' ∉ word ∧ '.' ∉ word

theorem unjoined_lower {word : Text} (letters : ∀ char ∈ word, isWordChar char = true) : Unjoined word.lower := by
  have apart : ∀ char ∈ word.lower, char ≠ '-' ∧ char ≠ '.' := by
    rw [Text.lower]
    generalize ([] : Text) = before
    induction word generalizing before with
    | nil => simp [Case.lowerFrom]
    | cons char word ih =>
        obtain ⟨own, others⟩ := List.forall_mem_cons.mp letters
        have first : char.toLower ≠ '-' ∧ char.toLower ≠ '.' :=
          ascii_forall (fun char => isWordChar char → char.toLower ≠ '-' ∧ char.toLower ≠ '.') (by decide +kernel) own own
        rw [Case.lowerFrom, lowerWithin_eq own, List.singleton_append, List.forall_mem_cons]
        exact ⟨first, ih others (char :: before)⟩
  exact ⟨fun member => (apart '-' member).1 rfl, fun member => (apart '.' member).2 rfl⟩

/-- The words that a file name is joined of; a declared suffix is none of them. -/
def wordsOfFile (file : Text) : Option Text → List Text
  | some _ => Text.splitOn '-' (file.takeWhile (· != '.'))
  | none => (Text.splitOn '.' file).flatMap (Text.splitOn '-')

theorem not_mem_join {char separator : Char} {pieces : List Text} (other : char ≠ separator)
    (clean : ∀ piece ∈ pieces, char ∉ piece) : char ∉ Text.join [separator] pieces := by
  intro member
  rcases mem_join member with between | ⟨piece, listed, inside⟩
  · exact other (List.mem_singleton.mp between)
  · exact clean piece listed inside

theorem wordsOfFile_declared {pieces : List Text} (occupied : pieces ≠ []) (unjoined : ∀ piece ∈ pieces, Unjoined piece)
    (suffix : Text) : wordsOfFile (fileNameOfWords pieces (some suffix)) (some suffix) = pieces := by
  have stem : '.' ∉ Text.join ['-'] pieces := not_mem_join (by decide) fun piece listed => (unjoined piece listed).2
  have kept : ∀ char ∈ Text.join ['-'] pieces, (char != '.') = true := by
    intro char member
    exact bne_iff_ne.mpr fun same => stem (same ▸ member)
  rw [fileNameOfWords, wordsOfFile, List.takeWhile_append_of_pos kept, List.takeWhile_cons_of_neg (by decide),
    List.append_nil]
  exact splitOn_joined occupied fun piece listed => (unjoined piece listed).1

theorem wordsOfFile_undeclared {pieces : List Text} (occupied : pieces ≠ [])
    (unjoined : ∀ piece ∈ pieces, Unjoined piece) : wordsOfFile (fileNameOfWords pieces none) none = pieces := by
  obtain ⟨front, last, rfl⟩ := List.eq_nil_or_concat' pieces |>.resolve_left occupied
  rw [List.forall_mem_append, List.forall_mem_singleton] at unjoined
  obtain ⟨fronts, own⟩ := unjoined
  cases front with
  | nil => simp [fileNameOfWords, wordsOfFile, splitOn_clean own.1, splitOn_clean own.2]
  | cons first front =>
      have file : fileNameOfWords (first :: front ++ [last]) none =
          Text.join ['-'] (first :: front) ++ '.' :: last := by
        rw [fileNameOfWords, List.dropLast_concat, List.getLast?_concat]
        · rfl
        · simp
      have stem : '.' ∉ Text.join ['-'] (first :: front) :=
        not_mem_join (by decide) fun piece listed => (fronts piece listed).2
      rw [file, wordsOfFile, Routine.splitOn_line stem, splitOn_clean own.2, List.flatMap_cons, List.flatMap_singleton,
        splitOn_clean own.1, splitOn_joined (List.cons_ne_nil _ _) fun piece listed => (fronts piece listed).1]

/-! ## Names -/

/-- Whether a name is an ASCII identifier that starts with a capital. -/
def isClassName (name : Text) : Bool := isIdentifier name && name.head?.any isUpperCase

/-- The name of a class is recovered from its file name, whether a suffix was declared or not. -/
theorem name_recovered {name : Text} (named : isClassName name) (suffix : Option Text) :
    ∃ file, fileName name suffix = .ok file ∧ (wordsOfFile file suffix).flatMap capitalised = name := by
  rw [isClassName, Bool.and_eq_true, isIdentifier, Bool.and_eq_true, List.all_eq_true] at named
  obtain ⟨⟨-, letters⟩, start⟩ := named
  have filled : name ≠ [] := by
    rintro rfl
    cases start
  have inside : ∀ word ∈ words name, ∀ char ∈ word, isWordChar char = true := by
    intro word listed char member
    refine letters char ?_
    rw [← words_flatten name]
    exact List.mem_flatten_of_mem listed member
  have occupied : (words name).map Text.lower ≠ [] := by
    intro none
    have whole := words_flatten name
    rw [List.map_eq_nil_iff.mp none] at whole
    exact filled whole.symm
  have unjoined : ∀ piece ∈ (words name).map Text.lower, Unjoined piece := by
    intro piece listed
    obtain ⟨word, original, rfl⟩ := List.mem_map.mp listed
    exact unjoined_lower (inside word original)
  have found : wordsOfFile (fileNameOfWords ((words name).map Text.lower) suffix) suffix =
      (words name).map Text.lower := by
    cases suffix with
    | none => exact wordsOfFile_undeclared occupied unjoined
    | some suffix => exact wordsOfFile_declared occupied unjoined suffix
  refine ⟨_, if_neg (mt List.isEmpty_iff.mp filled), ?_⟩
  have back : ((words name).map Text.lower).map capitalised = words name := by
    have each : ∀ word ∈ words name, (capitalised ∘ Text.lower) word = word :=
      fun word listed => capitalised_lower (capital_words start word listed) (inside word listed)
    rw [List.map_map, List.map_congr_left each, List.map_id']
  rw [found, List.flatMap, back, words_flatten]

/-- The file names of two classes differ when the names of the classes do, and tell these names. -/
theorem class_files_apart {left right : Text} (leftNamed : isClassName left) (rightNamed : isClassName right)
    (suffix : Option Text) :
    (∃ file, fileName left suffix = .ok file ∧ (wordsOfFile file suffix).flatMap capitalised = left) ∧
      (left ≠ right → fileName left suffix ≠ fileName right suffix) := by
  obtain ⟨file, named, recovered⟩ := name_recovered leftNamed suffix
  refine ⟨⟨file, named, recovered⟩, fun different same => different ?_⟩
  obtain ⟨other, otherNamed, otherRecovered⟩ := name_recovered rightNamed suffix
  obtain rfl : file = other := by
    rw [named, otherNamed] at same
    exact Except.ok.inj same
  rw [← recovered, otherRecovered]

/-- Runs of capitals are told from words. -/
theorem capitals_apart : isClassName "ABCHtml" ∧ isClassName "AbcHtml" ∧
    (∃ file, fileName "ABCHtml" none = .ok file ∧ (wordsOfFile file none).flatMap capitalised = "ABCHtml".toList) ∧
    fileName "ABCHtml" none ≠ fileName "AbcHtml" none := by
  have left : isClassName "ABCHtml" := by decide +kernel
  have right : isClassName "AbcHtml" := by decide +kernel
  have apart := class_files_apart left right none
  exact ⟨left, right, apart.1, apart.2 (by decide)⟩

/-- Behind a small letter at the start the name is not recovered. -/
example : fileName "fooHtml" none = fileName "FooHtml" none := by decide +kernel

end Stencil.Naming
