import Stencil.Proofs.FileExtensions
import Stencil.Proofs.RoutineCalls
import Stencil.Session.Run

/-!
# Declared suffixes

A suffix can be declared for a template in the program and for a template in a file.  For the file it stands behind a
stem and its leading dots are dropped; for the template in the program a suffix with dots is read as a file name of its
own, whose first piece is then no extension.
-/

namespace Stencil

open MediaType

/-! ## Stems -/

namespace Naming

/-- Whether a code point can be part of an ASCII identifier. -/
def isWordChar (char : Char) : Bool := char.isAlphanum || char == '_'

/-- Whether a name is an identifier of ASCII letters, digits and underscores. -/
def isIdentifier (name : Text) : Bool := name.head?.any (fun char => !char.isDigit) && name.all isWordChar

/-- Whether a code point can be part of a stem. -/
def isPlain (char : Char) : Bool := char != '.' && char != '/' && char != ':'

theorem toNat_wordChar {char : Char} (letter : isWordChar char = true) :
    (0x30 ≤ char.toNat ∧ char.toNat ≤ 0x39) ∨ (0x41 ≤ char.toNat ∧ char.toNat ≤ 0x5A) ∨ char.toNat = 0x5F ∨
      (0x61 ≤ char.toNat ∧ char.toNat ≤ 0x7A) := by
  rw [isWordChar, Bool.or_eq_true, beq_iff_eq] at letter
  rcases letter with letter | rfl
  · have within : ((decide ('A'.val ≤ char.val ∧ char.val ≤ 'Z'.val) || ('a'.val ≤ char.val && char.val ≤ 'z'.val)) ||
        ('0'.val ≤ char.val && char.val ≤ '9'.val) : Bool) = true := letter
    simp only [Bool.or_eq_true, Bool.and_eq_true, decide_eq_true_eq, UInt32.le_iff_toNat_le] at within
    rcases within with (capital | small) | digit
    · exact .inr (.inl capital)
    · exact .inr (.inr (.inr small))
    · exact .inl digit
  · exact .inr (.inr (.inl rfl))

theorem isPlain_of_toNat {char : Char} (dot : char.toNat ≠ 0x2E) (slash : char.toNat ≠ 0x2F)
    (colon : char.toNat ≠ 0x3A) : isPlain char := by
  have apart {other : Char} (differs : char.toNat ≠ other.toNat) : char ≠ other :=
    fun same => differs (congrArg Char.toNat same)
  have first : char ≠ '.' := apart dot
  have second : char ≠ '/' := apart slash
  have third : char ≠ ':' := apart colon
  simp [isPlain, first, second, third]

/-- The only ASCII code points that lower case changes are the capital letters. -/
theorem image?_ascii {code : Nat} (few : code < 128) : Case.lowerRuns.image? code =
    if 0x41 ≤ code ∧ code ≤ 0x5A then some (0x61 + (code - 0x41)) else none := by
  have runs : Case.lowerRuns = (0x41, 0x5A, 1, 0x61) :: (0xC0, 0xD6, 1, 0xE0) :: Case.lowerRuns.drop 2 := rfl
  rw [runs, Case.Runs.image?, Case.Runs.image?]
  by_cases capital : 0x41 ≤ code ∧ code ≤ 0x5A
  · rw [if_neg (by omega), if_pos ⟨capital.2, Nat.mod_one _⟩, if_pos capital]
  · rw [if_neg capital]
    by_cases small : code < 0x41
    · rw [if_pos small]
    · rw [if_neg small, if_neg (by omega), if_pos (by omega)]

/-- In lower case a letter is one code point again, and none that divides a file name. -/
theorem lowerWithin_wordChar {char : Char} (letter : isWordChar char = true) (before after : Text) :
    ∃ image, Case.lowerWithin before char after = [image] ∧ isPlain image := by
  have ranges := toNat_wordChar letter
  have single : Case.lowerExpansions.lookup char.toNat = none := by
    rw [Case.lowerExpansions, List.lookup_cons, beq_eq_false_iff_ne.mpr (by omega : char.toNat ≠ 0x130)]
    rfl
  rw [Case.lowerWithin, if_neg (by omega), Case.image, single, image?_ascii (by omega)]
  by_cases capital : 0x41 ≤ char.toNat ∧ char.toNat ≤ 0x5A
  · rw [if_pos capital]
    have code : (Char.ofNat (0x61 + (char.toNat - 0x41))).toNat = 0x61 + (char.toNat - 0x41) := by
      rw [Char.ofNat, dif_pos (.inl (by omega))]
      exact UInt32.toNat_ofNatLT
    exact ⟨_, rfl, isPlain_of_toNat (by omega) (by omega) (by omega)⟩
  · rw [if_neg capital]
    exact ⟨char, rfl, isPlain_of_toNat (by omega) (by omega) (by omega)⟩

theorem lowerFrom_word (before : Text) {word : Text} (letters : ∀ char ∈ word, isWordChar char = true) :
    (Case.lowerFrom before word).length = word.length ∧ ∀ char ∈ Case.lowerFrom before word, isPlain char := by
  induction word generalizing before with
  | nil => exact ⟨rfl, fun char member => nomatch member⟩
  | cons char word ih =>
      obtain ⟨image, same, plain⟩ := lowerWithin_wordChar (letters char List.mem_cons_self) before word
      obtain ⟨length, plains⟩ := ih (char :: before) fun char member => letters char (List.mem_cons_of_mem _ member)
      rw [Case.lowerFrom, same, List.singleton_append]
      exact ⟨congrArg (· + 1) length, List.forall_mem_cons.mpr ⟨plain, plains⟩⟩

theorem wordsFrom_flatten (word name : Text) : (wordsFrom word name).flatten = word.reverse ++ name := by
  induction name generalizing word with
  | nil => rw [wordsFrom, List.flatten_cons, List.flatten_nil]
  | cons char name ih =>
      rw [wordsFrom]
      split
      · rw [List.flatten_cons, ih]
        rfl
      · rw [ih, List.reverse_cons, List.append_assoc]
        rfl

/-- The words of a name are its parts in order. -/
theorem words_flatten (name : Text) : (words name).flatten = name := by
  cases name with
  | nil => rfl
  | cons char name => exact wordsFrom_flatten [char] name

theorem mem_join {separator : Text} {pieces : List Text} {char : Char} (member : char ∈ Text.join separator pieces) :
    char ∈ separator ∨ ∃ piece ∈ pieces, char ∈ piece := by
  fun_induction Text.join separator pieces with
  | case1 => cases member
  | case2 piece => exact .inr ⟨piece, List.mem_cons_self, member⟩
  | case3 piece pieces _ ih =>
      rcases List.mem_append.mp member with front | back
      · rcases List.mem_append.mp front with own | between
        · exact .inr ⟨piece, List.mem_cons_self, own⟩
        · exact .inl between
      · rcases ih back with between | ⟨other, listed, inside⟩
        · exact .inl between
        · exact .inr ⟨other, List.mem_cons_of_mem _ listed, inside⟩

theorem subset_join {separator : Text} {pieces : List Text} {piece : Text} (listed : piece ∈ pieces) :
    piece ⊆ Text.join separator pieces := by
  fun_induction Text.join separator pieces with
  | case1 => cases listed
  | case2 only => exact List.mem_singleton.mp listed ▸ List.Subset.refl _
  | case3 first pieces _ ih =>
      rcases List.mem_cons.mp listed with rfl | later
      · exact fun char member => List.mem_append_left _ (List.mem_append_left _ member)
      · exact fun char member => List.mem_append_right _ (ih later member)

/-- The joined words of an identifier are the stem of a file name. -/
theorem stem_of_identifier {name : Text} (identifier : isIdentifier name) :
    Stem (Text.join ['-'] ((words name).map Text.lower)) := by
  rw [isIdentifier, Bool.and_eq_true, List.all_eq_true] at identifier
  obtain ⟨first, letters⟩ := identifier
  have inside {word : Text} (listed : word ∈ words name) : ∀ char ∈ word, isWordChar char = true := by
    intro char member
    refine letters char ?_
    rw [← words_flatten name]
    exact List.mem_flatten_of_mem listed member
  have plain : ∀ char ∈ Text.join ['-'] ((words name).map Text.lower), isPlain char := by
    intro char member
    rcases mem_join member with between | ⟨piece, listed, own⟩
    · rw [List.mem_singleton.mp between]
      rfl
    · obtain ⟨word, original, rfl⟩ := List.mem_map.mp listed
      exact (lowerFrom_word [] (inside original)).2 char own
  have without (char : Char) (divides : isPlain char = false) :
      char ∉ Text.join ['-'] ((words name).map Text.lower) := by
    intro member
    rw [plain char member] at divides
    cases divides
  refine ⟨?_, without '.' rfl, without '/' rfl, without ':' rfl⟩
  obtain ⟨char, member⟩ : ∃ char, char ∈ name := by
    cases name with
    | nil => cases first
    | cons char name => exact ⟨char, List.mem_cons_self⟩
  rw [← words_flatten name] at member
  obtain ⟨word, listed, within⟩ := List.mem_flatten.mp member
  have occupied : Text.lower word ≠ [] := by
    refine List.ne_nil_of_length_pos ?_
    rw [Text.lower, (lowerFrom_word [] (inside listed)).1]
    exact List.length_pos_of_mem within
  obtain ⟨char, own⟩ := List.exists_mem_of_ne_nil _ occupied
  exact List.ne_nil_of_mem (subset_join (List.mem_map_of_mem listed) own)

/-- With a declared suffix the file name is a stem, a dot and the suffix without its leading dots. -/
theorem fileName_declared {name : Text} (identifier : isIdentifier name) (suffix : Text) :
    ∃ stem, Stem stem ∧ fileName name (some suffix) = .ok (stem ++ '.' :: undotted suffix) := by
  refine ⟨_, stem_of_identifier identifier, if_neg ?_⟩
  intro empty
  rw [List.isEmpty_iff] at empty
  rw [empty] at identifier
  cases identifier

end Naming

/-! ## Content types -/

/-- The content type of a file whose media type was guessed. -/
def contentTypeOfGuess : Option Text → Text
  | none => plainContentType
  | some media => if Text.startsWith "text/" media then media ++ "; charset=utf-8" else media

theorem contentTypeOf_eq {name : Text} (occupied : name ≠ []) : contentTypeOf (some name) =
    contentTypeOfGuess (guess? (if name.contains '.' then name else ("template." : Text) ++ name)) := by
  obtain ⟨char, rest, rfl⟩ := List.exists_cons_of_ne_nil occupied
  rfl

theorem contentTypeOf_dotted {name : Text} (dotted : '.' ∈ name) :
    contentTypeOf (some name) = contentTypeOfGuess (guess? name) := by
  rw [contentTypeOf_eq (List.ne_nil_of_mem dotted), if_pos (List.contains_iff_mem.mpr dotted)]

/-- A suffix without a dot is read as the suffix of a template called `template`. -/
theorem contentTypeOf_bare {suffix : Text} (occupied : suffix ≠ []) (bare : '.' ∉ suffix) :
    contentTypeOf (some suffix) = contentTypeOf (some ("template" ++ '.' :: suffix)) := by
  have dotted : '.' ∈ ("template" : Text) ++ '.' :: suffix := List.mem_append_right _ List.mem_cons_self
  rw [contentTypeOf_dotted dotted, contentTypeOf_eq occupied,
    if_neg fun inside => bare (List.contains_iff_mem.mp inside)]
  rfl

theorem template_stem : Stem "template" :=
  ⟨by decide, by decide, by decide, by decide⟩

theorem mem_lower {text : Text} (dotted : '.' ∈ text) (before : Text) : '.' ∈ Case.lowerFrom before text := by
  have same (before after : Text) : Case.lowerWithin before '.' after = ['.'] := by
    have image : Case.image Case.lowerRuns Case.lowerExpansions '.' = ['.'] := by decide +kernel
    rw [Case.lowerWithin, if_neg (by decide), image]
  induction text generalizing before with
  | nil => cases dotted
  | cons char text ih =>
      rw [Case.lowerFrom]
      rcases List.mem_cons.mp dotted with rfl | later
      · rw [same]
        exact List.mem_cons_self
      · exact List.mem_append_right _ (ih later _)

theorem ofPath?_declared {declared : Text} (stop : declared.head? ≠ some '.') :
    ∃ found, ∀ stem, Stem stem → ofPath? (stem ++ '.' :: declared) = found := by
  obtain ⟨found, same⟩ := extension_declared stop
  refine ⟨(ofExtension? registered found.lower).or (ofExtension? customary found.lower), fun stem word => ?_⟩
  rw [ofPath?, same stem word]

/-- A text without a scheme is a path. -/
theorem guess?_unschemed {text : Text} (unschemed : splitScheme text = (none, text)) : guess? text = ofPath? text := by
  rw [guess?_eq, unschemed]
  exact if_neg nofun

/-- Behind a scheme other than that of inline documents there is a path. -/
theorem guess?_schemed {scheme : Text} (occupied : scheme ≠ []) (own : ':' ∉ scheme) (flat : '/' ∉ scheme)
    (other : Text.lower scheme ≠ "data") (rest : Text) : guess? (scheme ++ ':' :: rest) = ofPath? rest := by
  rw [guess?_eq, splitScheme_some own occupied flat]
  exact if_neg fun same => other (Option.some.inj same)

/-- Behind a stem there is no scheme but one that the declared suffix has itself, and that is not the one of inline
documents. -/
theorem guess?_declared {stem declared : Text} (word : Stem stem) :
    ((':' ∉ declared ∨ ∃ scheme rest, declared = scheme ++ ':' :: rest ∧ ':' ∉ scheme ∧ '/' ∈ scheme) →
      guess? (stem ++ '.' :: declared) = ofPath? (stem ++ '.' :: declared)) ∧
    ∀ scheme rest, declared = scheme ++ ':' :: rest → ':' ∉ scheme → '/' ∉ scheme →
      guess? (stem ++ '.' :: declared) = ofPath? rest := by
  have plain {scheme : Text} (own : ':' ∉ scheme) : ':' ∉ stem ++ '.' :: scheme := by simp [word.unschemed, own]
  refine ⟨fun lone => ?_, ?_⟩
  · have unschemed : splitScheme (stem ++ '.' :: declared) = (none, stem ++ '.' :: declared) := by
      refine splitScheme_none ?_
      rcases lone with own | ⟨scheme, rest, rfl, own, slashed⟩
      · exact .inl (plain own)
      · refine .inr ⟨stem ++ '.' :: scheme, rest, by rw [List.append_assoc]; rfl, plain own, .inl ?_⟩
        exact List.mem_append_right _ (List.mem_cons_of_mem _ slashed)
    exact guess?_unschemed unschemed
  · rintro scheme rest rfl own flat
    have flat' : '/' ∉ stem ++ '.' :: scheme := by simp [word.flat, flat]
    have occupied : stem ++ '.' :: scheme ≠ [] := List.append_ne_nil_of_left_ne_nil word.occupied _
    have other : Text.lower (stem ++ '.' :: scheme) ≠ "data" := by
      intro same
      have dotted := mem_lower (List.mem_append_right stem List.mem_cons_self : '.' ∈ stem ++ '.' :: scheme) []
      rw [← Text.lower, same] at dotted
      revert dotted
      decide
    rw [← List.cons_append, ← List.append_assoc]
    exact guess?_schemed occupied (plain own) flat' other rest

/-- The content type behind a stem does not depend on the stem. -/
theorem contentTypeOf_declared {stem declared : Text} (word : Stem stem) (stop : declared.head? ≠ some '.') :
    contentTypeOf (some (stem ++ '.' :: declared)) = contentTypeOf (some ("template" ++ '.' :: declared)) := by
  have dotted (stem : Text) : '.' ∈ stem ++ '.' :: declared := List.mem_append_right _ List.mem_cons_self
  rw [contentTypeOf_dotted (dotted _), contentTypeOf_dotted (dotted _)]
  obtain ⟨found, same⟩ := ofPath?_declared stop
  have lone (plain : ':' ∉ declared ∨
      ∃ scheme rest, declared = scheme ++ ':' :: rest ∧ ':' ∉ scheme ∧ '/' ∈ scheme) :
      guess? (stem ++ '.' :: declared) = guess? ("template" ++ '.' :: declared) := by
    rw [(guess?_declared word).1 plain, (guess?_declared template_stem).1 plain, same _ word, same _ template_stem]
  refine congrArg contentTypeOfGuess ?_
  by_cases colon : ':' ∈ declared
  · obtain ⟨scheme, rest, whole, own⟩ := List.eq_append_cons_of_mem colon
    by_cases slashed : '/' ∈ scheme
    · exact lone (.inr ⟨scheme, rest, whole, own, slashed⟩)
    · rw [(guess?_declared word).2 scheme rest whole own slashed,
        (guess?_declared template_stem).2 scheme rest whole own slashed]
  · exact lone (.inl colon)

/-- How the content type of a template in the program relates to the one of a template in a file, when the same suffix
is declared for both. -/
structure Related (suffix inline file : Text) : Prop where
  /-- Neither the name of the class nor leading dots matter to the file. -/
  anywhere : file = contentTypeOf (some ("template" ++ '.' :: undotted suffix))
  bare : '.' ∉ suffix → inline = file
  /-- The only extension of a suffix with dots is lost, as that of a name with leading dots. -/
  single : '.' ∈ suffix → ':' ∉ suffix → Single (undotted suffix) → inline = plainContentType
  several : '.' ∈ suffix → ':' ∉ suffix → ¬ Single (undotted suffix) → inline = file
  schemed : '.' ∈ suffix → ∀ scheme rest, suffix = scheme ++ ':' :: rest → ':' ∉ scheme →
    '/' ∈ scheme ∨ scheme ≠ [] ∧ Text.lower scheme ≠ "data" → inline = file
  /-- A colon in front is part of a path, but behind a stem it ends a scheme. -/
  unschemed : '.' ∈ suffix → ∀ rest, suffix = ':' :: rest →
    inline = contentTypeOfGuess (ofPath? suffix) ∧ file = contentTypeOfGuess (ofPath? rest)
  /-- Only in the program can the suffix be an inline document. -/
  document : '.' ∈ suffix → ∀ scheme rest, suffix = scheme ++ ':' :: rest → ':' ∉ scheme → '/' ∉ scheme →
    Text.lower scheme = "data" →
    inline = contentTypeOfGuess (ofInline? rest) ∧ file = contentTypeOfGuess (ofPath? rest)

theorem undotted_scheme (scheme rest : Text) :
    undotted (scheme ++ ':' :: rest) = undotted scheme ++ ':' :: rest := by
  obtain ⟨count, whole⟩ := leading_dots scheme
  have stop := head?_undotted scheme
  generalize undotted scheme = own at whole stop
  have stop' : (own ++ ':' :: rest).head? ≠ some '.' := by
    cases own with
    | nil => exact (by decide : some ':' ≠ some '.')
    | cons char own => exact stop
  rw [whole, List.append_assoc, undotted_dots count stop']

theorem undotted_bare {suffix : Text} (bare : '.' ∉ suffix) : undotted suffix = suffix :=
  undotted_dots 0 (head?_ne_of_not_mem bare)

theorem undotted_subset (text : Text) : undotted text ⊆ text := (List.dropWhile_suffix _).subset

theorem mem_undotted {text : Text} {char : Char} (member : char ∈ text) (other : char ≠ '.') :
    char ∈ undotted text := by
  obtain ⟨count, whole⟩ := leading_dots text
  rw [whole] at member
  exact (List.mem_append.mp member).resolve_left fun dot => other (List.eq_of_mem_replicate dot)

theorem colon_not_mem_undotted {text : Text} (own : ':' ∉ text) : ':' ∉ undotted text :=
  fun member => own (undotted_subset text member)

/-- A path of several pieces has the same type whatever stands in front of them. -/
theorem guess?_several {stem suffix : Text} (unschemed : splitScheme suffix = (none, suffix))
    (several : ¬ Single (undotted suffix))
    (read : guess? (stem ++ '.' :: undotted suffix) = ofPath? (stem ++ '.' :: undotted suffix)) :
    guess? suffix = guess? (stem ++ '.' :: undotted suffix) := by
  have stop := head?_undotted suffix
  obtain ⟨count, whole⟩ := leading_dots suffix
  have same : ofPath? suffix = ofPath? (undotted suffix) := by
    have front := ofPath?_front stop several (List.replicate count '.')
    rwa [← whole] at front
  rw [guess?_unschemed unschemed, read, List.append_cons, ofPath?_front stop several, same]

/-- The only piece behind leading dots is a name and no extension. -/
theorem guess?_single {suffix : Text} (plain : ':' ∉ suffix) (single : Single (undotted suffix)) :
    guess? suffix = none := by
  obtain ⟨count, whole⟩ := leading_dots suffix
  have dots := ofPath?_dots count single (head?_undotted suffix)
  rwa [← whole, ← guess?_unschemed (splitScheme_none (.inl plain))] at dots

/-- Behind a stem a flat text before a colon is a scheme. -/
theorem guess?_behind {stem scheme : Text} (word : Stem stem) (own : ':' ∉ scheme) (flat : '/' ∉ scheme)
    (rest : Text) : guess? (stem ++ '.' :: undotted (scheme ++ ':' :: rest)) = ofPath? rest :=
  (guess?_declared word).2 _ rest (undotted_scheme scheme rest) (colon_not_mem_undotted own)
    fun inside => flat (undotted_subset _ inside)

/-- What stands before a colon is a scheme with or without a stem in front, or part of a path with and without. -/
theorem guess?_before_colon {stem scheme : Text} (word : Stem stem) (own : ':' ∉ scheme) (rest : Text)
    (other : '/' ∈ scheme ∨ scheme ≠ [] ∧ Text.lower scheme ≠ "data") :
    guess? (scheme ++ ':' :: rest) = guess? (stem ++ '.' :: undotted (scheme ++ ':' :: rest)) := by
  by_cases slashed : '/' ∈ scheme
  · have declared := undotted_scheme scheme rest
    have inside := mem_undotted slashed (by decide)
    refine guess?_several (splitScheme_none (.inr ⟨scheme, rest, rfl, own, .inl slashed⟩)) ?_ ?_
    · exact not_single_of_slash (declared ▸ List.mem_append_left _ inside)
    · exact (guess?_declared word).1 (.inr ⟨_, rest, declared, colon_not_mem_undotted own, inside⟩)
  · obtain ⟨occupied, other⟩ := other.resolve_left slashed
    rw [guess?_behind word own slashed]
    exact guess?_schemed occupied own slashed other rest

/-- The content types of a template in the program and of one in a file are related as described. -/
theorem contentTypes_related {stem : Text} (word : Stem stem) (suffix : Text) :
    Related suffix (contentTypeOf (some suffix)) (contentTypeOf (some (stem ++ '.' :: undotted suffix))) := by
  have behind (suffix : Text) : '.' ∈ stem ++ '.' :: undotted suffix := List.mem_append_right _ List.mem_cons_self
  refine ⟨contentTypeOf_declared word (head?_undotted suffix), fun bare => ?_, fun dotted plain single => ?_,
    fun dotted plain several => ?_, ?_, ?_, ?_⟩
  · rw [undotted_bare bare]
    by_cases occupied : suffix = []
    · rw [occupied, contentTypeOf_declared word (by decide)]
      decide +kernel
    · rw [contentTypeOf_bare occupied bare, contentTypeOf_declared word (head?_ne_of_not_mem bare)]
  · rw [contentTypeOf_dotted dotted, guess?_single plain single]
    rfl
  · rw [contentTypeOf_dotted dotted, contentTypeOf_dotted (behind _)]
    have read := (guess?_declared word).1 (.inl (colon_not_mem_undotted plain))
    exact congrArg _ (guess?_several (splitScheme_none (.inl plain)) several read)
  · rintro dotted scheme rest rfl own other
    rw [contentTypeOf_dotted dotted, contentTypeOf_dotted (behind _), guess?_before_colon word own rest other]
  · rintro dotted rest rfl
    have unschemed : splitScheme (':' :: rest) = (none, ':' :: rest) :=
      splitScheme_none (.inr ⟨[], rest, rfl, List.not_mem_nil, .inr rfl⟩)
    have read : guess? (stem ++ '.' :: undotted (':' :: rest)) = ofPath? rest :=
      guess?_behind word List.not_mem_nil List.not_mem_nil rest
    rw [contentTypeOf_dotted dotted, contentTypeOf_dotted (behind _), guess?_unschemed unschemed, read]
    exact ⟨rfl, rfl⟩
  · rintro dotted scheme rest rfl own flat data
    have occupied : scheme ≠ [] := by
      rintro rfl
      revert data
      decide
    rw [contentTypeOf_dotted dotted, contentTypeOf_dotted (behind _), guess?_behind word own flat, guess?_eq,
      splitScheme_some own occupied flat, data]
    exact ⟨rfl, rfl⟩

/-! ## Bindings and templates -/

namespace Effect

/-- The policy of an environment that may be given; a new environment has the standard one. -/
def governing (environment : Option Environment) (world : World) : EscapePolicy :=
  match environment with
  | none => .standard
  | some environment => (world.policies[environment.policy]?).getD .standard

theorem standardEnvironment_done (loader : Option Loader) (world : World) :
    standardEnvironment loader world = .done ⟨loader, world.policies.size, Environment.standardMarker⟩
      { world with policies := world.policies.push .standard } := rfl

theorem environmentFor_done (record : ClassRecord) (options : DisplayOptions) (world : World) :
    ∃ environment after, environmentFor record options world = .done environment after ∧
      after.modules = world.modules ∧
      governing (some environment) after = governing options.environment world := by
  obtain ⟨text, path, suffix, loader, environment, escape, reload⟩ := options
  have fresh : ((world.policies.push .standard)[world.policies.size]?).getD .standard = EscapePolicy.standard := by
    rw [Array.getElem?_push_size, Option.getD_some]
  cases environment with
  | some environment =>
      cases loader with
      | some loader => exact ⟨_, _, rfl, rfl, rfl⟩
      | none => exact ⟨_, _, rfl, rfl, rfl⟩
  | none =>
      cases loader with
      | some loader => exact ⟨_, _, standardEnvironment_done (some loader) world, rfl, fresh⟩
      | none =>
          cases text with
          | some text => exact ⟨_, _, standardEnvironment_done none world, rfl, fresh⟩
          | none => exact ⟨_, _, rfl, rfl, fresh⟩

/-- A class whose module is known is bound as soon as its template has a name. -/
theorem bindClass_done {record : ClassRecord} (options : DisplayOptions) {world : World} {name contentType : Text}
    (one : (options.text.isSome && options.path.isSome) = false)
    (known : (world.modules.lookup record.module).isSome)
    (named : ∀ world, templateOf record options world = .done (name, contentType) world) :
    ∃ binding after, bindClass record options world = .done binding after ∧ binding.name = name ∧
      binding.text = options.text ∧ binding.contentType = contentType ∧
      binding.escape = options.escape.getD ((governing options.environment world).escapes contentType) := by
  obtain ⟨environment, after, made, modules, governed⟩ := environmentFor_done record options world
  obtain ⟨namespaceNumber, there⟩ := Option.isSome_iff_exists.mp (modules ▸ known)
  refine ⟨⟨environment, name, options.text, contentType, options.escape.getD
    ((governing (some environment) after).escapes contentType), namespaceNumber⟩, after, ?_, rfl, rfl, rfl,
    congrArg (fun policy => options.escape.getD (EscapePolicy.escapes policy contentType)) governed⟩
  have policy : policyOf environment after = .done (governing (some environment) after) after := rfl
  rw [bindClass, if_neg (Bool.eq_false_iff.mp one), bind_done made, bind_done (named after)]
  refine (bind_done policy).trans ((world_bind _ after).trans ?_)
  rw [there]
  rfl

/-- Compiling gives a template of the source, which escapes as the policy of the environment decides unless that is
given. -/
theorem compile_decides {environment : Environment} {source : TemplateSource} {escape : Option Bool}
    {globals number : Nat} {world after : World}
    (compiled : compile environment source escape globals world = .done number after) :
    ∃ template, after.templates[number]? = some template ∧ template.source = source ∧
      template.escape = escape.getD ((governing (some environment) world).escapes source.contentType) := by
  have settled : compile environment source escape globals world = compile environment source
      (some (escape.getD ((governing (some environment) world).escapes source.contentType))) globals world := rfl
  rw [settled] at compiled
  generalize escape.getD ((governing (some environment) world).escapes source.contentType) = decided at compiled
  cases accepted : source.routine environment.marker decided with
  | ok routine =>
      rw [Routine.compile_installed accepted] at compiled
      cases compiled
      exact ⟨_, (Routine.standing_installed source decided routine globals world).listed, rfl, rfl⟩
  | error error =>
      have policy : policyOf environment world = .done (governing (some environment) world) world := rfl
      rw [compile, bind_done policy] at compiled
      dsimp only [Option.getD_some] at compiled
      rw [accepted] at compiled
      cases error <;> cases compiled

/-- Whether a template has a content type, and escapes as a policy decides about it unless that is given. -/
def Decided (contentType : Text) (escape : Option Bool) (policy : EscapePolicy) (template : Template) : Prop :=
  template.source.contentType = contentType ∧ template.escape = escape.getD (policy.escapes contentType)

/-- Compile a text in an environment, with a suffix that may be declared. -/
def compileText (environment : Environment) (text : Text) (name suffix : Option Text) (escape : Option Bool)
    (globals : Nat) : Effect Nat :=
  compile environment ⟨text, name, none, contentTypeOf suffix⟩ escape globals

/-- A session compiles the texts that it is given in this way. -/
theorem define_compileText (registry : Registry) (id : Text) (environment : Option Text) (text : Text)
    (name suffix : Option Text) (options : TemplateOptions) :
    Session.define registry id (.template environment text name suffix options) = (do
      let environment ← Session.environmentIfAny registry environment
      let number ← (do
        let globals ← openNamespace (← Sketch.buildNamed registry options.globals)
        compileText environment text name suffix options.escape globals)
      return (← Session.templateAnswer number,
        { registry with templates := putEntry id number registry.templates })) := rfl

theorem compileText_decided {environment : Environment} {text : Text} {name suffix : Option Text}
    {escape : Option Bool} {globals number : Nat} {world after : World}
    (compiled : compileText environment text name suffix escape globals world = .done number after) :
    ∃ template, after.templates[number]? = some template ∧
      Decided (contentTypeOf suffix) escape (governing (some environment) world) template := by
  obtain ⟨template, listed, source, decides⟩ := compile_decides compiled
  exact ⟨template, listed, congrArg TemplateSource.contentType source, decides⟩

theorem sourceOf_contentType {environment : Environment} {name : Text} {source : TemplateSource} {world after : World}
    (found : sourceOf environment name world = .done source after) :
    source.contentType = contentTypeOf (some name) := by
  rw [sourceOf, world_bind, Environment.source] at found
  cases loader : environment.loader with
  | none =>
      rw [loader] at found
      cases found
  | some loader' =>
      rw [loader] at found
      dsimp only at found
      cases read : loader'.read world.library name with
      | ok loaded =>
          rw [read] at found
          cases found
          rfl
      | error error =>
          rw [read] at found
          cases error <;> cases found

/-- The template that a binding gives has the content type of the binding and escapes as the binding says. -/
theorem build_decided {binding : Binding} {number : Nat} {world after : World}
    (named : binding.text = none → binding.contentType = contentTypeOf (some binding.name))
    (built : build binding world = .done number after) :
    ∃ template, after.templates[number]? = some template ∧
      template.source.contentType = binding.contentType ∧ template.escape = binding.escape := by
  rw [build] at built
  cases text : binding.text with
  | some text' =>
      rw [text] at built
      obtain ⟨template, listed, same, escapes⟩ := compile_decides built
      exact ⟨template, listed, congrArg TemplateSource.contentType same, escapes⟩
  | none =>
      rw [text] at built
      obtain ⟨source, middle, found, compiled⟩ := of_bind_done built
      obtain ⟨template, listed, same, escapes⟩ := compile_decides compiled
      refine ⟨template, listed, ?_, escapes⟩
      rw [same, sourceOf_contentType found, named text]

/-- For a class whose name is an identifier, displaying it by a text and by a file with the same declared suffix, and
compiling a text with that suffix, decide about content type and escaping as follows.  The content types are related as
described, whatever the class is called and in every environment. -/
theorem declared_suffix_decides {record : ClassRecord} (identifier : Naming.isIdentifier record.name)
    {world : World} (known : (world.modules.lookup record.module).isSome) (text suffix : Text)
    (loader : Option Loader) (environment : Option Environment) (escape : Option Bool) (reload : Bool) :
    ∃ inline file inlineWorld fileWorld,
      bindClass record ⟨some text, none, some suffix, loader, environment, escape, reload⟩ world =
        .done inline inlineWorld ∧
      bindClass record ⟨none, none, some suffix, loader, environment, escape, reload⟩ world =
        .done file fileWorld ∧
      Naming.fileName record.name (some suffix) = .ok file.name ∧
      (∀ {number after}, build inline inlineWorld = .done number after →
        ∃ template, after.templates[number]? = some template ∧
          Decided inline.contentType escape (governing environment world) template) ∧
      (∀ {number after}, build file fileWorld = .done number after →
        ∃ template, after.templates[number]? = some template ∧
          Decided file.contentType escape (governing environment world) template) ∧
      (∀ {environment name escape globals number world after},
        compileText environment text name (some suffix) escape globals world = .done number after →
        ∃ template, after.templates[number]? = some template ∧
          Decided inline.contentType escape (governing (some environment) world) template) ∧
      Related suffix inline.contentType file.contentType := by
  obtain ⟨stem, word, named⟩ := Naming.fileName_declared identifier suffix
  have fileNamed (world : World) : templateOf record ⟨none, none, some suffix, loader, environment, escape, reload⟩
      world = .done (stem ++ '.' :: undotted suffix, contentTypeOf (some (stem ++ '.' :: undotted suffix))) world := by
    dsimp only [templateOf, firstGiven?]
    rw [named]
    rfl
  obtain ⟨inline, inlineWorld, boundInline, -, inlineText, inlineType, inlineEscape⟩ :=
    bindClass_done ⟨some text, none, some suffix, loader, environment, escape, reload⟩ rfl known fun world => rfl
  obtain ⟨file, fileWorld, boundFile, fileName, -, fileType, fileEscape⟩ :=
    bindClass_done ⟨none, none, some suffix, loader, environment, escape, reload⟩ rfl known fileNamed
  refine ⟨inline, file, inlineWorld, fileWorld, boundInline, boundFile, ?_, ?_, ?_, ?_, ?_⟩
  · rw [fileName, named]
  · intro number after built
    obtain ⟨template, listed, sameType, sameEscape⟩ :=
      build_decided (fun lacking => by cases inlineText ▸ lacking) built
    exact ⟨template, listed, sameType, by rw [sameEscape, inlineEscape, inlineType]⟩
  · intro number after built
    obtain ⟨template, listed, sameType, sameEscape⟩ := build_decided (fun _ => by rw [fileType, fileName]) built
    exact ⟨template, listed, sameType, by rw [sameEscape, fileEscape, fileType]⟩
  · intro environment name escape globals number world after compiled
    rw [inlineType]
    exact compileText_decided compiled
  · rw [inlineType, fileType]
    exact contentTypes_related word suffix

/-- A class of a module that every session has. -/
def pageRecord : ClassRecord := ⟨"Page", "Page", "main", none, []⟩

/-- A text displayed with the suffix `.html` is plain, although the file of the same class and suffix is a page. -/
theorem page_suffix_decides : ∃ inline file inlineWorld fileWorld,
    bindClass pageRecord ⟨some "<b>", none, some ".html", none, none, none, false⟩
      (Session.start [] "main" [] false).world = .done inline inlineWorld ∧
    bindClass pageRecord ⟨none, none, some ".html", none, none, none, false⟩
      (Session.start [] "main" [] false).world = .done file fileWorld ∧
    .ok file.name = Naming.fileName "Page" (some ".html") ∧
    inline.contentType = plainContentType ∧ file.contentType = contentTypeOf (some "template.html") := by
  obtain ⟨inline, file, inlineWorld, fileWorld, boundInline, boundFile, named, -, -, -, related⟩ :=
    @declared_suffix_decides pageRecord (by decide) (Session.start [] "main" [] false).world (by decide) "<b>" ".html"
      none none none false
  have piece : Single (undotted ".html") := ⟨"html", by decide, by decide, .inl rfl⟩
  exact ⟨inline, file, inlineWorld, fileWorld, boundInline, boundFile, named.symm,
    related.single (by decide) (by decide) piece, related.anywhere⟩

/-- Leading dots change the decision: with the suffix `.html` a text is not escaped, but the file is. -/
theorem dotted_suffix_unescaped :
    Naming.isIdentifier "Page" ∧ Naming.fileName "Page" (some ".html") = .ok ("page.html" : Text) ∧
      contentTypeOf (some ".html") ≠ contentTypeOf (some "page.html") ∧
      EscapePolicy.standard.escapes (contentTypeOf (some ".html")) = false ∧
      EscapePolicy.standard.escapes (contentTypeOf (some "page.html")) = true := by
  decide +kernel

end Effect

end Stencil
