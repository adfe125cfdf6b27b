import Mathlib.Data.List.TakeWhile
import Stencil.MediaType.Content

/-!
# Extensions of file names

The extension of a path is what a media type is looked up by.  What stands in front of a path leaves its extension as it
is, as soon as something of the path itself stands before its last dot.
-/

namespace Stencil

namespace MediaType

/-! ## Splitting a name -/

/-- A text without its leading dots. -/
def undotted (text : Text) : Text := text.dropWhile (· == '.')

/-- Whether a text has something else than dots. -/
def Named (text : Text) : Prop := ∃ char ∈ text, char ≠ '.'

theorem leading_dots (text : Text) : ∃ count, text = List.replicate count '.' ++ undotted text := by
  refine ⟨(text.takeWhile (· == '.')).length, ?_⟩
  have dots : text.takeWhile (· == '.') = List.replicate (text.takeWhile (· == '.')).length '.' :=
    List.eq_replicate_iff.mpr ⟨rfl, fun char member => by simpa using List.mem_takeWhile_imp member⟩
  rw [← dots]
  exact List.takeWhile_append_dropWhile.symm

theorem head?_undotted (text : Text) : (undotted text).head? ≠ some '.' := by
  have stopped := List.head?_dropWhile_not (· == '.') text
  intro dot
  rw [undotted] at dot
  rw [dot] at stopped
  cases stopped

theorem takeWhile_dots (count : Nat) {rest : Text} (stop : rest.head? ≠ some '.') :
    (List.replicate count '.' ++ rest).takeWhile (· == '.') = List.replicate count '.' := by
  have none : rest.takeWhile (· == '.') = [] := by
    cases rest with
    | nil => rfl
    | cons char rest =>
        have other : (char == '.') = false := beq_eq_false_iff_ne.mpr fun same => stop (congrArg some same)
        rw [List.takeWhile_cons, other]
        rfl
  rw [List.takeWhile_append_of_pos (by simp), none, List.append_nil]

theorem undotted_dots (count : Nat) {rest : Text} (stop : rest.head? ≠ some '.') :
    undotted (List.replicate count '.' ++ rest) = rest := by
  rw [undotted, List.dropWhile_append_of_pos (by simp)]
  cases rest with
  | nil => rfl
  | cons char rest =>
      have other : (char == '.') = false := beq_eq_false_iff_ne.mpr fun same => stop (congrArg some same)
      rw [List.dropWhile_cons, other]
      rfl

theorem head?_ne_of_not_mem {text : Text} (plain : '.' ∉ text) : text.head? ≠ some '.' :=
  fun first => plain (List.mem_of_mem_head? first)

/-- Nothing is split off behind leading dots, unless there is a further dot. -/
theorem splitName_undivided (count : Nat) {last : Text} (plain : '.' ∉ last) :
    splitName (List.replicate count '.' ++ last) = (List.replicate count '.' ++ last, []) := by
  have whole : last.reverse.dropWhile (· != '.') = [] :=
    List.dropWhile_eq_nil_iff.mpr fun char member =>
      bne_iff_ne.mpr fun same => plain (same ▸ List.mem_reverse.mp member)
  rw [splitName, takeWhile_dots count (head?_ne_of_not_mem plain), List.drop_left, whole]

/-- A name is split before its last dot when something else than dots stands there. -/
theorem splitName_named {stem last : Text} (named : Named stem) (plain : '.' ∉ last) :
    splitName (stem ++ '.' :: last) = (stem, '.' :: last) := by
  obtain ⟨count, whole⟩ := leading_dots stem
  have stop := head?_undotted stem
  generalize undotted stem = rest at whole stop
  subst whole
  have occupied : rest ≠ [] := by
    rintro rfl
    obtain ⟨char, member, other⟩ := named
    rw [List.append_nil] at member
    exact other (List.eq_of_mem_replicate member)
  have stop' : (rest ++ '.' :: last).head? ≠ some '.' := by
    rw [List.head?_append, Option.or_of_isSome (List.isSome_head?.mpr occupied)]
    exact stop
  have skipped : ∀ char ∈ last.reverse, (char != '.') = true := fun char member =>
    bne_iff_ne.mpr fun same => plain (same ▸ List.mem_reverse.mp member)
  have back : (rest ++ '.' :: last).reverse.dropWhile (· != '.') = '.' :: rest.reverse := by
    rw [List.reverse_append, List.reverse_cons, List.append_assoc, List.dropWhile_append_of_pos skipped]
    rfl
  rw [List.append_assoc, splitName, takeWhile_dots count stop', List.drop_left, back]
  dsimp only
  rw [List.reverse_reverse, List.length_reverse, List.drop_left]

/-! ## Splitting a path -/

theorem length_component (path : Text) : (path.reverse.takeWhile (· != '/')).length ≤ path.length :=
  (List.takeWhile_prefix _).length_le.trans_eq List.length_reverse

theorem splitComponent_whole (path : Text) : (splitComponent path).1 ++ (splitComponent path).2 = path := by
  obtain ⟨directory, whole⟩ : (path.reverse.takeWhile (· != '/')).reverse <:+ path := by
    rw [← List.reverse_prefix, List.reverse_reverse]
    exact List.takeWhile_prefix _
  rw [splitComponent]
  dsimp only
  generalize (path.reverse.takeWhile (· != '/')).reverse = component at whole
  subst whole
  simp

/-- The last component does not depend on what stands before it. -/
theorem splitComponent_behind {path : Text} (inside : '/' ∈ path) (front : Text) :
    splitComponent (front ++ path) = (front ++ (splitComponent path).1, (splitComponent path).2) := by
  have component : (front ++ path).reverse.takeWhile (· != '/') = path.reverse.takeWhile (· != '/') := by
    have short : (path.reverse.takeWhile (· != '/')).length ≠ path.reverse.length := by
      intro same
      have whole := List.takeWhile_eq_self_iff.mp ((List.takeWhile_prefix _).eq_of_length same)
      have other := whole '/' (List.mem_reverse.mpr inside)
      cases other
    rw [List.reverse_append, List.takeWhile_append, if_neg short]
  have place : (front ++ path).length - (path.reverse.takeWhile (· != '/')).length =
      front.length + (path.length - (path.reverse.takeWhile (· != '/')).length) := by
    have least := length_component path
    rw [List.length_append]
    omega
  simp only [splitComponent, component, List.length_reverse, place, List.take_length_add_append]

theorem splitComponent_front {path : Text} (alone : '/' ∉ path) (front : Text) :
    splitComponent (front ++ path) = ((splitComponent front).1, (splitComponent front).2 ++ path) := by
  have skipped : ∀ char ∈ path.reverse, (char != '/') = true := fun char member =>
    bne_iff_ne.mpr fun same => alone (same ▸ List.mem_reverse.mp member)
  have place : (front ++ path).length - (path.reverse ++ front.reverse.takeWhile (· != '/')).reverse.length =
      front.length - (front.reverse.takeWhile (· != '/')).length := by
    rw [List.length_reverse, List.length_append, List.length_append, List.length_reverse]
    omega
  have within : front.length - (front.reverse.takeWhile (· != '/')).length ≤ front.length := Nat.sub_le _ _
  rw [splitComponent, List.reverse_append, List.takeWhile_append_of_pos skipped, place,
    List.take_append_of_le_length within, List.reverse_append, List.reverse_reverse, splitComponent,
    List.length_reverse]

theorem splitComponent_alone {path : Text} (alone : '/' ∉ path) : splitComponent path = ([], path) :=
  splitComponent_front alone []

theorem splitExtension_alone {path : Text} (alone : '/' ∉ path) : splitExtension path = splitName path := by
  rw [splitExtension, splitComponent_alone alone]
  rfl

/-- Whether the extension of a path does not depend on what stands in front of the path. -/
def Firm (path : Text) : Prop :=
  '/' ∈ path ∨ ∃ stem last, path = stem ++ '.' :: last ∧ Named stem ∧ '.' ∉ last

theorem Named.front {stem : Text} (named : Named stem) (front : Text) : Named (front ++ stem) := by
  obtain ⟨char, member, other⟩ := named
  exact ⟨char, List.mem_append_right front member, other⟩

theorem splitExtension_front {path : Text} (firm : Firm path) (front : Text) :
    splitExtension (front ++ path) = (front ++ (splitExtension path).1, (splitExtension path).2) := by
  by_cases inside : '/' ∈ path
  · rw [splitExtension, splitComponent_behind inside, splitExtension]
    simp only [List.append_assoc]
  · obtain ⟨stem, last, rfl, named, plain⟩ := firm.resolve_left inside
    rw [splitExtension_alone inside, splitName_named named plain, splitExtension, splitComponent_front inside]
    dsimp only
    rw [← List.append_assoc, splitName_named (named.front _) plain]
    dsimp only
    rw [← List.append_assoc, splitComponent_whole]

theorem named_of_head {text : Text} (occupied : text ≠ []) (stop : text.head? ≠ some '.') : Named text := by
  obtain ⟨char, rest, rfl⟩ := List.exists_cons_of_ne_nil occupied
  exact ⟨char, List.mem_cons_self, fun same => stop (congrArg some same)⟩

theorem last_dot {text : Text} (dotted : '.' ∈ text) : ∃ stem last, text = stem ++ '.' :: last ∧ '.' ∉ last := by
  induction text with
  | nil => cases dotted
  | cons char rest ih =>
      by_cases further : '.' ∈ rest
      · obtain ⟨stem, last, rfl, plain⟩ := ih further
        exact ⟨char :: stem, last, rfl, plain⟩
      · obtain rfl := (List.mem_cons.mp dotted).resolve_right further
        exact ⟨[], rest, rfl, further⟩

/-- A text with a dot that does not start with one is split before its last dot. -/
theorem firm_of_dotted {path : Text} (dotted : '.' ∈ path) (stop : path.head? ≠ some '.') : Firm path := by
  obtain ⟨stem, last, rfl, plain⟩ := last_dot dotted
  have occupied : stem ≠ [] := by
    rintro rfl
    exact stop rfl
  rw [List.head?_append, Option.or_of_isSome (List.isSome_head?.mpr occupied)] at stop
  exact .inr ⟨stem, last, rfl, named_of_head occupied stop, plain⟩

theorem splitName_cases (text : Text) : splitName text = (text, []) ∨
    ∃ stem last, splitName text = (stem, '.' :: last) ∧ text = stem ++ '.' :: last := by
  by_cases dotted : '.' ∈ text
  · obtain ⟨stem, last, rfl, plain⟩ := last_dot dotted
    by_cases named : Named stem
    · exact .inr ⟨stem, last, splitName_named named plain, rfl⟩
    · have dots : stem = List.replicate stem.length '.' :=
        List.eq_replicate_iff.mpr ⟨rfl, fun char member => by_contra fun other => named ⟨char, member, other⟩⟩
      have more : stem ++ '.' :: last = List.replicate (stem.length + 1) '.' ++ last := by
        rw [List.replicate_succ', List.append_assoc, ← dots]
        rfl
      rw [more]
      exact .inl (splitName_undivided _ plain)
  · exact .inl (splitName_undivided 0 dotted)

/-- The two parts of a path are the path. -/
theorem splitExtension_whole (path : Text) : (splitExtension path).1 ++ (splitExtension path).2 = path := by
  have whole : (splitName (splitComponent path).2).1 ++ (splitName (splitComponent path).2).2 =
      (splitComponent path).2 := by
    rcases splitName_cases (splitComponent path).2 with none | ⟨stem, last, split, whole⟩
    · rw [none, List.append_nil]
    · rw [split, ← whole]
  rw [splitExtension]
  dsimp only
  rw [List.append_assoc, whole, splitComponent_whole]

/-- Whether a path leads with something that keeps what follows from being a first piece. -/
def Led (path : Text) : Prop := '/' ∈ path ∨ path ≠ [] ∧ path.head? ≠ some '.'

theorem Led.append {path : Text} (led : Led path) (back : Text) : Led (path ++ back) := by
  rcases led with inside | ⟨occupied, stop⟩
  · exact .inl (List.mem_append_left back inside)
  · refine .inr ⟨List.append_ne_nil_of_left_ne_nil occupied back, ?_⟩
    rw [List.head?_append, Option.or_of_isSome (List.isSome_head?.mpr occupied)]
    exact stop

theorem Led.firm {path : Text} (led : Led path) (parted : '/' ∈ path ∨ '.' ∈ path) : Firm path := by
  rcases led with inside | ⟨-, stop⟩
  · exact .inl inside
  · rcases parted with inside | dotted
    · exact .inl inside
    · exact firm_of_dotted dotted stop

/-- What is left of a path without its extension leads as the path does. -/
theorem Led.splitExtension {path : Text} (led : Led path) : Led (splitExtension path).1 := by
  by_cases inside : '/' ∈ path
  · refine .inl (List.mem_append_left _ ?_)
    rw [← splitComponent_whole path] at inside
    refine (List.mem_append.mp inside).resolve_right fun last => ?_
    have other := List.mem_takeWhile_imp (List.mem_reverse.mp last)
    cases other
  · obtain ⟨occupied, stop⟩ := led.resolve_left inside
    rw [splitExtension_alone inside]
    rcases splitName_cases path with none | ⟨stem, last, split, rfl⟩
    · rw [none]
      exact .inr ⟨occupied, stop⟩
    · have some : stem ≠ [] := by
        rintro rfl
        exact stop rfl
      rw [List.head?_append, Option.or_of_isSome (List.isSome_head?.mpr some)] at stop
      rw [split]
      exact .inr ⟨some, stop⟩

/-! ## Abbreviated and compressed files -/

theorem splitExtension_plain {stem last : Text} (named : Named stem) (whole : '/' ∉ stem) (plain : '.' ∉ last)
    (alone : '/' ∉ last) : splitExtension (stem ++ '.' :: last) = (stem, '.' :: last) := by
  rw [splitExtension_alone (by simp [whole, alone]), splitName_named named plain]

/-- Extensions of compressed files have one dot, which they begin with, and abbreviate nothing. -/
theorem compression_parts {outer : String} (listed : outer ∈ compressions) :
    ∃ last, outer.toList = '.' :: last ∧ '.' ∉ last ∧ '/' ∉ last ∧
      lookupText abbreviations (Text.lower ('.' :: last)) = none := by
  have parts : ∀ outer ∈ compressions, outer.toList = '.' :: outer.toList.tail ∧ '.' ∉ outer.toList.tail ∧
      '/' ∉ outer.toList.tail ∧ lookupText abbreviations (Text.lower ('.' :: outer.toList.tail)) = none := by
    decide +kernel
  exact ⟨_, parts outer listed⟩

/-- An abbreviated extension is written out as two extensions, whatever it belongs to. -/
theorem expandAbbreviation_cases (suffix : Text) :
    (∀ stem, expandAbbreviation 2 (stem, suffix) = (stem, suffix)) ∨
      ∃ inner, '.' ∉ inner ∧ '/' ∉ inner ∧ ∃ outer ∈ compressions,
        ∀ stem, expandAbbreviation 2 (stem, suffix) = (stem ++ '.' :: inner, outer.toList) := by
  cases found : lookupText abbreviations suffix.lower with
  | none =>
      refine .inl fun stem => ?_
      rw [expandAbbreviation, found]
  | some full =>
      have one : full ∈ abbreviations.map Prod.snd := by
        obtain ⟨entry, listed, rfl⟩ := Option.map_eq_some_iff.mp found
        exact List.mem_map_of_mem (List.mem_of_find?_eq_some listed)
      have parts : ∀ full ∈ abbreviations.map Prod.snd, ∃ inner ∈ ["svg", "tar"], ∃ outer ∈ compressions,
          full.toList = '.' :: inner.toList ++ outer.toList := by
        decide
      have lone : ∀ inner ∈ ["svg", "tar"], '.' ∉ inner.toList ∧ '/' ∉ inner.toList ∧ inner.toList ≠ [] := by
        decide
      obtain ⟨inner, among, outer, listed, whole⟩ := parts full one
      obtain ⟨plain, alone, occupied⟩ := lone inner among
      obtain ⟨last, same, plain', alone', settled⟩ := compression_parts listed
      have named : Named ('.' :: inner.toList) := by
        obtain ⟨char, member⟩ := List.exists_mem_of_ne_nil _ occupied
        exact ⟨char, List.mem_cons_of_mem _ member, fun same => plain (same ▸ member)⟩
      refine .inr ⟨inner.toList, plain, alone, outer, listed, fun stem => ?_⟩
      rw [expandAbbreviation, found]
      dsimp only
      rw [whole, same, splitExtension_front (.inr ⟨_, _, rfl, named, plain'⟩),
        splitExtension_plain named (by simpa using alone) plain' alone', expandAbbreviation, settled]

/-- The extension that the media type of a path is looked up by. -/
def extension (path : Text) : Text := (dropCompression (expandAbbreviation 2 (splitExtension path))).2

theorem dropCompression_listed {stem suffix : Text} {outer : String} (listed : outer ∈ compressions)
    (same : outer.toList = suffix) : dropCompression (stem, suffix) = splitExtension stem := by
  have any : (compressions.any fun known => known.toList == suffix) = true :=
    List.any_eq_true.mpr ⟨outer, listed, beq_iff_eq.mpr same⟩
  exact if_pos any

theorem dropCompression_unlisted {stem suffix : Text} (unlisted : ∀ outer ∈ compressions, outer.toList ≠ suffix) :
    dropCompression (stem, suffix) = (stem, suffix) := by
  refine if_neg fun any => ?_
  obtain ⟨outer, listed, same⟩ := List.any_eq_true.mp any
  exact unlisted outer listed (beq_iff_eq.mp same)

/-- The extension of a compressed file whose own extension is known to be split off. -/
theorem extension_compressed {path stem : Text} {outer : String} (listed : outer ∈ compressions)
    (split : splitExtension path = (stem, outer.toList)) : extension path = (splitExtension stem).2 := by
  obtain ⟨last, same, -, -, settled⟩ := compression_parts listed
  rw [extension, split, same, expandAbbreviation, settled]
  dsimp only
  rw [dropCompression_listed listed same]

/-- Whether a path is one piece, or the name of a compressed file that is otherwise one piece. -/
def Single (path : Text) : Prop :=
  ∃ piece, '.' ∉ piece ∧ '/' ∉ piece ∧ (path = piece ∨ ∃ outer ∈ compressions, path = piece ++ outer.toList)

theorem not_single_of_slash {path : Text} (inside : '/' ∈ path) : ¬ Single path := by
  rintro ⟨piece, -, flat, rfl | ⟨outer, listed, rfl⟩⟩
  · exact flat inside
  · have flat' : ∀ outer ∈ compressions, '/' ∉ outer.toList := by decide
    exact (List.mem_append.mp inside).elim flat (flat' outer listed)

/-- What stands in front of a path of several pieces does not change its extension. -/
theorem extension_front {path : Text} (led : Led path) (several : ¬ Single path) (front : Text) :
    extension (front ++ path) = extension path := by
  have parted {path : Text} (lone : ¬ ('/' ∈ path ∨ '.' ∈ path)) : '.' ∉ path ∧ '/' ∉ path :=
    ⟨fun dotted => lone (.inr dotted), fun inside => lone (.inl inside)⟩
  have firm : Firm path := by
    refine led.firm (by_contra fun lone => several ?_)
    exact ⟨path, (parted lone).1, (parted lone).2, .inl rfl⟩
  obtain ⟨stem, suffix, split⟩ : ∃ stem suffix, splitExtension path = (stem, suffix) := ⟨_, _, rfl⟩
  have whole := splitExtension_whole path
  have ahead := led.splitExtension
  rw [split] at whole ahead
  rw [extension, extension, splitExtension_front firm, split]
  rcases expandAbbreviation_cases suffix with settled | ⟨inner, -, -, outer, listed, written⟩
  · rw [settled, settled]
    by_cases any : ∃ outer ∈ compressions, outer.toList = suffix
    · obtain ⟨outer, listed, same⟩ := any
      have firm' : Firm stem := by
        refine ahead.firm (by_contra fun lone => several ?_)
        exact ⟨stem, (parted lone).1, (parted lone).2, .inr ⟨outer, listed, by rw [same, whole]⟩⟩
      rw [dropCompression_listed listed same, dropCompression_listed listed same, splitExtension_front firm']
    · have unlisted : ∀ outer ∈ compressions, outer.toList ≠ suffix :=
        fun outer listed same => any ⟨outer, listed, same⟩
      rw [dropCompression_unlisted unlisted, dropCompression_unlisted unlisted]
  · have firm' : Firm (stem ++ '.' :: inner) :=
      (ahead.append _).firm (.inr (List.mem_append_right _ List.mem_cons_self))
    rw [written, written, dropCompression_listed listed rfl, dropCompression_listed listed rfl, List.append_assoc,
      splitExtension_front firm']

theorem led_of_several {path : Text} (stop : path.head? ≠ some '.') (several : ¬ Single path) : Led path := by
  refine .inr ⟨?_, stop⟩
  rintro rfl
  exact several ⟨[], List.not_mem_nil, List.not_mem_nil, .inl rfl⟩

theorem dropCompression_nil (stem : Text) : dropCompression (stem, []) = (stem, []) :=
  dropCompression_unlisted (by decide)

theorem extension_of_nil {path : Text} (split : splitExtension path = (path, [])) : extension path = [] := by
  have settled : expandAbbreviation 2 (path, []) = (path, []) := by
    have unknown : lookupText abbreviations (Text.lower []) = none := by decide +kernel
    rw [expandAbbreviation, unknown]
  rw [extension, split, settled, dropCompression_nil]

/-- Leading dots leave a single piece without an extension. -/
theorem extension_dots (count : Nat) {path : Text} (single : Single path) (stop : path.head? ≠ some '.') :
    extension (List.replicate count '.' ++ path) = [] := by
  have one (piece : Text) (plain : '.' ∉ piece) (alone : '/' ∉ piece) :
      splitExtension (List.replicate count '.' ++ piece) = (List.replicate count '.' ++ piece, []) := by
    have whole : '/' ∉ List.replicate count '.' ++ piece := by simp [alone]
    rw [splitExtension_alone whole, splitName_undivided count plain]
  obtain ⟨piece, plain, alone, rfl | ⟨outer, listed, rfl⟩⟩ := single
  · exact extension_of_nil (one path plain alone)
  · obtain ⟨last, same, plain', alone', -⟩ := compression_parts listed
    have named : Named piece := by
      refine named_of_head ?_ (head?_ne_of_not_mem plain)
      rintro rfl
      exact stop (by rw [same]; rfl)
    have split : splitExtension (List.replicate count '.' ++ (piece ++ outer.toList)) =
        (List.replicate count '.' ++ piece, outer.toList) := by
      rw [same, ← List.append_assoc]
      exact splitExtension_plain (named.front _) (by simp [alone]) plain' alone'
    rw [extension_compressed listed split, one piece plain alone]

/-- Whether a text can stand before the suffix of a file name as its stem. -/
structure Stem (text : Text) : Prop where
  occupied : text ≠ []
  undivided : '.' ∉ text
  flat : '/' ∉ text
  unschemed : ':' ∉ text

/-- The extension behind a stem does not depend on the stem. -/
theorem extension_declared {declared : Text} (stop : declared.head? ≠ some '.') :
    ∃ found, ∀ stem, Stem stem → extension (stem ++ '.' :: declared) = found := by
  have split {stem piece : Text} (word : Stem stem) (plain : '.' ∉ piece) (alone : '/' ∉ piece) :
      splitExtension (stem ++ '.' :: piece) = (stem, '.' :: piece) :=
    splitExtension_plain (named_of_head word.occupied (head?_ne_of_not_mem word.undivided)) word.flat plain alone
  by_cases single : Single declared
  · obtain ⟨piece, plain, alone, rfl | ⟨outer, listed, rfl⟩⟩ := single
    · rcases expandAbbreviation_cases ('.' :: declared) with settled | ⟨inner, plain', alone', outer, listed, written⟩
      · by_cases any : ∃ outer ∈ compressions, outer.toList = '.' :: declared
        · obtain ⟨outer, listed, same⟩ := any
          refine ⟨[], fun stem word => ?_⟩
          have bare : splitName stem = (stem, []) := splitName_undivided 0 word.undivided
          rw [extension_compressed listed ((split word plain alone).trans (by rw [same])),
            splitExtension_alone word.flat, bare]
        · refine ⟨'.' :: declared, fun stem word => ?_⟩
          rw [extension, split word plain alone, settled, dropCompression_unlisted]
          exact fun outer listed same => any ⟨outer, listed, same⟩
      · refine ⟨'.' :: inner, fun stem word => ?_⟩
        rw [extension, split word plain alone, written, dropCompression_listed listed rfl, split word plain' alone']
    · obtain ⟨last, same, plain', alone', -⟩ := compression_parts listed
      refine ⟨'.' :: piece, fun stem word => ?_⟩
      have outside : splitExtension (stem ++ '.' :: (piece ++ outer.toList)) =
          (stem ++ '.' :: piece, outer.toList) := by
        have named : Named (stem ++ '.' :: piece) := by
          obtain ⟨char, rest, rfl⟩ := List.exists_cons_of_ne_nil word.occupied
          exact ⟨char, List.mem_cons_self, fun same => word.undivided (same ▸ List.mem_cons_self)⟩
        have whole : '/' ∉ stem ++ '.' :: piece := by simp [word.flat, alone]
        rw [same, ← List.cons_append, ← List.append_assoc]
        exact splitExtension_plain named whole plain' alone'
      rw [extension_compressed listed outside, split word plain alone]
  · refine ⟨extension declared, fun stem word => ?_⟩
    rw [List.append_cons, extension_front (led_of_several stop single) single]

/-! ## Schemes -/

/-- The media type of a path, by its extension. -/
def ofPath? (path : Text) : Option Text :=
  (ofExtension? registered (extension path).lower).or (ofExtension? customary (extension path).lower)

theorem ofPath?_front {path : Text} (stop : path.head? ≠ some '.') (several : ¬ Single path) (front : Text) :
    ofPath? (front ++ path) = ofPath? path := by
  rw [ofPath?, extension_front (led_of_several stop several) several, ofPath?]

theorem ofPath?_dots (count : Nat) {path : Text} (single : Single path) (stop : path.head? ≠ some '.') :
    ofPath? (List.replicate count '.' ++ path) = none := by
  rw [ofPath?, extension_dots count single stop]
  decide +kernel

theorem guess?_eq (name : Text) : guess? name =
    if (splitScheme name).1 = some ("data" : Text) then ofInline? (splitScheme name).2
    else ofPath? (splitScheme name).2 := rfl

theorem breakAt?_none {separator : Char} {text : Text} (plain : separator ∉ text) :
    Text.breakAt? separator text = none := by
  induction text with
  | nil => rfl
  | cons char text ih =>
      rw [Text.breakAt?, if_neg fun same : char = separator => plain (same ▸ List.mem_cons_self),
        ih fun member => plain (List.mem_cons_of_mem _ member)]
      rfl

theorem breakAt?_some {separator : Char} {front : Text} (plain : separator ∉ front) (rest : Text) :
    Text.breakAt? separator (front ++ separator :: rest) = some (front, rest) := by
  induction front with
  | nil => exact if_pos rfl
  | cons char front ih =>
      rw [List.cons_append, Text.breakAt?, if_neg fun same : char = separator => plain (same ▸ List.mem_cons_self),
        ih fun member => plain (List.mem_cons_of_mem _ member)]
      rfl

/-- A text without a colon, or with a slash before it or nothing, has no scheme. -/
theorem splitScheme_none {name : Text}
    (lone : ':' ∉ name ∨ ∃ scheme rest, name = scheme ++ ':' :: rest ∧ ':' ∉ scheme ∧ ('/' ∈ scheme ∨ scheme = [])) :
    splitScheme name = (none, name) := by
  rcases lone with plain | ⟨scheme, rest, rfl, plain, inside⟩
  · rw [splitScheme, breakAt?_none plain]
  · rw [splitScheme, breakAt?_some plain]
    cases scheme with
    | nil => rfl
    | cons char scheme =>
        have slashed := inside.resolve_right (List.cons_ne_nil _ _)
        exact if_pos (List.contains_iff_mem.mpr slashed)

theorem splitScheme_some {scheme : Text} (plain : ':' ∉ scheme) (occupied : scheme ≠ []) (flat : '/' ∉ scheme)
    (rest : Text) : splitScheme (scheme ++ ':' :: rest) = (some scheme.lower, rest) := by
  obtain ⟨char, scheme, rfl⟩ := List.exists_cons_of_ne_nil occupied
  rw [splitScheme, breakAt?_some plain]
  exact if_neg fun slashed => flat (List.contains_iff_mem.mp slashed)

end MediaType
end Stencil
