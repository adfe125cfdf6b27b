import Stencil.Files.Tree
import Stencil.Proofs.LiteralSources

/-!
# Places of files

In the file tree of a system every name is one that a path can lead over, the directories above a file are there, and
no file is a directory.  Writing and removing files keeps it so.  In such a tree the path that is written for a file
below a directory leads to that file again, unless it is too long to be looked up.
-/

namespace Stencil

/-- The names that files and directories can have. -/
structure FileName (name : Text) : Prop where
  occupied : name ≠ []
  noDot : name ≠ ['.']
  noDots : name ≠ ['.', '.']
  noSlash : '/' ∉ name
  noNull : '\x00' ∉ name

theorem fileName_iff (name : Text) :
    FileName name ↔ (name ≠ [] ∧ name ≠ ['.'] ∧ name ≠ ['.', '.']) ∧ '/' ∉ name ∧ '\x00' ∉ name :=
  ⟨fun ⟨occupied, noDot, noDots, noSlash, noNull⟩ => ⟨⟨occupied, noDot, noDots⟩, noSlash, noNull⟩,
    fun ⟨⟨occupied, noDot, noDots⟩, noSlash, noNull⟩ => ⟨occupied, noDot, noDots, noSlash, noNull⟩⟩

instance (name : Text) : Decidable (FileName name) := decidable_of_iff' _ (fileName_iff name)

/-! ## Written names -/

theorem splitOn_clean {separator : Char} {piece : Text} (clean : separator ∉ piece) :
    Text.splitOn separator piece = [piece] := by
  induction piece with
  | nil => rfl
  | cons char piece ih =>
      rw [List.mem_cons, not_or] at clean
      rw [Text.splitOn, if_neg (Ne.symm clean.1), ih clean.2]

/-- Pieces without a separator are found again in what joins them with it. -/
theorem splitOn_joined {separator : Char} {pieces : List Text} (occupied : pieces ≠ [])
    (clean : ∀ piece ∈ pieces, separator ∉ piece) : Text.splitOn separator (Text.join [separator] pieces) = pieces := by
  induction pieces with
  | nil => exact absurd rfl occupied
  | cons first pieces ih =>
      obtain ⟨own, others⟩ := List.forall_mem_cons.mp clean
      cases pieces with
      | nil => exact splitOn_clean own
      | cons second pieces =>
          have whole : Text.join [separator] (first :: second :: pieces) =
              first ++ separator :: Text.join [separator] (second :: pieces) := by
            simp [Text.join]
          rw [whole, Routine.splitOn_line own, ih (List.cons_ne_nil _ _) others]

theorem FileName.keeps {name : Text} (named : FileName name) : Path.keeps name = true := by
  simp [Path.keeps, named.occupied, named.noDot]

theorem anchorOf_name {name : Text} (named : FileName name) (more : Text) : Path.anchorOf (name ++ more) = .here := by
  cases name with
  | nil => exact absurd rfl named.occupied
  | cons char name =>
      have other : char ≠ '/' := fun same => named.noSlash (same ▸ List.mem_cons_self)
      simp [Path.anchorOf, other]

/-- The path that is written with some names leads over them. -/
theorem ofText_names {names : List Text} (occupied : names ≠ []) (named : ∀ name ∈ names, FileName name) :
    Path.ofText (Text.join ['/'] names) = ⟨.here, names⟩ := by
  have anchor : Path.anchorOf (Text.join ['/'] names) = .here := by
    cases names with
    | nil => exact absurd rfl occupied
    | cons first names =>
        have own := named first List.mem_cons_self
        cases names with
        | nil => simpa [Text.join] using anchorOf_name own []
        | cons second names => simpa [Text.join] using anchorOf_name own ('/' :: Text.join ['/'] (second :: names))
  rw [Path.ofText, anchor, splitOn_joined occupied fun name listed => (named name listed).noSlash,
    List.filter_eq_self.mpr fun name listed => (named name listed).keeps]

namespace FileTree

/-! ## The file trees of a system -/

/-- A file tree as a system has it. -/
structure WellFormed (tree : FileTree) : Prop where
  /-- Every name on the way to a file can be one. -/
  named : ∀ entry ∈ tree.files, ∀ name ∈ entry.1, FileName name
  /-- The places above a file are directories. -/
  held : ∀ entry ∈ tree.files, ∀ above below, entry.1 = above ++ below → below ≠ [] → tree.isDirectory above = true
  /-- No file is a directory. -/
  apart : ∀ entry ∈ tree.files, tree.isDirectory entry.1 = false

variable {tree : FileTree}

theorem wellFormed_empty : empty.WellFormed :=
  ⟨nofun, nofun, nofun⟩

theorem mem_ancestors {place above : Place} :
    above ∈ ancestors place ↔ above ≠ [] ∧ ∃ below, below ≠ [] ∧ place = above ++ below := by
  simp only [ancestors, List.mem_filterMap, List.mem_range, Option.ite_none_left_eq_some, Option.some.injEq]
  constructor
  · rintro ⟨count, inside, some, rfl⟩
    refine ⟨fun none => ?_, place.drop count, fun none => ?_, (List.take_append_drop count place).symm⟩
    · rcases List.take_eq_nil_iff.mp none with zero | nothing
      · exact some zero
      · simp [nothing] at inside
    · exact absurd (List.drop_eq_nil_iff.mp none) (by omega)
  · rintro ⟨some, below, occupied, rfl⟩
    have longer := List.length_pos_iff.mpr occupied
    refine ⟨above.length, by simpa using longer, fun none => some (List.length_eq_zero_iff.mp none), ?_⟩
    exact List.take_left

theorem isDirectory_write (tree : FileTree) (place at' : Place) (contents : FileContents) :
    (tree.write place contents).isDirectory at' = true ↔ tree.isDirectory at' = true ∨ at' ∈ ancestors place := by
  by_cases old : at' ∈ tree.directories <;> simp [isDirectory, write, old]

theorem mem_files_write {place : Place} {contents : FileContents} {entry : Place × FileContents}
    (member : entry ∈ (tree.write place contents).files) : entry = (place, contents) ∨ entry ∈ tree.files :=
  (List.mem_cons.mp member).imp_right List.mem_of_mem_filter

/-- A file can be written to a place that is no directory and lies below no file. -/
theorem WellFormed.write (formed : tree.WellFormed) {place : Place} (named : ∀ name ∈ place, FileName name)
    (free : tree.isDirectory place = false) (below : ∀ entry ∈ tree.files, entry.1 ∉ ancestors place)
    (contents : FileContents) : (tree.write place contents).WellFormed := by
  refine ⟨fun entry member => ?_, fun entry member above rest whole occupied => ?_, fun entry member => ?_⟩
  · rcases mem_files_write member with rfl | old
    · exact named
    · exact formed.named entry old
  · rw [isDirectory_write]
    rcases mem_files_write member with rfl | old
    · by_cases top : above = []
      · exact .inl (by simp [isDirectory, top])
      · exact .inr (mem_ancestors.mpr ⟨top, rest, occupied, whole⟩)
    · exact .inl (formed.held entry old above rest whole occupied)
  · rw [Bool.eq_false_iff, ne_eq, isDirectory_write, not_or, ← ne_eq, ← Bool.eq_false_iff]
    rcases mem_files_write member with rfl | old
    · refine ⟨free, fun listed => ?_⟩
      obtain ⟨-, rest, occupied, whole⟩ := mem_ancestors.mp listed
      exact occupied (List.append_right_eq_self.mp whole.symm)
    · exact ⟨formed.apart entry old, below entry old⟩

theorem WellFormed.remove (formed : tree.WellFormed) (place : Place) : (tree.remove place).WellFormed :=
  ⟨fun entry member => formed.named entry (List.mem_of_mem_filter member),
    fun entry member => formed.held entry (List.mem_of_mem_filter member),
    fun entry member => formed.apart entry (List.mem_of_mem_filter member)⟩

/-! ## Paths to files -/

theorem walk_append {start place : Place} {first : List Text} (reached : tree.walk start first = .ok place)
    (rest : List Text) : tree.walk start (first ++ rest) = tree.walk place rest := by
  induction first generalizing start with
  | nil =>
      cases reached
      rfl
  | cons component first ih =>
      simp only [List.cons_append, walk] at reached ⊢
      split_ifs at reached ⊢
      · exact ih reached
      · exact ih reached

/-- Names lead down over directories, unless one of them is too long. -/
theorem walk_down {start : Place} {names : List Text} (named : ∀ name ∈ names, FileName name)
    (held : ∀ above below, names = above ++ below → below ≠ [] → tree.isDirectory (start ++ above) = true) :
    tree.walk start names = .ok (start ++ names) ∨ tree.walk start names = .error .tooLong := by
  induction names generalizing start with
  | nil => exact .inl (by rw [walk, List.append_nil])
  | cons name names ih =>
      obtain ⟨own, others⟩ := List.forall_mem_cons.mp named
      have here : tree.isDirectory start = true := by
        simpa using held [] (name :: names) rfl (List.cons_ne_nil _ _)
      simp only [walk, here, Bool.not_true, Bool.false_eq_true, if_false, if_neg own.noDots]
      split
      · exact .inr rfl
      · rw [List.append_cons start name names]
        refine ih others fun above below whole occupied => ?_
        simpa using held (name :: above) below (congrArg (name :: ·) whole) occupied

/-- What is known of a path that leads to a place. -/
theorem walk_of_locate {path : Path} {place : Place} (located : tree.locate path = .ok place) :
    tree.walk [] path.components = .ok place ∧ (∀ component ∈ path.components, '\x00' ∉ component) ∧
      (path.anchor = .here ∨ path.anchor = .workplace) := by
  simp only [locate] at located
  split_ifs at located with null long
  have clean : ∀ component ∈ path.components, '\x00' ∉ component := by simpa using null
  cases anchor : path.anchor <;> rw [anchor] at located
  case here => exact ⟨located, clean, .inl rfl⟩
  case workplace => exact ⟨located, clean, .inr rfl⟩
  case root => cases located
  case doubleRoot => cases located

/-- A file below a directory is found by its names from there, unless they are too long to be looked up. -/
theorem fileAt?_below (formed : tree.WellFormed) {base : Path} {place : Place} (located : tree.locate base = .ok place)
    {names : List Text} {contents : FileContents} (listed : (place ++ names, contents) ∈ tree.files) :
    tree.fileAt? (base.join ⟨.here, names⟩) ≠ .ok none := by
  obtain ⟨reached, clean, anchored⟩ := walk_of_locate located
  have named : ∀ name ∈ names, FileName name := fun name member =>
    formed.named _ listed name (List.mem_append_right _ member)
  have null : ¬ (base.components ++ names).any (fun component => component.contains '\x00') = true := by
    simpa using ⟨clean, fun name inside => (named name inside).noNull⟩
  have held : ∀ above below, names = above ++ below → below ≠ [] → tree.isDirectory (place ++ above) = true :=
    fun above below whole => formed.held _ listed (place ++ above) below (by rw [whole, List.append_assoc])
  have there : tree.contents? (place ++ names) ≠ none := by
    rw [contents?, ne_eq, List.lookup_eq_none_iff]
    exact fun absent => absurd (absent _ listed) (by simp)
  have walked : tree.walk [] (base.components ++ names) = tree.walk place names := walk_append reached names
  have located' : tree.locate (base.join ⟨.here, names⟩) = .ok (place ++ names) ∨
      tree.locate (base.join ⟨.here, names⟩) = .error .tooLong := by
    simp only [Path.join, locate, if_neg null, walked]
    split
    · exact .inr rfl
    · rcases anchored with anchor | anchor <;> rw [anchor] <;> exact walk_down named held
  rcases located' with found | long
  · simpa [fileAt?, found] using there
  · simp [fileAt?, long]

/-- A path to a file that is listed below a directory leads to a file, unless it is too long to be looked up. -/
theorem fileAt?_listed (formed : tree.WellFormed) {base : Path} {names : List Text}
    (below : tree.namesBelow base = .ok names) {name : Text} (listed : name ∈ names) :
    tree.fileAt? (base.join (.ofText name)) ≠ .ok none := by
  simp only [namesBelow] at below
  split at below
  · cases below
    cases listed
  · cases below
  · rename_i place located
    split at below
    · cases below
      cases listed
    · rename_i directory
      cases below
      simp only [List.mem_filterMap, Option.ite_none_right_eq_some, Option.some.injEq] at listed
      obtain ⟨⟨found, contents⟩, member, inside, rfl⟩ := listed
      obtain ⟨rest, rfl⟩ := List.isPrefixOf_iff_prefix.mp inside
      have occupied : rest ≠ [] := by
        rintro rfl
        rw [List.append_nil] at member
        simp [formed.apart _ member] at directory
      rw [List.drop_left, ofText_names occupied fun name inside =>
        formed.named _ member name (List.mem_append_right _ inside)]
      exact fileAt?_below formed located member

end FileTree
end Stencil
