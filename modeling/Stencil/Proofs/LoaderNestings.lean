import Mathlib.Data.Char
import Mathlib.Data.List.Lex
import Stencil.Loading.Loader
import Stencil.Proofs.FilePlaces

/-!
# Nested loaders

How loaders are nested does not matter.  Putting the loaders of an inner choice in its place, or a choice of single
directories in the place of several, anywhere inside a loader, changes neither what is read nor what is listed.  What is
listed is sorted and has no repetitions, and no listed name is reported as missing.
-/

namespace Stencil

/-! ## Sorted texts -/

namespace Text

theorem precedes_iff (left right : Text) : precedes left right = true ↔ left < right := by
  induction left generalizing right with
  | nil => cases right <;> simp [precedes]
  | cons char left ih =>
      cases right with
      | nil => simp [precedes]
      | cons other right =>
          have codes : char.toNat < other.toNat ↔ char < other := Iff.rfl
          simp only [precedes, Bool.or_eq_true, Bool.and_eq_true, decide_eq_true_eq, ih, codes, List.cons_lt_cons_iff]

theorem mem_insertSorted {text other : Text} {sorted : List Text} :
    other ∈ insertSorted text sorted ↔ other = text ∨ other ∈ sorted := by
  induction sorted with
  | nil => simp [insertSorted]
  | cons head tail ih =>
      rw [insertSorted]
      split
      · rename_i same
        simp [same]
      · split
        · simp
        · rw [List.mem_cons, ih, List.mem_cons]
          tauto

theorem insertSorted_sorted (text : Text) {sorted : List Text} (increasing : sorted.Pairwise (· < ·)) :
    (insertSorted text sorted).Pairwise (· < ·) := by
  induction sorted with
  | nil => exact List.pairwise_singleton _ _
  | cons head tail ih =>
      obtain ⟨least, rest⟩ := List.pairwise_cons.mp increasing
      rw [insertSorted]
      split
      · exact increasing
      · rename_i other
        split
        · rename_i before
          rw [precedes_iff] at before
          refine List.pairwise_cons.mpr ⟨fun member listed => ?_, increasing⟩
          rcases List.mem_cons.mp listed with rfl | later
          · exact before
          · exact before.trans (least member later)
        · rename_i notBefore
          rw [precedes_iff] at notBefore
          refine List.pairwise_cons.mpr ⟨fun member listed => ?_, ih rest⟩
          rcases mem_insertSorted.mp listed with rfl | later
          · exact lt_of_le_of_ne (not_lt.mp notBefore) (Ne.symm other)
          · exact least member later

/-- The distinct texts of a list are in increasing order. -/
theorem sortDistinct_sorted (texts : List Text) : (sortDistinct texts).Pairwise (· < ·) := by
  induction texts with
  | nil => exact List.Pairwise.nil
  | cons text texts ih => exact insertSorted_sorted text ih

/-- They are the texts of the list. -/
theorem mem_sortDistinct {text : Text} {texts : List Text} : text ∈ sortDistinct texts ↔ text ∈ texts := by
  induction texts with
  | nil => exact Iff.rfl
  | cons first texts ih =>
      rw [List.mem_cons, ← ih]
      exact mem_insertSorted

end Text

/-! ## Answers -/

/-- Two answers of loaders are the same, the messages of missing templates aside. -/
inductive LoadError.SameAnswer : (left right : Except LoadError LoadedSource) → Prop where
  | same (answer : Except LoadError LoadedSource) : SameAnswer answer answer
  | missing (left right : Text) : SameAnswer (.error (.missing left)) (.error (.missing right))

open LoadError (SameAnswer)

namespace Loader

/-- What a loader answers, unless it is that the template is missing. -/
def search (library : Library) (name : Text) (loader : Loader) : Option (Except LoadError LoadedSource) :=
  readFirst? library name [loader]

variable {library : Library} {name : Text} {left right loader : Loader}

theorem search_missing {message : Text} (missing : loader.read library name = .error (.missing message)) :
    loader.search library name = none := by
  simp [search, readFirst?, missing]

theorem search_found (found : ∀ message, loader.read library name ≠ .error (.missing message)) :
    loader.search library name = some (loader.read library name) := by
  rw [search, readFirst?]
  split
  · rename_i message missing
    exact absurd missing (found message)
  · rfl

/-- A search finds nothing exactly if the template is missing. -/
theorem search_eq_none : loader.search library name = none ↔ ∃ message, loader.read library name = .error (.missing message) := by
  constructor
  · intro nothing
    by_contra found
    rw [search_found (not_exists.mp found)] at nothing
    cases nothing
  · rintro ⟨message, missing⟩
    exact search_missing missing

theorem read_of_search {answer : Except LoadError LoadedSource} (found : loader.search library name = some answer) :
    loader.read library name = answer := by
  have there : ¬ ∃ message, loader.read library name = .error (.missing message) := by
    rw [← search_eq_none, found]
    exact nofun
  rw [search_found (not_exists.mp there)] at found
  exact Option.some.inj found

/-- Loaders whose searches end alike give the same answer. -/
theorem sameAnswer_of_search (same : left.search library name = right.search library name) :
    SameAnswer (left.read library name) (right.read library name) := by
  cases found : left.search library name with
  | none =>
      obtain ⟨message, missing⟩ := search_eq_none.mp found
      obtain ⟨other, missing'⟩ := search_eq_none.mp (same ▸ found)
      rw [missing, missing']
      exact .missing message other
  | some answer =>
      rw [read_of_search found, read_of_search (same ▸ found)]
      exact .same answer

theorem readFirst?_cons (loaders : List Loader) :
    readFirst? library name (loader :: loaders) = (loader.search library name).or (readFirst? library name loaders) := by
  simp only [search, readFirst?]
  split <;> rfl

theorem readFirst?_append (first second : List Loader) :
    readFirst? library name (first ++ second) =
      (readFirst? library name first).or (readFirst? library name second) := by
  induction first with
  | nil => rw [List.nil_append, readFirst?, Option.none_or]
  | cons loader first ih => rw [List.cons_append, readFirst?_cons, readFirst?_cons, ih, Option.or_assoc]

/-- No search ends with the answer that the template is missing. -/
theorem readFirst?_ne_missing (loaders : List Loader) (message : Text) :
    readFirst? library name loaders ≠ some (.error (.missing message)) := by
  induction loaders with
  | nil => rw [readFirst?]; exact nofun
  | cons loader loaders ih =>
      rw [readFirst?]
      split
      · exact ih
      · rename_i other
        exact fun same => other message (Option.some.inj same)

/-- The search of a loader that falls back on the template being missing. -/
theorem search_fallback {answer : Option (Except LoadError LoadedSource)} {message : Text}
    (reads : loader.read library name = answer.getD (.error (.missing message)))
    (kept : ∀ message, answer ≠ some (.error (.missing message))) : loader.search library name = answer := by
  cases answer with
  | none => exact search_missing reads
  | some found =>
      have whole : loader.read library name = found := reads
      rw [search_found, whole]
      exact fun message missing => kept message (by rw [← whole, missing])

/-- A choice answers what the search through its loaders does. -/
theorem search_choice (loaders : List Loader) :
    (choice loaders).search library name = readFirst? library name loaders :=
  search_fallback (by rw [read]) (readFirst?_ne_missing loaders)

theorem readFile_ne_missing (encoding : Text) (path : Path) (contents : FileContents) (message : Text) :
    readFile library encoding name path contents ≠ .error (.missing message) := by
  cases contents with
  | closed number reason => exact nofun
  | bytes bytes =>
      rw [readFile]
      split
      · exact nofun
      · split <;> exact nofun

theorem readFrom?_ne_missing (encoding : Text) (paths : List Path) (message : Text) :
    readFrom? library encoding name paths ≠ some (.error (.missing message)) := by
  induction paths with
  | nil => exact nofun
  | cons path paths ih =>
      simp only [readFrom?]
      split
      · exact fun same => readFile_ne_missing encoding _ _ message (Option.some.inj same)
      · exact ih
      · exact nofun

/-- Directories answer what the search through them does. -/
theorem search_directories (paths : List Path) (encoding : Text) :
    (directories paths encoding).search library name = readFrom? library encoding name paths :=
  search_fallback (by rw [read]) (readFrom?_ne_missing encoding paths)

theorem readFrom?_cons (encoding : Text) (path : Path) (paths : List Path) :
    readFrom? library encoding name (path :: paths) =
      (readFrom? library encoding name [path]).or (readFrom? library encoding name paths) := by
  simp only [readFrom?]
  split <;> rfl

/-- Directories are searched like a choice of single ones. -/
theorem readFirst?_divided (paths : List Path) (encoding : Text) :
    readFirst? library name (paths.map fun path => directories [path] encoding) =
      readFrom? library encoding name paths := by
  induction paths with
  | nil => rw [List.map_nil, readFirst?, readFrom?]
  | cons path paths ih => rw [List.map_cons, readFirst?_cons, search_directories, ih, ← readFrom?_cons]

/-! ## Names -/

theorem namesOfAll_append (first second : List Loader) :
    namesOfAll library (first ++ second) = do
      return (← namesOfAll library first) ++ (← namesOfAll library second) := by
  induction first with
  | nil =>
      rw [List.nil_append, namesOfAll]
      cases namesOfAll library second <;> rfl
  | cons loader first ih =>
      rw [List.cons_append, namesOfAll, namesOfAll, ih]
      cases loader.names library with
      | error error => rfl
      | ok own =>
          cases namesOfAll library first with
          | error error => rfl
          | ok more =>
              cases namesOfAll library second with
              | error error => rfl
              | ok rest => exact congrArg Except.ok (List.append_assoc own more rest).symm

/-- Directories list what a choice of single ones does. -/
theorem namesOfAll_divided (paths : List Path) (encoding : Text) :
    namesOfAll library (paths.map fun path => directories [path] encoding) = namesInAll library paths := by
  induction paths with
  | nil => rw [List.map_nil, namesOfAll, namesInAll]
  | cons path paths ih =>
      rw [List.map_cons, namesOfAll, names, ih, namesInAll, namesInAll, namesInAll]
      cases (library.files.namesBelow path).mapError fun _ => LoadError.tooLong (path.toText library.home) with
      | error error => rfl
      | ok own =>
          cases namesInAll library paths with
          | error error => rfl
          | ok more => exact congrArg (fun names => Except.ok (names ++ more)) (List.append_nil own)

/-! ## Rearranged loaders -/

/-- One loader comes from the other by putting the loaders of an inner choice in its place, or a choice of single
directories in the place of several, back and forth and anywhere inside. -/
inductive Rearranged : Loader → Loader → Prop where
  | spliced (before inner after : List Loader) :
      Rearranged (choice (before ++ choice inner :: after)) (choice (before ++ inner ++ after))
  | divided (paths : List Path) (encoding : Text) :
      Rearranged (directories paths encoding) (choice (paths.map fun path => directories [path] encoding))
  | within (before after : List Loader) {left right : Loader} (inside : Rearranged left right) :
      Rearranged (choice (before ++ left :: after)) (choice (before ++ right :: after))
  | refl (loader : Loader) : Rearranged loader loader
  | symm {left right : Loader} (other : Rearranged left right) : Rearranged right left
  | trans {left middle right : Loader} (first : Rearranged left middle) (second : Rearranged middle right) :
      Rearranged left right

theorem Rearranged.search_eq (rearranged : Rearranged left right) :
    left.search library name = right.search library name := by
  induction rearranged with
  | spliced before inner after =>
      simp only [search_choice, readFirst?_append, readFirst?_cons, Option.or_assoc]
  | divided paths encoding => rw [search_directories, search_choice, readFirst?_divided]
  | within before after _ ih => simp only [search_choice, readFirst?_append, readFirst?_cons, ih]
  | refl => rfl
  | symm _ ih => exact ih.symm
  | trans _ _ first second => exact first.trans second

theorem Rearranged.names_eq (rearranged : Rearranged left right) : left.names library = right.names library := by
  induction rearranged with
  | spliced before inner after =>
      rw [names, names, namesOfAll_append, namesOfAll, names, List.append_assoc, namesOfAll_append before,
        namesOfAll_append inner]
  | divided paths encoding => rw [names, names, namesOfAll_divided]
  | within before after _ ih => rw [names, names, namesOfAll_append, namesOfAll_append, namesOfAll, namesOfAll, ih]
  | refl => rfl
  | symm _ ih => exact ih.symm
  | trans _ _ first second => exact first.trans second

/-! ## Listed names -/

/-- Lists that are put together come from two lists. -/
theorem appended_ok {first second : Except LoadError (List Text)} {all : List Text}
    (together : (do return (← first) ++ (← second)) = Except.ok all) :
    ∃ own more, first = .ok own ∧ second = .ok more ∧ all = own ++ more := by
  cases first with
  | error error => cases together
  | ok own =>
      cases second with
      | error error => cases together
      | ok more =>
          cases together
          exact ⟨own, more, rfl, rfl, rfl⟩

theorem readFrom?_listed (formed : library.files.WellFormed) (encoding : Text) {paths : List Path} {all : List Text}
    (listing : namesInAll library paths = .ok all) (listed : name ∈ all) :
    readFrom? library encoding name paths ≠ none := by
  induction paths generalizing all with
  | nil =>
      cases listing
      cases listed
  | cons path paths ih =>
      rw [namesInAll] at listing
      obtain ⟨own, more, here, rest, rfl⟩ := appended_ok listing
      simp only [readFrom?]
      split
      · exact nofun
      · rename_i absent
        refine (List.mem_append.mp listed).elim (fun below => ?_) (ih rest)
        cases found : library.files.namesBelow path with
        | error error =>
            rw [found] at here
            cases here
        | ok names =>
            rw [found] at here
            cases here
            exact absurd absent (FileTree.fileAt?_listed formed found below)
      · exact nofun

theorem search_mapping {shelf : Nat} (listed : name ∈ (library.shelf shelf).map Prod.fst) :
    (mapping shelf).search library name ≠ none := by
  rw [ne_eq, search_eq_none, read]
  rintro ⟨message, missing⟩
  split at missing
  · cases missing
  · rename_i absent
    obtain ⟨entry, member, rfl⟩ := List.mem_map.mp listed
    exact absurd (List.lookup_eq_none_iff.mp absent entry member) (by simp)

mutual

/-- The search for a name that a loader lists finds something. -/
theorem search_listed (formed : library.files.WellFormed) : ∀ (loader : Loader) {all : List Text},
    loader.names library = .ok all → name ∈ all → loader.search library name ≠ none
  | directories paths encoding, all, listing, listed => by
      rw [names] at listing
      rw [search_directories]
      exact readFrom?_listed formed encoding listing listed
  | mapping shelf, all, listing, listed => by
      cases listing
      exact search_mapping listed
  | silent shelf, all, listing, listed => by
      cases listing
      cases listed
  | choice loaders, all, listing, listed => by
      rw [names] at listing
      rw [search_choice]
      exact readFirst?_listed formed loaders listing listed

theorem readFirst?_listed (formed : library.files.WellFormed) : ∀ (loaders : List Loader) {all : List Text},
    namesOfAll library loaders = .ok all → name ∈ all → readFirst? library name loaders ≠ none
  | [], all, listing, listed => by
      cases listing
      cases listed
  | loader :: loaders, all, listing, listed => by
      rw [namesOfAll] at listing
      obtain ⟨own, more, here, rest, rfl⟩ := appended_ok listing
      rw [readFirst?_cons, ne_eq, Option.or_eq_none_iff, not_and_or]
      exact (List.mem_append.mp listed).imp (search_listed formed loader here) (readFirst?_listed formed loaders rest)

end

/-- Rearranging a loader changes neither what it reads nor what it lists; what a loader lists is sorted without
repetitions, and in the file tree of a system it is not reported as missing. -/
theorem nesting_irrelevant (library : Library) :
    (∀ left right, Rearranged left right →
      (∀ name, SameAnswer (left.read library name) (right.read library name)) ∧
        left.list library = right.list library) ∧
    ∀ loader all, list library loader = .ok all →
      all.Pairwise (· < ·) ∧
        (library.files.WellFormed → ∀ name ∈ all, ∀ message, loader.read library name ≠ .error (.missing message)) := by
  refine ⟨fun left right rearranged => ⟨fun name => sameAnswer_of_search rearranged.search_eq, ?_⟩,
    fun loader all listing => ?_⟩
  · rw [list, list, rearranged.names_eq]
  · rw [list] at listing
    cases found : loader.names library with
    | error error =>
        rw [found] at listing
        cases listing
    | ok listed =>
        rw [found] at listing
        cases listing
        refine ⟨Text.sortDistinct_sorted listed, fun formed name member message missing => ?_⟩
        exact search_listed formed loader found (Text.mem_sortDistinct.mp member) (search_missing missing)

/-- Two directories, the second with a file that the system does not open, and a mapping. -/
def overridden : Library :=
  ⟨((FileTree.empty.write ["first".toList, "page.txt".toList] (.bytes [104, 105])).write
      ["second".toList, "page.txt".toList] (.closed 13 "Permission denied")).write
      ["second".toList, "parts".toList, "foot.txt".toList] (.bytes [255]),
    [[("nav.txt", "nav")]], "/work"⟩

theorem overridden_wellFormed : overridden.files.WellFormed :=
  ((FileTree.wellFormed_empty.write (by decide) (by decide) (by decide) _).write (by decide) (by decide)
    (by decide) _).write (by decide) (by decide) (by decide) _

/-- Both directories in an inner choice, in front of the mapping. -/
def nestedOverrides : Loader :=
  choice [choice [directories [⟨.here, ["first".toList]⟩, ⟨.here, ["second".toList]⟩] "utf-8"], mapping 0]

/-- The directories one by one, in front of the mapping. -/
def flatOverrides : Loader :=
  choice [directories [⟨.here, ["first".toList]⟩] "utf-8", directories [⟨.here, ["second".toList]⟩] "utf-8", mapping 0]

theorem flatOverrides_rearranged : Rearranged nestedOverrides flatOverrides :=
  .trans (.spliced [] [directories [⟨.here, ["first".toList]⟩, ⟨.here, ["second".toList]⟩] "utf-8"] [mapping 0])
    (.trans (.within [] [mapping 0] (.divided [⟨.here, ["first".toList]⟩, ⟨.here, ["second".toList]⟩] "utf-8"))
      (.spliced [] _ [mapping 0]))

theorem overrides_nesting_irrelevant :
    (SameAnswer (nestedOverrides.read overridden "page.txt") (flatOverrides.read overridden "page.txt") ∧
      nestedOverrides.list overridden = flatOverrides.list overridden) ∧
    [("nav.txt" : Text), "page.txt", "parts/foot.txt"].Pairwise (· < ·) ∧
      flatOverrides.read overridden "parts/foot.txt" ≠ .error (.missing []) := by
  obtain ⟨same, listed⟩ := nesting_irrelevant overridden
  have all : flatOverrides.list overridden = .ok ["nav.txt", "page.txt", "parts/foot.txt"] := by decide
  obtain ⟨sorted, there⟩ := listed flatOverrides _ all
  refine ⟨?_, sorted, there overridden_wellFormed _ (by decide) []⟩
  exact (same _ _ flatOverrides_rearranged).imp_left fun read => read "page.txt"

end Loader
end Stencil
