import ApiMigration.Proofs.FileTree.Ordered
import ApiMigration.Proofs.Path.Filter

/-!
What a scan selects. It finds the regular files below a directory that no link leads to, as far as
their names and their paths from there pass; it fails only where there is no directory. The order in
which a directory lists its entries does not matter.
-/

namespace ApiMigration

open Text

namespace FileTree

section Reordered

variable {first second : FileTree}

theorem walkWith_congr (same : first.get? = second.get?) (approach : Approach)
    (jump : Location → List String → Except FileError Location) (here : Location)
    (parts : List String) :
    first.walkWith approach jump here parts = second.walkWith approach jump here parts := by
  induction parts generalizing here with
  | nil => rw [walkWith, walkWith]
  | cons part rest ih =>
    rw [walkWith, walkWith, same]
    simp only [ih]

theorem walk_congr (same : first.get? = second.get?) (approach : Approach) (links : Nat) :
    first.walk approach links = second.walk approach links := by
  induction links with
  | zero =>
    funext here parts
    exact walkWith_congr same approach _ here parts
  | succ links ih =>
    funext here parts
    rw [walk, walk, ih]
    exact walkWith_congr same approach _ here parts

theorem locate_congr (same : first.get? = second.get?)
    (working : first.workingDirectory = second.workingDirectory) (path : Path)
    (approach : Approach) : first.locate path approach = second.locate path approach := by
  rw [locate, locate, walk_congr same, working]

theorem get?_of_perm (reordered : first.entries.Perm second.entries)
    (distinct : (second.entries.map Prod.fst).Nodup) : first.get? = second.get? := by
  have otherDistinct : (first.entries.map Prod.fst).Nodup :=
    ((reordered.map Prod.fst).nodup_iff).mpr distinct
  funext place
  unfold get?
  split
  · rfl
  · apply Option.ext
    intro entry
    rw [lookup_eq_some_iff_mem otherDistinct, lookup_eq_some_iff_mem distinct,
      reordered.mem_iff]

theorem foundBelow_of_perm (reordered : first.entries.Perm second.entries) (selection : Selection)
    (base : Location) : first.foundBelow selection base = second.foundBelow selection base :=
  mergeSort_eq_of_perm (List.compareLex compare) ((reordered.filterMap _).filter _)

theorem scan_of_perm (reordered : first.entries.Perm second.entries)
    (distinct : (second.entries.map Prod.fst).Nodup)
    (working : first.workingDirectory = second.workingDirectory) (root : Path)
    (selection : Selection) : first.scan root selection = second.scan root selection := by
  have same := get?_of_perm reordered distinct
  rw [scan, scan, locate_congr same working, same]
  cases second.locate root with
  | error failure => rfl
  | ok place => simp only [foundBelow_of_perm reordered]

end Reordered

section Scan

variable {tree : FileTree} {root : Path} {selection : Selection} {base names : Location}

theorem scan_eq_error_iff {failure : Failure} : tree.scan root selection = .error failure ↔
    failure = .invalidRoot root ∧ tree.isDirectory root = false := by
  rw [← Bool.not_eq_true, isDirectory_iff]
  unfold scan
  cases tree.locate root with
  | error reason => simp [eq_comm]
  | ok place =>
    by_cases directory : tree.get? place = some .directory
    · simp [directory]
    · simp [directory, Ne.symm directory, eq_comm]

/-- A regular file below a directory. The names on the way are those of directories, so it is reached
without any link. -/
structure FileBelow (tree : FileTree) (base names : Location) : Prop where
  leads : Leads tree base names
  further : names ≠ []
  file : ∃ bytes, tree.get? (base ++ names) = some (.file bytes)

theorem Proper.fileBelow_iff (proper : tree.Proper) : FileBelow tree base names ↔
    names ≠ [] ∧ ∃ bytes, tree.get? (base ++ names) = some (.file bytes) := by
  constructor
  · intro below
    exact ⟨below.further, below.file⟩
  · rintro ⟨further, bytes, held⟩
    exact ⟨proper.leads held (by simp), further, bytes, held⟩

end Scan

end FileTree

/-- Whether a file of some name passes: its extension is the one that is looked for, its name is not
skipped, and its path from the directory is not excluded. -/
structure Selection.Passes (selection : Selection) (root path : Path) (name : String) : Prop where
  ending : ∃ stem, stem ≠ "" ∧ name = stem ++ "." ++ selection.extension
  dotFree : '.' ∉ selection.extension.toList
  kept : name ∉ selection.skippedNames
  allowed : ∃ relative, path.relativeTo? root = some relative ∧
    Filter.allows selection.excludedPaths relative.text = true

theorem Selection.accepts_iff_passes {selection : Selection} {root : Path} {upper : List String}
    {name : String} (written : root.text ≠ "")
    (plain : ∀ other ∈ upper ++ [name], Path.IsPlain other) :
    selection.accepts (upper ++ [name]) = true ↔
      selection.Passes root (root.joinAll (upper ++ [name])) name := by
  have relative := Path.relativeTo?_joinAll written (by simp) plain
  have onward : name ≠ ".." := (plain name (by simp)).downward
  simp only [accepts, List.getLast?_concat, Bool.and_eq_true, beq_iff_eq, Bool.not_eq_true',
    Path.extensionOf?_eq_some_iff, List.contains_eq_mem, decide_eq_false_iff_not,
    Filter.inactive_or_allows]
  constructor
  · rintro ⟨⟨⟨_, stem, solid, spelled, dotFree⟩, kept⟩, allowed⟩
    exact ⟨⟨stem, solid, spelled⟩, dotFree, kept, _, relative, allowed⟩
  · rintro ⟨⟨stem, solid, spelled⟩, dotFree, kept, _, same, allowed⟩
    rw [relative] at same
    cases same
    exact ⟨⟨⟨onward, stem, solid, spelled, dotFree⟩, kept⟩, allowed⟩

namespace FileTree

/-- A scan is exact. It fails only where the path leads to no directory. Otherwise it lists, in strict
order of paths, the files below the directory that pass, and no others, however the entries of
directories are listed. -/
theorem scan_exact {tree : FileTree} (proper : tree.Proper) (root : Path) (selection : Selection) :
    (∀ failure, tree.scan root selection = .error failure ↔
      failure = .invalidRoot root ∧ tree.isDirectory root = false) ∧
    (tree.isDirectory root = true → ∃ base paths, tree.locate root = .ok base ∧
      tree.scan root selection = .ok paths ∧
      (paths.Pairwise fun a b => a.compare b = .lt) ∧ paths.Nodup ∧
      ∀ path, path ∈ paths ↔ ∃ upper name, path = root.joinAll (upper ++ [name]) ∧
        FileBelow tree base (upper ++ [name]) ∧ selection.Passes root path name) ∧
    ∀ entries, entries.Perm tree.entries →
      ({ tree with entries } : FileTree).scan root selection = tree.scan root selection := by
  refine ⟨fun failure => scan_eq_error_iff, ?_, ?_⟩
  · intro isDirectory
    obtain ⟨base, located, directory⟩ := isDirectory_iff.mp isDirectory
    have scanned : tree.scan root selection =
        .ok ((tree.foundBelow selection base).map root.joinAll) :=
      scan_eq_ok_iff.mpr ⟨base, located, directory, rfl⟩
    have ordered := proper.pairwise_scan scanned
    have written := (admissible_of_locate located).written
    refine ⟨base, _, located, scanned, ordered, ?_, ?_⟩
    · refine ordered.imp ?_
      rintro a b below rfl
      have level : a.compare a = .eq := Std.ReflCmp.compare_self
      rw [level] at below
      cases below
    · intro path
      rw [List.mem_map]
      constructor
      · rintro ⟨names, found, rfl⟩
        obtain ⟨accepted, further, held⟩ := (mem_foundBelow proper).mp found
        obtain ⟨upper, name, rfl⟩ := (List.eq_nil_or_concat' names).resolve_left further
        have below := proper.fileBelow_iff.mpr ⟨further, held⟩
        have plain := fun other member => (below.leads.named other member).plain
        exact ⟨upper, name, rfl, below, (Selection.accepts_iff_passes written plain).mp accepted⟩
      · rintro ⟨upper, name, rfl, below, passes⟩
        have plain := fun other member => (below.leads.named other member).plain
        have accepted := (Selection.accepts_iff_passes written plain).mpr passes
        exact ⟨_, (mem_foundBelow proper).mpr ⟨accepted, below.further, below.file⟩, rfl⟩
  · intro entries reordered
    have listed : ({ tree with entries } : FileTree).entries.Perm tree.entries := reordered
    exact scan_of_perm listed proper.distinct rfl root selection

/-- A file in `a` comes before one in `a-b`, though the texts of the paths are ordered the other way.
A link, a skipped file, an excluded one and one with another ending are left out. -/
theorem scan_beside_links :
    let tree : FileTree :=
      { entries :=
          [(["w"], .directory), (["w", "a-b"], .directory), (["w", "a-b", "x.cj"], .file []),
            (["w", "link.cj"], .link ⟨"a/x.cj"⟩), (["w", "a"], .directory),
            (["w", "a", "x.cj"], .file []), (["w", "a", "module.cj"], .file []),
            (["w", "a", "x.txt"], .file []), (["w", "out"], .directory),
            (["w", "out", "x.cj"], .file []), (["w", "outer.cj"], .directory)] }
    let selection : Selection :=
      { extension := "cj", skippedNames := ["module.cj"], excludedPaths := [" ./out/ "] }
    ∀ entries, entries.Perm tree.entries →
      ({ tree with entries } : FileTree).scan ⟨"/w"⟩ selection =
        .ok [⟨"/w/a/x.cj"⟩, ⟨"/w/a-b/x.cj"⟩] := by
  intro tree selection entries reordered
  have proper : tree.Proper :=
    .of_entries (by decide +kernel) (by decide +kernel) (by decide +kernel) rfl
  have chosen : ((tree.filesBelow ["w"]).filter selection.accepts).Perm
      [["a", "x.cj"], ["a-b", "x.cj"]] := by
    decide +kernel
  have found : tree.foundBelow selection ["w"] = [["a", "x.cj"], ["a-b", "x.cj"]] :=
    eq_of_sorted (List.compareLex compare) (pairwise_mergeSort _ _) (by decide +kernel)
      ((List.mergeSort_perm _ _).trans chosen)
  have scanned : tree.scan ⟨"/w"⟩ selection = .ok [⟨"/w/a/x.cj"⟩, ⟨"/w/a-b/x.cj"⟩] := by
    refine scan_eq_ok_iff.mpr ⟨["w"], by decide +kernel, by decide +kernel, ?_⟩
    rw [found]
    decide +kernel
  rw [← scanned]
  exact (scan_exact proper ⟨"/w"⟩ selection).2.2 entries reordered

end FileTree

end ApiMigration
