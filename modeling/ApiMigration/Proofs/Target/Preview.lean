import ApiMigration.Proofs.FileTree.Ordered
import ApiMigration.Proofs.Target.Repackage

/-!
What a dry run of a repackaging tells. A run reads every file as it was before the run, since what it
writes is never read again, and it can write whatever it can read. So what becomes of a file can be
told from the tree before the run, which is what a dry run does.
-/

namespace ApiMigration.Target

open FileTree Text

inductive FileOutcome where
  | updated
  | unchanged
  | failed
deriving DecidableEq, Repr

def outcomeIn (tree : FileTree) (root : Path) (rootPackage : String) (path : Path) : FileOutcome :=
  match tree.readLossy? path with
  | none => .failed
  | some text =>
    match redirect? (packageAt root rootPackage path) text with
    | none => .unchanged
    | some _ => .updated

namespace RepackageReport

def count (report : RepackageReport) (path : Path) : FileOutcome → RepackageReport
  | .updated => { report with updated := report.updated ++ [path] }
  | .unchanged => { report with unchanged := report.unchanged + 1 }
  | .failed => { report with failed := report.failed + 1 }

def size (report : RepackageReport) : Nat :=
  report.updated.length + report.unchanged + report.failed

theorem size_count (report : RepackageReport) (path : Path) (outcome : FileOutcome) :
    (report.count path outcome).size = report.size + 1 := by
  cases outcome with
  | updated =>
    simp only [count, size, List.length_append, List.length_singleton]
    omega
  | unchanged =>
    simp only [count, size]
    omega
  | failed =>
    simp only [count, size]
    omega

theorem size_foldl_count (outcome : Path → FileOutcome) (paths : List Path)
    (report : RepackageReport) :
    (paths.foldl (fun report path => report.count path (outcome path)) report).size =
      report.size + paths.length := by
  induction paths generalizing report with
  | nil => rfl
  | cons path more ih =>
    rw [List.foldl_cons, ih, size_count, List.length_cons]
    omega

end RepackageReport

/-- The report on some files, told from the tree as it is. -/
def foretell (tree : FileTree) (root : Path) (rootPackage : String) (paths : List Path)
    (report : RepackageReport) : RepackageReport :=
  paths.foldl (fun report path => report.count path (outcomeIn tree root rootPackage path)) report

section Dry

variable {tree : FileTree} {root : Path} {rootPackage : String}

theorem repackageFile_dry (report : RepackageReport) (path : Path) :
    repackageFile root rootPackage true (tree, report) path =
      (tree, report.count path (outcomeIn tree root rootPackage path)) := by
  simp only [repackageFile, outcomeIn]
  cases tree.readLossy? path with
  | none => rfl
  | some text =>
    dsimp only
    cases redirect? (packageAt root rootPackage path) text with
    | none => rfl
    | some changed => rfl

theorem foldl_repackageFile_dry (paths : List Path) (report : RepackageReport) :
    paths.foldl (repackageFile root rootPackage true) (tree, report) =
      (tree, foretell tree root rootPackage paths report) := by
  induction paths generalizing report with
  | nil => rfl
  | cons path more ih =>
    rw [List.foldl_cons, repackageFile_dry, ih]
    rfl

end Dry

theorem redirect?_ne {package text changed : String}
    (redirected : redirect? package text = some changed) : changed ≠ text := by
  rintro rfl
  obtain ⟨before, line, after, first, differs, spelled⟩ := redirect?_eq_some_iff.mp redirected
  rw [first.text_eq] at spelled
  exact differs (List.append_cancel_left (List.append_cancel_right spelled))

namespace Repackaged

variable {root : Path} {rootPackage : String} {base : Location} {before now : FileTree}
  {finished : List Location} {report : RepackageReport} {names : Location} {bytes : List UInt8}

theorem count_eq (repackaged : Repackaged root rootPackage base before finished now report)
    (proper : before.Proper) (located : before.locate root = .ok base) (further : names ≠ [])
    (file : before.get? (base ++ names) = some (.file bytes)) (fresh : names ∉ finished) :
    (repackageFile root rootPackage false (now, report) (root.joinAll names)).2 =
      report.count (root.joinAll names)
        (outcomeIn before root rootPackage (root.joinAll names)) := by
  simp only [repackageFile, outcomeIn, repackaged.readLossy?_eq proper located further file fresh]
  cases told : before.readLossy? (root.joinAll names) with
  | none => rfl
  | some text =>
    dsimp only
    cases redirect? (packageAt root rootPackage (root.joinAll names)) text with
    | none => rfl
    | some changed =>
      have written := repackaged.write_eq proper located further file fresh told
        (textBytes changed)
      simp only [Bool.false_eq_true, if_false, written]
      rfl

theorem report_run (proper : before.Proper) (located : before.locate root = .ok base)
    {rest : List Location} (files : ∀ names ∈ rest, names ≠ [] ∧
      ∃ bytes, before.get? (base ++ names) = some (.file bytes))
    (distinct : (finished ++ rest).Nodup)
    (repackaged : Repackaged root rootPackage base before finished now report) :
    ((rest.map root.joinAll).foldl (repackageFile root rootPackage false) (now, report)).2 =
      foretell before root rootPackage (rest.map root.joinAll) report := by
  induction rest generalizing finished now report with
  | nil => rfl
  | cons names rest ih =>
    obtain ⟨further, bytes, file⟩ := files names List.mem_cons_self
    have fresh : names ∉ finished := by
      intro member
      exact (List.nodup_append.mp distinct).2.2 names member names List.mem_cons_self rfl
    have next := repackaged.step proper located further file fresh
    have later := fun other member => files other (List.mem_cons_of_mem names member)
    rw [List.append_cons] at distinct
    rw [List.map_cons, List.foldl_cons, ih later distinct next,
      repackaged.count_eq proper located further file fresh]
    rfl

theorem changed_iff
    (repackaged : Repackaged root rootPackage base before (before.foundBelow { extension } base)
      now report)
    (proper : before.Proper) (located : before.locate root = .ok base) (place : Location) :
    now.get? place ≠ before.get? place ↔
      ∃ path ∈ report.updated, before.locate path = .ok place := by
  have found : ∀ names ∈ before.foundBelow { extension } base, ∀ text,
      changed? before root rootPackage (root.joinAll names) = some text →
      before.locate (root.joinAll names) = .ok (base ++ names) ∧
        now.get? (base ++ names) ≠ before.get? (base ++ names) := by
    intro names member text changed
    obtain ⟨further, old, held⟩ := ((mem_foundBelow proper).mp member).2
    have rewritten := repackaged.rewritten names member text changed
    rw [changed?, proper.readLossy?_file located further held] at changed
    by_cases admissible : Admissible (root.joinAll names)
    · rw [if_pos admissible, Option.bind_some] at changed
      refine ⟨proper.locate_file located further held admissible, ?_⟩
      rw [rewritten, held]
      intro same
      have bytes : textBytes text = old := Entry.file.inj (Option.some.inj same)
      have original : String.ofList (decodeLossy old) = text := by
        rw [← bytes, textBytes, decodeLossy_encode, String.ofList_toList]
      exact redirect?_ne changed original.symm
    · rw [if_neg admissible] at changed
      cases changed
  constructor
  · intro differs
    by_contra elsewhere
    apply differs
    apply repackaged.kept
    rintro names member changed rfl
    obtain ⟨text, changed⟩ := Option.ne_none_iff_exists'.mp changed
    refine elsewhere ⟨root.joinAll names, ?_, (found names member text changed).1⟩
    rw [repackaged.updated, List.mem_filter]
    exact ⟨List.mem_map_of_mem member, by simp [changed]⟩
  · rintro ⟨path, updated, reached⟩
    rw [repackaged.updated, List.mem_filter] at updated
    obtain ⟨listed, changed⟩ := updated
    obtain ⟨names, member, rfl⟩ := List.mem_map.mp listed
    obtain ⟨text, changed⟩ := Option.isSome_iff_exists.mp changed
    obtain ⟨leads, differs⟩ := found names member text changed
    rw [reached] at leads
    cases leads
    exact differs

end Repackaged

theorem repackage_eq_foretell {tree : FileTree} {root : Path} {extension : String}
    {paths : List Path} (proper : tree.Proper) (scanned : tree.scan root { extension } = .ok paths)
    (rootPackage : String) :
    repackage tree root rootPackage extension true =
        (tree, .ok (foretell tree root rootPackage paths {})) ∧
      (repackage tree root rootPackage extension false).2 =
        .ok (foretell tree root rootPackage paths {}) := by
  constructor
  · rw [repackage, scanned]
    simp only [foldl_repackageFile_dry]
  · obtain ⟨base, located, _, rfl⟩ := scan_eq_ok_iff.mp scanned
    have files : ∀ names ∈ tree.foundBelow { extension } base, names ≠ [] ∧
        ∃ bytes, tree.get? (base ++ names) = some (.file bytes) :=
      fun names member => ((mem_foundBelow proper).mp member).2
    have told := Repackaged.report_run proper located files (nodup_foundBelow proper)
      (Repackaged.start root rootPackage base tree)
    rw [repackage, scanned]
    exact congrArg Except.ok told

theorem size_foretell (tree : FileTree) (root : Path) (rootPackage : String) (paths : List Path) :
    (foretell tree root rootPackage paths {}).size = paths.length := by
  rw [foretell, RepackageReport.size_foldl_count]
  exact Nat.zero_add _

/-- A dry run reports what a run from the same tree reports, and leaves the tree. The report lists
the updated files in the strict order of their components and accounts for every file that the scan
finds, and the run modifies exactly the files that are listed. -/
theorem repackage_preview {tree : FileTree} (proper : tree.Proper) (root : Path)
    (rootPackage extension : String) :
    repackage tree root rootPackage extension true =
        (tree, (repackage tree root rootPackage extension false).2) ∧
      ∀ paths, tree.scan root { extension } = .ok paths →
        ∃ after report, repackage tree root rootPackage extension false = (after, .ok report) ∧
          report.updated.Pairwise (fun a b => a.compare b = .lt) ∧
          report.updated.length + report.unchanged + report.failed = paths.length ∧
          ∀ place, after.get? place ≠ tree.get? place ↔
            ∃ path ∈ report.updated, tree.locate path = .ok place := by
  cases scanned : tree.scan root { extension } with
  | error failure =>
    constructor
    · simp only [repackage, scanned]
    · intro paths same
      cases same
  | ok found =>
    obtain ⟨dry, told⟩ := repackage_eq_foretell proper scanned rootPackage
    refine ⟨by rw [dry, told], ?_⟩
    rintro paths ⟨⟩
    have ran : repackage tree root rootPackage extension false =
        ((repackage tree root rootPackage extension false).1,
          .ok (foretell tree root rootPackage found {})) := Prod.ext rfl told
    obtain ⟨base, located, _, repackaged⟩ := repackage_cases proper ran
    obtain ⟨other, relocated, _, listed⟩ := scan_eq_ok_iff.mp scanned
    rw [located] at relocated
    cases relocated
    refine ⟨_, _, ran, ?_, size_foretell tree root rootPackage found,
      repackaged.changed_iff proper located⟩
    rw [repackaged.updated, ← listed]
    exact (proper.pairwise_scan scanned).filter _

/-- The directory `a` comes before `a-b`, though its path with a slash does not; one file declares its
package already, another is no target file. -/
theorem repackage_preview_beside_hyphen :
    let tree : FileTree :=
      { entries :=
          [(["w"], .directory), (["w", "a-b"], .directory), (["w", "a"], .directory),
            (["w", "a", "x.cj"], .file (textBytes "package o\n" ++ [0xFF])),
            (["w", "a-b", "x.cj"], .file (textBytes "package o\n")),
            (["w", "r.cj"], .file (textBytes "package p\n")), (["w", "n.txt"], .file [])] }
    let report : RepackageReport := { updated := [⟨"/w/a/x.cj"⟩, ⟨"/w/a-b/x.cj"⟩], unchanged := 1 }
    tree.scan ⟨"/w"⟩ { extension := "cj" } =
        .ok [⟨"/w/a/x.cj"⟩, ⟨"/w/a-b/x.cj"⟩, ⟨"/w/r.cj"⟩] ∧
      repackage tree ⟨"/w"⟩ "p" "cj" true = (tree, .ok report) ∧
      ∃ after, repackage tree ⟨"/w"⟩ "p" "cj" false = (after, .ok report) ∧
        report.updated.Pairwise (fun a b => a.compare b = .lt) ∧
        ∀ place, after.get? place ≠ tree.get? place ↔
          ∃ path ∈ report.updated, tree.locate path = .ok place := by
  intro tree report
  have proper : tree.Proper :=
    .of_entries (by decide +kernel) (by decide +kernel) (by decide +kernel) rfl
  have scanned : tree.scan ⟨"/w"⟩ { extension := "cj" } =
      .ok [⟨"/w/a/x.cj"⟩, ⟨"/w/a-b/x.cj"⟩, ⟨"/w/r.cj"⟩] := by
    have listed : (tree.filesBelow ["w"]).filter (Selection.accepts { extension := "cj" }) =
        [["a", "x.cj"], ["a-b", "x.cj"], ["r.cj"]] := by
      decide +kernel
    have found : tree.foundBelow { extension := "cj" } ["w"] =
        [["a", "x.cj"], ["a-b", "x.cj"], ["r.cj"]] := by
      rw [foundBelow, listed, List.mergeSort_of_pairwise (by decide +kernel)]
    refine scan_eq_ok_iff.mpr ⟨["w"], by decide +kernel, by decide +kernel, ?_⟩
    rw [found]
    decide +kernel
  have told : (repackage tree ⟨"/w"⟩ "p" "cj" false).2 = .ok report := by
    have foretold : foretell tree ⟨"/w"⟩ "p" [⟨"/w/a/x.cj"⟩, ⟨"/w/a-b/x.cj"⟩, ⟨"/w/r.cj"⟩] {} =
        report := by
      decide +kernel
    rw [(repackage_eq_foretell proper scanned "p").2, foretold]
  obtain ⟨dry, run⟩ := repackage_preview proper ⟨"/w"⟩ "p" "cj"
  obtain ⟨after, found, ran, ordered, _, modified⟩ := run _ scanned
  rw [ran] at told dry
  cases told
  exact ⟨scanned, dry, after, ran, ordered, modified⟩

end ApiMigration.Target
