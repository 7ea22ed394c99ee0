import ApiMigration.Proofs.FileTree.Contents
import ApiMigration.Proofs.Target.PackageLine
import ApiMigration.Proofs.Text.Utf8
import ApiMigration.Target.Repackage

/-!
What repackaging does to a tree. It is followed file by file: each file that was found is read as it
was before the run, and what is written changes that file only.
-/

namespace ApiMigration

namespace FileTree

theorem write_file {tree : FileTree} {path : Path} {place : Location} {old : List UInt8}
    (located : tree.locate path { wantsFile := true } = .ok place)
    (held : tree.get? place = some (.file old)) (bytes : List UInt8) :
    tree.write path bytes = .ok (tree.set place (.file bytes)) := by
  simp [write, located, bind, Except.bind, held]

end FileTree

namespace Target

open FileTree Text

def changed? (tree : FileTree) (root : Path) (rootPackage : String) (path : Path) :
    Option String :=
  (tree.readLossy? path).bind (redirect? (packageAt root rootPackage path))

/-- What a tree and a report have become when some of the files that were found have been dealt
with. Files are given by the names that lead to them from `base`. -/
structure Repackaged (root : Path) (rootPackage : String) (base : Location) (before : FileTree)
    (finished : List Location) (now : FileTree) (report : RepackageReport) : Prop where
  shape : SameShape before now
  kept : ∀ place, (∀ names ∈ finished,
      changed? before root rootPackage (root.joinAll names) ≠ none → place ≠ base ++ names) →
    now.get? place = before.get? place
  rewritten : ∀ names ∈ finished, ∀ text,
    changed? before root rootPackage (root.joinAll names) = some text →
      now.get? (base ++ names) = some (.file (textBytes text))
  untouched : (∀ names ∈ finished,
    changed? before root rootPackage (root.joinAll names) = none) → now = before
  updated : report.updated =
    (finished.map root.joinAll).filter fun path => (changed? before root rootPackage path).isSome
  failed : report.failed =
    ((finished.map root.joinAll).filter fun path => (before.readLossy? path).isNone).length

namespace Repackaged

variable {root : Path} {rootPackage : String} {base : Location} {before now : FileTree}
  {finished : List Location} {report : RepackageReport} {names : Location} {bytes : List UInt8}

theorem start (root : Path) (rootPackage : String) (base : Location) (before : FileTree) :
    Repackaged root rootPackage base before [] before {} where
  shape := .refl before
  kept := fun _ _ => rfl
  rewritten := by simp
  untouched := fun _ => rfl
  updated := rfl
  failed := rfl

theorem held (repackaged : Repackaged root rootPackage base before finished now report)
    (fresh : names ∉ finished) : now.get? (base ++ names) = before.get? (base ++ names) := by
  apply repackaged.kept
  intro other member _ same
  rw [List.append_cancel_left same] at fresh
  exact fresh member

theorem readLossy?_eq (repackaged : Repackaged root rootPackage base before finished now report)
    (proper : before.Proper) (located : before.locate root = .ok base) (further : names ≠ [])
    (file : before.get? (base ++ names) = some (.file bytes)) (fresh : names ∉ finished) :
    now.readLossy? (root.joinAll names) = before.readLossy? (root.joinAll names) := by
  have moved : now.locate root = .ok base := by
    rw [repackaged.shape.locate_eq]
    exact located
  rw [proper.readLossy?_file located further file,
    (repackaged.shape.proper proper).readLossy?_file moved further
      ((repackaged.held fresh).trans file)]

theorem below_ne_nil {tree : FileTree} {place : Location}
    (file : tree.get? place = some (.file bytes)) : place ≠ [] := by
  rintro rfl
  simp at file

theorem pass (repackaged : Repackaged root rootPackage base before finished now report)
    (same : changed? before root rootPackage (root.joinAll names) = none)
    {next : RepackageReport} (updated : next.updated = report.updated)
    (failed : next.failed = report.failed +
      if (before.readLossy? (root.joinAll names)).isNone then 1 else 0) :
    Repackaged root rootPackage base before (finished ++ [names]) now next where
  shape := repackaged.shape
  kept := by
    intro place elsewhere
    apply repackaged.kept
    intro other member
    exact elsewhere other (List.mem_append_left _ member)
  rewritten := by
    intro other member text changed
    rcases List.mem_append.mp member with member | member
    · exact repackaged.rewritten other member text changed
    · rw [List.mem_singleton.mp member, same] at changed
      cases changed
  untouched := by
    intro none
    apply repackaged.untouched
    intro other member
    exact none other (List.mem_append_left _ member)
  updated := by
    rw [updated, repackaged.updated, List.map_append, List.filter_append]
    simp [same]
  failed := by
    rw [failed, repackaged.failed, List.map_append, List.filter_append, List.length_append]
    congr 1
    split <;> simp_all

theorem rewrite (repackaged : Repackaged root rootPackage base before finished now report)
    (fresh : names ∉ finished) (file : before.get? (base ++ names) = some (.file bytes))
    {text : String} (changed : changed? before root rootPackage (root.joinAll names) = some text) :
    Repackaged root rootPackage base before (finished ++ [names])
      (now.set (base ++ names) (.file (textBytes text)))
      { report with updated := report.updated ++ [root.joinAll names] } where
  shape := by
    have still := (repackaged.held fresh).trans file
    exact repackaged.shape.trans (.setFile still _)
  kept := by
    intro place elsewhere
    have here : place ≠ base ++ names := elsewhere names (by simp) (by simp [changed])
    rw [get?_set _ (below_ne_nil file), if_neg here]
    apply repackaged.kept
    intro other member
    exact elsewhere other (List.mem_append_left _ member)
  rewritten := by
    intro other member result other_changed
    rw [get?_set _ (below_ne_nil file)]
    rcases List.mem_append.mp member with member | member
    · have apart : base ++ other ≠ base ++ names := by
        intro same
        rw [← List.append_cancel_left same] at fresh
        exact fresh member
      rw [if_neg apart]
      exact repackaged.rewritten other member result other_changed
    · rw [List.mem_singleton.mp member, changed] at other_changed
      cases other_changed
      rw [List.mem_singleton.mp member, if_pos rfl]
  untouched := by
    intro none
    rw [none names (by simp)] at changed
    cases changed
  updated := by
    show report.updated ++ [root.joinAll names] = _
    rw [repackaged.updated, List.map_append, List.filter_append]
    simp [changed]
  failed := by
    have readable : (before.readLossy? (root.joinAll names)).isNone = false := by
      cases told : before.readLossy? (root.joinAll names) with
      | none => simp [changed?, told] at changed
      | some _ => rfl
    show report.failed = _
    rw [repackaged.failed, List.map_append, List.filter_append]
    simp [readable]

theorem write_eq (repackaged : Repackaged root rootPackage base before finished now report)
    (proper : before.Proper) (located : before.locate root = .ok base) (further : names ≠ [])
    (file : before.get? (base ++ names) = some (.file bytes)) (fresh : names ∉ finished)
    {text : String} (told : before.readLossy? (root.joinAll names) = some text)
    (written : List UInt8) :
    now.write (root.joinAll names) written =
      .ok (now.set (base ++ names) (.file written)) := by
  have admissible : Admissible (root.joinAll names) := by
    rw [proper.readLossy?_file located further file] at told
    by_contra refused
    simp [refused] at told
  have still := (repackaged.held fresh).trans file
  have moved : now.locate root = .ok base := by
    rw [repackaged.shape.locate_eq]
    exact located
  have reached : now.locate (root.joinAll names) { wantsFile := true } = .ok (base ++ names) :=
    (repackaged.shape.proper proper).locate_file moved further still admissible
  exact write_file reached still written

theorem step (repackaged : Repackaged root rootPackage base before finished now report)
    (proper : before.Proper) (located : before.locate root = .ok base) (further : names ≠ [])
    (file : before.get? (base ++ names) = some (.file bytes)) (fresh : names ∉ finished) :
    Repackaged root rootPackage base before (finished ++ [names])
      (repackageFile root rootPackage false (now, report) (root.joinAll names)).1
      (repackageFile root rootPackage false (now, report) (root.joinAll names)).2 := by
  simp only [repackageFile, repackaged.readLossy?_eq proper located further file fresh]
  cases told : before.readLossy? (root.joinAll names) with
  | none => exact repackaged.pass (by simp [changed?, told]) rfl (by simp [told])
  | some text =>
    cases redirected : redirect? (packageAt root rootPackage (root.joinAll names)) text with
    | none =>
      have same : changed? before root rootPackage (root.joinAll names) = none := by
        simp [changed?, told, redirected]
      simp only [redirected]
      exact repackaged.pass same rfl (by simp [told])
    | some result =>
      have changed : changed? before root rootPackage (root.joinAll names) = some result := by
        simp [changed?, told, redirected]
      simp only [redirected, Bool.false_eq_true, if_false,
        repackaged.write_eq proper located further file fresh told]
      exact repackaged.rewrite fresh file changed

theorem run (proper : before.Proper) (located : before.locate root = .ok base)
    {rest : List Location} (files : ∀ names ∈ rest, names ≠ [] ∧
      ∃ bytes, before.get? (base ++ names) = some (.file bytes))
    (distinct : (finished ++ rest).Nodup)
    (repackaged : Repackaged root rootPackage base before finished now report) :
    Repackaged root rootPackage base before (finished ++ rest)
      ((rest.map root.joinAll).foldl (repackageFile root rootPackage false) (now, report)).1
      ((rest.map root.joinAll).foldl (repackageFile root rootPackage false) (now, report)).2 := by
  induction rest generalizing finished now report with
  | nil =>
    rw [List.append_nil]
    exact repackaged
  | cons names rest ih =>
    obtain ⟨further, bytes, file⟩ := files names List.mem_cons_self
    have fresh : names ∉ finished := by
      intro member
      exact (List.nodup_append.mp distinct).2.2 names member names List.mem_cons_self rfl
    have next := repackaged.step proper located further file fresh
    rw [List.append_cons] at distinct ⊢
    rw [List.map_cons, List.foldl_cons]
    exact ih (fun other member => files other (List.mem_cons_of_mem _ member)) distinct next

end Repackaged

section Unchanged

variable {tree : FileTree} {root : Path} {rootPackage : String}

theorem repackageFile_of_unchanged {path : Path}
    (same : changed? tree root rootPackage path = none) (dryRun : Bool) (report : RepackageReport) :
    ∃ next, repackageFile root rootPackage dryRun (tree, report) path = (tree, next) ∧
      next.updated = report.updated := by
  simp only [repackageFile]
  cases told : tree.readLossy? path with
  | none => exact ⟨_, rfl, rfl⟩
  | some text =>
    rw [changed?, told, Option.bind_some] at same
    simp only [same]
    exact ⟨_, rfl, rfl⟩

/-- A repackaging, dry or not, of files that need no change leaves the tree and updates nothing. -/
theorem repackage_of_unchanged {extension : String} {paths : List Path}
    (scanned : tree.scan root { extension } = .ok paths)
    (same : ∀ path ∈ paths, changed? tree root rootPackage path = none) (dryRun : Bool) :
    ∃ report, repackage tree root rootPackage extension dryRun = (tree, .ok report) ∧
      report.updated = [] := by
  have run : ∀ report, ∃ next,
      paths.foldl (repackageFile root rootPackage dryRun) (tree, report) = (tree, next) ∧
        next.updated = report.updated := by
    clear scanned
    induction paths with
    | nil => exact fun report => ⟨report, rfl, rfl⟩
    | cons path more ih =>
      intro report
      obtain ⟨next, passed, kept⟩ :=
        repackageFile_of_unchanged (same path List.mem_cons_self) dryRun report
      obtain ⟨final, ran, still⟩ :=
        ih (fun other member => same other (List.mem_cons_of_mem _ member)) next
      exact ⟨final, by rw [List.foldl_cons, passed, ran], still.trans kept⟩
  obtain ⟨report, ran, none⟩ := run {}
  refine ⟨report, ?_, none⟩
  rw [repackage, scanned]
  simp only [ran]

end Unchanged

theorem repackage_cases {tree after : FileTree} {root : Path} {rootPackage extension : String}
    {report : RepackageReport} (proper : tree.Proper)
    (ran : repackage tree root rootPackage extension false = (after, .ok report)) :
    ∃ base, tree.locate root = .ok base ∧ tree.get? base = some .directory ∧
      Repackaged root rootPackage base tree (tree.foundBelow { extension } base) after report := by
  unfold repackage at ran
  split at ran
  · cases ran
  · next paths scanned =>
    cases ran
    obtain ⟨base, located, directory, rfl⟩ := scan_eq_ok_iff.mp scanned
    refine ⟨base, located, directory, ?_⟩
    apply Repackaged.run proper located _ _ (Repackaged.start root rootPackage base tree)
    · intro names member
      exact ((mem_foundBelow proper).mp member).2
    · exact nodup_foundBelow proper

/-- New bytes are the old ones with one span of them replaced by another. -/
def SpanReplaced (span replacement old new : List UInt8) : Prop :=
  ∃ front back, old = front ++ span ++ back ∧ new = front ++ replacement ++ back

theorem headFor_begins {line : PackageLine} (spelled : line.Spelled) (package : String) :
    ∃ c rest, line.headFor package = c :: rest ∧ c.toNat < 0x80 := by
  cases indent : line.indent with
  | nil =>
    refine ⟨'p', "ackage ".toList ++ package.toList, ?_, by decide⟩
    simp [PackageLine.headFor, indent]
  | cons c rest =>
    refine ⟨c, rest ++ "package ".toList ++ package.toList, by simp [PackageLine.headFor, indent], ?_⟩
    have gap := spelled.indent c (by simp [indent])
    simp only [PackageLine.isGap, Bool.or_eq_true, beq_iff_eq] at gap
    rcases gap with rfl | rfl <;> decide

/-- Bytes that are changed by way of their text change in one span only exactly when they are
UTF-8. -/
theorem spanReplaced_iff_isUtf8 {old : List UInt8} {before rest : List Char} {line : PackageLine}
    (first : FirstPackageLine (decodeLossy old) before line rest) (package : String) :
    SpanReplaced (encode line.head) (encode (line.headFor package)) old
        (encode (before ++ line.headFor package ++ rest)) ↔ IsUtf8 old := by
  constructor
  · rintro ⟨front, back, rfl, new⟩
    obtain ⟨c, more, begins, ascii⟩ := headFor_begins first.spelled package
    have valid : IsUtf8 (front ++ encode (line.headFor package) ++ back) := by
      rw [← new]
      exact isUtf8_encode _
    have frontValid : IsUtf8 front := by
      have byte : encode (line.headFor package) = UInt8.ofNat c.toNat :: encode more := by
        rw [begins, encode_cons, encodeChar]
        simp [ascii]
      rw [byte, List.append_assoc] at valid
      exact isUtf8_of_append_ascii (by rw [toNat_byte (by omega)]; exact ascii) valid
    have backValid : IsUtf8 back := by
      obtain ⟨text, rfl⟩ := frontValid
      rw [← encode_append] at valid
      exact isUtf8_of_encode_append valid
    exact (frontValid.append (isUtf8_encode line.head)).append backValid
  · intro valid
    refine ⟨encode before, encode rest, ?_, by rw [encode_append, encode_append]⟩
    rw [← encode_append, ← encode_append, ← first.text_eq]
    exact (isUtf8_iff.mp valid).symm

/-- Repackaging leaves every file alone that it does not report. In a file that it reports, only the
start of the first package line is replaced, provided that the file is UTF-8: the text of the file
is written back, so other bytes are lost. -/
theorem repackage_keeps_surroundings_iff {tree after : FileTree} {root : Path}
    {rootPackage extension : String} {report : RepackageReport} (proper : tree.Proper)
    (ran : repackage tree root rootPackage extension false = (after, .ok report)) :
    (∀ place, (∀ path ∈ report.updated, tree.locate path ≠ .ok place) →
      after.get? place = tree.get? place) ∧
    ∀ path ∈ report.updated, ∃ place old before line rest,
      let package := packageAt root rootPackage path
      let new := encode (before ++ line.headFor package ++ rest)
      tree.locate path = .ok place ∧ tree.get? place = some (.file old) ∧
        FirstPackageLine (decodeLossy old) before line rest ∧
        after.get? place = some (.file new) ∧
        (SpanReplaced (encode line.head) (encode (line.headFor package)) old new ↔
          IsUtf8 old) := by
  obtain ⟨base, located, _, repackaged⟩ := repackage_cases proper ran
  have found : ∀ names ∈ tree.foundBelow { extension } base, ∀ text,
      changed? tree root rootPackage (root.joinAll names) = some text →
      ∃ old, tree.locate (root.joinAll names) = .ok (base ++ names) ∧
        tree.get? (base ++ names) = some (.file old) ∧
        redirect? (packageAt root rootPackage (root.joinAll names))
          (String.ofList (decodeLossy old)) = some text := by
    intro names member text changed
    obtain ⟨further, old, held⟩ := ((mem_foundBelow proper).mp member).2
    rw [changed?, proper.readLossy?_file located further held] at changed
    by_cases admissible : Admissible (root.joinAll names)
    · rw [if_pos admissible] at changed
      exact ⟨old, proper.locate_file located further held admissible, held, changed⟩
    · rw [if_neg admissible] at changed
      cases changed
  constructor
  · intro place elsewhere
    apply repackaged.kept
    rintro names member changed rfl
    obtain ⟨text, changed⟩ := Option.ne_none_iff_exists'.mp changed
    obtain ⟨_, reached, _⟩ := found names member text changed
    refine elsewhere (root.joinAll names) ?_ reached
    rw [repackaged.updated, List.mem_filter]
    exact ⟨List.mem_map_of_mem member, by simp [changed]⟩
  · intro path updated
    rw [repackaged.updated, List.mem_filter] at updated
    obtain ⟨listed, changed⟩ := updated
    obtain ⟨names, member, rfl⟩ := List.mem_map.mp listed
    obtain ⟨text, changed⟩ := Option.isSome_iff_exists.mp changed
    obtain ⟨old, reached, held, redirected⟩ := found names member text changed
    obtain ⟨before, line, rest, first, _, spelled⟩ := redirect?_eq_some_iff.mp redirected
    rw [String.toList_ofList] at first
    refine ⟨base ++ names, old, before, line, rest, reached, held, first, ?_,
      spanReplaced_iff_isUtf8 first _⟩
    rw [repackaged.rewritten names member text changed, textBytes, spelled]

/-- The package line is indented and in the middle of the file, which ends with a stray byte; the
file beside it is no target file. -/
theorem repackage_beside_stray_byte :
    let tree : FileTree :=
      { entries :=
          [(["w"], .directory),
            (["w", "a.cj"], .file (textBytes "// é\n\tpackage  o.x\n" ++ [0xFF])),
            (["w", "b.txt"], .file (textBytes "package o\n"))] }
    let ran := repackage tree ⟨"/w"⟩ "p" "cj" false
    let report : RepackageReport := { updated := [⟨"/w/a.cj"⟩] }
    ran.2 = .ok report ∧
      (∀ place, (∀ path ∈ report.updated, tree.locate path ≠ .ok place) →
        ran.1.get? place = tree.get? place) ∧
      ∀ path ∈ report.updated, ∃ place old before line rest,
        let package := packageAt ⟨"/w"⟩ "p" path
        let new := encode (before ++ line.headFor package ++ rest)
        tree.locate path = .ok place ∧ tree.get? place = some (.file old) ∧
          FirstPackageLine (decodeLossy old) before line rest ∧
          ran.1.get? place = some (.file new) ∧
          (SpanReplaced (encode line.head) (encode (line.headFor package)) old new ↔
            IsUtf8 old) := by
  intro tree ran report
  have proper : tree.Proper :=
    .of_entries (by decide +kernel) (by decide +kernel) (by decide +kernel) rfl
  have ended : ran.2 = .ok report := by decide +kernel
  exact ⟨ended, repackage_keeps_surroundings_iff proper (Prod.ext rfl ended)⟩

/-- A stray byte in a comment below the package line comes back as the three bytes of the
replacement character, so more than the package line is replaced. -/
theorem repackage_replaces_stray_byte :
    let old := textBytes "package o\n// " ++ [0xFF, 0x0A]
    let new := textBytes "package p\n// " ++ [0xEF, 0xBF, 0xBD, 0x0A]
    let tree : FileTree := { entries := [(["w"], .directory), (["w", "a.cj"], .file old)] }
    let ran := repackage tree ⟨"/w"⟩ "p" "cj" false
    ran.2 = .ok { updated := [⟨"/w/a.cj"⟩] } ∧ ran.1.get? ["w", "a.cj"] = some (.file new) ∧
      ¬ SpanReplaced (textBytes "package o") (textBytes "package p") old new := by
  refine ⟨by decide +kernel, by decide +kernel, ?_⟩
  rintro ⟨front, back, spelled, changed⟩
  have before := congrArg List.length spelled
  have after := congrArg List.length changed
  have same : (textBytes "package o").length = (textBytes "package p").length := by
    decide +kernel
  have longer : (textBytes "package o\n// ").length = (textBytes "package p\n// ").length := by
    decide +kernel
  simp only [List.length_append, List.length_cons, List.length_nil] at before after
  omega

end Target

end ApiMigration
