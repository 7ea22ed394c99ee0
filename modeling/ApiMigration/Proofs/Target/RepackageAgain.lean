import ApiMigration.Proofs.Path.Relative
import ApiMigration.Proofs.Target.Repackage
import ApiMigration.Proofs.Text.Joined

namespace ApiMigration.Target

open FileTree Text

theorem exists_repackage {tree : FileTree} {root : Path} {base : Location}
    (located : tree.locate root = .ok base) (directory : tree.get? base = some .directory)
    (rootPackage extension : String) (dryRun : Bool) :
    ∃ after report, repackage tree root rootPackage extension dryRun = (after, .ok report) := by
  have scanned := scan_eq_ok_iff.mpr ⟨base, located, directory,
    (rfl : _ = (tree.foundBelow { extension } base).map root.joinAll)⟩
  rw [repackage, scanned]
  exact ⟨_, _, rfl⟩

section

variable {root : Path} {rootPackage : String} {base : Location} {before now : FileTree}
  {finished : List Location} {report : RepackageReport} {names : Location} {bytes : List UInt8}

theorem Repackaged.readLossy?_after
    (repackaged : Repackaged root rootPackage base before finished now report)
    (proper : before.Proper) (located : before.locate root = .ok base) (further : names ≠ [])
    (file : before.get? (base ++ names) = some (.file bytes)) (listed : names ∈ finished) :
    now.readLossy? (root.joinAll names) = (before.readLossy? (root.joinAll names)).map fun text =>
      (redirect? (packageAt root rootPackage (root.joinAll names)) text).getD text := by
  have moved : now.locate root = .ok base := by
    rw [repackaged.shape.locate_eq]
    exact located
  have later := repackaged.shape.proper proper
  have told := proper.readLossy?_file located further file
  cases changed : changed? before root rootPackage (root.joinAll names) with
  | none =>
    have kept : now.get? (base ++ names) = some (.file bytes) := by
      rw [repackaged.kept (base ++ names) _, file]
      intro other _ differs same
      rw [← List.append_cancel_left same] at differs
      exact differs changed
    rw [later.readLossy?_file moved further kept, ← told]
    cases read : before.readLossy? (root.joinAll names) with
    | none => rfl
    | some text =>
      rw [changed?, read, Option.bind_some] at changed
      simp [changed]
  | some text =>
    rw [later.readLossy?_file moved further (repackaged.rewritten names listed text changed)]
    rw [changed?, told] at changed
    rw [told]
    split
    · next admissible =>
      rw [if_pos admissible, Option.bind_some] at changed
      simp [changed, textBytes, decodeLossy_encode]
    · next refused =>
      rw [if_neg refused] at changed
      cases changed

theorem Repackaged.uneventful_iff
    (repackaged : Repackaged root rootPackage base before finished now report) :
    (report.updated = [] ∧ report.failed = 0) ↔
      ∀ names ∈ finished, before.readLossy? (root.joinAll names) ≠ none ∧
        changed? before root rootPackage (root.joinAll names) = none := by
  rw [repackaged.updated, repackaged.failed, List.length_eq_zero_iff, List.filter_eq_nil_iff,
    List.filter_eq_nil_iff]
  simp only [List.forall_mem_map, Bool.not_eq_true, Option.isSome_eq_false_iff,
    Option.isNone_iff_eq_none]
  rw [← forall₂_and]
  exact forall₂_congr fun _ _ => and_comm

end

/-- The package of a file begins as the root package does, and a package line can hold it exactly
when it can hold the names of the directories on the way to the file. -/
theorem packageAt_spelled {root : Path} {rootPackage : String} {names : List String}
    (written : root.text ≠ "") (further : names ≠ [])
    (named : ∀ name ∈ names, IsFileName name) (dotted : IsDotted rootPackage.toList) :
    (∃ c rest, (packageAt root rootPackage (root.joinAll names)).toList = c :: rest ∧
      isPackageChar c = true) ∧
    ((∀ c ∈ (packageAt root rootPackage (root.joinAll names)).toList, isPackageChar c = true) ↔
      ∀ directory ∈ names.dropLast, ∀ c ∈ directory.toList, isPackageChar c = true) := by
  rw [packageAt_joinAll written further named]
  constructor
  · obtain ⟨c, more, spelled⟩ := List.exists_cons_of_ne_nil dotted.ne_nil
    obtain ⟨rest, joined⟩ := toList_joinWith_cons "." rootPackage names.dropLast
    refine ⟨c, more ++ rest, by rw [joined, spelled]; rfl, ?_⟩
    exact dotted.isPackageChar c (by simp [spelled])
  · have dots : ∀ c ∈ ".".toList, isPackageChar c = true := by
      intro c member
      rw [List.mem_singleton.mp member]
      decide
    rw [forall_mem_joinWith dots, List.forall_mem_cons]
    exact and_iff_right dotted.isPackageChar

/-- After a repackaging, the same repackaging again changes nothing, reports nothing as updated and
fails at no file exactly when every file can be read and, below a package line, the directories on
the way to the file are named with characters that a package line can hold. -/
theorem repackage_again_changes_nothing_iff {tree first : FileTree} {root : Path}
    {rootPackage extension : String} {report : RepackageReport} (proper : tree.Proper)
    (dotted : IsDotted rootPackage.toList)
    (ran : repackage tree root rootPackage extension false = (first, .ok report)) :
    (∃ again, repackage first root rootPackage extension false = (first, .ok again) ∧
      again.updated = [] ∧ again.failed = 0) ↔
    ∀ base, tree.locate root = .ok base → ∀ names ∈ tree.foundBelow { extension } base,
      ∃ text, tree.readLossy? (root.joinAll names) = some text ∧
        (hasPackageLine text = true →
          ∀ directory ∈ names.dropLast, ∀ c ∈ directory.toList, isPackageChar c = true) := by
  obtain ⟨base, located, directory, done⟩ := repackage_cases proper ran
  have moved : first.locate root = .ok base := (done.shape.locate_eq root {}).trans located
  have still := (done.shape.directory_iff base).mpr directory
  obtain ⟨second, again, reran⟩ := exists_repackage moved still rootPackage extension false
  obtain ⟨other, relocated, _, redone⟩ := repackage_cases (done.shape.proper proper) reran
  rw [moved] at relocated
  cases relocated
  rw [done.shape.foundBelow_eq] at redone
  -- what the second run sees of a file, by what the first one saw
  have each : ∀ names ∈ tree.foundBelow { extension } base,
      (first.readLossy? (root.joinAll names) ≠ none ∧
        changed? first root rootPackage (root.joinAll names) = none) ↔
      ∃ text, tree.readLossy? (root.joinAll names) = some text ∧
        (hasPackageLine text = true →
          ∀ directory ∈ names.dropLast, ∀ c ∈ directory.toList, isPackageChar c = true) := by
    intro names member
    obtain ⟨_, further, bytes, file⟩ := (mem_foundBelow proper).mp member
    obtain ⟨⟨c, rest, begins, solid⟩, spelled⟩ := packageAt_spelled
      (admissible_of_locate located).written further
      (fun name inside => proper.isFileName file name (List.mem_append_right _ inside)) dotted
    have after := done.readLossy?_after proper located further file member
    cases told : tree.readLossy? (root.joinAll names) with
    | none => simp [after, told]
    | some text =>
      have again : redirect? _ ((redirect? _ text).getD text) = none ↔ _ :=
        redirect?_again_eq_none_iff begins solid
      rw [spelled] at again
      simp only [changed?, after, told, Option.map_some, Option.bind_some, again]
      simp
  rw [reran]
  constructor
  · rintro ⟨_, same, nothing⟩ place arrived
    rw [located] at arrived
    cases arrived
    cases same
    exact fun names member => (each names member).mp (redone.uneventful_iff.mp nothing names member)
  · intro readable
    have quiet : ∀ names ∈ tree.foundBelow { extension } base,
        first.readLossy? (root.joinAll names) ≠ none ∧
          changed? first root rootPackage (root.joinAll names) = none := by
      intro names member
      exact (each names member).mpr (readable base located names member)
    refine ⟨again, ?_, redone.uneventful_iff.mpr quiet⟩
    rw [redone.untouched fun names member => (quiet names member).2]

theorem repackage_again_beside_hyphen :
    let tree : FileTree :=
      { entries :=
          [(["w"], .directory), (["w", "a_1"], .directory),
            (["w", "a_1", "x.cj"], .file (textBytes "  package\to // é\n")),
            (["w", "a-b"], .directory), (["w", "a-b", "y.txt"], .file [0xFF])] }
    let ran := repackage tree ⟨"/w"⟩ "p.q" "cj" false
    ran.2 = .ok { updated := [⟨"/w/a_1/x.cj"⟩] } ∧
      ((∃ again, repackage ran.1 ⟨"/w"⟩ "p.q" "cj" false = (ran.1, .ok again) ∧
        again.updated = [] ∧ again.failed = 0) ↔
      ∀ base, tree.locate ⟨"/w"⟩ = .ok base → ∀ names ∈ tree.foundBelow { extension := "cj" } base,
        ∃ text, tree.readLossy? (Path.joinAll ⟨"/w"⟩ names) = some text ∧
          (hasPackageLine text = true →
            ∀ directory ∈ names.dropLast, ∀ c ∈ directory.toList, isPackageChar c = true)) := by
  intro tree ran
  have proper : tree.Proper :=
    .of_entries (by decide +kernel) (by decide +kernel) (by decide +kernel) rfl
  have ended : ran.2 = .ok { updated := [⟨"/w/a_1/x.cj"⟩] } := by
    decide +kernel
  have dotted : IsDotted "p.q".toList := by decide
  have succeeded : repackage tree ⟨"/w"⟩ "p.q" "cj" false =
      (ran.1, .ok { updated := [⟨"/w/a_1/x.cj"⟩] }) := Prod.ext rfl ended
  exact ⟨ended, repackage_again_changes_nothing_iff proper dotted succeeded⟩

/-- Below a directory with a hyphen the package line that was written is not read back whole: the
second run changes it once more. -/
theorem repackage_again_appends :
    let tree : FileTree :=
      { entries := [(["w"], .directory), (["w", "my-dir"], .directory),
          (["w", "my-dir", "a.cj"], .file (textBytes "package o\n"))] }
    let first := repackage tree ⟨"/w"⟩ "p" "cj" false
    let second := repackage first.1 ⟨"/w"⟩ "p" "cj" false
    first.2 = .ok { updated := [⟨"/w/my-dir/a.cj"⟩] } ∧
      first.1.get? ["w", "my-dir", "a.cj"] = some (.file (textBytes "package p.my-dir\n")) ∧
      second.2 = .ok { updated := [⟨"/w/my-dir/a.cj"⟩] } ∧
      second.1.get? ["w", "my-dir", "a.cj"] =
        some (.file (textBytes "package p.my-dir-dir\n")) := by
  decide +kernel

end ApiMigration.Target
