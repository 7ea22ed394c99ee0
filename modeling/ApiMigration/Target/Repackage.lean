import ApiMigration.FileTree.Scan
import ApiMigration.Target.PackageLine

namespace ApiMigration.Target

/-- What repackaging did. In a dry run, what it would do. -/
structure RepackageReport where
  updated : List Path := []
  unchanged : Nat := 0
  failed : Nat := 0
deriving DecidableEq, Repr

def packageAt (root : Path) (rootPackage : String) (path : Path) : String :=
  packageFor rootPackage ((path.parent?.bind fun parent => parent.relativeTo? root).getD ⟨""⟩)

def repackageFile (root : Path) (rootPackage : String) (dryRun : Bool)
    (state : FileTree × RepackageReport) (path : Path) : FileTree × RepackageReport :=
  let (tree, report) := state
  match tree.readLossy? path with
  | none => (tree, { report with failed := report.failed + 1 })
  | some text =>
    match redirect? (packageAt root rootPackage path) text with
    | none => (tree, { report with unchanged := report.unchanged + 1 })
    | some changed =>
      let updated := { report with updated := report.updated ++ [path] }
      if dryRun then (tree, updated)
      else
        match tree.write path (FileTree.textBytes changed) with
        | .ok written => (written, updated)
        | .error _ => (tree, { report with failed := report.failed + 1 })

def repackage (tree : FileTree) (root : Path) (rootPackage extension : String) (dryRun : Bool) :
    FileTree × Except Failure RepackageReport :=
  match tree.scan root { extension } with
  | .error _ => (tree, .error (.scan root))
  | .ok paths =>
    let (tree, report) := paths.foldl (repackageFile root rootPackage dryRun) (tree, {})
    (tree, .ok report)

end ApiMigration.Target
