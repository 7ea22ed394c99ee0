import ApiMigration.FileTree.Failure
import ApiMigration.Report.Section

namespace ApiMigration.Report

def writeDocument (tree : FileTree) (path : Path) (contents : String) :
    FileTree × Except Failure Unit :=
  match tree.makeParent path with
  | (tree, .error failure) => (tree, .error failure)
  | (tree, .ok ()) =>
    match tree.write path (FileTree.textBytes contents) with
    | .ok tree => (tree, .ok ())
    | .error error => (tree, .error (.io path error))

inductive MergeOutcome where
  | replaced
  | appended
  | unchanged
deriving DecidableEq, Repr

def MergeOutcome.label : MergeOutcome → String
  | .replaced => "replaced"
  | .appended => "appended"
  | .unchanged => "unchanged"

/-- Merges a section into the document at a path. A missing document counts as empty; one that does
not change is not written. -/
def upsert (tree : FileTree) (path : Path) (newSection opening closing : String) :
    FileTree × Except Failure MergeOutcome :=
  match tree.readOrEmpty path with
  | .error error => (tree, .error (.io path error))
  | .ok document =>
    let merged := merge opening closing document newSection
    if merged = document then (tree, .ok .unchanged)
    else
      let (tree, written) := writeDocument tree path merged
      let outcome : MergeOutcome :=
        if hasRegion opening closing document then .replaced else .appended
      (tree, written.map fun _ => outcome)

end ApiMigration.Report
