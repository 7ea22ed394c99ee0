import ApiMigration.FileTree.Failure
import ApiMigration.FileTree.Storage
import ApiMigration.Stub.Plan

namespace ApiMigration.Stub

structure WriteReport where
  created : List Path := []
  existing : List Path := []
  present : Nat := 0
deriving DecidableEq, Repr

/-- Makes a file unless it exists, with the directories it needs. Tells whether it did. A write that
is refused leaves the file there. -/
def writeIfAbsent (tree : FileTree) (path : Path) (contents : String) (storage : Storage := {}) :
    FileTree × Except Failure Bool :=
  match tree.makeParent path with
  | (tree, .error failure) => (tree, .error failure)
  | (tree, .ok ()) =>
    match tree.createNew path with
    | .error .alreadyExists => (tree, .ok false)
    | .error error => (tree, .error (.io path error))
    | .ok (tree, place) =>
      match storage.fill tree place (FileTree.textBytes contents) with
      | (tree, .ok ()) => (tree, .ok true)
      | (tree, .error error) => (tree, .error (.io path error))

def writeAll (tree : FileTree) (report : WriteReport) (stubs : List Planned)
    (storage : Storage := {}) : FileTree × Except Failure WriteReport :=
  match stubs with
  | [] => (tree, .ok report)
  | stub :: more =>
    match writeIfAbsent tree stub.path stub.contents storage with
    | (tree, .error failure) => (tree, .error failure)
    | (tree, .ok true) =>
      writeAll tree { report with created := report.created ++ [stub.path] } more storage
    | (tree, .ok false) =>
      writeAll tree { report with existing := report.existing ++ [stub.path] } more storage

def Scaffold.run (scaffold : Scaffold) (tree : FileTree) (sources : List SourceDeclaration)
    (inventory : Target.Inventory) (root : Path) (storage : Storage := {}) :
    FileTree × Except Failure WriteReport :=
  writeAll tree { present := scaffold.presentCount sources inventory }
    (scaffold.plan sources inventory root) storage

/-- What a run would do, told before anything is written. -/
def Scaffold.preview (scaffold : Scaffold) (tree : FileTree) (sources : List SourceDeclaration)
    (inventory : Target.Inventory) (root : Path) : WriteReport :=
  let paths := (scaffold.plan sources inventory root).map Planned.path
  { created := paths.filter fun path => !tree.isPresent path
    existing := paths.filter tree.isPresent
    present := scaffold.presentCount sources inventory }

end ApiMigration.Stub
