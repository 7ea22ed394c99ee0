import ApiMigration.FileTree.Access

namespace ApiMigration

inductive Failure where
  | invalidRoot (root : Path)
  /-- Scanning was part of a step that changes files. -/
  | scan (root : Path)
  | io (path : Path) (error : FileError)
deriving DecidableEq, Repr

namespace Failure

def invalidRootMessage (root : Path) : String :=
  "Scan root is not a directory: " ++ root.text

def chain : Failure → List String
  | .invalidRoot root => [invalidRootMessage root]
  | .scan root => ["Scan error: " ++ invalidRootMessage root, invalidRootMessage root]
  | .io path error => ["IO error at " ++ path.text ++ ": " ++ error.message, error.message]

def message (failure : Failure) : String :=
  failure.chain.headD ""

end Failure

/-- Makes the directory of a path and what is missing above it. A failure is one of that
directory. -/
def FileTree.makeParent (tree : FileTree) (path : Path) : FileTree × Except Failure Unit :=
  match path.parent? with
  | none => (tree, .ok ())
  | some parent =>
    match tree.makeDirectories parent with
    | (tree, .ok ()) => (tree, .ok ())
    | (tree, .error error) => (tree, .error (.io parent error))

end ApiMigration
