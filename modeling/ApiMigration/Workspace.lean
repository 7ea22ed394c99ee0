import ApiMigration.Match.Assess
import ApiMigration.Settings.Decode
import ApiMigration.Source.Corpus
import ApiMigration.Stub.Write
import ApiMigration.Target.Corpus

namespace ApiMigration

def Path.resolve (base path : Path) : Path :=
  if path.isAbsolute then path else base.join path

structure Workspace where
  projectRoot : Path
  sourceRoot : Path
  targetRoot : Path
  settings : Settings
deriving DecidableEq, Repr

abbrev Trace := List String

namespace Workspace

def create (projectRoot : Path) (settings : Settings) (sourceRoot targetRoot : Option Path) :
    Workspace where
  projectRoot := projectRoot
  sourceRoot := projectRoot.resolve (sourceRoot.getD settings.source.root)
  targetRoot := projectRoot.resolve (targetRoot.getD settings.target.directory)
  settings := settings

def pathOf (workspace : Workspace) (path : Path) : Path :=
  workspace.projectRoot.resolve path

def display (workspace : Workspace) (path : Path) : Path :=
  (path.relativeTo? workspace.projectRoot).getD path

def sources (workspace : Workspace) (tree : FileTree) : Except Trace (List SourceDeclaration) :=
  (Source.corpus tree workspace.settings.source workspace.sourceRoot).mapError fun failure =>
    ("Failed to scan source tree " ++ workspace.sourceRoot.text) :: failure.chain

/-- The inventory of the target library. A library that does not exist yet is empty. -/
def inventory (workspace : Workspace) (tree : FileTree) : Except Trace Target.Inventory :=
  if tree.isPresent workspace.targetRoot then
    (Target.scanInventory tree workspace.settings.target workspace.targetRoot).mapError
      fun failure =>
        ("Failed to scan target tree " ++ workspace.targetRoot.text) :: failure.chain
  else .ok {}

def assess (workspace : Workspace) (tree : FileTree) (sources : List SourceDeclaration)
    (inventory : Target.Inventory) : List Assessment :=
  Match.assessAll tree workspace.settings.scoring workspace.settings.classification inventory
    sources

end Workspace

namespace Settings

def fileName : String := "portmap.toml"

inductive LoadError where
  | unreadable (path : Path) (error : FileError)
  | refused (path : Path) (fault : Fault)
deriving DecidableEq, Repr

def LoadError.chain : LoadError → Trace
  | .unreadable path error => ["Failed to read config " ++ path.text, error.message]
  | .refused path fault => ("In " ++ path.text) :: fault.chain

def load (tree : FileTree) (path : Path) : Except LoadError Settings :=
  match tree.readText path with
  | .error error => .error (.unreadable path error)
  | .ok text => (parse text).mapError (.refused path)

/-- The settings of a project: from the given file, which has to exist, or else from the
configuration file in the project directory, or else the defaults. -/
def discover (tree : FileTree) (projectRoot : Path) (given : Option Path) :
    Except LoadError Settings :=
  match given with
  | some path => load tree path
  | none =>
    let path := projectRoot.join ⟨fileName⟩
    if tree.isFile path then load tree path else .ok {}

end Settings

end ApiMigration
