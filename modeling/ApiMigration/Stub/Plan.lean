import ApiMigration.Routing
import ApiMigration.Stub.FileStem
import ApiMigration.Stub.Render
import ApiMigration.Target.Inventory

namespace ApiMigration.Stub

structure Planned where
  name : String
  package : String
  path : Path
  contents : String
deriving DecidableEq, Repr

structure Scaffold where
  renderer : Renderer
  routing : Routing := {}
  extension : String := "cj"
deriving DecidableEq, Repr

namespace Scaffold

def path (scaffold : Scaffold) (root : Path) (declaration : SourceDeclaration)
    (package : String) : Path :=
  (root.join (scaffold.routing.directory package)).join
    ⟨fileStem declaration.name ++ "." ++ scaffold.extension⟩

def planned (scaffold : Scaffold) (root : Path) (declaration : SourceDeclaration) : Planned :=
  let package := scaffold.routing.targetPackage declaration
  { name := declaration.name
    package
    path := scaffold.path root declaration package
    contents := scaffold.renderer.render declaration package }

def isPresent (scaffold : Scaffold) (inventory : Target.Inventory)
    (declaration : SourceDeclaration) : Bool :=
  inventory.contains (scaffold.routing.targetPackage declaration) declaration.name
    || inventory.containsName declaration.name

def plan (scaffold : Scaffold) (sources : List SourceDeclaration) (inventory : Target.Inventory)
    (root : Path) : List Planned :=
  (sources.filter fun declaration => !scaffold.isPresent inventory declaration).map
    (scaffold.planned root)

def presentCount (scaffold : Scaffold) (sources : List SourceDeclaration)
    (inventory : Target.Inventory) : Nat :=
  (sources.filter (scaffold.isPresent inventory)).length

end Scaffold

end ApiMigration.Stub
