import ApiMigration.FileTree.Scan
import ApiMigration.Settings.Basic
import ApiMigration.Target.Header
import ApiMigration.Target.Inventory
import ApiMigration.Target.Placeholder

namespace ApiMigration.Target

def selection (settings : TargetSettings) : Selection where
  extension := settings.extension
  excludedPaths := settings.excludedPaths

def collect {α : Type} (tree : FileTree) (settings : TargetSettings) (root : Path)
    (find : Path → String → List α) : Except Failure (List α) :=
  (tree.scan root (selection settings)).map fun paths =>
    paths.flatMap fun path => (tree.readLossy? path).elim [] (find path)

def scanInventory (tree : FileTree) (settings : TargetSettings) (root : Path) :
    Except Failure Inventory :=
  (collect tree settings root declarations).map Inventory.ofList

def findPlaceholders (tree : FileTree) (settings : TargetSettings) (root : Path)
    (marker : String) : Except Failure (List Placeholder) :=
  collect tree settings root fun path text => placeholders path text marker

end ApiMigration.Target
