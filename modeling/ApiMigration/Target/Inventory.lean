import ApiMigration.Declaration
import Std.Data.HashMap
import Std.Data.HashSet

namespace ApiMigration.Target

/-- Target declarations, the positions of each name and the known pairs of package and name. -/
structure Inventory where
  declarations : Array TargetDeclaration := #[]
  byName : Std.HashMap String (Array Nat) := {}
  identities : Std.HashSet (String × String) := {}

namespace Inventory

def push (inventory : Inventory) (declaration : TargetDeclaration) : Inventory where
  declarations := inventory.declarations.push declaration
  byName :=
    inventory.byName.insert declaration.name
      ((inventory.byName.getD declaration.name #[]).push inventory.declarations.size)
  identities := inventory.identities.insert (declaration.package, declaration.name)

def ofList (declarations : List TargetDeclaration) : Inventory :=
  declarations.foldl push {}

def size (inventory : Inventory) : Nat :=
  inventory.declarations.size

def toList (inventory : Inventory) : List TargetDeclaration :=
  inventory.declarations.toList

def candidates (inventory : Inventory) (name : String) : List TargetDeclaration :=
  (inventory.byName.getD name #[]).toList.filterMap fun index => inventory.declarations[index]?

def contains (inventory : Inventory) (package name : String) : Bool :=
  inventory.identities.contains (package, name)

def containsName (inventory : Inventory) (name : String) : Bool :=
  inventory.byName.contains name

end Inventory

end ApiMigration.Target
