import ApiMigration.FileTree.Failure
import ApiMigration.Path.Filter

/-!
Scanning of a directory for files of one extension. Links are not followed, but for the directory
itself. The order is that of paths.
-/

namespace ApiMigration

open Text

structure Selection where
  extension : String
  skippedNames : List String := []
  excludedPaths : List String := []
deriving DecidableEq, Repr

def Selection.accepts (selection : Selection) (names : Location) : Bool :=
  match names.getLast? with
  | none => false
  | some name =>
    Path.extensionOf? name == some selection.extension
      && !selection.skippedNames.contains name
      && (!Filter.isActive selection.excludedPaths
        || Filter.allows selection.excludedPaths (joinWith "/" names))

namespace FileTree

def foundBelow (tree : FileTree) (selection : Selection) (location : Location) : List Location :=
  ((tree.filesBelow location).filter selection.accepts).mergeSort fun a b =>
    (List.compareLex compare a b).isLE

def scan (tree : FileTree) (root : Path) (selection : Selection) : Except Failure (List Path) :=
  match tree.locate root with
  | .error _ => .error (.invalidRoot root)
  | .ok location =>
    if tree.get? location = some .directory then
      .ok ((tree.foundBelow selection location).map root.joinAll)
    else .error (.invalidRoot root)

end FileTree

end ApiMigration
