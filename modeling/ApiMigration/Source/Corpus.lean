import ApiMigration.FileTree.Scan
import ApiMigration.Settings.Basic
import ApiMigration.Source.Signature

namespace ApiMigration.Source

def selection (settings : SourceSettings) : Selection where
  extension := settings.extension
  skippedNames := settings.skippedNames
  excludedPaths := settings.excludedPaths

/-- The declarations of the files below a directory. A file without a package line or a public type
has none. -/
def corpus (tree : FileTree) (settings : SourceSettings) (root : Path) :
    Except Failure (List SourceDeclaration) :=
  (tree.scan root (selection settings)).map fun paths =>
    paths.filterMap fun path =>
      (tree.readLossy? path).bind (declaration? settings.rootPackage path)

end ApiMigration.Source
