import ApiMigration.Path.Basic
import ApiMigration.Text.Blank
import ApiMigration.Text.Lines

namespace ApiMigration.Target

open Text

structure Placeholder where
  path : Path
  lineNumber : Nat
  line : String
deriving DecidableEq, Repr

def placeholders (path : Path) (text marker : String) : List Placeholder :=
  (shownLines text.toList).zipIdx.filterMap fun (line, index) =>
    if contains marker.toList line then
      some { path, lineNumber := index + 1, line := String.ofList (trim line) }
    else none

end ApiMigration.Target
