import ApiMigration.Declaration
import ApiMigration.Status
import ApiMigration.Text.Blank

namespace ApiMigration.Match

open Text

structure Classification where
  unsupported : List String := ["ClassLoaderUtils", "ClassPathUtils", "SerializationUtils"]
  placeholderMarker : String := "is not implemented"
  overrides : List (String × Status) := []
deriving DecidableEq, Repr

namespace Classification

def isUnsupported (rules : Classification) (source : SourceDeclaration) : Bool :=
  rules.unsupported.contains source.name

/-- The status by the match and the text of its file, which is missing when it cannot be read. -/
def status (rules : Classification) (source : SourceDeclaration)
    (match? : Option TargetDeclaration) (text? : Option String) : Status :=
  if rules.isUnsupported source then .unsupported
  else
    match match?, text? with
    | some _, some text => if holds text rules.placeholderMarker then .planned else .implemented
    | _, _ => .planned

def override (rules : Classification) (source : SourceDeclaration) (status : Status) : Status :=
  (rules.overrides.lookup source.name).getD status

def fault? (rules : Classification) : Option String :=
  if isBlankText rules.placeholderMarker then some "classify.placeholder_marker must not be empty"
  else none

end Classification

end ApiMigration.Match
