import ApiMigration.Declaration
import ApiMigration.Status

namespace ApiMigration

structure Assessment where
  source : SourceDeclaration
  best : Option TargetDeclaration
  status : Status
deriving DecidableEq, Repr

namespace Assessment

def group (assessment : Assessment) : String :=
  assessment.source.group

def name (assessment : Assessment) : String :=
  assessment.source.name

/-- The groups that occur, each once, in increasing order. The root group comes first. -/
def groups (assessments : List Assessment) : List String :=
  (assessments.map group).eraseDups.mergeSort fun a b => (compare a b).isLE

def inGroup (assessments : List Assessment) (group : String) : List Assessment :=
  (assessments.filter fun assessment => assessment.group == group).mergeSort fun a b =>
    (compare a.name b.name).isLE

def tally (assessments : List Assessment) : Tally :=
  Tally.ofList (assessments.map status)

end Assessment

end ApiMigration
