import ApiMigration.Assessment
import ApiMigration.FileTree.Access
import ApiMigration.Match.Classification
import ApiMigration.Match.Score
import ApiMigration.Target.Inventory

namespace ApiMigration.Match

def Classification.statusIn (rules : Classification) (tree : FileTree)
    (source : SourceDeclaration) (match? : Option TargetDeclaration) : Status :=
  rules.status source match? (match?.bind fun target => tree.readLossy? target.origin)

def assess (tree : FileTree) (scoring : Scoring) (rules : Classification)
    (inventory : Target.Inventory) (source : SourceDeclaration) : Assessment :=
  let best := scoring.best? source (inventory.candidates source.name)
  { source, best, status := rules.override source (rules.statusIn tree source best) }

def assessAll (tree : FileTree) (scoring : Scoring) (rules : Classification)
    (inventory : Target.Inventory) (sources : List SourceDeclaration) : List Assessment :=
  sources.map (assess tree scoring rules inventory)

end ApiMigration.Match
