import ApiMigration.Text.Blank

namespace ApiMigration

inductive Status where
  | implemented
  | planned
  | subset
  | unsupported
deriving DecidableEq, Repr

namespace Status

def all : List Status :=
  [.implemented, .planned, .subset, .unsupported]

def rank : Status → Nat
  | .implemented => 0
  | .planned => 1
  | .subset => 2
  | .unsupported => 3

def label : Status → String
  | .implemented => "implemented"
  | .planned => "planned"
  | .subset => "subset"
  | .unsupported => "unsupported"

def glyph : Status → String
  | .implemented => "✅"
  | .planned => "🟡"
  | .subset => "⚠️"
  | .unsupported => "⛔"

def legend : Status → String
  | .implemented => "a real implementation exists in the target tree"
  | .planned => "missing, or still a placeholder skeleton"
  | .subset => "ported with a reduced feature set"
  | .unsupported => "no sensible equivalent on the target platform"

def ofLabel? (label : String) : Option Status :=
  all.find? fun status => status.label == label

/-- The status a text names. White space around it and the case of Latin letters do not count. -/
def parse? (text : String) : Option Status :=
  ofLabel? (String.ofList ((Text.trim text.toList).map Char.toLower))

end Status

structure Tally where
  implemented : Nat := 0
  planned : Nat := 0
  subset : Nat := 0
  unsupported : Nat := 0
deriving DecidableEq, Repr

namespace Tally

def add (tally : Tally) : Status → Tally
  | .implemented => { tally with implemented := tally.implemented + 1 }
  | .planned => { tally with planned := tally.planned + 1 }
  | .subset => { tally with subset := tally.subset + 1 }
  | .unsupported => { tally with unsupported := tally.unsupported + 1 }

def get (tally : Tally) : Status → Nat
  | .implemented => tally.implemented
  | .planned => tally.planned
  | .subset => tally.subset
  | .unsupported => tally.unsupported

def total (tally : Tally) : Nat :=
  tally.implemented + tally.planned + tally.subset + tally.unsupported

def ofList (statuses : List Status) : Tally :=
  statuses.foldl add {}

end Tally

end ApiMigration
