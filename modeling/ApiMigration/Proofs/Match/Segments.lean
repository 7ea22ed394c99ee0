import ApiMigration.Match.Score
import ApiMigration.Proofs.Text.Reader
import ApiMigration.Proofs.Text.Trim
import Mathlib.Algebra.Ring.Int.Defs

/-!
Scores by segments. The rules for groups look for text with dots around it, and the text between
dots that they find is a whole segment of the package, never its first one and never a part of one.
-/

namespace ApiMigration.Text

def dotted (parts : List (List Char)) : List Char :=
  parts.flatMap fun part => part ++ ['.']

section Words

variable {word first text : List Char} {more : List (List Char)}

end Words

end ApiMigration.Text

namespace ApiMigration.Match

open Text

/-- The segments of a dotted name: the texts before, between and after its dots. -/
def segments (name : String) : List String :=
  (name.toList.splitOn '.').map String.ofList

section Names

variable {name head first : String} {more deeper : List String}

end Names

namespace Scoring

variable {scoring : Scoring} {source : SourceDeclaration} {candidate : TargetDeclaration}

def total (scoring : Scoring) (rules : List Rule) : Int :=
  (rules.map fun rule => (scoring.weight rule : Int)).sum

variable {head first : String} {more deeper : List String}

end Scoring

end ApiMigration.Match
