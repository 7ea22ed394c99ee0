import ApiMigration.Declaration

/-!
Scores of target declarations that have the name of a source declaration. Packages are compared by
segments; the candidate with the most points is the match. Points are counted in thirty-two bits and
wrap around.
-/

namespace ApiMigration.Match

open Text

instance coeInt32 : Coe Int32 Int := ⟨Int32.toInt⟩

inductive Rule where
  | groupTail
  | groupSegment
  | rootUtility
  | rangeNamespace
deriving DecidableEq, Repr

def Rule.all : List Rule :=
  [.groupTail, .groupSegment, .rootUtility, .rangeNamespace]

structure Scoring where
  groupTail : Int32 := 20
  groupSegment : Int32 := 10
  rootUtility : Int32 := 8
  rangeNamespace : Int32 := 8
  utilityPackageSuffix : String := ".utils"
  rangePackageSuffix : String := ".range"
  rangeNameSuffix : String := "Range"
deriving DecidableEq, Repr

structure Score where
  points : Int32
  rules : List Rule
deriving DecidableEq, Repr

namespace Scoring

def weight (scoring : Scoring) : Rule → Int32
  | .groupTail => scoring.groupTail
  | .groupSegment => scoring.groupSegment
  | .rootUtility => scoring.rootUtility
  | .rangeNamespace => scoring.rangeNamespace

def applies (scoring : Scoring) (source : SourceDeclaration) (candidate : TargetDeclaration) :
    Rule → Bool
  | .groupTail => source.groupHead != "" && endsWith candidate.package ("." ++ source.groupHead)
  | .groupSegment =>
    source.groupHead != "" && holds (candidate.package ++ ".") ("." ++ source.groupHead ++ ".")
  | .rootUtility => source.inRootGroup && endsWith candidate.package scoring.utilityPackageSuffix
  | .rangeNamespace =>
    endsWith source.name scoring.rangeNameSuffix
      && endsWith candidate.package scoring.rangePackageSuffix

/-- The rules that give points to a candidate. An inner segment does not count beside the last. -/
def rulesFor (scoring : Scoring) (source : SourceDeclaration) (candidate : TargetDeclaration) :
    List Rule :=
  Rule.all.filter fun rule =>
    scoring.applies source candidate rule
      && !(rule == .groupSegment && scoring.applies source candidate .groupTail)

def score (scoring : Scoring) (source : SourceDeclaration) (candidate : TargetDeclaration) :
    Score :=
  let rules := scoring.rulesFor source candidate
  { points := rules.foldl (fun points rule => points + scoring.weight rule) 0, rules }

/-- The order in which candidates are preferred: by points, then by the shorter package in bytes,
then by the greater qualified name, then by the greater origin. -/
def preference (scoring : Scoring) (source : SourceDeclaration) (a b : TargetDeclaration) :
    Ordering :=
  (compare (scoring.score source a).points (scoring.score source b).points).then
    ((compare b.package.utf8ByteSize a.package.utf8ByteSize).then
      ((compare a.qualifiedName b.qualifiedName).then (a.origin.compare b.origin)))

/-- The preferred one of two candidates, the later one when neither is. -/
def prefer (scoring : Scoring) (source : SourceDeclaration) (earlier later : TargetDeclaration) :
    TargetDeclaration :=
  if scoring.preference source earlier later = .gt then earlier else later

def best? (scoring : Scoring) (source : SourceDeclaration) :
    List TargetDeclaration → Option TargetDeclaration
  | [] => none
  | first :: more => some (more.foldl (scoring.prefer source) first)

end Scoring

end ApiMigration.Match
