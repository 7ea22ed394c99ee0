import ApiMigration.Assessment
import ApiMigration.Report.Settings

namespace ApiMigration.Report

open Text

def entryLine (assessment : Assessment) : String :=
  "- " ++ assessment.status.glyph ++ " " ++ assessment.name
    ++ (assessment.best.elim "" fun target => " → `" ++ target.qualifiedName ++ "`")

def groupHeading (rootPackage group : String) : String :=
  if group = "" then "## Root package `" ++ rootPackage ++ "`" else "## `" ++ group ++ "`"

def groupLines (assessments : List Assessment) (rootPackage group : String) : List String :=
  [groupHeading rootPackage group, ""]
    ++ (Assessment.inGroup assessments group).map entryLine ++ [""]

def legendLine (status : Status) : String :=
  "- " ++ status.glyph ++ " " ++ status.label ++ ": " ++ status.legend

def matrixLines (assessments : List Assessment) (title rootPackage : String) : List String :=
  ["# " ++ title, "",
   "Generated from the public top-level declarations under `" ++ rootPackage ++ "` ("
     ++ toString assessments.length ++ " total), matched against the target source tree.",
   "", "Legend:", ""]
    ++ Status.all.map legendLine ++ [""]
    ++ (Assessment.groups assessments).flatMap (groupLines assessments rootPackage)

def matrix (assessments : List Assessment) (title rootPackage : String) : String :=
  String.ofList (trimEnd (joinWith "\n" (matrixLines assessments title rootPackage)).toList) ++ "\n"

end ApiMigration.Report
