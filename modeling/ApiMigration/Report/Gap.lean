import ApiMigration.Assessment
import ApiMigration.Report.Settings

namespace ApiMigration.Report

open Text

def totalLine (totals : Tally) (status : Status) : String :=
  "- " ++ status.glyph ++ " " ++ status.label ++ ": " ++ toString (totals.get status)

def tableRow (cells : List String) : String :=
  "|" ++ String.join (cells.map fun cell => " " ++ cell ++ " |")

def groupLabel (group : String) : String :=
  if group = "" then "(root)" else group

def groupRow (assessments : List Assessment) (group : String) : String :=
  let counts := Assessment.tally (Assessment.inGroup assessments group)
  tableRow ([groupLabel group] ++ Status.all.map (fun status => toString (counts.get status))
    ++ [toString counts.total])

def openOrder (a b : Assessment) : Ordering :=
  (compare a.group b.group).then ((compare a.status.rank b.status.rank).then (compare a.name b.name))

def openEntries (assessments : List Assessment) : List Assessment :=
  (assessments.filter fun assessment => assessment.status != .implemented).mergeSort fun a b =>
    (openOrder a b).isLE

def openLine (assessment : Assessment) : String :=
  "- " ++ assessment.status.glyph ++ " "
    ++ (if assessment.group = "" then "root" else assessment.group) ++ "." ++ assessment.name

def openLines (assessments : List Assessment) : List String :=
  match openEntries assessments with
  | [] => ["- none"]
  | entries => entries.map openLine

def gapBody (assessments : List Assessment) : List String :=
  let totals := Assessment.tally assessments
  ["", "## Migration gaps (generated)", "", "- Declarations: " ++ toString totals.total]
    ++ Status.all.map (totalLine totals)
    ++ ["", "### By package", "",
        tableRow (["package"] ++ Status.all.map Status.glyph ++ ["total"]),
        "|---|---:|---:|---:|---:|---:|"]
    ++ (Assessment.groups assessments).map (groupRow assessments)
    ++ ["", "### Not yet implemented", ""] ++ openLines assessments ++ [""]

def gapLines (assessments : List Assessment) (settings : Settings) : List String :=
  [settings.beginMarker] ++ gapBody assessments ++ [settings.endMarker]

def gapSection (assessments : List Assessment) (settings : Settings) : String :=
  joinWith "\n" (gapLines assessments settings) ++ "\n"

end ApiMigration.Report
