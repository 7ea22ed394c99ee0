import ApiMigration.Path.Basic
import ApiMigration.Text.Blank
import ApiMigration.Text.Quoted

namespace ApiMigration.Report

open Text

structure Settings where
  matrixPath : Path := ⟨"doc/lang3_migration_matrix.md"⟩
  gapReportPath : Path := ⟨"doc/migration_gap_report.md"⟩
  beginMarker : String := "<!-- AUTO-GENERATED:LANG3-GAPS:BEGIN -->"
  endMarker : String := "<!-- AUTO-GENERATED:LANG3-GAPS:END -->"
  title : String := "Apache Commons Lang3 migration matrix"
deriving DecidableEq, Repr

def Settings.fault? (settings : Settings) : Option String :=
  let opening := trimmed settings.beginMarker
  let closing := trimmed settings.endMarker
  if opening = "" || closing = "" then some "report markers must not be empty"
  else if holds opening "\n" || holds closing "\n" then
    some "report markers must be single lines"
  else if holds opening closing || holds closing opening then
    some ("report markers must not contain each other (" ++ quoted opening ++ " / "
      ++ quoted closing ++ ")")
  else none

end ApiMigration.Report
