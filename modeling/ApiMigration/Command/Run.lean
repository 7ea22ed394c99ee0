import ApiMigration.Command.Arguments
import ApiMigration.Command.Json
import ApiMigration.Report.Document
import ApiMigration.Report.Gap
import ApiMigration.Report.Matrix
import ApiMigration.Target.Repackage
import ApiMigration.Text.Quoted
import ApiMigration.Workspace

namespace ApiMigration.Command

open Text

inductive CommandError where
  | settings (error : Settings.LoadError)
  | step (trace : Trace)
deriving DecidableEq, Repr

def CommandError.chain : CommandError → Trace
  | .settings error => error.chain
  | .step trace => trace

/-- A wording that starts after a margin; its further lines are set in. -/
def setIn (margin further : String) (wording : String) : String :=
  margin ++ String.ofList (wording.toList.flatMap fun c =>
    if c = '\n' then '\n' :: further.toList else [c])

def errorReport : Trace → String
  | [] => ""
  | [wording] => "Error: " ++ wording
  | [wording, cause] => "Error: " ++ wording ++ "\n\nCaused by:\n" ++ setIn "    " "    " cause
  | wording :: causes =>
    "Error: " ++ wording ++ "\n\nCaused by:\n"
      ++ joinWith "\n" (causes.mapIdx fun index cause =>
        setIn ("    " ++ toString index ++ ": ") "       " cause)

structure Outcome where
  exitCode : Nat
  output : String := ""
  error : Option CommandError := none
  tree : FileTree
deriving DecidableEq, Repr

namespace Outcome

def printed (tree : FileTree) (lines : List String) (exitCode : Nat := 0) : Outcome where
  exitCode := exitCode
  output := String.join (lines.map fun line => line ++ "\n")
  tree := tree

def printedJson (tree : FileTree) (value : Json) (exitCode : Nat := 0) : Outcome :=
  printed tree [value.render 0] exitCode

def failed (tree : FileTree) (error : CommandError) : Outcome where
  exitCode := 1
  error := some error
  tree := tree

def stepFailed (tree : FileTree) (context : String) (failure : Failure) : Outcome :=
  failed tree (.step (context :: failure.chain))

end Outcome

def tallyJson (tally : Tally) : Json :=
  .object
    [("implemented", .number tally.implemented), ("planned", .number tally.planned),
     ("subset", .number tally.subset), ("unsupported", .number tally.unsupported)]

def scaffoldOutput (workspace : Workspace) (tree : FileTree) (sources targets : Nat)
    (report : Stub.WriteReport) (dryRun json : Bool) : Outcome :=
  if json then
    .printedJson tree (.object
      [("sources", .number sources), ("targets", .number targets),
       ("already_ported", .number report.present), ("created", .paths report.created),
       ("existing", .paths report.existing), ("dry_run", .boolean dryRun)])
  else
    let verb := if dryRun then "Would create" else "Created"
    .printed tree
      (report.created.map (fun path => verb ++ " " ++ (workspace.display path).text)
        ++ [verb ++ " " ++ toString report.created.length ++ " files ("
          ++ toString report.existing.length ++ " already on disk, " ++ toString report.present
          ++ " of " ++ toString sources ++ " declarations already ported)"])

def scaffold (workspace : Workspace) (tree : FileTree) (dryRun json : Bool) : Outcome :=
  match workspace.sources tree, workspace.inventory tree with
  | .error trace, _ => .failed tree (.step trace)
  | _, .error trace => .failed tree (.step trace)
  | .ok sources, .ok inventory =>
    let plan := workspace.settings.scaffold
    let output := fun tree report =>
      scaffoldOutput workspace tree sources.length inventory.size report dryRun json
    if dryRun then output tree (plan.preview tree sources inventory workspace.targetRoot)
    else
      match plan.run tree sources inventory workspace.targetRoot with
      | (tree, .error failure) => .stepFailed tree "Failed to write skeletons" failure
      | (tree, .ok report) => output tree report

def refreshOutput (workspace : Workspace) (tree : FileTree) (sources targets : Nat)
    (tally : Tally) (matrixPath gapPath : Path) (outcome : Report.MergeOutcome) (json : Bool) :
    Outcome :=
  if json then
    .printedJson tree (.object
      [("sources", .number sources), ("targets", .number targets), ("counts", tallyJson tally),
       ("matrix_path", .text matrixPath.text), ("gap_report_path", .text gapPath.text),
       ("gap_section", .text outcome.label)])
  else
    .printed tree
      ["Wrote " ++ (workspace.display matrixPath).text,
       "Gap section " ++ outcome.label ++ " in " ++ (workspace.display gapPath).text,
       toString tally.total ++ " declarations: "
         ++ joinWith " " (Status.all.map fun status =>
           status.glyph ++ " " ++ toString (tally.get status))]

def refresh (workspace : Workspace) (tree : FileTree) (json : Bool) : Outcome :=
  match workspace.sources tree, workspace.inventory tree with
  | .error trace, _ => .failed tree (.step trace)
  | _, .error trace => .failed tree (.step trace)
  | .ok sources, .ok inventory =>
    let assessments := workspace.assess tree sources inventory
    let report := workspace.settings.report
    let matrixPath := workspace.pathOf report.matrixPath
    let gapPath := workspace.pathOf report.gapReportPath
    let matrix := Report.matrix assessments report.title workspace.settings.source.rootPackage
    match Report.writeDocument tree matrixPath matrix with
    | (tree, .error failure) => .stepFailed tree "Failed to write migration matrix" failure
    | (tree, .ok ()) =>
      match Report.upsert tree gapPath (Report.gapSection assessments report) report.beginMarker
        report.endMarker with
      | (tree, .error failure) => .stepFailed tree "Failed to update gap report" failure
      | (tree, .ok outcome) =>
        refreshOutput workspace tree sources.length inventory.size (Assessment.tally assessments)
          matrixPath gapPath outcome json

def printLimit : Nat := 200

def placeholderJson (hit : Target.Placeholder) : Json :=
  .object [("path", .text hit.path.text), ("line_no", .number hit.lineNumber),
    ("line", .text hit.line)]

def placeholderLine (workspace : Workspace) (hit : Target.Placeholder) : String :=
  (workspace.display hit.path).text ++ ":" ++ toString hit.lineNumber ++ ": " ++ hit.line

def placeholderLines (workspace : Workspace) (marker : String) (hits : List Target.Placeholder) :
    List String :=
  if hits.isEmpty then []
  else
    ["Found " ++ toString hits.length ++ " placeholder marker lines containing: " ++ quoted marker]
      ++ (hits.take printLimit).map (placeholderLine workspace)
      ++ if printLimit < hits.length then
          ["... (" ++ toString (hits.length - printLimit) ++ " more)"]
        else []

def check (workspace : Workspace) (tree : FileTree) (json : Bool) : Outcome :=
  let marker := workspace.settings.classification.placeholderMarker
  let root := workspace.targetRoot
  match Target.findPlaceholders tree workspace.settings.target root marker with
  | .error failure => .stepFailed tree ("Failed to scan " ++ root.text) failure
  | .ok hits =>
    let exitCode := if hits.isEmpty then 0 else 1
    if json then
      .printedJson tree (.object
        [("marker", .text marker), ("total", .number hits.length),
         ("hits", .list (hits.map placeholderJson))]) exitCode
    else .printed tree (placeholderLines workspace marker hits) exitCode

def repackage (workspace : Workspace) (tree : FileTree) (directory : Path) (package : String)
    (dryRun json : Bool) : Outcome :=
  let directory := workspace.pathOf directory
  match Target.repackage tree directory package workspace.settings.target.extension dryRun with
  | (tree, .error failure) => .stepFailed tree ("Failed to repackage " ++ directory.text) failure
  | (tree, .ok report) =>
    let exitCode := if 0 < report.failed then 1 else 0
    if json then
      .printedJson tree (.object
        [("updated", .paths report.updated), ("unchanged", .number report.unchanged),
         ("failed", .number report.failed)]) exitCode
    else
      let verb := if dryRun then "Would update" else "Updated"
      .printed tree
        (report.updated.map (fun path => verb ++ " " ++ (workspace.display path).text)
          ++ [verb ++ " " ++ toString report.updated.length ++ " files ("
            ++ toString report.unchanged ++ " already correct, " ++ toString report.failed
            ++ " failed)"]) exitCode

def perform (workspace : Workspace) (tree : FileTree) : Task → Outcome
  | .scaffold dryRun json => scaffold workspace tree dryRun json
  | .refresh json => refresh workspace tree json
  | .check json => check workspace tree json
  | .repackage directory package dryRun json =>
    repackage workspace tree directory package dryRun json

/-- The directory of the project of an invocation: the working directory unless another is given. -/
def projectRoot (invocation : Invocation) (tree : FileTree) : Path :=
  invocation.projectRoot.getD (FileTree.pathOf tree.workingDirectory)

def workspace (invocation : Invocation) (tree : FileTree) : Except Settings.LoadError Workspace :=
  let root := projectRoot invocation tree
  (Settings.discover tree root invocation.config).map fun settings =>
    Workspace.create root settings invocation.sourceRoot invocation.targetRoot

def invoke (invocation : Invocation) (tree : FileTree) : Outcome :=
  match workspace invocation tree with
  | .error error => .failed tree (.settings error)
  | .ok workspace => perform workspace tree invocation.task

def versionLine : String := "portmap 0.1.1"

/-- What the program can be asked. -/
def helpLines : List String :=
  ["Track and scaffold a Java to Cangjie API port", "",
   "Usage: portmap [OPTIONS] <COMMAND>", "",
   "Commands:",
   "  scaffold   Write placeholder skeletons for source declarations with no target type",
   "  refresh    Regenerate the migration matrix and the gap section of the gap report",
   "  check      Fail when any target file still carries the placeholder marker",
   "  repackage  Rewrite package lines so they follow the directory layout",
   "  help       Print this message or the help of the given subcommand(s)"]

def run (arguments : List String) (tree : FileTree) : Outcome :=
  match parse arguments with
  | .ok invocation => invoke invocation tree
  | .error .version => .printed tree [versionLine]
  | .error .help => .printed tree helpLines
  | .error .usage => { exitCode := 2, tree }

end ApiMigration.Command
