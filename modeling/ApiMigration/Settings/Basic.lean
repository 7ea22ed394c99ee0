import ApiMigration.Match.Classification
import ApiMigration.Match.Score
import ApiMigration.Report.Settings
import ApiMigration.Routing
import ApiMigration.Stub.Plan
import ApiMigration.Stub.Render
import ApiMigration.Stub.TypeTable
import ApiMigration.Text.Quoted

namespace ApiMigration

open Text

structure SourceSettings where
  root : Path := ⟨"../commons-lang/src/main/java/org/apache/commons/lang3"⟩
  rootPackage : String := "org.apache.commons.lang3"
  extension : String := "java"
  skippedNames : List String := ["package-info.java"]
  excludedPaths : List String := []
deriving DecidableEq, Repr

structure TargetSettings where
  directory : Path := ⟨"src"⟩
  extension : String := "cj"
  excludedPaths : List String := []
deriving DecidableEq, Repr

def extensionFault? (field extension : String) : Option String :=
  if extension = "" then some (field ++ " must not be empty")
  else if extension.toList.head? == some '.' then
    some (field ++ " must not start with '.' (got " ++ quoted extension ++ ")")
  else none

def SourceSettings.fault? (settings : SourceSettings) : Option String :=
  (extensionFault? "source.extension" settings.extension).or
    (if settings.root.text = "" then some "source.root must not be empty"
    else if isBlankText settings.rootPackage then some "source.root_package must not be empty"
    else none)

def TargetSettings.fault? (settings : TargetSettings) : Option String :=
  (extensionFault? "target.extension" settings.extension).or
    (if settings.directory.text = "" then some "target.src_dir must not be empty" else none)

structure Settings where
  source : SourceSettings := {}
  target : TargetSettings := {}
  routing : Routing := {}
  types : Stub.TypeTable := {}
  classification : Match.Classification := {}
  scoring : Match.Scoring := {}
  style : Stub.Style := {}
  report : Report.Settings := {}
deriving DecidableEq, Repr

namespace Settings

def fault? (settings : Settings) : Option String :=
  settings.source.fault?
    |>.or settings.target.fault?
    |>.or settings.routing.fault?
    |>.or settings.classification.fault?
    |>.or settings.report.fault?
    |>.or (if isBlankText settings.types.fallback then some "types.fallback must not be empty"
      else none)

def renderer (settings : Settings) : Stub.Renderer where
  style := settings.style
  types := settings.types
  rootNamespace := settings.routing.rootNamespace
  marker := settings.classification.placeholderMarker

def scaffold (settings : Settings) : Stub.Scaffold where
  renderer := settings.renderer
  routing := settings.routing
  extension := settings.target.extension

end Settings

end ApiMigration
