import ApiMigration.Settings.Basic
import ApiMigration.Toml.Reader

/-!
Settings from a configuration document. Fields that are not given keep their defaults; a field that
is unknown or has a value of another kind makes the document malformed.
-/

namespace ApiMigration.Settings

open Toml

/-- The values given for some fields, in the order of their names. A list instead of a table gives
them by position. -/
def fieldValues? (names : List String) : Value → Option (List (Option Value))
  | .table _ entries =>
    if entries.all fun entry => names.contains entry.1 then
      some (names.map fun name => entries.lookup name)
    else none
  | .array items => some (names.mapIdx fun index _ => items[index]?)
  | .tables items => some (names.mapIdx fun index _ => items[index]?)
  | _ => none

def given? {α : Type} (decode : Value → Option α) (default : α) : Option Value → Option α
  | none => some default
  | some value => decode value

def string? : Value → Option String
  | .string text => some text
  | _ => none

def path? (value : Value) : Option Path :=
  (string? value).map Path.mk

def boolean? : Value → Option Bool
  | .boolean value => some value
  | _ => none

def weight? : Value → Option Int32
  | .integer value =>
    if -2147483648 ≤ value ∧ value ≤ 2147483647 then some (Int32.ofInt value) else none
  | _ => none

def list? {α : Type} (decode : Value → Option α) : Value → Option (List α)
  | .array items => items.mapM decode
  | .tables items => items.mapM decode
  | _ => none

def nameSet? (value : Value) : Option (List String) :=
  (list? string? value).map fun names =>
    names.eraseDups.mergeSort fun a b => (compare a b).isLE

/-- The key under which a date or a time counts as a table of one entry. -/
def momentKey : String := "$__toml_private_datetime"

def entries? {α : Type} (decode : Value → Option α) : Value → Option (List (String × α))
  | .table _ entries => entries.mapM fun (key, value) => (decode value).map fun value => (key, value)
  | .moment moment => (decode (.string moment.render)).map fun value => [(momentKey, value)]
  | _ => none

/-- A status by its label, also as the only key of a table that leads to nothing. -/
def status? : Value → Option Status
  | .string label => Status.ofLabel? label
  | .table _ [(label, .table _ [])] => Status.ofLabel? label
  | .table _ [(label, .array [])] => Status.ofLabel? label
  | _ => none

def source? (value : Value) : Option SourceSettings := do
  let fields ← fieldValues?
    ["root", "root_package", "extension", "skip_file_names", "exclude_paths"] value
  match fields with
  | [root, rootPackage, extension, skippedNames, excludedPaths] =>
    let initial : SourceSettings := {}
    return {
      root := ← given? path? initial.root root
      rootPackage := ← given? string? initial.rootPackage rootPackage
      extension := ← given? string? initial.extension extension
      skippedNames := ← given? (list? string?) initial.skippedNames skippedNames
      excludedPaths := ← given? (list? string?) initial.excludedPaths excludedPaths }
  | _ => none

def target? (value : Value) : Option TargetSettings := do
  let fields ← fieldValues? ["src_dir", "extension", "exclude_paths"] value
  match fields with
  | [directory, extension, excludedPaths] =>
    let initial : TargetSettings := {}
    return {
      directory := ← given? path? initial.directory directory
      extension := ← given? string? initial.extension extension
      excludedPaths := ← given? (list? string?) initial.excludedPaths excludedPaths }
  | _ => none

def rule? (value : Value) : Option RoutingRule := do
  let fields ← fieldValues? ["namespace", "names", "suffix", "functional_interfaces"] value
  match fields with
  | [some destination, names, suffix, functionalInterfaces] =>
    return {
      destination := ← string? destination
      names := ← given? (list? string?) [] names
      suffix := ← given? (fun value => (string? value).map some) none suffix
      functionalInterfaces := ← given? boolean? false functionalInterfaces }
  | _ => none

def routing? (value : Value) : Option Routing := do
  let fields ← fieldValues? ["root_namespace", "default_namespace", "rules"] value
  match fields with
  | [rootNamespace, defaultNamespace, rules] =>
    let initial : Routing := {}
    return {
      rootNamespace := ← given? string? initial.rootNamespace rootNamespace
      defaultNamespace := ← given? string? initial.defaultNamespace defaultNamespace
      rules := ← given? (list? rule?) initial.rules rules }
  | _ => none

def types? (value : Value) : Option Stub.TypeTable := do
  let fields ← fieldValues? ["entries", "fallback"] value
  match fields with
  | [entries, fallback] =>
    let initial : Stub.TypeTable := {}
    return {
      entries := ← given? (entries? string?) initial.entries entries
      fallback := ← given? string? initial.fallback fallback }
  | _ => none

def classification? (value : Value) : Option Match.Classification := do
  let fields ← fieldValues? ["unsupported", "placeholder_marker", "overrides"] value
  match fields with
  | [unsupported, placeholderMarker, overrides] =>
    let initial : Match.Classification := {}
    return {
      unsupported := ← given? nameSet? initial.unsupported unsupported
      placeholderMarker := ← given? string? initial.placeholderMarker placeholderMarker
      overrides := ← given? (entries? status?) initial.overrides overrides }
  | _ => none

def scoring? (value : Value) : Option Match.Scoring := do
  let fields ← fieldValues?
    ["group_tail", "group_segment", "root_utility", "range_namespace", "utility_package_suffix",
     "range_package_suffix", "range_name_suffix"] value
  match fields with
  | [groupTail, groupSegment, rootUtility, rangeNamespace, utilityPackage, rangePackage, rangeName] =>
    let initial : Match.Scoring := {}
    return {
      groupTail := ← given? weight? initial.groupTail groupTail
      groupSegment := ← given? weight? initial.groupSegment groupSegment
      rootUtility := ← given? weight? initial.rootUtility rootUtility
      rangeNamespace := ← given? weight? initial.rangeNamespace rangeNamespace
      utilityPackageSuffix := ← given? string? initial.utilityPackageSuffix utilityPackage
      rangePackageSuffix := ← given? string? initial.rangePackageSuffix rangePackage
      rangeNameSuffix := ← given? string? initial.rangeNameSuffix rangeName }
  | _ => none

def style? (value : Value) : Option Stub.Style := do
  let fields ← fieldValues?
    ["function_package_suffix", "exception_suffix", "base_exception",
     "not_implemented_exception", "exception_package", "placeholder_variant"] value
  match fields with
  | [functionPackage, exceptionEnd, baseException, notImplemented, exceptionPackage, variant] =>
    let initial : Stub.Style := {}
    return {
      functionPackageSuffix := ← given? string? initial.functionPackageSuffix functionPackage
      exceptionSuffix := ← given? string? initial.exceptionSuffix exceptionEnd
      baseException := ← given? string? initial.baseException baseException
      notImplementedException := ← given? string? initial.notImplementedException notImplemented
      exceptionPackage := ← given? string? initial.exceptionPackage exceptionPackage
      placeholderVariant := ← given? string? initial.placeholderVariant variant }
  | _ => none

def report? (value : Value) : Option Report.Settings := do
  let fields ← fieldValues?
    ["matrix_path", "gap_report_path", "begin_marker", "end_marker", "title"] value
  match fields with
  | [matrixPath, gapReportPath, beginMarker, endMarker, title] =>
    let initial : Report.Settings := {}
    return {
      matrixPath := ← given? path? initial.matrixPath matrixPath
      gapReportPath := ← given? path? initial.gapReportPath gapReportPath
      beginMarker := ← given? string? initial.beginMarker beginMarker
      endMarker := ← given? string? initial.endMarker endMarker
      title := ← given? string? initial.title title }
  | _ => none

def ofValue? (value : Value) : Option Settings := do
  let fields ← fieldValues?
    ["source", "target", "routing", "types", "classify", "scoring", "stubs", "report"] value
  match fields with
  | [source, target, routing, types, classification, scoring, style, report] =>
    return {
      source := ← given? source? {} source
      target := ← given? target? {} target
      routing := ← given? routing? {} routing
      types := ← given? types? {} types
      classification := ← given? classification? {} classification
      scoring := ← given? scoring? {} scoring
      style := ← given? style? {} style
      report := ← given? report? {} report }
  | _ => none

inductive Fault where
  | malformed
  | invalid (reason : String)
deriving DecidableEq, Repr

def Fault.chain : Fault → List String
  | .malformed =>
    ["Invalid portmap configuration", "the text is not a TOML document of the known settings"]
  | .invalid reason => [reason]

def Fault.message (fault : Fault) : String :=
  fault.chain.headD ""

def parse (text : String) : Except Fault Settings :=
  match (Toml.parse? text).bind fun entries => ofValue? (.table .header entries) with
  | none => .error .malformed
  | some settings =>
    match settings.fault? with
    | some reason => .error (.invalid reason)
    | none => .ok settings

end ApiMigration.Settings
