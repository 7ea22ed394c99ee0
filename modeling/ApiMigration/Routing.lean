import ApiMigration.Declaration
import ApiMigration.Text.Blank

namespace ApiMigration

open Text

/-- Sends declarations of the root package to a namespace: by name, by the end of the name, or as
functional interfaces. -/
structure RoutingRule where
  destination : String
  names : List String := []
  suffix : Option String := none
  functionalInterfaces : Bool := false
deriving DecidableEq, Repr

def RoutingRule.applies (rule : RoutingRule) (declaration : SourceDeclaration) : Bool :=
  rule.names.contains declaration.name
    || rule.suffix.any (fun ending => endsWith declaration.name ending)
    || (rule.functionalInterfaces && declaration.isFunctional)

def RoutingRule.selects (rule : RoutingRule) : Bool :=
  !rule.names.isEmpty || rule.suffix.any (· != "") || rule.functionalInterfaces

/-- Where declarations go. Those outside the root package keep their group below the root
namespace; those in it follow the first rule that applies. -/
structure Routing where
  rootNamespace : String := "commons_lang4cj"
  defaultNamespace : String := "utils"
  rules : List RoutingRule :=
    [{ destination := "function", functionalInterfaces := true },
     { destination := "range", suffix := some "Range" },
     { destination := "system", names := ["SystemProperties", "RuntimeEnvironment", "ThreadUtils"] },
     { destination := "utils",
       names := ["JavaVersion", "LocaleUtils", "Conversion", "Validate", "Functions"] },
     { destination := "reflect", names := ["ClassLoaderUtils", "ClassPathUtils", "AnnotationUtils"] },
     { destination := "random", names := ["CachedRandomBits"] },
     { destination := "stream", names := ["Streams"] }]
deriving DecidableEq, Repr

namespace Routing

def rootGroupNamespace (routing : Routing) (declaration : SourceDeclaration) : String :=
  match routing.rules.find? fun rule => rule.applies declaration with
  | some rule => rule.destination
  | none => routing.defaultNamespace

def targetGroup (routing : Routing) (declaration : SourceDeclaration) : String :=
  if declaration.inRootGroup then routing.rootGroupNamespace declaration else declaration.group

def targetPackage (routing : Routing) (declaration : SourceDeclaration) : String :=
  routing.rootNamespace ++ "." ++ routing.targetGroup declaration

/-- The directory of a package below the target tree: one level for every segment that is not
empty. -/
def directory (routing : Routing) (package : String) : Path :=
  let segments := ((afterRoot package routing.rootNamespace).toList.splitOn '.').filter fun segment =>
    !segment.isEmpty
  Path.joinAll ⟨""⟩ (segments.map String.ofList)

def ruleFault? (rule : RoutingRule) (index : Nat) : Option String :=
  if isBlankText rule.destination then
    some ("routing.rules[" ++ toString index ++ "].namespace must not be empty")
  else if !rule.selects then
    some ("routing.rules[" ++ toString index
      ++ "] needs `names`, `suffix` or `functional_interfaces`")
  else none

def fault? (routing : Routing) : Option String :=
  if isBlankText routing.rootNamespace then some "routing.root_namespace must not be empty"
  else if isBlankText routing.defaultNamespace then
    some "routing.default_namespace must not be empty"
  else routing.rules.zipIdx.findSome? fun (rule, index) => ruleFault? rule index

end Routing

end ApiMigration
