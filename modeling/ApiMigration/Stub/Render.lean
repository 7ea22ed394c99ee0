import ApiMigration.Declaration
import ApiMigration.Stub.TypeTable
import ApiMigration.Text.Blank

/-!
Skeletons of target types. A skeleton compiles but fails when it is used: the constructor of a
class throws, with a message that holds the placeholder marker.
-/

namespace ApiMigration.Stub

open Text

structure Style where
  /-- Interfaces in packages with this ending keep their method. -/
  functionPackageSuffix : String := ".function"
  exceptionSuffix : String := "Exception"
  baseException : String := "Exception"
  notImplementedException : String := "NotImplementedException"
  exceptionPackage : String := "exception"
  placeholderVariant : String := "UNKNOWN"
deriving DecidableEq, Repr

structure Renderer where
  style : Style := {}
  types : TypeTable := {}
  rootNamespace : String
  marker : String
deriving DecidableEq, Repr

namespace Renderer

def importLines (renderer : Renderer) (package : String) : List String :=
  let exceptions := renderer.rootNamespace ++ "." ++ renderer.style.exceptionPackage
  if package = exceptions then [] else ["import " ++ exceptions ++ ".*", ""]

def parameterText (renderer : Renderer) (typeParameters : List String) (parameter : Parameter) :
    String :=
  parameter.name ++ ": " ++ renderer.types.map parameter.type typeParameters

def methodLine (renderer : Renderer) (typeParameters : List String) (method : Method) : String :=
  "    func " ++ method.name ++ "("
    ++ joinWith ", " (method.parameters.map (renderer.parameterText typeParameters)) ++ "): "
    ++ renderer.types.map method.returnType typeParameters

def genericsText (typeParameters : List String) : String :=
  if typeParameters.isEmpty then "" else "<" ++ joinWith ", " typeParameters ++ ">"

def functionLines (renderer : Renderer) (name : String) (signature : Signature) : List String :=
  ["public interface " ++ name ++ genericsText signature.typeParameters ++ " \x7b"]
    ++ (signature.method.map (renderer.methodLine signature.typeParameters)).toList
    ++ ["\x7d"]

def markerLines (name : String) : List String :=
  ["public interface " ++ name ++ " \x7b", "\x7d"]

def enumLines (renderer : Renderer) (name : String) : List String :=
  ["public enum " ++ name ++ " \x7b", "    | " ++ renderer.style.placeholderVariant, "\x7d"]

def exceptionLines (renderer : Renderer) (name : String) : List String :=
  ["public class " ++ name ++ " <: " ++ renderer.style.baseException ++ " \x7b",
   "    public init(message: String) \x7b", "        super(message)", "    \x7d", "\x7d"]

def classLines (renderer : Renderer) (name : String) : List String :=
  ["public class " ++ name ++ " \x7b", "    public init() \x7b",
   "        throw " ++ renderer.style.notImplementedException ++ "(\"" ++ name ++ " "
     ++ renderer.marker ++ "\")",
   "    \x7d", "\x7d"]

def bodyLines (renderer : Renderer) (declaration : SourceDeclaration) (package : String) :
    List String :=
  match declaration.kind with
  | .interfaceType =>
    if endsWith package renderer.style.functionPackageSuffix then
      renderer.functionLines declaration.name (declaration.signature.getD {})
    else markerLines declaration.name
  | .enumType => renderer.enumLines declaration.name
  | .classType =>
    renderer.importLines package
      ++ if endsWith declaration.name renderer.style.exceptionSuffix then
          renderer.exceptionLines declaration.name
        else renderer.classLines declaration.name

def render (renderer : Renderer) (declaration : SourceDeclaration) (package : String) : String :=
  joinWith "\n" (["package " ++ package, ""] ++ renderer.bodyLines declaration package) ++ "\n"

end Renderer

end ApiMigration.Stub
