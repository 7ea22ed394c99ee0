import ApiMigration.Path.Basic

namespace ApiMigration

inductive SourceKind where
  | classType
  | interfaceType
  | enumType
deriving DecidableEq, Repr

namespace SourceKind

def keyword : SourceKind → String
  | .classType => "class"
  | .interfaceType => "interface"
  | .enumType => "enum"

def ofKeyword? (word : String) : Option SourceKind :=
  [.classType, .interfaceType, .enumType].find? fun kind => kind.keyword == word

end SourceKind

inductive TargetKind where
  | classType
  | interfaceType
  | enumType
  | structType
deriving DecidableEq, Repr

namespace TargetKind

def keyword : TargetKind → String
  | .classType => "class"
  | .interfaceType => "interface"
  | .enumType => "enum"
  | .structType => "struct"

def ofKeyword? (word : String) : Option TargetKind :=
  [.classType, .interfaceType, .enumType, .structType].find? fun kind => kind.keyword == word

end TargetKind

/-- A parameter of a method. The type is empty when the parameter could not be split. -/
structure Parameter where
  name : String
  type : String
deriving DecidableEq, Repr

structure Method where
  name : String
  returnType : String
  parameters : List Parameter
deriving DecidableEq, Repr

/-- The type parameters of an interface and its abstract method; an interface without one is a
mere marker. -/
structure Signature where
  typeParameters : List String := []
  method : Option Method := none
deriving DecidableEq, Repr

/-- The package below the root package: empty for the root itself, the whole package when it lies
outside. -/
def packageGroup (package root : String) : String :=
  if package = root then "" else Text.afterRoot package root

structure SourceDeclaration where
  package : String
  kind : SourceKind
  name : String
  group : String
  origin : Path
  signature : Option Signature := none
deriving DecidableEq, Repr

namespace SourceDeclaration

def under (root package : String) (kind : SourceKind) (name : String) (origin : Path) :
    SourceDeclaration where
  package := package
  kind := kind
  name := name
  group := packageGroup package root
  origin := origin

def qualifiedName (declaration : SourceDeclaration) : String :=
  declaration.package ++ "." ++ declaration.name

def groupHead (declaration : SourceDeclaration) : String :=
  String.ofList (declaration.group.toList.takeWhile (· != '.'))

def inRootGroup (declaration : SourceDeclaration) : Bool :=
  declaration.group == ""

def isFunctional (declaration : SourceDeclaration) : Bool :=
  declaration.kind == .interfaceType
    && (declaration.signature.bind fun signature => signature.method).isSome

end SourceDeclaration

structure TargetDeclaration where
  package : String
  kind : TargetKind
  name : String
  origin : Path
deriving DecidableEq, Repr

def TargetDeclaration.qualifiedName (declaration : TargetDeclaration) : String :=
  declaration.package ++ "." ++ declaration.name

end ApiMigration
