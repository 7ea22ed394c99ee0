import ApiMigration.Declaration
import ApiMigration.Text.Lines
import ApiMigration.Text.Reader

/-!
Headers of a target file: its package line and its public types. A package line holds nothing
else; a type header may be spread over several lines.
-/

namespace ApiMigration.Target

open Text

def endsLine (text : List Char) : Bool :=
  (text.takeWhile (· != '\n')).all isBlank

def readPackage (text : List Char) : Option (String × List Char) := do
  let text ← word? "package" text
  let (name, text) ← run? isPackageChar text
  if endsLine text then some (String.ofList name, text) else none

def package? (text : String) : Option String :=
  firstAtLine readPackage text.toList

def readKind (text : List Char) : Option (TargetKind × List Char) :=
  [TargetKind.classType, .interfaceType, .enumType, .structType].findSome? fun kind =>
    (word? kind.keyword text).map fun rest => (kind, rest)

def readPublicType (text : List Char) : Option ((TargetKind × String) × List Char) := do
  let text ← word? "public" text
  let (kind, text) ← readKind (skipWord "abstract" (skipWord "open" text))
  let (name, text) ← identifier? text
  if endsWord text then some ((kind, String.ofList name), text) else none

def publicTypes (text : String) : List (TargetKind × String) :=
  allAtLines readPublicType text.toList

def declarations (origin : Path) (text : String) : List TargetDeclaration :=
  match package? text with
  | none => []
  | some package => (publicTypes text).map fun (kind, name) => { package, kind, name, origin }

end ApiMigration.Target
