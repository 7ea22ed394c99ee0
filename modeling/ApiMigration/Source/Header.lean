import ApiMigration.Declaration
import ApiMigration.Text.Lines
import ApiMigration.Text.Reader

/-!
Headers of a source file: its package line, its public type, the type parameters of its interface
and the abstract method. Each is looked for where a line begins; blanks inside a header may run
over several lines. Bodies, comments and nested types are not understood.
-/

namespace ApiMigration.Source

open Text

def readPackage (text : List Char) : Option (String × List Char) := do
  let text ← word? "package" text
  let (name, text) ← run? isPackageChar text
  let text ← literal? ";" (trimStart text)
  return (String.ofList name, text)

def package? (text : String) : Option String :=
  firstAtLine readPackage text.toList

def readKind (text : List Char) : Option (SourceKind × List Char) :=
  [SourceKind.classType, .interfaceType, .enumType].findSome? fun kind =>
    (word? kind.keyword text).map fun rest => (kind, rest)

/-- The modifiers that may stand between `public` and the keyword of a type, in this order. -/
def skipModifiers (text : List Char) : List Char :=
  let text := ((word? "final" text).or (word? "abstract" text)).getD text
  skipWord "non-sealed" (skipWord "sealed" text)

def readPublicType (text : List Char) : Option ((SourceKind × String) × List Char) := do
  let text ← word? "public" text
  let (kind, text) ← readKind (skipModifiers text)
  let (name, text) ← identifier? text
  if endsWord text then some ((kind, String.ofList name), text) else none

def publicType? (text : String) : Option (SourceKind × String) :=
  firstAtLine readPublicType text.toList

/-- The text between angle brackets, which holds no closing bracket and no brace. -/
def readBracketed (text : List Char) : Option (String × List Char) := do
  let text ← literal? "<" (trimStart text)
  let inside (c : Char) : Bool := c != '>' && c != '\x7b' && c != '\x7d'
  let rest ← literal? ">" (text.dropWhile inside)
  return (String.ofList (text.takeWhile inside), rest)

/-- The header of a public interface without modifiers: its name and the text of its type
parameters. -/
def readInterface (text : List Char) : Option ((String × Option String) × List Char) := do
  let text ← word? "public" text
  let text ← word? "interface" text
  let (name, text) ← identifier? text
  match readBracketed text with
  | some (parameters, text) => return ((String.ofList name, some parameters), text)
  | none => return ((String.ofList name, none), text)

def interface? (text : String) : Option (String × Option String) :=
  firstAtLine readInterface text.toList

structure MethodText where
  returnType : String
  name : String
  parameters : String
deriving DecidableEq, Repr

def isTypeChar (c : Char) : Bool :=
  isPackageChar c || c == '<' || c == '>' || c == '[' || c == ']' || c == '?'

def readMethodParts (text : List Char) : Option (MethodText × List Char) := do
  let (returnType, text) ← run? isTypeChar text
  let text ← blanks? text
  let (name, text) ← identifier? text
  let text ← literal? "(" (trimStart text)
  let parameters := text.takeWhile (· != ')')
  let text ← literal? ")" (text.dropWhile (· != ')'))
  let text ← literal? ";" (trimStart text)
  return (⟨String.ofList returnType, String.ofList name, String.ofList (trim parameters)⟩, text)

def readMethod (text : List Char) : Option (MethodText × List Char) :=
  ((word? "public" text).bind readMethodParts).or (readMethodParts text)

/-- Words that can stand where a type is expected without being one. -/
def leadingWords : List String :=
  ["default", "static", "return", "throw", "new"]

def method? (text : String) : Option MethodText :=
  (allAtLines readMethod text.toList).find? fun method =>
    !leadingWords.contains method.returnType

end ApiMigration.Source
