import ApiMigration.Text.Affix
import ApiMigration.Text.Blank

/-!
Types of generated signatures. Type arguments, array brackets and the dots of a variable parameter
are left out before a type is looked up.
-/

namespace ApiMigration.Stub

open Text

structure TypeTable where
  entries : List (String × String) :=
    [("void", "Unit"), ("boolean", "Bool"), ("byte", "Int8"), ("short", "Int16"),
     ("int", "Int32"), ("long", "Int64"), ("float", "Float32"), ("double", "Float64"),
     ("char", "Rune"), ("String", "String")]
  fallback : String := "Any"
deriving DecidableEq, Repr

/-- The text without groups of three dots at its end, given from the end. -/
def dropEllipses : List Char → List Char
  | '.' :: '.' :: '.' :: text => dropEllipses text
  | text => text

def baseType (type : List Char) : List Char :=
  let type := trim type
  let type := if type.contains '<' && type.contains '>' then type.takeWhile (· != '<') else type
  let type := upTo "[]".toList type
  trim (dropEllipses type.reverse).reverse

/-- The target type of a source type. A type parameter stands for itself. -/
def TypeTable.map (table : TypeTable) (type : String) (typeParameters : List String) : String :=
  let base := String.ofList (baseType type.toList)
  if typeParameters.contains base then base
  else (table.entries.lookup base).getD table.fallback

end ApiMigration.Stub
