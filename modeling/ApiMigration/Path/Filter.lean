import ApiMigration.Text.Affix
import ApiMigration.Text.Blank

/-!
Exclusion of paths below a scanned directory. An exclusion names a file or a directory relative to
that directory; it excludes the path itself and everything below it.
-/

namespace ApiMigration.Filter

def withSlashes (text : List Char) : List Char :=
  text.map fun c => if c = '\\' then '/' else c

def dropHere : List Char → List Char
  | '.' :: '/' :: text => dropHere text
  | text => text

def trimSlashes (text : List Char) : List Char :=
  (((text.dropWhile (· == '/')).reverse).dropWhile (· == '/')).reverse

/-- An exclusion in plain form; empty when it names nothing. -/
def plain (exclusion : String) : List Char :=
  let text := trimSlashes (dropHere (withSlashes (Text.trim exclusion.toList)))
  if text = ['.'] then [] else text

def isActive (exclusions : List String) : Bool :=
  exclusions.any fun exclusion => !(plain exclusion).isEmpty

def covers (excluded path : List Char) : Bool :=
  match Text.afterPrefix? excluded path with
  | none => false
  | some rest => rest.isEmpty || rest.head? == some '/'

def allows (exclusions : List String) (path : String) : Bool :=
  exclusions.all fun exclusion =>
    (plain exclusion).isEmpty || !covers (plain exclusion) (withSlashes path.toList)

end ApiMigration.Filter
