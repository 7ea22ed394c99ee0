import ApiMigration.Path.Basic
import ApiMigration.Text.Lines
import ApiMigration.Text.Reader

/-!
The package line of a target file as the place where its package can be changed. Everything else
in the file stays as it is.
-/

namespace ApiMigration.Target

open Text

structure PackageLine where
  indent : List Char
  gap : List Char
  name : List Char
  rest : List Char
deriving DecidableEq, Repr

namespace PackageLine

def isGap (c : Char) : Bool :=
  c == ' ' || c == '\t'

def ofLine? (line : List Char) : Option PackageLine := do
  let text ← literal? "package" (line.dropWhile isGap)
  let (gap, text) ← run? isGap text
  let (name, rest) ← run? isPackageChar text
  return { indent := line.takeWhile isGap, gap, name, rest }

def head (line : PackageLine) : List Char :=
  line.indent ++ "package".toList ++ line.gap ++ line.name

def headFor (line : PackageLine) (package : String) : List Char :=
  line.indent ++ "package ".toList ++ package.toList

end PackageLine

/-- The lines with the first package line pointing at `package`; none when there is no package line
or the first one does so already. -/
def redirectLines? (package : String) : List (List Char) → Option (List (List Char))
  | [] => none
  | line :: more =>
    match PackageLine.ofLine? line with
    | none => (redirectLines? package more).map (line :: ·)
    | some found =>
      if found.head = found.headFor package then none
      else some ((found.headFor package ++ found.rest) :: more)

def redirect? (package text : String) : Option String :=
  (redirectLines? package (fullLines text.toList)).map fun lines => String.ofList lines.flatten

def directoryNames (directory : Path) : List String :=
  directory.components.filterMap Path.Component.name?

/-- The package of the files in a directory, given the package of the directory it is relative
to. -/
def packageFor (root : String) (directory : Path) : String :=
  joinWith "." (root :: directoryNames directory)

end ApiMigration.Target
