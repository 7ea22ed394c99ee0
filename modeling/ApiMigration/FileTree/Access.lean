import ApiMigration.FileTree.Basic
import ApiMigration.Text.Utf8

/-!
Reading and writing of files. An operation that can fail after it has changed something gives the
tree it leaves in either case.
-/

namespace ApiMigration.FileTree

def read (tree : FileTree) (path : Path) : Except FileError (List UInt8) := do
  match tree.get? (← tree.locate path) with
  | some (.file bytes) => .ok bytes
  | some .directory => .error .isDirectory
  | _ => .error .notFound

def readLossy? (tree : FileTree) (path : Path) : Option String :=
  match tree.read path with
  | .ok bytes => some (String.ofList (Text.decodeLossy bytes))
  | .error _ => none

def readText (tree : FileTree) (path : Path) : Except FileError String := do
  match Text.decode? (← tree.read path) with
  | some text => .ok (String.ofList text)
  | none => .error .notText

def readOrEmpty (tree : FileTree) (path : Path) : Except FileError String :=
  match tree.readText path with
  | .error .notFound => .ok ""
  | result => result

def textBytes (text : String) : List UInt8 :=
  Text.encode text.toList

def write (tree : FileTree) (path : Path) (bytes : List UInt8) : Except FileError FileTree := do
  let location ← tree.locate path { wantsFile := true }
  if tree.get? location = some .directory then .error .isDirectory
  else .ok (tree.set location (.file bytes))

/-- The tree with a new file that is still empty, and its place. What exists already, be it a link,
is not touched. -/
def createNew (tree : FileTree) (path : Path) : Except FileError (FileTree × Location) := do
  let location ← tree.locate path { followLast := false, wantsFile := true }
  if (tree.get? location).isSome then .error .alreadyExists
  else .ok (tree.set location (.file []), location)

def makeDirectory (tree : FileTree) (path : Path) : Except FileError FileTree := do
  let location ← tree.locate path { followLast := false }
  if (tree.get? location).isSome then .error .alreadyExists
  else .ok (tree.set location .directory)

/-- Makes a directory, given with the directories above it, nearest first. Those that are missing
are made as well. -/
def makeChain (tree : FileTree) : List Path → FileTree × Except FileError Unit
  | [] => (tree, .ok ())
  | path :: above =>
    if path.text = "" then (tree, .ok ())
    else
      match tree.makeDirectory path with
      | .ok made => (made, .ok ())
      | .error .notFound =>
        match tree.makeChain above with
        | (tree, .error error) => (tree, .error error)
        | (tree, .ok ()) =>
          match tree.makeDirectory path with
          | .ok made => (made, .ok ())
          | .error error => (tree, if tree.isDirectory path then .ok () else .error error)
      | .error error => (tree, if tree.isDirectory path then .ok () else .error error)

def makeDirectories (tree : FileTree) (path : Path) : FileTree × Except FileError Unit :=
  tree.makeChain path.ancestors

end ApiMigration.FileTree
