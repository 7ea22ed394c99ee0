import ApiMigration.Path.Basic

/-!
Trees of directories, regular files and symbolic links, and the way from a path to a place in the
tree. A tree is a file system as it is seen by one program that has every right there: it has no
permissions, no second name for a file, no other kinds of files and no names that are not Unicode.
A write fails for its path alone, except that the contents of a new file may be refused by a
`Storage`.
-/

namespace ApiMigration

abbrev Location := List String

inductive Entry where
  | directory
  | file (bytes : List UInt8)
  /-- A link to a path, which is relative to the directory of the link unless it is absolute. -/
  | link (target : Path)
deriving DecidableEq, Repr

inductive FileError where
  | notFound
  | alreadyExists
  | notDirectory
  | isDirectory
  | tooManyLinks
  | nameTooLong
  | nulInName
  | notText
  /-- The storage took a part of the contents only. -/
  | refused (reason : String)
deriving DecidableEq, Repr

def FileError.message : FileError → String
  | .notFound => "No such file or directory (os error 2)"
  | .alreadyExists => "File exists (os error 17)"
  | .notDirectory => "Not a directory (os error 20)"
  | .isDirectory => "Is a directory (os error 21)"
  | .tooManyLinks => "Too many levels of symbolic links (os error 40)"
  | .nameTooLong => "File name too long (os error 36)"
  | .nulInName => "file name contained an unexpected NUL byte"
  | .notText => "stream did not contain valid UTF-8"
  | .refused reason => reason

structure FileTree where
  workingDirectory : Location := []
  entries : List (Location × Entry) := []
deriving DecidableEq, Repr

namespace FileTree

def pathOf (location : Location) : Path :=
  ⟨"/" ++ Text.joinWith "/" location⟩

def get? (tree : FileTree) (location : Location) : Option Entry :=
  if location = [] then some .directory else tree.entries.lookup location

def setEntry (location : Location) (entry : Entry) :
    List (Location × Entry) → List (Location × Entry)
  | [] => [(location, entry)]
  | (place, held) :: more =>
    if place = location then (location, entry) :: more
    else (place, held) :: setEntry location entry more

def set (tree : FileTree) (location : Location) (entry : Entry) : FileTree :=
  { tree with entries := setEntry location entry tree.entries }

def erase (tree : FileTree) (location : Location) : FileTree :=
  { tree with entries := tree.entries.filter fun entry => !location.isPrefixOf entry.1 }

structure Approach where
  followLast : Bool := true
  /-- Whether a file is to be there, so that no slash may follow its name. -/
  wantsFile : Bool := false
deriving DecidableEq, Repr

def nameLimit : Nat := 255

/-- Follows the parts of a path from a directory. Every part but the last has to lead to a
directory; the last may be missing. A link at the end is followed only on demand; the way on from a
link that is followed, with the parts of its target first, is left to `jump`. -/
def walkWith (tree : FileTree) (approach : Approach)
    (jump : Location → List String → Except FileError Location) (here : Location) :
    List String → Except FileError Location
  | [] => .ok here
  | part :: rest =>
    if part = "" ∨ part = "." then walkWith tree approach jump here rest
    else if part = ".." then walkWith tree approach jump here.dropLast rest
    else if approach.wantsFile ∧ rest ≠ [] ∧ rest.all (· == "") then .error .isDirectory
    else if nameLimit < part.utf8ByteSize then .error .nameTooLong
    else
      match tree.get? (here ++ [part]) with
      | none => if rest = [] then .ok (here ++ [part]) else .error .notFound
      | some .directory => walkWith tree approach jump (here ++ [part]) rest
      | some (.file _) => if rest = [] then .ok (here ++ [part]) else .error .notDirectory
      | some (.link target) =>
        if rest = [] ∧ approach.followLast = false then .ok (here ++ [part])
        else
          jump (if target.isAbsolute then [] else here) (target.parts.map String.ofList ++ rest)

def walk (tree : FileTree) (approach : Approach) :
    (links : Nat) → Location → List String → Except FileError Location
  | 0 => tree.walkWith approach fun _ _ => .error .tooManyLinks
  | links + 1 => tree.walkWith approach (walk tree approach links)

def linkLimit : Nat := 40

def pathLimit : Nat := 4095

def locate (tree : FileTree) (path : Path) (approach : Approach := {}) :
    Except FileError Location :=
  if path.text.toList.contains '\x00' then .error .nulInName
  else if path.text = "" then .error .notFound
  else if pathLimit < path.text.utf8ByteSize then .error .nameTooLong
  else
    tree.walk approach linkLimit (if path.isAbsolute then [] else tree.workingDirectory)
      (path.parts.map String.ofList)

def find? (tree : FileTree) (path : Path) : Option Entry :=
  match tree.locate path with
  | .ok location => tree.get? location
  | .error _ => none

def isPresent (tree : FileTree) (path : Path) : Bool :=
  (tree.find? path).isSome

def isDirectory (tree : FileTree) (path : Path) : Bool :=
  tree.find? path == some .directory

def isFile (tree : FileTree) (path : Path) : Bool :=
  match tree.find? path with
  | some (.file _) => true
  | _ => false

def filesBelow (tree : FileTree) (location : Location) : List Location :=
  tree.entries.filterMap fun (place, entry) =>
    match entry with
    | .file _ =>
      if location.isPrefixOf place && location.length < place.length then
        some (place.drop location.length)
      else none
    | _ => none

end FileTree

end ApiMigration
