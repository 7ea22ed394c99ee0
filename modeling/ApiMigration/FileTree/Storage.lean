import ApiMigration.FileTree.Basic

/-!
Storage that may refuse what is written to it. A file is made before its contents are written, so a
refused write leaves the file there, with the beginning that was taken.
-/

namespace ApiMigration

/-- How the contents of a new file are taken: all of them, or a beginning without the end and then
an error. This may depend on everything that is stored. By default nothing is refused. -/
structure Storage where
  refusal? : FileTree → Location → (bytes : List UInt8) → Option (Fin bytes.length × FileError) :=
    fun _ _ _ => none

def Storage.fill (storage : Storage) (tree : FileTree) (place : Location) (bytes : List UInt8) :
    FileTree × Except FileError Unit :=
  match storage.refusal? tree place bytes with
  | none => (tree.set place (.file bytes), .ok ())
  | some (count, error) => (tree.set place (.file (bytes.take count)), .error error)

end ApiMigration
