import ApiMigration.Command.Run

namespace ApiMigration.Main

def placeOf (path : String) : Location :=
  ((Path.mk path).parts.filter fun part => !Path.isVoid part).map String.ofList

def typeAt? (location : Location) : IO (Option IO.FS.FileType) := do
  let path := (← IO.currentDir) / (FileTree.pathOf location).text
  match ← path.symlinkMetadata.toBaseIO with
  | .ok metadata => return some metadata.type
  | .error _ => return none

def namesIn (location : Location) : IO (List String) := do
  let path := (← IO.currentDir) / (FileTree.pathOf location).text
  return (← path.readDir).toList.map fun entry => entry.fileName

def addFile (tree : FileTree) (isRead : String → Bool) (location : Location) : IO FileTree := do
  if (tree.get? location).isSome then return tree
  else if location.getLast?.any isRead then
    let contents ← IO.FS.readBinFile (FileTree.pathOf location).text
    return tree.set location (.file contents.toList)
  else return tree.set location (.file [])

/-- Adds what stands along a path, given the directory it starts from, and on demand everything
below its end. A link is added with the place it leads to; one that leads nowhere ends the path. -/
partial def addAlong (isRead : String → Bool) (deep : Bool) (tree : FileTree) (here : Location) :
    List String → IO FileTree
  | [] => do
    if deep then
      (← namesIn here).foldlM (fun tree name => addAlong isRead true tree here [name]) tree
    else return tree
  | part :: rest => do
    let place := here ++ [part]
    if part = "" || part = "." then addAlong isRead deep tree here rest
    else if part = ".." then addAlong isRead deep tree here.dropLast rest
    else
      match ← typeAt? place with
      | some .dir => addAlong isRead deep (tree.set place .directory) place rest
      | some .file => addFile tree isRead place
      | some .symlink =>
        if (tree.get? place).isSome && rest.isEmpty then return tree
        else
          match ← (IO.FS.realPath (FileTree.pathOf place).text).toBaseIO with
          | .ok target =>
            let tree := tree.set place (.link ⟨target.toString⟩)
            addAlong isRead deep tree [] (placeOf target.toString ++ rest)
          | .error _ => return tree.set place (.link (FileTree.pathOf place))
      | _ => return tree

def addPath (isRead : String → Bool) (tree : FileTree) (path : Path) : IO FileTree :=
  addAlong isRead true tree (if path.isAbsolute then [] else tree.workingDirectory)
    (path.parts.map String.ofList)

def directories (workspace : Workspace) : Command.Task → List Path
  | .check _ => [workspace.targetRoot]
  | .repackage directory .. => [workspace.pathOf directory]
  | _ => [workspace.sourceRoot, workspace.targetRoot]

def documents (workspace : Workspace) : Command.Task → List Path
  | .refresh _ =>
    [workspace.pathOf workspace.settings.report.matrixPath,
     workspace.pathOf workspace.settings.report.gapReportPath]
  | _ => []

def inLibraries (settings : Settings) (name : String) : Bool :=
  match Path.extensionOf? name with
  | none => false
  | some extension =>
    extension == settings.source.extension || extension == settings.target.extension

def snapshot (invocation : Command.Invocation) (tree : FileTree) : IO FileTree := do
  let root := Command.projectRoot invocation tree
  let tree ← addPath (fun _ => true) tree
    (invocation.config.getD (root.join ⟨Settings.fileName⟩))
  match Command.workspace invocation tree with
  | .error _ => return tree
  | .ok workspace =>
    let tree ← (documents workspace invocation.task).foldlM (addPath fun _ => true) tree
    (directories workspace invocation.task).foldlM (addPath (inLibraries workspace.settings)) tree

def writeBack (before after : FileTree) : IO Unit :=
  after.entries.forM fun (location, entry) =>
    if before.get? location = some entry then return
    else
      match entry with
      | .directory => IO.FS.createDir (FileTree.pathOf location).text
      | .file bytes =>
        IO.FS.writeBinFile (FileTree.pathOf location).text (ByteArray.mk bytes.toArray)
      | .link _ => return

def run (arguments : List String) : IO UInt32 := do
  let here := placeOf (← IO.currentDir).toString
  let start ← addAlong (fun _ => false) false { workingDirectory := here } [] here
  let tree ←
    match Command.parse arguments with
    | .ok invocation => snapshot invocation start
    | .error _ => pure start
  let outcome := Command.run arguments tree
  writeBack tree outcome.tree
  IO.print outcome.output
  match outcome.error with
  | some error => IO.eprintln (Command.errorReport error.chain)
  | none => if outcome.exitCode = 2 then IO.eprintln (Text.joinWith "\n" Command.helpLines)
  return UInt32.ofNat outcome.exitCode

end ApiMigration.Main

def main (arguments : List String) : IO UInt32 :=
  ApiMigration.Main.run arguments
