import ResourceBundle.FileTree
import ResourceBundle.Sink

/-! # A sink in a file tree

Each output has a folder below which its bundles are written, each as a whole or not at all. A path that no
file system takes, for its length or for a null character in it, is refused like all others that cannot be
written. -/

namespace ResourceBundle

structure OutputFolders where
  sources : Option Path
  classes : Option Path
  /-- Parts of the names of unfinished files, in the order in which they are tried. -/
  tokens : List String
deriving DecidableEq, Repr

namespace OutputFolders

def folder? (folders : OutputFolders) : Output → Option Path
  | .sources => folders.sources
  | .classes => folders.classes

/-- An action on files whose faults are told in words. -/
def inWords {α : Type} (action : FileAction α) : EStateM String FileTree α := fun tree =>
  match action.run tree with
  | .ok a tree => .ok a tree
  | .error fault tree => .error fault.message tree

theorem run_inWords {α : Type} (action : FileAction α) (tree : FileTree) :
    (inWords action).run tree = match action.run tree with
      | .ok a t => .ok a t
      | .error fault t => .error fault.message t := rfl

def sink (folders : OutputFolders) : Sink FileTree Path where
  create output path _ :=
    match folders.folder? output with
    | some folder => pure (folder.join (Path.ofString path))
    | none => throw ("No output directory configured for " ++ output.text)
  uri path := do
    match (← get).trace path with
    | .ok place => pure place.uri
    | .error fault => throw fault.message
  write path bytes := inWords (FileAction.writeWhole folders.tokens path bytes)

end OutputFolders

end ResourceBundle
