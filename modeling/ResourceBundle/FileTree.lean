import ResourceBundle.Path
import ResourceBundle.Text.Quoted

/-! # File trees

A file tree is what is found at each location. Every operation fails with a fault that names the path
as it was given. There are no links, so a location has one path without `..`. -/

namespace ResourceBundle

inductive FileNode where
  | directory
  | file (bytes : List UInt8)
deriving DecidableEq, Repr

inductive FileFault where
  | missing (path : String)
  | denied (path : String)
  | exists (path : String)
  | notDirectory (path : String)
  | isDirectory (path : String)
  /-- A file cannot take the place of a directory. -/
  | ontoDirectory (path target : String)
  | tooLong (path : String)
  | tooManyLinks (path : String)
  /-- All names that an unfinished file may have are taken. -/
  | namesTaken
  | nullCharacter
  | loop (path : String)
  | deepLinks
deriving DecidableEq, Repr

namespace FileFault

def message : FileFault → String
  | missing path => "[Errno 2] No such file or directory: " ++ Text.quoted path
  | denied path => "[Errno 13] Permission denied: " ++ Text.quoted path
  | «exists» path => "[Errno 17] File exists: " ++ Text.quoted path
  | notDirectory path => "[Errno 20] Not a directory: " ++ Text.quoted path
  | isDirectory path => "[Errno 21] Is a directory: " ++ Text.quoted path
  | ontoDirectory path target =>
    "[Errno 21] Is a directory: " ++ Text.quoted path ++ " -> " ++ Text.quoted target
  | tooLong path => "[Errno 36] File name too long: " ++ Text.quoted path
  | tooManyLinks path => "[Errno 40] Too many levels of symbolic links: " ++ Text.quoted path
  | namesTaken => "[Errno 17] No usable temporary file name found"
  | nullCharacter => Failure.nullCharacter.message
  | loop path => (Failure.linkLoop (Text.quoted path)).message
  | deepLinks => Failure.deepLinks.message

/-- Whether the fault comes from the file system. The others are found before it is asked, or while links
are followed. -/
def isSystem : FileFault → Bool
  | nullCharacter | loop _ | deepLinks => false
  | _ => true

/-- The failure that a fault is where nobody expects it. -/
def failure : FileFault → Failure
  | nullCharacter => .nullCharacter
  | loop path => .linkLoop (Text.quoted path)
  | deepLinks => .deepLinks
  | tooLong path => .overlongPath (tooLong path).message
  | fault => .forbiddenPath fault.message

@[simp] theorem isProcessing_failure (fault : FileFault) : fault.failure.isProcessing = false := by
  cases fault <;> rfl

end FileFault

/-- What may not be done, by location. -/
structure Restrictions where
  unreadable : List Location
  unopenable : List Location
  /-- Paths that may not be followed to their location. -/
  untraceable : List Location
  /-- Directories in which nothing may be looked up. -/
  unsearchable : List Location
deriving DecidableEq, Repr

def Restrictions.none : Restrictions := ⟨[], [], [], []⟩

/-- Files and directories by location, seen from a working directory. -/
structure FileTree where
  nodes : List (Location × FileNode)
  workingDirectory : Location
  restrictions : Restrictions
deriving DecidableEq, Repr

/-- What is written into a file while it is open: the bytes, and the fault with which the writing breaks
off, if it does. -/
structure Writing where
  bytes : List UInt8
  fault : Option FileFault
deriving DecidableEq, Repr

/-- An action on a file tree. What it changed before a fault stays. -/
abbrev FileAction := EStateM FileFault FileTree

namespace FileTree

/-- What is found at a location; the root is a directory. -/
def at? (tree : FileTree) (place : Location) : Option FileNode :=
  if place = [] then some .directory else tree.nodes.lookup place

@[simp] theorem at?_nil (tree : FileTree) : tree.at? [] = some .directory := rfl

inductive Obstacle where
  | missing
  | notDirectory
  | unsearchable
  | tooLong
  | tooManyLinks
  | nullCharacter
deriving DecidableEq, Repr

namespace Obstacle

def fault (path : Path) : Obstacle → FileFault
  | missing => .missing path.text
  | notDirectory => .notDirectory path.text
  | unsearchable => .denied path.text
  | tooLong => .tooLong path.text
  | tooManyLinks => .tooManyLinks path.text
  | nullCharacter => .nullCharacter

/-- Whether the obstacle only shows that nothing is there. The others leave it open. -/
def isAbsence : Obstacle → Bool
  | unsearchable | tooLong => false
  | _ => true

end Obstacle

/-- Whether what a path leads to is of some kind. Where nothing is, it is not; an obstacle that leaves this
open is a fault. -/
def test (kind : FileNode → Bool) (path : Path) : Except Obstacle FileNode → Except FileFault Bool
  | .ok node => .ok (kind node)
  | .error obstacle => if obstacle.isAbsence then .ok false else .error (obstacle.fault path)

/-- Goes from a directory to a name in it, whether anything has this name or not. -/
def enter (tree : FileTree) (place : Location) (name : String) : Except Obstacle Location :=
  match tree.at? place with
  | none => .error .missing
  | some (.file _) => .error .notDirectory
  | some .directory =>
    if tree.restrictions.unsearchable.contains place then .error .unsearchable
    else if Path.isLongName name then .error .tooLong
    else .ok (if name = ".." then place.dropLast else place ++ [name])

/-- Follows names from a place. All but the last place on the way must be directories. -/
def walk (tree : FileTree) : Location → List String → Except Obstacle Location
  | place, [] => .ok place
  | place, name :: rest =>
    match tree.enter place name with
    | .error obstacle => .error obstacle
    | .ok next => walk tree next rest

/-- The location of a path by its spelling. -/
def location (tree : FileTree) (path : Path) : Location := path.location tree.workingDirectory

/-- The place that a path leads to, whether anything is there or not. -/
def reach (tree : FileTree) (path : Path) : Except Obstacle Location :=
  if path.isImpossible then .error .nullCharacter
  else if path.isTooLong then .error .tooLong
  else tree.walk (path.start tree.workingDirectory) path.names

def node (tree : FileTree) (place : Location) : Except Obstacle FileNode :=
  match tree.at? place with
  | none => .error .missing
  | some node => .ok node

def find (tree : FileTree) (path : Path) : Except Obstacle FileNode := do tree.node (← tree.reach path)

def isDirectory (tree : FileTree) (path : Path) : Except FileFault Bool :=
  test (· == .directory) path (tree.find path)

def read (tree : FileTree) (path : Path) : Except FileFault (List UInt8) :=
  if tree.restrictions.unopenable.contains (tree.location path) then .error (.denied path.text)
  else
    match tree.find path with
    | .error obstacle => .error (obstacle.fault path)
    | .ok .directory => .error (.isDirectory path.text)
    | .ok (.file bytes) => .ok bytes

/-- The location of a path, if the path may be followed; nothing needs to be there. -/
def trace (tree : FileTree) (path : Path) : Except FileFault Location :=
  if path.isImpossible then .error .nullCharacter
  else if tree.restrictions.untraceable.contains (tree.location path) then .error (.denied path.text)
  else .ok (tree.location path)

def set (tree : FileTree) (place : Location) (node : FileNode) : FileTree :=
  { tree with nodes := (place, node) :: tree.nodes.filter fun entry => entry.1 != place }

theorem at?_set {tree : FileTree} {place other : Location} {node : FileNode} (h : place ≠ []) :
    (tree.set place node).at? other = if other = place then some node else tree.at? other := by
  unfold at? set
  by_cases hroot : other = []
  · simp [hroot, h.symm]
  · by_cases hother : other = place
    · simp [h, hother]
    · have hne : (other == place) = false := by simpa using hother
      simp only [hroot, if_false, List.lookup_cons, hne, hother]
      induction tree.nodes with
      | nil => simp
      | cons entry nodes ih => by_cases he : entry.1 = place <;> grind

def erase (tree : FileTree) (place : Location) : FileTree :=
  { tree with nodes := tree.nodes.filter fun entry => entry.1 != place }

theorem at?_erase {tree : FileTree} {place other : Location} (h : other ≠ []) :
    (tree.erase place).at? other = if other = place then none else tree.at? other := by
  unfold at? erase
  simp only [h, if_false]
  induction tree.nodes with
  | nil => simp
  | cons entry nodes ih => grind

def files (tree : FileTree) : List (Location × List UInt8) :=
  tree.nodes.filterMap fun
    | (place, .file bytes) => some (place, bytes)
    | _ => none

/-- The files that are new or have another content, and, without content, those that are gone. -/
def changes (before after : FileTree) : List (Location × Option (List UInt8)) :=
  (after.files.filter fun entry => decide (before.at? entry.1 ≠ some (.file entry.2))).map
      (fun entry => (entry.1, some entry.2)) ++
    (before.files.filter fun entry => match after.at? entry.1 with
      | some (.file _) => false
      | _ => true).map fun entry => (entry.1, none)

end FileTree

namespace FileAction

def makeDirectory (path : Path) : FileAction Unit := do
  let tree ← get
  match tree.reach path with
  | .error obstacle => throw (obstacle.fault path)
  | .ok place =>
    if path.name = "" ∨ path.name = ".." ∨ (tree.at? place).isSome then throw (.exists path.text)
    else set (tree.set place .directory)

/-- Lets a fault pass if a directory is there all the same. -/
def toleratingDirectory (path : Path) (fault : FileFault) : FileAction Unit := do
  match (← get).isDirectory path with
  | .ok true => pure ()
  | .ok false => throw fault
  | .error other => throw other

/-- Makes the directory whose names are given from the last to the first, and those above it that are
missing. -/
def makeDirectoriesFrom (anchor : Anchor) : List String → FileAction Unit
  | [] => tryCatch (makeDirectory ⟨anchor, []⟩) (toleratingDirectory ⟨anchor, []⟩)
  | last :: above =>
    let path : Path := ⟨anchor, (last :: above).reverse⟩
    tryCatch (makeDirectory path) fun
      | .missing _ => do
        makeDirectoriesFrom anchor above
        tryCatch (makeDirectory path) fun
          | .missing text => throw (.missing text)
          | fault => toleratingDirectory path fault
      | fault => toleratingDirectory path fault

def makeDirectories (path : Path) : FileAction Unit :=
  makeDirectoriesFrom path.anchor path.names.reverse

def createFile (path : Path) (bytes : List UInt8) : FileAction Location := do
  let tree ← get
  match tree.reach path with
  | .error obstacle => throw (obstacle.fault path)
  | .ok place =>
    if (tree.at? place).isSome then throw (.exists path.text)
    else
      set (tree.set place (.file bytes))
      pure place

/-- Moves a file to a path; a file that is there is replaced, a directory is not. -/
def moveFile (source : Location) (target : Path) : FileAction Unit := do
  let tree ← get
  match tree.at? source with
  | some (.file bytes) =>
    match tree.reach target with
    | .error obstacle => throw (obstacle.fault target)
    | .ok place =>
      if tree.at? place = some .directory then
        throw (.ontoDirectory (Location.text source) target.text)
      else
        set ((tree.erase source).set place (.file bytes))
  | _ => throw (.missing (Location.text source))

def removeFile (place : Location) : FileAction Unit := modify (·.erase place)

/-- Writes into the file at a location. What has been written stays if the writing breaks off. -/
def fillFile (place : Location) (writing : Writing) : FileAction Unit := do
  modify (·.set place (.file writing.bytes))
  match writing.fault with
  | none => pure ()
  | some fault => throw fault

/-- Where the new content of a path may be written before it takes its place: beside it, under a name of
its own. -/
def unfinished (path : Path) (directory : Location) (token : String) : Path :=
  Location.path (path.parent.location directory ++ ["." ++ path.name ++ "." ++ token ++ ".tmp"])

/-- Makes an unfinished file for a path under the first name that is not taken. -/
def createUnfinished (path : Path) : List String → FileAction Location
  | [] => throw .namesTaken
  | token :: rest => do
    let draft := unfinished path (← get).workingDirectory token
    tryCatch (createFile draft []) fun
      | .exists _ => createUnfinished path rest
      | fault => throw fault

/-- Opens a file to be written as a whole or not at all: what is written goes into a new file beside it,
which then takes its place. The directories on the way are made; they stay if the writing fails. -/
def replaceWhole (tokens : List String) (path : Path) (writing : Writing) : FileAction Unit := do
  makeDirectories path.parent
  let place ← createUnfinished path tokens
  tryCatch (do fillFile place writing; moveFile place path) fun fault => do
    removeFile place
    throw fault

def writeWhole (tokens : List String) (path : Path) (bytes : List UInt8) : FileAction Unit :=
  replaceWhole tokens path ⟨bytes, none⟩

end FileAction

end ResourceBundle
