import ResourceBundle.FileTree

/-! # File trees with links

A link stands for a path, seen from the directory that holds the link. Whoever looks at a path follows the
links on its way, up to a limit. A path is resolved in another way: name by name, where each link is
replaced by what its own path resolves to, and a link that is met again while it is followed leads back to
itself. -/

namespace ResourceBundle

structure LinkedTree extends FileTree where
  links : List (Location × Path)
  /-- How many links may be followed inside each other while a path is resolved. -/
  nesting : Nat
deriving DecidableEq, Repr

def FileTree.unlinked (tree : FileTree) : LinkedTree := ⟨tree, [], 0⟩

namespace LinkedTree

/-! ## Looking at a path -/

/-- Follows names from a place; at a link, `follow` goes on. -/
def walkNames (tree : LinkedTree) (follow : Location → List String → Except FileTree.Obstacle Location) :
    Location → List String → Except FileTree.Obstacle Location
  | place, [] => .ok place
  | place, name :: rest =>
    match tree.enter place name with
    | .error obstacle => .error obstacle
    | .ok next =>
      match tree.links.lookup next with
      | none => walkNames tree follow next rest
      | some target => follow (target.start place) (target.names ++ rest)

/-- Follows names from a place through some links at most. -/
def walk (tree : LinkedTree) : (links : Nat) → Location → List String → Except FileTree.Obstacle Location
  | 0 => tree.walkNames fun _ _ => .error .tooManyLinks
  | links + 1 => tree.walkNames (tree.walk links)

/-- How many links are followed on the way of one path. -/
def linkLimit : Nat := 40

/-- The place that a path leads to, whether anything is there or not. -/
def reach (tree : LinkedTree) (path : Path) : Except FileTree.Obstacle Location :=
  if path.isImpossible then .error .nullCharacter
  else if path.isTooLong then .error .tooLong
  else tree.walk linkLimit (path.start tree.workingDirectory) path.names

def find (tree : LinkedTree) (path : Path) : Except FileTree.Obstacle FileNode := do
  tree.node (← tree.reach path)

def isDirectory (tree : LinkedTree) (path : Path) : Except FileFault Bool :=
  FileTree.test (· == .directory) path (tree.find path)

def isFile (tree : LinkedTree) (path : Path) : Except FileFault Bool :=
  FileTree.test (· != .directory) path (tree.find path)

def isReadable (tree : LinkedTree) (path : Path) : Bool :=
  match tree.reach path with
  | .ok place => !tree.restrictions.unreadable.contains place
  | .error _ => false

def read (tree : LinkedTree) (path : Path) : Except FileFault (List UInt8) :=
  if tree.restrictions.unopenable.contains (tree.location path) then .error (.denied path.text)
  else
    match tree.reach path with
    | .error obstacle => .error (obstacle.fault path)
    | .ok place =>
      if tree.restrictions.unopenable.contains place then .error (.denied path.text)
      else
        match tree.node place with
        | .error obstacle => .error (obstacle.fault path)
        | .ok .directory => .error (.isDirectory path.text)
        | .ok (.file bytes) => .ok bytes

/-! ## Resolving a path -/

/-- The path of the link at a path, if a link is there; otherwise something else must be there. The links
on the way are followed. -/
def linkAt (tree : LinkedTree) (path : Path) : Except FileTree.Obstacle (Option Path) :=
  if path.isImpossible then .error .nullCharacter
  else if path.isTooLong then .error .tooLong
  else do
    let above ← tree.walk linkLimit (path.start tree.workingDirectory) path.names.dropLast
    let place ← tree.enter above path.name
    match tree.links.lookup place with
    | some target => .ok (some target)
    | none => (tree.node place).map fun _ => none

def resolveFault (path : Path) : FileTree.Obstacle → FileFault
  | .tooManyLinks => .loop path.text
  | obstacle => obstacle.fault path

/-- Why a link that leads back to itself cannot be followed. -/
def loopFault (tree : LinkedTree) (path : Path) : FileFault :=
  match tree.find path with
  | .error obstacle => resolveFault path obstacle
  | .ok _ => .loop path.text

/-- Goes on from a path that is resolved. Names that lead nowhere end a strict resolution; otherwise they
are kept as they are. At a link, `follow` resolves its path. -/
def resolveNames (tree : LinkedTree) (strict : Bool)
    (follow : List Path → Path → List String → Except FileFault Path) (opened : List Path) :
    Path → List String → Except FileFault Path
  | reached, [] => .ok reached
  | reached, name :: rest =>
    if name = ".." then resolveNames tree strict follow opened reached.above rest
    else
      let next := reached.child name
      match tree.linkAt next with
      | .error obstacle =>
        if strict then .error (resolveFault next obstacle)
        else resolveNames tree strict follow opened next rest
      | .ok none => resolveNames tree strict follow opened next rest
      | .ok (some target) =>
        if opened.contains next then .error (tree.loopFault next)
        else
          match follow (next :: opened) (target.base reached) target.names with
          | .error fault => .error fault
          | .ok reached => resolveNames tree strict follow opened reached rest

/-- Goes on from a path that is resolved, where links may be followed inside each other. -/
def resolveFrom (tree : LinkedTree) (strict : Bool) :
    (nesting : Nat) → List Path → Path → List String → Except FileFault Path
  | 0 => tree.resolveNames strict fun _ _ _ => .error .deepLinks
  | nesting + 1 => tree.resolveNames strict (tree.resolveFrom strict nesting)

def resolve (tree : LinkedTree) (strict : Bool) (path : Path) : Except FileFault Location :=
  if tree.restrictions.untraceable.contains (tree.location path) then .error (.denied path.text)
  else (tree.resolveFrom strict tree.nesting [] (path.base ⟨.here, []⟩) path.names).map
    (·.location tree.workingDirectory)

end LinkedTree

end ResourceBundle
