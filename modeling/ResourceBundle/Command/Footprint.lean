import ResourceBundle.Command

/-! # The footprint of a run

Before a run, only the files that it may look at have to be known. What these are depends on the files
that are known already: the manifest names folders, and what is written depends on everything that is
read. So the footprint grows with what is known, and a run may be trusted once nothing is added. -/

namespace ResourceBundle.Command

/-- The path after a tilde has been replaced, if that is possible. -/
def expanded (homes : Homes) (text : String) : List Path :=
  match (Path.ofString text).expandHome homes with
  | .ok path => [path]
  | .error _ => []

/-- The folders that a manifest names for additional texts, as far as it can be read. -/
def namedFolders (files : FileTree) (manifest : Path) : List String :=
  match loadRound files manifest with
  | .ok (.ok round) => round.useAdditionalTexts.map (·.location)
  | _ => []

def configuredFolder (invocation : Invocation) (options : Options) (files : FileTree) : List String :=
  match readSettings invocation.environment files with
  | .ok settings => (override settings options).additionalTextLocation.toList
  | .error _ => []

def readPaths (invocation : Invocation) (files : FileTree) : List Path :=
  match Options.parse invocation.arguments with
  | .error _ => []
  | .ok options =>
    let homes := Invocation.allHomes invocation
    let manifests := expanded homes (options.manifest.getD "")
    let folders := configuredFolder invocation options files ++ manifests.flatMap (namedFolders files)
    [envFile] ++ manifests ++ (folders.flatMap (expanded homes)).map Lookup.textFile ++
      options.sourcePath.map fun root => Lookup.textFile (Path.ofString root)

def way (files : FileTree) (path : Path) : List Location :=
  (List.range (path.names.length + 1)).map fun n =>
    Path.descend (path.start files.workingDirectory) (path.names.take n)

/-- The locations that a run looks at or writes to. -/
def footprint (invocation : Invocation) (files : FileTree) : List Location :=
  (readPaths invocation files).flatMap (way files) ++
    ((run invocation files).files.nodes.map (·.1)).filter fun place => (files.at? place).isNone

end ResourceBundle.Command
