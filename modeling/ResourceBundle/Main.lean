import ResourceBundle.Command.Footprint

/-! # The command line

The files that a run looks at are loaded, the run is computed, and what it changed is written. -/

namespace ResourceBundle.CommandLine

def usage : String :=
  "usage: i18n-bundler [-h] [--source-output DIR] [--class-output DIR] [--source-path DIR]\n" ++
  "                    [--additional-text-location DIR] [--log-level DEBUG|INFO|WARNING|ERROR]\n" ++
  "                    manifest\n"

/-- The names of variables that have a meaning. -/
def variableNames : List String :=
  Settings.Field.all.flatMap fun field =>
    [field.outerName, Text.lowerString field.outerName, field.name, Text.upperString field.name]

def readEnvironment : IO (List (String × String)) :=
  ("HOME" :: variableNames).filterMapM fun name => do
    return (← IO.getEnv name).map fun value => (name, value)

def load (files : FileTree) (place : Location) : IO FileTree := do
  try
    let bytes ← IO.FS.readBinFile (Location.text place)
    return files.set place (.file bytes.toList)
  catch
    | .noFileOrDirectory .. => return files
    | .permissionDenied .. =>
      let limits := files.restrictions
      return { files.set place (.file []) with restrictions := { limits with
        unreadable := place :: limits.unreadable
        unopenable := place :: limits.unopenable } }
    | _ => return files.set place .directory

/-- Loads locations that have not been looked at, those above them first. -/
def loadAll (files : FileTree) (seen : List Location) :
    List Location → IO (FileTree × List Location)
  | [] => return (files, seen)
  | place :: rest => do
    if place = [] || seen.contains place then
      loadAll files seen rest
    else
      let above := files.at? place.dropLast
      let files ← if above = some .directory then load files place else pure files
      loadAll files (place :: seen) rest

/-- Loads what a run may look at, until nothing is added. -/
def loadFootprint (invocation : Invocation) : (rounds : Nat) → FileTree → List Location → IO FileTree
  | 0, files, _ => return files
  | rounds + 1, files, seen => do
    let places := (Command.footprint invocation files).flatMap fun place =>
      (List.range place.length).map fun n => place.take (n + 1)
    let (files, further) ← loadAll files seen places
    if further.length = seen.length then return files
    else loadFootprint invocation rounds files further

/-- How many names for an unfinished file are tried. -/
def attempts : Nat := 10000

/-- Writes what a run changed: directories first, then each file as a whole. -/
def store (token : String) (before after : FileTree) : IO Unit := do
  for (place, node) in after.nodes do
    if node = .directory ∧ (before.at? place).isNone then
      IO.FS.createDirAll (Location.text place)
  for (place, content) in FileTree.changes before after do
    if let some bytes := content then
      let draft := Location.text (place.dropLast ++ ["." ++ place.getLast?.getD "" ++ "." ++ token ++ ".tmp"])
      IO.FS.writeBinFile draft (ByteArray.mk bytes.toArray)
      IO.FS.rename draft (Location.text place)

def line (record : LogRecord) : String :=
  record.level.text ++ " " ++ record.source ++ " - " ++ record.text

def faultText (fault : Fault) : String :=
  fault.kind.text ++ " at " ++ ".".intercalate (fault.place.map fun
    | .member name => name
    | .item position => toString position)

def crashText : Command.Crash → String
  | .settings faults => toString faults.length ++ " faults in the settings: " ++
      ", ".intercalate (faults.map faultText)
  | .undecodable => "a file is not in UTF-8"
  | .failure failure => failure.message

def run (arguments : List String) : IO UInt32 := do
  let directory := (Path.ofString ((← IO.getEnv "PWD").getD "/")).location []
  let number ← IO.rand 0 0xFFFFFFFF
  let invocation : Invocation :=
    { arguments := arguments
      environment := ← readEnvironment
      homes := []
      tokens := (List.range attempts).map fun n => toString (number + n)
      details := fun _ faults => String.join (faults.map fun fault => "\n" ++ faultText fault) }
  let bare : FileTree := ⟨[], directory, .none⟩
  let above := (List.range directory.length).map fun n => directory.take (n + 1)
  let (bare, seen) ← loadAll bare [] above
  let files ← loadFootprint invocation 8 bare seen
  let outcome := Command.run invocation files
  for record in outcome.log do
    IO.eprintln (line record)
  match outcome.status with
  | .ok status =>
    if status = .helped then IO.print usage
    if status = .misused then IO.eprint usage
    store (toString number) files outcome.files
    return status.code.toUInt32
  | .error crash =>
    IO.eprintln (crashText crash)
    return 1

end ResourceBundle.CommandLine

/-- Generates the bundles of a manifest. -/
def main (arguments : List String) : IO UInt32 := ResourceBundle.CommandLine.run arguments
