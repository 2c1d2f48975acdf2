import ResourceBundle.Options
import ResourceBundle.Processing
import ResourceBundle.Sink.Files

/-! # The command

A run reads the settings and the manifest, processes the round, and writes the bundles below the output
folders. It ends with a status, or with a crash that is not told in the log. -/

namespace ResourceBundle

/-- What a run starts from. -/
structure Invocation where
  arguments : List String
  environment : List (String × String)
  homes : List (String × String)
  /-- Parts of the names of unfinished files, in the order in which they are tried. -/
  tokens : List String
  /-- What is told about the faults of a manifest, whose text is given, after their number. -/
  details : List Char → List Fault → String

namespace Command

inductive Status where
  | done
  /-- There was nothing to do. -/
  | skipped
  | failed
  | helped
  /-- The command line is wrong. -/
  | misused
deriving DecidableEq, Repr

def Status.code : Status → Nat
  | done | helped => 0
  | skipped => 1
  | failed | misused => 2

/-- Why a run breaks off. -/
inductive Crash where
  | settings (faults : List Fault)
  | undecodable
  | failure (failure : Failure)
deriving DecidableEq, Repr

structure Outcome where
  status : Except Crash Status
  log : List LogRecord
  files : FileTree

/-- The text of a file in UTF-8. -/
def textOf (bytes : List UInt8) : Except Crash (List Char) :=
  match Text.Utf8.decode? bytes with
  | some cs => .ok cs
  | none => .error .undecodable

def envFile : Path := Path.ofString ".env"

/-- The text of the file of environment variables; it is empty if there is no such file. -/
def envText (files : FileTree) : Except Crash (List Char) :=
  match FileTree.test (· != .directory) envFile (files.find envFile) with
  | .error fault => .error (.failure fault.failure)
  | .ok false => .ok []
  | .ok true =>
    match files.read envFile with
    | .error fault => .error (.failure fault.failure)
    | .ok bytes => textOf bytes

def readSettings (environment : List (String × String)) (files : FileTree) : Except Crash Settings := do
  let text ← envText files
  match Settings.ofEnvironment environment text with
  | .ok settings => pure settings
  | .error faults => throw (.settings faults)

def nonempty (value : Option String) : Option String := value.filter (· != "")

/-- The settings with what the command line overrides. -/
def override (settings : Settings) (options : Options) : Settings :=
  { settings with
    sourceOutput := (nonempty options.sourceOutput).getD settings.sourceOutput
    classOutput := (nonempty options.classOutput).getD settings.classOutput
    additionalTextLocation :=
      match nonempty options.additionalTextLocation with
      | some location => some location
      | none => settings.additionalTextLocation
    logLevel := (nonempty options.logLevel).getD settings.logLevel }

/-- Why no round is taken from a manifest. -/
inductive Refusal where
  | unreadable (fault : FileFault)
  | faulty (text : List Char) (faults : List Fault)
deriving DecidableEq, Repr

def countFaults (faults : List Fault) : String :=
  toString faults.length ++ " validation error" ++ (if faults.length = 1 then "" else "s") ++
    " for ProcessingRound"

def Refusal.reason (details : List Char → List Fault → String) : Refusal → String
  | unreadable fault => fault.message
  | faulty text faults => countFaults faults ++ details text faults

def loadRound (files : FileTree) (path : Path) : Except Crash (Except Refusal Round) :=
  match files.read path with
  | .error fault => .ok (.error (.unreadable fault))
  | .ok bytes => (textOf bytes).map fun text =>
    match Manifest.readRound text with
    | .ok round => .ok round
    | .error faults => .error (.faulty text faults)

/-- The lines of the log that weigh enough. -/
def logOf (settings : Settings) (events : List Event) : List LogRecord :=
  (events.map Event.record).filter fun record =>
    decide (LogLevel.threshold settings.logLevel ≤ record.level.weight)

def Invocation.allHomes (invocation : Invocation) : Homes :=
  ⟨invocation.environment.lookup "HOME", invocation.homes⟩

def processor (invocation : Invocation) (settings : Settings) (options : Options) :
    Processor FileTree Path :=
  { settings := settings
    homes := Invocation.allHomes invocation
    sourceRoots := options.sourcePath.map Path.ofString
    sink := OutputFolders.sink ⟨some (Path.ofString settings.sourceOutput),
      some (Path.ofString settings.classOutput), invocation.tokens⟩ }

def runRound (processor : Processor FileTree Path) (round : Round) (files : FileTree) : Outcome :=
  match (Processing.process processor files.unlinked round).run ⟨files, []⟩ with
  | .ok due session =>
    ⟨.ok (if due then .done else .skipped), logOf processor.settings session.events, session.state⟩
  | .error failure session =>
    if failure.isProcessing then
      ⟨.ok .failed, logOf processor.settings (session.events ++ [.aborted failure.message]),
        session.state⟩
    else
      ⟨.error (.failure failure), logOf processor.settings session.events, session.state⟩

def runOptions (invocation : Invocation) (options : Options) (files : FileTree) : Outcome :=
  match readSettings invocation.environment files with
  | .error crash => ⟨.error crash, [], files⟩
  | .ok settings =>
    let settings := override settings options
    match (Path.ofString (options.manifest.getD "")).expandHome (Invocation.allHomes invocation) with
    | .error failure => ⟨.error (.failure failure), [], files⟩
    | .ok path =>
      match loadRound files path with
      | .error crash => ⟨.error crash, [], files⟩
      | .ok (.error refusal) =>
        ⟨.ok .failed,
          logOf settings [.manifestRefused path.text (refusal.reason invocation.details)], files⟩
      | .ok (.ok round) => runRound (processor invocation settings options) round files

/-- A run of the command on a file tree. -/
def run (invocation : Invocation) (files : FileTree) : Outcome :=
  match Options.parse invocation.arguments with
  | .error .help => ⟨.ok .helped, [], files⟩
  | .error .misuse => ⟨.ok .misused, [], files⟩
  | .ok options => runOptions invocation options files

end Command

end ResourceBundle
