import ResourceBundle.Command
import ResourceBundle.Proofs.Utf8Text

/-! # Loading the manifest

The manifest is loaded in three steps: its file is opened, read as UTF-8, and read as a round. If the
first or the last step fails, the run ends with one error in the log; if the second one fails, the run
breaks off without a word. Either way no file has changed. -/

namespace ResourceBundle

namespace Options

/-- Whether the level of the options, if there is one, may be chosen. -/
def HasKnownLevel (options : Options) : Prop := ∀ level ∈ options.logLevel, level ∈ logLevels

theorem HasKnownLevel.set {options after : Options} {switch : Switch} {value : String}
    (h : options.HasKnownLevel) (hset : options.set switch value = .ok after) :
    after.HasKnownLevel := by
  cases switch with
  | help => cases hset
  | logLevel =>
    unfold Options.set at hset
    dsimp only at hset
    split at hset
    · rename_i hvalue
      cases hset
      intro level hlevel
      obtain rfl := Option.some.inj hlevel
      simpa using hvalue
    · cases hset
  | sourceOutput | classOutput | sourcePath | additionalTextLocation =>
    cases hset
    exact h

end Options

namespace Command

/-- Whether no round is taken from the file at a path, and why: it cannot be read, or its text is not that
of a round. -/
def Refuses (files : FileTree) (path : Path) : Refusal → Prop
  | .unreadable fault => files.read path = .error fault
  | .faulty text faults =>
    files.read path = .ok (Text.Utf8.encode text) ∧ Manifest.readRound text = .error faults

end Command

end ResourceBundle
