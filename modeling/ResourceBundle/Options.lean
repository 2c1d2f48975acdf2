import ResourceBundle.Text.Letter
import ResourceBundle.Text.LineBreak

/-! # Options of the command line

An option may be shortened to a beginning that no other option shares, and its value may follow it or
stand behind an equals sign. After `--` everything is an argument. There is one argument: the manifest. -/

namespace ResourceBundle

structure Options where
  manifest : Option String
  sourceOutput : Option String
  classOutput : Option String
  sourcePath : List String
  additionalTextLocation : Option String
  logLevel : Option String
deriving DecidableEq, Repr

namespace Options

def empty : Options := ⟨none, none, none, [], none, none⟩

inductive Switch where
  | help
  | sourceOutput
  | classOutput
  | sourcePath
  | additionalTextLocation
  | logLevel
deriving DecidableEq, Repr

/-- The spellings of the options. -/
def switches : List (String × Switch) := [("-h", .help), ("--help", .help),
  ("--source-output", .sourceOutput), ("--class-output", .classOutput),
  ("--source-path", .sourcePath), ("--additional-text-location", .additionalTextLocation),
  ("--log-level", .logLevel)]

def logLevels : List String := ["DEBUG", "INFO", "WARNING", "ERROR"]

/-- What a word of the command line is. -/
inductive Word where
  | argument (text : String)
  /-- An option, and the value that is part of the word. -/
  | switch (switch : Switch) (value : Option String)
  | help
  /-- Something like an option that is none. -/
  | unknown
  /-- The beginning of several options. -/
  | ambiguous
deriving DecidableEq, Repr

/-- The text before and after the first equals sign. -/
def splitValue (text : String) : String × Option String :=
  let name := text.toList.takeWhile (· != '=')
  match text.toList.drop name.length with
  | _ :: value => (String.ofList name, some (String.ofList value))
  | [] => (text, none)

/-- Whether a text looks like a negative number, with a line feed behind it or without. -/
def isNegativeNumber (text : String) : Bool :=
  match text.toList with
  | '-' :: rest =>
    let number := if rest.getLast? = some '\n' then rest.dropLast else rest
    let whole := number.takeWhile Text.isDecimal
    match number.drop whole.length with
    | [] => !whole.isEmpty
    | '.' :: fraction => !fraction.isEmpty && fraction.all Text.isDecimal
    | _ => false
  | _ => false

/-- The word of an option with or without a value. Help takes no value. -/
def wordOf : Switch → Option String → Word
  | .help, none => .help
  | switch, value => .switch switch value

/-- The word that begins with `-h` and goes on with the given characters. Further options may follow in
the same word; help is given before they are looked at, but a sign among them is wrong. -/
def helpWord : List Char → Word
  | 'h' :: rest => helpWord rest
  | '-' :: _ => .switch .help (some "-")
  | '=' :: _ => .switch .help (some "=")
  | _ => .help

/-- The options that a text is the beginning of. -/
def beginningOf (text : String) : List Word :=
  match text.toList with
  | '-' :: '-' :: _ =>
    let (name, value) := splitValue text
    (switches.filter fun entry => entry.1.startsWith name).map fun entry => wordOf entry.2 value
  | '-' :: 'h' :: rest => [helpWord rest]
  | _ => []

/-- What a word is, unless it is the separator `--`. -/
def classify (text : String) : Word :=
  if !text.startsWith "-" || text == "-" then .argument text
  else
    match switches.lookup text with
    | some switch => wordOf switch none
    | none =>
      let (name, value) := splitValue text
      match switches.lookup name with
      | some switch => wordOf switch value
      | none =>
        match beginningOf text with
        | [word] => word
        | _ :: _ :: _ => .ambiguous
        | [] =>
          if isNegativeNumber text || text.toList.contains ' ' then .argument text else .unknown

/-- Why there are no options to run with. -/
inductive Refusal where
  | help
  | misuse
deriving DecidableEq, Repr

def set (options : Options) (switch : Switch) (value : String) : Except Refusal Options :=
  match switch with
  | .help => .error .misuse
  | .sourceOutput => .ok { options with sourceOutput := some value }
  | .classOutput => .ok { options with classOutput := some value }
  | .sourcePath => .ok { options with sourcePath := options.sourcePath ++ [value] }
  | .additionalTextLocation => .ok { options with additionalTextLocation := some value }
  | .logLevel =>
    if logLevels.contains value then .ok { options with logLevel := some value } else .error .misuse

/-- How far a command line has been read. -/
structure Progress where
  options : Options
  /-- Whether there was a word too many. -/
  surplus : Bool
  /-- Whether the word read last is the manifest. -/
  atManifest : Bool
deriving DecidableEq, Repr

namespace Progress

/-- Takes an argument: the manifest, if there is none yet. -/
def take (progress : Progress) (text : String) : Progress :=
  if progress.options.manifest.isSome then { progress with surplus := true, atManifest := false }
  else ⟨{ progress.options with manifest := some text }, progress.surplus, true⟩

def set (progress : Progress) (switch : Switch) (value : String) : Except Refusal Progress :=
  (progress.options.set switch value).map fun options => ⟨options, progress.surplus, false⟩

/-- Takes the separator. It belongs to the manifest before or behind it; anywhere else it is a word too
many. -/
def separate (progress : Progress) : Progress :=
  if progress.options.manifest.isSome && !progress.atManifest then { progress with surplus := true }
  else progress

end Progress

def readWords (progress : Progress) : List Word → Except Refusal Progress
  | [] => .ok progress
  | .argument text :: rest => readWords (progress.take text) rest
  | .unknown :: rest => readWords { progress with surplus := true, atManifest := false } rest
  | .ambiguous :: _ => .error .misuse
  | .help :: _ => .error .help
  | .switch switch (some value) :: rest =>
    match progress.set switch value with
    | .ok progress => readWords progress rest
    | .error refusal => .error refusal
  | .switch switch none :: .argument value :: rest =>
    match progress.set switch value with
    | .ok progress => readWords progress rest
    | .error refusal => .error refusal
  | .switch _ none :: _ => .error .misuse

def parse (arguments : List String) : Except Refusal Options :=
  let words := (arguments.takeWhile (· != "--")).map classify
  if words.contains .ambiguous then .error .misuse
  else
    match readWords ⟨empty, false, false⟩ words with
    | .error refusal => .error refusal
    | .ok progress =>
      let progress := match arguments.dropWhile (· != "--") with
        | [] => progress
        | _ :: behind => behind.foldl Progress.take progress.separate
      if progress.surplus || progress.options.manifest.isNone then .error .misuse
      else .ok progress.options

end Options

end ResourceBundle
