import ResourceBundle.Element
import ResourceBundle.Text.Case

/-! # Diagnostics and events

A diagnostic is what the host is told about a round. An event is anything worth a line of the log:
each diagnostic, and the steps in between. -/

namespace ResourceBundle

inductive Severity where
  | note
  | warning
  | error
  /-- A severity for which no level is given. -/
  | other (name : String)
deriving DecidableEq, Repr

inductive LogLevel where
  | debug | info | warning | error | critical
deriving DecidableEq, Repr

namespace LogLevel

def text : LogLevel → String
  | debug => "DEBUG"
  | info => "INFO"
  | warning => "WARNING"
  | error => "ERROR"
  | critical => "CRITICAL"

/-- The weight of a level; a line is shown if it weighs at least as much as the threshold. -/
def weight : LogLevel → Nat
  | debug => 10
  | info => 20
  | warning => 30
  | error => 40
  | critical => 50

/-- The threshold that a setting names in any case; an unknown name means `INFO`. -/
def threshold (setting : String) : Nat :=
  match Text.upperString setting with
  | "NOTSET" => 0
  | "DEBUG" => debug.weight
  | "WARNING" => warning.weight
  | "WARN" => warning.weight
  | "ERROR" => error.weight
  | "CRITICAL" => critical.weight
  | "FATAL" => critical.weight
  | _ => info.weight

end LogLevel

namespace Severity

def text : Severity → String
  | note => "note"
  | warning => "warning"
  | error => "error"
  | other name => name

/-- The severity of a name; a name that is not known stands for itself. -/
def ofText (name : String) : Severity :=
  (([note, warning, error] : List Severity).find? (·.text == name)).getD (other name)

def level : Severity → LogLevel
  | warning => .warning
  | error => .error
  | note | other _ => .info

end Severity

/-- What a diagnostic is about. -/
inductive Subject where
  | nothing
  | element (element : Element)
  | named (qualifiedName name : Option String)
  | value (text : String)
deriving DecidableEq, Repr

/-- Where the subject is found, if there is one: its qualified name unless that is empty, or else its
name. -/
def Subject.location? : Subject → Option String
  | nothing => none
  | element e => some e.qualifiedName
  | named qualifiedName name =>
    match qualifiedName with
    | some q => if q = "" then some (name.getD "") else some q
    | none => some (name.getD "")
  | value text => some text

structure Diagnostic where
  severity : Severity
  text : String
  subject : Subject
deriving DecidableEq, Repr

namespace Diagnostic

def note (text : String) : Diagnostic := ⟨.note, text, .nothing⟩

def error (text : String) : Diagnostic := ⟨.error, text, .nothing⟩

/-- The text of a diagnostic in the log, with the place of its subject. -/
def logText (d : Diagnostic) : String :=
  match d.subject.location? with
  | none => d.text
  | some place => d.text ++ " [element: " ++ place ++ "]"

def errors (diagnostics : List Diagnostic) : List String :=
  (diagnostics.filter fun d => d.severity = .error).map (·.text)

end Diagnostic

/-- Anything worth a line of the log. -/
inductive Event where
  | diagnostic (d : Diagnostic)
  | stored (key locale : String)
  | collected (entries elements : Nat)
  /-- The bundled grammar was handed out under its system identifier. -/
  | grammarServed (systemId : String)
  | merged (count : Nat)
  | manifestRefused (path reason : String)
  | aborted (reason : String)
deriving DecidableEq, Repr

/-- A line of the log without its time. -/
structure LogRecord where
  level : LogLevel
  source : String
  text : String
deriving DecidableEq, Repr

namespace Event

def record : Event → LogRecord
  | diagnostic d => ⟨d.severity.level, "i18n_bundler.processor", d.logText⟩
  | stored key locale =>
    ⟨.debug, "i18n_bundler.store", "Stored " ++ key ++ " for locale " ++ locale⟩
  | collected entries elements =>
    ⟨.debug, "i18n_bundler.processor", "Collected " ++ toString entries ++ " entries from " ++
      toString elements ++ " elements"⟩
  | grammarServed systemId =>
    ⟨.debug, "i18n_bundler.additional_texts", "Resolving " ++ systemId ++ " from bundled resource"⟩
  | merged count =>
    ⟨.info, "i18n_bundler.additional_texts", "Merged " ++ toString count ++ " additional text entries"⟩
  | manifestRefused path reason =>
    ⟨.error, "i18n_bundler.cli", "Unable to load manifest " ++ path ++ ": " ++ reason⟩
  | aborted reason =>
    ⟨.error, "i18n_bundler.cli", "Resource bundle generation failed: " ++ reason⟩

def diagnostic? : Event → Option Diagnostic
  | diagnostic d => some d
  | _ => none

end Event

def diagnosticsOf (events : List Event) : List Diagnostic := events.filterMap Event.diagnostic?

end ResourceBundle
