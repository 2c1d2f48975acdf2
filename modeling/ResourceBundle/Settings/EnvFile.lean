import ResourceBundle.Text.Blank

/-! # Files of environment variables

Each line binds a name to a value: `name=value`, with `export` in front if one likes. A value stands in
single or double quotes, or goes to the end of the line or to a comment after a blank. A line that
cannot be read is skipped. References to other variables in a value are replaced. -/

namespace ResourceBundle.EnvFile

structure Binding where
  name : String
  value : Option String
deriving DecidableEq, Repr

def isGap (c : Char) : Bool := Text.isBlank c && c != '\n' && c != '\r'

/-- Each line ends in a line feed. -/
def unifyLineEnds : List Char → List Char
  | [] => []
  | '\r' :: '\n' :: rest => '\n' :: unifyLineEnds rest
  | '\r' :: rest => '\n' :: unifyLineEnds rest
  | c :: rest => c :: unifyLineEnds rest

def skipLine : List Char → List Char
  | [] => []
  | c :: rest => if c = '\n' then rest else skipLine rest

/-- The rest after the word `export`, if a blank follows it. -/
def skipExport : List Char → List Char
  | 'e' :: 'x' :: 'p' :: 'o' :: 'r' :: 't' :: c :: rest =>
    if isGap c then rest.dropWhile isGap else 'e' :: 'x' :: 'p' :: 'o' :: 'r' :: 't' :: c :: rest
  | cs => cs

/-- What stands in quotes, up to the first quote without a backslash, or else to the last one with a
backslash. -/
def quoted? (quote : Char) : List Char → Option (List Char × List Char)
  | [] => none
  | [c] => if c = quote then some ([], []) else none
  | c :: d :: rest =>
    if c = quote then some ([], d :: rest)
    else if c = '\\' ∧ d = quote then
      match quoted? quote rest with
      | some (content, after) => some (c :: d :: content, after)
      | none => some ([c], rest)
    else
      (quoted? quote (d :: rest)).map fun (content, after) => (c :: content, after)

/-- What a letter after a backslash means. -/
def escapes : List (Char × Char) := [('\\', '\\'), ('\'', '\''), ('"', '"'), ('a', '\x07'),
  ('b', '\x08'), ('f', '\x0c'), ('n', '\n'), ('r', '\r'), ('t', '\t'), ('v', '\x0b')]

/-- Replaces the escapes among the given letters; any other backslash stands for itself. -/
def unescape (letters : List Char) : List Char → List Char
  | '\\' :: c :: rest =>
    if letters.contains c then (escapes.lookup c).getD c :: unescape letters rest
    else '\\' :: unescape letters (c :: rest)
  | c :: rest => c :: unescape letters rest
  | [] => []
termination_by cs => cs.length

/-- The part of a line before a comment, which begins with `#` after a blank. -/
def beforeComment : List Char → List Char
  | [] => []
  | [c] => [c]
  | c :: d :: rest => if Text.isBlank c ∧ d = '#' then [] else c :: beforeComment (d :: rest)

/-- The value after the equals sign, and the rest. -/
def value? : List Char → Option (List Char × List Char)
  | '\'' :: rest => (quoted? '\'' rest).map fun (content, after) =>
      (unescape ['\\', '\''] content, after)
  | '"' :: rest => (quoted? '"' rest).map fun (content, after) =>
      (unescape ['\\', '\'', '"', 'a', 'b', 'f', 'n', 'r', 't', 'v'] content, after)
  | cs =>
    let line := cs.takeWhile (· != '\n')
    some (Text.trimEnd (beforeComment line), cs.drop line.length)

/-- The name in front of a binding and the rest; a comment has none. -/
def name? : List Char → Option (Option (List Char) × List Char)
  | '#' :: rest => some (none, '#' :: rest)
  | '\'' :: rest =>
    match rest.takeWhile (· != '\''), rest.dropWhile (· != '\'') with
    | c :: cs, _ :: after => some (some (c :: cs), after)
    | _, _ => none
  | cs =>
    let inName (c : Char) : Bool := !(c == '=' || c == '#' || Text.isBlank c)
    match cs.takeWhile inName with
    | [] => none
    | name => some (some name, cs.dropWhile inName)

/-- The rest after a comment and the end of the line; nothing else may be there. -/
def lineEnd? (cs : List Char) : Option (List Char) :=
  match cs.dropWhile isGap with
  | [] => some []
  | '\n' :: rest => some rest
  | '#' :: rest => some (skipLine rest)
  | _ => none

/-- One line: a binding, nothing, or, if it cannot be read, where reading stopped. -/
def line? (cs : List Char) : Except (List Char) (Option Binding × List Char) :=
  match name? cs with
  | none => .error cs
  | some (name, rest) =>
    let rest := rest.dropWhile isGap
    let bind (value : Option (List Char)) : Option Binding :=
      name.map fun n => ⟨String.ofList n, value.map String.ofList⟩
    match rest with
    | '=' :: after =>
      let after := after.dropWhile isGap
      match value? after with
      | none => .error after
      | some (value, rest) =>
        match lineEnd? rest with
        | some further => .ok (bind (some value), further)
        | none => .error rest
    | _ =>
      match lineEnd? rest with
      | some further => .ok (bind none, further)
      | none => .error rest

/-- The bindings of a file; `fuel` bounds the number of its lines. -/
def linesFrom : (fuel : Nat) → List Char → List Binding
  | 0, _ => []
  | fuel + 1, cs =>
    match cs.dropWhile Text.isBlank with
    | [] => []
    | start =>
      match line? (skipExport start) with
      | .ok (binding, rest) => binding.toList ++ linesFrom fuel rest
      | .error stop => linesFrom fuel (skipLine stop)

def bindings (cs : List Char) : List Binding := linesFrom (cs.length + 1) (unifyLineEnds cs)

/-- A reference at the start of a text: its name, its default, and the rest. -/
def reference? : List Char → Option (String × String × List Char)
  | '$' :: '\x7b' :: rest =>
    let name := rest.takeWhile fun c => c != '\x7d' && c != ':'
    match rest.drop name.length with
    | '\x7d' :: after => some (String.ofList name, "", after)
    | ':' :: '-' :: after =>
      match after.dropWhile (· != '\x7d') with
      | _ :: further =>
        some (String.ofList name, String.ofList (after.takeWhile (· != '\x7d')), further)
      | [] => none
    | _ => none
  | _ => none

/-- Replaces the references in a text; `fuel` bounds its length. -/
def substitute (known : List (String × Option String)) : (fuel : Nat) → List Char → List Char
  | 0, _ => []
  | _, [] => []
  | fuel + 1, c :: cs =>
    match reference? (c :: cs) with
    | some (name, default, rest) =>
      (((known.lookup name).getD (some default)).getD "").toList ++ substitute known fuel rest
    | none => c :: substitute known fuel cs

/-- Gives a name a value; a name that is there keeps its place. -/
def assign (name : String) (value : Option String) :
    List (String × Option String) → List (String × Option String)
  | [] => [(name, value)]
  | (other, old) :: rest =>
    if other = name then (name, value) :: rest else (other, old) :: assign name value rest

/-- The variables of a file. References see the variables of the lines before, and then those of the
environment. -/
def assignments (environment : List (String × String)) (cs : List Char) :
    List (String × Option String) :=
  (bindings cs).foldl (fun known binding =>
    let value := binding.value.map fun text =>
      String.ofList (substitute (known ++ environment.map fun (name, value) => (name, some value))
        (text.length + 1) text.toList)
    assign binding.name value known) []

end ResourceBundle.EnvFile
