import ResourceBundle.Failure
import ResourceBundle.Text.Digits
import ResourceBundle.Text.LineBreak
import ResourceBundle.Text.Utf8

/-! # Paths

A path is an anchor and a list of names. Empty names and `.` vanish when a path is read; `..` stays,
because only a file tree can tell what it leads to. A location is the absolute place that a path
denotes once `..` has been taken away. -/

namespace ResourceBundle

inductive Anchor where
  | here
  | root
  /-- Exactly two slashes at the start, which are kept apart from one. -/
  | doubleRoot
deriving DecidableEq, Repr

/-- The names from the root down to a place. -/
abbrev Location := List String

/-- The names on the way to a place. -/
structure Path where
  anchor : Anchor
  names : List String
deriving DecidableEq, Repr

namespace Anchor

def ofChars (cs : List Char) : Anchor :=
  match (cs.takeWhile (· == '/')).length with
  | 0 => here
  | 2 => doubleRoot
  | _ => root

theorem ofChars_of_head {cs : List Char} (h : cs.head? ≠ some '/') :
    ofChars cs = .here := by
  cases cs with
  | nil => rfl
  | cons c cs =>
    have hc : c ≠ '/' := fun heq => h (congrArg some heq)
    simp [ofChars, hc]

def text : Anchor → String
  | here => ""
  | root => "/"
  | doubleRoot => "//"

end Anchor

namespace Path

/-- Whether a name says where to go. -/
def isName (name : String) : Bool := !(name == "" || name == ".")

theorem isName_of_mem {name : String} {c : Char} (h : c ∈ name.toList) (hdot : c ≠ '.') :
    isName name = true := by
  rw [isName, Bool.not_eq_true', Bool.or_eq_false_iff, beq_eq_false_iff_ne, beq_eq_false_iff_ne]
  constructor
  · rintro rfl
    cases h
  · rintro rfl
    exact hdot (List.mem_singleton.mp h)

def ofString (text : String) : Path :=
  ⟨Anchor.ofChars text.toList, (Text.piecesOf '/' text).filter isName⟩

theorem ofString_eq_singleton {text : String} (hslash : '/' ∉ text.toList) (hname : isName text = true) :
    ofString text = ⟨.here, [text]⟩ := by
  have hanchor : Anchor.ofChars text.toList = .here :=
    Anchor.ofChars_of_head fun hhead => hslash (List.mem_of_head? hhead)
  rw [ofString, hanchor, Text.piecesOf, Text.pieces_eq_singleton hslash]
  simp [hname]

/-- The text of a path; the path without names is a dot. -/
def text (path : Path) : String :=
  if path.anchor = .here ∧ path.names = [] then "."
  else path.anchor.text ++ "/".intercalate path.names

/-- The second path seen from the first; an absolute one replaces it. -/
def join (base path : Path) : Path :=
  match path.anchor with
  | .here => { base with names := base.names ++ path.names }
  | _ => path

def parent (path : Path) : Path := { path with names := path.names.dropLast }

def name (path : Path) : String := path.names.getLast?.getD ""

/-- Whether the path holds a character that no file name can hold. -/
def isImpossible (path : Path) : Bool := path.names.any fun name => name.toList.contains '\x00'

/-- Whether a name has more bytes than a file system allows. -/
def isLongName (name : String) : Bool := decide (255 < (Text.Utf8.encode name.toList).length)

/-- Whether the text of the path has more bytes than a file system takes. -/
def isTooLong (path : Path) : Bool := decide (4095 < (Text.Utf8.encode path.text.toList).length)

/-- Follows names from a place by their spelling alone; `..` at the root stays there. -/
def descend : Location → List String → Location
  | place, [] => place
  | place, name :: rest => descend (if name = ".." then place.dropLast else place ++ [name]) rest

theorem descend_append (place : Location) (names further : List String) :
    descend place (names ++ further) = descend (descend place names) further := by
  induction names generalizing place with
  | nil => rfl
  | cons name names ih => exact ih _

/-- The place where a path starts, seen from a directory. -/
def start (path : Path) (directory : Location) : Location :=
  match path.anchor with
  | .here => directory
  | _ => []

def child (path : Path) (name : String) : Path := { path with names := path.names ++ [name] }

/-- The path without its last name, or with a further `..` if it has no name that could be taken away. -/
def above (path : Path) : Path :=
  match path.names.getLast? with
  | none => if path.anchor = .here then path.child ".." else path
  | some name => if name = ".." then path.child ".." else path.parent

/-- Where a path starts that is seen from another one. -/
def base (path seen : Path) : Path :=
  match path.anchor with
  | .here => seen
  | _ => ⟨.root, []⟩

def location (path : Path) (directory : Location) : Location :=
  descend (path.start directory) path.names

theorem location_child {name : String} (h : name ≠ "..") (path : Path) (directory : Location) :
    (path.child name).location directory = path.location directory ++ [name] := by
  change descend (path.start directory) (path.names ++ [name]) = _
  rw [descend_append, descend, if_neg h]
  rfl

theorem location_above (path : Path) (directory : Location) :
    path.above.location directory = (path.location directory).dropLast := by
  obtain ⟨anchor, names⟩ := path
  have hchild : (child ⟨anchor, names⟩ "..").location directory =
      (location ⟨anchor, names⟩ directory).dropLast := descend_append _ names [".."]
  rw [above]
  cases hlast : names.getLast? with
  | none =>
    dsimp only
    split
    · exact hchild
    · rename_i hanchor
      obtain rfl := List.getLast?_eq_none_iff.mp hlast
      cases anchor with
      | here => exact absurd rfl hanchor
      | root | doubleRoot => rfl
  | some name =>
    dsimp only
    split
    · exact hchild
    · rename_i hname
      obtain ⟨rest, rfl⟩ := List.getLast?_eq_some_iff.mp hlast
      have hplace := location_child hname ⟨anchor, rest⟩ directory
      have hparent : parent ⟨anchor, rest ++ [name]⟩ = ⟨anchor, rest⟩ := by
        rw [parent, List.dropLast_concat]
      rw [hparent]
      exact (congrArg List.dropLast hplace).trans (List.dropLast_concat) |>.symm

theorem location_base (path : Path) (directory : Location) :
    (path.base ⟨.here, []⟩).location directory = path.start directory := by
  rw [base, start]
  cases path.anchor <;> rfl

theorem isImpossible_base (path : Path) : (path.base ⟨.here, []⟩).isImpossible = false := by
  rw [base]
  cases path.anchor <;> rfl

theorem isImpossible_above {path : Path} (h : path.isImpossible = false) :
    path.above.isImpossible = false := by
  have hchild : (path.child "..").isImpossible = false := by
    simpa [isImpossible, child] using h
  unfold above
  split
  · split
    · exact hchild
    · exact h
  · split
    · exact hchild
    · rw [isImpossible, List.any_eq_false] at h ⊢
      exact fun name hname => h name (List.dropLast_subset _ hname)

end Path

structure Homes where
  /-- The home directory of the one who runs the program. -/
  own : Option String
  named : List (String × String)
deriving DecidableEq, Repr

namespace Homes

/-- A directory without the slashes at its end. -/
def directory (text : String) : String :=
  let cs := (text.toList.reverse.dropWhile (· == '/')).reverse
  if cs = [] then "/" else String.ofList cs

/-- The home directory that a name with a tilde in front denotes. -/
def find? (homes : Homes) (name : String) : Option String :=
  (if name = "~" then homes.own else homes.named.lookup (String.ofList (name.toList.drop 1))).map
    directory

end Homes

namespace Path

/-- Replaces a tilde at the start by a home directory, which must be known. -/
def expandHome (homes : Homes) (path : Path) : Except Failure Path :=
  match path.anchor, path.names with
  | .here, first :: rest =>
    if first.toList.head? = some '~' then
      if first.toList.contains '\x00' then .error .nullCharacter
      else match homes.find? first with
      | some home =>
        if home.toList.head? = some '~' then .error .unknownHome
        else .ok ((ofString home).join ⟨.here, rest⟩)
      | none => .error .unknownHome
    else .ok path
  | _, _ => .ok path

def HasTilde (path : Path) : Prop :=
  path.anchor = .here ∧ ∃ name ∈ path.names.head?, name.toList.head? = some '~'

theorem expandHome_eq_self {path : Path} (homes : Homes) (h : ¬ path.HasTilde) :
    path.expandHome homes = .ok path := by
  unfold expandHome
  split
  · rename_i first rest hanchor hnames
    rw [if_neg fun htilde => h ⟨hanchor, first, by rw [hnames]; rfl, htilde⟩]
  · rfl

theorem expandHome_fails {homes : Homes} {path : Path} {failure : Failure}
    (h : path.expandHome homes = .error failure) : failure = .unknownHome ∨ failure = .nullCharacter := by
  unfold expandHome at h
  split at h
  · split at h
    · split at h
      · cases h
        exact .inr rfl
      · split at h
        · split at h <;> cases h
          exact .inl rfl
        · cases h
          exact .inl rfl
    · cases h
  · cases h

end Path

namespace Location

def path (place : Location) : Path := ⟨.root, place⟩

def text (place : Location) : String := (path place).text

/-- Whether a byte stands for itself in a URI. -/
def isPlainByte (byte : UInt8) : Bool :=
  let c := Char.ofNat byte.toNat
  c.isAlphanum || c == '_' || c == '.' || c == '-' || c == '~' || c == '/'

def uriByte (byte : UInt8) : List Char :=
  if isPlainByte byte then [Char.ofNat byte.toNat] else '%' :: Text.hex 2 byte.toNat

def uri (place : Location) : String :=
  "file://" ++ String.ofList ((Text.Utf8.encode (text place).toList).flatMap uriByte)

end Location

end ResourceBundle
