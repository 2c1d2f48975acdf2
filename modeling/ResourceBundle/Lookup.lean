import ResourceBundle.AdditionalText
import ResourceBundle.LinkedTree
import ResourceBundle.Session

/-! # Finding additional texts

The file is looked for in the folder that the round names, in the folder that is configured, and in the
source roots, in this order. A folder without the file, or with one that cannot be opened, is passed over;
an unreadable file in a source root ends the search. So does a path that the file system refuses to look
at, and a link in a folder that leads back to itself. -/

namespace ResourceBundle

/-- Where additional texts are looked for, besides the folder that a round names. -/
structure Places where
  homes : Homes
  configured : Option String
  sourceRoots : List Path
deriving DecidableEq, Repr

namespace Lookup

variable {σ : Type}

def textFile (folder : Path) : Path := folder.join (Path.ofString AdditionalText.fileName)

def reading (place : Location) (source : String) : String :=
  "Reading additional texts from '" ++ place.uri ++ "' (" ++ source ++ ")"

def cannotOpen (path : Path) : String := "Cannot open file '" ++ path.text ++ "' with additional texts"

/-- The answer to a question about a path. A fault is not expected here, so it ends the search. -/
def answer {α : Type} (reply : Except FileFault α) : Action σ α :=
  Action.ofExcept (reply.mapError FileFault.failure)

/-- Looks into a folder; a tilde at the start of its name stands for a home directory. -/
def inFolder (files : LinkedTree) (homes : Homes) (folder source : String) :
    Action σ (Option Path) := do
  let folder ← Action.ofExcept ((Path.ofString folder).expandHome homes)
  if !(← answer (files.isDirectory folder)) then
    return none
  let path := textFile folder
  match files.resolve true path with
  | .error (.missing _) => pure none
  | .error fault =>
    if fault.isSystem then
      Action.note (cannotOpen path ++ ": " ++ fault.message)
      pure none
    else
      throw fault.failure
  | .ok place =>
    let found := Location.path place
    if (← answer (files.isFile found)) && files.isReadable found then
      Action.note (reading place source)
      pure (some found)
    else
      Action.note (cannotOpen found)
      pure none

def inFolder? (files : LinkedTree) (homes : Homes) (folder : Option String) (source : String) :
    Action σ (Option Path) :=
  match folder with
  | none => pure none
  | some folder => if folder = "" then pure none else inFolder files homes folder source

def inRoots (files : LinkedTree) : List Path → Action σ (Option Path)
  | [] => pure none
  | root :: rest => do
    let path := textFile root
    if !(← answer (files.isFile path)) then
      inRoots files rest
    else if !files.isReadable path then
      Action.fail (.inaccessibleTexts path.text) .nothing
    else
      let place ← answer (files.resolve false path)
      Action.note (reading place "source tree")
      pure (some path)

def locate (files : LinkedTree) (places : Places) (provided : Option String) :
    Action σ (Option Path) := do
  match ← inFolder? files places.homes provided "provided location" with
  | some path => pure (some path)
  | none =>
    match ← inFolder? files places.homes places.configured "configured location" with
    | some path => pure (some path)
    | none => inRoots files places.sourceRoots

end Lookup

end ResourceBundle
