import ResourceBundle.Xml.Scan

/-! # Document trees -/

namespace ResourceBundle.Xml

/-- A node of a document. The tag of an element and the names of its attributes carry their namespaces;
the line is that of the end of the start tag. -/
inductive Node where
  | element (tag : Name) (attributes : List (Name × List Char)) (line : Nat) (children : List Node)
  | text (content : List Char)
  | comment
  | instruction
deriving Repr

namespace Node

mutual

def decEq : (a b : Node) → Decidable (a = b)
  | .element tag attributes line children, .element tag' attributes' line' children' =>
    match decEqAll children children' with
    | isTrue h => decidable_of_iff (tag = tag' ∧ attributes = attributes' ∧ line = line') (by simp [h])
    | isFalse h => isFalse (by simp [h])
  | .text content, .text content' => decidable_of_iff (content = content') (by simp)
  | .comment, .comment => isTrue rfl
  | .instruction, .instruction => isTrue rfl
  | .element .., .text _ | .element .., .comment | .element .., .instruction
  | .text _, .element .. | .text _, .comment | .text _, .instruction
  | .comment, .element .. | .comment, .text _ | .comment, .instruction
  | .instruction, .element .. | .instruction, .text _ | .instruction, .comment => isFalse (by simp)

def decEqAll : (nodes others : List Node) → Decidable (nodes = others)
  | [], [] => isTrue rfl
  | [], _ :: _ => isFalse (by simp)
  | _ :: _, [] => isFalse (by simp)
  | node :: rest, other :: others =>
    match decEq node other, decEqAll rest others with
    | isTrue h, isTrue h' => isTrue (by rw [h, h'])
    | isFalse h, _ => isFalse (by simp [h])
    | _, isFalse h => isFalse (by simp [h])

end

instance : DecidableEq Node := decEq

/-- An element whose end has not been read, with its children so far, the last one first. -/
structure Unfinished where
  tag : Name
  attributes : List (Name × List Char)
  line : Nat
  children : List Node

def Unfinished.add (e : Unfinished) (node : Node) : Unfinished :=
  match node, e.children with
  | .text content, .text before :: rest => { e with children := .text (before ++ content) :: rest }
  | node, children => { e with children := node :: children }

def Unfinished.node (e : Unfinished) : Node := .element e.tag e.attributes e.line e.children.reverse

def addInnermost (node : Node) : List Unfinished → List Unfinished
  | [] => []
  | e :: rest => e.add node :: rest

/-- The document element of a sequence of tokens, where the elements of `opened`, the innermost first,
have begun. -/
def ofTokensFrom? (opened : List Unfinished) : List Token → Option Node
  | [] => none
  | .start _ expanded attributes _ line :: rest =>
    ofTokensFrom? (⟨expanded, attributes.map fun a => (a.expanded, a.value), line, []⟩ :: opened) rest
  | .stop :: rest =>
    match opened with
    | [] => none
    | [e] => some e.node
    | e :: parent :: outer => ofTokensFrom? (parent.add e.node :: outer) rest
  | .text content :: rest => ofTokensFrom? (addInnermost (.text content) opened) rest
  | .comment :: rest => ofTokensFrom? (addInnermost .comment opened) rest
  | .instruction :: rest => ofTokensFrom? (addInnermost .instruction opened) rest
  | .report _ :: rest => ofTokensFrom? opened rest

def ofTokens? (tokens : List Token) : Option Node := ofTokensFrom? [] tokens

end Node

end ResourceBundle.Xml
