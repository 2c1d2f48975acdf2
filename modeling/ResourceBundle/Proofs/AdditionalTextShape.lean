import ResourceBundle.AdditionalText
import ResourceBundle.Proofs.Contribution

/-! # The shape of a document of additional texts

What the grammar of additional texts asks of a document tree, and what such a tree contributes: one
contribution for each translation, in document order, with the key and the description of the text that
it belongs to. -/

namespace ResourceBundle

namespace Xml.Node

mutual

def occurrences (tag : Name) : Node → Nat
  | .element own _ _ children => (if own = tag then 1 else 0) + occurrencesIn tag children
  | .text _ => 0
  | .comment => 0
  | .instruction => 0

def occurrencesIn (tag : Name) : List Node → Nat
  | [] => 0
  | node :: rest => occurrences tag node + occurrencesIn tag rest

end

end Xml.Node

namespace AdditionalText

open Xml (Node)

/-- What may stand between elements: white space, comments and processing instructions. -/
inductive IsFiller : Node → Prop
  | space {content : List Char} : Xml.isBlank content = true → IsFiller (.text content)
  | comment : IsFiller .comment
  | instruction : IsFiller .instruction

/-- What may stand in a description or a translation: anything but elements. -/
inductive IsData : Node → Prop
  | text (content : List Char) : IsData (.text content)
  | comment : IsData .comment
  | instruction : IsData .instruction

theorem IsFiller.isData {node : Node} (h : IsFiller node) : IsData node := by
  cases h with
  | space => exact .text _
  | comment => exact .comment
  | instruction => exact .instruction

/-- Any number of translations, each with a language. -/
inductive AreTranslations : List Node → Prop
  | nil : AreTranslations []
  | filler {node : Node} {rest : List Node} :
    IsFiller node → AreTranslations rest → AreTranslations (node :: rest)
  | translation {attributes : List (Xml.Name × List Char)} {line : Nat} {inner rest : List Node} :
    (attributes.lookup languageName).isSome → (∀ node ∈ inner, IsData node) →
    AreTranslations rest →
    AreTranslations (.element translationName attributes line inner :: rest)

/-- At most one description, then translations. -/
inductive IsTextContent : List Node → Prop
  | plain {nodes : List Node} : AreTranslations nodes → IsTextContent nodes
  | filler {node : Node} {rest : List Node} :
    IsFiller node → IsTextContent rest → IsTextContent (node :: rest)
  | described {attributes : List (Xml.Name × List Char)} {line : Nat} {inner rest : List Node} :
    (∀ node ∈ inner, IsData node) → AreTranslations rest →
    IsTextContent (.element descriptionName attributes line inner :: rest)

/-- Any number of texts, each with a key. -/
inductive AreTexts : List Node → Prop
  | nil : AreTexts []
  | filler {node : Node} {rest : List Node} : IsFiller node → AreTexts rest → AreTexts (node :: rest)
  | text {attributes : List (Xml.Name × List Char)} {line : Nat} {inner rest : List Node} :
    (attributes.lookup keyName).isSome → IsTextContent inner → AreTexts rest →
    AreTexts (.element textName attributes line inner :: rest)

/-- Whether a document element has the shape that the grammar of additional texts asks for. -/
inductive Conforms : Node → Prop
  | texts {attributes : List (Xml.Name × List Char)} {line : Nat} {children : List Node} :
    AreTexts children → Conforms (.element textsName attributes line children)

def keysIn (nodes : List Node) : List (List Char) :=
  nodes.filterMap fun
    | .element tag attributes _ _ => if tag = textName then attributes.lookup keyName else none
    | _ => none

def keys : Node → List (List Char)
  | .element _ _ _ children => keysIn children
  | _ => []

/-- The description that the pieces of text of its element amount to: each piece is folded and
trimmed, and blank ones are left out. -/
def describe (pieces : List (List Char)) : List Char :=
  ((pieces.map fun piece => Text.trim (Text.fold piece)).filter (· ≠ [])).flatten

def descriptionIn (content : List Node) : List Char :=
  content.flatMap fun
    | .element tag _ _ inner => if tag = descriptionName then describe (piecesOf inner) else []
    | _ => []

/-- The contribution of a translation: its text is its character data, folded. -/
def contribution (origin key : String) (description : List Char)
    (attributes : List (Xml.Name × List Char)) (inner : List Node) : Contribution where
  language := attribute? attributes languageName
  key := key
  isMessage := false
  description := String.ofList description
  text := String.ofList (Text.fold (piecesOf inner).flatten)
  className := origin

def translationsIn (origin key : String) (description : List Char) (content : List Node) :
    List Contribution :=
  content.filterMap fun
    | .element tag attributes _ inner =>
      if tag = translationName then some (contribution origin key description attributes inner)
      else none
    | _ => none

def textsIn (origin : String) (nodes : List Node) : List Contribution :=
  nodes.flatMap fun
    | .element tag attributes _ content =>
      if tag = textName then
        translationsIn origin ((attribute? attributes keyName).getD "") (descriptionIn content) content
      else []
    | _ => []

def contributions (origin : String) : Node → List Contribution
  | .element _ _ _ children => textsIn origin children
  | _ => []

variable {origin key : String} {description : List Char}

theorem translationsIn_cons_of_isData {node : Node} (h : IsData node) (rest : List Node) :
    translationsIn origin key description (node :: rest) =
      translationsIn origin key description rest := by
  cases h <;> rfl

theorem descriptionIn_cons_of_isData {node : Node} (h : IsData node) (rest : List Node) :
    descriptionIn (node :: rest) = descriptionIn rest := by
  cases h <;> rfl

theorem keysIn_cons_of_isData {node : Node} (h : IsData node) (rest : List Node) :
    keysIn (node :: rest) = keysIn rest := by
  cases h <;> rfl

theorem keysIn_cons_text {attributes : List (Xml.Name × List Char)} {key : List Char}
    (h : attributes.lookup keyName = some key) (line : Nat) (inner rest : List Node) :
    keysIn (.element textName attributes line inner :: rest) = key :: keysIn rest := by
  simp only [keysIn, List.filterMap_cons, if_pos, h]

theorem textsIn_cons_of_isData {node : Node} (h : IsData node) (rest : List Node) :
    textsIn origin (node :: rest) = textsIn origin rest := by
  cases h <;> rfl

theorem descriptionIn_of_areTranslations {content : List Node} (h : AreTranslations content) :
    descriptionIn content = [] := by
  induction h with
  | nil => rfl
  | filler hfiller _ ih => rw [descriptionIn_cons_of_isData hfiller.isData, ih]
  | translation _ _ _ ih => exact ih

theorem textsIn_cons_text (attributes : List (Xml.Name × List Char)) (line : Nat)
    (inner rest : List Node) :
    textsIn origin (.element textName attributes line inner :: rest) =
      translationsIn origin ((attribute? attributes keyName).getD "") (descriptionIn inner) inner ++
        textsIn origin rest := rfl

theorem occurrencesIn_cons_of_isData {tag : Xml.Name} {node : Node} (h : IsData node)
    (rest : List Node) : Node.occurrencesIn tag (node :: rest) = Node.occurrencesIn tag rest := by
  rw [Node.occurrencesIn]
  cases h <;> rw [Node.occurrences, Nat.zero_add]

theorem occurrencesIn_of_isData {tag : Xml.Name} {nodes : List Node} (h : ∀ node ∈ nodes, IsData node) :
    Node.occurrencesIn tag nodes = 0 := by
  induction nodes with
  | nil => rfl
  | cons node nodes ih =>
    obtain ⟨hnode, hnodes⟩ := List.forall_mem_cons.mp h
    rw [occurrencesIn_cons_of_isData hnode, ih hnodes]

theorem length_translationsIn {content : List Node} (h : AreTranslations content) :
    (translationsIn origin key description content).length =
      Node.occurrencesIn translationName content := by
  induction h with
  | nil => rfl
  | filler hfiller _ ih =>
    rw [translationsIn_cons_of_isData hfiller.isData, ih,
      occurrencesIn_cons_of_isData hfiller.isData]
  | @translation attributes line inner rest _ hinner _ ih =>
    have hcons : translationsIn origin key description
          (.element translationName attributes line inner :: rest) =
        contribution origin key description attributes inner ::
          translationsIn origin key description rest := rfl
    rw [hcons, List.length_cons, ih, Node.occurrencesIn, Node.occurrences, if_pos rfl,
      occurrencesIn_of_isData hinner, Nat.add_zero, Nat.add_comm]

theorem length_translationsIn_of_isTextContent {content : List Node} (h : IsTextContent content) :
    (translationsIn origin key description content).length =
      Node.occurrencesIn translationName content := by
  induction h with
  | plain h => exact length_translationsIn h
  | filler hfiller _ ih =>
    rw [translationsIn_cons_of_isData hfiller.isData, ih,
      occurrencesIn_cons_of_isData hfiller.isData]
  | @described attributes line inner rest hinner hrest =>
    have hcons : translationsIn origin key description
          (.element descriptionName attributes line inner :: rest) =
        translationsIn origin key description rest := rfl
    rw [hcons, length_translationsIn hrest, Node.occurrencesIn, Node.occurrences,
      occurrencesIn_of_isData hinner, if_neg (by decide), Nat.zero_add]

/-- A conforming document contributes as often as it has translations. -/
theorem length_contributions {root : Node} (h : Conforms root) :
    (contributions origin root).length = root.occurrences translationName := by
  obtain ⟨htexts⟩ := h
  rename_i attributes line children
  rw [contributions, Node.occurrences, if_neg (by decide), Nat.zero_add]
  induction htexts with
  | nil => rfl
  | filler hfiller _ ih =>
    rw [textsIn_cons_of_isData hfiller.isData, ih, occurrencesIn_cons_of_isData hfiller.isData]
  | text _ hinner _ ih =>
    rw [textsIn_cons_text, List.length_append, ih, length_translationsIn_of_isTextContent hinner,
      Node.occurrencesIn, Node.occurrences, if_neg (by decide), Nat.zero_add]

end AdditionalText

end ResourceBundle
