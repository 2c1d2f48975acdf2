import ResourceBundle.Proofs.AdditionalTextMerge

/-! # Reusing a parser

A parser keeps its place in a document, also when a document fails half way. Nothing of that is seen in a
later document: a parser that was used before and a new one come to the same result, at every point of a
sequence of documents. A document is checked to its end before anything is stored. -/

namespace ResourceBundle

namespace Xml.Node

/-- Whether a node stands in a tree: it is the root, or stands in a child of the root. -/
inductive Within (inner : Node) : Node → Prop
  | self : Within inner inner
  | child {tag : Name} {attributes : List (Name × List Char)} {line : Nat} {children : List Node}
      {child : Node} : child ∈ children → Within inner child →
    Within inner (.element tag attributes line children)

end Xml.Node

namespace AdditionalText

open Xml (Node)
open Xml.Node (Within)

/-- Whether a text without a key stands in a tree, on the given line. -/
def HasBlankKey (root : Node) (line : Nat) : Prop :=
  ∃ tag attributes children, Within (.element tag attributes line children) root ∧
    lacksKey tag attributes = true

mutual

theorem hasBlankKey_of_blankKey? {node : Node} {line : Nat} (h : blankKey? node = some line) :
    HasBlankKey node line := by
  cases node with
  | element tag attributes own children =>
    rw [blankKey?] at h
    split at h
    · rename_i hlacks
      obtain rfl := Option.some.inj h
      exact ⟨tag, attributes, children, .self, hlacks⟩
    · obtain ⟨child, hchild, tag, attributes, inner, hwithin, hlacks⟩ :=
        exists_hasBlankKey_of_firstBlankKey? h
      exact ⟨tag, attributes, inner, .child hchild hwithin, hlacks⟩
  | text content => cases h
  | comment => cases h
  | instruction => cases h

theorem exists_hasBlankKey_of_firstBlankKey? {nodes : List Node} {line : Nat}
    (h : firstBlankKey? nodes = some line) : ∃ node ∈ nodes, HasBlankKey node line := by
  cases nodes with
  | nil => cases h
  | cons node rest =>
    rw [firstBlankKey?] at h
    split at h
    · rename_i hnode
      obtain rfl := Option.some.inj h
      exact ⟨node, List.mem_cons_self, hasBlankKey_of_blankKey? hnode⟩
    · obtain ⟨other, hother, hblank⟩ := exists_hasBlankKey_of_firstBlankKey? h
      exact ⟨other, List.mem_cons_of_mem _ hother, hblank⟩

end

theorem firstBlankKey?_ne_none {nodes : List Node} {node : Node} (hnode : node ∈ nodes)
    (h : blankKey? node ≠ none) : firstBlankKey? nodes ≠ none := by
  induction nodes with
  | nil => cases hnode
  | cons first rest ih =>
    rw [firstBlankKey?]
    rcases List.mem_cons.mp hnode with rfl | hrest
    · split
      · exact nofun
      · exact absurd ‹_› h
    · split
      · exact nofun
      · exact ih hrest

/-- A text without a key is found wherever it stands. -/
theorem blankKey?_ne_none {root : Node} {line : Nat} (h : HasBlankKey root line) :
    blankKey? root ≠ none := by
  obtain ⟨tag, attributes, children, hwithin, hlacks⟩ := h
  induction hwithin with
  | self =>
    rw [blankKey?, if_pos hlacks]
    exact nofun
  | child hchild _ ih =>
    rw [blankKey?]
    split
    · exact nofun
    · exact firstBlankKey?_ne_none hchild ih

/-- Where a document comes from. -/
inductive Source where
  /-- A stream with the given bytes. -/
  | stream (bytes : List UInt8)
  /-- A file, as it is when it is parsed. -/
  | file (files : LinkedTree) (path : Path)

namespace Source

def bytes? : Source → Option (List UInt8)
  | stream bytes => some bytes
  | file files path => (files.read path).toOption

def parse (origin : String) : Source → Action Merging Nat
  | stream bytes => AdditionalText.parse origin bytes
  | file files path => parseFile files origin path

/-- Why a document is not merged at all: it cannot be read, it is not well-formed or not valid, or a text
without a key stands somewhere in it. -/
inductive Refused (origin : String) (source : Source) : Failure → Prop
  | unreadable {cause : String} : source.bytes? = none →
    Refused origin source (.unreadableTexts origin cause)
  | rejected {bytes : List UInt8} {refusal : Xml.Refusal} : source.bytes? = some bytes →
    (Xml.Document.read catalog bytes).root = .error refusal →
    Refused origin source (.rejectedTexts origin refusal.message)
  | blankKey {bytes : List UInt8} {root : Node} {line : Nat} : source.bytes? = some bytes →
    (Xml.Document.read catalog bytes).root = .ok root → HasBlankKey root line →
    Refused origin source (.blankTextKey origin line)

theorem parse_of_bytes? (origin : String) {source : Source} {bytes : List UInt8}
    (h : source.bytes? = some bytes) : source.parse origin = AdditionalText.parse origin bytes := by
  cases source with
  | stream own =>
    obtain rfl := Option.some.inj h
    rfl
  | file files path =>
    rw [bytes?] at h
    rw [parse, parseFile]
    cases hread : files.read path with
    | error fault =>
      rw [hread] at h
      cases h
    | ok own =>
      rw [hread] at h
      obtain rfl := Option.some.inj h
      rfl

theorem run_parse_of_unreadable (origin : String) {source : Source} (h : source.bytes? = none) :
    ∃ cause, ∀ s, (source.parse origin).run s = .error (.unreadableTexts origin cause) s := by
  cases source with
  | stream bytes => cases h
  | file files path =>
    rw [parse, parseFile]
    rw [bytes?] at h
    cases hread : files.read path with
    | error fault => exact ⟨_, fun _ => rfl⟩
    | ok bytes =>
      rw [hread] at h
      cases h

end Source

/-- The session with a new parser. -/
def renewed (s : Session Merging) : Session Merging := ⟨⟨.start, s.state.store⟩, s.events⟩

/-- A document is refused before the parser is touched, or is merged as a new parser would merge it. -/
theorem refused_or_renewed (origin : String) (source : Source) :
    (∃ failure events, source.Refused origin failure ∧
      ∀ s, (source.parse origin).run s = .error failure ⟨s.state, s.events ++ events⟩) ∨
    (∀ failure, ¬ source.Refused origin failure) ∧
      ∀ s, (source.parse origin).run s = (source.parse origin).run (renewed s) := by
  cases hbytes : source.bytes? with
  | none =>
    obtain ⟨cause, hrun⟩ := Source.run_parse_of_unreadable origin hbytes
    refine .inl ⟨.unreadableTexts origin cause, [], .unreadable hbytes, fun s => ?_⟩
    rw [hrun, List.append_nil]
  | some bytes =>
    rw [Source.parse_of_bytes? origin hbytes]
    cases hread : (Xml.Document.read catalog bytes).root with
    | error refusal =>
      refine .inl ⟨.rejectedTexts origin refusal.message, served bytes, .rejected hbytes hread,
        fun s => ?_⟩
      simp only [parse, EStateM.run_bind, run_check_eq, hread]
    | ok root =>
      cases hblank : blankKey? root with
      | some line =>
        refine .inl ⟨.blankTextKey origin line, served bytes,
          .blankKey hbytes hread (hasBlankKey_of_blankKey? hblank), fun s => ?_⟩
        simp only [parse, EStateM.run_bind, run_check_eq, hread, hblank]
      | none =>
        refine .inr ⟨fun failure hrefused => ?_, fun s => ?_⟩
        · cases hrefused with
          | unreadable hother =>
            rw [hbytes] at hother
            cases hother
          | rejected hother hrejected =>
            obtain rfl := Option.some.inj (hbytes.symm.trans hother)
            rw [hread] at hrejected
            cases hrejected
          | blankKey hother hown hline =>
            obtain rfl := Option.some.inj (hbytes.symm.trans hother)
            obtain rfl := Except.ok.inj (hread.symm.trans hown)
            exact blankKey?_ne_none hline hblank
        · -- The reader that is left by earlier documents is reset before the first element.
          simp only [parse, EStateM.run_bind, run_check hread hblank, run_onReader]
          rfl

/-- What comes of parsing a document, and the session after it. An error does not end a sequence of
documents. -/
def attempt (origin : String) (source : Source) (s : Session Merging) :
    Except Failure Nat × Session Merging :=
  match (source.parse origin).run s with
  | .ok count t => (.ok count, t)
  | .error failure t => (.error failure, t)

/-- What is seen of parsing a document: what comes of it, and the store and the events after it. -/
structure Seen where
  outcome : Except Failure Nat
  store : Store
  events : List Event

def seen (result : Except Failure Nat × Session Merging) : Seen :=
  ⟨result.1, result.2.state.store, result.2.events⟩

/-- What is seen of documents that are parsed by one parser, one after the other. -/
def attemptAll (origin : String) : List Source → Session Merging → List Seen
  | [], _ => []
  | source :: rest, s =>
    let result := attempt origin source s
    seen result :: attemptAll origin rest result.2

def attemptAllRenewed (origin : String) : List Source → Session Merging → List Seen
  | [], _ => []
  | source :: rest, s =>
    let result := attempt origin source (renewed s)
    seen result :: attemptAllRenewed origin rest result.2

theorem renewed_eq_of_seen_eq {a b : Except Failure Nat × Session Merging} (h : seen a = seen b) :
    renewed a.2 = renewed b.2 := by
  obtain ⟨_, hstore, hevents⟩ := Seen.mk.inj h
  rw [renewed, renewed, hstore, hevents]

/-- A parser that was used before and a new one do the same with the next document. -/
theorem seen_attempt_renewed (origin : String) (source : Source) (s : Session Merging) :
    seen (attempt origin source s) = seen (attempt origin source (renewed s)) := by
  unfold attempt
  obtain ⟨failure, events, _, hrun⟩ | ⟨_, hrun⟩ := refused_or_renewed origin source
  · rw [hrun, hrun]
    rfl
  · rw [hrun]

theorem attemptAll_eq_of_renewed_eq (origin : String) (sources : List Source) {s t : Session Merging}
    (h : renewed s = renewed t) : attemptAll origin sources s = attemptAllRenewed origin sources t := by
  induction sources generalizing s t with
  | nil => rfl
  | cons source rest ih =>
    have hseen : seen (attempt origin source s) = seen (attempt origin source (renewed t)) := by
      rw [seen_attempt_renewed, h]
    rw [attemptAll, attemptAllRenewed, hseen, ih (renewed_eq_of_seen_eq hseen)]

/-- Documents that are parsed one after the other by one parser, wherever it was left, come to what they
come to with a new parser for each: to the same counts and errors, and to the same store after each of
them. A document that cannot be read, is not well-formed or not valid, or has a text without a key
anywhere in it is refused for such a reason; the store, the counter and the place of the parser are then
exactly as they were. After any other document the parser is as a new one would be. -/
theorem attemptAll_eq_renewed (origin : String) (sources : List Source) (s : Session Merging) :
    attemptAll origin sources s = attemptAllRenewed origin sources s ∧
    ∀ (source : Source) (t : Session Merging),
      ((∃ failure, source.Refused origin failure) → ∃ failure, source.Refused origin failure ∧
        (attempt origin source t).1 = .error failure ∧ (attempt origin source t).2.state = t.state) ∧
      ((∀ failure, ¬ source.Refused origin failure) →
        attempt origin source t = attempt origin source (renewed t)) := by
  refine ⟨attemptAll_eq_of_renewed_eq origin sources rfl, fun source t => ?_⟩
  unfold attempt
  obtain ⟨failure, events, hrefused, hrun⟩ | ⟨haccepted, hrun⟩ := refused_or_renewed origin source
  · rw [hrun]
    exact ⟨fun _ => ⟨failure, hrefused, rfl, rfl⟩, fun hnone => absurd hrefused (hnone failure)⟩
  · rw [hrun]
    exact ⟨fun ⟨failure, hrefused⟩ => absurd hrefused (haccepted failure), fun _ => rfl⟩

end AdditionalText

end ResourceBundle
