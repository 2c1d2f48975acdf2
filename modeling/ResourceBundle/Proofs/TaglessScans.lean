import ResourceBundle.Proofs.ActionRuns
import ResourceBundle.Xml.Document

/-! # Scans that bring no tags

Everything before the document element is read without a tag being added to the tokens. A scan brings no
tags if its parts bring none, so this follows from the few primitives along the definitions. -/

namespace ResourceBundle.Xml

/-- Whether a token is a tag. -/
def Token.IsTag : Token → Prop
  | .start .. | .stop => True
  | _ => False

namespace Scan

variable {α β : Type}

/-- Whether a scan that succeeds adds no tags. -/
def Tagless (x : Scan α) : Prop :=
  ∀ s a t, x.run s = .ok a t → ∃ new, t.tokens = new ++ s.tokens ∧ ∀ token ∈ new, ¬ token.IsTag

theorem tagless_of_tokens_eq {x : Scan α} (h : ∀ s a t, x.run s = .ok a t → t.tokens = s.tokens) :
    Tagless x :=
  fun s a t hrun => ⟨[], h s a t hrun, nofun⟩

@[grind ←] theorem tagless_pure (a : α) : Tagless (pure a) :=
  tagless_of_tokens_eq fun _ _ _ h => by cases h; rfl

@[grind ←] theorem tagless_throw (fault : Fault) : Tagless (throw fault : Scan α) := nofun

@[grind ←] theorem tagless_bind {x : Scan α} {f : α → Scan β} (hx : Tagless x)
    (hf : ∀ a, Tagless (f a)) : Tagless (x >>= f) := by
  intro s b t h
  obtain ⟨a, u, hrun, hnext⟩ := EStateM.run_bind_eq_ok_iff.mp h
  obtain ⟨new, hu, hnew⟩ := hx s a u hrun
  obtain ⟨more, ht, hmore⟩ := hf a u b t hnext
  exact ⟨more ++ new, by rw [ht, hu, List.append_assoc], List.forall_mem_append.mpr ⟨hmore, hnew⟩⟩

theorem tagless_foldlM {f : β → α → Scan β} (h : ∀ b a, Tagless (f b a)) (as : List α) (b : β) :
    Tagless (as.foldlM f b) := by
  induction as generalizing b with
  | nil => exact tagless_pure b
  | cons a as ih => exact tagless_bind (h b a) ih

theorem tagless_forM {f : α → Scan Unit} (h : ∀ a, Tagless (f a)) (as : List α) :
    Tagless (as.forM f) := by
  induction as with
  | nil => exact tagless_pure ()
  | cons a as ih => exact tagless_bind (h a) fun _ => ih

@[grind ←] theorem tagless_get : Tagless get := tagless_of_tokens_eq fun _ _ _ h => by cases h; rfl

@[grind ←] theorem tagless_modify {f : ScanState → ScanState} (h : ∀ s, (f s).tokens = s.tokens) :
    Tagless (modify f) :=
  tagless_of_tokens_eq fun s _ _ hrun => by cases hrun; exact h s

/-- The tokens after pending text was made a token. -/
theorem flushed_eq (s : ScanState) :
    ∃ texts, flushed s = texts ++ s.tokens ∧ ∀ token ∈ texts, ∃ content, token = .text content := by
  rw [flushed]
  split
  · exact ⟨[], rfl, nofun⟩
  · exact ⟨[.text s.pending.reverse], rfl, fun token h => ⟨_, List.mem_singleton.mp h⟩⟩

theorem tagless_emit {token : Token} (h : ¬ token.IsTag) : Tagless (emit token) := by
  intro s _ t hrun
  cases hrun
  obtain ⟨texts, hflushed, htexts⟩ := flushed_eq s
  refine ⟨token :: texts, congrArg (token :: ·) hflushed, List.forall_mem_cons.mpr ⟨h, ?_⟩⟩
  intro text htext
  obtain ⟨content, rfl⟩ := htexts text htext
  exact nofun

@[grind ←] theorem tagless_emit_comment : Tagless (emit .comment) := tagless_emit nofun

@[grind ←] theorem tagless_emit_instruction : Tagless (emit .instruction) := tagless_emit nofun

@[grind ←] theorem tagless_report (r : Report) : Tagless (report r) := tagless_emit nofun

@[grind ←] theorem tagless_rest : Tagless rest := by
  unfold rest
  grind

@[grind ←] theorem tagless_setRest (cs : List Char) : Tagless (setRest cs) := tagless_modify fun _ => rfl

@[grind ←] theorem tagless_addText (cs : List Char) : Tagless (addText cs) := tagless_modify fun _ => rfl

@[grind ←] theorem tagless_serve (systemId : List Char) : Tagless (serve systemId) :=
  tagless_modify fun _ => rfl

@[grind ←] theorem tagless_reportIf (condition : Bool) (r : Report) :
    Tagless (reportIf condition r) := by
  unfold reportIf
  grind

@[grind ←] theorem tagless_space : Tagless space := by
  unfold space
  grind

@[grind ←] theorem tagless_someSpace (fault : Fault) : Tagless (someSpace fault) := by
  unfold someSpace
  grind

@[grind ←] theorem tagless_accept (word : List Char) : Tagless (accept word) := by
  unfold accept
  grind

@[grind ←] theorem tagless_expect (word : List Char) (fault : Fault) : Tagless (expect word fault) := by
  unfold expect
  grind

@[grind ←] theorem tagless_name (fault : Fault) : Tagless (name fault) := by
  unfold name
  grind

@[grind ←] theorem tagless_token (fault : Fault) : Tagless (token fault) := by
  unfold token
  grind

@[grind ←] theorem tagless_literal (fault : Fault) : Tagless (literal fault) := by
  unfold literal
  grind

@[grind ←] theorem tagless_upTo (word : List Char) (fault : Fault) : Tagless (upTo word fault) := by
  unfold upTo
  grind

@[grind ←] theorem tagless_comment : Tagless comment := by
  unfold comment
  grind

@[grind ←] theorem tagless_instruction : Tagless instruction := by
  unfold instruction
  grind

@[grind ←] theorem tagless_onText (text : List Char) {x : Scan α} (h : Tagless x) :
    Tagless (onText text x) := by
  unfold onText
  grind

end Scan

open Scan

namespace Context

variable (ctx : Context)

@[grind ←] theorem tagless_charge (text : List Char) : Tagless (ctx.charge text) := by
  unfold charge
  refine tagless_bind (tagless_modify fun _ => rfl) fun _ => ?_
  grind

@[grind ←] theorem tagless_undeclared : Tagless ctx.undeclared := by
  unfold undeclared
  grind

theorem tagless_valueLoop {expand : (read text : List Char) → Scan (List Char)}
    (hexpand : ∀ read text, Tagless (expand read text)) (fuel : Nat) (read cs : List Char) :
    Tagless (ctx.valueLoop expand fuel read cs) := by
  induction fuel generalizing read cs with
  | zero => exact tagless_pure _
  | succ fuel ih =>
    unfold valueLoop
    split
    all_goals grind

theorem tagless_valueFrom (depth : Nat) (read cs : List Char) : Tagless (ctx.valueFrom depth read cs) := by
  induction depth generalizing read cs with
  | zero => exact tagless_throw _
  | succ depth ih => exact ctx.tagless_valueLoop ih _ read cs

@[grind ←] theorem tagless_value (literal : List Char) : Tagless (ctx.value literal) := by
  unfold value
  have := ctx.tagless_valueFrom entityDepth [] (normalizeLines literal)
  grind

end Context

namespace Subset

variable (subset : Subset) (place : Place)

theorem tagless_spaceUpTo (fuel : Nat) : Tagless (spaceUpTo subset place fuel) := by
  induction fuel with
  | zero => exact tagless_throw _
  | succ fuel ih =>
    unfold spaceUpTo
    repeat' first
      | with_reducible refine tagless_bind ?_ fun _ => ?_
      | split
    all_goals grind

@[grind ←] theorem tagless_space : Tagless (space subset place) := tagless_spaceUpTo subset place 40

@[grind ←] theorem tagless_someSpace (fault : Fault) : Tagless (someSpace subset place fault) := by
  unfold someSpace
  grind

@[grind ←] theorem tagless_repeated (model : Model Name) : Tagless (repeated model) := by
  unfold repeated
  grind

theorem tagless_model (fuel : Nat) :
    Tagless (particle subset place fuel) ∧ Tagless (group subset place fuel) ∧
      Tagless (sequenceRest subset place fuel) ∧ Tagless (choiceRest subset place fuel) := by
  induction fuel with
  | zero => exact ⟨tagless_throw _, tagless_throw _, tagless_throw _, tagless_throw _⟩
  | succ fuel ih =>
    obtain ⟨hparticle, hgroup, hsequence, hchoice⟩ := ih
    refine ⟨?_, ?_, ?_, ?_⟩
    · unfold particle
      grind
    · unfold group
      grind
    · unfold sequenceRest
      grind
    · unfold choiceRest
      grind

@[grind ←] theorem tagless_group (fuel : Nat) : Tagless (group subset place fuel) :=
  (tagless_model subset place fuel).2.1

@[grind ←] theorem tagless_mixedNames (fuel : Nat) (names : List Name) :
    Tagless (mixedNames subset place fuel names) := by
  induction fuel generalizing names with
  | zero => exact tagless_throw _
  | succ fuel ih =>
    unfold mixedNames
    grind

@[grind ←] theorem tagless_content : Tagless (content subset place) := by
  unfold content
  grind

@[grind ←] theorem tagless_addElement (decl : ElementDecl) : Tagless (addElement subset decl) := by
  unfold addElement
  grind

@[grind ←] theorem tagless_elementDecl : Tagless (elementDecl subset place) := by
  unfold elementDecl
  grind

@[grind ←] theorem tagless_tokenList {token : Scan Name} (htoken : Tagless token) (fuel : Nat)
    (tokens : List Name) : Tagless (tokenList subset place token fuel tokens) := by
  induction fuel generalizing tokens with
  | zero => exact tagless_throw _
  | succ fuel ih =>
    unfold tokenList
    grind

@[grind ←] theorem tagless_attributeType : Tagless (attributeType subset place) := by
  unfold attributeType
  grind

@[grind ←] theorem tagless_attributeDefault (type : AttributeType) :
    Tagless (attributeDefault subset place type) := by
  unfold attributeDefault
  grind

@[grind ←] theorem tagless_addAttribute (decl : AttributeDecl) : Tagless (addAttribute subset decl) := by
  unfold addAttribute
  grind

@[grind ←] theorem tagless_attributeDecls (element : Name) (fuel : Nat) :
    Tagless (attributeDecls place element fuel subset) := by
  induction fuel generalizing subset with
  | zero => exact tagless_throw _
  | succ fuel ih =>
    unfold attributeDecls
    repeat' first
      | with_reducible refine tagless_bind ?_ fun _ => ?_
      | split
    all_goals grind

@[grind ←] theorem tagless_attributeDecl : Tagless (attributeDecl subset place) := by
  unfold attributeDecl
  grind

@[grind ←] theorem tagless_externalId? (strict : Bool) (fault : Fault) :
    Tagless (externalId? subset place strict fault) := by
  unfold externalId?
  repeat' first
    | with_reducible refine tagless_bind ?_ fun _ => ?_
    | split
  all_goals grind

theorem tagless_replacementLoop {expand : Name → Scan (List Char)}
    (hexpand : ∀ name, Tagless (expand name)) (fuel : Nat) (read cs : List Char) :
    Tagless (replacementLoop expand fuel read cs) := by
  induction fuel generalizing read cs with
  | zero => exact tagless_pure _
  | succ fuel ih =>
    unfold replacementLoop
    split
    all_goals grind

theorem tagless_parameterText (name : Name) : Tagless (parameterText subset place name) := by
  unfold parameterText
  grind

@[grind ←] theorem tagless_replacement (literal : List Char) :
    Tagless (replacement subset place literal) :=
  tagless_replacementLoop (tagless_parameterText subset place) _ _ _

@[grind ←] theorem tagless_addEntity (name : Name) (entity : Entity) :
    Tagless (addEntity subset name entity) := by
  unfold addEntity
  grind

@[grind ←] theorem tagless_atLiteral : Tagless atLiteral := by
  unfold atLiteral
  grind

@[grind ←] theorem tagless_entitySystemId : Tagless (entitySystemId subset place) := by
  unfold entitySystemId
  grind

@[grind ←] theorem tagless_entityDecl : Tagless (entityDecl subset place) := by
  unfold entityDecl
  repeat' first
    | with_reducible refine tagless_bind ?_ fun _ => ?_
    | split
  all_goals grind

@[grind ←] theorem tagless_notationDecl : Tagless (notationDecl subset place) := by
  unfold notationDecl
  repeat' first
    | with_reducible refine tagless_bind ?_ fun _ => ?_
    | split
  all_goals grind

@[grind ←] theorem tagless_addGrammar (grammar : Grammar) : Tagless (addGrammar subset grammar) :=
  tagless_bind (tagless_foldlM (fun subset _ => tagless_addElement subset _) _ _)
    fun subset => tagless_foldlM tagless_addAttribute _ subset

@[grind ←] theorem tagless_markup? : Tagless (markup? subset place) := by
  unfold markup?
  grind

theorem tagless_declarationLoop {expand : Subset → List Char → Scan Subset}
    (hexpand : ∀ subset text, Tagless (expand subset text)) (fuel : Nat) :
    Tagless (declarationLoop place expand fuel subset) := by
  induction fuel generalizing subset with
  | zero => exact tagless_pure _
  | succ fuel ih =>
    unfold declarationLoop
    repeat' first
      | with_reducible refine tagless_bind ?_ fun _ => ?_
      | split
    all_goals grind

@[grind ←] theorem tagless_declarations (depth : Nat) : Tagless (declarations place depth subset) := by
  induction depth generalizing place subset with
  | zero => exact tagless_throw _
  | succ depth ih =>
    unfold declarations
    refine tagless_bind tagless_rest fun _ => tagless_declarationLoop _ _ (fun subset text => ?_) _
    grind

end Subset

namespace Doctype

@[grind ←] theorem tagless_withExternal (grammar external : Grammar) :
    Tagless (withExternal grammar external) := by
  refine tagless_bind (tagless_forM (fun decl => tagless_reportIf _ _) external.elements) fun _ => ?_
  exact tagless_pure _

theorem tagless_read (place : Place) : Tagless (read place) := by
  unfold read
  repeat' first
    | with_reducible refine tagless_bind ?_ fun _ => ?_
    | split
  all_goals grind

end Doctype

theorem Document.tagless_misc (fuel : Nat) : Tagless (misc fuel) := by
  induction fuel with
  | zero => exact tagless_pure _
  | succ fuel ih =>
    unfold misc
    grind

end ResourceBundle.Xml
