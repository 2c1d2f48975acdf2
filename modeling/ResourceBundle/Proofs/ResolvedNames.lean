import ResourceBundle.Proofs.TaglessScans

/-! # Names without namespaces

Where a document declares no namespace, a name stands for itself, unless it has the prefix of XML. The
scopes of namespaces stay empty while such a document is read, and a prefix that they do not resolve is
reported. -/

namespace ResourceBundle.Xml

/-- How a name as written and the name with its namespace belong together where no namespace is
declared. -/
def Resolves (name expanded : Name) : Prop :=
  match splitName name with
  | (none, _) => expanded = name
  | (some before, localPart) =>
    before = xmlPrefix ∧ expanded = expandedName (some xmlNamespace) localPart

/-- Whether a start tag declares no namespace and all its names are resolved; other tokens have no
names. -/
def Token.Resolved : Token → Prop
  | .start name expanded attributes namespaces _ =>
    namespaces = [] ∧ Resolves name expanded ∧ ∀ attr ∈ attributes, Resolves attr.name attr.expanded
  | _ => True

theorem Token.resolved_of_not_isTag {token : Token} (h : ¬ token.IsTag) : token.Resolved := by
  cases token with
  | start => exact absurd trivial h
  | _ => trivial

/-- Whether no start tag among some tokens declares a namespace, and every prefix could be resolved. -/
structure NamespaceFree (tokens : List Token) : Prop where
  undeclared : ∀ {name expanded : Name} {attributes namespaces : List Attribute} {line : Nat},
    .start name expanded attributes namespaces line ∈ tokens →
    ∀ attr ∈ namespaces, declaredPrefix? attr.name = none
  bound : .report .unboundPrefix ∉ tokens

theorem NamespaceFree.mono {tokens more : List Token} (h : NamespaceFree more) (hsub : tokens ⊆ more) :
    NamespaceFree tokens :=
  ⟨fun hstart => h.undeclared (hsub hstart), fun hreport => h.bound (hsub hreport)⟩

open Scan

variable {α β : Type}

theorem Scan.Tagless.subset {x : Scan α} (hx : Tagless x) {s t : ScanState} {a : α}
    (hrun : x.run s = .ok a t) : s.tokens ⊆ t.tokens := by
  obtain ⟨new, ht, _⟩ := hx s a t hrun
  rw [ht]
  exact List.subset_append_right _ _

theorem Scan.Tagless.resolved {x : Scan α} (hx : Tagless x) {s t : ScanState} {a : α}
    (hrun : x.run s = .ok a t) (hs : ∀ token ∈ s.tokens, token.Resolved) :
    ∀ token ∈ t.tokens, token.Resolved := by
  obtain ⟨new, ht, hnew⟩ := hx s a t hrun
  rw [ht]
  exact List.forall_mem_append.mpr ⟨fun token h => Token.resolved_of_not_isTag (hnew token h), hs⟩

namespace Source

variable (source : Source) (scope : Scope)

theorem tagless_attributes (element : Name) (fuel : Nat) (read : List (Name × List Char)) :
    Tagless (source.attributes element fuel read) := by
  induction fuel generalizing read with
  | zero => exact tagless_throw _
  | succ fuel ih =>
    unfold attributes
    repeat' first
      | with_reducible refine tagless_bind ?_ fun _ => ?_
      | split
    all_goals grind

@[grind ←] theorem tagless_declare (before : Option Name) (uri : List Char) :
    Tagless (scope.declare before uri) := by
  unfold Scope.declare
  grind

theorem tagless_declareAll (read : List (Name × List Char)) : Tagless (declareAll scope read) := by
  induction read generalizing scope with
  | nil => exact tagless_pure _
  | cons attr rest ih =>
    unfold declareAll
    grind

@[grind ←] theorem tagless_resolve (name : Name) (value : List Char) :
    Tagless (resolve scope name value) := by
  unfold resolve
  grind

theorem tagless_resolveAll (attributes : List (Name × List Char)) :
    Tagless (resolveAll scope attributes) := by
  induction attributes with
  | nil => exact tagless_pure _
  | cons attr rest ih =>
    unfold resolveAll
    grind

theorem tagless_resolveElement (name : Name) : Tagless (resolveElement scope name) := by
  unfold resolveElement
  grind

theorem tagless_line : Tagless source.line := by
  unfold line
  grind

theorem tagless_characters : Tagless characters := by
  unfold characters
  grind

theorem declareAll_of_undeclared {read : List (Name × List Char)}
    (h : ∀ attr ∈ read, declaredPrefix? attr.1 = none) : declareAll scope read = pure scope := by
  induction read with
  | nil => rfl
  | cons attr rest ih =>
    obtain ⟨hattr, hrest⟩ := List.forall_mem_cons.mp h
    rw [declareAll, hattr]
    exact ih hrest

theorem find?_nil_eq_some {before : Option Name} {uri : List Char}
    (h : Scope.find? [] before = some uri) : before = some xmlPrefix ∧ uri = xmlNamespace := by
  rw [Scope.find?] at h
  split at h
  · cases h
    exact ⟨by assumption, rfl⟩
  · cases h

/-- Without declared namespaces only the prefix of XML is found. -/
theorem resolves_of_find? {name before localPart : Name} {uri : List Char}
    (hname : splitName name = (some before, localPart))
    (hfind : Scope.find? [] (some before) = some uri) :
    Resolves name (expandedName (some uri) localPart) := by
  obtain ⟨hbefore, rfl⟩ := find?_nil_eq_some hfind
  rw [Resolves, hname]
  exact ⟨Option.some.inj hbefore, rfl⟩

theorem resolves_of_run_resolve {name : Name} {value : List Char} {attr : Attribute}
    {s t : ScanState} (hrun : (resolve [] name value).run s = .ok attr t)
    (hbound : .report .unboundPrefix ∉ t.tokens) : Resolves attr.name attr.expanded := by
  rw [resolve] at hrun
  cases hname : splitName name with
  | mk before localPart =>
    simp only [hname] at hrun
    cases before with
    | none =>
      cases hrun
      rw [Resolves, hname]
    | some before =>
      cases hfind : Scope.find? [] (some before) with
      | some uri =>
        simp only [hfind] at hrun
        cases hrun
        exact resolves_of_find? hname hfind
      | none =>
        simp only [hfind] at hrun
        cases hrun
        exact absurd List.mem_cons_self hbound

theorem resolves_of_run_resolveAll {read : List (Name × List Char)} {attributes : List Attribute}
    {s t : ScanState} (hrun : (resolveAll [] read).run s = .ok attributes t)
    (hbound : .report .unboundPrefix ∉ t.tokens) :
    ∀ attr ∈ attributes, Resolves attr.name attr.expanded := by
  induction read generalizing s attributes with
  | nil =>
    cases hrun
    exact nofun
  | cons own rest ih =>
    rw [resolveAll] at hrun
    obtain ⟨attr, u, hattr, hrun⟩ := EStateM.run_bind_eq_ok_iff.mp hrun
    obtain ⟨others, v, hothers, hrun⟩ := EStateM.run_bind_eq_ok_iff.mp hrun
    cases hrun
    have hsub : u.tokens ⊆ t.tokens := (tagless_resolveAll [] rest).subset hothers
    exact List.forall_mem_cons.mpr
      ⟨resolves_of_run_resolve hattr fun h => hbound (hsub h), ih hothers⟩

theorem resolves_of_run_resolveElement {name expanded : Name} {s t : ScanState}
    (hrun : (resolveElement [] name).run s = .ok expanded t)
    (hbound : .report .unboundPrefix ∉ t.tokens) : Resolves name expanded := by
  rw [resolveElement] at hrun
  cases hname : splitName name with
  | mk before localPart =>
    simp only [hname] at hrun
    cases before with
    | none =>
      cases hrun
      rw [Resolves, hname]
      rfl
    | some before =>
      cases hfind : Scope.find? [] (some before) with
      | some uri =>
        simp only [hfind] at hrun
        cases hrun
        exact resolves_of_find? hname hfind
      | none =>
        simp only [hfind] at hrun
        cases hrun
        exact absurd List.mem_cons_self hbound

/-! ### Start tags -/

/-- Reads a start tag up to its end; gives the token, the name of the element and the scope inside it. -/
def opening (source : Source) (scope : Scope) : Scan (Token × Name × Scope) := do
  let element ← Scan.name .malformedTag
  Scan.reportIf (!isQName element) .malformedQName
  let read ← attributes source element ((← Scan.rest).length + 1) []
  let supplied := defaults source element read
  let bound := supplied.filterMap fun (name, value) =>
    (declaredPrefix? name).map fun before => (before, value)
  let inner := bound ++ (← declareAll scope read)
  let all := read ++ supplied
  let namespaces := all.filter fun attr => (declaredPrefix? attr.1).isSome
  let plain ← resolveAll inner (all.filter fun attr => (declaredPrefix? attr.1).isNone)
  Scan.reportIf (!decide (plain.map (·.expanded)).Nodup) .invalidNamespace
  let expanded ← resolveElement inner element
  let line ← source.line
  return (.start element expanded plain (namespaces.map fun (name, value) => ⟨name, name, value⟩) line,
    element, inner)

theorem startTag_eq : startTag source scope = (do
    let (token, element, inner) ← opening source scope
    Scan.emit token
    if ← Scan.accept ['/', '>'] then
      Scan.emit .stop
      return none
    else
      Scan.expect ['>'] .malformedTag
      return some (element, inner)) := by
  simp only [startTag, opening, bind_assoc, pure_bind]

theorem tagless_opening : Tagless (opening source scope) := by
  unfold opening
  refine tagless_bind (tagless_name _) fun element => ?_
  refine tagless_bind (tagless_reportIf _ _) fun _ => tagless_bind tagless_rest fun cs => ?_
  refine tagless_bind (tagless_attributes source _ _ _) fun read => ?_
  refine tagless_bind (tagless_declareAll _ _) fun declared => ?_
  refine tagless_bind (tagless_resolveAll _ _) fun plain => tagless_bind (tagless_reportIf _ _) fun _ => ?_
  refine tagless_bind (tagless_resolveElement _ _) fun expanded => ?_
  exact tagless_bind (tagless_line source) fun line => tagless_pure _

/-- If the tokens with the new start tag are free of namespaces, its names are resolved, and no namespace
comes into scope. -/
theorem resolved_of_run_opening {token : Token} {element : Name} {inner : Scope} {s t : ScanState}
    (hrun : (opening source []).run s = .ok (token, element, inner) t)
    (hfree : NamespaceFree (token :: t.tokens)) : token.Resolved ∧ inner = [] := by
  unfold opening at hrun
  obtain ⟨_, _, _, hrun⟩ := EStateM.run_bind_eq_ok_iff.mp hrun
  obtain ⟨_, _, _, hrun⟩ := EStateM.run_bind_eq_ok_iff.mp hrun
  obtain ⟨_, _, _, hrun⟩ := EStateM.run_bind_eq_ok_iff.mp hrun
  obtain ⟨read, _, _, hrun⟩ := EStateM.run_bind_eq_ok_iff.mp hrun
  obtain ⟨declared, _, hdeclared, hrun⟩ := EStateM.run_bind_eq_ok_iff.mp hrun
  obtain ⟨plain, s₁, hplain, hrun⟩ := EStateM.run_bind_eq_ok_iff.mp hrun
  obtain ⟨_, s₂, hreport, hrun⟩ := EStateM.run_bind_eq_ok_iff.mp hrun
  obtain ⟨expanded, s₃, hexpanded, hrun⟩ := EStateM.run_bind_eq_ok_iff.mp hrun
  obtain ⟨line, s₄, hline, hrun⟩ := EStateM.run_bind_eq_ok_iff.mp hrun
  cases hrun
  generalize source.defaults element read = supplied at hplain hexpanded hfree ⊢
  -- An attribute that declares a namespace would be among those of the tag.
  have hundeclared : ∀ attr ∈ read ++ supplied, declaredPrefix? attr.1 = none := by
    intro attr hattr
    cases hdeclares : declaredPrefix? attr.1 with
    | none => rfl
    | some before =>
      have hmem : attr ∈ (read ++ supplied).filter fun attr => (declaredPrefix? attr.1).isSome :=
        List.mem_filter.mpr ⟨hattr, Option.isSome_iff_exists.mpr ⟨before, hdeclares⟩⟩
      have hnone := hfree.undeclared List.mem_cons_self _ (List.mem_map_of_mem hmem)
      exact absurd (hdeclares.symm.trans hnone) nofun
  obtain ⟨hread, hsupplied⟩ := List.forall_mem_append.mp hundeclared
  have hnamespaces : (read ++ supplied).filter (fun attr => (declaredPrefix? attr.1).isSome) = [] := by
    refine List.filter_eq_nil_iff.mpr fun attr hattr => ?_
    rw [hundeclared attr hattr]
    exact nofun
  have hnone : supplied.filterMap (fun (name, value) =>
      (declaredPrefix? name).map fun before => (before, value)) = [] := by
    refine List.filterMap_eq_nil_iff.mpr fun (name, value) hattr => ?_
    exact congrArg (Option.map fun before => (before, value)) (hsupplied (name, value) hattr)
  rw [declareAll_of_undeclared _ hread] at hdeclared
  cases hdeclared
  rw [hnone] at hplain hexpanded ⊢
  have hbound : .report .unboundPrefix ∉ t.tokens := fun h => hfree.bound (List.mem_cons_of_mem _ h)
  have hsub₃ : s₃.tokens ⊆ t.tokens := (tagless_line source).subset hline
  have hsub₁ : s₁.tokens ⊆ t.tokens := List.Subset.trans ((tagless_reportIf _ _).subset hreport)
    (List.Subset.trans ((tagless_resolveElement _ _).subset hexpanded) hsub₃)
  rw [hnamespaces]
  exact ⟨⟨rfl, resolves_of_run_resolveElement hexpanded fun h => hbound (hsub₃ h),
    resolves_of_run_resolveAll hplain fun h => hbound (hsub₁ h)⟩, rfl⟩

end Source

/-! ### Content -/

/-- What a scan keeps: no token is lost, and if the tokens stay free of namespaces and `pre` holds, then
names stay resolved and the result satisfies `post`. -/
def Scan.Keeps (pre : Prop) (x : Scan α) (post : α → Prop) : Prop :=
  ∀ s a t, x.run s = .ok a t → s.tokens ⊆ t.tokens ∧
    (NamespaceFree t.tokens → pre → (∀ token ∈ s.tokens, token.Resolved) →
      (∀ token ∈ t.tokens, token.Resolved) ∧ post a)

namespace Scan.Keeps

variable {pre : Prop} {x : Scan α} {f : α → Scan β} {mid : α → Prop} {post : β → Prop}

theorem of_tagless (h : Tagless x) : Keeps pre x fun _ => True :=
  fun _ _ _ hrun => ⟨h.subset hrun, fun _ _ hs => ⟨h.resolved hrun hs, trivial⟩⟩

theorem pure {a : α} (h : pre → mid a) : Keeps pre (Pure.pure a) mid := by
  intro s b t hrun
  cases hrun
  exact ⟨List.Subset.refl _, fun _ hpre hs => ⟨hs, h hpre⟩⟩

theorem bind (hx : Keeps pre x mid) (hf : ∀ a, Keeps (pre ∧ mid a) (f a) post) :
    Keeps pre (x >>= f) post := by
  intro s b t hrun
  obtain ⟨a, u, hx', hf'⟩ := EStateM.run_bind_eq_ok_iff.mp hrun
  obtain ⟨hsub, hkeep⟩ := hx s a u hx'
  obtain ⟨hsub', hkeep'⟩ := hf a u b t hf'
  refine ⟨List.Subset.trans hsub hsub', fun hfree hpre hs => ?_⟩
  obtain ⟨hu, hmid⟩ := hkeep (hfree.mono hsub') hpre hs
  exact hkeep' hfree ⟨hpre, hmid⟩ hu

theorem weaken {pre' : Prop} (h : Keeps pre x mid) (hpre : pre' → pre) : Keeps pre' x mid :=
  fun s a t hrun => ⟨(h s a t hrun).1, fun hfree hpre' => (h s a t hrun).2 hfree (hpre hpre')⟩

theorem seq (hx : Tagless x) (hf : ∀ a, Keeps pre (f a) post) : Keeps pre (x >>= f) post :=
  (of_tagless hx).bind fun a => (hf a).weaken And.left

theorem guard {condition : Prop} [Decidable condition] {fault : Fault} {next : PUnit → Scan β}
    (h : Keeps pre (next ()) post) :
    Keeps pre (if condition then throw fault >>= next else next ()) post := by
  split
  · exact .seq (tagless_throw _) fun _ => h
  · exact h

end Scan.Keeps

theorem Scan.keeps_emit {token : Token} : Keeps token.Resolved (emit token) fun _ => True := by
  intro s _ t hrun
  cases hrun
  obtain ⟨texts, hflushed, htexts⟩ := flushed_eq s
  have ht : token :: flushed s = token :: texts ++ s.tokens := congrArg (token :: ·) hflushed
  simp only [ht]
  refine ⟨List.subset_append_right _ _, fun _ htoken hs => ⟨?_, trivial⟩⟩
  refine List.forall_mem_append.mpr ⟨List.forall_mem_cons.mpr ⟨htoken, ?_⟩, hs⟩
  intro text htext
  obtain ⟨content, rfl⟩ := htexts text htext
  trivial

namespace Source

variable (source : Source)

theorem keeps_startTag (scope : Scope) : Keeps (scope = []) (startTag source scope)
    fun result => ∀ element ∈ result, element.2 = [] := by
  rw [startTag_eq]
  intro s result t hrun
  obtain ⟨⟨token, element, inner⟩, u, hopening, hrun⟩ := EStateM.run_bind_eq_ok_iff.mp hrun
  obtain ⟨_, v, hemit, hrun⟩ := EStateM.run_bind_eq_ok_iff.mp hrun
  have hend : Keeps (inner = []) (do
      if ← Scan.accept ['/', '>'] then
        Scan.emit .stop
        return none
      else
        Scan.expect ['>'] .malformedTag
        return some (element, inner)) fun result => ∀ element ∈ result, element.2 = [] := by
    refine .seq (tagless_accept _) fun closed => ?_
    split
    · refine .bind (keeps_emit.weaken fun _ => trivial) fun _ => .pure fun _ => nofun
    · refine .seq (tagless_expect _ _) fun _ => .pure fun hinner element helement => ?_
      cases helement
      exact hinner
  obtain ⟨hsub, hkeep⟩ := hend v result t hrun
  obtain ⟨hsub', hkeep'⟩ := keeps_emit u _ v hemit
  have hstart : s.tokens ⊆ u.tokens := (tagless_opening source scope).subset hopening
  refine ⟨List.Subset.trans hstart (List.Subset.trans hsub' hsub), ?_⟩
  rintro hfree rfl hs
  have hmem : token :: u.tokens ⊆ v.tokens := by
    refine List.cons_subset.mpr ⟨?_, hsub'⟩
    cases hemit
    exact List.mem_cons_self
  obtain ⟨htoken, hinner⟩ := resolved_of_run_opening source hopening
    (hfree.mono (List.Subset.trans hmem hsub))
  exact hkeep hfree hinner
    (hkeep' (hfree.mono hsub) htoken ((tagless_opening source []).resolved hopening hs)).1

theorem scope_eq_nil (outer : Scope) (opened : List (Name × Scope))
    (h : outer = [] ∧ ∀ element ∈ opened, element.2 = []) :
    (opened.head?.map (·.2)).getD outer = [] := by
  cases opened with
  | nil => exact h.1
  | cons element opened => exact h.2 element List.mem_cons_self

theorem keeps_reference (ctx : Context) {pre : Prop} {expand : List Char → Scan Unit}
    (hexpand : ∀ text, Keeps pre (expand text) fun _ => True) :
    Keeps pre (reference ctx expand) fun _ => True := by
  unfold reference
  refine .seq tagless_rest fun cs => ?_
  split
  · exact .of_tagless (by grind)
  · split
    · exact .of_tagless (tagless_throw _)
    · refine .seq (tagless_setRest _) fun _ => ?_
      split
      · exact .of_tagless (tagless_addText _)
      · split
        · exact .seq (ctx.tagless_charge _) fun _ => hexpand _
        · exact .of_tagless (tagless_throw _)
        · exact .of_tagless ctx.tagless_undeclared

/-- Where no scope holds a namespace, content keeps its names resolved, if the texts of entities do. -/
theorem keeps_contentLoop {expand : (depth : Nat) → Scope → List Char → Scan Unit}
    (hexpand : ∀ depth scope text, Keeps (scope = []) (expand depth scope text) fun _ => True)
    (inEntity : Bool) (depth : Nat) (outer : Scope) (fuel : Nat) (opened : List (Name × Scope)) :
    Keeps (outer = [] ∧ ∀ element ∈ opened, element.2 = [])
      (contentLoop source expand inEntity depth outer fuel opened) fun _ => True := by
  induction fuel generalizing opened with
  | zero => 
    unfold contentLoop
    exact .of_tagless (by grind)
  | succ fuel ih =>
    unfold contentLoop
    refine .seq tagless_rest fun cs => ?_
    split
    · exact .of_tagless (by grind)
    · split
      · exact .of_tagless (tagless_throw _)
      · rename_i name scope opened
        refine .seq (tagless_setRest _) fun _ => .seq (tagless_name _) fun closing => ?_
        refine .guard (.seq tagless_space fun _ => .seq (tagless_expect _ _) fun _ => ?_)
        refine .bind (keeps_emit.weaken fun _ => trivial) fun _ => ?_
        split
        · exact .pure fun _ => trivial
        · exact (ih opened).weaken fun ⟨⟨houter, hopened⟩, _⟩ =>
            ⟨houter, (List.forall_mem_cons.mp hopened).2⟩
    · refine .seq (tagless_setRest _) fun _ => .seq tagless_comment fun _ => ih opened
    · refine .seq (tagless_setRest _) fun _ => .seq (tagless_expect _ _) fun _ => ?_
      refine .seq (tagless_upTo _ _) fun _ => .seq (tagless_addText _) fun _ => ih opened
    · exact .seq (tagless_setRest _) fun _ => .seq tagless_instruction fun _ => ih opened
    · refine .guard (.seq (tagless_setRest _) fun _ => ?_)
      refine .bind ((source.keeps_startTag _).weaken (scope_eq_nil outer opened)) fun element => ?_
      split
      · rename_i element
        exact (ih (element :: opened)).weaken fun ⟨⟨houter, hopened⟩, helement⟩ =>
          ⟨houter, List.forall_mem_cons.mpr ⟨helement element rfl, hopened⟩⟩
      · exact (ih opened).weaken And.left
    · refine .seq (tagless_setRest _) fun _ => ?_
      exact .bind ((keeps_reference source.context (hexpand _ _)).weaken (scope_eq_nil outer opened))
        fun _ => (ih opened).weaken And.left
    · exact .seq tagless_characters fun _ => ih opened

theorem keeps_entityContent (ctx : Context) (nesting depth : Nat) (scope : Scope) (text : List Char) :
    Keeps (scope = []) (entityContent ctx nesting depth scope text) fun _ => True := by
  induction nesting generalizing depth scope text with
  | zero => exact .of_tagless (tagless_throw _)
  | succ nesting ih =>
    unfold entityContent onText
    refine .seq tagless_rest fun before => .seq (tagless_setRest _) fun _ => ?_
    have hcontent := keeps_contentLoop ⟨ctx, text.count '\n'⟩ ih true depth scope (text.length + 1) []
    refine .bind (hcontent.weaken fun hscope => ⟨hscope, nofun⟩) fun _ => ?_
    exact .seq (tagless_setRest _) fun _ => .pure fun _ => trivial

theorem keeps_root : Keeps True source.root fun _ => True := by
  unfold root
  refine .bind ((source.keeps_startTag []).weaken fun _ => rfl) fun element => ?_
  split
  · exact .pure fun _ => trivial
  · rename_i element
    refine .seq tagless_rest fun cs => ?_
    exact (source.keeps_contentLoop (keeps_entityContent source.context _) false 0 [] _ [element]).weaken
      fun ⟨_, helement⟩ => ⟨rfl, List.forall_mem_singleton.mpr (helement element rfl)⟩

end Source

theorem Document.keeps_scan (catalog : Catalog) (standalone : Bool) (lineFeeds size : Nat) :
    Keeps True (scan catalog standalone lineFeeds size) fun _ => True := by
  have hend : ∀ (doctype : Option Doctype) (context : Context), Keeps True (do
      Scan.expect ['<'] .emptyDocument
      Source.root ⟨context, lineFeeds⟩
      misc (size + 1)
      if (← Scan.rest) != [] then throw .contentOutsideRoot
      return doctype) fun _ => True := by
    intro doctype context
    refine .seq (tagless_expect _ _) fun _ => .bind (Source.keeps_root _) fun _ => ?_
    refine .seq (tagless_misc _) fun _ => .seq tagless_rest fun cs => ?_
    exact .guard (.pure fun _ => trivial)
  unfold scan
  refine .seq (tagless_misc _) fun _ => .seq (tagless_accept _) fun declared => ?_
  dsimp only
  split
  · refine .seq (Doctype.tagless_read _) fun doctype => .guard (.seq (tagless_misc _) fun _ => ?_)
    exact .seq (tagless_pure _) fun _ => hend _ _
  · exact .seq (tagless_pure _) fun _ => hend _ _

end ResourceBundle.Xml
