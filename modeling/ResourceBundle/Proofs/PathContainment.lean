import Mathlib.Data.Fintype.EquivFin
import ResourceBundle.Bundle
import ResourceBundle.Path

/-! # Paths that stay inside

A relative path stays inside if it never leads above the place it starts from and ends below it. Exactly
such a path leads below every folder it is joined to. The path of a bundle stays inside unless its base
name begins with a dot or a slash, or its locale has two dots between slashes. -/

namespace ResourceBundle

def Location.Below (folder place : Location) : Prop := ∃ names, names ≠ [] ∧ place = folder ++ names

theorem Location.Below.length_lt {folder place : Location} (h : Location.Below folder place) :
    folder.length < place.length := by
  obtain ⟨names, hne, rfl⟩ := h
  have hpos := List.length_pos_of_ne_nil hne
  rw [List.length_append]
  omega

theorem Location.not_below_self (place : Location) : ¬ Location.Below place place :=
  fun h => lt_irrefl _ h.length_lt

namespace Path

/-- The depth to which names lead from some depth below a place; none if they lead above the place. -/
def depth? : Nat → List String → Option Nat
  | depth, [] => some depth
  | depth, name :: rest =>
    if name = ".." then
      match depth with
      | 0 => none
      | above + 1 => depth? above rest
    else depth? (depth + 1) rest

/-- Whether a path is relative, never leads above its start, and ends below it. -/
structure IsInner (path : Path) : Prop where
  anchor : path.anchor = .here
  depth : ∃ depth, depth? 0 path.names = some (depth + 1)

/-- Names that never lead above a place lead to one below it, or to itself. -/
theorem descend_of_depth? {names : List String} (inner : Location) {depth : Nat}
    (h : depth? inner.length names = some depth) :
    ∃ last, last.length = depth ∧ ∀ base, descend (base ++ inner) names = base ++ last := by
  induction names generalizing inner with
  | nil => exact ⟨inner, Option.some.inj h, fun _ => rfl⟩
  | cons name names ih =>
    rw [depth?.eq_def] at h
    by_cases hname : name = ".."
    · simp only [hname, if_true] at h
      cases hinner : inner.length with
      | zero => simp [hinner] at h
      | succ above =>
        simp only [hinner] at h
        have hne : inner ≠ [] := List.ne_nil_of_length_eq_add_one hinner
        have hlength : inner.dropLast.length = above := by rw [List.length_dropLast, hinner]; rfl
        obtain ⟨last, hlast, hdescend⟩ := ih inner.dropLast (hlength ▸ h)
        refine ⟨last, hlast, fun base => ?_⟩
        rw [descend, if_pos hname, List.dropLast_append_of_ne_nil hne, hdescend base]
    · simp only [hname, if_false] at h
      have hlength : (inner ++ [name]).length = inner.length + 1 := List.length_append
      obtain ⟨last, hlast, hdescend⟩ := ih (inner ++ [name]) (hlength ▸ h)
      refine ⟨last, hlast, fun base => ?_⟩
      rw [descend, if_neg hname, List.append_assoc, hdescend base]

/-- Every name of the place where names lead to was there before, or is one of them. -/
theorem mem_descend {names : List String} {place : Location} {name : String}
    (h : name ∈ descend place names) : name ∈ place ∨ name ∈ names := by
  induction names generalizing place with
  | nil => exact .inl h
  | cons first names ih =>
    rw [descend] at h
    split at h
    · exact (ih h).imp List.mem_of_mem_dropLast (List.mem_cons_of_mem _)
    · rcases ih h with hplace | hnames
      · rcases List.mem_append.mp hplace with hbefore | hlast
        · exact .inl hbefore
        · exact .inr (List.mem_singleton.mp hlast ▸ List.mem_cons_self)
      · exact .inr (List.mem_cons_of_mem _ hnames)

/-- Names that lead above a place below the root by one name leave that name behind. -/
theorem mem_names_of_depth?_eq_none {names : List String} {root : String} (inner : Location)
    (h : depth? inner.length names = none) {name : String}
    (hname : name ∈ descend (root :: inner) names) : name ∈ names := by
  induction names generalizing inner with
  | nil => cases h
  | cons first names ih =>
    rw [depth?.eq_def] at h
    rw [descend] at hname
    by_cases hfirst : first = ".."
    · simp only [hfirst, if_true] at h hname
      cases inner with
      | nil =>
        rcases mem_descend hname with hroot | hmem
        · cases hroot
        · exact List.mem_cons_of_mem _ hmem
      | cons second inner =>
        have hlength : (second :: inner).dropLast.length = inner.length := by
          rw [List.length_dropLast]; rfl
        exact List.mem_cons_of_mem _ (ih (second :: inner).dropLast (hlength ▸ h) hname)
    · simp only [hfirst, if_false] at h hname
      have hlength : (inner ++ [first]).length = inner.length + 1 := List.length_append
      exact List.mem_cons_of_mem _ (ih (inner ++ [first]) (hlength ▸ h) hname)

theorem location_join_of_here {path : Path} (h : path.anchor = .here) (folder : Path)
    (directory : Location) : (folder.join path).location directory =
      descend (folder.location directory) path.names := by
  simp only [join, h, location, descend_append]
  rfl

theorem location_join_of_ne_here {path : Path} (h : path.anchor ≠ .here) (folder : Path)
    (directory : Location) : (folder.join path).location directory = descend [] path.names := by
  have hjoin : folder.join path = path := by
    unfold join
    split
    · exact absurd ‹_› h
    · rfl
  rw [hjoin, location, start]
  split
  · exact absurd ‹_› h
  · rfl

/-- Exactly the paths that stay inside lead below every folder that they are joined to. -/
theorem isInner_iff (path : Path) : path.IsInner ↔ ∀ (folder : Path) (directory : Location),
    Location.Below (folder.location directory) ((folder.join path).location directory) := by
  constructor
  · rintro ⟨hanchor, depth, hdepth⟩ folder directory
    obtain ⟨last, hlast, hdescend⟩ := descend_of_depth? [] hdepth
    refine ⟨last, List.ne_nil_of_length_eq_add_one hlast, ?_⟩
    rw [location_join_of_here hanchor, ← hdescend, List.append_nil]
  · intro h
    have hanchor : path.anchor = .here := by
      by_contra hanchor
      have hbelow := h ⟨.here, []⟩ (descend [] path.names)
      rw [location_join_of_ne_here hanchor] at hbelow
      exact Location.not_below_self _ hbelow
    refine ⟨hanchor, ?_⟩
    -- A folder whose name does not occur in the path tells whether the path stays in it.
    obtain ⟨root, hroot⟩ := Infinite.exists_notMem_finset path.names.toFinset
    have hbelow := h ⟨.here, []⟩ [root]
    rw [location_join_of_here hanchor] at hbelow
    change Location.Below [root] (descend [root] path.names) at hbelow
    cases hdepth : depth? 0 path.names with
    | none =>
      obtain ⟨names, _, heq⟩ := hbelow
      have hmem : root ∈ descend [root] path.names := heq ▸ List.mem_cons_self
      exact absurd (mem_names_of_depth?_eq_none [] hdepth hmem) fun h => hroot (List.mem_toFinset.mpr h)
    | some depth =>
      cases depth with
      | succ depth => exact ⟨depth, rfl⟩
      | zero =>
        obtain ⟨last, hlast, hdescend⟩ := descend_of_depth? [] hdepth
        rw [List.eq_nil_of_length_eq_zero hlast] at hdescend
        exact absurd (hdescend [root] ▸ hbelow) (Location.not_below_self _)

theorem depth?_of_forall_ne {names : List String} (h : ∀ name ∈ names, name ≠ "..") (depth : Nat) :
    depth? depth names = some (depth + names.length) := by
  induction names generalizing depth with
  | nil => rfl
  | cons name names ih =>
    obtain ⟨hname, hnames⟩ := List.forall_mem_cons.mp h
    rw [depth?.eq_def]
    simp only [hname, if_false, ih hnames, List.length_cons]
    congr 1
    omega

/-- Names that never lead up are added to the place that they are followed from. -/
theorem descend_of_forall_ne {names : List String} (h : ∀ name ∈ names, name ≠ "..")
    (place : Location) : descend place names = place ++ names := by
  induction names generalizing place with
  | nil => exact (List.append_nil place).symm
  | cons name names ih =>
    obtain ⟨hname, hnames⟩ := List.forall_mem_cons.mp h
    rw [descend, if_neg hname, ih hnames, List.append_assoc]
    rfl

/-- A text denotes a path that stays inside if it does not begin with a slash, has no two dots between
slashes, and has some name. -/
theorem isInner_ofString {text : String} (hhead : text.toList.head? ≠ some '/')
    (hnames : ".." ∉ Text.piecesOf '/' text) (hname : ∃ name ∈ Text.piecesOf '/' text, isName name = true) :
    (ofString text).IsInner := by
  refine ⟨Anchor.ofChars_of_head hhead, ?_⟩
  have hne : ∀ name ∈ (ofString text).names, name ≠ ".." := fun name hmem heq =>
    hnames (heq ▸ List.mem_of_mem_filter hmem)
  obtain ⟨name, hmem, hisName⟩ := hname
  have hpos : 0 < (ofString text).names.length :=
    List.length_pos_of_mem (List.mem_filter.mpr ⟨hmem, hisName⟩)
  refine ⟨(ofString text).names.length - 1, ?_⟩
  rw [depth?_of_forall_ne hne]
  congr 1
  omega

end Path

namespace Bundle

/-- The name of a bundle without its ending, with slashes for the dots of the base name. -/
def stem (baseName locale defaultLocale : String) : List Char :=
  Text.replaceChar '.' ['/'] baseName.toList ++
    if locale = defaultLocale then [] else '_' :: locale.toList

theorem toList_path (baseName locale defaultLocale : String) :
    (path baseName locale defaultLocale).toList =
      stem baseName locale defaultLocale ++ ending.toList := by
  unfold path stem
  split <;> simp

theorem dots_not_mem_pieces_stem {baseName locale defaultLocale : String}
    (h : locale = defaultLocale ∨ ['.', '.'] ∉ Text.pieces '/' locale.toList) :
    ['.', '.'] ∉ Text.pieces '/' (stem baseName locale defaultLocale) := by
  have hbase : ∀ piece ∈ Text.pieces '/' (Text.replaceChar '.' ['/'] baseName.toList), '.' ∉ piece :=
    fun piece hpiece hdot =>
      Text.not_mem_replaceChar (by decide) _ (Text.mem_of_mem_pieces hpiece hdot)
  unfold stem
  split
  · rw [List.append_nil]
    exact fun hmem => hbase _ hmem List.mem_cons_self
  · rename_i hother
    have hlocale := h.resolve_left hother
    obtain ⟨before, last, first, after, hbefore, hafter, hpieces⟩ :=
      Text.pieces_append '/' (Text.replaceChar '.' ['/'] baseName.toList) ('_' :: locale.toList)
    obtain ⟨piece, further, hlocalePieces⟩ :=
      List.exists_cons_of_ne_nil (Text.pieces_ne_nil '/' locale.toList)
    rw [Text.pieces, if_neg (by decide), hlocalePieces] at hafter
    cases hafter
    rw [hpieces]
    intro hmem
    rcases List.mem_append.mp hmem with hbase' | hrest
    · exact hbase _ (hbefore ▸ List.mem_append_left _ hbase') List.mem_cons_self
    · rcases List.mem_cons.mp hrest with hjoined | hfurther
      · have hscore : '_' ∈ ['.', '.'] := hjoined ▸ List.mem_append_right _ List.mem_cons_self
        exact absurd hscore (by decide)
      · exact hlocale (hlocalePieces ▸ List.mem_cons_of_mem _ hfurther)

/-- The path of a bundle stays inside if its base name does not begin with a dot or a slash, and its
locale is the default one or has no two dots between slashes. -/
theorem isInner_path {baseName locale defaultLocale : String}
    (hdot : baseName.toList.head? ≠ some '.') (hslash : baseName.toList.head? ≠ some '/')
    (hlocale : locale = defaultLocale ∨ ".." ∉ Text.piecesOf '/' locale) :
    (Path.ofString (path baseName locale defaultLocale)).IsInner := by
  obtain ⟨before, last, first, after, hbefore, hafter, hpieces⟩ :=
    Text.pieces_append '/' (stem baseName locale defaultLocale) ending.toList
  rw [Text.pieces_eq_singleton (by decide)] at hafter
  cases hafter
  rw [← toList_path] at hpieces
  have hending : 'p' ∈ last ++ ending.toList := List.mem_append_right _ (by decide)
  have hstem : ['.', '.'] ∉ Text.pieces '/' (stem baseName locale defaultLocale) :=
    dots_not_mem_pieces_stem (hlocale.imp_right fun h hmem => h (List.mem_map_of_mem hmem))
  refine Path.isInner_ofString ?_ ?_ ?_
  · rw [toList_path]
    unfold stem
    cases hbase : baseName.toList with
    | nil =>
      split
      · decide
      · exact fun h => absurd (Option.some.inj h) (by decide)
    | cons c cs =>
      rw [hbase] at hdot hslash
      have hc : c ≠ '.' := fun heq => hdot (congrArg some heq)
      simpa [Text.replaceChar, hc] using hslash
  · intro hmem
    obtain ⟨piece, hpiece, hdots⟩ := List.mem_map.mp hmem
    obtain rfl : piece = ['.', '.'] := String.ofList_inj.mp hdots
    rw [hpieces] at hpiece
    rcases List.mem_append.mp hpiece with hmem | hmem
    · exact hstem (hbefore ▸ List.mem_append_left _ hmem)
    · rw [← List.mem_singleton.mp hmem] at hending
      exact absurd hending (by decide)
  · refine ⟨String.ofList (last ++ ending.toList), List.mem_map_of_mem (hpieces ▸ by simp), ?_⟩
    have hmem : 'p' ∈ (String.ofList (last ++ ending.toList)).toList := by
      rw [String.toList_ofList]
      exact hending
    exact Path.isName_of_mem hmem (by decide)

end Bundle

end ResourceBundle
