import ResourceBundle.Proofs.PathContainment

/-! # The paths of bundles

The path of a bundle is the base name, with slashes for its dots, and what the locale adds to it. Different
locales have different paths. Their bundles have different names too if each name that a slash in a locale
begins leads down: it is neither empty nor one or two dots. -/

namespace ResourceBundle

namespace Text

/-- The pieces with their separators are the text again. -/
theorem flatMap_pieces (separator : Char) (cs : List Char) :
    (pieces separator cs).flatMap (List.cons separator) = separator :: cs := by
  fun_induction pieces separator cs with
  | case1 => rfl
  | case2 rest ih => rw [List.flatMap_cons, ih]; rfl
  | case3 c rest hc hnil ih => exact absurd hnil (pieces_ne_nil separator rest)
  | case4 c rest hc piece further hpieces ih =>
    rw [hpieces, List.flatMap_cons, List.cons_append] at ih
    rw [List.flatMap_cons, List.cons_append, List.cons_append, (List.cons.inj ih).2]

theorem pieces_injective {separator : Char} {cs ds : List Char}
    (h : pieces separator cs = pieces separator ds) : cs = ds := by
  have hcons : separator :: cs = separator :: ds := by
    rw [← flatMap_pieces, h, flatMap_pieces]
  exact (List.cons.inj hcons).2

end Text

/-- What follows a text does not change its anchor if it does not begin with a slash. -/
theorem Anchor.ofChars_append (cs : List Char) {ds : List Char} (h : ds.head? ≠ some '/') :
    ofChars (cs ++ ds) = ofChars cs := by
  have htake : (cs ++ ds).takeWhile (· == '/') = cs.takeWhile (· == '/') := by
    induction cs with
    | nil =>
      cases ds with
      | nil => rfl
      | cons d ds =>
        have hd : d ≠ '/' := fun heq => h (congrArg some heq)
        simp [hd]
    | cons c cs ih => simp only [List.cons_append, List.takeWhile_cons, ih]
  rw [ofChars, htake, ofChars]

namespace Bundle

/-- What the locale adds to the base name, and the ending. -/
def suffix (locale defaultLocale : String) : List Char :=
  (if locale = defaultLocale then [] else '_' :: locale.toList) ++ ending.toList

theorem toList_path_suffix (baseName locale defaultLocale : String) :
    (path baseName locale defaultLocale).toList =
      Text.replaceChar '.' ['/'] baseName.toList ++ suffix locale defaultLocale := by
  rw [toList_path, stem, suffix, List.append_assoc]

theorem suffix_injective {defaultLocale a b : String}
    (h : suffix a defaultLocale = suffix b defaultLocale) : a = b := by
  have htail := List.append_cancel_right h
  split at htail <;> split at htail
  · exact ‹a = _›.trans ‹b = _›.symm
  · cases htail
  · cases htail
  · exact String.toList_inj.mp (List.cons.inj htail).2

/-- Different locales have bundles at different paths. -/
theorem path_injective {baseName defaultLocale a b : String}
    (h : path baseName a defaultLocale = path baseName b defaultLocale) : a = b := by
  have hlist := congrArg String.toList h
  rw [toList_path_suffix, toList_path_suffix] at hlist
  exact suffix_injective (List.append_cancel_left hlist)

theorem head?_suffix (locale defaultLocale : String) :
    (suffix locale defaultLocale).head? ≠ some '/' := by
  unfold suffix
  split
  · decide
  · exact fun h => absurd (Option.some.inj h) (by decide)

/-- Whether each name that a slash in the locale begins leads down. -/
def IsTidy (locale : String) : Prop :=
  ∀ name ∈ (Text.piecesOf '/' (locale ++ ending)).tail, Path.isName name = true ∧ name ≠ ".."

theorem isTidy_of_not_mem {locale : String} (h : '/' ∉ locale.toList) : IsTidy locale := by
  have hslash : '/' ∉ (locale ++ ending).toList := by
    rw [String.toList_append, List.mem_append, not_or]
    exact ⟨h, by decide⟩
  unfold IsTidy Text.piecesOf
  rw [Text.pieces_eq_singleton hslash]
  exact nofun

/-- The first piece of a suffix is not made of dots, and the others lead down. -/
theorem pieces_suffix {locale defaultLocale : String} (h : locale = defaultLocale ∨ IsTidy locale) :
    ∃ first after, Text.pieces '/' (suffix locale defaultLocale) = first :: after ∧
      (∃ c ∈ first, c ≠ '.') ∧
      ∀ piece ∈ after, Path.isName (String.ofList piece) = true ∧ String.ofList piece ≠ ".." := by
  unfold suffix
  split
  · exact ⟨ending.toList, [], Text.pieces_eq_singleton (by decide), ⟨'p', by decide, by decide⟩, nofun⟩
  · rename_i hother
    have htidy := h.resolve_left hother
    obtain ⟨piece, after, hpieces⟩ :=
      List.exists_cons_of_ne_nil (Text.pieces_ne_nil '/' (locale.toList ++ ending.toList))
    refine ⟨'_' :: piece, after, ?_, ⟨'_', List.mem_cons_self, by decide⟩, fun piece hpiece => ?_⟩
    · rw [List.cons_append, Text.pieces, if_neg (by decide), hpieces]
    · apply htidy
      rw [Text.piecesOf, String.toList_append, hpieces]
      exact List.mem_map_of_mem hpiece

/-- The names of the path of a bundle: those of the base name but the last one, and then the pieces of
what the locale adds, of which the first one belongs to the last name. -/
theorem names_path {baseName locale defaultLocale : String} {before : List (List Char)} {last : List Char}
    (hbase : Text.pieces '/' (Text.replaceChar '.' ['/'] baseName.toList) = before ++ [last])
    (h : locale = defaultLocale ∨ IsTidy locale) :
    ∃ first after, Text.pieces '/' (suffix locale defaultLocale) = first :: after ∧
      (Path.ofString (path baseName locale defaultLocale)).names =
        (before.map String.ofList).filter Path.isName ++
          ((last ++ first) :: after).map String.ofList ∧
      ∀ piece ∈ (last ++ first) :: after, String.ofList piece ≠ ".." := by
  obtain ⟨first, after, hsuffix, ⟨c, hc, hdot⟩, hafter⟩ := pieces_suffix h
  obtain ⟨before', last', first', after', hbase', hsuffix', hpieces⟩ := Text.pieces_append '/'
    (Text.replaceChar '.' ['/'] baseName.toList) (suffix locale defaultLocale)
  obtain ⟨rfl, hlast⟩ := List.append_inj' (hbase.symm.trans hbase') rfl
  obtain rfl := List.singleton_inj.mp hlast
  obtain ⟨rfl, rfl⟩ := List.cons.inj (hsuffix.symm.trans hsuffix')
  have hjoined : c ∈ (String.ofList (last ++ first)).toList := by
    rw [String.toList_ofList]
    exact List.mem_append_right _ hc
  refine ⟨first, after, hsuffix, ?_, List.forall_mem_cons.mpr ⟨fun heq => ?_, fun piece hpiece =>
    (hafter piece hpiece).2⟩⟩
  · have hall : ∀ name ∈ ((last ++ first) :: after).map String.ofList, Path.isName name = true := by
      rw [List.map_cons]
      refine List.forall_mem_cons.mpr ⟨Path.isName_of_mem hjoined hdot, fun name hname => ?_⟩
      obtain ⟨piece, hpiece, rfl⟩ := List.mem_map.mp hname
      exact (hafter piece hpiece).1
    rw [Path.ofString, Text.piecesOf, toList_path_suffix, hpieces, List.map_append,
      List.filter_append, List.filter_eq_self.mpr hall]
  · have hdots : "..".toList = ['.', '.'] := rfl
    rw [heq, hdots] at hjoined
    exact hdot ((List.mem_pair.mp hjoined).elim id id)

/-- Bundles of different locales have different names. -/
theorem names_injective {baseName defaultLocale a b : String} (ha : a = defaultLocale ∨ IsTidy a)
    (hb : b = defaultLocale ∨ IsTidy b)
    (h : (Path.ofString (path baseName a defaultLocale)).names =
      (Path.ofString (path baseName b defaultLocale)).names) : a = b := by
  obtain ⟨before, last, _, _, hbase, _, _⟩ := Text.pieces_append '/'
    (Text.replaceChar '.' ['/'] baseName.toList) []
  obtain ⟨first, after, hpieces, hnames, _⟩ := names_path hbase ha
  obtain ⟨first', after', hpieces', hnames', _⟩ := names_path hbase hb
  rw [hnames, hnames'] at h
  have hmap := List.append_cancel_left h
  obtain ⟨hfirst, rfl⟩ := List.cons.inj (List.map_injective_iff.mpr
    (fun _ _ heq => String.ofList_inj.mp heq) hmap)
  obtain rfl := List.append_cancel_left hfirst
  exact suffix_injective (Text.pieces_injective (hpieces.trans hpieces'.symm))

/-- No name of the path of a bundle leads up. -/
theorem names_ne_dots {baseName locale defaultLocale : String}
    (h : locale = defaultLocale ∨ IsTidy locale) :
    ∀ name ∈ (Path.ofString (path baseName locale defaultLocale)).names, name ≠ ".." := by
  obtain ⟨before, last, _, _, hbase, _, _⟩ := Text.pieces_append '/'
    (Text.replaceChar '.' ['/'] baseName.toList) []
  obtain ⟨first, after, _, hnames, hne⟩ := names_path hbase h
  rw [hnames]
  intro name hname
  rcases List.mem_append.mp hname with hbefore | hlater
  · obtain ⟨piece, hpiece, rfl⟩ := List.mem_map.mp (List.mem_of_mem_filter hbefore)
    intro hdots
    obtain rfl : piece = ['.', '.'] := String.ofList_inj.mp hdots
    exact Text.not_mem_replaceChar (by decide) _
      (Text.mem_of_mem_pieces (hbase ▸ List.mem_append_left _ hpiece) List.mem_cons_self)
  · obtain ⟨piece, hpiece, rfl⟩ := List.mem_map.mp hlater
    exact hne piece hpiece

theorem anchor_path (baseName locale defaultLocale : String) :
    (Path.ofString (path baseName locale defaultLocale)).anchor =
      .ofChars (Text.replaceChar '.' ['/'] baseName.toList) := by
  rw [Path.ofString, toList_path_suffix]
  exact Anchor.ofChars_append _ (head?_suffix locale defaultLocale)

/-- The bundle of a locale lies at its names below the folder, unless the base name begins with a slash or
a dot; then it lies at its names below the root. -/
theorem location_path {baseName locale defaultLocale : String}
    (h : locale = defaultLocale ∨ IsTidy locale) (folder : Path) (directory : Location) :
    (folder.join (.ofString (path baseName locale defaultLocale))).location directory =
      (if Anchor.ofChars (Text.replaceChar '.' ['/'] baseName.toList) = .here
        then folder.location directory else []) ++
      (Path.ofString (path baseName locale defaultLocale)).names := by
  rw [← anchor_path baseName locale defaultLocale, ← Path.descend_of_forall_ne (names_ne_dots h)]
  split
  · exact Path.location_join_of_here ‹_› folder directory
  · exact Path.location_join_of_ne_here ‹_› folder directory

end Bundle

end ResourceBundle
