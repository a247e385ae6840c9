-- SUMMARY: Joined paths: the parts and components they have, what stripping gives back, and where they lead.
import SymbolIndex.Proofs.File.Resolution

/-!
# Joined paths

Names joined to a path stand behind its parts, but for a slash at its end. Taking
the path off again leaves the names, however the path is spelled. A resolution of
joined paths is one of the front and then one of the rest.
-/

namespace SymbolIndex

/-! ## Parts -/

theorem Text.splitAt_append_sep [DecidableEq α] (sep : α) (xs ys : List α) :
    splitAt sep (xs ++ sep :: ys) = splitAt sep xs ++ splitAt sep ys := by
  induction xs with
  | nil => simp [splitAt]
  | cons c cs ih =>
      by_cases hc : c = sep
      · simp [splitAt, hc, ih]
      · obtain ⟨part, parts, hparts⟩ := List.exists_cons_of_ne_nil (splitAt_ne_nil sep cs)
        simp [splitAt, hc, ih, hparts]

namespace Path

/-- The spelling of a relative path of names. -/
def ofNames (names : List Bytes) : Path := ⟨[slash].intercalate names⟩

theorem parts_ofNames {names : RealPath} (h : names.IsProper) (hne : names ≠ []) :
    (ofNames names).parts = names :=
  Text.splitAt_intercalate hne fun name hn => (h name hn).2.2.2

theorem isAbsolute_ofNames {names : RealPath} (h : names.IsProper) :
    (ofNames names).isAbsolute = false :=
  RealPath.isAbsolute_relative h

/-- A blank part at the end of a path is lost when something is joined to it. -/
theorem exists_parts_join {p : Path} (hp : p.bytes ≠ []) :
    ∃ front, (p.parts = front ∨ p.parts = front ++ [[]]) ∧
      ∀ q : Path, q.isAbsolute = false → (p.join q).parts = front ++ q.parts := by
  by_cases hlast : p.bytes.getLast? = some slash
  · obtain ⟨bs, hbs⟩ := List.getLast?_eq_some_iff.1 hlast
    refine ⟨Text.splitAt slash bs, .inr ?_, fun q hq => ?_⟩
    · simp only [parts, hbs, Text.splitAt_append_sep, Text.splitAt_nil]
    · unfold join
      rw [hq, if_neg (by simpa using hp), if_pos (by simp [hlast])]
      simp only [parts, hbs, List.append_assoc, List.singleton_append, Text.splitAt_append_sep]
  · refine ⟨p.parts, .inl rfl, fun q hq => ?_⟩
    unfold join
    rw [hq, if_neg (by simpa using hp), if_neg (by simpa using hlast)]
    exact Text.splitAt_append_sep slash p.bytes q.bytes

theorem prefix_bytes_join {p q : Path} (hq : q.isAbsolute = false) :
    p.bytes <+: (p.join q).bytes := by
  unfold join
  rw [hq, Bool.false_or]
  split
  case isTrue hnil => simp [List.isEmpty_iff.1 hnil]
  case isFalse => split <;> exact List.prefix_append _ _

theorem ne_nil_of_isAbsolute {p : Path} (h : p.isAbsolute = true) : p.bytes ≠ [] := by
  intro hnil
  simp [isAbsolute, hnil] at h

theorem isAbsolute_join {p : Path} (h : p.isAbsolute = true) (q : Path) :
    (p.join q).isAbsolute = true := by
  unfold join
  obtain ⟨b, bs, hbs⟩ := List.exists_cons_of_ne_nil (ne_nil_of_isAbsolute h)
  simp only [isAbsolute, hbs] at h ⊢
  split
  · simp_all
  · split <;> simpa using h

/-! ## Components -/

theorem innerComponents_append (ps qs : List Bytes) :
    innerComponents (ps ++ qs) = innerComponents ps ++ innerComponents qs :=
  List.filterMap_append

/-- Names joined to an absolute path stand behind its parts. -/
theorem exists_parts_join_ofNames {root : Path} (habsolute : root.isAbsolute = true) :
    ∃ mid, (root.parts = [] :: mid ∨ root.parts = [] :: mid ++ [[]]) ∧
      root.components = .root :: innerComponents mid ∧
      ∀ names : RealPath, names.IsProper → names ≠ [] →
        (root.join (ofNames names)).parts = [] :: mid ++ names := by
  obtain ⟨front, hfront, hjoin⟩ := exists_parts_join (ne_nil_of_isAbsolute habsolute)
  have hparts : ∀ names : RealPath, names.IsProper → names ≠ [] →
      (root.join (ofNames names)).parts = front ++ names := by
    intro names hnames hne
    rw [hjoin _ (isAbsolute_ofNames hnames), parts_ofNames hnames hne]
  obtain ⟨rest, hrest⟩ := parts_of_isAbsolute habsolute
  have hcomponents : root.components = .root :: innerComponents rest := by
    rw [components, hrest]
    dsimp only
    rw [if_pos habsolute]
  rw [hrest] at hfront
  rcases hfront with rfl | hfront
  · exact ⟨rest, .inl hrest, hcomponents, hparts⟩
  · cases front with
    | nil =>
        have hnil : rest = [] := by simpa using hfront
        have hbytes : root.bytes = [] := by
          have := Text.intercalate_splitAt slash root.bytes
          rw [← parts, hrest, hnil] at this
          simpa using this.symm
        exact absurd hbytes (ne_nil_of_isAbsolute habsolute)
    | cons part mid =>
        have hpart : [] = part := (List.cons.inj hfront).1
        have hmid : rest = mid ++ [[]] := (List.cons.inj hfront).2
        subst hpart
        refine ⟨mid, .inr (by rw [hrest, hmid, List.cons_append]), ?_, hparts⟩
        rw [hcomponents, hmid, innerComponents_append]
        simp [innerComponents, innerComponent?]

theorem components_join_ofNames {root : Path} {names : RealPath}
    (habsolute : root.isAbsolute = true) (hnames : names.IsProper) (hne : names ≠ []) :
    (root.join (ofNames names)).components = root.components ++ names.map .normal := by
  obtain ⟨mid, -, hcomponents, hparts⟩ := exists_parts_join_ofNames habsolute
  rw [hcomponents, components, hparts names hnames hne]
  dsimp only [List.cons_append]
  rw [if_pos (isAbsolute_join habsolute _), innerComponents_append,
    innerComponents_of_isName hnames]

/-! ## Stripping -/

/-- Behind the components of some parts come the names that follow these. -/
theorem skipBlank_dropInner {names : RealPath} (hnames : names.IsProper) (ps : List Bytes) :
    skipBlank (dropInner (innerComponents ps).length (ps ++ names)) = names := by
  induction ps with
  | nil => exact skipBlank_of_isName hnames
  | cons part ps ih =>
      cases hpart : innerComponent? part with
      | none =>
          have hskip : skipBlank (part :: (ps ++ names)) = skipBlank (ps ++ names) :=
            List.dropWhile_cons_of_pos (by simp [hpart])
          have hinner : innerComponents (part :: ps) = innerComponents ps :=
            List.filterMap_cons_none hpart
          rw [hinner, List.cons_append]
          cases hlength : (innerComponents ps).length with
          | zero =>
              rw [hlength] at ih
              exact hskip.trans ih
          | succ n =>
              rw [hlength] at ih
              rwa [dropInner, hskip]
      | some component =>
          have hskip : skipBlank (part :: (ps ++ names)) = part :: (ps ++ names) :=
            List.dropWhile_cons_of_neg (by simp [hpart])
          have hinner : innerComponents (part :: ps) = component :: innerComponents ps :=
            List.filterMap_cons_some hpart
          rwa [hinner, List.length_cons, List.cons_append, dropInner, hskip, List.drop_one,
            List.tail_cons]

/-- Names joined to an absolute path are what is left when the path is taken off. -/
theorem stripBase?_join {root : Path} {names : RealPath} (habsolute : root.isAbsolute = true)
    (hnames : names.IsProper) (hne : names ≠ []) :
    (root.join (ofNames names)).stripBase? root = some (ofNames names) := by
  obtain ⟨mid, -, hcomponents, hparts⟩ := exists_parts_join_ofNames habsolute
  have hstarts : (root.join (ofNames names)).startsWith root = true := by
    rw [startsWith, List.isPrefixOf_iff_prefix, components_join_ofNames habsolute hnames hne]
    exact List.prefix_append _ _
  unfold stripBase?
  rw [if_pos hstarts, if_neg (by simp [hcomponents])]
  unfold dropComponents
  rw [hparts names hnames hne]
  simp only [List.cons_append, isAbsolute_join habsolute, Bool.true_or, if_true, hcomponents,
    List.length_cons, Nat.add_sub_cancel, skipBlank_dropInner hnames]
  rw [skipBlank_reverse_of_isName hnames, ofNames]

end Path

/-! ## Resolution -/

namespace FileSystem

variable {fs : FileSystem}

/-- A resolution fails on the parts in front, or it goes on behind them from the place
where they lead. -/
theorem exists_resolveFrom_append (fs : FileSystem) (links : Nat) (dir : RealPath)
    (ps : List Bytes) :
    (∃ e, ∀ qs, fs.resolveFrom links dir (ps ++ qs) = .error e) ∨
      ∃ links' mid, ∀ qs,
        fs.resolveFrom links dir (ps ++ qs) = fs.resolveFrom links' mid qs := by
  fun_induction fs.resolveFrom links dir ps with
  | case1 links dir => exact .inr ⟨links, dir, fun qs => rfl⟩
  | case2 links dir part rest hdir =>
      refine .inl ⟨.notADirectory, fun qs => ?_⟩
      rw [List.cons_append, resolveFrom, if_pos hdir]
  | case3 links dir part rest hdir hblank ih =>
      simpa only [List.cons_append, resolveFrom, if_neg hdir, if_pos hblank] using ih
  | case4 links dir rest hdir hblank ih =>
      simpa only [List.cons_append, resolveFrom, if_neg hdir, if_neg hblank, if_true] using ih
  | case5 links dir part rest hdir hblank hup hlong =>
      refine .inl ⟨.nameTooLong, fun qs => ?_⟩
      rw [List.cons_append, resolveFrom, if_neg hdir, if_neg hblank, if_neg hup, if_pos hlong]
  | case6 links dir part rest hdir hblank hup hshort hnone =>
      refine .inl ⟨.notFound, fun qs => ?_⟩
      rw [List.cons_append, resolveFrom, if_neg hdir, if_neg hblank, if_neg hup, if_neg hshort,
        hnone]
  | case7 links dir part rest hdir hblank hup hshort target hlink hempty =>
      refine .inl ⟨.notFound, fun qs => ?_⟩
      rw [List.cons_append, resolveFrom, if_neg hdir, if_neg hblank, if_neg hup, if_neg hshort,
        hlink]
      dsimp only
      rw [if_pos hempty]
  | case8 dir part rest hdir hblank hup hshort target hlink hempty =>
      refine .inl ⟨.tooManyLinks, fun qs => ?_⟩
      rw [List.cons_append, resolveFrom, if_neg hdir, if_neg hblank, if_neg hup, if_neg hshort,
        hlink]
      dsimp only
      rw [if_neg hempty]
  | case9 dir part rest hdir hblank hup hshort target hlink hempty links ih =>
      have hstep : ∀ qs, fs.resolveFrom (links + 1) dir (part :: rest ++ qs) =
          fs.resolveFrom links (if target.isAbsolute then [] else dir)
            (target.parts ++ rest ++ qs) := by
        intro qs
        rw [List.cons_append, resolveFrom, if_neg hdir, if_neg hblank, if_neg hup,
          if_neg hshort, hlink]
        dsimp only
        rw [if_neg hempty, List.append_assoc]
      simpa only [hstep, dite_eq_ite] using ih
  | case10 links dir part rest hdir hblank hup hshort e hlink hentry ih =>
      have hstep : ∀ qs, fs.resolveFrom links dir (part :: rest ++ qs) =
          fs.resolveFrom links (dir ++ [part]) (rest ++ qs) := by
        intro qs
        rw [List.cons_append, resolveFrom, if_neg hdir, if_neg hblank, if_neg hup,
          if_neg hshort, hentry]
        cases e with
        | symlink target => exact absurd rfl (hlink target)
        | _ => rfl
      simpa only [hstep] using ih

/-- Parts that lead somewhere lead there from the place of those in front. -/
theorem exists_resolveFrom_front {links : Nat} {dir key : RealPath} {ps qs : List Bytes}
    (h : fs.resolveFrom links dir (ps ++ qs) = .ok key) :
    ∃ links' mid, fs.resolveFrom links dir ps = .ok mid ∧
      ∀ qs, fs.resolveFrom links dir (ps ++ qs) = fs.resolveFrom links' mid qs := by
  rcases exists_resolveFrom_append fs links dir ps with ⟨e, herror⟩ | ⟨links', mid, hgoes⟩
  · rw [herror qs] at h
    cases h
  · have hfront := hgoes []
    rw [List.append_nil, resolveFrom] at hfront
    exact ⟨links', mid, hfront, hgoes⟩

/-- Parts are looked for in a directory only. -/
theorem isDirectory_of_resolveFrom {links : Nat} {dir key : RealPath} {ps : List Bytes}
    (hne : ps ≠ []) (h : fs.resolveFrom links dir ps = .ok key) :
    fs.entryAt? dir = some .directory := by
  obtain ⟨part, rest, rfl⟩ := List.exists_cons_of_ne_nil hne
  rw [resolveFrom] at h
  by_contra hdir
  rw [if_pos hdir] at h
  cases h

/-! ## Places -/

/-- Where an entry stands is looked for from the place where the parts in front lead. -/
theorem exists_placeFrom_append {links : Nat} {dir mid : RealPath} {ps : List Bytes}
    (h : fs.resolveFrom links dir ps = .ok mid) :
    ∃ links', ∀ qs, qs ≠ [] →
      fs.placeFrom false links dir (ps ++ qs) = fs.placeFrom false links' mid qs := by
  fun_induction fs.resolveFrom links dir ps with
  | case1 links dir =>
      obtain rfl := Except.ok.inj h
      exact ⟨links, fun qs _ => rfl⟩
  | case3 links dir part rest hdir hblank ih =>
      obtain ⟨links', hplace⟩ := ih h
      refine ⟨links', fun qs hqs => ?_⟩
      rw [List.cons_append, placeFrom, if_pos hblank, hplace qs hqs]
  | case4 links dir rest hdir hblank ih =>
      obtain ⟨links', hplace⟩ := ih h
      refine ⟨links', fun qs hqs => ?_⟩
      rw [List.cons_append, placeFrom, if_neg hblank, if_pos rfl, hplace qs hqs]
  | case9 dir part rest hdir hblank hup hshort target hlink hempty links ih =>
      obtain ⟨links', hplace⟩ := ih h
      refine ⟨links', fun qs hqs => ?_⟩
      have hgoes : ((rest ++ qs).isEmpty && !false) = false := by simp [hqs]
      rw [List.cons_append, placeFrom, if_neg hblank, if_neg hup, hlink]
      dsimp only
      rw [hgoes, if_neg (by simp), ← hplace qs hqs, List.append_assoc, dite_eq_ite]
  | case10 links dir part rest hdir hblank hup hshort e hlink hentry ih =>
      obtain ⟨links', hplace⟩ := ih h
      refine ⟨links', fun qs hqs => ?_⟩
      rw [List.cons_append, placeFrom, if_neg hblank, if_neg hup, hentry]
      cases e with
      | symlink target => exact absurd rfl (hlink target)
      | _ => exact hplace qs hqs
  | _ => cases h

/-- Names are followed to where they stand, past everything that is no link. -/
theorem placeFrom_of_not_link {links : Nat} {dir : RealPath} {names : RealPath}
    (hnames : names.IsProper)
    (hlinks : ∀ part, part <+: names → part ≠ [] → part ≠ names →
      ∀ target, fs.entryAt? (dir ++ part) ≠ some (.symlink target)) :
    fs.placeFrom false links dir names = dir ++ names := by
  induction names generalizing dir with
  | nil => rw [placeFrom, List.append_nil]
  | cons name rest ih =>
      obtain ⟨hnil, hdot, hup, -⟩ := hnames name List.mem_cons_self
      have hrest : rest ≠ [] →
          fs.placeFrom false links (dir ++ [name]) rest = dir ++ name :: rest := by
        intro hne
        rw [ih fun n hn => hnames n (List.mem_cons_of_mem _ hn)]
        · simp
        · intro part hp hpart hwhole target
          have := hlinks (name :: part) (List.cons_prefix_cons.2 ⟨rfl, hp⟩) (by simp)
            (by simpa using hwhole) target
          simpa using this
      rw [placeFrom, if_neg (by simp [hnil, hdot]), if_neg hup]
      by_cases hlast : rest = []
      · subst hlast
        split
        · simp
        · rw [placeFrom]
      · have hpart : [name] ≠ name :: rest := by simpa using Ne.symm hlast
        cases hentry : fs.entryAt? (dir ++ [name]) with
        | none => exact hrest hlast
        | some e =>
            cases e with
            | symlink target => exact absurd hentry (hlinks [name] (by simp) (by simp) hpart target)
            | _ => exact hrest hlast

end FileSystem

end SymbolIndex
