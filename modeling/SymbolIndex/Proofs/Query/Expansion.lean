-- SUMMARY: The files that one argument stands for: itself, the C# files below it, or what a pattern matches.
import Mathlib.Data.List.TakeWhile
import SymbolIndex.Proofs.File.Order
import SymbolIndex.Proofs.Glob.Below
import SymbolIndex.Proofs.Query.FromSearch

/-!
# Expanding an argument

An argument with a wildcard is a pattern, even where a path of that name exists. Any
other argument that leads to a file stands for it, and one that leads to a directory
for C# files below it. These are named once each and in ascending order, and none
is missed whose name is text with the extension `cs`.
-/

namespace SymbolIndex

variable {fs : FileSystem} {p : Path} {s text : String} {name : Bytes}

/-! ## Extensions -/

/-- A name is what stands in front of its last dot, the dot, and the extension. -/
theorem Path.exists_of_extensionOfName? {extension : Bytes}
    (h : extensionOfName? name = some extension) :
    (∃ front, name = front ++ dot :: extension) ∧ dot ∉ extension := by
  unfold extensionOfName? at h
  split at h
  case isFalse => cases h
  case isTrue hdot =>
    obtain ⟨back, rest, hrest, hback⟩ :=
      List.eq_append_cons_of_mem (List.mem_reverse.2 (List.mem_of_mem_drop hdot))
    have htake : name.reverse.takeWhile (· ≠ dot) = back := by
      rw [hrest, List.takeWhile_append_of_pos, List.takeWhile_cons_of_neg (by simp),
        List.append_nil]
      exact fun b hb => decide_eq_true fun heq => hback (heq ▸ hb)
    rw [htake] at h
    rw [← Option.some.inj h]
    refine ⟨⟨rest.reverse, ?_⟩, by simpa using hback⟩
    rw [← List.reverse_reverse name, hrest]
    simp

/-- The text has the extension `cs`. -/
def HasCSharpExtension (text : String) : Prop :=
  Path.extensionOfName? (Utf8.encode text) = some (Utf8.encode "cs")

theorem HasCSharpExtension.exists_toList (h : HasCSharpExtension text) :
    ∃ front, text.toList = front ++ ".cs".toList := by
  obtain ⟨⟨front, hfront⟩, -⟩ := Path.exists_of_extensionOfName? h
  refine ⟨Utf8.decodeChars front, ?_⟩
  have hcs : Utf8.decodeChars (Path.dot :: Utf8.encode "cs") = ".cs".toList := by decide +kernel
  rw [← Utf8.decodeChars_encode text, hfront, Utf8.decodeChars_append (by decide), hcs]

theorem val_toLower_of_upper {c : Char} (h : c.val ≥ 'A'.val ∧ c.val ≤ 'Z'.val) :
    c.toLower.val = c.val + ('a'.val - 'A'.val) := congrArg Char.val (dif_pos h)

theorem toLower_of_not_upper {c : Char} (h : ¬ (c.val ≥ 'A'.val ∧ c.val ≤ 'Z'.val)) :
    c.toLower = c := dif_neg h

theorem toLower_eq_dot_iff {c : Char} : c.toLower = '.' ↔ c = '.' := by
  by_cases h : c.val ≥ 'A'.val ∧ c.val ≤ 'Z'.val
  · rw [Char.ext_iff, Char.ext_iff, val_toLower_of_upper h]
    simp only [ge_iff_le, UInt32.le_iff_toNat_le, ← UInt32.toNat_inj, UInt32.toNat_add] at h ⊢
    simp at h ⊢
    omega
  · rw [toLower_of_not_upper h]

theorem toLower_toLower (c : Char) : c.toLower.toLower = c.toLower := by
  by_cases h : c.val ≥ 'A'.val ∧ c.val ≤ 'Z'.val
  · refine toLower_of_not_upper ?_
    rw [val_toLower_of_upper h]
    simp only [ge_iff_le, UInt32.le_iff_toNat_le, UInt32.toNat_add] at h ⊢
    simp at h ⊢
    omega
  · rw [toLower_of_not_upper h, toLower_of_not_upper h]

theorem lowerAscii_lowerAscii (s : String) :
    Text.lowerAscii (Text.lowerAscii s) = Text.lowerAscii s := by
  simp only [Text.lowerAscii, String.toList_ofList, List.map_map, Function.comp_def,
    toLower_toLower]

/-- A file is taken for C# exactly where its language is detected to be C#. -/
theorem isCSharp_iff :
    isCSharp p = true ↔ Language.ofExtension? (extensionOf p) = some .csharp := by
  refine ⟨ofExtension?_of_isCSharp, fun h => ?_⟩
  unfold isCSharp
  unfold extensionOf at h
  cases hextension : p.extension? with
  | none =>
      rw [hextension] at h
      exact absurd h (by decide +kernel)
  | some extension =>
      rw [hextension] at h
      dsimp only at h ⊢
      have hdot : '.' ∉ (Text.lowerAscii (Utf8.decode extension)).toList := by
        obtain ⟨name, -, hname⟩ := Option.bind_eq_some_iff.1 hextension
        have hbyte := (Path.exists_of_extensionOfName? hname).2
        rw [Text.lowerAscii, String.toList_ofList, Utf8.decode, String.toList_ofList, List.mem_map]
        rintro ⟨c, hc, hlower⟩
        rw [toLower_eq_dot_iff] at hlower
        have hchar : Char.ofNat Path.dot.toNat = '.' := by decide
        rw [hlower, ← hchar, Utf8.mem_decodeChars_iff (by decide)] at hc
        exact hbyte hc
      unfold Language.ofExtension? at h
      rw [List.dropWhile_eq_self_iff.2 ?_, String.ofList_toList, lowerAscii_lowerAscii] at h
      · split at h
        case isTrue heq => exact decide_eq_true heq
        case isFalse => cases h
      · intro hlength heq
        have hmem := List.getElem_mem hlength
        rw [of_decide_eq_true heq] at hmem
        exact hdot hmem

/-! ## The C# files among others -/

/-- The files are the C# files among the paths, each in one spelling, in ascending order. -/
structure ListsCSharp (fs : FileSystem) (paths files : List Path) : Prop where
  ascends : Path.Ascends files
  sound : ∀ q ∈ files, q ∈ paths ∧ fs.isFile q = true ∧ isCSharp q = true
  complete : ∀ q ∈ paths, fs.isFile q = true → isCSharp q = true →
    ∃ q' ∈ files, q.same q' = true

theorem listsCSharp_distinct (fs : FileSystem) (paths : List Path) :
    ListsCSharp fs paths
      (Path.distinct ((Path.sort (paths.filter fs.isFile)).filter isCSharp)) where
  ascends := Path.ascends_distinct ((Path.pairwise_sort _).sublist List.filter_sublist)
  sound q hq := by
    obtain ⟨hsorted, hcsharp⟩ := List.mem_filter.1 ((Path.distinct_sublist _).subset hq)
    obtain ⟨hpath, hfile⟩ := List.mem_filter.1 (Path.mem_sort.1 hsorted)
    exact ⟨hpath, hfile, hcsharp⟩
  complete q hq hfile hcsharp := by
    refine Path.exists_same_mem_extend (List.mem_filter.2 ⟨?_, hcsharp⟩)
    exact Path.mem_sort.2 (List.mem_filter.2 ⟨hq, hfile⟩)

theorem value_expandArguments (fs : FileSystem) (s : String) :
    (expandArguments fs [s]).value =
      Path.distinct ((argumentFiles fs s).value.filter isCSharp) := by
  simp [expandArguments]

theorem value_patternFiles (fs : FileSystem) (pattern : String) :
    (patternFiles fs pattern).value =
      match Glob.search fs pattern with
      | .ok found => Path.sort (found.filter fs.isFile)
      | .error _ => [] := by
  unfold patternFiles
  cases Glob.search fs pattern <;> rfl

/-! ## Files, directories and patterns -/

theorem isPlain_of_isPattern (h : isPattern s = false) : Glob.IsPlain s.toList := by
  intro c hc
  have hnone := List.any_eq_false.1 h c hc
  simpa [not_or, and_assoc] using hnone

/-- A pattern stands for the C# files that match it. -/
theorem expandArguments_pattern (h : isPattern s = true) :
    (∀ found, Glob.search fs s = .ok found →
      ListsCSharp fs found (expandArguments fs [s]).value) ∧
    ∀ e, Glob.search fs s = .error e → (expandArguments fs [s]).value = [] := by
  have hvalue : (argumentFiles fs s).value = (patternFiles fs s).value := by
    rw [argumentFiles, if_pos h]
  rw [value_expandArguments, hvalue, value_patternFiles]
  constructor
  · intro found hfound
    rw [hfound]
    exact listsCSharp_distinct fs found
  · intro e hfailure
    rw [hfailure]
    rfl

theorem expandArguments_file (h : isPattern s = false) (hfile : fs.isFile (.ofString s) = true)
    (hcsharp : isCSharp (.ofString s) = true) :
    (expandArguments fs [s]).value = [.ofString s] := by
  have hvalue : (argumentFiles fs s).value = [.ofString s] := by
    simp [argumentFiles, h, FileSystem.isDir_of_isFile hfile, hfile]
  rw [value_expandArguments, hvalue, List.filter_cons_of_pos hcsharp]
  rfl

/-- A directory stands for the C# files among what a search finds below it. -/
theorem expandArguments_directory (hfs : fs.WellFormed) (h : isPattern s = false)
    (hdir : fs.isDir (.ofString s) = true) (hfirst : (Path.ofString s).StartsPlainly) :
    ListsCSharp fs ((Glob.descendants fs FileSystem.pathLimit (Glob.base s)).filter
      (Glob.nameFits Glob.csharpNames)) (expandArguments fs [s]).value := by
  obtain ⟨k, hk⟩ := FileSystem.exists_resolve_of_isDir hdir
  have hs := Glob.ne_empty_of_resolve hk
  have hsearch := Glob.search_belowText hs (isPlain_of_isPattern h)
    fun front hfront hne => Glob.exists?_literals hfs hfirst hk hfront hne
  have hvalue : (argumentFiles fs s).value = (patternFiles fs (Glob.belowText s)).value := by
    simp [argumentFiles, h, hdir, Glob.display_below hs]
  rw [value_expandArguments, hvalue, value_patternFiles, hsearch]
  exact listsCSharp_distinct fs _

/-- The files stand below the directory, each is named once, and none is missing that
names behind the directory lead to and whose own name is text with the extension `cs`. -/
structure ListsBelow (fs : FileSystem) (dir : Path) (top : RealPath) (files : List Path) :
    Prop where
  ascends : Path.Ascends files
  sound : ∀ q ∈ files, fs.isFile q = true ∧ isCSharp q = true ∧
    ∃ key, fs.resolve q = .ok key ∧ key.isBelow top = true
  once : ∀ q ∈ files, ∀ q' ∈ files, fs.resolve q = fs.resolve q' → q = q'
  complete : ∀ (names : RealPath) (text : String), names.IsProper →
    names.getLast? = some (Utf8.encode text) → HasCSharpExtension text →
    fs.isFile (dir.join (.ofNames names)) = true →
    ∃ q ∈ files, fs.resolve q = .ok (top ++ names)

section Below

variable {top : RealPath} {q : Path}

/-- Each file that is listed has names below the directory, and stands by these. -/
theorem exists_names_of_mem (tree : fs.IsTree []) (htop : fs.resolve (.ofString s) = .ok top)
    (hfirst : (Path.ofString s).StartsPlainly)
    (hq : q ∈ (Glob.descendants fs FileSystem.pathLimit (Glob.base s)).filter
      (Glob.nameFits Glob.csharpNames)) (hfile : fs.isFile q = true) :
    ∃ names : RealPath, names ≠ [] ∧ q = (Glob.base s).descend names ∧
      fs.resolve q = .ok (top ++ names) := by
  obtain ⟨names, hne, -, rfl, hleads⟩ := Glob.exists_names_of_mem_descendants tree
    (Glob.resolve_base hfirst htop) (List.mem_filter.1 hq).1
  obtain ⟨key, hkey⟩ := FileSystem.exists_resolve_of_isFile hfile
  obtain rfl := hleads key hkey
  exact ⟨names, hne, rfl, hkey⟩

/-- Each name takes at least two bytes of a path. -/
theorem two_mul_length_le {names : RealPath} (h : names.IsProper) :
    2 * names.length ≤ (names.map (·.length + 1)).sum := by
  induction names with
  | nil => exact Nat.le_refl 0
  | cons name names ih =>
      obtain ⟨hname, hnames⟩ := List.forall_mem_cons.1 h
      have hlength := List.length_pos_iff.2 hname.1
      have hrest := ih hnames
      rw [List.length_cons, List.map_cons, List.sum_cons]
      omega

/-- A file by names behind the directory is found. -/
theorem descend_mem (tree : fs.IsTree []) (htop : fs.resolve (.ofString s) = .ok top)
    (hfirst : (Path.ofString s).StartsPlainly) {names : RealPath} (hnames : names.IsProper)
    (hlast : names.getLast? = some (Utf8.encode text)) (htext : HasCSharpExtension text)
    (hfile : fs.isFile ((Path.ofString s).join (.ofNames names)) = true) :
    (Glob.base s).descend names ∈ (Glob.descendants fs FileSystem.pathLimit (Glob.base s)).filter
        (Glob.nameFits Glob.csharpNames) ∧
      fs.isFile ((Glob.base s).descend names) = true ∧
      isCSharp ((Glob.base s).descend names) = true ∧
      fs.resolve ((Glob.base s).descend names) = .ok (top ++ names) := by
  have hne : names ≠ [] := by
    rintro rfl
    cases hlast
  obtain ⟨key, hkey⟩ := FileSystem.exists_resolve_of_isFile hfile
  obtain ⟨rfl, hway⟩ := Glob.resolve_base_descend tree hfirst htop hnames hne hkey
  have hq := hway names (List.prefix_refl names)
  obtain ⟨e, hentry, hregular⟩ := (FileSystem.isFile_of_resolve hkey).1 hfile
  -- the system takes no longer path, so the search goes deep enough
  have hdepth : names.length ≤ FileSystem.pathLimit := by
    have hparts := Path.parts_join_ofString (Glob.ne_empty_of_resolve htop)
      (Path.isAbsolute_ofNames hnames)
    have hshort := (FileSystem.resolve_eq_ok_iff.1 hkey).2.short
    rw [hparts, Path.parts_ofNames hnames hne] at hshort
    have hsum := FileSystem.sum_length_le_of_sublist
      (List.sublist_append_right (Path.ofString (Path.unslashed s)).parts names)
    have htwo := two_mul_length_le hnames
    have hpos := List.length_pos_iff.2 hne
    omega
  have hname : ((Glob.base s).descend names).fileName? = some (Utf8.encode text) := by
    obtain ⟨front, hfront⟩ := List.getLast?_eq_some_iff.1 hlast
    have hdir := hway front ⟨_, hfront.symm⟩
    rw [hfront, Path.descend_append]
    exact Path.fileName?_child (FileSystem.resolve_eq_ok_iff.1 hdir).1
      (hnames _ (List.mem_of_getLast? hlast))
  refine ⟨List.mem_filter.2 ⟨?_, ?_⟩, ?_, ?_, hq⟩
  · exact Glob.mem_descendants_of_entry tree.wellFormed hne hway (by simp [hentry]) hdepth
  · obtain ⟨front, hfront⟩ := htext.exists_toList
    simp only [Glob.nameFits, hname, Option.bind_some, Utf8.decode?_encode]
    rw [hfront]
    exact Glob.accepts_csharpNames front
  · exact (FileSystem.isFile_of_resolve hq).2 ⟨e, hentry, hregular⟩
  · have hextension : ((Glob.base s).descend names).extension? = some (Utf8.encode "cs") := by
      rw [Path.extension?, hname]
      exact htext
    unfold isCSharp
    rw [hextension]
    decide +kernel

end Below

theorem listsBelow_expandArguments (tree : fs.IsTree []) (h : isPattern s = false)
    (hdir : fs.isDir (.ofString s) = true) (hfirst : (Path.ofString s).StartsPlainly)
    {top : RealPath} (htop : fs.resolve (.ofString s) = .ok top) :
    ListsBelow fs (.ofString s) top (expandArguments fs [s]).value := by
  have hlists := expandArguments_directory tree.wellFormed h hdir hfirst
  refine ⟨hlists.ascends, fun q hq => ?_, fun q hq q' hq' heq => ?_, ?_⟩
  · obtain ⟨hmem, hfile, hcsharp⟩ := hlists.sound q hq
    obtain ⟨names, hne, -, hkey⟩ := exists_names_of_mem tree htop hfirst hmem hfile
    refine ⟨hfile, hcsharp, top ++ names, hkey, ?_⟩
    have hpos := List.length_pos_iff.2 hne
    simp [RealPath.isBelow, hpos]
  · obtain ⟨hmem, hfile, -⟩ := hlists.sound q hq
    obtain ⟨hmem', hfile', -⟩ := hlists.sound q' hq'
    obtain ⟨names, -, rfl, hkey⟩ := exists_names_of_mem tree htop hfirst hmem hfile
    obtain ⟨names', -, rfl, hkey'⟩ := exists_names_of_mem tree htop hfirst hmem' hfile'
    rw [hkey, hkey'] at heq
    rw [List.append_cancel_left (Except.ok.inj heq)]
  · intro names text hnames hlast htext hfile
    obtain ⟨hmem, hfile', hcsharp, hkey⟩ :=
      descend_mem tree htop hfirst hnames hlast htext hfile
    obtain ⟨q, hq, hsame⟩ := hlists.complete _ hmem hfile' hcsharp
    obtain ⟨key, hq'⟩ := FileSystem.exists_resolve_of_isFile (hlists.sound q hq).2.1
    exact ⟨q, hq, by rw [hq', FileSystem.resolve_eq_of_same hsame hkey hq']⟩

/-! ## One argument -/

/-- Without links, what one argument stands for: a pattern for the C# files that match
it, a C# file for itself, and a directory for C# files below it. A file is taken for C#
as its language is detected. -/
theorem expandArguments_singleton (tree : fs.IsTree []) (s : String) :
    (isPattern s = true →
      (∀ found, Glob.search fs s = .ok found →
        ListsCSharp fs found (expandArguments fs [s]).value) ∧
      ∀ e, Glob.search fs s = .error e → (expandArguments fs [s]).value = []) ∧
    (isPattern s = false → fs.isFile (.ofString s) = true → isCSharp (.ofString s) = true →
      (expandArguments fs [s]).value = [.ofString s]) ∧
    (isPattern s = false → fs.isDir (.ofString s) = true → (Path.ofString s).StartsPlainly →
      ∃ top, fs.resolve (.ofString s) = .ok top ∧
        ListsBelow fs (.ofString s) top (expandArguments fs [s]).value) ∧
    ∀ p, isCSharp p = true ↔ Language.ofExtension? (extensionOf p) = some .csharp := by
  refine ⟨expandArguments_pattern, expandArguments_file, fun h hdir hfirst => ?_,
    fun p => isCSharp_iff⟩
  obtain ⟨top, htop⟩ := FileSystem.exists_resolve_of_isDir hdir
  exact ⟨top, htop, listsBelow_expandArguments tree h hdir hfirst htop⟩

/-- A directory `d` with a file, and with another one in a directory of its own. -/
def nestedFiles : FileSystem where
  entries :=
    [([[100]], .directory), ([[100], Utf8.encode "b.cs"], .file [120] 5),
      ([[100], [101]], .directory), ([[100], [101], Utf8.encode "a.cs"], .file [120] 5)]
  workingDir := []

theorem FileSystem.namesAt_nestedFiles :
    nestedFiles.namesAt (.ofString "d") = [Utf8.encode "b.cs", [101]] := by
  have hresolve : nestedFiles.resolve (.ofString "d") = .ok [[100]] := by decide +kernel
  have hdir : nestedFiles.entryAt? [[100]] = some .directory := by decide +kernel
  have hnames : nestedFiles.namesIn [[100]] = [Utf8.encode "b.cs", [101]] := by decide +kernel
  rw [namesAt, hresolve]
  simp only [hdir, if_true, hnames]
  exact List.mergeSort_of_pairwise (by decide +kernel)

theorem expandArguments_singleton_nestedFiles :
    nestedFiles.IsTree [] ∧
    (expandArguments nestedFiles ["d/b.cs"]).value = [.ofString "d/b.cs"] ∧
    (∃ q ∈ (expandArguments nestedFiles ["d/"]).value,
      nestedFiles.resolve q = .ok [[100], [101], Utf8.encode "a.cs"]) ∧
    ∃ q ∈ (expandArguments nestedFiles ["d/?.cs"]).value,
      (Path.ofString "d/b.cs").same q = true := by
  have tree : nestedFiles.IsTree [] := by decide +kernel
  refine ⟨tree, ?_, ?_, ?_⟩
  · exact (expandArguments_singleton tree "d/b.cs").2.1 (by decide +kernel) (by decide +kernel)
      (by decide +kernel)
  · have hfirst : (Path.ofString "d/").StartsPlainly := by
      have hparts : (Path.ofString "d/").parts = [[100], []] := by decide +kernel
      refine .inr fun front rest heq hrest => ?_
      rw [hparts] at heq
      cases front with
      | nil => cases heq
      | cons part front =>
          refine ⟨part, List.mem_cons_self, ?_⟩
          rw [← (List.cons.inj heq).1]
          decide
    obtain ⟨top, htop, hlists⟩ :=
      (expandArguments_singleton tree "d/").2.2.1 (by decide +kernel) (by decide +kernel) hfirst
    have hd : nestedFiles.resolve (.ofString "d/") = .ok [[100]] := by decide +kernel
    obtain rfl := Except.ok.inj (htop.symm.trans hd)
    have hextension : HasCSharpExtension "a.cs" := by
      unfold HasCSharpExtension
      decide +kernel
    exact hlists.complete [[101], Utf8.encode "a.cs"] "a.cs" (by decide +kernel) rfl hextension
      (by decide +kernel)
  · have hfollow : Glob.follow nestedFiles
        (Glob.collapse [[.char 'd'], .anyChar :: ".cs".toList.map .char]) (.ofString ".") =
        [.ofString "d/b.cs"] := by
      refine (Glob.follow_plain [['d']] [.anyChar :: ".cs".toList.map .char] _ ?_).trans ?_
      · intro front hfront hne
        have heq : front = [['d']] := by simpa [List.prefix_cons_iff, hne] using hfront
        rw [heq]
        decide +kernel
      · have hd : Path.descend (.ofString ".") ([['d']].map Path.encodePart) = .ofString "d" := by
          decide +kernel
        rw [hd, Glob.follow, show Glob.Pattern.literal? _ = none from rfl]
        simp only [Glob.children, FileSystem.namesAt_nestedFiles]
        decide +kernel
    have hsearch : Glob.search nestedFiles "d/?.cs" = .ok [.ofString "d/b.cs"] :=
      (Glob.search_eq rfl rfl (by simp) (by decide)).trans (congrArg Except.ok hfollow)
    obtain ⟨hmatches, -⟩ := (expandArguments_singleton tree "d/?.cs").1 (by decide +kernel)
    exact (hmatches _ hsearch).complete _ (List.mem_singleton_self _) (by decide +kernel)
      (by decide +kernel)

/-- A working directory with a file whose name has brackets. -/
def bracketedFile : FileSystem where
  entries := [([Utf8.encode "a[1].cs"], .file [120] 5)]
  workingDir := []

/-- The file is there, but its name as an argument is a pattern that it does not match. -/
theorem expandArguments_singleton_bracketedFile :
    bracketedFile.IsTree [] ∧ bracketedFile.isFile (.ofString "a[1].cs") = true ∧
    isCSharp (.ofString "a[1].cs") = true ∧
    (expandArguments bracketedFile ["a[1].cs"]).value ≠ [.ofString "a[1].cs"] := by
  have hfollow : Glob.follow bracketedFile
      (Glob.collapse [.char 'a' :: .ranges false [('1', '1')] :: ".cs".toList.map .char])
      (.ofString ".") = [] := by decide +kernel
  have hsearch : Glob.search bracketedFile "a[1].cs" = .ok [] :=
    (Glob.search_eq rfl rfl (by simp) (by decide)).trans (congrArg Except.ok hfollow)
  have hlists := (expandArguments_pattern (by decide +kernel)).1 _ hsearch
  refine ⟨by decide +kernel, by decide +kernel, by decide +kernel, fun heq => ?_⟩
  have hmem : Path.ofString "a[1].cs" ∈ (expandArguments bracketedFile ["a[1].cs"]).value := by
    rw [heq]
    exact List.mem_singleton_self _
  exact absurd (hlists.sound _ hmem).1 List.not_mem_nil

end SymbolIndex
