-- SUMMARY: The search for the C# files below a path follows the path to the directory that it leads to, and names below it.
import SymbolIndex.Proofs.Glob.Directories
import SymbolIndex.Proofs.Text.Lines

/-!
# Searching below a directory

A search for the C# files below a path is one for a pattern that the path begins. It
follows the texts between the slashes of the path and so spells the path in its own
way, without a slash at the end or leading dots. Both spellings lead to one directory,
and names behind them to what stands by these names below it.
-/

namespace SymbolIndex.Glob

open SymbolIndex.Path (encodePart)

variable {fs : FileSystem} {s : String} {k key : RealPath}

/-! ## The pattern -/

/-- The text of the pattern for the C# files below a path. -/
def belowText (s : String) : String := Path.unslashed s ++ "/**/*.cs"

theorem display_below (hs : s ≠ "") :
    (Path.ofString s / "**" / "*.cs").display = belowText s := by
  have hdepth : Path.ofString s / "**" = .ofString (Path.unslashed s ++ "/**") := by
    refine (Path.join_ofString hs (by decide +kernel)).trans ?_
    have hslash : Path.slash :: Utf8.encode "**" = Utf8.encode "/**" := by decide +kernel
    rw [Path.ofString, Path.ofString, hslash, Utf8.encode_append]
  have hne : Path.unslashed s ++ "/**" ≠ "" := by
    intro heq
    have := congrArg String.toList heq
    simp at this
  have hunslashed : Path.unslashed (Path.unslashed s ++ "/**") = Path.unslashed s ++ "/**" := by
    rw [Path.unslashed, if_neg]
    simp
  have hboth : Path.ofString s / "**" / "*.cs" = .ofString (belowText s) := by
    rw [hdepth]
    refine (Path.join_ofString hne (by decide +kernel)).trans ?_
    have hslash : Path.slash :: Utf8.encode "*.cs" = Utf8.encode "/*.cs" := by decide +kernel
    rw [hunslashed, Path.ofString, Path.ofString, hslash, ← Utf8.encode_append, belowText,
      String.append_assoc]
    rfl
  rw [hboth]
  exact Utf8.decode_encode _

/-- The texts between slashes that the search follows. -/
def literals (s : String) : List (List Char) :=
  if (Path.ofString s).isAbsolute then (Text.splitAt '/' (Path.unslashed s).toList).drop 1
  else Text.splitAt '/' (Path.unslashed s).toList

/-- The directory as the search spells it. -/
def base (s : String) : Path :=
  (Path.start (Path.ofString s).isAbsolute).descend ((literals s).map encodePart)

theorem lead_literals (s : String) :
    Path.lead (Path.ofString s).isAbsolute ++ (literals s).map encodePart =
      (Path.ofString (Path.unslashed s)).parts := by
  unfold literals Path.lead
  split
  case isTrue habsolute =>
    obtain ⟨rest, hrest⟩ := Path.parts_of_isAbsolute habsolute
    obtain ⟨part, parts, hparts⟩ := List.exists_cons_of_ne_nil
      (Text.splitAt_ne_nil Path.slash (Path.ofString (Path.unslashed s)).bytes)
    have hfirst : part = [] := by
      rcases Path.parts_ofString_cases s with ⟨heq, -⟩ | heq <;>
        rw [hrest, Path.parts, hparts] at heq <;> exact (List.cons.inj heq).1.symm
    rw [List.map_drop, ← Path.parts_ofString, Path.parts, hparts, hfirst]
    rfl
  case isFalse => rw [List.nil_append, Path.parts_ofString]

theorem toList_belowText (s : String) :
    (belowText s).toList = (Path.unslashed s).toList ++ '/' :: "**/*.cs".toList := by
  rw [belowText, String.toList_append]
  rfl

theorem head?_belowText (hs : s ≠ "") : (belowText s).toList.head? = s.toList.head? := by
  have hne : s.toList ≠ [] := fun hnil => hs (String.toList_inj.1 (by simpa using hnil))
  obtain ⟨c, cs, hcs⟩ := List.exists_cons_of_ne_nil hne
  rw [toList_belowText]
  rcases Path.unslashed_cases s with ⟨heq, -⟩ | heq
  · rw [← heq, hcs]
    rfl
  · have hslashed : s.toList = (Path.unslashed s).toList ++ ['/'] := by
      conv_lhs => rw [heq, String.toList_append]
      rfl
    rw [List.append_cons, ← hslashed, hcs]
    rfl

theorem patternParts_belowText (hs : s ≠ "") :
    patternParts (if (belowText s).toList.head? = some '/' then (belowText s).toList.drop 1
      else (belowText s).toList) = literals s ++ ["**".toList, "*.cs".toList] := by
  have hsplit : Text.splitAt '/' (belowText s).toList =
      Text.splitAt '/' (Path.unslashed s).toList ++ ["**".toList, "*.cs".toList] := by
    rw [toList_belowText, Text.splitAt_append_sep]
    rfl
  have hparts : Text.splitAt '/' (if (belowText s).toList.head? = some '/' then
      (belowText s).toList.drop 1 else (belowText s).toList) =
      literals s ++ ["**".toList, "*.cs".toList] := by
    rw [literals]
    by_cases habsolute : (Path.ofString s).isAbsolute = true
    · have hhead := Path.isAbsolute_ofString_iff.1 habsolute
      rw [if_pos habsolute, if_pos ((head?_belowText hs).trans hhead)]
      obtain ⟨cs, hcs⟩ := List.head?_eq_some_iff.1 ((head?_belowText hs).trans hhead)
      rw [hcs, Text.splitAt, if_pos rfl] at hsplit
      obtain ⟨part, parts, hpart⟩ :=
        List.exists_cons_of_ne_nil (Text.splitAt_ne_nil '/' (Path.unslashed s).toList)
      rw [hpart, List.cons_append] at hsplit
      rw [hcs, hpart]
      exact (List.cons.inj hsplit).2
    · rw [if_neg habsolute, if_neg, hsplit]
      rw [head?_belowText hs]
      exact mt Path.isAbsolute_ofString_iff.2 habsolute
  rw [patternParts, hparts, if_neg]
  simp

theorem isPlain_unslashed (h : IsPlain s.toList) : IsPlain (Path.unslashed s).toList := by
  intro c hc
  refine h c ?_
  rcases Path.unslashed_cases s with ⟨heq, -⟩ | heq
  · rwa [heq]
  · rw [heq, String.toList_append]
    exact List.mem_append_left _ hc

theorem isPlain_literals (h : IsPlain s.toList) : ∀ part ∈ literals s, IsPlain part := by
  have hmem : ∀ part ∈ literals s, part ∈ Text.splitAt '/' (Path.unslashed s).toList := by
    unfold literals
    split
    case isTrue => exact fun part hpart => List.mem_of_mem_drop hpart
    case isFalse => exact fun part hpart => hpart
  intro part hpart c hc
  by_cases hslash : c = '/'
  · subst hslash
    decide
  · have hin := (Text.exists_mem_splitAt_iff hslash).1 ⟨part, hmem part hpart, hc⟩
    exact isPlain_unslashed h c hin

theorem mapM_ofChars_plain {parts : List (List Char)} (h : ∀ part ∈ parts, IsPlain part) :
    (parts ++ ["**".toList, "*.cs".toList]).mapM Pattern.ofChars =
      .ok (parts.map (List.map .char) ++ [anyDepth, csharpNames]) := by
  induction parts with
  | nil => rfl
  | cons part parts ih =>
      obtain ⟨hpart, hparts⟩ := List.forall_mem_cons.1 h
      rw [List.cons_append, List.mapM_cons, ofChars_plain hpart, ih hparts]
      rfl

/-- The pattern for the C# files below a path leads to everything below the path whose
name fits. -/
theorem search_belowText (hs : s ≠ "") (hplain : IsPlain s.toList)
    (hexists : ∀ front, front <+: literals s → front ≠ [] → fs.exists?
      ((Path.start (Path.ofString s).isAbsolute).descend (front.map encodePart)) = true) :
    search fs (belowText s) =
      .ok ((descendants fs FileSystem.pathLimit (base s)).filter (nameFits csharpNames)) := by
  obtain ⟨pattern, hpattern⟩ := exists_ofChars_below (isPlain_unslashed hplain)
  rw [← String.toList_append, ← belowText] at hpattern
  have hstart : Path.ofString (if (belowText s).toList.head? = some '/' then "/" else ".") =
      Path.start (Path.ofString s).isAbsolute := by
    simp only [Path.start, head?_belowText hs, Path.isAbsolute_ofString_iff]
  have hpatterns := mapM_ofChars_plain (isPlain_literals hplain)
  rw [← patternParts_belowText hs] at hpatterns
  rw [search_eq hpattern hpatterns (by simp) (by simp [belowText]), hstart, collapse_below,
    follow_plain _ _ _ hexists, follow_below, base]

/-! ## Where the search gets -/

theorem ne_empty_of_resolve (h : fs.resolve (.ofString s) = .ok k) : s ≠ "" := by
  rintro rfl
  exact (FileSystem.resolve_eq_ok_iff.1 h).1 (by decide +kernel)

theorem follows_literals (h : fs.resolve (.ofString s) = .ok k) :
    fs.Follows (Path.ofString s).isAbsolute
      (Path.lead (Path.ofString s).isAbsolute ++ (literals s).map encodePart) k := by
  have hparts := (FileSystem.resolve_eq_ok_iff.1 h).2
  rw [lead_literals]
  rcases Path.parts_ofString_cases s with ⟨heq, -⟩ | heq
  · rwa [heq] at hparts
  · rw [heq] at hparts
    exact hparts.of_sublist (List.sublist_append_left _ _) (by simp [Path.isStep])

theorem slash_notMem_literals : ∀ name ∈ (literals s).map encodePart, Path.slash ∉ name := by
  intro name hname
  have hpart : name ∈ (Path.ofString (Path.unslashed s)).parts := by
    rw [← lead_literals]
    exact List.mem_append_right _ hname
  exact Text.notMem_of_mem_splitAt hpart

/-- A text that ends in a blank part ends in a slash. -/
theorem getLast?_of_parts {p : Path} {front : List Bytes} (hp : p.bytes ≠ [])
    (h : p.parts = front ++ [[]]) : p.bytes.getLast? = some Path.slash := by
  have hbytes := Text.intercalate_splitAt Path.slash p.bytes
  rw [← Path.parts, h] at hbytes
  cases front with
  | nil => exact absurd hbytes.symm hp
  | cons part front =>
      rw [Text.intercalate_append (by simp) (by simp)] at hbytes
      rw [← hbytes]
      simp

theorem stepsFirst_literals (hs : s ≠ "") (h : (Path.ofString s).StartsPlainly)
    (hrelative : (Path.ofString s).isAbsolute = false) :
    Path.StepsFirst ((literals s).map encodePart) := by
  rcases h with habsolute | hsteps
  · rw [hrelative] at habsolute
    cases habsolute
  have hparts := lead_literals s
  rw [hrelative, Path.lead, if_neg (by simp), List.nil_append] at hparts
  rw [hparts]
  rintro front ⟨rest, hrest⟩
  rw [List.append_assoc, List.singleton_append] at hrest
  rcases Path.parts_ofString_cases s with ⟨heq, hlast⟩ | heq
  · rw [← heq] at hrest
    refine hsteps front rest hrest.symm ?_
    rintro rfl
    exact hlast (Path.getLast?_ofString_iff.1
      (getLast?_of_parts (Path.ne_nil_of_ne_empty hs) hrest.symm))
  · refine hsteps front (rest ++ [[]]) ?_ (by simp)
    rw [heq, ← hrest]
    simp

/-- What spells the front of the followed parts and names leads where these lead. -/
theorem resolve_descend (hs : s ≠ "") (hfirst : (Path.ofString s).StartsPlainly)
    {names : RealPath} (hnames : names.IsProper) {parts : List Bytes}
    (hparts : parts <+: (literals s).map encodePart ++ names) (hne : parts ≠ [])
    (h : fs.Follows (Path.ofString s).isAbsolute
      (Path.lead (Path.ofString s).isAbsolute ++ parts) key) :
    fs.resolve ((Path.start (Path.ofString s).isAbsolute).descend parts) = .ok key := by
  refine h.resolve (Path.spells_descend _ hne (fun name hname => ?_) fun hrelative => ?_)
  · rcases List.mem_append.1 (hparts.subset hname) with hname | hname
    · exact slash_notMem_literals name hname
    · exact (hnames name hname).2.2.2
  · have hsteps := (stepsFirst_literals hs hfirst hrelative).append hnames
    exact hsteps.of_prefix hparts

theorem isProper_nil : RealPath.IsProper [] := fun _ hname => absurd hname List.not_mem_nil

theorem exists?_literals (hfs : fs.WellFormed) (hfirst : (Path.ofString s).StartsPlainly)
    (hdir : fs.resolve (.ofString s) = .ok k) {front : List (List Char)}
    (hfront : front <+: literals s) (hne : front ≠ []) :
    fs.exists? ((Path.start (Path.ofString s).isAbsolute).descend (front.map encodePart)) =
      true := by
  obtain ⟨rest, hrest⟩ := hfront
  have hfollows := follows_literals hdir
  rw [← hrest, List.map_append, ← List.append_assoc] at hfollows
  obtain ⟨mid, hmid⟩ := hfollows.exists_front
  have hne' : front.map encodePart ≠ [] := by simpa using hne
  refine FileSystem.exists?_of_resolve (resolve_descend (ne_empty_of_resolve hdir) hfirst
    isProper_nil ?_ hne' hmid) (hmid.isSome hfs (by simp [hne]))
  rw [← hrest, List.map_append, List.append_nil]
  exact List.prefix_append _ _

theorem resolve_base (hfirst : (Path.ofString s).StartsPlainly)
    (hdir : fs.resolve (.ofString s) = .ok k) : fs.resolve (base s) = .ok k := by
  have hs := ne_empty_of_resolve hdir
  have hfollows := follows_literals hdir
  by_cases hnil : (literals s).map encodePart = []
  · -- only the root has no parts
    have habsolute : (Path.ofString s).isAbsolute = true := by
      by_contra hrelative
      rw [List.map_eq_nil_iff, literals, if_neg hrelative] at hnil
      exact Text.splitAt_ne_nil _ _ hnil
    have hgoes := hfollows.goes
    rw [hnil, habsolute, Path.lead, if_pos rfl, if_pos rfl, List.append_nil,
      FileSystem.resolveFrom] at hgoes
    simp only [FileSystem.entryAt?_nil, ne_eq, not_true_eq_false, if_false, true_or, if_true,
      FileSystem.resolveFrom] at hgoes
    rw [base, hnil, habsolute, ← Except.ok.inj hgoes]
    exact fs.resolve_root
  · exact resolve_descend hs hfirst isProper_nil (List.prefix_append _ _) hnil hfollows

/-- Names joined to the path lead to what stands by these names below the directory, and
so do the same names behind the spelling of the search. -/
theorem resolve_base_descend (tree : fs.IsTree []) (hfirst : (Path.ofString s).StartsPlainly)
    (hdir : fs.resolve (.ofString s) = .ok k) {names : RealPath} (hnames : names.IsProper)
    (hne : names ≠ [])
    (h : fs.resolve ((Path.ofString s).join (.ofNames names)) = .ok key) :
    key = k ++ names ∧
      ∀ front, front <+: names → fs.resolve ((base s).descend front) = .ok (k ++ front) := by
  have hs := ne_empty_of_resolve hdir
  have hfollows := follows_literals hdir
  have hrelative := Path.isAbsolute_ofNames hnames
  have hparts : ((Path.ofString s).join (.ofNames names)).parts =
      Path.lead (Path.ofString s).isAbsolute ++ (literals s).map encodePart ++ names := by
    rw [Path.parts_join_ofString hs hrelative, Path.parts_ofNames hnames hne, lead_literals]
  have hjoined := (FileSystem.resolve_eq_ok_iff.1 h).2
  rw [hparts, Path.isAbsolute_join_eq (Path.ne_nil_of_ne_empty hs) hrelative] at hjoined
  have hleads : ∀ {front : RealPath} {mid : RealPath}, front <+: names →
      fs.Follows (Path.ofString s).isAbsolute
        (Path.lead (Path.ofString s).isAbsolute ++ (literals s).map encodePart ++ front) mid →
      mid = k ++ front := fun hfront hmid =>
    FileSystem.eq_append_of_resolveFrom (hnames.of_prefix hfront)
      (fun _ _ _ target => tree.isLinkFree.not_link List.nil_prefix (List.prefix_refl _) target)
      hfollows.goes hmid.goes
  refine ⟨hleads (List.prefix_refl names) hjoined, fun front hfront => ?_⟩
  -- without names the search is at the directory, which may be the root
  by_cases hnil : front = []
  · rw [hnil, Path.descend_nil, List.append_nil]
    exact resolve_base hfirst hdir
  · obtain ⟨rest, rfl⟩ := hfront
    rw [← List.append_assoc] at hjoined
    obtain ⟨mid, hmid⟩ := hjoined.exists_front
    rw [base, ← Path.descend_append, ← hleads (List.prefix_append front rest) hmid]
    rw [List.append_assoc] at hmid
    exact resolve_descend hs hfirst hnames
      (List.prefix_append_right_inj _ |>.2 (List.prefix_append front rest)) (by simp [hnil]) hmid

end SymbolIndex.Glob
