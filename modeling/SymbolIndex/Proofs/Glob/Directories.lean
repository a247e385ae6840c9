-- SUMMARY: Reading patterns of plain text, following them, and what stands below a directory.
import SymbolIndex.Proofs.File.Children
import SymbolIndex.Proofs.File.Written

/-!
# Patterns for what stands below a directory

Text without wildcards is a pattern for itself, and following it leads through the
paths that it spells. The pattern `**` then takes everything below the directory.
Without links that is what stands there, each thing under the names that lead to it.
-/

namespace SymbolIndex.Glob

open SymbolIndex.Path (encodePart)

/-! ## Text without wildcards -/

/-- No wildcard is among the characters. -/
def IsPlain (cs : List Char) : Prop := ∀ c ∈ cs, c ≠ '*' ∧ c ≠ '?' ∧ c ≠ '['

/-- Plain text in front of a pattern is read as it is. -/
theorem readFrom_append {cs : List Char} (h : IsPlain cs) (fuel position : Nat)
    (before : Option Char) (rest : List Char) :
    ∃ before', readFrom (cs.length + fuel) position before (cs ++ rest) =
      (readFrom fuel (position + cs.length) before' rest).map (cs.map Token.char ++ ·) := by
  induction cs generalizing position before with
  | nil =>
      refine ⟨before, ?_⟩
      rw [List.length_nil, Nat.zero_add, Nat.add_zero, List.nil_append]
      cases readFrom fuel position before rest <;> rfl
  | cons c cs ih =>
      obtain ⟨hstar, hmark, hbracket⟩ := h c List.mem_cons_self
      obtain ⟨before', hrest⟩ :=
        ih (fun d hd => h d (List.mem_cons_of_mem _ hd)) (position + 1) (some c)
      refine ⟨before', ?_⟩
      rw [List.length_cons, Nat.succ_add, List.cons_append, readFrom, if_neg hmark, if_neg hstar,
        if_neg hbracket, hrest, show position + 1 + cs.length = position + (cs.length + 1) by omega]
      cases readFrom fuel (position + (cs.length + 1)) before' rest <;> rfl

theorem ofChars_plain {cs : List Char} (h : IsPlain cs) :
    Pattern.ofChars cs = .ok (cs.map .char) := by
  obtain ⟨before, hread⟩ := readFrom_append h 0 0 none []
  rw [List.append_nil, Nat.add_zero] at hread
  rw [Pattern.ofChars, hread, readFrom]
  simp [Except.map]

theorem literal?_plain (cs : List Char) : Pattern.literal? (cs.map .char) = some cs := by
  unfold Pattern.literal?
  induction cs with
  | nil => rfl
  | cons c cs ih =>
      rw [List.map_cons, List.mapM_cons, ih]
      rfl

/-- The pattern `**`. -/
def anyDepth : Pattern := [.anyDirectories]

/-- The pattern `*.cs`. -/
def csharpNames : Pattern := [.anySequence, .char '.', .char 'c', .char 's']

/-- Behind a directory `**` and `*.cs` make a pattern. -/
theorem exists_ofChars_below {cs : List Char} (h : IsPlain cs) :
    ∃ pattern, Pattern.ofChars (cs ++ "/**/*.cs".toList) = .ok pattern := by
  obtain ⟨before, hread⟩ := readFrom_append h 8 0 none "/**/*.cs".toList
  refine ⟨cs.map .char ++ .char '/' :: .anyDirectories :: csharpNames, ?_⟩
  rw [Pattern.ofChars, List.length_append]
  exact hread

/-! ## Names -/

theorem accepts_plain (cs : List Char) : Pattern.accepts (cs.map .char) cs = true := by
  induction cs with
  | nil => simp [Pattern.accepts]
  | cons c cs ih => simp [Pattern.accepts, Token.accepts, ih]

theorem accepts_anySequence {tokens : Pattern} {suffix : List Char}
    (h : tokens.accepts suffix = true) (front : List Char) :
    Pattern.accepts (.anySequence :: tokens) (front ++ suffix) = true := by
  induction front with
  | nil =>
      cases suffix with
      | nil => rw [List.append_nil, Pattern.accepts, h]
      | cons c cs => rw [List.nil_append, Pattern.accepts, h, Bool.true_or]
  | cons c front ih => rw [List.cons_append, Pattern.accepts, ih, Bool.or_true]

theorem accepts_csharpNames (front : List Char) :
    csharpNames.accepts (front ++ ".cs".toList) = true :=
  accepts_anySequence (accepts_plain ".cs".toList) front

/-! ## Following a pattern -/

variable {fs : FileSystem} {dir p : Path} {name : Bytes} {k key : RealPath} {depth : Nat}

/-- Plain parts lead through the paths that they spell, as long as these exist. -/
theorem follow_plain (parts : List (List Char)) (patterns : List Pattern) (dir : Path)
    (h : ∀ front, front <+: parts → front ≠ [] →
      fs.exists? (dir.descend (front.map encodePart)) = true) :
    follow fs (parts.map (List.map .char) ++ patterns) dir =
      follow fs patterns (dir.descend (parts.map encodePart)) := by
  induction parts generalizing dir with
  | nil => rfl
  | cons part parts ih =>
      have hnext : fs.exists? (dir.child (encodePart part)) = true :=
        h [part] (by simp) (List.cons_ne_nil _ _)
      rw [List.map_cons, List.cons_append, follow, literal?_plain]
      dsimp only
      rw [← encodePart, if_pos hnext, ih]
      · rfl
      · intro front hfront _
        exact h (part :: front) (List.cons_prefix_cons.2 ⟨rfl, hfront⟩) (List.cons_ne_nil _ _)

/-- Below a directory everything is taken whose name fits. -/
theorem follow_below (dir : Path) :
    follow fs [anyDepth, csharpNames] dir =
      (descendants fs FileSystem.pathLimit dir).filter (nameFits csharpNames) := by
  have hdepth : anyDepth.literal? = none := rfl
  rw [follow, hdepth]
  dsimp only
  rw [if_pos (by decide)]
  exact List.flatMap_singleton' _

/-- A pattern that does not end in a slash is followed part by part. -/
theorem search_eq {pattern : String} {whole : Pattern} {patterns : List Pattern}
    (hwhole : Pattern.ofChars pattern.toList = .ok whole)
    (hparts : (patternParts (if pattern.toList.head? = some '/' then pattern.toList.drop 1
      else pattern.toList)).mapM Pattern.ofChars = .ok patterns)
    (hne : patterns ≠ []) (hlast : pattern.toList.getLast? ≠ some '/') :
    search fs pattern = .ok (follow fs (collapse patterns)
      (.ofString (if pattern.toList.head? = some '/' then "/" else "."))) := by
  have hsome : patternParts (if pattern.toList.head? = some '/' then pattern.toList.drop 1
      else pattern.toList) ≠ [] := by
    intro hnil
    rw [hnil] at hparts
    exact hne (Except.ok.inj hparts).symm
  unfold search
  simp only [hwhole, hparts, bind, Except.bind, List.isEmpty_eq_false_iff.2 hsome, Bool.and_false,
    Bool.false_eq_true, if_false, List.isEmpty_eq_false_iff.2 hne, if_neg hlast]

theorem collapse_cons {pattern : Pattern} (h : pattern.isRecursive = false)
    (patterns : List Pattern) : collapse (pattern :: patterns) = pattern :: collapse patterns := by
  cases patterns with
  | nil => rfl
  | cons next patterns => rw [collapse, h, Bool.false_and, if_neg (by simp)]

theorem collapse_below (parts : List (List Char)) :
    collapse (parts.map (List.map .char) ++ [anyDepth, csharpNames]) =
      parts.map (List.map .char) ++ [anyDepth, csharpNames] := by
  induction parts with
  | nil => decide
  | cons part parts ih =>
      have hpart : Pattern.isRecursive (part.map .char) = false := by
        simp [Pattern.isRecursive]
      rw [List.map_cons, List.cons_append, collapse_cons hpart, ih]

/-! ## Below a directory -/

theorem mem_descendants_succ :
    p ∈ descendants fs (depth + 1) dir ↔
      ∃ name ∈ fs.namesAt dir, p = dir.child name ∨
        fs.isDir (dir.child name) = true ∧ p ∈ descendants fs depth (dir.child name) := by
  rw [descendants, children, List.mem_flatMap]
  simp only [List.mem_map, exists_exists_and_eq_and]
  refine exists_congr fun name => and_congr_right fun _ => ?_
  split
  case isTrue hdir => simp [hdir]
  case isFalse hdir => simp [hdir]

/-- What is found below a directory has names there, and if it leads anywhere, it leads
to what stands by these names. -/
theorem exists_names_of_mem_descendants (tree : fs.IsTree []) (hdir : fs.resolve dir = .ok k)
    (h : p ∈ descendants fs depth dir) :
    ∃ names : RealPath, names ≠ [] ∧ names.IsProper ∧ p = dir.descend names ∧
      ∀ key, fs.resolve p = .ok key → key = k ++ names := by
  induction depth generalizing dir k with
  | zero => cases h
  | succ depth ih =>
      obtain ⟨name, hname, hp⟩ := mem_descendants_succ.1 h
      obtain ⟨e, hentry⟩ := Option.isSome_iff_exists.1
        (tree.wellFormed.mem_namesIn_iff.1 ((FileSystem.mem_namesAt_iff hdir).1 hname).2)
      have hisName : Path.IsName name := tree.wellFormed.isProper hentry name (by simp)
      have hchild : ∀ key, fs.resolve (dir.child name) = .ok key → key = k ++ [name] :=
        fun key => FileSystem.eq_of_resolve_child hisName
          (fun target => tree.isLinkFree.not_link List.nil_prefix (List.prefix_refl _) target) hdir
      rcases hp with rfl | ⟨hisDir, hbelow⟩
      · exact ⟨[name], by simp, fun n hn => List.mem_singleton.1 hn ▸ hisName, rfl, hchild⟩
      · obtain ⟨key, hkey⟩ := FileSystem.exists_resolve_of_isDir hisDir
        obtain rfl := hchild key hkey
        obtain ⟨names, -, hnames, rfl, hleads⟩ := ih hkey hbelow
        refine ⟨name :: names, by simp, ?_, rfl, ?_⟩
        · exact List.forall_mem_cons.2 ⟨hisName, hnames⟩
        · simpa using hleads

/-- What stands below a directory is found, if its names can be followed that far. -/
theorem mem_descendants_of_entry (hfs : fs.WellFormed) {names : RealPath} (hne : names ≠ [])
    (hway : ∀ front, front <+: names → fs.resolve (dir.descend front) = .ok (k ++ front))
    (hentry : (fs.entryAt? (k ++ names)).isSome) (hdepth : names.length ≤ depth) :
    dir.descend names ∈ descendants fs depth dir := by
  induction names generalizing dir k depth with
  | nil => exact absurd rfl hne
  | cons name rest ih =>
      obtain ⟨depth, rfl⟩ := Nat.exists_eq_succ_of_ne_zero (Nat.ne_zero_of_lt hdepth)
      obtain ⟨e, hentry⟩ := Option.isSome_iff_exists.1 hentry
      have hdir : fs.resolve dir = .ok k := by simpa using hway [] List.nil_prefix
      have hchild : fs.resolve (dir.child name) = .ok (k ++ [name]) := hway [name] (by simp)
      have hhere : fs.entryAt? k = some .directory :=
        hfs.isDirectory_of_append (List.cons_ne_nil _ _) hentry
      have hsome : rest ≠ [] → fs.entryAt? (k ++ [name]) = some .directory := fun hrest =>
        hfs.isDirectory_of_append hrest (by simpa using hentry)
      have hname : name ∈ fs.namesAt dir := by
        refine (FileSystem.mem_namesAt_iff hdir).2 ⟨hhere, hfs.mem_namesIn_iff.2 ?_⟩
        by_cases hrest : rest = []
        · rw [← hrest, hentry]
          rfl
        · rw [hsome hrest]
          rfl
      refine mem_descendants_succ.2 ⟨name, hname, ?_⟩
      by_cases hrest : rest = []
      · subst hrest
        exact .inl rfl
      · refine .inr ⟨(FileSystem.isDir_of_resolve hchild).2 (hsome hrest), ?_⟩
        refine ih hrest (k := k ++ [name]) (fun front hfront => ?_) ?_
          (Nat.le_of_succ_le_succ hdepth)
        · simpa using hway (name :: front) (List.cons_prefix_cons.2 ⟨rfl, hfront⟩)
        · simp [hentry]

end SymbolIndex.Glob
