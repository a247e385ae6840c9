-- SUMMARY: Which rules decide: those of the nearest directory for a walk, those on the nearest path for one ignore file.
import SymbolIndex.Proofs.Ignore.Walking

/-!
# Verdicts

Where only `.gitignore` files have rules, a walk asks the nearest directory
that has a verdict on a path. A single ignore file that is asked about a path
and all above it gives the verdict on the nearest of them.
-/

namespace SymbolIndex

/-! ## First answers -/

namespace Text

theorem findSome?_congr {f g : α → Option β} {xs : List α} (h : ∀ x ∈ xs, f x = g x) :
    xs.findSome? f = xs.findSome? g := by
  induction xs with
  | nil => rfl
  | cons x xs ih =>
      rw [List.findSome?_cons, List.findSome?_cons, h x List.mem_cons_self,
        ih fun y hy => h y (List.mem_cons_of_mem x hy)]

/-- The last number with an answer. -/
theorem findSome?_range_reverse {f : Nat → Option α} {n : Nat} {v : α} :
    (List.range n).reverse.findSome? f = some v ↔
      ∃ i, i < n ∧ f i = some v ∧ ∀ j, i < j → j < n → f j = none := by
  induction n with
  | zero => simp
  | succ n ih =>
      rw [List.range_succ, List.reverse_append, List.reverse_singleton, List.singleton_append]
      cases hn : f n with
      | some u =>
          rw [List.findSome?_cons_of_isSome (by simp [hn]), hn]
          constructor
          · rintro huv
            exact ⟨n, Nat.lt_succ_self n, hn.trans huv, fun j hj hj' => by omega⟩
          · intro h
            obtain ⟨i, hi, hv, hafter⟩ := h
            rcases Nat.lt_succ_iff_lt_or_eq.1 hi with hlt | rfl
            · rw [hafter n hlt (Nat.lt_succ_self n)] at hn
              cases hn
            · exact hn.symm.trans hv
      | none =>
          rw [List.findSome?_cons_of_isNone (by simp [hn]), ih]
          constructor
          · intro h
            obtain ⟨i, hi, hv, hafter⟩ := h
            refine ⟨i, Nat.lt_succ_of_lt hi, hv, fun j hj hj' => ?_⟩
            rcases Nat.lt_succ_iff_lt_or_eq.1 hj' with hlt | rfl
            · exact hafter j hj hlt
            · exact hn
          · intro h
            obtain ⟨i, hi, hv, hafter⟩ := h
            rcases Nat.lt_succ_iff_lt_or_eq.1 hi with hlt | rfl
            · exact ⟨i, hlt, hv, fun j hj hj' => hafter j hj (Nat.lt_succ_of_lt hj')⟩
            · rw [hv] at hn
              cases hn

/-- Of the prefixes of `whole` in a list with the longest in front, the longest
one that has an answer. -/
theorem findSome?_prefixes {f : List α → Option β} {ls : List (List α)} {whole : List α} {v : β}
    (hsorted : ls.Pairwise fun a b => b.length ≤ a.length) (hpre : ∀ a, (f a).isSome → a <+: whole) :
    ls.findSome? f = some v ↔
      ∃ a ∈ ls, f a = some v ∧ ∀ b ∈ ls, a.length < b.length → f b = none := by
  constructor
  · intro h
    obtain ⟨front, a, back, rfl, ha, hfront⟩ := List.findSome?_eq_some_iff.1 h
    refine ⟨a, by simp, ha, fun b hb hlt => ?_⟩
    rcases List.mem_append.1 hb with hb | hb
    · exact hfront b hb
    · rcases List.mem_cons.1 hb with rfl | hb
      · exact absurd hlt (Nat.lt_irrefl _)
      · have hle := (List.pairwise_cons.1 (List.pairwise_append.1 hsorted).2.1).1 b hb
        exact absurd hlt (Nat.not_lt.2 hle)
  · intro h
    obtain ⟨a, ha, hv, hlonger⟩ := h
    cases hfind : ls.findSome? f with
    | none =>
        rw [List.findSome?_eq_none_iff.1 hfind a ha] at hv
        cases hv
    | some u =>
        obtain ⟨front, b, back, rfl, hb, hfront⟩ := List.findSome?_eq_some_iff.1 hfind
        have hba : b = a := by
          rcases List.mem_append.1 ha with ha | ha
          · rw [hfront a ha] at hv
            cases hv
          · rcases List.mem_cons.1 ha with rfl | ha
            · rfl
            · have hle := (List.pairwise_cons.1 (List.pairwise_append.1 hsorted).2.1).1 a ha
              have hnlt : ¬ a.length < b.length := by
                intro hlt
                rw [hlonger b (by simp) hlt] at hb
                cases hb
              have hlen : b.length = a.length := by omega
              have hpb := hpre b (by simp [hb])
              have hpa := hpre a (by simp [hv])
              exact (List.prefix_of_prefix_length_le hpb hpa (Nat.le_of_eq hlen)).eq_of_length hlen
        rw [← hv, ← hba, hb]

end Text

/-! ## Relative paths -/

namespace RealPath

variable {names key dir : RealPath}

/-- The names joined by slashes. -/
def spell (names : RealPath) : Path := ⟨[Path.slash].intercalate names⟩

theorem relativeTo_eq (key dir : RealPath) : key.relativeTo dir = spell (key.drop dir.length) := rfl

theorem parts_spell (h : names.IsProper) (hne : names ≠ []) : (spell names).parts = names := by
  rw [Path.parts, spell, Text.splitAt_intercalate hne fun name hn => (h name hn).2.2.2]

theorem components_spell (h : names.IsProper) :
    (spell names).components = names.map .normal := by
  unfold Path.components
  by_cases hne : names = []
  · rw [hne]
    rfl
  · rw [parts_spell h hne, spell, isAbsolute_relative h]
    cases names with
    | nil => exact absurd rfl hne
    | cons name rest =>
        have hdot : name ≠ [Path.dot] := (h name List.mem_cons_self).2.1
        simp only [Bool.false_eq_true, if_false, hdot]
        exact Path.innerComponents_of_isName h

theorem dropLast_spell (h : names.IsProper) (hne : names ≠ []) :
    (spell names).dropLast = spell names.dropLast := by
  have hback : IsProper names.reverse := fun name hn => h name (List.mem_reverse.1 hn)
  have hdrop : IsProper (names.reverse.drop 1) := fun name hn => hback name (List.mem_of_mem_drop hn)
  unfold Path.dropLast
  rw [parts_spell h hne, Path.skipBlank_of_isName hback, Path.skipBlank_of_isName hdrop,
    List.drop_one, List.tail_reverse, List.reverse_reverse]
  rfl

/-- The paths above are those of fewer names. -/
theorem above_spell (h : names.IsProper) :
    (spell names).above names.length =
      (List.range names.length).reverse.map fun n => spell (names.take n) := by
  induction names using List.reverseRecOn with
  | nil => rfl
  | append_singleton names name ih =>
      have hnames : IsProper names := fun n hn => h n (List.mem_append_left _ hn)
      rw [List.length_append, List.length_singleton, Path.above, dropLast_spell h (by simp),
        List.dropLast_concat, ih hnames, List.range_succ, List.reverse_append,
        List.reverse_singleton, List.singleton_append, List.map_cons, List.take_left]
      refine congrArg _ (List.map_congr_left fun n hn => ?_)
      have hlt : n < names.length := List.mem_range.1 (List.mem_reverse.1 hn)
      rw [List.take_append_of_le_length (Nat.le_of_lt hlt)]

end RealPath

namespace Ignore

variable {rules : List Rule} {v : Verdict}

@[simp] theorem verdict?_nil (path : Bytes) (isDir : Bool) : verdict? [] path isDir = none := rfl

theorem verdict?_of_ignoring (h : ∀ rule ∈ rules, rule.verdict = .ignored) (path : Bytes)
    (isDir : Bool) :
    verdict? rules path isDir = none ∨ verdict? rules path isDir = some .ignored := by
  unfold verdict?
  cases hfind : rules.reverse.find? (·.matches path isDir) with
  | none => exact .inl rfl
  | some rule =>
      have hmem := List.mem_reverse.1 (List.mem_of_find?_eq_some hfind)
      exact .inr (congrArg some (h rule hmem))

/-- The nearest path with a verdict decides: the file, or a directory above it. -/
theorem verdictUpward?_spell {names : RealPath} (h : names.IsProper) :
    verdictUpward? rules (RealPath.spell names) = some v ↔
      ∃ i, i ≤ names.length ∧
        verdict? rules (RealPath.spell (names.take i)).bytes (i < names.length) = some v ∧
        ∀ j, i < j → j ≤ names.length →
          verdict? rules (RealPath.spell (names.take j)).bytes (j < names.length) = none := by
  have hall : verdictUpward? rules (RealPath.spell names) =
      (List.range (names.length + 1)).reverse.findSome? fun i =>
        verdict? rules (RealPath.spell (names.take i)).bytes (i < names.length) := by
    rw [verdictUpward?, RealPath.components_spell h, List.length_map, RealPath.above_spell h,
      List.findSome?_map, List.range_succ, List.reverse_append, List.reverse_singleton,
      List.singleton_append, List.findSome?_cons]
    simp only [List.take_length, Nat.lt_irrefl, decide_false]
    have habove : ∀ i ∈ (List.range names.length).reverse,
        ((fun p : Path => verdict? rules p.bytes true) ∘ fun n => RealPath.spell (names.take n)) i =
          verdict? rules (RealPath.spell (names.take i)).bytes (i < names.length) := by
      intro i hi
      rw [decide_eq_true (List.mem_range.1 (List.mem_reverse.1 hi))]
      rfl
    rw [Text.findSome?_congr habove]
    cases verdict? rules (RealPath.spell names).bytes false <;> rfl
  rw [hall, Text.findSome?_range_reverse]
  simp only [Nat.lt_succ_iff]

end Ignore

/-! ## Levels -/

namespace Ignore

variable {fs : FileSystem} {dir part top : RealPath}

theorem withoutDot_toPath (key : RealPath) : withoutDot key.toPath.bytes = key.toPath.bytes := rfl

/-- The rules of a directory see what is written behind it. -/
theorem behind_read (hpart : part.IsProper) (hunder : dir <+: part) (hne : dir ≠ part) :
    (Level.read fs dir dir.toPath).behind part.toPath.bytes = (part.relativeTo dir).bytes := by
  have hdir : dir.IsProper := hpart.of_prefix hunder
  obtain ⟨rest, rfl⟩ := hunder
  have hrest : RealPath.IsProper rest := fun name hn => hpart name (List.mem_append_right _ hn)
  have hnil : rest ≠ [] := by
    rintro rfl
    simp at hne
  have hdot : Path.same ⟨dir.toPath.bytes⟩ ⟨[Path.dot]⟩ = false := by
    have hstd : Path.components ⟨[Path.dot]⟩ = [.current] := by decide
    simp [Path.same, RealPath.components_toPath hdir, hstd]
  have hslash : (dir ++ rest).toPath.bytes.contains slash = true := by
    simp [RealPath.toPath, slash, Path.slash]
  have hrelative : RealPath.relativeTo (dir ++ rest) dir = ⟨[Path.slash].intercalate rest⟩ := by
    simp [RealPath.relativeTo]
  have hfront : Text.stripFront? [slash] ([Path.slash].intercalate rest) = none := by
    refine Option.eq_none_iff_forall_ne_some.2 fun behind hbehind => ?_
    have habsolute := RealPath.isAbsolute_relative hrest
    rw [Text.stripFront?_eq_some_iff.1 hbehind] at habsolute
    exact absurd habsolute (by simp [Path.isAbsolute, slash, Path.slash])
  unfold Level.behind
  simp only [Level.read, withoutDot_toPath, hdot, hslash, hrelative]
  by_cases hroot : dir = []
  · have hstrip : Text.stripFront? dir.toPath.bytes (dir ++ rest).toPath.bytes =
        some ([Path.slash].intercalate rest) :=
      Text.stripFront?_eq_some_iff.2 (by simp [RealPath.toPath, hroot])
    simp [hstrip, hfront]
  · have hstrip : Text.stripFront? dir.toPath.bytes (dir ++ rest).toPath.bytes =
        some (slash :: [Path.slash].intercalate rest) :=
      Text.stripFront?_eq_some_iff.2
        (by simp [RealPath.toPath, Text.intercalate_append hroot hnil, slash, Path.slash])
    simp [hstrip, Text.stripFront?]

theorem findSome?_above {levels : List Level} {kind : Level → IgnoreFile} {key : RealPath}
    {isDir : Bool} (h : ∀ level ∈ levels, (kind level).rules = []) :
    (levels.findSome? fun level =>
      verdict? (kind level).rules (level.behind key.toPath.bytes) isDir) = none := by
  refine List.findSome?_eq_none_iff.2 fun level hlevel => ?_
  rw [h level hlevel, verdict?_nil]

theorem Levels.kindVerdict?_of_inside {levels : Levels} {kind : Level → IgnoreFile} {key : RealPath}
    {path : Bytes} {isDir : Bool} (h : ∀ level ∈ levels.above, (kind level).rules = []) :
    levels.kindVerdict? kind key path isDir =
      levels.inside.findSome? fun level =>
        if key.isBelow level.dir then
          Ignore.verdict? (kind level).rules (level.behind (withoutDot path)) isDir
        else none := by
  rw [kindVerdict?, findSome?_above h, Option.or_none]

theorem Levels.kindVerdict?_eq_none {levels : Levels} {kind : Level → IgnoreFile} {key : RealPath}
    {path : Bytes} {isDir : Bool} (hinside : ∀ level ∈ levels.inside, (kind level).rules = [])
    (habove : ∀ level ∈ levels.above, (kind level).rules = []) :
    levels.kindVerdict? kind key path isDir = none := by
  rw [kindVerdict?_of_inside habove]
  refine List.findSome?_eq_none_iff.2 fun level hlevel => ?_
  rw [hinside level hlevel, verdict?_nil, ite_self]

end Ignore

namespace FileSystem

variable {fs : FileSystem} {top part dir : RealPath} {v : Ignore.Verdict} {isDir : Bool}

/-- The rules of the `.gitignore` file in a directory. -/
def rulesIn (fs : FileSystem) (dir : RealPath) : List Ignore.Rule :=
  (Ignore.fileAt fs (dir.toPath / ".gitignore")).rules

/-- Of the ignore files that count for a walk of `top`, only `.gitignore` files
have rules, and only those at or below `top`. -/
structure OnlyTracked (fs : FileSystem) (top : RealPath) : Prop where
  plain : ∀ dir, dir <+: top ∨ top <+: dir → fs.entryAt? dir = some .directory →
    (Ignore.fileAt fs (RealPath.toPath dir / ".ignore")).rules = []
  excluded : ∀ dir, dir <+: top ∨ top <+: dir → fs.entryAt? dir = some .directory →
    (Ignore.exclusionsAt fs (RealPath.toPath dir)).rules = []
  above : ∀ dir, dir <+: top → dir ≠ top → fs.rulesIn dir = []

/-- The verdict of the `.gitignore` file in `dir`. -/
def verdictIn? (fs : FileSystem) (dir part : RealPath) (isDir : Bool) : Option Ignore.Verdict :=
  Ignore.verdict? (fs.rulesIn dir) (part.relativeTo dir).bytes isDir

theorem mem_directoriesFrom :
    dir ∈ fs.directoriesFrom top ↔
      dir = top ∨ ((dir, .directory) ∈ fs.entries ∧ dir.isBelow top = true) := by
  simp only [directoriesFrom, List.mem_mergeSort, List.mem_cons, List.mem_filterMap, Prod.exists]
  refine or_congr_right ⟨?_, ?_⟩
  · intro h
    obtain ⟨key, e, hmem, hkey⟩ := h
    split at hkey
    · rename_i h
      cases hkey
      obtain ⟨he, hbelow⟩ := Bool.and_eq_true_iff.1 h
      exact ⟨of_decide_eq_true he ▸ hmem, hbelow⟩
    · cases hkey
  · intro h
    obtain ⟨hmem, hbelow⟩ := h
    exact ⟨dir, .directory, hmem, by simp [hbelow]⟩

theorem pairwise_directoriesFrom (fs : FileSystem) (top : RealPath) :
    (fs.directoriesFrom top).Pairwise fun a b => b.length ≤ a.length := by
  have hsorted : (fs.directoriesFrom top).Pairwise fun a b => decide (b.length ≤ a.length) := by
    refine List.pairwise_mergeSort (fun a b c hab hbc => ?_) (fun a b => ?_) _
    · simp only [decide_eq_true_eq] at hab hbc ⊢
      omega
    · simp only [Bool.or_eq_true, decide_eq_true_eq]
      omega
  exact hsorted.imp fun h => of_decide_eq_true h

theorem IsTree.under_of_mem_directoriesFrom (tree : fs.IsTree top)
    (h : dir ∈ fs.directoriesFrom top) : top <+: dir ∧ fs.entryAt? dir = some .directory := by
  rcases mem_directoriesFrom.1 h with rfl | ⟨hmem, hbelow⟩
  · exact ⟨List.prefix_rfl, tree.isDirectory⟩
  · exact ⟨(RealPath.isBelow_iff.1 hbelow).1, tree.wellFormed.entryAt?_of_mem hmem⟩

theorem IsTree.isDirectory_above (tree : fs.IsTree top) (h : dir <+: top) :
    fs.entryAt? dir = some .directory := by
  by_cases heq : dir = top
  · exact heq ▸ tree.isDirectory
  · exact tree.wellFormed.isDirectory_of_prefix tree.isDirectory h heq

/-- A kind of ignore files without rules has no verdict. -/
theorem IsTree.kindVerdict?_eq_none (tree : fs.IsTree top) {kind : Ignore.Level → Ignore.IgnoreFile}
    (h : ∀ dir spelling, dir <+: top ∨ top <+: dir → fs.entryAt? dir = some .directory →
      (kind (Ignore.Level.read fs dir spelling)).rules = []) :
    (fs.levels top.toPath top).kindVerdict? kind part part.toPath.bytes isDir = none := by
  refine Ignore.Levels.kindVerdict?_eq_none ?_ ?_
  · intro level hlevel
    obtain ⟨dir, hdir, rfl⟩ := List.mem_map.1 hlevel
    obtain ⟨hunder, hstands⟩ := tree.under_of_mem_directoriesFrom hdir
    exact h dir _ (.inr hunder) hstands
  · intro level hlevel
    obtain ⟨n, -, rfl⟩ := List.mem_map.1 hlevel
    have hpre := List.take_prefix n top
    exact h _ _ (.inl hpre) (tree.isDirectory_above hpre)

/-- In a tree the levels of a walk are the `.gitignore` files on the way, the
nearest first. -/
theorem IsTree.verdict?_levels (tree : fs.IsTree top) (only : fs.OnlyTracked top)
    (hpart : part.IsProper) :
    (fs.levels top.toPath top).verdict? part part.toPath.bytes isDir =
      (fs.directoriesFrom top).findSome? fun dir =>
        if part.isBelow dir then fs.verdictIn? dir part isDir else none := by
  have hplain : (fs.levels top.toPath top).kindVerdict? Ignore.Level.plain part part.toPath.bytes
      isDir = none := tree.kindVerdict?_eq_none fun dir _ => only.plain dir
  have hexcluded : (fs.levels top.toPath top).kindVerdict? Ignore.Level.excluded part
      part.toPath.bytes isDir = none := tree.kindVerdict?_eq_none fun dir _ => only.excluded dir
  have habove : ∀ level ∈ (fs.levels top.toPath top).above, level.tracked.rules = [] := by
    intro level hlevel
    obtain ⟨n, hn, rfl⟩ := List.mem_map.1 hlevel
    have hlt : n < top.length := List.mem_range.1 (List.mem_reverse.1 hn)
    refine only.above _ (List.take_prefix n top) fun heq => ?_
    have hlen := congrArg List.length heq
    rw [List.length_take] at hlen
    omega
  rw [Ignore.Levels.verdict?, hplain, hexcluded, Option.none_or, Option.or_none,
    Ignore.Levels.kindVerdict?_of_inside habove, levels, List.findSome?_map]
  refine Text.findSome?_congr fun dir hdir => ?_
  obtain ⟨hunder, hstands⟩ := tree.under_of_mem_directoriesFrom hdir
  have hproper := tree.wellFormed.isProper hstands
  simp only [Function.comp_apply, RealPath.spelledFrom_self hproper hunder,
    Ignore.withoutDot_toPath]
  have hlevel : (Ignore.Level.read fs dir dir.toPath).dir = dir := rfl
  rw [hlevel]
  split
  · rename_i hbelow
    obtain ⟨hpre, hne⟩ := RealPath.isBelow_iff.1 hbelow
    rw [Ignore.behind_read hpart hpre hne]
    rfl
  · rfl

/-- The nearest directory with a verdict decides. -/
theorem IsTree.verdict?_levels_eq_some (tree : fs.IsTree top) (only : fs.OnlyTracked top)
    {e : Entry} (he : fs.entryAt? part = some e) :
    (fs.levels top.toPath top).verdict? part part.toPath.bytes isDir = some v ↔
      ∃ dir, top <+: dir ∧ dir <+: part ∧ dir ≠ part ∧ fs.verdictIn? dir part isDir = some v ∧
        ∀ dir', dir <+: dir' → dir' <+: part → dir' ≠ dir → dir' ≠ part →
          fs.verdictIn? dir' part isDir = none := by
  have hpart := tree.wellFormed.isProper he
  have hmem : ∀ dir, top <+: dir → dir <+: part → dir ≠ part → dir ∈ fs.directoriesFrom top := by
    intro dir htop hpre hne
    by_cases heq : dir = top
    · exact mem_directoriesFrom.2 (.inl heq)
    · have hnil : dir ≠ [] := fun hnil => heq (by
        rw [hnil] at htop ⊢
        exact (List.prefix_nil.1 htop).symm)
      have hdir := tree.wellFormed.isDirectory_of_prefix he hpre hne
      exact mem_directoriesFrom.2 (.inr ⟨mem_of_entryAt? hnil hdir,
        RealPath.isBelow_iff.2 ⟨htop, Ne.symm heq⟩⟩)
  rw [tree.verdict?_levels only hpart, Text.findSome?_prefixes (fs.pairwise_directoriesFrom top)]
  · constructor
    · intro h
      obtain ⟨dir, hdir, hv, hlonger⟩ := h
      split at hv
      · rename_i hbelow
        obtain ⟨hpre, hne⟩ := RealPath.isBelow_iff.1 hbelow
        have htop := (tree.under_of_mem_directoriesFrom hdir).1
        refine ⟨dir, htop, hpre, hne, hv, fun dir' hdir' hpre' hne' hpart' => ?_⟩
        have hlt : dir.length < dir'.length :=
          Nat.lt_of_le_of_ne hdir'.length_le fun hlen => hne' (hdir'.eq_of_length hlen).symm
        have hnone := hlonger dir' (hmem dir' (htop.trans hdir') hpre' hpart') hlt
        rwa [if_pos (RealPath.isBelow_iff.2 ⟨hpre', hpart'⟩)] at hnone
      · cases hv
    · intro h
      obtain ⟨dir, htop, hpre, hne, hv, hnearer⟩ := h
      refine ⟨dir, hmem dir htop hpre hne, ?_, fun dir' hdir' hlt => ?_⟩
      · rw [if_pos (RealPath.isBelow_iff.2 ⟨hpre, hne⟩)]
        exact hv
      · split
        · rename_i hbelow
          obtain ⟨hpre', hne'⟩ := RealPath.isBelow_iff.1 hbelow
          refine hnearer dir' ?_ hpre' ?_ hne'
          · exact List.prefix_of_prefix_length_le hpre hpre' (Nat.le_of_lt hlt)
          · rintro rfl
            exact Nat.lt_irrefl _ hlt
        · rfl
  · intro dir hdir
    split at hdir
    · rename_i hbelow
      exact (RealPath.isBelow_iff.1 hbelow).1
    · cases hdir

end FileSystem

end SymbolIndex
