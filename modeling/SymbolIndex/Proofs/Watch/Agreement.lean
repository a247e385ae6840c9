-- SUMMARY: When watching and bulk indexing agree on which files belong to the index, and when they do not.
import SymbolIndex.Lister
import SymbolIndex.Proofs.Ignore.Verdicts
import SymbolIndex.Proofs.Watch.Run

/-!
# Agreement of watching and bulk indexing

A bulk run walks the tree with the `.gitignore` files of all directories, and
does not enter what is ignored. A watched index asks the `.gitignore` file of
its root alone, about a path and all above it. Both leave out what is not
indexable. Of the rest they agree on the files that both hide and on those that
neither hides, and on no others.
-/

namespace SymbolIndex

/-! ## Parts of a path -/

namespace RealPath

variable {top names part : RealPath} {i j : Nat}

/-- Between a directory and what stands below it are the paths of fewer names. -/
theorem exists_take_of_between (htop : top <+: part) (hpart : part <+: top ++ names) :
    ∃ i, i ≤ names.length ∧ part = top ++ names.take i := by
  obtain ⟨rest, rfl⟩ := htop
  have hrest := (List.prefix_append_right_inj top).1 hpart
  exact ⟨rest.length, hrest.length_le, by rw [← List.prefix_iff_eq_take.1 hrest]⟩

theorem append_take_isPrefix (top names : RealPath) (i : Nat) :
    top ++ names.take i <+: top ++ names :=
  (List.prefix_append_right_inj top).2 (List.take_prefix i names)

theorem append_take_isPrefix_iff (hi : i ≤ names.length) (hj : j ≤ names.length) :
    top ++ names.take i <+: top ++ names.take j ↔ i ≤ j := by
  rw [List.prefix_append_right_inj]
  constructor
  · intro h
    have hle := h.length_le
    rw [List.length_take, List.length_take] at hle
    omega
  · exact List.take_prefix_take_left

theorem append_take_ne_iff (hi : i ≤ names.length) :
    top ++ names.take i ≠ top ++ names ↔ i < names.length := by
  rw [ne_eq, List.append_cancel_left_eq]
  constructor
  · intro hne
    exact Nat.lt_of_le_of_ne hi fun heq => hne (heq ▸ List.take_length)
  · intro hlt heq
    have hlen := congrArg List.length heq
    rw [List.length_take] at hlen
    omega

end RealPath

namespace FileSystem

variable {fs : FileSystem} {top key part : RealPath} {e : Entry}

/-! ## Two ways to be hidden -/

/-- The file, or a directory on the way to it from the root, is ignored by the
nearest directory above it that has a verdict. -/
def HiddenByWalk (fs : FileSystem) (top key : RealPath) : Prop :=
  ∃ part, top <+: part ∧ part <+: key ∧ part ≠ top ∧
    ∃ dir, top <+: dir ∧ dir <+: part ∧ dir ≠ part ∧
      fs.verdictIn? dir part (part ≠ key) = some .ignored ∧
        ∀ dir', dir <+: dir' → dir' <+: part → dir' ≠ dir → dir' ≠ part →
          fs.verdictIn? dir' part (part ≠ key) = none

/-- The root ignores the file, or else the nearest directory above it on which
it has a verdict. The root itself is among them. -/
def HiddenByRoot (fs : FileSystem) (top key : RealPath) : Prop :=
  ∃ part, top <+: part ∧ part <+: key ∧
    fs.verdictIn? top part (part ≠ key) = some .ignored ∧
      ∀ part', part <+: part' → part' <+: key → part' ≠ part →
        fs.verdictIn? top part' (part' ≠ key) = none

/-- A walk keeps what no level ignores on the way. -/
theorem keeps_iff {levels : Ignore.Levels} (hkey : key.IsProper) (hunder : top <+: key) :
    levels.keeps top.toPath top key = true ↔
      ∀ part : RealPath, top <+: part → part <+: key → part ≠ top →
        levels.verdict? part part.toPath.bytes (part ≠ key) ≠ some .ignored := by
  obtain ⟨names, rfl⟩ := hunder
  have hstep : ∀ n, n < names.length →
      let part := (top ++ names).take (top.length + n + 1)
      levels.verdict? part (RealPath.spelledFrom top.toPath top part).bytes
          (part.length < (top ++ names).length) =
        levels.verdict? (top ++ names.take (n + 1)) (RealPath.toPath (top ++ names.take (n + 1))).bytes
          (top ++ names.take (n + 1) ≠ top ++ names) := by
    intro n hn part
    have hpart : part = top ++ names.take (n + 1) := by
      rw [← List.take_length_add_append, ← Nat.add_assoc]
    have hpre := RealPath.append_take_isPrefix top names (n + 1)
    have hlen : part.length < (top ++ names).length ↔ top ++ names.take (n + 1) ≠ top ++ names := by
      rw [RealPath.append_take_ne_iff hn, hpart, List.length_append, List.length_append,
        List.length_take]
      omega
    rw [decide_eq_decide.2 hlen, hpart,
      RealPath.spelledFrom_self (hkey.of_prefix hpre) (List.prefix_append _ _)]
  simp only [Ignore.Levels.keeps, List.all_eq_true, List.mem_range, bne_iff_ne, List.length_append,
    Nat.add_sub_cancel_left] at hstep ⊢
  constructor
  · intro h part htop hpart hne
    obtain ⟨i, hi, rfl⟩ := RealPath.exists_take_of_between htop hpart
    cases i with
    | zero => exact absurd (List.append_nil top) hne
    | succ n => exact hstep n hi ▸ h n hi
  · intro h n hn
    rw [hstep n hn]
    refine h _ (List.prefix_append _ _) (RealPath.append_take_isPrefix top names _) fun heq => ?_
    have hlen := congrArg List.length heq
    rw [List.length_append, List.length_take] at hlen
    omega

theorem IsTree.mem_walk_iff_not_hidden (tree : fs.IsTree top) (only : fs.OnlyTracked top)
    (hroot : fs.resolve top.toPath = .ok top) (hunder : top <+: key)
    (he : fs.entryAt? key = some e) (hreg : e.isRegular = true) :
    key.toPath ∈ fs.walk top.toPath ↔ ¬ fs.HiddenByWalk top key := by
  have hkey := tree.wellFormed.isProper he
  have hne : top ≠ key := by
    rintro rfl
    rw [tree.isDirectory] at he
    cases he
    cases hreg
  have hnil : key ≠ [] := by
    rintro rfl
    exact hne (List.prefix_nil.1 hunder)
  have hbelow : key ∈ fs.filesBelow top :=
    mem_filesBelow.2 ⟨e, mem_of_entryAt? hnil he, hreg, RealPath.isBelow_iff.2 ⟨hunder, hne⟩⟩
  have hentry : ∀ part, part <+: key → ∃ e', fs.entryAt? part = some e' := by
    intro part hpart
    by_cases heq : part = key
    · exact ⟨e, heq ▸ he⟩
    · exact ⟨_, tree.wellFormed.isDirectory_of_prefix he hpart heq⟩
  rw [tree.mem_walk_iff hroot hkey, and_iff_right hbelow, keeps_iff hkey hunder]
  constructor
  · rintro h ⟨part, htop, hpart, hproper, hhidden⟩
    obtain ⟨e', he'⟩ := hentry part hpart
    exact h part htop hpart hproper ((tree.verdict?_levels_eq_some only he').2 hhidden)
  · intro h part htop hpart hproper hignored
    obtain ⟨e', he'⟩ := hentry part hpart
    exact h ⟨part, htop, hpart, hproper, (tree.verdict?_levels_eq_some only he').1 hignored⟩

/-- Rules that only ignore leave a file hidden once they hide something on the
way to it. -/
theorem hiddenByRoot_of_ignored {part : RealPath}
    (hrules : ∀ rule ∈ fs.rulesIn top, rule.verdict = .ignored) (htop : top <+: part)
    (hpart : part <+: key) (hv : fs.verdictIn? top part (part ≠ key) = some .ignored) :
    fs.HiddenByRoot top key := by
  by_cases hnearer : ∀ part', part <+: part' → part' <+: key → part' ≠ part →
      fs.verdictIn? top part' (part' ≠ key) = none
  · exact ⟨part, htop, hpart, hv, hnearer⟩
  · push Not at hnearer
    obtain ⟨part', hlonger, hpart', hne, hsome⟩ := hnearer
    have hv' := (Ignore.verdict?_of_ignoring hrules _ _).resolve_left hsome
    have hlt : part.length < part'.length :=
      Nat.lt_of_le_of_ne hlonger.length_le fun hlen => hne (hlonger.eq_of_length hlen).symm
    have hle := hpart'.length_le
    exact hiddenByRoot_of_ignored hrules (htop.trans hlonger) hpart' hv'
termination_by key.length - part.length

/-- Where only the root has rules, which ignore and do not ignore the root
itself, the two ways to be hidden are one. -/
theorem hiddenByWalk_iff_hiddenByRoot
    (hbelow : ∀ dir, top <+: dir → dir <+: key → dir ≠ top → dir ≠ key → fs.rulesIn dir = [])
    (hrules : ∀ rule ∈ fs.rulesIn top, rule.verdict = .ignored)
    (hself : fs.verdictIn? top top true = none) (hne : top ≠ key) :
    fs.HiddenByWalk top key ↔ fs.HiddenByRoot top key := by
  have hsilent : ∀ dir part : RealPath, top <+: dir → dir <+: part → part <+: key → dir ≠ top →
      dir ≠ part → ∀ isDir, fs.verdictIn? dir part isDir = none := by
    intro dir part htop hdir hpart hroot hproper isDir
    have hkey : dir ≠ key := by
      rintro rfl
      exact hproper (hdir.eq_of_length_le hpart.length_le)
    rw [verdictIn?, hbelow dir htop (hdir.trans hpart) hroot hkey, Ignore.verdict?_nil]
  constructor
  · intro h
    obtain ⟨part, htop, hpart, -, dir, hdir, hunder, hproper, hv, -⟩ := h
    by_cases hroot : dir = top
    · exact hiddenByRoot_of_ignored hrules htop hpart (hroot ▸ hv)
    · rw [hsilent dir part hdir hunder hpart hroot hproper] at hv
      cases hv
  · intro h
    obtain ⟨part, htop, hpart, hv, -⟩ := h
    have hproper : part ≠ top := by
      rintro rfl
      rw [decide_eq_true hne, hself] at hv
      cases hv
    refine ⟨part, htop, hpart, hproper, top, List.prefix_rfl, htop, hproper.symm, hv, ?_⟩
    intro dir hdir hunder hroot hends
    exact hsilent dir part hdir hunder hpart hroot hends _

end FileSystem

namespace Scope

variable {fs : FileSystem} {config : Config} {top key : RealPath}

/-- The root's rules, asked upward from a file. -/
theorem verdictUpward?_eq_ignored (hkey : key.IsProper) (hunder : top <+: key) :
    Ignore.verdictUpward? (fs.rulesIn top) (key.relativeTo top) = some .ignored ↔
      fs.HiddenByRoot top key := by
  obtain ⟨names, rfl⟩ := hunder
  have hnames : RealPath.IsProper names := fun name hn => hkey name (List.mem_append_right _ hn)
  have hverdict : ∀ i, i ≤ names.length →
      fs.verdictIn? top (top ++ names.take i) (top ++ names.take i ≠ top ++ names) =
        Ignore.verdict? (fs.rulesIn top) (RealPath.spell (names.take i)).bytes
          (i < names.length) := by
    intro i hi
    rw [FileSystem.verdictIn?, RealPath.relativeTo_eq, List.drop_left,
      decide_eq_decide.2 (RealPath.append_take_ne_iff hi)]
  rw [RealPath.relativeTo_eq, List.drop_left, Ignore.verdictUpward?_spell hnames]
  constructor
  · intro h
    obtain ⟨i, hi, hv, hnearer⟩ := h
    refine ⟨top ++ names.take i, List.prefix_append _ _, RealPath.append_take_isPrefix top names i,
      by rw [hverdict i hi, hv], ?_⟩
    intro part' hp hp' hne
    obtain ⟨j, hj, rfl⟩ := RealPath.exists_take_of_between ((List.prefix_append _ _).trans hp) hp'
    have hle := (RealPath.append_take_isPrefix_iff hi hj).1 hp
    have hlt : i < j := Nat.lt_of_le_of_ne hle fun heq => hne (heq ▸ rfl)
    rw [hverdict j hj, hnearer j hlt hj]
  · intro h
    obtain ⟨part, htop, hwhole, hv, hnearer⟩ := h
    obtain ⟨i, hi, rfl⟩ := RealPath.exists_take_of_between htop hwhole
    refine ⟨i, hi, by rw [← hverdict i hi, hv], fun j hlt hj => ?_⟩
    rw [← hverdict j hj]
    refine hnearer _ ((RealPath.append_take_isPrefix_iff hi hj).2 (Nat.le_of_lt hlt))
      (RealPath.append_take_isPrefix top names j) fun heq => ?_
    have hfront : top ++ names.take j <+: top ++ names.take i := heq ▸ List.prefix_rfl
    have hle := (RealPath.append_take_isPrefix_iff hj hi).1 hfront
    omega

theorem isEligible_atTop (tree : fs.IsTree top) (hkey : key.IsProper) (hunder : top <+: key) :
    (atTop fs config top).isEligible key.toPath = true ↔
      config.isIndexable key.toPath top.toPath = true ∧ ¬ fs.HiddenByRoot top key := by
  unfold isEligible
  simp only [atTop, RealPath.stripBase?_toPath hkey tree.isProper_top hunder, Bool.and_eq_true,
    bne_iff_ne, value_readRules]
  exact and_congr_right fun _ => not_congr (verdictUpward?_eq_ignored hkey hunder)

end Scope

/-! ## Agreement -/

theorem Lister.mem_walk {fs : FileSystem} {root p : Path} :
    (∃ listed, Lister.walk fs root = .ok listed ∧ .file p ∈ listed) ↔ p ∈ fs.walk root := by
  constructor
  · intro h
    obtain ⟨listed, hwalk, hmem⟩ := h
    obtain rfl := Except.ok.inj hwalk
    rcases List.mem_append.1 hmem with hmem | hmem
    · obtain ⟨problem, -, hproblem⟩ := Option.map_eq_some_iff.1 (Option.mem_toList.1 hmem)
      cases hproblem
    · obtain ⟨q, hq, hfile⟩ := List.mem_map.1 hmem
      cases hfile
      exact hq
  · intro hmem
    exact ⟨_, rfl, List.mem_append_right _ (List.mem_map.2 ⟨p, hmem, rfl⟩)⟩

namespace Maintainer

variable {fs : FileSystem} {m : Maintainer} {config : Config} {kind : ChangeKind} {p : Path}
  {top key : RealPath}

/-- An empty buffer takes in an event about a file if the file is eligible. -/
theorem mem_pending_handle_iff (hpending : m.buffer.pending = [])
    (hkind : kind = .created ∨ kind = .modified) (hdir : fs.isDir p = false) :
    p ∈ (m.handle fs ⟨kind, [p]⟩).value.buffer.pendingPaths ↔ m.scope.isEligible p = true := by
  have hactions : ChangeEvent.actions fs ⟨kind, [p]⟩ = [(p, .upsert)] := by
    rcases hkind with rfl | rfl
    · rfl
    · simp [ChangeEvent.actions, hdir]
  have hnothing : m.buffer.pendingPaths = [] := by rw [Buffer.pendingPaths, hpending, List.map_nil]
  rw [buffer_handle, hactions, Buffer.pendingPaths_insertAll, hnothing, List.flatMap_singleton]
  constructor
  · intro h
    rcases Path.mem_or_mem_of_mem_extend h with h | h
    · cases h
    · obtain ⟨a, ha, rfl⟩ := List.mem_map.1 h
      rcases Buffer.mem_expand.1 ha with ⟨hdir', -⟩ | ⟨-, heligible, -⟩ | ⟨-, -, -, hdelete, -⟩
      · rw [hdir] at hdir'
        cases hdir'
      · exact heligible
      · cases hdelete
  · intro heligible
    have hexpand : m.buffer.expand fs m.scope (p, .upsert) = [(p, .upsert)] := by
      simp [Buffer.expand, hdir, heligible]
    rw [hexpand]
    exact List.mem_singleton.2 rfl

/-- A walk and a new watch agree on a file that stands in the tree exactly if it
is not indexable, or hidden by both or by neither. -/
theorem agrees_iff (tree : fs.IsTree top) (only : fs.OnlyTracked top)
    (hroot : fs.resolve top.toPath = .ok top) (hm : (ofRoot fs config top.toPath).value = .ok m)
    (hunder : top <+: key) {e : Entry} (he : fs.entryAt? key = some e) (hreg : e.isRegular = true)
    (hkind : kind = .created ∨ kind = .modified) :
    (key.toPath ∈ (m.handle fs ⟨kind, [key.toPath]⟩).value.buffer.pendingPaths ↔
        (∃ listed, Lister.walk fs top.toPath = .ok listed ∧ .file key.toPath ∈ listed) ∧
          config.isIndexable key.toPath top.toPath = true) ↔
      (config.isIndexable key.toPath top.toPath = true →
        (fs.HiddenByWalk top key ↔ fs.HiddenByRoot top key)) := by
  obtain rfl := eq_of_ofRoot hroot hm
  have hkey := tree.wellFormed.isProper he
  have hdir : fs.isDir key.toPath = false := by
    refine Bool.eq_false_iff.2 fun h => ?_
    rw [((tree.isDir_iff hkey hunder).1 h).2] at he
    cases he
    cases hreg
  have hlisted := tree.mem_walk_iff_not_hidden only hroot hunder he hreg
  have hscope : (atTop fs config top).scope = .atTop fs config top := rfl
  rw [mem_pending_handle_iff rfl hkind hdir, hscope, Scope.isEligible_atTop tree hkey hunder,
    Lister.mem_walk, hlisted]
  constructor
  · intro h hindexable
    constructor
    · intro hwalk
      by_contra hrootHides
      exact (h.1 ⟨hindexable, hrootHides⟩).1 hwalk
    · intro hrootHides
      by_contra hwalk
      exact (h.2 ⟨hwalk, hindexable⟩).2 hrootHides
  · intro h
    constructor
    · intro h
      obtain ⟨hindexable, hshown⟩ := h
      exact ⟨fun hwalk => hshown ((h hindexable).1 hwalk), hindexable⟩
    · intro h
      obtain ⟨hshown, hindexable⟩ := h
      exact ⟨hindexable, fun hrootHides => hshown ((h hindexable).2 hrootHides)⟩

end Maintainer

/-! ## Rules below the root -/

namespace FileSystem

/-- The files `a.txt` and `b.txt` in a directory `s` of the root `/r`. The
ignore file of that directory ignores the first. -/
def nestedRules : FileSystem where
  entries :=
    [([[114]], .directory), ([[114], [115]], .directory),
      ([[114], [115], Utf8.encode ".gitignore"], .file (Utf8.encode "a.txt\n") 5),
      ([[114], [115], Utf8.encode "a.txt"], .file [120] 5),
      ([[114], [115], Utf8.encode "b.txt"], .file [120] 5)]
  workingDir := []

/-- What can be computed of the tree: only the ignore file of `s` has rules, and of the
two files it ignores the first. -/
theorem computed_nestedRules :
    nestedRules.IsTree [[114]] ∧
      nestedRules.resolve (RealPath.toPath [[114]]) = .ok [[114]] ∧
      (∀ dir ∈ ([[], [[114]], [[114], [115]]] : List RealPath),
        (Ignore.fileAt nestedRules (dir.toPath / ".ignore")).rules = [] ∧
          (Ignore.exclusionsAt nestedRules dir.toPath).rules = []) ∧
      (nestedRules.rulesIn [] = [] ∧ nestedRules.rulesIn [[114]] = []) ∧
      ∀ isDir,
        nestedRules.verdictIn? [[114], [115]] [[114], [115], Utf8.encode "a.txt"] isDir =
          some .ignored ∧
        nestedRules.verdictIn? [[114], [115]] [[114], [115], Utf8.encode "b.txt"] isDir =
          none := by
  decide +kernel

theorem isTree_nestedRules : nestedRules.IsTree [[114]] := computed_nestedRules.1

theorem resolve_nestedRules :
    nestedRules.resolve (RealPath.toPath [[114]]) = .ok [[114]] := computed_nestedRules.2.1

theorem eq_of_isDirectory_nestedRules {dir : RealPath}
    (h : nestedRules.entryAt? dir = some .directory) :
    dir = [] ∨ dir = [[114]] ∨ dir = [[114], [115]] := by
  by_cases hnil : dir = []
  · exact .inl hnil
  · have hmem := mem_of_entryAt? hnil h
    simp only [nestedRules, List.mem_cons, Prod.mk.injEq, reduceCtorEq, and_true, and_false,
      List.not_mem_nil, or_false] at hmem
    exact .inr hmem

theorem onlyTracked_nestedRules : nestedRules.OnlyTracked [[114]] := by
  obtain ⟨-, -, hothers, ⟨hroot, -⟩, -⟩ := computed_nestedRules
  have hdirs : ∀ dir, nestedRules.entryAt? dir = some .directory →
      dir ∈ ([[], [[114]], [[114], [115]]] : List RealPath) := fun dir hdir => by
    simpa using eq_of_isDirectory_nestedRules hdir
  refine ⟨fun dir _ hdir => (hothers dir (hdirs dir hdir)).1,
    fun dir _ hdir => (hothers dir (hdirs dir hdir)).2, fun dir hpre hne => ?_⟩
  rcases eq_of_isDirectory_nestedRules (isTree_nestedRules.isDirectory_above hpre) with
    rfl | rfl | rfl
  · exact hroot
  · exact absurd rfl hne
  · exact absurd hpre (by decide)

theorem rulesIn_root_nestedRules : nestedRules.rulesIn [[114]] = [] :=
  computed_nestedRules.2.2.2.1.2

theorem not_hiddenByRoot_nestedRules (key : RealPath) :
    ¬ nestedRules.HiddenByRoot [[114]] key := by
  intro h
  obtain ⟨part, -, -, hv, -⟩ := h
  rw [verdictIn?, rulesIn_root_nestedRules] at hv
  cases hv

theorem hiddenByWalk_nestedRules :
    nestedRules.HiddenByWalk [[114]] [[114], [115], Utf8.encode "a.txt"] := by
  obtain ⟨-, -, -, -, hverdicts⟩ := computed_nestedRules
  refine ⟨_, by decide, List.prefix_rfl, by decide, [[114], [115]], by decide, by decide,
    by decide, ?_, ?_⟩
  · exact (hverdicts _).1
  · intro dir hdir hpart hne hne'
    have hkey : dir <+: [[114], [115]] ++ [Utf8.encode "a.txt"] := hpart
    rcases List.prefix_concat_iff.1 hkey with heq | hpre
    · exact absurd heq hne'
    · exact absurd (hpre.eq_of_length_le hdir.length_le) hne

theorem not_hiddenByWalk_nestedRules :
    ¬ nestedRules.HiddenByWalk [[114]] [[114], [115], Utf8.encode "b.txt"] := by
  intro h
  obtain ⟨part, -, hpart, -, dir, hdir, hunder, hne, hv, -⟩ := h
  have hkey : part <+: [[114], [115]] ++ [Utf8.encode "b.txt"] := hpart
  have habove : dir <+: [[114]] ++ [[115]] := by
    rcases List.prefix_concat_iff.1 (hunder.trans hkey) with heq | hpre
    · exact absurd (hunder.eq_of_length_le (heq ▸ hpart.length_le)) hne
    · exact hpre
  rcases List.prefix_concat_iff.1 habove with heq | hpre
  · obtain rfl : dir = [[114], [115]] := heq
    rcases List.prefix_concat_iff.1 hkey with rfl | hpre
    · obtain ⟨-, -, -, -, hverdicts⟩ := computed_nestedRules
      cases (hverdicts _).2.symm.trans hv
    · exact hne (hunder.eq_of_length_le hpre.length_le)
  · obtain rfl := hpre.eq_of_length_le hdir.length_le
    rw [verdictIn?, rulesIn_root_nestedRules] at hv
    cases hv

end FileSystem

namespace Maintainer

theorem value_ofRoot_nestedRules :
    (ofRoot .nestedRules {} (RealPath.toPath [[114]])).value =
      .ok (.atTop .nestedRules {} [[114]]) := by
  have hdir : FileSystem.nestedRules.isDir (RealPath.toPath [[114]]) = true := by decide +kernel
  rw [value_ofRoot FileSystem.resolve_nestedRules, if_pos hdir]

/-- Neither hides the file `b.txt`, so they agree on it. -/
theorem agrees_nestedRules :
    let key : RealPath := [[114], [115], Utf8.encode "b.txt"]
    let m : Maintainer := .atTop .nestedRules {} [[114]]
    key.toPath ∈ (m.handle .nestedRules ⟨.created, [key.toPath]⟩).value.buffer.pendingPaths ↔
      (∃ listed, Lister.walk .nestedRules (RealPath.toPath [[114]]) = .ok listed ∧
        .file key.toPath ∈ listed) ∧
        Config.isIndexable {} key.toPath (RealPath.toPath [[114]]) = true := by
  intro key m
  have hentry : FileSystem.nestedRules.entryAt? key = some (.file [120] 5) := by decide +kernel
  refine (agrees_iff FileSystem.isTree_nestedRules FileSystem.onlyTracked_nestedRules
    FileSystem.resolve_nestedRules value_ofRoot_nestedRules (by decide) hentry rfl
    (.inl rfl)).2 fun _ => ?_
  exact iff_of_false FileSystem.not_hiddenByWalk_nestedRules
    (FileSystem.not_hiddenByRoot_nestedRules key)

/-- The file `a.txt` is ignored below the root: it is watched, and no walk lists it. -/
theorem watches_ignored_nestedRules :
    let key : RealPath := [[114], [115], Utf8.encode "a.txt"]
    let m : Maintainer := .atTop .nestedRules {} [[114]]
    FileSystem.nestedRules.IsTree [[114]] ∧ FileSystem.nestedRules.OnlyTracked [[114]] ∧
      (ofRoot .nestedRules {} (RealPath.toPath [[114]])).value = .ok m ∧
      key.toPath ∈ (m.handle .nestedRules ⟨.created, [key.toPath]⟩).value.buffer.pendingPaths ∧
      Config.isIndexable {} key.toPath (RealPath.toPath [[114]]) = true ∧
      ¬ ∃ listed, Lister.walk .nestedRules (RealPath.toPath [[114]]) = .ok listed ∧
        .file key.toPath ∈ listed := by
  intro key m
  have hfile : FileSystem.nestedRules.isDir key.toPath = false := by decide +kernel
  have hindexable : Config.isIndexable {} key.toPath (RealPath.toPath [[114]]) = true := by
    decide +kernel
  have heligible : m.scope.isEligible key.toPath = true :=
    (Scope.isEligible_atTop FileSystem.isTree_nestedRules (by decide +kernel) (by decide)).2
      ⟨hindexable, FileSystem.not_hiddenByRoot_nestedRules key⟩
  refine ⟨FileSystem.isTree_nestedRules, FileSystem.onlyTracked_nestedRules,
    value_ofRoot_nestedRules,
    (mem_pending_handle_iff rfl (.inl rfl) hfile).2 heligible, hindexable, ?_⟩
  have hentry : FileSystem.nestedRules.entryAt? key = some (.file [120] 5) := by decide +kernel
  rw [Lister.mem_walk, FileSystem.isTree_nestedRules.mem_walk_iff_not_hidden
    FileSystem.onlyTracked_nestedRules FileSystem.resolve_nestedRules (by decide) hentry rfl,
    not_not]
  exact FileSystem.hiddenByWalk_nestedRules

end Maintainer

end SymbolIndex
