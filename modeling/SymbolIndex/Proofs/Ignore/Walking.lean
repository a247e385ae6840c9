-- SUMMARY: What a walk lists: the spelling of its paths, and which files are among them.
import SymbolIndex.Proofs.File.Tree

/-!
# What a walk lists

A walk of a normal path lists normal paths. In a tree it lists the regular
files below the directory that its levels of ignore files keep.
-/

namespace SymbolIndex

namespace RealPath

variable {root top key : RealPath}

theorem spelledFrom_eq (hroot : root.IsProper) (hkey : key.IsProper) (hunder : top <+: key) :
    spelledFrom root.toPath top key = (root ++ key.drop top.length).toPath := by
  unfold spelledFrom
  split
  · rename_i heq
    simp [heq]
  · rename_i hne
    refine join_toPath hroot (hkey.drop _) fun hnil => hne ?_
    exact (hunder.eq_of_length_le (List.drop_eq_nil_iff.1 hnil)).symm

theorem spelledFrom_self (hkey : key.IsProper) (hunder : top <+: key) :
    spelledFrom top.toPath top key = key.toPath := by
  rw [spelledFrom_eq (hkey.of_prefix hunder) hkey hunder]
  obtain ⟨rest, rfl⟩ := hunder
  simp

theorem isBelow_iff : key.isBelow top = true ↔ top <+: key ∧ top ≠ key := by
  rw [isBelow, Bool.and_eq_true, List.isPrefixOf_iff_prefix, decide_eq_true_iff]
  constructor
  · intro h
    obtain ⟨hp, hlt⟩ := h
    refine ⟨hp, ?_⟩
    rintro rfl
    exact Nat.lt_irrefl _ hlt
  · intro h
    obtain ⟨hp, hne⟩ := h
    refine ⟨hp, Nat.lt_of_not_le fun hle => hne (hp.eq_of_length_le hle)⟩

end RealPath

namespace FileSystem

variable {fs : FileSystem} {root p : Path} {top key : RealPath}

theorem mem_filesBelow :
    key ∈ fs.filesBelow top ↔ ∃ e, (key, e) ∈ fs.entries ∧ e.isRegular = true ∧ key.isBelow top := by
  simp only [filesBelow, List.mem_filterMap, Prod.exists, Option.ite_none_right_eq_some,
    Option.some.injEq, Bool.and_eq_true]
  constructor
  · intro h
    obtain ⟨key', e, hmem, ⟨hreg, hbelow⟩, rfl⟩ := h
    exact ⟨e, hmem, hreg, hbelow⟩
  · intro h
    obtain ⟨e, hmem, hreg, hbelow⟩ := h
    exact ⟨key, e, hmem, ⟨hreg, hbelow⟩, rfl⟩

/-- The root itself, or the spelling of a file below what it leads to. -/
theorem mem_walk_cases (h : p ∈ fs.walk root) :
    p = root ∨ ∃ top key, key ∈ fs.filesBelow top ∧ p = RealPath.spelledFrom root top key := by
  unfold walk at h
  split at h
  · cases h
  · rename_i top _
    split at h
    · cases h
    · split at h
      · obtain ⟨key, hkey, rfl⟩ := List.mem_map.1 h
        have hkept := List.mem_mergeSort.1 hkey
        exact .inr ⟨top, key, (List.mem_filter.1 hkept).1, rfl⟩
      · exact .inl (List.mem_singleton.1 h)

theorem WellFormed.exists_of_mem_walk (hfs : fs.WellFormed) (hkey : key.IsProper)
    (h : p ∈ fs.walk key.toPath) : ∃ rest : RealPath, rest.IsProper ∧ p = (key ++ rest).toPath := by
  rcases mem_walk_cases h with rfl | ⟨top, found, hfound, rfl⟩
  · exact ⟨[], by simp [RealPath.IsProper], by simp⟩
  · obtain ⟨e, hmem, -, hbelow⟩ := mem_filesBelow.1 hfound
    have hproper := (hfs.proper _ hmem).2
    exact ⟨found.drop top.length, hproper.drop _,
      RealPath.spelledFrom_eq hkey hproper (RealPath.isBelow_iff.1 hbelow).1⟩

theorem WellFormed.isNormal_of_mem_walk (hfs : fs.WellFormed) (hroot : root.IsNormal)
    (h : p ∈ fs.walk root) : p.IsNormal := by
  obtain ⟨key, hkey, rfl⟩ := hroot
  obtain ⟨rest, hrest, rfl⟩ := hfs.exists_of_mem_walk hkey h
  exact (hkey.append hrest).isNormal

theorem same_standardInput (h : key.IsProper) : key.toPath.same standardInput = false := by
  have hstd : standardInput.components = [.normal [45]] := by decide +kernel
  simp [Path.same, RealPath.components_toPath h, hstd]

/-- The regular files strictly below the root of a tree that are not hidden. -/
theorem IsTree.mem_walk_iff (tree : fs.IsTree top) (hroot : fs.resolve top.toPath = .ok top)
    (hkey : key.IsProper) :
    key.toPath ∈ fs.walk top.toPath ↔
      key ∈ fs.filesBelow top ∧ (fs.levels top.toPath top).keeps top.toPath top key = true := by
  unfold walk
  rw [hroot]
  simp only [same_standardInput tree.isProper_top, tree.isDirectory, if_true, Bool.false_eq_true,
    if_false]
  constructor
  · intro h
    obtain ⟨key', hmem, hspell⟩ := List.mem_map.1 h
    have hkept := List.mem_filter.1 (List.mem_mergeSort.1 hmem)
    obtain ⟨e, hentry, -, hbelow⟩ := mem_filesBelow.1 hkept.1
    have hproper := (tree.wellFormed.proper _ hentry).2
    rw [RealPath.spelledFrom_self hproper (RealPath.isBelow_iff.1 hbelow).1,
      RealPath.toPath_inj hproper hkey] at hspell
    exact hspell ▸ hkept
  · intro h
    obtain ⟨hmem, hkeeps⟩ := h
    obtain ⟨e, -, -, hbelow⟩ := mem_filesBelow.1 hmem
    refine List.mem_map.2 ⟨key, List.mem_mergeSort.2 (List.mem_filter.2 ⟨hmem, hkeeps⟩), ?_⟩
    exact RealPath.spelledFrom_self hkey (RealPath.isBelow_iff.1 hbelow).1

end FileSystem

end SymbolIndex
