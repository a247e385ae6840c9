-- SUMMARY: Real paths as written: the names they consist of, and what the operations on paths make of their spelling.
import SymbolIndex.File.System

/-!
# Spelled real paths

`RealPath.toPath` writes a slash in front of every name. A path is normal if it
is written that way: absolute, without `.`, `..` and blank parts. On normal
paths the operations on spellings are operations on lists of names, and a
spelling determines the names.
-/

namespace SymbolIndex

/-! ## Splitting what was joined -/

namespace Text

theorem splitAt_of_notMem [DecidableEq α] {sep : α} {part : List α} (h : sep ∉ part) :
    splitAt sep part = [part] := by
  induction part with
  | nil => rfl
  | cons c cs ih =>
      have hc : c ≠ sep := fun heq => h (heq ▸ List.mem_cons_self)
      have hcs : sep ∉ cs := fun hmem => h (List.mem_cons_of_mem c hmem)
      simp [splitAt, hc, ih hcs]

theorem splitAt_append_cons [DecidableEq α] {sep : α} {part : List α} (rest : List α)
    (h : sep ∉ part) : splitAt sep (part ++ sep :: rest) = part :: splitAt sep rest := by
  induction part with
  | nil => simp [splitAt]
  | cons c cs ih =>
      have hc : c ≠ sep := fun heq => h (heq ▸ List.mem_cons_self)
      have hcs : sep ∉ cs := fun hmem => h (List.mem_cons_of_mem c hmem)
      simp [splitAt, hc, ih hcs]

/-- Parts that were joined are found again. -/
theorem splitAt_intercalate [DecidableEq α] {sep : α} {parts : List (List α)} (hne : parts ≠ [])
    (h : ∀ part ∈ parts, sep ∉ part) : splitAt sep ([sep].intercalate parts) = parts := by
  induction parts with
  | nil => exact absurd rfl hne
  | cons part parts ih =>
      have hpart := h part List.mem_cons_self
      cases parts with
      | nil => simpa using splitAt_of_notMem hpart
      | cons part' parts =>
          have hrest := ih (List.cons_ne_nil _ _) fun q hq => h q (List.mem_cons_of_mem _ hq)
          rw [List.intercalate_cons_cons, List.append_assoc, List.singleton_append,
            splitAt_append_cons _ hpart, hrest]

theorem intercalate_append {sep : List α} {parts parts' : List (List α)} (h : parts ≠ [])
    (h' : parts' ≠ []) :
    sep.intercalate (parts ++ parts') =
      sep.intercalate parts ++ sep ++ sep.intercalate parts' := by
  induction parts with
  | nil => exact absurd rfl h
  | cons part parts ih =>
      by_cases hnil : parts = []
      · simp [hnil, List.intercalate_cons_of_ne_nil h']
      · rw [List.cons_append, List.intercalate_cons_of_ne_nil (by simp [hnil]), ih hnil,
          List.intercalate_cons_of_ne_nil hnil]
        simp

end Text

/-! ## Names -/

namespace Path

/-- What an entry of a directory can be called. -/
def IsName (name : Bytes) : Prop :=
  name ≠ [] ∧ name ≠ [dot] ∧ name ≠ [dot, dot] ∧ slash ∉ name

instance (name : Bytes) : Decidable (IsName name) :=
  inferInstanceAs (Decidable (_ ∧ _ ∧ _ ∧ _))

theorem innerComponent?_of_isName {name : Bytes} (h : IsName name) :
    innerComponent? name = some (.normal name) := by
  obtain ⟨hnil, hdot, hup, -⟩ := h
  simp [innerComponent?, hnil, hdot, hup]

theorem innerComponents_of_isName {names : List Bytes} (h : ∀ name ∈ names, IsName name) :
    innerComponents names = names.map .normal := by
  induction names with
  | nil => rfl
  | cons name names ih =>
      have hrest := ih fun n hn => h n (List.mem_cons_of_mem _ hn)
      have hname := innerComponent?_of_isName (h name List.mem_cons_self)
      simp only [innerComponents] at hrest ⊢
      rw [List.filterMap_cons_some hname, hrest, List.map_cons]

theorem skipBlank_of_isName {names : List Bytes} (h : ∀ name ∈ names, IsName name) :
    skipBlank names = names := by
  cases names with
  | nil => rfl
  | cons name names =>
      simp [skipBlank, innerComponent?_of_isName (h name List.mem_cons_self)]

/-- Blank parts at the end of a list of names are dropped in two reversals, of
which nothing is seen when there are none. -/
theorem skipBlank_reverse_of_isName {names : List Bytes} (h : ∀ name ∈ names, IsName name) :
    (skipBlank names.reverse).reverse = names := by
  rw [skipBlank_of_isName fun n hn => h n (List.mem_reverse.1 hn), List.reverse_reverse]

theorem dropInner_of_isName {names : List Bytes} (h : ∀ name ∈ names, IsName name) (n : Nat) :
    dropInner n names = names.drop n := by
  induction n generalizing names with
  | zero => rfl
  | succ n ih =>
      have hrest : ∀ name ∈ names.drop 1, IsName name := fun m hm => h m (List.mem_of_mem_drop hm)
      rw [dropInner, skipBlank_of_isName h, ih hrest, List.drop_drop, Nat.add_comm]

end Path

/-! ## Real paths -/

/-- Every step is the name of an entry. -/
def RealPath.IsProper (key : RealPath) : Prop := ∀ name ∈ key, Path.IsName name

instance (key : RealPath) : Decidable key.IsProper :=
  inferInstanceAs (Decidable (∀ _ ∈ _, _))

/-- A path that is written as the real path of some entry. -/
def Path.IsNormal (p : Path) : Prop := ∃ key : RealPath, key.IsProper ∧ key.toPath = p

namespace RealPath

variable {key key' dir : RealPath}

theorem IsProper.of_prefix (h : key.IsProper) (hp : dir <+: key) : dir.IsProper :=
  fun name hn => h name (hp.subset hn)

theorem IsProper.drop (h : key.IsProper) (n : Nat) : IsProper (key.drop n) :=
  fun name hn => h name (List.mem_of_mem_drop hn)

theorem IsProper.append (h : dir.IsProper) (h' : key.IsProper) : IsProper (dir ++ key) := by
  intro name hn
  rcases List.mem_append.1 hn with hn | hn
  · exact h name hn
  · exact h' name hn

theorem IsProper.isNormal (h : key.IsProper) : key.toPath.IsNormal := ⟨key, h, rfl⟩

@[simp] theorem isAbsolute_toPath : key.toPath.isAbsolute = true := by
  simp [Path.isAbsolute, toPath]

theorem parts_toPath (h : key.IsProper) :
    key.toPath.parts = [] :: (if key = [] then [[]] else key) := by
  simp only [Path.parts, toPath, Text.splitAt, if_true]
  split
  · rename_i hnil
    simp [hnil]
  · rename_i hne
    rw [Text.splitAt_intercalate hne fun name hn => (h name hn).2.2.2]

theorem components_toPath (h : key.IsProper) :
    key.toPath.components = .root :: key.map .normal := by
  have hparts := parts_toPath h
  unfold Path.components
  rw [hparts]
  simp only [isAbsolute_toPath, if_true]
  split
  · rename_i hnil
    simp [hnil, Path.innerComponents, Path.innerComponent?]
  · rw [Path.innerComponents_of_isName h]

theorem toPath_inj (h : key.IsProper) (h' : key'.IsProper) :
    key.toPath = key'.toPath ↔ key = key' := by
  constructor
  · intro heq
    have hc := congrArg Path.components heq
    rw [components_toPath h, components_toPath h', List.cons.injEq] at hc
    exact (List.map_inj_right fun _ _ => Component.normal.inj).1 hc.2
  · rintro rfl
    rfl

theorem same_toPath (h : key.IsProper) (h' : key'.IsProper) :
    key.toPath.same key'.toPath = true ↔ key = key' := by
  rw [Path.same, decide_eq_true_iff, components_toPath h, components_toPath h']
  constructor
  · intro hc
    exact (List.map_inj_right fun _ _ => Component.normal.inj).1 (List.cons.inj hc).2
  · rintro rfl
    rfl

theorem startsWith_toPath (h : key.IsProper) (h' : dir.IsProper) :
    key.toPath.startsWith dir.toPath = true ↔ dir <+: key := by
  rw [Path.startsWith, List.isPrefixOf_iff_prefix, components_toPath h, components_toPath h',
    List.cons_prefix_cons]
  constructor
  · intro h
    obtain ⟨-, hp⟩ := h
    exact (List.prefix_map_iff_of_injective fun _ _ => Component.normal.inj).1 hp
  · intro hp
    exact ⟨rfl, hp.map _⟩

/-- The names below `dir`, joined by slashes. -/
def relativeTo (key dir : RealPath) : Path := ⟨[Path.slash].intercalate (key.drop dir.length)⟩

theorem stripBase?_toPath (h : key.IsProper) (h' : dir.IsProper) (hp : dir <+: key) :
    key.toPath.stripBase? dir.toPath = some (key.relativeTo dir) := by
  have hc := components_toPath h'
  unfold Path.stripBase?
  rw [if_pos ((startsWith_toPath h h').2 hp), if_neg (by simp [hc])]
  simp only [Path.dropComponents, parts_toPath h, isAbsolute_toPath, Bool.true_or, if_true, hc,
    List.length_cons, List.length_map, Nat.add_sub_cancel]
  split
  · rename_i hnil
    have hdir : dir = [] := List.prefix_nil.1 (hnil ▸ hp)
    simp [hnil, hdir, Path.dropInner, Path.skipBlank, Path.innerComponent?, relativeTo]
  · have hdrop := h.drop dir.length
    rw [Path.dropInner_of_isName h, Path.skipBlank_of_isName hdrop,
      Path.skipBlank_reverse_of_isName hdrop, relativeTo]

theorem stripBase?_toPath_eq_none (h : key.IsProper) (h' : dir.IsProper) (hp : ¬ dir <+: key) :
    key.toPath.stripBase? dir.toPath = none := by
  unfold Path.stripBase?
  exact if_neg fun hstarts => hp ((startsWith_toPath h h').1 hstarts)

/-! ## Joining -/

/-- The spelling of names that follow a slash starts with no slash. -/
theorem isAbsolute_relative (h : key.IsProper) :
    Path.isAbsolute ⟨[Path.slash].intercalate key⟩ = false := by
  cases key with
  | nil => rfl
  | cons name rest =>
      obtain ⟨hnil, -, -, hslash⟩ := h name List.mem_cons_self
      cases name with
      | nil => exact absurd rfl hnil
      | cons c cs =>
          have hc : c ≠ Path.slash := fun heq => hslash (heq ▸ List.mem_cons_self)
          rw [Path.isAbsolute, List.intercalate_cons_cons_left]
          simpa using hc

theorem getLast?_toPath (h : key.IsProper) (hne : key ≠ []) :
    (key.toPath.bytes.getLast? == some Path.slash) = false := by
  obtain ⟨ks, name, rfl⟩ : ∃ ks name, key = ks ++ [name] :=
    ⟨key.dropLast, key.getLast hne, (List.dropLast_concat_getLast hne).symm⟩
  obtain ⟨hnil, -, -, hslash⟩ := h name (by simp)
  have hspell : ∃ front, (toPath (ks ++ [name])).bytes = front ++ name := by
    by_cases hks : ks = []
    · exact ⟨[Path.slash], by simp [toPath, hks]⟩
    · refine ⟨Path.slash :: ([Path.slash].intercalate ks ++ [Path.slash]), ?_⟩
      simp [toPath, Text.intercalate_append hks]
  obtain ⟨front, hfront⟩ := hspell
  rw [hfront, List.getLast?_append, List.getLast?_eq_some_getLast hnil, Option.some_or]
  have hlast : name.getLast hnil ≠ Path.slash := fun heq => hslash (heq ▸ List.getLast_mem hnil)
  simpa using hlast

/-- Names joined to a real path lengthen it. -/
theorem join_toPath {rest : RealPath} (h : key.IsProper) (hrest : rest.IsProper) (hne : rest ≠ []) :
    key.toPath.join ⟨[Path.slash].intercalate rest⟩ = (key ++ rest).toPath := by
  unfold Path.join
  rw [isAbsolute_relative hrest, if_neg (by simp [toPath])]
  by_cases hnil : key = []
  · simp [hnil, toPath]
  · rw [getLast?_toPath h hnil, if_neg (by simp)]
    simp [toPath, Text.intercalate_append hnil hne]

end RealPath

namespace Path

/-- Two normal spellings of one path are the same spelling. -/
theorem IsNormal.eq_of_same {p q : Path} (hp : p.IsNormal) (hq : q.IsNormal)
    (h : p.same q = true) : p = q := by
  obtain ⟨key, hk, rfl⟩ := hp
  obtain ⟨key', hk', rfl⟩ := hq
  rw [(RealPath.same_toPath hk hk').1 h]

theorem startsWith_of_stripBase? {p base relative : Path} (h : p.stripBase? base = some relative) :
    p.startsWith base = true := by
  unfold stripBase? at h
  split at h
  · assumption
  · cases h

theorem exists_stripBase? {p base : Path} (h : p.startsWith base = true) :
    ∃ relative, p.stripBase? base = some relative := by
  unfold stripBase?
  rw [if_pos h]
  split
  · exact ⟨_, rfl⟩
  · exact ⟨_, rfl⟩

end Path

end SymbolIndex
