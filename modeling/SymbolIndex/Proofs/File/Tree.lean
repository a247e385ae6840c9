-- SUMMARY: Well-formed file systems, trees without links, and what normal paths lead to in them.
import Mathlib.Data.List.Induction
import Mathlib.Data.List.Nodup
import SymbolIndex.Ignore.Walk
import SymbolIndex.Proofs.File.Spelling

/-!
# Trees

In a well-formed file system each real path has one entry and the parent of
every entry is a directory. Below a real path without links around it a normal
path leads to its own real path, or nowhere. A tree is a directory of that kind.
-/

namespace SymbolIndex

def Entry.isLink : Entry → Bool
  | .symlink _ => true
  | _ => false

namespace FileSystem

/-! ## Well-formed file systems -/

/-- Real paths are unique and made of names, and parents are directories. -/
structure WellFormed (fs : FileSystem) : Prop where
  nodup : (fs.entries.map Prod.fst).Nodup
  proper : ∀ x ∈ fs.entries, x.1 ≠ [] ∧ RealPath.IsProper x.1
  parents : ∀ x ∈ fs.entries, fs.entryAt? x.1.dropLast = some .directory

instance (fs : FileSystem) : Decidable fs.WellFormed :=
  decidable_of_iff
    ((fs.entries.map Prod.fst).Nodup ∧ (∀ x ∈ fs.entries, x.1 ≠ [] ∧ RealPath.IsProper x.1) ∧
      ∀ x ∈ fs.entries, fs.entryAt? x.1.dropLast = some .directory)
    ⟨fun ⟨hnodup, hproper, hparents⟩ => ⟨hnodup, hproper, hparents⟩,
      fun h => ⟨h.nodup, h.proper, h.parents⟩⟩

@[simp] theorem entryAt?_nil (fs : FileSystem) : fs.entryAt? [] = some .directory := by
  simp [entryAt?]

theorem mem_of_entryAt? {fs : FileSystem} {key : RealPath} {e : Entry} (hne : key ≠ [])
    (h : fs.entryAt? key = some e) : (key, e) ∈ fs.entries := by
  rw [entryAt?, if_neg hne] at h
  obtain ⟨⟨key', e'⟩, hfind, rfl⟩ := Option.map_eq_some_iff.1 h
  have hkey : key' = key := by simpa using List.find?_some hfind
  exact hkey ▸ List.mem_of_find?_eq_some hfind

namespace WellFormed

variable {fs : FileSystem} {key dir : RealPath} {e : Entry}

theorem entryAt?_of_mem (hfs : fs.WellFormed) (h : (key, e) ∈ fs.entries) :
    fs.entryAt? key = some e := by
  rw [entryAt?, if_neg (hfs.proper _ h).1, Option.map_eq_some_iff]
  cases hfind : fs.entries.find? (·.1 = key) with
  | none => simpa using List.find?_eq_none.1 hfind _ h
  | some x =>
      have hx : x.1 = key := by simpa using List.find?_some hfind
      have hmem := List.mem_of_find?_eq_some hfind
      exact ⟨x, rfl, by rw [List.inj_on_of_nodup_map hfs.nodup hmem h hx]⟩

theorem isProper (hfs : fs.WellFormed) (h : fs.entryAt? key = some e) : key.IsProper := by
  by_cases hne : key = []
  · subst hne
    exact fun name hn => absurd hn List.not_mem_nil
  · exact (hfs.proper _ (mem_of_entryAt? hne h)).2

/-- Everything on the way to an entry is a directory. -/
theorem isDirectory_of_append (hfs : fs.WellFormed) {rest : RealPath} (hrest : rest ≠ [])
    (h : fs.entryAt? (dir ++ rest) = some e) : fs.entryAt? dir = some .directory := by
  induction rest using List.reverseRecOn generalizing e with
  | nil => exact absurd rfl hrest
  | append_singleton rest name ih =>
      have hmem := mem_of_entryAt? (by simp) h
      have hparent := hfs.parents _ hmem
      simp only [← List.append_assoc, List.dropLast_concat] at hparent
      by_cases hnil : rest = []
      · simpa [hnil] using hparent
      · exact ih hnil hparent

theorem isDirectory_of_prefix (hfs : fs.WellFormed) (h : fs.entryAt? key = some e)
    (hp : dir <+: key) (hne : dir ≠ key) : fs.entryAt? dir = some .directory := by
  obtain ⟨rest, rfl⟩ := hp
  refine hfs.isDirectory_of_append ?_ h
  rintro rfl
  simp at hne

end WellFormed

/-! ## Resolution name by name -/

variable {fs : FileSystem} {key dir : RealPath}

/-- Only a spelling that the system takes is followed name by name. -/
theorem resolve_toPath (h : key.IsProper) :
    fs.resolve key.toPath =
      if 0 ∈ key.toPath.bytes then .error .nulInPath
      else if key.toPath.bytes.length > pathLimit then .error .nameTooLong
      else fs.resolveFrom linkLimit [] key := by
  have hne : key.toPath.bytes ≠ [] := by simp [RealPath.toPath]
  unfold resolve
  rw [if_neg hne, RealPath.isAbsolute_toPath, if_pos rfl, RealPath.parts_toPath h]
  split
  · rfl
  · split
    · rfl
    · rw [resolveFrom]
      simp only [entryAt?_nil, ne_eq, not_true_eq_false, if_false, true_or, if_true]
      split
      · rename_i hnil
        rw [hnil]
        simp [resolveFrom]
      · rfl

/-- One name of a path that is no link. -/
theorem resolveFrom_cons {links : Nat} {name : Bytes} {rest : List Bytes} (hname : Path.IsName name)
    (hlink : ∀ target, fs.entryAt? (dir ++ [name]) ≠ some (.symlink target)) :
    fs.resolveFrom links dir (name :: rest) =
      if fs.entryAt? dir ≠ some .directory then .error .notADirectory
      else if name.length > nameLimit then .error .nameTooLong
      else if fs.entryAt? (dir ++ [name]) = none then .error .notFound
      else fs.resolveFrom links (dir ++ [name]) rest := by
  obtain ⟨hnil, hdot, hup, -⟩ := hname
  rw [resolveFrom]
  simp only [hnil, hdot, hup, or_self, if_false]
  cases he : fs.entryAt? (dir ++ [name]) with
  | none => simp
  | some e =>
      cases e with
      | symlink target => exact absurd he (hlink target)
      | _ => simp

theorem resolveFrom_ok {links : Nat} {names : List Bytes} {found : RealPath}
    (hnames : RealPath.IsProper names)
    (hlinks : ∀ part, part <+: names → part ≠ [] →
      ∀ target, fs.entryAt? (dir ++ part) ≠ some (.symlink target))
    (h : fs.resolveFrom links dir names = .ok found) :
    found = dir ++ names ∧ (∀ name ∈ names, name.length ≤ nameLimit) ∧
      (names ≠ [] → (fs.entryAt? found).isSome) := by
  induction names generalizing dir with
  | nil =>
      rw [resolveFrom] at h
      cases h
      simp
  | cons name names ih =>
      have hlink : ∀ target, fs.entryAt? (dir ++ [name]) ≠ some (.symlink target) :=
        hlinks [name] (by simp) (by simp)
      rw [resolveFrom_cons (hnames name List.mem_cons_self) hlink] at h
      split at h
      · cases h
      · split at h
        · cases h
        · split at h
          · cases h
          · rename_i hshort hsome
            have hrest : ∀ part, part <+: names → part ≠ [] →
                ∀ target, fs.entryAt? (dir ++ [name] ++ part) ≠ some (.symlink target) := by
              intro part hp hne target
              have := hlinks (name :: part) (List.cons_prefix_cons.2 ⟨rfl, hp⟩) (by simp) target
              simpa using this
            obtain ⟨rfl, hshorts, hfound⟩ :=
              ih (fun n hn => hnames n (List.mem_cons_of_mem _ hn)) hrest h
            refine ⟨by simp, ?_, ?_⟩
            · intro n hn
              rcases List.mem_cons.1 hn with rfl | hn
              · exact Nat.le_of_not_gt hshort
              · exact hshorts n hn
            · intro _
              by_cases hnil : names = []
              · subst hnil
                simpa using Option.isSome_iff_ne_none.2 hsome
              · exact hfound hnil

/-- Where only directories stand on the way, the last name decides. -/
theorem WellFormed.resolveFrom_eq (hfs : fs.WellFormed) {links : Nat} {names : List Bytes}
    (hnames : RealPath.IsProper names) (hshort : ∀ name ∈ names, name.length ≤ nameLimit)
    (hlinks : ∀ part, part <+: names → part ≠ [] →
      ∀ target, fs.entryAt? (dir ++ part) ≠ some (.symlink target))
    (hdir : fs.entryAt? dir = some .directory)
    (hway : ∀ part, part <+: names → part ≠ names →
      ∀ e, fs.entryAt? (dir ++ part) = some e → e = .directory) :
    fs.resolveFrom links dir names =
      if fs.entryAt? (dir ++ names) = none then .error .notFound else .ok (dir ++ names) := by
  induction names generalizing dir with
  | nil => simp [resolveFrom, hdir]
  | cons name names ih =>
      have hlink : ∀ target, fs.entryAt? (dir ++ [name]) ≠ some (.symlink target) :=
        hlinks [name] (by simp) (by simp)
      have happend : dir ++ name :: names = dir ++ [name] ++ names := by simp
      rw [resolveFrom_cons (hnames name List.mem_cons_self) hlink, if_neg (by simp [hdir]),
        if_neg (Nat.not_lt.2 (hshort name List.mem_cons_self)), happend]
      cases he : fs.entryAt? (dir ++ [name]) with
      | none =>
          -- nothing can stand below what is missing
          have hnone : fs.entryAt? (dir ++ [name] ++ names) = none := by
            by_cases hnil : names = []
            · simpa [hnil] using he
            · cases hsome : fs.entryAt? (dir ++ [name] ++ names) with
              | none => rfl
              | some e =>
                  rw [hfs.isDirectory_of_append hnil hsome] at he
                  cases he
          rw [if_pos rfl, if_pos hnone]
      | some e =>
          simp only [reduceCtorEq, if_false]
          by_cases hnil : names = []
          · subst hnil
            simp [resolveFrom, he]
          · have hdir' : e = .directory :=
              hway [name] (by simp) (by simpa using Ne.symm hnil) e he
            refine ih (fun n hn => hnames n (List.mem_cons_of_mem _ hn))
              (fun n hn => hshort n (List.mem_cons_of_mem _ hn)) ?_ (hdir' ▸ he) ?_
            · intro part hp hne target
              have := hlinks (name :: part) (List.cons_prefix_cons.2 ⟨rfl, hp⟩) (by simp) target
              simpa using this
            · intro part hp hne e' he'
              refine hway (name :: part) (List.cons_prefix_cons.2 ⟨rfl, hp⟩) (by simpa using hne)
                e' (by simpa using he')

/-! ## Places without links -/

/-- No link stands at, above or below the real path, whether or not anything
stands there. -/
structure IsLinkFree (fs : FileSystem) (top : RealPath) : Prop where
  wellFormed : fs.WellFormed
  isProper_top : top.IsProper
  linkFree : ∀ x ∈ fs.entries, top <+: x.1 ∨ x.1 <+: top → x.2.isLink = false

instance (fs : FileSystem) (top : RealPath) : Decidable (fs.IsLinkFree top) :=
  decidable_of_iff
    (fs.WellFormed ∧ top.IsProper ∧
      ∀ x ∈ fs.entries, top <+: x.1 ∨ x.1 <+: top → x.2.isLink = false)
    ⟨fun ⟨hfs, htop, hlinks⟩ => ⟨hfs, htop, hlinks⟩,
      fun h => ⟨h.wellFormed, h.isProper_top, h.linkFree⟩⟩

/-! ## Trees -/

/-- A directory with no links at or below it. -/
structure IsTree (fs : FileSystem) (top : RealPath) : Prop where
  wellFormed : fs.WellFormed
  isDirectory : fs.entryAt? top = some .directory
  linkFree : ∀ x ∈ fs.entries, top <+: x.1 → x.2.isLink = false

instance (fs : FileSystem) (top : RealPath) : Decidable (fs.IsTree top) :=
  decidable_of_iff
    (fs.WellFormed ∧ fs.entryAt? top = some .directory ∧
      ∀ x ∈ fs.entries, top <+: x.1 → x.2.isLink = false)
    ⟨fun ⟨hfs, htop, hlinks⟩ => ⟨hfs, htop, hlinks⟩,
      fun h => ⟨h.wellFormed, h.isDirectory, h.linkFree⟩⟩

end FileSystem

/-- The system takes the spelling of the real path. -/
structure RealPath.WithinLimits (key : RealPath) : Prop where
  noNul : 0 ∉ key.toPath.bytes
  path : key.toPath.bytes.length ≤ FileSystem.pathLimit
  names : ∀ name ∈ key, name.length ≤ FileSystem.nameLimit

namespace FileSystem.IsLinkFree

variable {fs : FileSystem} {top key : RealPath}

/-- No link stands on the way to a path at or below the top. -/
theorem not_link (free : fs.IsLinkFree top) (hunder : top <+: key) {part : RealPath}
    (hp : part <+: key) (target : Path) : fs.entryAt? part ≠ some (.symlink target) := by
  intro hlink
  by_cases hnil : part = []
  · subst hnil
    simp at hlink
  · have hlinkFree := free.linkFree _ (mem_of_entryAt? hnil hlink)
      (List.prefix_or_prefix_of_prefix hp hunder).symm
    simp [Entry.isLink] at hlinkFree

/-- A normal path leads to its own real path, or nowhere. -/
theorem resolve_ok (free : fs.IsLinkFree top) (hkey : key.IsProper) (hunder : top <+: key)
    {found : RealPath} (h : fs.resolve key.toPath = .ok found) :
    found = key ∧ key.WithinLimits ∧ (fs.entryAt? key).isSome := by
  rw [resolve_toPath hkey] at h
  split at h
  · cases h
  · split at h
    · cases h
    · rename_i hnul hlong
      have hlinks : ∀ part, part <+: key → part ≠ [] →
          ∀ target, fs.entryAt? ([] ++ part) ≠ some (.symlink target) :=
        fun part hp _ target => free.not_link hunder hp target
      obtain ⟨hfound, hshort, hsome⟩ := resolveFrom_ok hkey hlinks h
      rw [List.nil_append] at hfound
      subst hfound
      refine ⟨rfl, ⟨hnul, Nat.le_of_not_gt hlong, hshort⟩, ?_⟩
      by_cases hnil : found = []
      · simp [hnil]
      · exact hsome hnil

theorem canonicalize_ok (free : fs.IsLinkFree top) (hkey : key.IsProper) (hunder : top <+: key)
    {p : Path} (h : fs.canonicalize key.toPath = .ok p) : p = key.toPath := by
  unfold canonicalize at h
  cases hr : fs.resolve key.toPath with
  | error e =>
      rw [hr] at h
      cases h
  | ok found =>
      rw [hr] at h
      obtain ⟨rfl, -⟩ := free.resolve_ok hkey hunder hr
      exact (Except.ok.inj h).symm

end FileSystem.IsLinkFree

namespace FileSystem.IsTree

variable {fs : FileSystem} {top key : RealPath}

theorem isProper_top (tree : fs.IsTree top) : top.IsProper :=
  tree.wellFormed.isProper tree.isDirectory

/-- What stands above a directory are directories. -/
theorem isLinkFree (tree : fs.IsTree top) : fs.IsLinkFree top := by
  refine ⟨tree.wellFormed, tree.isProper_top, fun x hx h => ?_⟩
  rcases h with hbelow | habove
  · exact tree.linkFree x hx hbelow
  · have hentry := tree.wellFormed.entryAt?_of_mem hx
    have hdir : fs.entryAt? x.1 = some .directory := by
      by_cases heq : x.1 = top
      · rw [heq, tree.isDirectory]
      · exact tree.wellFormed.isDirectory_of_prefix tree.isDirectory habove heq
    rw [hdir] at hentry
    rw [← Option.some.inj hentry]
    rfl

/-- Where only directories stand on the way, a path within the limits leads to
its entry. -/
theorem resolve_eq (tree : fs.IsTree top) (hkey : key.IsProper) (hunder : top <+: key)
    (hlimits : key.WithinLimits)
    (hway : ∀ dir, dir <+: key → dir ≠ key → ∀ e, fs.entryAt? dir = some e → e = .directory) :
    fs.resolve key.toPath =
      if fs.entryAt? key = none then .error .notFound else .ok key := by
  rw [resolve_toPath hkey, if_neg hlimits.noNul, if_neg (Nat.not_lt.2 hlimits.path)]
  exact tree.wellFormed.resolveFrom_eq hkey hlimits.names
    (fun part hp _ target => tree.isLinkFree.not_link hunder hp target) (entryAt?_nil fs) hway

/-- What is there is found, unless its spelling is too long. -/
theorem resolve_of_entry (tree : fs.IsTree top) (hunder : top <+: key) (hlimits : key.WithinLimits)
    {e : Entry} (h : fs.entryAt? key = some e) : fs.resolve key.toPath = .ok key := by
  have hway : ∀ dir, dir <+: key → dir ≠ key →
      ∀ e', fs.entryAt? dir = some e' → e' = .directory := by
    intro dir hp hne e' he'
    rw [tree.wellFormed.isDirectory_of_prefix h hp hne] at he'
    exact (Option.some.inj he').symm
  rw [tree.resolve_eq (tree.wellFormed.isProper h) hunder hlimits hway, if_neg (by simp [h])]

theorem metadata_ok (tree : fs.IsTree top) (hkey : key.IsProper) (hunder : top <+: key)
    {m : Metadata} (h : fs.metadata key.toPath = .ok m) :
    key.WithinLimits ∧ ∃ e, fs.entryAt? key = some e ∧ Entry.metadata e = m := by
  unfold metadata at h
  cases hr : fs.resolve key.toPath with
  | error e =>
      rw [hr] at h
      cases h
  | ok found =>
      obtain ⟨rfl, hlimits, hsome⟩ := tree.isLinkFree.resolve_ok hkey hunder hr
      obtain ⟨e, he⟩ := Option.isSome_iff_exists.1 hsome
      rw [hr] at h
      simp only [bind, Except.bind, he] at h
      exact ⟨hlimits, e, he, Except.ok.inj h⟩

theorem metadata_eq (tree : fs.IsTree top) (hkey : key.IsProper) (hunder : top <+: key)
    (hlimits : key.WithinLimits)
    (hway : ∀ dir, dir <+: key → dir ≠ key → ∀ e, fs.entryAt? dir = some e → e = .directory) :
    fs.metadata key.toPath =
      match fs.entryAt? key with
      | some e => .ok (Entry.metadata e)
      | none => .error .notFound := by
  unfold metadata
  rw [tree.resolve_eq hkey hunder hlimits hway]
  cases he : fs.entryAt? key with
  | none => simp [bind, Except.bind]
  | some e => simp [bind, Except.bind, he]

/-- A path leads to a regular file if one stands at its real path. -/
theorem isFile_iff (tree : fs.IsTree top) (hkey : key.IsProper) (hunder : top <+: key) :
    fs.isFile key.toPath = true ↔
      key.WithinLimits ∧ ∃ e, fs.entryAt? key = some e ∧ e.isRegular = true := by
  constructor
  · intro h
    unfold isFile at h
    split at h
    · rename_i m hm
      obtain ⟨hlimits, e, he, rfl⟩ := tree.metadata_ok hkey hunder hm
      refine ⟨hlimits, e, he, ?_⟩
      cases e <;> simp_all [Entry.metadata, Entry.isRegular]
    · cases h
  · intro h
    obtain ⟨hlimits, e, he, hreg⟩ := h
    have hr := tree.resolve_of_entry hunder hlimits he
    have hm : fs.metadata key.toPath = .ok (Entry.metadata e) := by
      simp [metadata, hr, he, bind, Except.bind]
    unfold isFile
    rw [hm]
    cases e <;> simp_all [Entry.metadata, Entry.isRegular]

theorem isDir_iff (tree : fs.IsTree top) (hkey : key.IsProper) (hunder : top <+: key) :
    fs.isDir key.toPath = true ↔ key.WithinLimits ∧ fs.entryAt? key = some .directory := by
  constructor
  · intro h
    unfold isDir at h
    split at h
    · rename_i m hm
      obtain ⟨hlimits, e, he, rfl⟩ := tree.metadata_ok hkey hunder hm
      refine ⟨hlimits, ?_⟩
      cases e <;> simp_all [Entry.metadata]
    · cases h
  · intro h
    obtain ⟨hlimits, he⟩ := h
    have hr := tree.resolve_of_entry hunder hlimits he
    simp [isDir, metadata, hr, he, bind, Except.bind, Entry.metadata]

end FileSystem.IsTree

end SymbolIndex
