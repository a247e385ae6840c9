-- SUMMARY: Paths that are put together name by name, and where they lead.
import Mathlib.Algebra.Order.BigOperators.Group.List
import Mathlib.Algebra.Order.Ring.Nat
import Mathlib.Data.List.Infix
import SymbolIndex.Glob.Search
import SymbolIndex.Proofs.File.Joining
import SymbolIndex.Proofs.File.Tree

/-!
# Children

A search puts its paths together name by name. The spelling that comes of it may lack
parts that lead nowhere, such as the blank one behind a slash or a leading `.`, and is
no longer for that. So it leads where the path leads that it was read off, and without
links a name leads from a directory to the entry of that name.
-/

namespace SymbolIndex

/-! ## Parts -/

namespace Text

variable [DecidableEq α] {sep c : α}

/-- Each part counts for its length and the separator behind it. -/
theorem length_add_one_splitAt (sep : α) (cs : List α) :
    cs.length + 1 = ((splitAt sep cs).map (·.length + 1)).sum := by
  induction cs with
  | nil => rfl
  | cons c cs ih =>
      obtain ⟨part, parts, hparts⟩ := List.exists_cons_of_ne_nil (splitAt_ne_nil sep cs)
      rw [hparts, List.map_cons, List.sum_cons] at ih
      by_cases hc : c = sep
      · rw [splitAt, if_pos hc, hparts]
        simp only [List.map_cons, List.sum_cons, List.length_cons, List.length_nil]
        omega
      · rw [splitAt, if_neg hc, hparts]
        simp only [List.map_cons, List.sum_cons, List.length_cons]
        omega

theorem exists_mem_splitAt_iff (hc : c ≠ sep) {cs : List α} :
    (∃ part ∈ splitAt sep cs, c ∈ part) ↔ c ∈ cs := by
  induction cs with
  | nil => simp
  | cons d cs ih =>
      obtain ⟨part, parts, hparts⟩ := List.exists_cons_of_ne_nil (splitAt_ne_nil sep cs)
      rw [hparts] at ih
      by_cases hd : d = sep
      · simp [splitAt, hd, hparts, hc, ← ih]
      · simp [splitAt, hd, hparts, ← ih, or_assoc]

end Text

namespace Path

variable {p d : Path} {name : Bytes}

theorem isAbsolute_of_notMem (h : slash ∉ name) : Path.isAbsolute ⟨name⟩ = false := by
  cases name with
  | nil => rfl
  | cons b bs =>
      have hb : b ≠ slash := fun heq => h (heq ▸ List.mem_cons_self)
      simpa only [isAbsolute, List.head?_cons, beq_eq_false_iff_ne, ne_eq,
        Option.some.injEq] using hb

theorem parts_of_notMem (h : slash ∉ name) : Path.parts ⟨name⟩ = [name] :=
  Text.splitAt_of_notMem h

theorem steps_of_same_current (h : d.same (.ofString ".") = true) :
    d.isAbsolute = false ∧ d.parts.filter isStep = [] := by
  have habsolute : (ofString ".").isAbsolute = false := by decide +kernel
  have hsteps : (ofString ".").parts.filter isStep = [] := by decide +kernel
  exact ⟨(isAbsolute_eq_of_same h).trans habsolute, (steps_eq_of_same h).trans hsteps⟩

theorem isAbsolute_join_eq {q : Path} (hd : d.bytes ≠ []) (hq : q.isAbsolute = false) :
    (d.join q).isAbsolute = d.isAbsolute := by
  obtain ⟨b, bs, hbs⟩ := List.exists_cons_of_ne_nil hd
  obtain ⟨rest, hrest⟩ := prefix_bytes_join (p := d) hq
  simp [isAbsolute, ← hrest, hbs]

/-! ## Spellings name by name -/

/-- What an absolute path has before its first slash. -/
def lead (absolute : Bool) : List Bytes := if absolute then [[]] else []

/-- The path has the parts behind its lead, but for some that take no step. -/
structure Spells (d : Path) (absolute : Bool) (parts : List Bytes) : Prop where
  nonempty : d.bytes ≠ []
  isAbsolute : d.isAbsolute = absolute
  sublist : d.parts.Sublist (lead absolute ++ parts)
  steps : d.parts.filter isStep = parts.filter isStep

theorem exists_spells (h : d.bytes ≠ []) : ∃ parts, d.Spells d.isAbsolute parts := by
  cases habsolute : d.isAbsolute with
  | true =>
      obtain ⟨rest, hrest⟩ := parts_of_isAbsolute habsolute
      refine ⟨rest, h, habsolute, by simp [hrest, lead], ?_⟩
      rw [hrest, List.filter_cons_of_neg (by simp [isStep])]
  | false => exact ⟨d.parts, h, habsolute, by simp [lead], rfl⟩

/-- The names in turn. -/
def descend (d : Path) (names : List Bytes) : Path := names.foldl child d

@[simp] theorem descend_nil (d : Path) : d.descend [] = d := rfl

@[simp] theorem descend_cons (d : Path) (name : Bytes) (names : List Bytes) :
    d.descend (name :: names) = (d.child name).descend names := rfl

theorem descend_append (d : Path) (names names' : List Bytes) :
    d.descend (names ++ names') = (d.descend names).descend names' :=
  List.foldl_append

/-- No part is blank before the first step. -/
def StepsFirst (parts : List Bytes) : Prop :=
  ∀ front, front ++ [[]] <+: parts → ∃ part ∈ front, isStep part = true

theorem StepsFirst.of_prefix {parts parts' : List Bytes} (h : StepsFirst parts)
    (hp : parts' <+: parts) : StepsFirst parts' :=
  fun front hfront => h front (hfront.trans hp)

/-- Names that follow are not blank. -/
theorem StepsFirst.append {parts : List Bytes} (h : StepsFirst parts) {names : RealPath}
    (hnames : names.IsProper) : StepsFirst (parts ++ names) := by
  intro front hfront
  rcases List.prefix_or_prefix_of_prefix hfront (List.prefix_append parts names) with hp | hp
  · exact h front hp
  · obtain ⟨rest, hrest⟩ := hp
    rcases List.eq_nil_or_concat rest with rfl | ⟨rest, last, rfl⟩
    · refine h front ?_
      rw [← hrest, List.append_nil]
    · -- the blank part would be one of the names
      rw [List.concat_eq_append, ← List.append_assoc] at hrest
      obtain ⟨rfl, hlast⟩ := List.append_inj' hrest rfl
      rw [List.append_assoc, List.prefix_append_right_inj] at hfront
      have hblank : [] ∈ names := hfront.subset (by simp)
      exact absurd rfl (hnames [] hblank).1

/-- No double slash stands behind leading dots, as it does in the path `.//a`. -/
def StartsPlainly (p : Path) : Prop :=
  p.isAbsolute = true ∨ ∀ front rest, p.parts = front ++ [] :: rest → rest ≠ [] →
    ∃ part ∈ front, isStep part = true

/-- Where a search starts. -/
def start (absolute : Bool) : Path := .ofString (if absolute then "/" else ".")

theorem Spells.child {absolute : Bool} {parts : List Bytes} (h : d.Spells absolute parts)
    (hslash : slash ∉ name) (hname : d.same (.ofString ".") = true → name ≠ []) :
    (d.child name).Spells absolute (parts ++ [name]) := by
  unfold Path.child
  split
  case isTrue hsame =>
    obtain ⟨habsolute, hsteps⟩ := steps_of_same_current hsame
    rw [h.isAbsolute] at habsolute
    subst habsolute
    refine ⟨hname hsame, isAbsolute_of_notMem hslash, ?_, ?_⟩
    · rw [parts_of_notMem hslash]
      exact List.sublist_append_right _ _
    · rw [parts_of_notMem hslash, List.filter_append, ← h.steps, hsteps, List.nil_append]
  case isFalse =>
    have hrelative := isAbsolute_of_notMem hslash
    obtain ⟨front, hfront, hjoin⟩ := exists_parts_join h.nonempty
    have hlonger := prefix_bytes_join (p := d) hrelative
    have hsub : front.Sublist d.parts := by
      rcases hfront with hfront | hfront <;> simp [hfront]
    have hsteps : d.parts.filter isStep = front.filter isStep := by
      rcases hfront with hfront | hfront <;> simp [hfront, isStep]
    refine ⟨fun hnil => h.nonempty (List.prefix_nil.1 (hnil ▸ hlonger)), ?_, ?_, ?_⟩
    · rw [← h.isAbsolute, isAbsolute_join_eq h.nonempty hrelative]
    · rw [hjoin _ hrelative, parts_of_notMem hslash, ← List.append_assoc]
      exact (hsub.trans h.sublist).append (.refl _)
    · rw [hjoin _ hrelative, parts_of_notMem hslash, List.filter_append, List.filter_append,
        ← hsteps, h.steps]

theorem spells_start_child (absolute : Bool) (hslash : slash ∉ name)
    (hname : absolute = false → name ≠ []) :
    ((start absolute).child name).Spells absolute [name] := by
  have hrelative := isAbsolute_of_notMem hslash
  cases absolute with
  | true =>
      have hchild : (start true).child name = ⟨slash :: name⟩ := by
        have hroot : start true = ⟨[slash]⟩ := by decide +kernel
        have hother : Path.same ⟨[slash]⟩ (.ofString ".") = false := by decide +kernel
        rw [hroot, Path.child, hother, if_neg (by simp), join, hrelative]
        simp
      have hparts : ((start true).child name).parts = [[], name] := by
        rw [hchild, parts, Text.splitAt, if_pos rfl, Text.splitAt_of_notMem hslash]
      refine ⟨by simp [hchild], by simp [hchild, Path.isAbsolute], by simp [hparts, lead], ?_⟩
      rw [hparts]
      exact List.filter_cons_of_neg (by simp [isStep])
  | false =>
      have hchild : (start false).child name = ⟨name⟩ := if_pos (same_refl _)
      rw [hchild]
      refine ⟨hname rfl, hrelative, ?_, ?_⟩
      · rw [parts_of_notMem hslash]
        simp
      · rw [parts_of_notMem hslash]

/-- Names are put behind a start without a loss of steps. -/
theorem spells_descend (absolute : Bool) {names : List Bytes} (hne : names ≠ [])
    (hslash : ∀ name ∈ names, slash ∉ name) (hblank : absolute = false → StepsFirst names) :
    ((start absolute).descend names).Spells absolute names := by
  induction names using List.reverseRecOn with
  | nil => exact absurd rfl hne
  | append_singleton names name ih =>
      have hlast : slash ∉ name := hslash name (by simp)
      rw [descend_append]
      by_cases hnil : names = []
      · subst hnil
        refine spells_start_child absolute hlast fun hrelative heq => ?_
        obtain ⟨part, hpart, -⟩ := hblank hrelative [] (by simp [heq])
        cases hpart
      · -- only a blank name would be lost behind dots
        have hfront := ih hnil (fun n hn => hslash n (List.mem_append_left _ hn))
          fun hrelative => StepsFirst.of_prefix (hblank hrelative) (List.prefix_append names [name])
        refine hfront.child hlast fun hsame heq => ?_
        obtain ⟨hrelative, hsteps⟩ := steps_of_same_current hsame
        rw [hfront.isAbsolute] at hrelative
        obtain ⟨part, hpart, hstep⟩ := hblank hrelative names (by simp [heq])
        rw [hfront.steps, List.filter_eq_nil_iff] at hsteps
        exact hsteps part hpart hstep

theorem fileName?_of_parts {front : List Bytes} (hname : IsName name)
    (h : p.parts = front ++ [name]) : p.fileName? = some name := by
  have hinner : innerComponents [name] = [.normal name] := by
    rw [innerComponents, List.filterMap_cons_some (innerComponent?_of_isName hname)]
    rfl
  obtain ⟨lead, hlead⟩ : ∃ lead, p.components = lead ++ [.normal name] := by
    rw [components, h]
    cases front with
    | nil =>
        have hrelative : p.isAbsolute = false := by
          rw [Bool.eq_false_iff]
          intro habsolute
          obtain ⟨rest, hrest⟩ := parts_of_isAbsolute habsolute
          rw [h] at hrest
          exact hname.1 (List.cons.inj hrest).1
        exact ⟨[], by simp [hrelative, hname.2.1, hinner]⟩
    | cons part front =>
        dsimp only [List.cons_append]
        rw [← List.cons_append, innerComponents_append, innerComponents_append, hinner]
        split
        case isTrue => exact ⟨_, (List.cons_append ..).symm⟩
        case isFalse =>
          split
          case isTrue => exact ⟨_, (List.cons_append ..).symm⟩
          case isFalse => exact ⟨_, rfl⟩
  rw [fileName?, hlead, List.getLast?_concat]

theorem fileName?_child (hd : d.bytes ≠ []) (hname : IsName name) :
    (d.child name).fileName? = some name := by
  have hparts := parts_of_notMem hname.2.2.2
  unfold Path.child
  split
  case isTrue => exact fileName?_of_parts hname (hparts.trans (List.nil_append _).symm)
  case isFalse =>
    obtain ⟨front, -, hjoin⟩ := exists_parts_join hd
    have hchild : (d.join ⟨name⟩).parts = front ++ [name] := by
      rw [hjoin _ (isAbsolute_of_notMem hname.2.2.2), hparts]
    exact fileName?_of_parts hname hchild

end Path

/-! ## Where they lead -/

namespace FileSystem

variable {fs : FileSystem} {p d : Path} {name : Bytes} {absolute : Bool}
  {parts parts' : List Bytes} {key k : RealPath}

/-- The system takes the parts, and they lead to the real path. -/
structure Follows (fs : FileSystem) (absolute : Bool) (parts : List Bytes) (key : RealPath) :
    Prop where
  noNul : ∀ part ∈ parts, 0 ∉ part
  short : (parts.map (·.length + 1)).sum ≤ pathLimit + 1
  goes : fs.resolveFrom linkLimit (if absolute then [] else fs.workingDir) parts = .ok key

theorem resolve_eq_ok_iff :
    fs.resolve p = .ok key ↔ p.bytes ≠ [] ∧ fs.Follows p.isAbsolute p.parts key := by
  have hlength : p.bytes.length + 1 = (p.parts.map (·.length + 1)).sum :=
    Text.length_add_one_splitAt Path.slash p.bytes
  have hnul : (∃ part ∈ p.parts, 0 ∈ part) ↔ 0 ∈ p.bytes :=
    Text.exists_mem_splitAt_iff (by decide)
  unfold resolve
  constructor
  · intro h
    split at h
    case isTrue => cases h
    case isFalse hne =>
      split at h
      case isTrue => cases h
      case isFalse hclean =>
        split at h
        case isTrue => cases h
        case isFalse hshort =>
          exact ⟨hne, fun part hpart hmem => hclean (hnul.1 ⟨part, hpart, hmem⟩), by omega, h⟩
  · rintro ⟨hne, hclean, hshort, hgoes⟩
    rw [if_neg hne, if_neg fun hmem => ?_, if_neg (by omega), hgoes]
    obtain ⟨part, hpart, hmem⟩ := hnul.2 hmem
    exact hclean part hpart hmem

theorem sum_length_le_of_sublist (h : parts'.Sublist parts) :
    (parts'.map (·.length + 1)).sum ≤ (parts.map (·.length + 1)).sum :=
  (h.map fun part : Bytes => part.length + 1).sum_le_sum fun _ _ => Nat.zero_le _

theorem Follows.of_sublist (h : fs.Follows absolute parts key) (hsub : parts'.Sublist parts)
    (hsteps : parts'.filter Path.isStep = parts.filter Path.isStep) :
    fs.Follows absolute parts' key where
  noNul part hpart := h.noNul part (hsub.subset hpart)
  short := (sum_length_le_of_sublist hsub).trans h.short
  goes := resolveFrom_of_sublist hsub hsteps h.goes

/-- On the way the front of the parts leads somewhere. -/
theorem Follows.exists_front (h : fs.Follows absolute (parts ++ parts') key) :
    ∃ mid, fs.Follows absolute parts mid := by
  have hsub : parts.Sublist (parts ++ parts') := List.sublist_append_left _ _
  obtain ⟨-, mid, hmid, -⟩ := exists_resolveFrom_front h.goes
  exact ⟨mid, fun part hpart => h.noNul part (hsub.subset hpart),
    (sum_length_le_of_sublist hsub).trans h.short, hmid⟩

/-- Something stands where parts lead to. -/
theorem Follows.isSome (h : fs.Follows absolute parts key) (hfs : fs.WellFormed)
    (hne : parts ≠ []) : (fs.entryAt? key).isSome := by
  refine hfs.isSome_of_resolveFrom ?_ h.goes
  simp [isDirectory_of_resolveFrom hne h.goes]

/-- A spelling of parts leads where these lead. -/
theorem Follows.resolve (h : fs.Follows absolute (Path.lead absolute ++ parts) key)
    (hspells : d.Spells absolute parts) : fs.resolve d = .ok key := by
  refine resolve_eq_ok_iff.2 ⟨hspells.nonempty, ?_⟩
  rw [hspells.isAbsolute]
  refine h.of_sublist hspells.sublist ?_
  rw [hspells.steps, List.filter_append]
  cases absolute <;> simp [Path.lead, Path.isStep]

theorem resolve_root (fs : FileSystem) : fs.resolve (.ofString "/") = .ok [] := by
  have hbytes : (Path.ofString "/").bytes = [Path.slash] := by decide +kernel
  have habsolute : (Path.ofString "/").isAbsolute = true := by decide +kernel
  have hparts : (Path.ofString "/").parts = [[], []] := by decide +kernel
  refine resolve_eq_ok_iff.2 ⟨by simp [hbytes], by simp [hparts], ?_, ?_⟩
  · rw [hparts]
    decide
  · rw [hparts, if_pos habsolute]
    simp [resolveFrom]

theorem exists?_of_resolve (h : fs.resolve p = .ok key) (hkey : (fs.entryAt? key).isSome) :
    fs.exists? p = true := by
  obtain ⟨e, he⟩ := Option.isSome_iff_exists.1 hkey
  simp [exists?, metadata, h, he, bind, Except.bind, Except.isOk, Except.toBool]

theorem isDir_of_resolve (h : fs.resolve p = .ok key) :
    fs.isDir p = true ↔ fs.entryAt? key = some .directory := by
  cases he : fs.entryAt? key with
  | none => simp [isDir, metadata, h, he, bind, Except.bind]
  | some e => cases e <;> simp [isDir, metadata, h, he, bind, Except.bind, Entry.metadata]

theorem isFile_of_resolve (h : fs.resolve p = .ok key) :
    fs.isFile p = true ↔ ∃ e, fs.entryAt? key = some e ∧ e.isRegular = true := by
  cases he : fs.entryAt? key with
  | none => simp [isFile, metadata, h, he, bind, Except.bind]
  | some e =>
      cases e <;> simp [isFile, metadata, h, he, bind, Except.bind, Entry.metadata, Entry.isRegular]

theorem exists_resolve_of_isDir (h : fs.isDir p = true) : ∃ key, fs.resolve p = .ok key := by
  cases hresolve : fs.resolve p with
  | ok key => exact ⟨key, rfl⟩
  | error e => simp [isDir, metadata, hresolve, bind, Except.bind] at h

theorem exists_resolve_of_isFile (h : fs.isFile p = true) : ∃ key, fs.resolve p = .ok key := by
  cases hresolve : fs.resolve p with
  | ok key => exact ⟨key, rfl⟩
  | error e => simp [isFile, metadata, hresolve, bind, Except.bind] at h

theorem isDir_of_isFile (h : fs.isFile p = true) : fs.isDir p = false := by
  obtain ⟨key, hkey⟩ := exists_resolve_of_isFile h
  obtain ⟨e, he, hregular⟩ := (isFile_of_resolve hkey).1 h
  rw [Bool.eq_false_iff]
  intro hdir
  rw [(isDir_of_resolve hkey).1 hdir] at he
  rw [← Option.some.inj he] at hregular
  cases hregular

/-! ## Names in directories -/

theorem WellFormed.mem_namesIn_iff (hfs : fs.WellFormed) :
    name ∈ fs.namesIn k ↔ (fs.entryAt? (k ++ [name])).isSome := by
  unfold namesIn
  rw [List.mem_filterMap]
  constructor
  · rintro ⟨⟨key, e⟩, hmem, hname⟩
    dsimp only at hname
    cases hlast : key.getLast? with
    | none => simp [hlast] at hname
    | some last =>
        obtain ⟨front, rfl⟩ := List.getLast?_eq_some_iff.1 hlast
        rw [List.getLast?_concat, List.dropLast_concat] at hname
        dsimp only at hname
        split at hname
        case isTrue hfront =>
          rw [← hfront, ← Option.some.inj hname, hfs.entryAt?_of_mem hmem]
          rfl
        case isFalse => cases hname
  · intro h
    obtain ⟨e, he⟩ := Option.isSome_iff_exists.1 h
    exact ⟨(k ++ [name], e), mem_of_entryAt? (by simp) he, by simp⟩

theorem mem_namesAt_iff (h : fs.resolve d = .ok k) :
    name ∈ fs.namesAt d ↔ fs.entryAt? k = some .directory ∧ name ∈ fs.namesIn k := by
  unfold namesAt
  rw [h]
  dsimp only
  split
  case isTrue hdir => simp [hdir]
  case isFalse hdir => simp [hdir]

/-- Past no links names lead to what stands by these names below. -/
theorem eq_append_of_resolveFrom {links : Nat} {dir : RealPath} {names : RealPath}
    (hnames : names.IsProper)
    (hlinks : ∀ part, part <+: names → part ≠ [] →
      ∀ target, fs.entryAt? (k ++ part) ≠ some (.symlink target))
    (hfront : fs.resolveFrom links dir parts = .ok k)
    (h : fs.resolveFrom links dir (parts ++ names) = .ok key) : key = k ++ names := by
  obtain ⟨links', mid, hmid, hgoes⟩ := exists_resolveFrom_front h
  rw [hfront] at hmid
  obtain rfl := Except.ok.inj hmid
  rw [hgoes names] at h
  exact (resolveFrom_ok hnames hlinks h).1

/-- Without a link in its place a name leads to its own entry. -/
theorem eq_of_resolve_child (hname : Path.IsName name)
    (hlink : ∀ target, fs.entryAt? (k ++ [name]) ≠ some (.symlink target))
    (hd : fs.resolve d = .ok k) (h : fs.resolve (d.child name) = .ok key) :
    key = k ++ [name] := by
  have hstep : Path.isStep name = true := by simp [Path.isStep, hname.1, hname.2.1]
  have hdir := resolveFrom_steps hd
  have hchild := resolveFrom_steps h
  obtain ⟨parts, hspells⟩ := Path.exists_spells (resolve_eq_ok_iff.1 hd).1
  have hspells' := hspells.child hname.2.2.2 fun _ => hname.1
  rw [hspells.steps] at hdir
  rw [hspells'.isAbsolute, hspells'.steps, List.filter_append, List.filter_singleton, hstep,
    cond_true] at hchild
  refine eq_append_of_resolveFrom (fun n hn => List.mem_singleton.1 hn ▸ hname) ?_ hdir hchild
  intro part hp hne
  have hinits := (List.mem_inits part _).2 hp
  have hpart : part = [name] := by simpa [hne] using hinits
  rw [hpart]
  exact hlink

end FileSystem

end SymbolIndex
