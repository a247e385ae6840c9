-- SUMMARY: Relative paths of what is joined to a root: they come back as they were, links at and above the root or not.
import Mathlib.Data.List.Infix
import SymbolIndex.Document.Build
import SymbolIndex.Proofs.File.Joining
import SymbolIndex.Proofs.Text.Utf8

/-!
# Relative paths and back

A relative path that is joined to a root comes back from there. If the joined path
leads nowhere, both paths count as they are written. If it leads to something past no
link below the root, the root leads somewhere too, and the same names stand behind the
place it leads to. What is neither written nor found below the root has no relative
path at all.
-/

namespace SymbolIndex

theorem Path.stripBase?_eq_none_iff {p base : Path} :
    p.stripBase? base = none ↔ p.startsWith base = false := by
  constructor
  · intro h
    by_contra hstarts
    obtain ⟨relative, hstrip⟩ := exists_stripBase? (eq_true_of_ne_false hstarts)
    rw [h] at hstrip
    cases hstrip
  · intro h
    unfold stripBase?
    rw [h, if_neg (by simp)]

namespace FileSystem

variable {fs : FileSystem} {root : Path} {names : RealPath}

/-! ## What joined names lead to -/

/-- Where names joined to a root lead somewhere, the root leads to a directory, and
names are looked for from there. -/
theorem exists_resolve_root {real : RealPath} (habsolute : root.isAbsolute = true)
    (hnames : names.IsProper) (hne : names ≠ [])
    (h : fs.resolve (root.join (.ofNames names)) = .ok real) :
    ∃ top, fs.resolve root = .ok top ∧
      (∃ links, fs.resolveFrom links top names = .ok real) ∧
      ∀ part : RealPath, part.IsProper → part ≠ [] →
        ∃ links,
          fs.place false (root.join (.ofNames part)) = fs.placeFrom false links top part := by
  obtain ⟨mid, hroot, -, hjoin⟩ := Path.exists_parts_join_ofNames habsolute
  have hlonger : root.bytes <+: (root.join (.ofNames names)).bytes :=
    Path.prefix_bytes_join (Path.isAbsolute_ofNames hnames)
  unfold resolve at h
  rw [if_pos (Path.isAbsolute_join habsolute _), hjoin names hnames hne] at h
  split at h
  case isTrue => cases h
  case isFalse =>
    split at h
    case isTrue => cases h
    case isFalse hnul =>
      split at h
      case isTrue => cases h
      case isFalse hlong =>
        obtain ⟨links, top, hmid, hgoes⟩ := exists_resolveFrom_front h
        rw [hgoes names] at h
        have hdir := isDirectory_of_resolveFrom hne h
        -- a blank part at the end of the root stays at the directory
        have hparts : fs.resolveFrom linkLimit [] root.parts = .ok top := by
          rcases hroot with hroot | hroot
          · rw [hroot, hmid]
          · rw [hroot, hgoes, resolveFrom, if_neg (by simp [hdir]), if_pos (.inl rfl),
              resolveFrom]
        refine ⟨top, ?_, ⟨links, h⟩, fun part hpart hpartNe => ?_⟩
        · unfold resolve
          rw [if_neg (Path.ne_nil_of_isAbsolute habsolute),
            if_neg fun hmem => hnul (hlonger.subset hmem),
            if_neg fun hlt => hlong (Nat.lt_of_lt_of_le hlt hlonger.length_le),
            if_pos habsolute, hparts]
        · obtain ⟨links', hplace⟩ := exists_placeFrom_append hmid
          refine ⟨links', ?_⟩
          unfold place
          rw [if_pos (Path.isAbsolute_join habsolute _), hjoin part hpart hpartNe,
            hplace part hpartNe]

/-! ## Addresses -/

/-- Nothing at names joined to the root, and nothing on the way to them from there, is
a symbolic link. -/
def IsFreeBelow (fs : FileSystem) (root : Path) (names : RealPath) : Prop :=
  ∀ part, part <+: names → part ≠ [] → fs.isLink (root.join (.ofNames part)) = false

/-- Without links the names stand below the place of the root. -/
theorem IsFreeBelow.not_link {top : RealPath} (hfree : fs.IsFreeBelow root names)
    (hnames : names.IsProper)
    (hplace : ∀ part : RealPath, part.IsProper → part ≠ [] →
      ∃ links, fs.place false (root.join (.ofNames part)) = fs.placeFrom false links top part)
    (part : RealPath) (hp : part <+: names) (hne : part ≠ []) (target : Path) :
    fs.entryAt? (top ++ part) ≠ some (.symlink target) := by
  induction hlength : part.length using Nat.strongRecOn generalizing part target with
  | _ n ih =>
      obtain ⟨links, hfound⟩ := hplace part (hnames.of_prefix hp) hne
      have hstands : fs.placeFrom false links top part = top ++ part := by
        refine placeFrom_of_not_link (hnames.of_prefix hp) fun part' hp' hne' hshorter => ?_
        have hlt : part'.length < n :=
          hlength ▸ Nat.lt_of_le_of_ne hp'.length_le fun heq => hshorter (hp'.eq_of_length heq)
        exact fun target' => ih part'.length hlt part' (hp'.trans hp) hne' target' rfl
      intro hlink
      have := hfree part hp hne
      rw [isLink, hfound, hstands, hlink] at this
      cases this

/-- Past no link joined names lead to what stands by these names below the place of the
root. -/
theorem IsFreeBelow.exists_top {real : RealPath} (hfree : fs.IsFreeBelow root names)
    (habsolute : root.isAbsolute = true) (hnames : names.IsProper) (hne : names ≠ [])
    (h : fs.resolve (root.join (.ofNames names)) = .ok real) :
    ∃ top, fs.resolve root = .ok top ∧ real = top ++ names := by
  obtain ⟨top, hroot, ⟨links, hfound⟩, hplace⟩ := exists_resolve_root habsolute hnames hne h
  obtain ⟨rfl, -, -⟩ := resolveFrom_ok hnames (hfree.not_link hnames hplace) hfound
  exact ⟨top, hroot, rfl⟩

/-- The text is made of names with a slash between two of them, and what it leads to
from the root, if anything, it leads to past no symbolic link. -/
def IsAddress (fs : FileSystem) (root : Path) (relative : String) : Prop :=
  ∃ names : RealPath, names ≠ [] ∧ names.IsProper ∧ Path.ofString relative = .ofNames names ∧
    (fs.exists? (root / relative) = true → fs.IsFreeBelow root names)

/-! ## Relative paths -/

/-- Where the joined path leads nowhere the names behind the root count as written. -/
theorem relativePath_join_of_error {e : IoError} (habsolute : root.isAbsolute = true)
    (hnames : names.IsProper) (hne : names ≠ [])
    (h : fs.canonicalize (root.join (.ofNames names)) = .error e) :
    fs.relativePath (root.join (.ofNames names)) root = .ok (Path.ofNames names).display := by
  have hboth : fs.bothCanonical (root.join (.ofNames names)) root =
      (root.join (.ofNames names), root) := by
    rw [bothCanonical, h]
  unfold relativePath
  simp only [hboth, Path.stripBase?_join habsolute hnames hne]

/-- Where it leads to the place of the root and the same names, these count. -/
theorem relativePath_join_of_resolve {top : RealPath} (htop : top.IsProper)
    (hnames : names.IsProper) (hroot : fs.resolve root = .ok top)
    (h : fs.resolve (root.join (.ofNames names)) = .ok (top ++ names)) :
    fs.relativePath (root.join (.ofNames names)) root = .ok (Path.ofNames names).display := by
  have hboth : fs.bothCanonical (root.join (.ofNames names)) root =
      ((top ++ names).toPath, top.toPath) := by
    rw [bothCanonical, canonicalize, canonicalize, h, hroot]
    rfl
  have hunder : (top ++ names).relativeTo top = .ofNames names := by
    simp [RealPath.relativeTo, Path.ofNames]
  unfold relativePath
  simp only [hboth, hunder,
    RealPath.stripBase?_toPath (htop.append hnames) htop (List.prefix_append top names)]

/-- A relative path comes back from where it is joined to. -/
theorem IsAddress.relativePath_join {relative : String} (h : fs.IsAddress root relative)
    (hfs : fs.WellFormed) (habsolute : root.isAbsolute = true) :
    fs.relativePath (root / relative) root = .ok relative := by
  obtain ⟨names, hne, hnames, hspelled, hfree⟩ := h
  have hjoined : root / relative = root.join (.ofNames names) := by
    rw [← hspelled]
    rfl
  have hdisplay : (Path.ofNames names).display = relative := by
    rw [← hspelled]
    exact Utf8.decode_encode relative
  rw [hjoined] at hfree ⊢
  rw [← hdisplay]
  cases hresolve : fs.resolve (root.join (.ofNames names)) with
  | error e =>
      refine relativePath_join_of_error habsolute hnames hne (e := e) ?_
      rw [canonicalize, hresolve]
      rfl
  | ok real =>
      obtain ⟨entry, hentry⟩ := Option.isSome_iff_exists.1
        (hfs.isSome_of_resolve (Path.isAbsolute_join habsolute _) hresolve)
      have hexists : fs.exists? (root.join (.ofNames names)) = true := by
        simp [exists?, metadata, hresolve, hentry, bind, Except.bind, Except.isOk, Except.toBool]
      obtain ⟨top, hroot, rfl⟩ := (hfree hexists).exists_top habsolute hnames hne hresolve
      obtain ⟨topEntry, htopEntry⟩ :=
        Option.isSome_iff_exists.1 (hfs.isSome_of_resolve habsolute hroot)
      exact relativePath_join_of_resolve (hfs.isProper htopEntry) hnames hroot hresolve

/-- A path has no relative path exactly if it is neither written below the root, nor
found below the place of the root. -/
theorem relativePath_eq_error_iff {p : Path} :
    fs.relativePath p root = .error (.outsideRoot p root) ↔
      p.startsWith root = false ∧ ∀ real realRoot, fs.canonicalize p = .ok real →
        fs.canonicalize root = .ok realRoot → real.startsWith realRoot = false := by
  have hstrips : fs.relativePath p root = .error (.outsideRoot p root) ↔
      p.startsWith root = false ∧
        (fs.bothCanonical p root).1.startsWith (fs.bothCanonical p root).2 = false := by
    rw [← Path.stripBase?_eq_none_iff, ← Path.stripBase?_eq_none_iff]
    unfold relativePath
    dsimp only
    cases (fs.bothCanonical p root).1.stripBase? (fs.bothCanonical p root).2 with
    | some relative => simp
    | none => cases p.stripBase? root <;> simp
  rw [hstrips]
  refine and_congr_right fun hwritten => ?_
  unfold bothCanonical
  cases fs.canonicalize p with
  | error e => simp [hwritten]
  | ok real =>
      cases fs.canonicalize root with
      | error e => simp [hwritten]
      | ok realRoot => simp

/-- Under an absolute root a relative path comes back from where it is joined to, two
of them never have the same one there, and exactly what is neither written nor found
below the root has none. -/
theorem relativePath_roundTrip (hfs : fs.WellFormed) (habsolute : root.isAbsolute = true) :
    (∀ relative, fs.IsAddress root relative →
      fs.relativePath (root / relative) root = .ok relative) ∧
    (∀ relative relative', fs.IsAddress root relative → fs.IsAddress root relative' →
      relative ≠ relative' →
      fs.relativePath (root / relative) root ≠ fs.relativePath (root / relative') root) ∧
    ∀ p : Path, fs.relativePath p root = .error (.outsideRoot p root) ↔
      p.startsWith root = false ∧ ∀ real realRoot, fs.canonicalize p = .ok real →
        fs.canonicalize root = .ok realRoot → real.startsWith realRoot = false := by
  refine ⟨fun relative h => h.relativePath_join hfs habsolute, ?_,
    fun p => relativePath_eq_error_iff⟩
  intro relative relative' h h' hne heq
  rw [h.relativePath_join hfs habsolute, h'.relativePath_join hfs habsolute] at heq
  exact hne (Except.ok.inj heq)

/-! ## A root behind a link -/

/-- The link `/l` leads to `/r`, where a file stands in a directory `a`. -/
def linkedRoot : FileSystem where
  entries :=
    [([[114]], .directory), ([[114], [97]], .directory),
      ([[114], [97], Utf8.encode "b\\c.cs"], .file [120] 5), ([[108]], .symlink (.ofString "r"))]
  workingDir := []

/-- Behind the link the file and one that is missing are told apart, and `/r/a` has a
relative path there, which `/` has not. -/
theorem relativePath_roundTrip_linkedRoot :
    let root : Path := .ofString "/l//"
    linkedRoot.WellFormed ∧ root.isAbsolute = true ∧
    linkedRoot.exists? (root / "a/b\\c.cs") = true ∧
    linkedRoot.exists? (root / "a/d.cs") = false ∧
    linkedRoot.relativePath (root / "a/b\\c.cs") root = .ok "a/b\\c.cs" ∧
    linkedRoot.relativePath (root / "a/b\\c.cs") root ≠
      linkedRoot.relativePath (root / "a/d.cs") root ∧
    linkedRoot.relativePath (.ofString "/") root = .error (.outsideRoot (.ofString "/") root) := by
  intro root
  have hfs : linkedRoot.WellFormed := by decide +kernel
  have habsolute : root.isAbsolute = true := by decide +kernel
  have hpresent : linkedRoot.exists? (root / "a/b\\c.cs") = true := by decide +kernel
  have hmissing : linkedRoot.exists? (root / "a/d.cs") = false := by decide +kernel
  have haddress : linkedRoot.IsAddress root "a/b\\c.cs" := by
    refine ⟨[[97], Utf8.encode "b\\c.cs"], by simp, by decide +kernel, by decide +kernel,
      fun _ part hp hne => ?_⟩
    have hcases : part = [[97]] ∨ part = [[97], Utf8.encode "b\\c.cs"] := by
      have hinits := (List.mem_inits part _).2 hp
      simpa [hne] using hinits
    rcases hcases with rfl | rfl
    · decide +kernel
    · decide +kernel
  have haddress' : linkedRoot.IsAddress root "a/d.cs" := by
    refine ⟨[[97], Utf8.encode "d.cs"], by simp, by decide +kernel, by decide +kernel,
      fun hexists => ?_⟩
    rw [hmissing] at hexists
    cases hexists
  obtain ⟨hround, hapart, houtside⟩ := relativePath_roundTrip hfs habsolute
  refine ⟨hfs, habsolute, hpresent, hmissing, hround _ haddress,
    hapart _ _ haddress haddress' (by decide), (houtside _).2 ⟨by decide +kernel, ?_⟩⟩
  intro real realRoot hreal hrealRoot
  have hreal' : linkedRoot.canonicalize (.ofString "/") = .ok (.ofString "/") := by decide +kernel
  have hrealRoot' : linkedRoot.canonicalize root = .ok (.ofString "/r") := by decide +kernel
  rw [hreal'] at hreal
  rw [hrealRoot'] at hrealRoot
  rw [← Except.ok.inj hreal, ← Except.ok.inj hrealRoot]
  decide +kernel

end FileSystem

end SymbolIndex
