-- SUMMARY: Where paths lead, past links: something stands there, and spellings of one path agree.
import SymbolIndex.Proofs.File.Tree

/-!
# Resolution

Where a path leads something stands. What is blank in a path, such as a part `.`
behind a slash, takes no step. A file system may refuse a path for it, as where
it stands behind a file, but two spellings of one path never lead to two places.
-/

namespace SymbolIndex

/-! ## Steps -/

namespace Path

/-- The part takes a step. -/
def isStep (part : Bytes) : Bool := decide ¬(part = [] ∨ part = [dot])

/-- The part that a component stands for. -/
def Component.part? : Component → Option Bytes
  | .root => none
  | .current => none
  | .up => some [dot, dot]
  | .normal name => some name

theorem part?_innerComponent? (part : Bytes) :
    (innerComponent? part).bind Component.part? = if isStep part then some part else none := by
  unfold innerComponent? isStep
  by_cases hblank : part = [] ∨ part = [dot]
  · simp [hblank]
  · rw [if_neg hblank, if_pos (decide_eq_true hblank)]
    split
    case isTrue hup =>
      rw [hup]
      rfl
    case isFalse => rfl

theorem filterMap_innerComponents (parts : List Bytes) :
    (innerComponents parts).filterMap Component.part? = parts.filter isStep := by
  rw [innerComponents, List.filterMap_filterMap]
  simp only [part?_innerComponent?]
  induction parts with
  | nil => rfl
  | cons part parts ih => by_cases h : isStep part = true <;> simp [h, ih]

theorem parts_of_isAbsolute {p : Path} (h : p.isAbsolute = true) :
    ∃ rest, p.parts = [] :: rest := by
  unfold isAbsolute at h
  unfold parts
  cases hbytes : p.bytes with
  | nil =>
      rw [hbytes] at h
      cases h
  | cons b bs =>
      rw [hbytes] at h
      have hb : b = slash := by simpa using h
      exact ⟨Text.splitAt slash bs, by rw [Text.splitAt, if_pos hb]⟩

/-- The steps of a path are those of its components. -/
theorem filterMap_components (p : Path) :
    p.components.filterMap Component.part? = p.parts.filter isStep := by
  unfold components
  cases hparts : p.parts with
  | nil => rfl
  | cons first rest =>
      dsimp only
      split
      case isTrue habs =>
        obtain ⟨rest', hrest⟩ := parts_of_isAbsolute habs
        rw [hparts] at hrest
        rw [(List.cons.inj hrest).1, List.filterMap_cons_none rfl, filterMap_innerComponents]
        rfl
      case isFalse =>
        split
        case isTrue hdot =>
          rw [hdot, List.filterMap_cons_none rfl, filterMap_innerComponents]
          rfl
        case isFalse => exact filterMap_innerComponents (first :: rest)

theorem root_notMem_innerComponents (parts : List Bytes) : .root ∉ innerComponents parts := by
  intro h
  obtain ⟨part, -, hpart⟩ := List.mem_filterMap.1 h
  unfold innerComponent? at hpart
  grind

theorem root_mem_components {p : Path} : .root ∈ p.components ↔ p.isAbsolute = true := by
  unfold components
  have hinner := root_notMem_innerComponents
  cases hparts : p.parts with
  | nil =>
      constructor
      · intro h
        cases h
      · intro h
        obtain ⟨rest, hrest⟩ := parts_of_isAbsolute h
        rw [hparts] at hrest
        cases hrest
  | cons first rest =>
      dsimp only
      split
      case isTrue habs => simp [habs]
      case isFalse habs => split <;> simp [habs, hinner]

theorem isAbsolute_eq_of_same {p q : Path} (h : p.same q = true) :
    p.isAbsolute = q.isAbsolute := by
  have hcomponents : p.components = q.components := of_decide_eq_true h
  rw [Bool.eq_iff_iff, ← root_mem_components, ← root_mem_components, hcomponents]

theorem steps_eq_of_same {p q : Path} (h : p.same q = true) :
    p.parts.filter isStep = q.parts.filter isStep := by
  have hcomponents : p.components = q.components := of_decide_eq_true h
  rw [← filterMap_components, ← filterMap_components, hcomponents]

end Path

namespace FileSystem

variable {fs : FileSystem}

/-! ## What a resolved path leads to -/

/-- Something stands where a resolution ends. -/
theorem WellFormed.isSome_of_resolveFrom (hfs : fs.WellFormed) {links : Nat} {dir : RealPath}
    {parts : List Bytes} {found : RealPath} (hdir : (fs.entryAt? dir).isSome)
    (h : fs.resolveFrom links dir parts = .ok found) : (fs.entryAt? found).isSome := by
  fun_induction resolveFrom fs links dir parts with
  | case1 links dir =>
      cases h
      exact hdir
  | case3 links dir part rest hplace hblank ih => exact ih hdir h
  | case4 links dir rest hplace hblank ih =>
      refine ih ?_ h
      have hthere : fs.entryAt? dir = some .directory := by simpa using hplace
      by_cases hnil : dir = []
      · simp [hnil]
      · rw [hfs.parents _ (mem_of_entryAt? hnil hthere)]
        rfl
  | case9 dir part rest hplace hblank hup hshort target hlink hne links ih =>
      refine ih ?_ h
      split
      · simp
      · exact hdir
  | case10 links dir part rest hplace hblank hup hshort e hlink hentry ih =>
      refine ih ?_ h
      rw [hentry]
      rfl
  | _ => cases h

theorem WellFormed.isSome_of_resolve (hfs : fs.WellFormed) {p : Path} {found : RealPath}
    (habsolute : p.isAbsolute = true) (h : fs.resolve p = .ok found) :
    (fs.entryAt? found).isSome := by
  unfold resolve at h
  rw [if_pos habsolute] at h
  split at h
  · cases h
  · split at h
    · cases h
    · split at h
      · cases h
      · exact hfs.isSome_of_resolveFrom (by simp) h

/-- What cannot be looked at has no canonical spelling. -/
theorem WellFormed.canonicalize_of_error (hfs : fs.WellFormed) {p : Path} {e : IoError}
    (habsolute : p.isAbsolute = true) (h : fs.metadata p = .error e) :
    fs.canonicalize p = .error e := by
  unfold metadata at h
  unfold canonicalize
  cases hresolve : fs.resolve p with
  | error e' =>
      rw [hresolve] at h
      exact congrArg Except.error (Except.error.inj h)
  | ok found =>
      obtain ⟨entry, hentry⟩ :=
        Option.isSome_iff_exists.1 (hfs.isSome_of_resolve habsolute hresolve)
      simp [hresolve, hentry, bind, Except.bind] at h

/-! ## Spellings of one path -/

/-- A list without some blank parts of another one starts with the same step. -/
theorem exists_cons_of_isStep {part : Bytes} {parts rest : List Bytes}
    (hstep : Path.isStep part = true) (hsub : parts.Sublist (part :: rest))
    (hsame : parts.filter Path.isStep = (part :: rest).filter Path.isStep) :
    ∃ rest', parts = part :: rest' ∧ rest'.Sublist rest ∧
      rest'.filter Path.isStep = rest.filter Path.isStep := by
  rw [List.filter_cons_of_pos hstep] at hsame
  rcases List.sublist_cons_iff.1 hsub with hrest | ⟨rest', rfl, hrest⟩
  · have hle := (hrest.filter Path.isStep).length_le
    rw [hsame, List.length_cons] at hle
    omega
  · rw [List.filter_cons_of_pos hstep] at hsame
    exact ⟨rest', rfl, hrest, (List.cons.inj hsame).2⟩

/-- Without some of its blank parts a path leads where it led with them. -/
theorem resolveFrom_of_sublist {links : Nat} {dir key : RealPath} {parts parts' : List Bytes}
    (hsub : parts'.Sublist parts) (hsame : parts'.filter Path.isStep = parts.filter Path.isStep)
    (h : fs.resolveFrom links dir parts = .ok key) : fs.resolveFrom links dir parts' = .ok key := by
  fun_induction fs.resolveFrom links dir parts generalizing parts' with
  | case1 =>
      rw [List.sublist_nil.1 hsub, resolveFrom]
      exact h
  | case3 links dir part rest hdir hblank ih =>
      have hstep : Path.isStep part = false := by simp [Path.isStep, hblank]
      rw [List.filter_cons_of_neg (by simp [hstep])] at hsame
      rcases List.sublist_cons_iff.1 hsub with hrest | ⟨rest', rfl, hrest⟩
      · exact ih hrest hsame h
      · rw [List.filter_cons_of_neg (by simp [hstep])] at hsame
        rw [resolveFrom, if_neg hdir, if_pos hblank]
        exact ih hrest hsame h
  | case4 links dir rest hdir hstep ih =>
      obtain ⟨rest', rfl, hrest, hsame⟩ := exists_cons_of_isStep (decide_eq_true hstep) hsub hsame
      rw [resolveFrom, if_neg hdir, if_neg hstep, if_pos rfl]
      exact ih hrest hsame h
  | case9 dir part rest hdir hstep hup hshort target hlink htarget links ih =>
      obtain ⟨rest', rfl, hrest, hsame⟩ := exists_cons_of_isStep (decide_eq_true hstep) hsub hsame
      rw [resolveFrom, if_neg hdir, if_neg hstep, if_neg hup, if_neg hshort, hlink]
      dsimp only
      rw [if_neg htarget]
      refine ih (hrest.append_left target.parts) ?_ h
      rw [List.filter_append, List.filter_append, hsame]
  | case10 links dir part rest hdir hstep hup hshort e hlink hentry ih =>
      obtain ⟨rest', rfl, hrest, hsame⟩ := exists_cons_of_isStep (decide_eq_true hstep) hsub hsame
      rw [resolveFrom, if_neg hdir, if_neg hstep, if_neg hup, if_neg hshort, hentry]
      cases e with
      | symlink target => exact absurd rfl (hlink target)
      | _ => exact ih hrest hsame h
  -- the other cases are refusals
  | _ => cases h

/-- Where a path leads its steps lead. -/
theorem resolveFrom_steps {p : Path} {key : RealPath} (h : fs.resolve p = .ok key) :
    fs.resolveFrom linkLimit (if p.isAbsolute then [] else fs.workingDir)
      (p.parts.filter Path.isStep) = .ok key := by
  unfold resolve at h
  split at h
  · cases h
  · split at h
    · cases h
    · split at h
      · cases h
      · refine resolveFrom_of_sublist List.filter_sublist ?_ h
        rw [List.filter_filter]
        simp

/-- Two spellings of a path that both lead somewhere lead to one place. -/
theorem resolve_eq_of_same {p q : Path} {key key' : RealPath} (h : p.same q = true)
    (hp : fs.resolve p = .ok key) (hq : fs.resolve q = .ok key') : key = key' := by
  have hp := resolveFrom_steps hp
  rw [Path.isAbsolute_eq_of_same h, Path.steps_eq_of_same h, resolveFrom_steps hq] at hp
  exact (Except.ok.inj hp).symm

end FileSystem

end SymbolIndex
