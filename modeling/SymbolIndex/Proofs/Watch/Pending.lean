-- SUMMARY: The paths of a buffer: what inserting, remembering, forgetting and recording make of them.
import Mathlib.Data.List.Pairwise
import SymbolIndex.Proofs.File.Spelling
import SymbolIndex.Watch.Maintainer

/-!
# Pending paths

A flush asks the disk about every pending path, so of the buffer only the paths
count. Taking in actions adds those of their paths that are new; which action a
path carries, and how often it is taken in, makes no difference to the paths.
-/

namespace SymbolIndex

/-! ## Lists of paths without repetitions -/

namespace Path

/-- Adds the paths that have no spelling among those seen. -/
def extend (seen ps : List Path) : List Path :=
  ps.foldl (fun seen p => if seen.any p.same then seen else seen ++ [p]) seen

/-- No path is there in two spellings, or twice. -/
def Separate (ps : List Path) : Prop := ps.Pairwise fun p q => p.same q = false

variable {seen ps : List Path} {p q : Path}

theorem distinct_eq_extend (ps : List Path) : distinct ps = extend [] ps := rfl

@[simp] theorem extend_nil (seen : List Path) : extend seen [] = seen := rfl

@[simp] theorem extend_cons (seen : List Path) (p : Path) (ps : List Path) :
    extend seen (p :: ps) = extend (if seen.any p.same then seen else seen ++ [p]) ps := rfl

theorem extend_append (seen ps qs : List Path) :
    extend seen (ps ++ qs) = extend (extend seen ps) qs := by
  simp [extend]

theorem mem_extend_of_mem (h : q ∈ seen) : q ∈ extend seen ps := by
  induction ps generalizing seen with
  | nil => exact h
  | cons p ps ih =>
      rw [extend_cons]
      split
      · exact ih h
      · exact ih (List.mem_append_left _ h)

theorem mem_or_mem_of_mem_extend (h : q ∈ extend seen ps) : q ∈ seen ∨ q ∈ ps := by
  induction ps generalizing seen with
  | nil => exact .inl h
  | cons p ps ih =>
      rw [extend_cons] at h
      rcases ih h with hq | hq
      · split at hq
        · exact .inl hq
        · rcases List.mem_append.1 hq with hq | hq
          · exact .inl hq
          · exact .inr (List.mem_singleton.1 hq ▸ List.mem_cons_self)
      · exact .inr (List.mem_cons_of_mem _ hq)

theorem exists_same_mem_extend (h : p ∈ ps) : ∃ q ∈ extend seen ps, p.same q = true := by
  induction ps generalizing seen with
  | nil => cases h
  | cons p' ps ih =>
      rw [extend_cons]
      rcases List.mem_cons.1 h with rfl | h
      · split
        · rename_i hany
          obtain ⟨s, hs, hsame⟩ := List.any_eq_true.1 hany
          exact ⟨s, mem_extend_of_mem hs, hsame⟩
        · exact ⟨p, mem_extend_of_mem (by simp), same_refl p⟩
      · exact ih h

theorem separate_extend (h : Separate seen) : Separate (extend seen ps) := by
  induction ps generalizing seen with
  | nil => exact h
  | cons p ps ih =>
      rw [extend_cons]
      split
      · exact ih h
      · rename_i hany
        refine ih (List.pairwise_append.2 ⟨h, List.pairwise_singleton _ _, ?_⟩)
        intro s hs p' hp'
        obtain rfl := List.mem_singleton.1 hp'
        rw [same_comm]
        exact Bool.eq_false_iff.2 fun hsame => hany (List.any_eq_true.2 ⟨s, hs, hsame⟩)

theorem exists_extend_eq (seen ps : List Path) :
    ∃ added, extend seen ps = seen ++ added ∧ added.Sublist ps := by
  induction ps generalizing seen with
  | nil => exact ⟨[], (List.append_nil seen).symm, .slnil⟩
  | cons p ps ih =>
      rw [extend_cons]
      split
      case isTrue =>
        obtain ⟨added, heq, hsub⟩ := ih seen
        exact ⟨added, heq, hsub.cons p⟩
      case isFalse =>
        obtain ⟨added, heq, hsub⟩ := ih (seen ++ [p])
        exact ⟨p :: added, by rw [heq, List.append_assoc, List.singleton_append],
          hsub.cons_cons p⟩

/-- New paths without repetitions are all added. -/
theorem extend_of_separate (h : Separate (seen ++ ps)) :
    extend seen ps = seen ++ ps := by
  induction ps generalizing seen with
  | nil => rw [extend_nil, List.append_nil]
  | cons p ps ih =>
      have hnew : ¬ seen.any p.same = true := by
        intro hany
        obtain ⟨q, hq, hsame⟩ := List.any_eq_true.1 hany
        have hapart := (List.pairwise_append.1 h).2.2 q hq p List.mem_cons_self
        rw [same_comm, hsame] at hapart
        cases hapart
      rw [List.append_cons] at h ⊢
      rw [extend_cons, if_neg hnew, ih h]

/-- Real paths of their own have no spelling in common. -/
theorem separate_toPath {keys : List RealPath} (hkeys : keys.Nodup)
    (hproper : ∀ key ∈ keys, key.IsProper) : Separate (keys.map RealPath.toPath) := by
  refine List.pairwise_map.2 (hkeys.imp_of_mem fun {key key'} hkey hkey' hne => ?_)
  refine Bool.eq_false_iff.2 fun hsame => hne ?_
  exact (RealPath.same_toPath (hproper key hkey) (hproper key' hkey')).1 hsame

theorem distinct_sublist (ps : List Path) : (distinct ps).Sublist ps := by
  obtain ⟨added, heq, hsub⟩ := exists_extend_eq [] ps
  rw [distinct_eq_extend, heq]
  exact hsub

/-- Where no two new paths are spellings of one, all new paths are added. -/
theorem mem_extend_iff
    (hps : ∀ p ∈ ps, ∀ q ∈ ps, (∀ s ∈ seen, p.same s = false) → p.same q = true → p = q) :
    q ∈ extend seen ps ↔ q ∈ seen ∨ (q ∈ ps ∧ ∀ s ∈ seen, q.same s = false) := by
  induction ps generalizing seen with
  | nil => simp
  | cons p ps ih =>
      rw [extend_cons]
      split
      · rename_i hany
        obtain ⟨s, hs, hsame⟩ := List.any_eq_true.1 hany
        rw [ih fun r hr r' hr' => hps r (List.mem_cons_of_mem _ hr) r' (List.mem_cons_of_mem _ hr')]
        constructor
        · intro h
          rcases h with hq | ⟨hq, hnew⟩
          · exact .inl hq
          · exact .inr ⟨List.mem_cons_of_mem _ hq, hnew⟩
        · intro h
          rcases h with hq | ⟨hq, hnew⟩
          · exact .inl hq
          · rcases List.mem_cons.1 hq with rfl | hq
            · rw [hnew s hs] at hsame
              cases hsame
            · exact .inr ⟨hq, hnew⟩
      · rename_i hany
        have hfresh : ∀ s ∈ seen, p.same s = false := fun s hs =>
          Bool.eq_false_iff.2 fun hsame => hany (List.any_eq_true.2 ⟨s, hs, hsame⟩)
        have htail : ∀ r ∈ ps, ∀ r' ∈ ps, (∀ s ∈ seen ++ [p], r.same s = false) →
            r.same r' = true → r = r' := by
          intro r hr r' hr' hnew
          refine hps r (List.mem_cons_of_mem _ hr) r' (List.mem_cons_of_mem _ hr') fun s hs => ?_
          exact hnew s (List.mem_append_left _ hs)
        rw [ih htail]
        constructor
        · intro h
          rcases h with hq | ⟨hq, hnew⟩
          · rcases List.mem_append.1 hq with hq | hq
            · exact .inl hq
            · obtain rfl := List.mem_singleton.1 hq
              exact .inr ⟨List.mem_cons_self, hfresh⟩
          · exact .inr ⟨List.mem_cons_of_mem _ hq, fun s hs => hnew s (List.mem_append_left _ hs)⟩
        · intro h
          rcases h with hq | ⟨hq, hnew⟩
          · exact .inl (List.mem_append_left _ hq)
          · by_cases hqp : q.same p = true
            · exact .inl (by simp [hps q hq p List.mem_cons_self hnew hqp])
            · refine .inr ⟨?_, fun s hs => ?_⟩
              · rcases List.mem_cons.1 hq with rfl | hq
                · exact absurd (same_refl q) hqp
                · exact hq
              · rcases List.mem_append.1 hs with hs | hs
                · exact hnew s hs
                · rw [List.mem_singleton.1 hs]
                  exact Bool.eq_false_iff.2 hqp

theorem Separate.nodup (h : Separate ps) : ps.Nodup := by
  refine List.Pairwise.imp ?_ h
  rintro p q hsame rfl
  simp at hsame

theorem Separate.eq_of_same (h : Separate ps) (hp : p ∈ ps) (hq : q ∈ ps) (hsame : p.same q = true) :
    p = q := by
  by_cases hpq : p = q
  · exact hpq
  · have hsymm : Std.Symm fun p q : Path => p.same q = false :=
      ⟨fun a b hab => by rw [same_comm, hab]⟩
    have hother : p.same q = false := List.Pairwise.forall h hp hq hpq
    rw [hsame] at hother
    cases hother

end Path

/-! ## Inserting, remembering, forgetting -/

namespace Buffer

variable {b : Buffer} {p q : Path}

def pendingPaths (b : Buffer) : List Path := b.pending.map Prod.fst

theorem map_fst_insertInto (a : PathAction) (l : List PathAction) :
    (insertInto a l).map Prod.fst = Path.extend (l.map Prod.fst) [a.1] := by
  induction l with
  | nil => rfl
  | cons c l ih =>
      unfold insertInto
      rw [Path.same_comm]
      by_cases h : a.1.same c.1 = true
      · simp [h]
      · rw [if_neg h, List.map_cons, ih]
        simp only [Path.extend_cons, Path.extend_nil, List.map_cons, List.any_cons,
          Bool.eq_false_iff.2 h, Bool.false_or]
        split <;> simp

theorem pendingPaths_insert (b : Buffer) (a : PathAction) :
    (b.insert a).pendingPaths = Path.extend b.pendingPaths [a.1] :=
  map_fst_insertInto a b.pending

theorem pendingPaths_insertAll (b : Buffer) (actions : List PathAction) :
    (b.insertAll actions).pendingPaths = Path.extend b.pendingPaths (actions.map Prod.fst) := by
  induction actions generalizing b with
  | nil => rfl
  | cons a actions ih =>
      have h := ih (b.insert a)
      rw [pendingPaths_insert, ← Path.extend_append] at h
      exact h

@[simp] theorem indexed_insertAll (b : Buffer) (actions : List PathAction) :
    (b.insertAll actions).indexed = b.indexed := by
  induction actions generalizing b with
  | nil => rfl
  | cons a actions ih => exact ih (b.insert a)

theorem mem_remember (h : q ∈ (b.remember ps).indexed) : q ∈ b.indexed ∨ q ∈ ps := by
  simp only [remember, Path.distinct_eq_extend] at h
  rcases Path.mem_or_mem_of_mem_extend h with h | h
  · cases h
  · exact List.mem_append.1 h

/-- Nothing with a normal spelling is lost among what is remembered. -/
theorem mem_remember_iff (hnormal : ∀ q, q ∈ b.indexed ∨ q ∈ ps → q.IsNormal) :
    q ∈ (b.remember ps).indexed ↔ q ∈ b.indexed ∨ q ∈ ps := by
  refine ⟨mem_remember, fun hq => ?_⟩
  obtain ⟨q', hq', hsame⟩ := Path.exists_same_mem_extend (List.mem_append.2 hq)
  have hmem : q' ∈ (b.remember ps).indexed := hq'
  rwa [(hnormal q hq).eq_of_same (hnormal q' (mem_remember hmem)) hsame]

theorem mem_forget : q ∈ (b.forget p).indexed ↔ q ∈ b.indexed ∧ q.same p = false := by
  simp [forget]

end Buffer

/-! ## Intake -/

theorem Scope.startsWith_of_isEligible {scope : Scope} {p : Path} (h : scope.isEligible p = true) :
    p.startsWith scope.root = true := by
  unfold isEligible Config.isIndexable at h
  cases hstrip : p.stripBase? scope.root with
  | none => simp [hstrip] at h
  | some relative => exact Path.startsWith_of_stripBase? hstrip

namespace Buffer

variable {fs : FileSystem} {scope : Scope} {b : Buffer} {a p : PathAction}

/-- All that an action for a path can amount to. -/
theorem mem_expand :
    a ∈ b.expand fs scope p ↔
      (fs.isDir p.1 = true ∧ p.2 = .upsert ∧ a.2 = .upsert ∧ a.1 ∈ scope.filesUnder fs p.1) ∨
      (fs.isDir p.1 = false ∧ scope.isEligible p.1 = true ∧ a = p) ∨
      (fs.isDir p.1 = false ∧ scope.isEligible p.1 = false ∧ fs.exists? p.1 = false ∧
        p.2 = .delete ∧ a.2 = .delete ∧ isUnder p.1 a.1 = true ∧
        (a.1 ∈ b.indexed ∨ a.1 ∈ b.pendingPaths)) := by
  obtain ⟨path, action⟩ := p
  obtain ⟨path', action'⟩ := a
  unfold expand knownUnder pendingPaths
  cases hdir : fs.isDir path
  · cases heligible : scope.isEligible path
    · cases hexists : fs.exists? path <;> cases action <;> cases action' <;> simp
      grind
    · simp
  · cases action <;> cases action' <;> simp

end Buffer

namespace Maintainer

variable (fs : FileSystem) (m : Maintainer) (e : ChangeEvent)

@[simp] theorem scope_handle : (m.handle fs e).value.scope = m.scope := rfl

theorem buffer_handle :
    (m.handle fs e).value.buffer =
      m.buffer.insertAll ((e.actions fs).flatMap (m.buffer.expand fs m.scope)) := rfl

@[simp] theorem indexed_handle : (m.handle fs e).value.buffer.indexed = m.buffer.indexed := by
  simp [buffer_handle]

theorem separate_handle {fs : FileSystem} {m : Maintainer} {e : ChangeEvent}
    (h : Path.Separate m.buffer.pendingPaths) :
    Path.Separate (m.handle fs e).value.buffer.pendingPaths := by
  rw [buffer_handle, Buffer.pendingPaths_insertAll]
  exact Path.separate_extend h

theorem pending_handle_of_pending {fs : FileSystem} {m : Maintainer} {e : ChangeEvent} {q : Path}
    (h : q ∈ m.buffer.pendingPaths) : q ∈ (m.handle fs e).value.buffer.pendingPaths := by
  rw [buffer_handle, Buffer.pendingPaths_insertAll]
  exact Path.mem_extend_of_mem h

end Maintainer

namespace ChangeEvent

variable {fs : FileSystem} {e : ChangeEvent} {p : Path}

theorem mem_paths_of_mem_actions {a : PathAction} (h : a ∈ e.actions fs) : a.1 ∈ e.paths := by
  obtain ⟨kind, paths⟩ := e
  cases kind with
  | created | renamedAway | renamed | removed =>
      obtain ⟨q, hq, rfl⟩ := List.mem_map.1 h
      exact hq
  | modified =>
      obtain ⟨q, hq, rfl⟩ := List.mem_map.1 h
      exact (List.mem_filter.1 hq).1
  | renamedBoth =>
      rcases paths with - | ⟨source, - | ⟨target, rest⟩⟩
      · cases h
      · obtain rfl := List.mem_singleton.1 h
        exact List.mem_cons_self
      · rcases List.mem_cons.1 h with rfl | h
        · exact List.mem_cons_self
        · obtain rfl := List.mem_singleton.1 h
          simp
  | other => cases h

/-- An event about a file asks for something, unless it is about no change at
all or names more than the two ends of a renaming. -/
theorem exists_mem_actions (hkind : e.kind ≠ .other)
    (hboth : e.kind = .renamedBoth → e.paths.length ≤ 2) (hp : p ∈ e.paths)
    (hdir : fs.isDir p = false) : ∃ action, (p, action) ∈ e.actions fs := by
  obtain ⟨kind, paths⟩ := e
  cases kind with
  | created | renamedAway | renamed | removed => exact ⟨_, List.mem_map.2 ⟨p, hp, rfl⟩⟩
  | modified =>
      exact ⟨_, List.mem_map.2 ⟨p, List.mem_filter.2 ⟨hp, by simp [hdir]⟩, rfl⟩⟩
  | renamedBoth =>
      rcases paths with - | ⟨source, - | ⟨target, rest⟩⟩
      · cases hp
      · obtain rfl := List.mem_singleton.1 hp
        exact ⟨.delete, List.mem_cons_self⟩
      · obtain rfl : rest = [] := by simpa using hboth rfl
        rcases List.mem_cons.1 hp with rfl | hp
        · exact ⟨.delete, List.mem_cons_self⟩
        · obtain rfl := List.mem_singleton.1 hp
          exact ⟨.upsert, by simp [actions]⟩
  | other => exact absurd rfl hkind

end ChangeEvent

end SymbolIndex
