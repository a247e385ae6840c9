-- SUMMARY: Between two flushes neither the order of the events matters nor how often each arrives.
import SymbolIndex.Proofs.Ignore.Walking
import SymbolIndex.Proofs.Watch.Flushing

/-!
# Order of events

Of the events between two flushes only the set counts, since only the set of
pending paths does: a path that an event finds among the pending ones is
pending already. All of this is about spellings. Where the buffer knows a file
by another spelling than the events use, the order decides which of the two is
pending, and with it the id that is deleted.
-/

namespace SymbolIndex

/-! ## What events bring to mind -/

namespace Buffer

/-- The buffer without what is pending. -/
def settled (b : Buffer) : Buffer := { b with pending := [] }

/-- The paths of the actions that an event amounts to. -/
def brings (fs : FileSystem) (scope : Scope) (b : Buffer) (e : ChangeEvent) : List Path :=
  ((e.actions fs).flatMap (b.expand fs scope)).map Prod.fst

variable {fs : FileSystem} {scope : Scope} {b : Buffer} {e : ChangeEvent} {q : Path}

theorem mem_brings :
    q ∈ b.brings fs scope e ↔ ∃ p ∈ e.actions fs, ∃ a ∈ b.expand fs scope p, a.1 = q := by
  simp only [brings, List.mem_map, List.mem_flatMap]
  constructor
  · intro h
    obtain ⟨a, ⟨p, hp, ha⟩, rfl⟩ := h
    exact ⟨p, hp, a, ha, rfl⟩
  · intro h
    obtain ⟨p, hp, a, ha, rfl⟩ := h
    exact ⟨a, ⟨p, hp, ha⟩, rfl⟩

/-- What is pending brings nothing to mind but itself. -/
theorem mem_brings_iff :
    q ∈ b.brings fs scope e ∨ q ∈ b.pendingPaths ↔
      q ∈ b.settled.brings fs scope e ∨ q ∈ b.pendingPaths := by
  constructor
  · intro h
    rcases h with hq | hq
    · obtain ⟨p, hp, a, ha, rfl⟩ := mem_brings.1 hq
      rcases mem_expand.1 ha with h | h | ⟨hdir, hno, hgone, hp2, ha2, hunder, hknown | hknown⟩
      · exact .inl (mem_brings.2 ⟨p, hp, a, mem_expand.2 (.inl h), rfl⟩)
      · exact .inl (mem_brings.2 ⟨p, hp, a, mem_expand.2 (.inr (.inl h)), rfl⟩)
      · exact .inl (mem_brings.2 ⟨p, hp, a,
          mem_expand.2 (.inr (.inr ⟨hdir, hno, hgone, hp2, ha2, hunder, .inl hknown⟩)), rfl⟩)
      · exact .inr hknown
    · exact .inr hq
  · intro h
    rcases h with hq | hq
    · obtain ⟨p, hp, a, ha, rfl⟩ := mem_brings.1 hq
      refine .inl (mem_brings.2 ⟨p, hp, a, mem_expand.2 ?_, rfl⟩)
      rcases mem_expand.1 ha with h | h | ⟨hdir, hno, hgone, hp2, ha2, hunder, hknown | hknown⟩
      · exact .inl h
      · exact .inr (.inl h)
      · exact .inr (.inr ⟨hdir, hno, hgone, hp2, ha2, hunder, .inl hknown⟩)
      · exact absurd hknown List.not_mem_nil
    · exact .inr hq

theorem isNormal_of_mem_brings (hfs : fs.WellFormed) (hindexed : ∀ p ∈ b.indexed, p.IsNormal)
    (he : ∀ p ∈ e.paths, p.IsNormal) (hq : q ∈ b.settled.brings fs scope e) : q.IsNormal := by
  obtain ⟨p, hp, a, ha, rfl⟩ := mem_brings.1 hq
  have hpath := he _ (ChangeEvent.mem_paths_of_mem_actions hp)
  rcases mem_expand.1 ha with ⟨-, -, -, hunder⟩ | ⟨-, -, rfl⟩ | ⟨-, -, -, -, -, -, hknown | hknown⟩
  · exact hfs.isNormal_of_mem_walk hpath (List.mem_filter.1 hunder).1
  · exact hpath
  · exact hindexed _ hknown
  · exact absurd hknown List.not_mem_nil

end Buffer

/-! ## Events in a row -/

namespace Maintainer

/-- Takes in one event after the other. -/
def handleAll (fs : FileSystem) (m : Maintainer) (es : List ChangeEvent) : Maintainer :=
  es.foldl (fun m e => (m.handle fs e).value) m

variable {fs : FileSystem} {m : Maintainer} {e : ChangeEvent} {es es' : List ChangeEvent} {q : Path}

@[simp] theorem handleAll_nil : m.handleAll fs [] = m := rfl

@[simp] theorem handleAll_cons :
    m.handleAll fs (e :: es) = (m.handle fs e).value.handleAll fs es := rfl

@[simp] theorem scope_handleAll : (m.handleAll fs es).scope = m.scope := by
  induction es generalizing m with
  | nil => rfl
  | cons e es ih => rw [handleAll_cons, ih, scope_handle]

@[simp] theorem indexed_handleAll : (m.handleAll fs es).buffer.indexed = m.buffer.indexed := by
  induction es generalizing m with
  | nil => rfl
  | cons e es ih => rw [handleAll_cons, ih, indexed_handle]

theorem pendingPaths_handle :
    (m.handle fs e).value.buffer.pendingPaths =
      Path.extend m.buffer.pendingPaths (m.buffer.brings fs m.scope e) := by
  rw [buffer_handle, Buffer.pendingPaths_insertAll]
  rfl

theorem separate_handleAll (h : Path.Separate m.buffer.pendingPaths) :
    Path.Separate (m.handleAll fs es).buffer.pendingPaths := by
  induction es generalizing m with
  | nil => exact h
  | cons e es ih => exact ih (separate_handle h)

section NormalEvents

variable (hfs : fs.WellFormed) (hindexed : ∀ p ∈ m.buffer.indexed, p.IsNormal)

include hfs hindexed

/-- An event adds the paths that it brings to mind if they are new. -/
theorem mem_pendingPaths_handle (he : ∀ p ∈ e.paths, p.IsNormal) :
    q ∈ (m.handle fs e).value.buffer.pendingPaths ↔
      q ∈ m.buffer.pendingPaths ∨
        (q ∈ m.buffer.settled.brings fs m.scope e ∧
          ∀ s ∈ m.buffer.pendingPaths, q.same s = false) := by
  have hnormal : ∀ p ∈ m.buffer.brings fs m.scope e,
      (∀ s ∈ m.buffer.pendingPaths, p.same s = false) → p.IsNormal := by
    intro p hp hnew
    rcases Buffer.mem_brings_iff.1 (.inl hp) with hp | hp
    · exact Buffer.isNormal_of_mem_brings hfs hindexed he hp
    · simpa using hnew p hp
  rw [pendingPaths_handle, Path.mem_extend_iff]
  · constructor
    · intro h
      rcases h with hq | ⟨hq, hnew⟩
      · exact .inl hq
      · exact (Buffer.mem_brings_iff.1 (.inl hq)).elim (fun h => .inr ⟨h, hnew⟩) .inl
    · intro h
      rcases h with hq | ⟨hq, hnew⟩
      · exact .inl hq
      · exact (Buffer.mem_brings_iff.2 (.inl hq)).elim (fun h => .inr ⟨h, hnew⟩) .inl
  · intro p hp p' hp' hnew hsame
    have hnew' : ∀ s ∈ m.buffer.pendingPaths, p'.same s = false := by
      intro s hs
      refine Bool.eq_false_iff.2 fun hsame' => ?_
      have hps := Path.same_trans hsame hsame'
      rw [hnew s hs] at hps
      cases hps
    exact (hnormal p hp hnew).eq_of_same (hnormal p' hp' hnew') hsame

/-- Events in a row add the paths that any of them brings to mind. -/
theorem mem_pendingPaths_handleAll (hes : ∀ e ∈ es, ∀ p ∈ e.paths, p.IsNormal) :
    q ∈ (m.handleAll fs es).buffer.pendingPaths ↔
      q ∈ m.buffer.pendingPaths ∨
        ((∃ e ∈ es, q ∈ m.buffer.settled.brings fs m.scope e) ∧
          ∀ s ∈ m.buffer.pendingPaths, q.same s = false) := by
  induction es generalizing m with
  | nil => simp
  | cons e es ih =>
      have he := hes e List.mem_cons_self
      have hsettled : (m.handle fs e).value.buffer.settled = m.buffer.settled := by
        simp [Buffer.settled]
      have hone : ∀ s, s ∈ (m.handle fs e).value.buffer.pendingPaths ↔ _ :=
        fun s => mem_pendingPaths_handle hfs hindexed he
      rw [handleAll_cons, ih (by simpa using hindexed) fun e' he' =>
          hes e' (List.mem_cons_of_mem _ he'),
        hsettled, scope_handle, hone]
      constructor
      · intro h
        rcases h with (hq | ⟨hq, hnew⟩) | ⟨⟨e', he', hq⟩, hnew⟩
        · exact .inl hq
        · exact .inr ⟨⟨e, List.mem_cons_self, hq⟩, hnew⟩
        · exact .inr ⟨⟨e', List.mem_cons_of_mem _ he', hq⟩,
            fun s hs => hnew s (pending_handle_of_pending hs)⟩
      · intro h
        rcases h with hq | ⟨⟨e', he', hq⟩, hnew⟩
        · exact .inl (.inl hq)
        · rcases List.mem_cons.1 he' with rfl | he'
          · exact .inl (.inr ⟨hq, hnew⟩)
          · by_cases hafter : ∀ s ∈ (m.handle fs e).value.buffer.pendingPaths, q.same s = false
            · exact .inr ⟨⟨e', he', hq⟩, hafter⟩
            · -- the first event has brought the path to mind already
              push Not at hafter
              obtain ⟨s, hs, hsame⟩ := hafter
              rcases (hone s).1 hs with hold | ⟨hbrought, hsnew⟩
              · exact absurd (hnew s hold) hsame
              · have hqs : q = s := (Buffer.isNormal_of_mem_brings hfs hindexed
                  (hes e' (List.mem_cons_of_mem _ he')) hq).eq_of_same
                    (Buffer.isNormal_of_mem_brings hfs hindexed he hbrought) (by simpa using hsame)
                exact .inl (.inr ⟨hqs ▸ hbrought, hnew⟩)

/-- Two lists of the same events leave the same paths pending. -/
theorem pendingPaths_handleAll_perm (hpending : Path.Separate m.buffer.pendingPaths)
    (hes : ∀ e ∈ es, ∀ p ∈ e.paths, p.IsNormal) (hsame : ∀ e, e ∈ es ↔ e ∈ es') :
    (m.handleAll fs es).buffer.pendingPaths.Perm (m.handleAll fs es').buffer.pendingPaths := by
  rw [List.perm_ext_iff_of_nodup (separate_handleAll hpending).nodup
    (separate_handleAll hpending).nodup]
  intro q
  rw [mem_pendingPaths_handleAll hfs hindexed hes,
    mem_pendingPaths_handleAll hfs hindexed fun e he => hes e ((hsame e).2 he)]
  simp only [hsame]

end NormalEvents

end Maintainer

/-! ## Plans in another order -/

namespace FlushPlan

/-- The same work in another order. -/
structure Matches (plan plan' : FlushPlan) : Prop where
  upserts : plan.upserts.Perm plan'.upserts
  deletes : plan.deletes.Perm plan'.deletes
  report : plan.report = plan'.report

variable {parse : Parser} {fs : FileSystem} {scope : Scope} {paths paths' : List Path}
  {plan plan' : FlushPlan} {s : MemoryStore} {b : Buffer} {q : Path}

theorem matches_forPaths (parse : Parser) (fs : FileSystem) (scope : Scope)
    (h : paths.Perm paths') :
    (forPaths parse fs scope paths).Matches (forPaths parse fs scope paths') where
  upserts := h.filterMap _
  deletes := h.filterMap _
  report := by simp only [forPaths, h.countP_eq]

/-- Paths with ids of their own have documents with ids of their own. -/
theorem upserts_eq_of_id (hids : scope.HasOwnIds fs paths) :
    ∀ doc ∈ (forPaths parse fs scope paths).upserts.map Prod.fst,
      ∀ doc' ∈ (forPaths parse fs scope paths).upserts.map Prod.fst, doc.id = doc'.id → doc = doc' := by
  intro doc hdoc doc' hdoc' heq
  obtain ⟨⟨d, p⟩, hmem, rfl⟩ := List.mem_map.1 hdoc
  obtain ⟨⟨d', p'⟩, hmem', rfl⟩ := List.mem_map.1 hdoc'
  obtain ⟨hp, hfate⟩ := mem_upserts_forPaths.1 hmem
  obtain ⟨hp', hfate'⟩ := mem_upserts_forPaths.1 hmem'
  obtain ⟨relative, hrel, hid⟩ := id_of_buildDocument (Scope.fate_eq_upsert hfate).2
  obtain ⟨relative', hrel', hid'⟩ := id_of_buildDocument (Scope.fate_eq_upsert hfate').2
  obtain rfl := hids p hp p' hp' relative relative' hrel hrel' (hid ▸ hid' ▸ heq)
  rw [hfate] at hfate'
  exact Fate.upsert.inj hfate'

theorem Matches.imported_eq (h : plan.Matches plan')
    (hids : ∀ doc ∈ plan.upserts.map Prod.fst, ∀ doc' ∈ plan.upserts.map Prod.fst,
      doc.id = doc'.id → doc = doc') : plan.imported s = plan'.imported s := by
  unfold imported
  rw [MemoryStore.insertAll_perm (h.upserts.map Prod.fst) hids]

theorem Matches.documents_eq (h : plan.Matches plan')
    (himported : plan.imported s = plan'.imported s) :
    (plan.storeAfter s).documents = (plan'.storeAfter s).documents := by
  simp only [storeAfter, himported, MemoryStore.eraseAll_perm (h.deletes.map Prod.fst)]

theorem Matches.reportAfter_eq (h : plan.Matches plan')
    (himported : plan.imported s = plan'.imported s) : plan.reportAfter s = plan'.reportAfter s := by
  simp only [reportAfter, h.report, himported, h.upserts.length_eq, h.deletes.length_eq,
    MemoryStore.deletions_perm (h.deletes.map Prod.fst)]

/-- Paths that have one spelling each are remembered in any order. -/
theorem Matches.mem_indexedAfter_iff (h : plan.Matches plan')
    (hspell : ∀ p ∈ plan.upserts.map Prod.snd, ∀ p' ∈ plan.upserts.map Prod.snd,
      p.same p' = true → p = p') :
    q ∈ plan.indexedAfter s b ↔ q ∈ plan'.indexedAfter s b := by
  have hmem : ∀ p, p ∈ plan.upserts.map Prod.snd ↔ p ∈ plan'.upserts.map Prod.snd :=
    fun p => (h.upserts.map Prod.snd).mem_iff
  have hremembered : q ∈ plan.remembered s b ↔ q ∈ plan'.remembered s b := by
    unfold remembered
    rw [h.upserts.isEmpty_eq]
    split
    · rfl
    · simp only [Buffer.remember, Path.distinct_eq_extend, Path.extend_append]
      rw [Path.mem_extend_iff fun p hp p' hp' _ => hspell p hp p' hp',
        Path.mem_extend_iff fun p hp p' hp' _ =>
          hspell p ((hmem p).2 hp) p' ((hmem p').2 hp'), hmem q]
  unfold indexedAfter
  split
  · exact hremembered
  · simp only [List.mem_filter, hremembered, List.all_eq_true, h.deletes.mem_iff]

end FlushPlan

/-! ## Events, then a flush -/

namespace Maintainer

variable (parse : Parser) (fs : FileSystem) (m : Maintainer) (s : MemoryStore)

/-- Events with normal paths can arrive in any order, and any number of times,
if the indexed files are known by normal paths too. -/
theorem flush_handleAll_eq (hfs : fs.WellFormed) (hindexed : ∀ p ∈ m.buffer.indexed, p.IsNormal)
    (hpending : Path.Separate m.buffer.pendingPaths) (es es' : List ChangeEvent)
    (hes : ∀ e ∈ es, ∀ p ∈ e.paths, p.IsNormal) (hsame : ∀ e, e ∈ es ↔ e ∈ es')
    (hids : m.scope.HasOwnIds fs (m.handleAll fs es).buffer.pendingPaths) :
    let flushed := ((m.handleAll fs es).flush MemoryStore.operations parse fs s).value
    let flushed' := ((m.handleAll fs es').flush MemoryStore.operations parse fs s).value
    flushed.2.2.documents = flushed'.2.2.documents ∧
      (∀ q, q ∈ flushed.2.1.buffer.indexed ↔ q ∈ flushed'.2.1.buffer.indexed) ∧
      flushed.2.1.buffer.pending = [] ∧ flushed'.2.1.buffer.pending = [] ∧
      flushed.1 = flushed'.1 := by
  intro flushed flushed'
  have hperm := pendingPaths_handleAll_perm hfs hindexed hpending hes hsame
  have hmatches := FlushPlan.matches_forPaths parse fs m.scope hperm
  have himported := hmatches.imported_eq (s := s) (FlushPlan.upserts_eq_of_id hids)
  simp only [flushed, flushed', value_flush_memory, scope_handleAll]
  refine ⟨hmatches.documents_eq himported, fun q => ?_, trivial, trivial,
    hmatches.reportAfter_eq himported⟩
  have hspell : ∀ p ∈ (FlushPlan.forPaths parse fs m.scope
        (m.handleAll fs es).buffer.pendingPaths).upserts.map Prod.snd,
      p ∈ (m.handleAll fs es).buffer.pendingPaths := by
    intro p hp
    obtain ⟨⟨doc, p'⟩, hmem, rfl⟩ := List.mem_map.1 hp
    exact (FlushPlan.mem_upserts_forPaths.1 hmem).1
  rw [hmatches.mem_indexedAfter_iff fun p hp p' hp' =>
    (separate_handleAll hpending).eq_of_same (hspell p hp) (hspell p' hp')]
  simp only [FlushPlan.indexedAfter, FlushPlan.remembered, Buffer.remember, indexed_handleAll]

theorem isNormal_directoryAndFile :
    (Path.ofString "/r/d").IsNormal ∧ (Path.ofString "/r/d/b.txt").IsNormal := by
  let key : RealPath := [[114], [100], Utf8.encode "b.txt"]
  obtain ⟨hdir, hproper, hfile⟩ : RealPath.toPath [[114], [100]] = .ofString "/r/d" ∧
      key.IsProper ∧ key.toPath = .ofString "/r/d/b.txt" := by decide +kernel
  exact ⟨⟨[[114], [100]], by decide, hdir⟩, ⟨key, hproper, hfile⟩⟩

/-- A directory and a file in it are reported gone, in either order and the
directory twice. -/
theorem flush_handleAll_eq_removed :
    let fs : FileSystem := ⟨[([[114]], .directory)], []⟩
    let m : Maintainer :=
      { scope := { root := .ofString "/r", config := {} }
        buffer := { indexed := [.ofString "/r/d/b.txt"] } }
    let s : MemoryStore := { documents := [{ id := fileId "d/b.txt" }] }
    let dir : ChangeEvent := ⟨.removed, [.ofString "/r/d"]⟩
    let file : ChangeEvent := ⟨.removed, [.ofString "/r/d/b.txt"]⟩
    let flushed :=
      ((m.handleAll fs [file, dir]).flush MemoryStore.operations (fun _ => none) fs s).value
    let flushed' :=
      ((m.handleAll fs [dir, file, dir]).flush MemoryStore.operations (fun _ => none) fs s).value
    flushed.2.2.documents = flushed'.2.2.documents ∧
      (∀ q, q ∈ flushed.2.1.buffer.indexed ↔ q ∈ flushed'.2.1.buffer.indexed) ∧
      flushed.2.1.buffer.pending = [] ∧ flushed'.2.1.buffer.pending = [] ∧
      flushed.1 = flushed'.1 := by
  intro fs m s dir file
  obtain ⟨hdir, hfile⟩ := isNormal_directoryAndFile
  obtain ⟨hfs, hpending⟩ : fs.WellFormed ∧
      (m.handleAll fs [file, dir]).buffer.pendingPaths = [.ofString "/r/d/b.txt"] := by
    decide +kernel
  refine flush_handleAll_eq (fun _ => none) fs m s hfs ?_ List.Pairwise.nil
    [file, dir] [dir, file, dir] ?_ ?_ ?_
  · intro p hp
    rw [List.mem_singleton.1 hp]
    exact hfile
  · intro e he p hp
    rcases List.mem_pair.1 he with rfl | rfl
    · rw [List.mem_singleton.1 hp]
      exact hfile
    · rw [List.mem_singleton.1 hp]
      exact hdir
  · simp [or_comm]
  · rw [hpending]
    intro p hp q hq _ _ _ _ _
    rw [List.mem_singleton.1 hp, List.mem_singleton.1 hq]

/-- Where the buffer knows a file by a spelling that is not normal, the order
decides which spelling is pending, and the document stays in one of two orders. -/
theorem order_matters_for_other_spelling :
    let fs : FileSystem := ⟨[([[114]], .directory)], []⟩
    let m : Maintainer :=
      { scope := { root := .ofString "/r", config := {} }
        buffer := { indexed := [.ofString "/r/d//b.txt"] } }
    let s : MemoryStore := { documents := [{ id := fileId "d/b.txt" }] }
    let dir : ChangeEvent := ⟨.removed, [.ofString "/r/d"]⟩
    let file : ChangeEvent := ⟨.removed, [.ofString "/r/d/b.txt"]⟩
    let flushed :=
      ((m.handleAll fs [file, dir]).flush MemoryStore.operations (fun _ => none) fs s).value
    let flushed' :=
      ((m.handleAll fs [dir, file]).flush MemoryStore.operations (fun _ => none) fs s).value
    (∀ e ∈ [file, dir], ∀ p ∈ e.paths, p.IsNormal) ∧
      m.scope.HasOwnIds fs (m.handleAll fs [file, dir]).buffer.pendingPaths ∧
      m.scope.HasOwnIds fs (m.handleAll fs [dir, file]).buffer.pendingPaths ∧
      flushed.2.2.get? (fileId "d/b.txt") = none ∧
      flushed'.2.2.get? (fileId "d/b.txt") = some { id := fileId "d/b.txt" } := by
  intro fs m s dir file flushed flushed'
  obtain ⟨hdir, hfile⟩ := isNormal_directoryAndFile
  have hnormal : ∀ e ∈ [file, dir], ∀ p ∈ e.paths, p.IsNormal := by
    intro e he p hp
    rcases List.mem_pair.1 he with rfl | rfl
    · rw [List.mem_singleton.1 hp]
      exact hfile
    · rw [List.mem_singleton.1 hp]
      exact hdir
  let b : Path := .ofString "/r/d/b.txt"
  let b' : Path := .ofString "/r/d//b.txt"
  obtain ⟨⟨hpending, hpending'⟩, ⟨hmissing, hrel⟩, ⟨hmissing', hrel'⟩, hids⟩ :
      ((m.handleAll fs [file, dir]).buffer.pendingPaths = [b] ∧
        (m.handleAll fs [dir, file]).buffer.pendingPaths = [b']) ∧
      (fs.metadata b = .error .notFound ∧ fs.relativePath b m.scope.root = .ok "d/b.txt") ∧
      (fs.metadata b' = .error .notFound ∧ fs.relativePath b' m.scope.root = .ok "d//b.txt") ∧
      fileId "d//b.txt" ≠ fileId "d/b.txt" := by decide +kernel
  have hfate : m.scope.fate (fun _ => none) fs b = .delete (fileId "d/b.txt") :=
    Scope.fate_of_missing hmissing hrel
  have hfate' : m.scope.fate (fun _ => none) fs b' = .delete (fileId "d//b.txt") :=
    Scope.fate_of_missing hmissing' hrel'
  have hown : ∀ p, m.scope.HasOwnIds fs [p] := by
    intro p q hq q' hq' _ _ _ _ _
    rw [List.mem_singleton.1 hq, List.mem_singleton.1 hq']
  simp only [flushed, flushed', value_flush_memory, scope_handleAll, hpending, hpending']
  refine ⟨hnormal, hown _, hown _, ?_, ?_⟩
  · refine FlushPlan.get?_storeAfter_of_delete rfl (FlushPlan.mem_deletes_iff.2 ⟨_, ?_, hfate⟩)
    exact List.mem_cons_self
  · rw [FlushPlan.get?_of_untouched rfl]
    · exact List.find?_cons_of_pos (by simp)
    · intro q hq
      rw [List.mem_singleton.1 hq, hfate']
      exact fun heq => hids (Option.some.inj heq)

end Maintainer

end SymbolIndex
