-- SUMMARY: Whatever calls to the store fail, every stored document belongs to a file that is believed to be indexed.
import SymbolIndex.Proofs.Store.Calls
import SymbolIndex.Proofs.Watch.VanishedDirectory

/-!
# Orphans

What is believed to be indexed is all that is left of a directory that is gone.
So no document may be stored for a file outside of it. An import that fails
stores nothing, and a file whose document could not be deleted is not forgotten.
-/

namespace SymbolIndex

variable {σ : Type} {ops : DocumentStore σ} {get? : σ → String → Option IndexDocument}
  {fs : FileSystem} {root : Path}

/-- Every stored document has the id of a file believed to be indexed. -/
def Buffer.AccountsFor (b : Buffer) (fs : FileSystem) (root : Path)
    (stored : String → Option IndexDocument) : Prop :=
  ∀ id, stored id ≠ none → ∃ p ∈ b.indexed, fs.IsIdOf root p id

/-! ## Flushes -/

namespace Buffer.AccountsFor

theorem upsertAll {plan : FlushPlan} {run : FlushRun σ} (hops : ops.Respects get?)
    (h : run.buffer.AccountsFor fs root (get? run.store))
    (hnormal : ∀ q, q ∈ run.buffer.indexed ∨ q ∈ plan.upserts.map Prod.snd → q.IsNormal)
    (hids : ∀ target ∈ plan.upserts, fs.IsIdOf root target.2 target.1.id) :
    let after := (FlushRun.upsertAll ops plan run).value
    after.buffer.AccountsFor fs root (get? after.store) := by
  intro after id hid
  rcases FlushRun.upsertAll_cases ops plan run with
    ⟨-, hsame⟩ | ⟨summary, -, hstore, hbuffer⟩ | ⟨e, hfailed, hstore, hbuffer⟩
  · have hafter : after = run := hsame
    rw [hafter] at hid ⊢
    exact h id hid
  · rw [hstore] at hid
    rw [hbuffer]
    by_cases hbatch : id ∈ (plan.upserts.map Prod.fst).map (·.id)
    · obtain ⟨doc, hdoc, rfl⟩ := List.mem_map.1 hbatch
      obtain ⟨target, htarget, rfl⟩ := List.mem_map.1 hdoc
      have hpath : target.2 ∈ plan.upserts.map Prod.snd := List.mem_map.2 ⟨target, htarget, rfl⟩
      exact ⟨target.2, (mem_remember_iff hnormal).2 (.inr hpath), hids target htarget⟩
    · rw [hops.import_other _ _ _ hbatch] at hid
      obtain ⟨p, hp, hpid⟩ := h id hid
      exact ⟨p, (mem_remember_iff hnormal).2 (.inl hp), hpid⟩
  · rw [hstore, hops.import_error _ _ _ hfailed] at hid
    rw [hbuffer]
    exact h id hid

theorem deleteOne {run : FlushRun σ} {target : String × Path} (hops : ops.Respects get?)
    (h : run.buffer.AccountsFor fs root (get? run.store))
    (hnormal : ∀ q ∈ run.buffer.indexed, q.IsNormal) (htarget : target.2.IsNormal)
    (hid : fs.IsIdOf root target.2 target.1) :
    let after := (FlushRun.deleteOne ops run target).value
    after.buffer.AccountsFor fs root (get? after.store) := by
  intro after id hstored
  obtain ⟨hstore, ⟨found, hdone, hbuffer⟩ | ⟨e, hfailed, hbuffer⟩⟩ :=
    FlushRun.deleteOne_cases ops run target
  · rw [hstore] at hstored
    have hne : id ≠ target.1 := by
      rintro rfl
      exact hstored (hops.delete_ok _ _ _ hdone)
    rw [hops.delete_other _ _ _ hne] at hstored
    obtain ⟨p, hp, hpid⟩ := h id hstored
    have hkept : p.same target.2 = false := by
      refine Bool.eq_false_iff.2 fun hsame => hne ?_
      rw [(hnormal p hp).eq_of_same htarget hsame] at hpid
      exact hpid.eq hid
    rw [hbuffer]
    exact ⟨p, mem_forget.2 ⟨hp, hkept⟩, hpid⟩
  · have hsame : get? after.store id = get? run.store id := by
      rw [hstore]
      by_cases heq : id = target.1
      · rw [heq, hops.delete_error _ _ _ hfailed]
      · rw [hops.delete_other _ _ _ heq]
    rw [hsame] at hstored
    rw [hbuffer]
    exact h id hstored

theorem deleteAll {run : FlushRun σ} {targets : List (String × Path)} (hops : ops.Respects get?)
    (h : run.buffer.AccountsFor fs root (get? run.store))
    (hnormal : ∀ q ∈ run.buffer.indexed, q.IsNormal)
    (htargets : ∀ target ∈ targets, target.2.IsNormal ∧ fs.IsIdOf root target.2 target.1) :
    let after := FlushRun.deleteAll ops run targets
    after.buffer.AccountsFor fs root (get? after.store) := by
  induction targets generalizing run with
  | nil => exact h
  | cons target targets ih =>
      obtain ⟨htarget, hid⟩ := htargets target List.mem_cons_self
      have hone := h.deleteOne hops hnormal htarget hid
      refine ih hone (fun q hq => hnormal q ?_) fun t ht => htargets t (List.mem_cons_of_mem _ ht)
      exact (FlushRun.buffer_deleteAll ops [target] run).2 q hq

/-- Imports and deletes may fail: every document is accounted for after a flush
if it was before. -/
theorem flush {scope : Scope} {b : Buffer} {store : σ} (hops : ops.Respects get?)
    (parse : Parser) (h : b.AccountsFor fs scope.root (get? store))
    (hnormal : ∀ p, b.Knows p → p.IsNormal) :
    let after := (b.flush ops parse fs scope store).value
    after.buffer.AccountsFor fs scope.root (get? after.store) := by
  intro after
  have hplanned : ∀ doc p, (doc, p) ∈ (FlushPlan.forPaths parse fs scope b.pendingPaths).upserts →
      p.IsNormal ∧ fs.IsIdOf scope.root p doc.id := by
    intro doc p hmem
    obtain ⟨hp, hfate⟩ := FlushPlan.mem_upserts_forPaths.1 hmem
    exact ⟨hnormal p (.inr hp), id_of_buildDocument (Scope.fate_eq_upsert hfate).2⟩
  have hdeleted : ∀ target ∈ (FlushPlan.forPaths parse fs scope b.pendingPaths).deletes,
      target.2.IsNormal ∧ fs.IsIdOf scope.root target.2 target.1 := by
    intro target hmem
    obtain ⟨hp, hfate⟩ := FlushPlan.mem_deletes_forPaths.1 hmem
    exact ⟨hnormal _ (.inr hp), (Scope.fate_eq_delete hfate).2⟩
  let start : FlushRun σ :=
    { report := (FlushPlan.forPaths parse fs scope b.pendingPaths).report
      buffer := { b with pending := [] }, store }
  have hstart : ∀ q, q ∈ start.buffer.indexed ∨
      q ∈ (FlushPlan.forPaths parse fs scope b.pendingPaths).upserts.map Prod.snd → q.IsNormal := by
    intro q hq
    rcases hq with hq | hq
    · exact hnormal q (.inl hq)
    · obtain ⟨⟨doc, p⟩, hmem, rfl⟩ := List.mem_map.1 hq
      exact (hplanned doc p hmem).1
  have hbefore : start.buffer.AccountsFor fs scope.root (get? start.store) := h
  have himported := hbefore.upsertAll hops hstart fun target hmem => (hplanned _ _ hmem).2
  show ((b.flush ops parse fs scope store).value.buffer).AccountsFor fs scope.root
    (get? (b.flush ops parse fs scope store).value.store)
  rw [value_flush, FlushRun.value_carryOut]
  refine himported.deleteAll hops (fun q hq => ?_) hdeleted
  rcases FlushRun.buffer_upsertAll ops _ start with hbuffer | hbuffer
  · rw [hbuffer] at hq
    exact hstart q (.inl hq)
  · rw [hbuffer] at hq
    exact hstart q (mem_remember hq)

end Buffer.AccountsFor

/-! ## Runs -/

/-- No document is stored for a file that is not believed to be indexed. -/
def World.OrphanFree (get? : σ → String → Option IndexDocument) (w : World σ) : Prop :=
  w.maintainer.buffer.AccountsFor w.fs w.maintainer.scope.root (get? w.store)

namespace World.OrphanFree

variable {parse : Parser} {top : RealPath} {w : World σ}

theorem step {act : Act} (hops : ops.Respects get?) (hw : w.IsLinkFree top)
    (h : w.OrphanFree get?) (hact : act.IsLinkFree top) :
    (w.step ops parse act).OrphanFree get? := by
  cases act with
  | change after =>
      -- the id of a path below the root is the same on all disks without links
      intro id hstored
      obtain ⟨p, hp, hid⟩ := h id hstored
      obtain ⟨key, hkey, hunder, rfl⟩ := hw.exists_key (.inl hp)
      rw [hw.root_eq, hw.linkFree.isIdOf_iff hkey hunder] at hid
      refine ⟨_, hp, ?_⟩
      show after.IsIdOf w.maintainer.scope.root _ id
      rw [hw.root_eq]
      exact (FileSystem.IsLinkFree.isIdOf_iff hact hkey hunder).2 hid
  | event e =>
      intro id hstored
      obtain ⟨p, hp, hid⟩ := h id hstored
      exact ⟨p, by rwa [World.step, Maintainer.indexed_handle], hid⟩
  | flush => exact Buffer.AccountsFor.flush hops parse h fun p hp => (hw.known p hp).1

theorem run {acts : List Act} (hops : ops.Respects get?) (hw : w.IsLinkFree top)
    (h : w.OrphanFree get?) (hacts : ∀ act ∈ acts, act.IsLinkFree top) :
    (w.run ops parse acts).OrphanFree get? := by
  induction acts generalizing w with
  | nil => exact h
  | cons act acts ih =>
      have hact := hacts act List.mem_cons_self
      exact ih (hw.step hact) (h.step hops hw hact) fun a ha => hacts a (List.mem_cons_of_mem _ ha)

end World.OrphanFree

/-- Whatever happens to the files and in whatever order, and whichever calls to
the store fail, no document is left behind without its file being remembered. -/
theorem World.IsLinkFree.orphanFree_run {top : RealPath} {w : World FaultyStore}
    (hw : w.IsLinkFree top) (h : w.OrphanFree FaultyStore.get?) (parse : Parser) {acts : List Act}
    (hacts : ∀ act ∈ acts, act.IsLinkFree top) :
    (w.run FaultyStore.operations parse acts).OrphanFree FaultyStore.get? :=
  h.run FaultyStore.respects_operations hw hacts

/-- The directory `d` is removed and reported. The delete fails at first, and
goes through once the removal is reported again. -/
theorem World.orphanFree_run_oneFile :
    let gone : FileSystem := FileSystem.oneFile.removeTree [[114], [100]]
    let removed : Act := .event ⟨.removed, [.ofString "/r/d"]⟩
    let s : FaultyStore :=
      { memory := { documents := [{ id := fileId "d/a.txt" }] }, faults := [true] }
    let w : World FaultyStore := ⟨.oneFile, .atTop .oneFile {} [[114]], s⟩
    w.OrphanFree FaultyStore.get? ∧
      (w.run FaultyStore.operations (fun _ => none)
        [.change gone, removed, .flush, removed, .flush]).OrphanFree FaultyStore.get? := by
  intro gone removed s w
  obtain ⟨⟨-, htop, -⟩, ⟨hdir, -⟩, -, hrel⟩ := FileSystem.computed_oneFile
  have hgone : gone.IsLinkFree [[114]] := FileSystem.computed_removed_oneFile.1.1.isLinkFree
  have hw : w.IsLinkFree [[114]] := World.isLinkFree_atTop FileSystem.isTree_oneFile.isLinkFree
  have hbefore : w.OrphanFree FaultyStore.get? := by
    intro id hstored
    have hid : fileId "d/a.txt" = id := by
      obtain ⟨doc, hdoc⟩ : ∃ doc, s.memory.documents.find? (·.id = id) = some doc :=
        Option.ne_none_iff_exists'.1 hstored
      obtain rfl := List.mem_singleton.1 (List.mem_of_find?_eq_some hdoc)
      simpa using List.find?_some hdoc
    have hrel : w.fs.relativePath (.ofString "/r/d/a.txt") (RealPath.toPath [[114]]) =
        .ok "d/a.txt" := htop ▸ hrel
    refine ⟨.ofString "/r/d/a.txt", ?_, _, hrel, hid.symm⟩
    rw [Maintainer.indexed_oneFile]
    exact List.mem_cons_self
  have hremoved : removed.IsLinkFree [[114]] := by
    intro p hp
    rw [List.mem_singleton.1 hp]
    exact ⟨[[114], [100]], by decide, hdir⟩
  refine ⟨hbefore, hw.orphanFree_run hbefore _ fun act hact => ?_⟩
  simp only [List.mem_cons, List.not_mem_nil, or_false] at hact
  rcases hact with rfl | rfl | rfl | rfl | rfl
  · exact hgone
  · exact hremoved
  · trivial
  · exact hremoved
  · trivial

end SymbolIndex
