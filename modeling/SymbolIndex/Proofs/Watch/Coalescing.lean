-- SUMMARY: Between two flushes any number of events comes to at most one call for each document.
import SymbolIndex.Proofs.Watch.Calls
import SymbolIndex.Proofs.Watch.VanishedDirectory

/-!
# Coalescing

A path is pending once, however many events were about it, and a flush has one
fate for it. So where the pending paths have ids of their own, no document is
named twice by the calls of a flush.
-/

namespace SymbolIndex

/-! ## Plans -/

namespace FlushPlan

variable {parse : Parser} {fs : FileSystem} {scope : Scope} {paths : List Path} {id : String}

/-- The calls of a plan name the documents that the fates of its paths touch. -/
theorem ids_calls_perm (parse : Parser) (fs : FileSystem) (scope : Scope) (paths : List Path) :
    ((forPaths parse fs scope paths).calls.flatMap StoreCall.ids).Perm
      (paths.filterMap fun p => (scope.fate parse fs p).id?) := by
  rw [ids_calls]
  induction paths with
  | nil => exact .nil
  | cons p paths ih =>
      cases hfate : scope.fate parse fs p with
      | upsert doc =>
          simpa [forPaths, hfate, Fate.upsert?, Fate.delete?, Fate.id?] using ih
      | delete id =>
          have hmiddle := List.perm_middle.trans (ih.cons id)
          simpa [forPaths, hfate, Fate.upsert?, Fate.delete?, Fate.id?] using hmiddle
      | _ => simpa [forPaths, hfate, Fate.upsert?, Fate.delete?, Fate.id?] using ih

theorem isIdOf_of_mem_ids_calls
    (h : id ∈ (forPaths parse fs scope paths).calls.flatMap StoreCall.ids) :
    ∃ p ∈ paths, fs.IsIdOf scope.root p id := by
  obtain ⟨p, hp, hid⟩ := List.mem_filterMap.1 ((ids_calls_perm parse fs scope paths).mem_iff.1 h)
  exact ⟨p, hp, Scope.isIdOf_of_fate hid⟩

/-- Paths with ids of their own are not in each other's way. -/
theorem nodup_ids_calls (hids : scope.HasOwnIds fs paths) (hpaths : paths.Nodup) :
    ((forPaths parse fs scope paths).calls.flatMap StoreCall.ids).Nodup := by
  rw [(ids_calls_perm parse fs scope paths).nodup_iff]
  refine List.pairwise_filterMap.2 (List.Pairwise.imp_of_mem ?_ hpaths)
  rintro p q hp hq hne id hid id' hid' rfl
  obtain ⟨relative, hrel, hpid⟩ := Scope.isIdOf_of_fate hid
  obtain ⟨relative', hrel', hqid⟩ := Scope.isIdOf_of_fate hid'
  exact hne (hids p hp q hq relative relative' hrel hrel' (hpid.symm.trans hqid))

/-- A path whose document can be built has it in a batch. -/
theorem exists_import_mem_calls {p : Path} {doc : IndexDocument} (hp : p ∈ paths)
    (hfate : scope.fate parse fs p = .upsert doc) :
    ∃ docs, StoreCall.importDocuments docs ∈ (forPaths parse fs scope paths).calls ∧ doc ∈ docs := by
  have hmem : (doc, p) ∈ (forPaths parse fs scope paths).upserts :=
    mem_upserts_forPaths.2 ⟨hp, hfate⟩
  exact ⟨_, mem_calls.2 (.inl ⟨List.ne_nil_of_mem hmem, rfl⟩), List.mem_map.2 ⟨_, hmem, rfl⟩⟩

theorem delete_mem_calls {p : Path} (hp : p ∈ paths)
    (hfate : scope.fate parse fs p = .delete id) :
    .deleteDocument id ∈ (forPaths parse fs scope paths).calls :=
  mem_calls.2 (.inr ⟨(id, p), mem_deletes_forPaths.2 ⟨hp, hfate⟩, rfl⟩)

end FlushPlan

/-! ## Flushes -/

/-- Without links the pending paths have ids of their own exactly if no two
relative paths of them have the same id. -/
theorem World.IsLinkFree.hasOwnIds_iff {σ : Type} {w : World σ} {top : RealPath}
    (hw : w.IsLinkFree top) :
    w.maintainer.scope.HasOwnIds w.fs w.maintainer.buffer.pendingPaths ↔
      ∀ key key' : RealPath, key.IsProper → key'.IsProper →
        key.toPath ∈ w.maintainer.buffer.pendingPaths →
        key'.toPath ∈ w.maintainer.buffer.pendingPaths →
        key.documentId top = key'.documentId top → key = key' := by
  have hrel : ∀ key : RealPath, key.IsProper → key.toPath ∈ w.maintainer.buffer.pendingPaths →
      w.fs.relativePath key.toPath w.maintainer.scope.root =
        .ok (key.relativeTo top).display := by
    intro key hkey hpending
    rw [hw.root_eq]
    exact hw.linkFree.relativePath_eq hkey (hw.prefix_of_knows hkey (.inr hpending))
  constructor
  · intro hids key key' hkey hkey' hpending hpending' heq
    exact (RealPath.toPath_inj hkey hkey').1
      (hids _ hpending _ hpending' _ _ (hrel key hkey hpending) (hrel key' hkey' hpending') heq)
  · intro h p hp q hq relative relative' hprel hqrel heq
    obtain ⟨key, hkey, -, rfl⟩ := hw.exists_key (.inr hp)
    obtain ⟨key', hkey', -, rfl⟩ := hw.exists_key (.inr hq)
    rw [hrel key hkey hp] at hprel
    rw [hrel key' hkey' hq] at hqrel
    cases hprel
    cases hqrel
    rw [h key key' hkey hkey' hp hq heq]

/-- Whatever happens since nothing was pending, a flush makes at most one import,
and its calls name no document twice. They import what the pending paths lead to,
delete what they lead to no more, and name the documents of no other paths. All
others stay as they are. Then nothing is pending. -/
theorem World.coalesces_run {σ : Type} (ops : DocumentStore σ) (parse : Parser) {w : World σ}
    (hpending : w.maintainer.buffer.pending = []) (acts : List Act)
    (hids : (w.run ops parse acts).maintainer.scope.HasOwnIds (w.run ops parse acts).fs
      (w.run ops parse acts).maintainer.buffer.pendingPaths) :
    let before := w.run ops parse acts
    let scope := before.maintainer.scope
    let pending := before.maintainer.buffer.pendingPaths
    let calls := before.maintainer.callsOfFlush ops parse before.fs before.store
    let after := before.step ops parse .flush
    calls.countP StoreCall.isImport ≤ 1 ∧
      (calls.flatMap StoreCall.ids).Nodup ∧
      (∀ p ∈ pending, ∀ m doc, before.fs.metadata p = .ok m → m.isFile = true →
        m.size ≤ scope.config.maxFileBytes.toNat →
        buildDocument parse before.fs scope.config scope.root p = .ok doc →
        ∃ docs, .importDocuments docs ∈ calls ∧ doc ∈ docs) ∧
      (∀ p ∈ pending, ∀ id, before.fs.metadata p = .error .notFound →
        before.fs.IsIdOf scope.root p id → .deleteDocument id ∈ calls) ∧
      (∀ id ∈ calls.flatMap StoreCall.ids, ∃ p ∈ pending, before.fs.IsIdOf scope.root p id) ∧
      (∀ get? : σ → String → Option IndexDocument, ops.Respects get? →
        ∀ id, id ∉ calls.flatMap StoreCall.ids → get? after.store id = get? before.store id) ∧
      after.maintainer.buffer.pending = [] := by
  intro before scope pending calls after
  have hseparate : Path.Separate before.maintainer.buffer.pendingPaths := by
    refine World.separate_run ?_ acts
    rw [Buffer.pendingPaths, hpending]
    exact .nil
  have hcalls : calls = (FlushPlan.forPaths parse before.fs scope pending).calls :=
    Maintainer.callsOfFlush_eq _ _ _ _ _
  refine ⟨?_, ?_, ?_, ?_, ?_, ?_, Buffer.pending_flush _ _ _ _ _ _⟩
  · rw [hcalls]
    exact FlushPlan.countP_isImport_calls _
  · rw [hcalls]
    exact FlushPlan.nodup_ids_calls hids hseparate.nodup
  · intro p hp m doc hm hfile hsize hdoc
    rw [hcalls]
    exact FlushPlan.exists_import_mem_calls hp (Scope.fate_of_document hm hfile hsize hdoc)
  · rintro p hp id hm ⟨relative, hrel, rfl⟩
    rw [hcalls]
    exact FlushPlan.delete_mem_calls hp (Scope.fate_of_missing hm hrel)
  · intro id hid
    rw [hcalls] at hid
    exact FlushPlan.isIdOf_of_mem_ids_calls hid
  · intro get? hops id hid
    rw [hcalls] at hid
    exact Buffer.get?_flush_of_notMem hops parse _ _ hid

/-- The file `d/a.txt` is changed twice and moved to `b.txt`: there is at most one
call for each document, and none for another one. -/
theorem World.coalesces_run_oneFile :
    let gone : FileSystem := FileSystem.oneFile.removeTree [[114], [100]]
    let moved := gone.put [[114], Utf8.encode "b.txt"] (.file [121] 6)
    let a : Path := RealPath.toPath [[114], [100], Utf8.encode "a.txt"]
    let b : Path := RealPath.toPath [[114], Utf8.encode "b.txt"]
    let acts : List Act :=
      [.event ⟨.modified, [a]⟩, .event ⟨.modified, [a]⟩, .change moved,
        .event ⟨.renamedBoth, [a, b]⟩]
    let before := World.run MemoryStore.operations (fun _ => none)
      ⟨.oneFile, .atTop .oneFile {} [[114]], { documents := [{ id := "other" }] }⟩ acts
    let calls := before.maintainer.callsOfFlush MemoryStore.operations (fun _ => none) before.fs
      before.store
    let after := before.step MemoryStore.operations (fun _ => none) .flush
    before.IsLinkFree [[114]] ∧ before.maintainer.buffer.pendingPaths = [a, b] ∧
      calls.countP StoreCall.isImport ≤ 1 ∧ (calls.flatMap StoreCall.ids).Nodup ∧
      after.store.get? "other" = before.store.get? "other" := by
  intro gone moved a b acts before calls after
  let ida := RealPath.documentId [[114], [100], Utf8.encode "a.txt"] [[114]]
  let idb := RealPath.documentId [[114], Utf8.encode "b.txt"] [[114]]
  obtain ⟨hproper, hmoved, hpending, hother, hnota, hnotb⟩ :
      (RealPath.IsProper [[114], [100], Utf8.encode "a.txt"] ∧
        RealPath.IsProper [[114], Utf8.encode "b.txt"]) ∧
      moved.IsLinkFree [[114]] ∧ before.maintainer.buffer.pendingPaths = [a, b] ∧
      ida ≠ idb ∧ ida ≠ "other" ∧ idb ≠ "other" := by decide +kernel
  have hacts : ∀ act ∈ acts, act.IsLinkFree [[114]] := by
    intro act hact
    simp only [acts, List.mem_cons, List.not_mem_nil, or_false] at hact
    rcases hact with rfl | rfl | rfl | rfl
    · exact List.forall_mem_singleton.2 hproper.1.isNormal
    · exact List.forall_mem_singleton.2 hproper.1.isNormal
    · exact hmoved
    · exact List.forall_mem_cons.2
        ⟨hproper.1.isNormal, List.forall_mem_singleton.2 hproper.2.isNormal⟩
  have hfree : before.IsLinkFree [[114]] :=
    (World.isLinkFree_atTop FileSystem.isTree_oneFile.isLinkFree).run hacts
  have hids : before.maintainer.scope.HasOwnIds before.fs
      before.maintainer.buffer.pendingPaths := by
    refine hfree.hasOwnIds_iff.2 fun key key' hkey hkey' hp hp' heq => ?_
    rw [hpending, List.mem_pair, RealPath.toPath_inj hkey hproper.1,
      RealPath.toPath_inj hkey hproper.2] at hp
    rw [hpending, List.mem_pair, RealPath.toPath_inj hkey' hproper.1,
      RealPath.toPath_inj hkey' hproper.2] at hp'
    rcases hp with rfl | rfl <;> rcases hp' with rfl | rfl
    · rfl
    · exact absurd heq hother
    · exact absurd heq.symm hother
    · rfl
  obtain ⟨himports, hnodup, -, -, hnamed, hkept, -⟩ :=
    coalesces_run MemoryStore.operations (fun _ => none) rfl acts hids
  refine ⟨hfree, hpending, himports, hnodup,
    hkept _ MemoryStore.respects_operations _ fun hnamed' => ?_⟩
  obtain ⟨p, hp, hid⟩ := hnamed _ hnamed'
  rw [hpending, List.mem_pair] at hp
  rw [hfree.root_eq] at hid
  rcases hp with rfl | rfl
  · exact hnota ((hfree.linkFree.isIdOf_iff hproper.1 (by decide)).1 hid).symm
  · exact hnotb ((hfree.linkFree.isIdOf_iff hproper.2 (by decide)).1 hid).symm

end SymbolIndex
