-- SUMMARY: What a flush leaves in a store that works for each of the pending paths.
import SymbolIndex.Proofs.Watch.Coalescing

/-!
# Reconciling

A flush looks at every pending path again, and a store that works then holds
under its id what the disk says: the document of a file, nothing for a path that
is gone. A path that leads to a directory, or to a file over the limit, is left
out, and its document stays.
-/

namespace SymbolIndex

variable {σ : Type} {ops : DocumentStore σ} {get? : σ → String → Option IndexDocument}
  {up : σ → Prop} {parse : Parser}

/-! ## Plans carried out -/

namespace FlushRun

variable {run : FlushRun σ}

theorem up_upsertAll (hops : ops.Works get? up) (hup : up run.store) (plan : FlushPlan) :
    up (upsertAll ops plan run).value.store := by
  rcases upsertAll_cases ops plan run with ⟨-, hsame⟩ | ⟨-, -, hstore, -⟩ | ⟨-, -, hstore, -⟩
  · rw [hsame]
    exact hup
  · rw [hstore]
    exact hops.import_up _ _ hup
  · rw [hstore]
    exact hops.import_up _ _ hup

/-- An import that goes through leaves each of the planned documents. -/
theorem get?_upsertAll_of_mem (hops : ops.Works get? up) (hup : up run.store) {plan : FlushPlan}
    (hids : (plan.upserts.map (·.1.id)).Nodup) {doc : IndexDocument}
    (hdoc : doc ∈ plan.upserts.map Prod.fst) :
    get? (upsertAll ops plan run).value.store doc.id = some doc := by
  obtain ⟨summary, hwent, hall⟩ := hops.import_goes (plan.upserts.map Prod.fst) run.store hup
  have hself := hops.import_self _ _ _ hwent hall (by rwa [List.map_map]) doc hdoc
  rcases upsertAll_cases ops plan run with ⟨hnone, -⟩ | ⟨-, -, hstore, -⟩ | ⟨e, hfailed, -, -⟩
  · rw [hnone] at hdoc
    cases hdoc
  · rw [hstore]
    exact hself
  · rw [hwent] at hfailed
    cases hfailed

/-- Deletes that go through leave none of their targets. -/
theorem get?_deleteAll_of_mem (hops : ops.Works get? up) (hup : up run.store)
    {targets : List (String × Path)} {id : String} (h : id ∈ targets.map Prod.fst) :
    get? (deleteAll ops run targets).store id = none := by
  induction targets generalizing run with
  | nil => cases h
  | cons target targets ih =>
      have hstore := (deleteOne_cases ops run target).1
      rw [deleteAll_cons]
      by_cases hlater : id ∈ targets.map Prod.fst
      · refine ih ?_ hlater
        rw [hstore]
        exact hops.delete_up _ _ hup
      · obtain rfl : id = target.1 := by
          rw [List.map_cons, List.mem_cons] at h
          exact h.resolve_right hlater
        obtain ⟨found, hwent⟩ := hops.delete_goes target.1 run.store hup
        rw [get?_deleteAll_of_notMem hops.toRespects hlater, hstore]
        exact hops.delete_ok _ _ _ hwent

end FlushRun

/-! ## One pending path -/

/-- The document under the id of a path after a flush, given the one before. -/
def Fate.outcome (before : Option IndexDocument) : Fate → Option IndexDocument
  | upsert doc => some doc
  | delete _ => none
  | _ => before

/-- A path whose fate touches nothing has the document under its id left alone. -/
theorem FlushPlan.notMem_ids_calls {fs : FileSystem} {scope : Scope} {paths : List Path}
    (hids : scope.HasOwnIds fs paths) {p : Path} (hp : p ∈ paths) {id : String}
    (hid : fs.IsIdOf scope.root p id) (hfate : (scope.fate parse fs p).id? = none) :
    id ∉ (forPaths parse fs scope paths).calls.flatMap StoreCall.ids := by
  intro hmem
  obtain ⟨q, hq, htouched⟩ :=
    List.mem_filterMap.1 ((ids_calls_perm parse fs scope paths).mem_iff.1 hmem)
  obtain ⟨relative, hrel, hpid⟩ := hid
  obtain ⟨relative', hrel', hqid⟩ := Scope.isIdOf_of_fate htouched
  obtain rfl : p = q := hids p hp q hq relative relative' hrel hrel' (hpid.symm.trans hqid)
  rw [hfate] at htouched
  cases htouched

/-- The fate of a path decides about the document under its id, whatever else is
pending. -/
theorem Buffer.get?_flush_of_pending (hops : ops.Works get? up) {fs : FileSystem} {scope : Scope}
    {b : Buffer} {store : σ} (hup : up store) (hids : scope.HasOwnIds fs b.pendingPaths)
    (hpaths : b.pendingPaths.Nodup) {p : Path} (hp : p ∈ b.pendingPaths) {id : String}
    (hid : fs.IsIdOf scope.root p id) :
    get? (b.flush ops parse fs scope store).value.store id =
      (scope.fate parse fs p).outcome (get? store id) := by
  have hnodup : ((FlushPlan.forPaths parse fs scope b.pendingPaths).calls.flatMap
      StoreCall.ids).Nodup := FlushPlan.nodup_ids_calls hids hpaths
  rw [FlushPlan.ids_calls, List.nodup_append] at hnodup
  obtain ⟨hupserts, -, hapart⟩ := hnodup
  have hsame : (scope.fate parse fs p).id? = none →
      get? (b.flush ops parse fs scope store).value.store id = get? store id :=
    fun hfate => get?_flush_of_notMem hops.toRespects parse fs scope
      (FlushPlan.notMem_ids_calls hids hp hid hfate)
  cases hfate : scope.fate parse fs p with
  | upsert doc =>
      obtain rfl : doc.id = id :=
        (id_of_buildDocument (Scope.fate_eq_upsert hfate).2).eq hid
      have hmem := FlushPlan.mem_upserts_forPaths.2 ⟨hp, hfate⟩
      have hkept : doc.id ∉
          (FlushPlan.forPaths parse fs scope b.pendingPaths).deletes.map Prod.fst :=
        fun hdelete => hapart _ (List.mem_map.2 ⟨_, hmem, rfl⟩) _ hdelete rfl
      rw [value_flush, FlushRun.value_carryOut,
        FlushRun.get?_deleteAll_of_notMem hops.toRespects hkept]
      exact FlushRun.get?_upsertAll_of_mem hops hup hupserts (List.mem_map.2 ⟨_, hmem, rfl⟩)
  | delete id' =>
      obtain rfl : id' = id := (Scope.fate_eq_delete hfate).2.eq hid
      have hmem := FlushPlan.mem_deletes_forPaths.2 ⟨hp, hfate⟩
      rw [value_flush, FlushRun.value_carryOut]
      exact FlushRun.get?_deleteAll_of_mem hops (FlushRun.up_upsertAll hops hup _)
        (List.mem_map.2 ⟨_, hmem, rfl⟩)
  | _ => exact hsame (by rw [hfate]; rfl)

/-! ## Paths on the disk -/

section Fates

variable {fs : FileSystem} {scope : Scope} {p : Path} {m : Metadata}

theorem Scope.fate_of_oversized (hm : fs.metadata p = .ok m) (hfile : m.isFile = true)
    (hsize : scope.config.maxFileBytes.toNat < m.size) : scope.fate parse fs p = .skip := by
  simp [Scope.fate, hm, hfile, hsize]

theorem Scope.fate_of_not_file (hm : fs.metadata p = .ok m) (hfile : m.isFile = false) :
    scope.fate parse fs p = .nothing := by
  simp [Scope.fate, hm, hfile]

theorem Scope.fate_of_error {e : IoError} (hm : fs.metadata p = .error e) (he : e ≠ .notFound) :
    scope.fate parse fs p = .fail := by
  unfold Scope.fate
  rw [hm]
  cases e with
  | notFound => exact absurd rfl he
  | _ => rfl

end Fates

/-- A pending path with this id gets the document that it has if it leads to a
readable file within the limit, and loses its document if nothing is there. The
document stays as it was if the path leads to a directory or to a file over the
limit. If the path cannot be looked at, the document goes or stays. -/
structure Scope.Reconciles (parse : Parser) (fs : FileSystem) (scope : Scope) (p : Path)
    (id : String) (before after : Option IndexDocument) : Prop where
  missing : fs.metadata p = .error .notFound → after = none
  document : ∀ m bytes, fs.metadata p = .ok m → m.isFile = true →
    m.size ≤ scope.config.maxFileBytes.toNat → fs.read p = .ok bytes →
    ∃ doc, buildDocument parse fs scope.config scope.root p = .ok doc ∧ doc.id = id ∧
      after = some doc
  leftOut : ∀ m, fs.metadata p = .ok m →
    (m.isFile = false ∨ scope.config.maxFileBytes.toNat < m.size) → after = before
  failing : ∀ e, fs.metadata p = .error e → after = none ∨ after = before

theorem Scope.reconciles_outcome {fs : FileSystem} {scope : Scope} {p : Path} {relative : String}
    (hrel : fs.relativePath p scope.root = .ok relative) (before : Option IndexDocument) :
    scope.Reconciles parse fs p (fileId relative) before
      ((scope.fate parse fs p).outcome before) where
  missing hm := by
    rw [fate_of_missing hm hrel]
    rfl
  document m bytes hm hfile hsize hread := by
    obtain ⟨mtime, hcontent⟩ := FileSystem.content?_of_read hread
    have hdoc := buildDocument_of_content parse scope.config hcontent hrel
    refine ⟨_, hdoc, rfl, ?_⟩
    rw [fate_of_document hm hfile hsize hdoc]
    rfl
  leftOut m hm hleft := by
    cases hfile : m.isFile with
    | false =>
        rw [fate_of_not_file hm hfile]
        rfl
    | true =>
        rw [fate_of_oversized hm hfile (hleft.resolve_left (by simp [hfile]))]
        rfl
  failing e hm := by
    by_cases he : e = .notFound
    · refine .inl ?_
      rw [fate_of_missing (he ▸ hm) hrel]
      rfl
    · refine .inr ?_
      rw [fate_of_error hm he]
      rfl

theorem World.Reachable.separate {top : RealPath} {w : World σ} (hw : w.Reachable ops parse top) :
    Path.Separate w.maintainer.buffer.pendingPaths := by
  induction hw with
  | start fs config root m store tree hroot hm =>
      obtain rfl := Maintainer.eq_of_ofRoot hroot hm
      exact .nil
  | step w act h hact ih => exact World.separate_step act ih
  | retime w timer isWatching h ih => exact ih

/-- A flush reconciles each pending path with the disk as it is then. -/
theorem World.Reachable.reconciles_pending (hops : ops.Works get? up) {top : RealPath}
    {w : World σ} (hw : w.Reachable ops parse top) (hup : up w.store) (fs : FileSystem)
    (hids : w.maintainer.scope.HasOwnIds fs w.maintainer.buffer.pendingPaths) {p : Path}
    (hp : p ∈ w.maintainer.buffer.pendingPaths) :
    let scope := w.maintainer.scope
    let after := (w.maintainer.flush ops parse fs w.store).value.2.2
    ∃ id, fs.IsIdOf scope.root p id ∧
      scope.Reconciles parse fs p id (get? w.store id) (get? after id) := by
  intro scope after
  have heligible : scope.isEligible p = true := (hw.isNormal.1.known p (.inr hp)).2
  obtain ⟨relative, hrel⟩ := fs.exists_relativePath (Scope.startsWith_of_isEligible heligible)
  have hid : fs.IsIdOf scope.root p (fileId relative) := ⟨relative, hrel, rfl⟩
  have hafter : get? after (fileId relative) =
      (scope.fate parse fs p).outcome (get? w.store (fileId relative)) :=
    Buffer.get?_flush_of_pending hops hup hids hw.separate.nodup hp hid
  refine ⟨fileId relative, hid, ?_⟩
  rw [hafter]
  exact Scope.reconciles_outcome hrel _

/-! ## Three files -/

/-- An event about files that belong to the index makes just these pending. -/
theorem Maintainer.pendingPaths_handle_of_files {fs : FileSystem} {m : Maintainer}
    {e : ChangeEvent}
    (h : ∀ a ∈ e.actions fs, fs.isDir a.1 = false ∧ m.scope.isEligible a.1 = true) :
    (m.handle fs e).value.buffer.pendingPaths =
      Path.extend m.buffer.pendingPaths ((e.actions fs).map Prod.fst) := by
  have hexpand : (e.actions fs).flatMap (m.buffer.expand fs m.scope) =
      (e.actions fs).flatMap fun a => [a] := by
    refine List.flatMap_congr fun a ha => ?_
    obtain ⟨hdir, heligible⟩ := h a ha
    simp [Buffer.expand, hdir, heligible]
  rw [buffer_handle, Buffer.pendingPaths_insertAll, hexpand, List.flatMap_singleton']

/-- Without links paths have ids of their own if their digests differ. -/
theorem Scope.hasOwnIds_of_nodup {fs : FileSystem} {top : RealPath} (free : fs.IsLinkFree top)
    {scope : Scope} (hroot : scope.root = top.toPath) {keys : List RealPath}
    (hkeys : ∀ key ∈ keys, key.IsProper ∧ top <+: key)
    (hids : (keys.map (RealPath.documentId · top)).Nodup) :
    scope.HasOwnIds fs (keys.map RealPath.toPath) := by
  intro p hp q hq relative relative' hrel hrel' heq
  obtain ⟨key, hkey, rfl⟩ := List.mem_map.1 hp
  obtain ⟨key', hkey', rfl⟩ := List.mem_map.1 hq
  rw [hroot, free.relativePath_eq (hkeys key hkey).1 (hkeys key hkey).2] at hrel
  rw [hroot, free.relativePath_eq (hkeys key' hkey').1 (hkeys key' hkey').2] at hrel'
  cases hrel
  cases hrel'
  rw [List.inj_on_of_nodup_map hids hkey hkey' heq]

namespace World

/-- The files `a.txt`, `b.txt` and `d/x.txt` in the root `/r`. -/
def threeKeys : List RealPath :=
  [[[114], Utf8.encode "a.txt"], [[114], Utf8.encode "b.txt"],
    [[114], [100], Utf8.encode "x.txt"]]

def threeFiles : FileSystem where
  entries :=
    [([[114]], .directory), ([[114], [100]], .directory)] ++
      threeKeys.map fun key => (key, .file [120] 5)
  workingDir := []

/-- The files are indexed, with a limit of four bytes, and then they are all
reported to have changed. -/
def threeTouched : World MemoryStore :=
  step MemoryStore.operations (fun _ => none)
    ⟨threeFiles, .atTop threeFiles { maxFileBytes := 4 } [[114]],
      { documents := ["d/x.txt", "a.txt", "b.txt"].map fun name => { id := fileId name } }⟩
    (.event ⟨.modified, threeKeys.map RealPath.toPath⟩)

/-- What can be computed of the tree, the events and the documents. -/
theorem computed_threeTouched :
    (threeFiles.IsTree [[114]] ∧ threeFiles.resolve (.ofString "/r") = .ok [[114]] ∧
      threeFiles.isDir (.ofString "/r") = true) ∧
    (ChangeEvent.actions threeFiles ⟨.modified, threeKeys.map RealPath.toPath⟩ =
        (threeKeys.map RealPath.toPath).map (·, .upsert) ∧
      (threeKeys.map RealPath.toPath).all (fun p => !threeFiles.isDir p &&
        (Scope.atTop threeFiles { maxFileBytes := 4 } [[114]]).isEligible p) = true) ∧
    (threeKeys.map (RealPath.documentId · [[114]])).Nodup ∧
      ∀ doc ∈ threeTouched.store.documents, threeTouched.store.get? doc.id = some doc := by
  decide +kernel

theorem proper_of_mem_threeKeys {key : RealPath} (h : key ∈ threeKeys) :
    key.IsProper ∧ [[114]] <+: key := by
  have hentry : (key, Entry.file [120] 5) ∈ threeFiles.entries :=
    List.mem_append_right _ (List.mem_map.2 ⟨key, h, rfl⟩)
  refine ⟨(computed_threeTouched.1.1.wellFormed.proper _ hentry).2, ?_⟩
  simp only [threeKeys, List.mem_cons, List.not_mem_nil, or_false] at h
  rcases h with rfl | rfl | rfl <;> exact List.prefix_append [[114]] _

theorem nodup_ids_threeKeys : (threeKeys.map (RealPath.documentId · [[114]])).Nodup :=
  computed_threeTouched.2.2.1

theorem reachable_threeTouched :
    threeTouched.Reachable MemoryStore.operations (fun _ => none) [[114]] := by
  obtain ⟨⟨tree, hroot, hdir⟩, -⟩ := computed_threeTouched
  refine .step _ _ (.start threeFiles { maxFileBytes := 4 } (.ofString "/r") _ _
    tree hroot ?_) ?_
  · rw [Maintainer.value_ofRoot hroot, if_pos hdir]
  · intro p hp
    obtain ⟨key, hkey, rfl⟩ := List.mem_map.1 hp
    exact (proper_of_mem_threeKeys hkey).1.isNormal

theorem pendingPaths_threeTouched :
    threeTouched.maintainer.buffer.pendingPaths = threeKeys.map RealPath.toPath := by
  obtain ⟨-, ⟨hactions, hfiles⟩, -⟩ := computed_threeTouched
  refine (Maintainer.pendingPaths_handle_of_files ?_).trans ?_
  · rw [hactions]
    intro a ha
    obtain ⟨p, hp, rfl⟩ := List.mem_map.1 ha
    have hfile := List.all_eq_true.1 hfiles p hp
    simp only [Bool.and_eq_true, Bool.not_eq_true'] at hfile
    exact hfile
  · rw [hactions, List.map_map, Function.comp_def, List.map_id']
    refine (Path.extend_of_separate ?_).trans (List.nil_append _)
    exact Path.separate_toPath (nodup_ids_threeKeys.of_map _)
      fun key hkey => (proper_of_mem_threeKeys hkey).1

/-- `a.txt` is a large file now, `b.txt` a directory, and a file stands in the
place of the directory `d`. -/
def threeReplaced : FileSystem where
  entries :=
    [([[114]], .directory), ([[114], Utf8.encode "a.txt"], .file [120, 120, 120, 120, 120] 6),
      ([[114], Utf8.encode "b.txt"], .directory), ([[114], [100]], .file [120] 6)]
  workingDir := []

/-- What can be computed of the tree and of what stands at the three paths. -/
theorem computed_threeReplaced :
    let a : Path := RealPath.toPath [[114], Utf8.encode "a.txt"]
    let b : Path := RealPath.toPath [[114], Utf8.encode "b.txt"]
    let x : Path := RealPath.toPath [[114], [100], Utf8.encode "x.txt"]
    threeReplaced.IsTree [[114]] ∧
    (threeReplaced.metadata a = .ok ⟨true, false, 5, 6⟩ ∧
      threeReplaced.metadata b = .ok ⟨false, true, 4096, 0⟩ ∧
      threeReplaced.metadata x = .error .notADirectory ∧ threeReplaced.isDir b = true) ∧
    threeReplaced.relativePath a (RealPath.toPath [[114]]) = .ok "a.txt" ∧
      threeReplaced.relativePath b (RealPath.toPath [[114]]) = .ok "b.txt" ∧
      threeReplaced.relativePath x (RealPath.toPath [[114]]) = .ok "d/x.txt" := by
  decide +kernel

theorem hasOwnIds_threeTouched {fs : FileSystem} (tree : fs.IsTree [[114]]) :
    threeTouched.maintainer.scope.HasOwnIds fs threeTouched.maintainer.buffer.pendingPaths := by
  rw [pendingPaths_threeTouched]
  exact Scope.hasOwnIds_of_nodup tree.isLinkFree rfl (fun _ => proper_of_mem_threeKeys)
    nodup_ids_threeKeys

/-- At the flush `a.txt` is gone, `b.txt` is another file, and a file stands in the
place of the directory `d`. In another one the first two are replaced. -/
theorem reconciles_pending_threeTouched :
    let a : Path := RealPath.toPath [[114], Utf8.encode "a.txt"]
    let b : Path := RealPath.toPath [[114], Utf8.encode "b.txt"]
    let x : Path := RealPath.toPath [[114], [100], Utf8.encode "x.txt"]
    let fs : FileSystem :=
      ⟨[([[114]], .directory), ([[114], Utf8.encode "b.txt"], .file [121] 6),
        ([[114], [100]], .file [120] 6)], []⟩
    let scope := threeTouched.maintainer.scope
    let before := threeTouched.store
    let after := fun fs => (threeTouched.maintainer.flush MemoryStore.operations (fun _ => none) fs
      before).value.2.2
    (∃ id, fs.IsIdOf scope.root a id ∧ (after fs).get? id = none) ∧
    (∃ doc, buildDocument (fun _ => none) fs scope.config scope.root b = .ok doc ∧
      (after fs).get? doc.id = some doc) ∧
    (∃ id, fs.IsIdOf scope.root x id ∧
      ((after fs).get? id = none ∨ (after fs).get? id = before.get? id)) ∧
    (∃ id, threeReplaced.IsIdOf scope.root a id ∧
      (after threeReplaced).get? id = before.get? id) ∧
    ∃ id, threeReplaced.IsIdOf scope.root b id ∧
      (after threeReplaced).get? id = before.get? id := by
  intro a b x fs scope before after
  obtain ⟨htree, hmissing, hfile, hbehind, hcontent⟩ : fs.IsTree [[114]] ∧
      fs.metadata a = .error .notFound ∧ fs.metadata b = .ok ⟨true, false, 1, 6⟩ ∧
      fs.metadata x = .error .notADirectory ∧ fs.read b = .ok [121] := by
    decide +kernel
  obtain ⟨htree', ⟨hlarge, hdir, -, -⟩, -⟩ := computed_threeReplaced
  have hup : before.failImports = false ∧ before.failDeletes = false := ⟨rfl, rfl⟩
  have hpending : ∀ p ∈ [a, b, x], p ∈ threeTouched.maintainer.buffer.pendingPaths := by
    rw [pendingPaths_threeTouched]
    exact fun p hp => hp
  have hids := hasOwnIds_threeTouched htree
  have hids' := hasOwnIds_threeTouched htree'
  have hw := reachable_threeTouched
  have hops := MemoryStore.works_operations
  refine ⟨?_, ?_, ?_, ?_, ?_⟩
  · obtain ⟨id, hid, hreconciled⟩ := hw.reconciles_pending hops hup fs hids (hpending a (by simp))
    exact ⟨id, hid, hreconciled.missing hmissing⟩
  · obtain ⟨_, -, hreconciled⟩ := hw.reconciles_pending hops hup fs hids (hpending b (by simp))
    obtain ⟨doc, hdoc, rfl, hget⟩ :=
      hreconciled.document _ [121] hfile rfl (by decide) hcontent
    exact ⟨doc, hdoc, hget⟩
  · obtain ⟨id, hid, hreconciled⟩ := hw.reconciles_pending hops hup fs hids (hpending x (by simp))
    exact ⟨id, hid, hreconciled.failing _ hbehind⟩
  · obtain ⟨id, hid, hreconciled⟩ := hw.reconciles_pending hops hup threeReplaced hids'
      (hpending a (by simp))
    exact ⟨id, hid, hreconciled.leftOut _ hlarge (.inr (by decide))⟩
  · obtain ⟨id, hid, hreconciled⟩ := hw.reconciles_pending hops hup threeReplaced hids'
      (hpending b (by simp))
    exact ⟨id, hid, hreconciled.leftOut _ hdir (.inl rfl)⟩

/-- None of the three paths leads to a file within the limit any more, and a flush
leaves all three documents. -/
theorem keeps_documents_threeTouched :
    let a : Path := RealPath.toPath [[114], Utf8.encode "a.txt"]
    let b : Path := RealPath.toPath [[114], Utf8.encode "b.txt"]
    let x : Path := RealPath.toPath [[114], [100], Utf8.encode "x.txt"]
    let scope := threeTouched.maintainer.scope
    let store := threeTouched.store
    let after := (threeTouched.maintainer.flush MemoryStore.operations (fun _ => none)
      threeReplaced store).value.2.2
    threeTouched.Reachable MemoryStore.operations (fun _ => none) [[114]] ∧
    threeReplaced.IsTree [[114]] ∧ store.failImports = false ∧ store.failDeletes = false ∧
    threeTouched.maintainer.buffer.pendingPaths = [a, b, x] ∧
    scope.HasOwnIds threeReplaced [a, b, x] ∧
    (threeReplaced.metadata a = .ok ⟨true, false, 5, 6⟩ ∧ scope.config.maxFileBytes = 4 ∧
      threeReplaced.isDir b = true ∧ threeReplaced.metadata x = .error .notADirectory) ∧
    (threeReplaced.IsIdOf scope.root a (fileId "a.txt") ∧
      after.get? (fileId "a.txt") = some { id := fileId "a.txt" }) ∧
    (threeReplaced.IsIdOf scope.root b (fileId "b.txt") ∧
      after.get? (fileId "b.txt") = some { id := fileId "b.txt" }) ∧
    threeReplaced.IsIdOf scope.root x (fileId "d/x.txt") ∧
      after.get? (fileId "d/x.txt") = some { id := fileId "d/x.txt" } := by
  intro a b x scope store after
  have hpending : threeTouched.maintainer.buffer.pendingPaths = [a, b, x] :=
    pendingPaths_threeTouched
  obtain ⟨htree, ⟨hlarge, hdir, hbehind, hisDir⟩, hrela, hrelb, hrelx⟩ := computed_threeReplaced
  obtain ⟨-, -, -, hstored⟩ := computed_threeTouched
  have hids : scope.HasOwnIds threeReplaced [a, b, x] := by
    rw [← hpending]
    exact hasOwnIds_threeTouched htree
  have hkept : ∀ p ∈ [a, b, x], ∀ id, threeReplaced.IsIdOf scope.root p id →
      (scope.fate (fun _ => none) threeReplaced p).id? = none → after.get? id = store.get? id := by
    intro p hp id hid hfate
    refine Buffer.get?_flush_of_notMem MemoryStore.respects_operations _ _ _ ?_
    rw [hpending]
    exact FlushPlan.notMem_ids_calls hids hp hid hfate
  have hida : threeReplaced.IsIdOf scope.root a (fileId "a.txt") :=
    ⟨"a.txt", hrela, rfl⟩
  have hidb : threeReplaced.IsIdOf scope.root b (fileId "b.txt") :=
    ⟨"b.txt", hrelb, rfl⟩
  have hidx : threeReplaced.IsIdOf scope.root x (fileId "d/x.txt") :=
    ⟨"d/x.txt", hrelx, rfl⟩
  refine ⟨reachable_threeTouched, htree, rfl, rfl, hpending, hids,
    ⟨hlarge, rfl, hisDir, hbehind⟩, ⟨hida, ?_⟩, ⟨hidb, ?_⟩, hidx, ?_⟩
  · rw [hkept a (by simp) _ hida (by rw [Scope.fate_of_oversized hlarge rfl (by decide)]; rfl)]
    exact hstored _ (List.mem_map.2 ⟨"a.txt", by simp, rfl⟩)
  · rw [hkept b (by simp) _ hidb (by rw [Scope.fate_of_not_file hdir rfl]; rfl)]
    exact hstored _ (List.mem_map.2 ⟨"b.txt", by simp, rfl⟩)
  · rw [hkept x (by simp) _ hidx (by rw [Scope.fate_of_error hbehind (by decide)]; rfl)]
    exact hstored _ (List.mem_map.2 ⟨"d/x.txt", by simp, rfl⟩)

end World

end SymbolIndex
