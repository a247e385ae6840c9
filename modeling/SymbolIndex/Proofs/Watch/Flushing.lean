-- SUMMARY: A flush in closed form: the fate of every pending path, and what buffer and store hold afterwards.
import SymbolIndex.Proofs.Document.Identity
import SymbolIndex.Proofs.Store.Contents
import SymbolIndex.Proofs.Watch.Pending

/-!
# Flushing

The fate of a pending path depends on the disk alone, neither on its action nor
on the other paths. So a plan is a list of fates, and a flush of the store in
memory is told from the plan.
-/

namespace SymbolIndex

/-! ## Fates -/

/-- What a flush does about a pending path. -/
inductive Fate where
  | upsert (doc : IndexDocument)
  | delete (id : String)
  /-- Larger than the limit. -/
  | skip
  | fail
  | nothing
  deriving DecidableEq, Repr

namespace Fate

def upsert? : Fate → Option IndexDocument
  | upsert doc => some doc
  | _ => none

def delete? : Fate → Option String
  | delete id => some id
  | _ => none

/-- The id of the document that the flush touches. -/
def id? : Fate → Option String
  | upsert doc => some doc.id
  | delete id => some id
  | _ => none

theorem upsert?_eq_some {fate : Fate} {doc : IndexDocument} :
    fate.upsert? = some doc ↔ fate = .upsert doc := by
  cases fate <;> simp [upsert?]

theorem delete?_eq_some {fate : Fate} {id : String} :
    fate.delete? = some id ↔ fate = .delete id := by
  cases fate <;> simp [delete?]

end Fate

/-- The fate of a pending path, as the disk has it. -/
def Scope.fate (parse : Parser) (fs : FileSystem) (scope : Scope) (path : Path) : Fate :=
  match fs.metadata path with
  | .ok m =>
      if m.isFile then
        if scope.config.maxFileBytes.toNat < m.size then .skip
        else
          match buildDocument parse fs scope.config scope.root path with
          | .ok doc => .upsert doc
          | .error _ => .fail
      else .nothing
  | .error .notFound =>
      match fs.relativePath path scope.root with
      | .ok relative => .delete (fileId relative)
      | .error _ => .fail
  | .error _ => .fail

section Fates

variable {parse : Parser} {fs : FileSystem} {scope : Scope} {path : Path}

theorem Scope.fate_eq_upsert {doc : IndexDocument} (h : scope.fate parse fs path = .upsert doc) :
    fs.isFile path = true ∧ buildDocument parse fs scope.config scope.root path = .ok doc := by
  unfold Scope.fate at h
  cases hm : fs.metadata path with
  | error e =>
      simp only [hm] at h
      cases e with
      | notFound =>
          dsimp only at h
          split at h <;> cases h
      | _ => cases h
  | ok m =>
      simp only [hm] at h
      split at h
      · rename_i hfile
        split at h
        · cases h
        · split at h
          · rename_i doc' hdoc
            cases h
            exact ⟨by simp [FileSystem.isFile, hm, hfile], hdoc⟩
          · cases h
      · cases h

theorem Scope.fate_eq_delete {id : String} (h : scope.fate parse fs path = .delete id) :
    fs.metadata path = .error .notFound ∧ fs.IsIdOf scope.root path id := by
  unfold Scope.fate at h
  cases hm : fs.metadata path with
  | ok m =>
      simp only [hm] at h
      split at h
      · split at h
        · cases h
        · split at h <;> cases h
      · cases h
  | error e =>
      cases e with
      | notFound =>
          simp only [hm] at h
          split at h
          · rename_i relative hrel
            cases h
            exact ⟨rfl, relative, hrel, rfl⟩
          · cases h
      | _ =>
          simp only [hm] at h
          cases h

theorem Scope.fate_of_missing {relative : String} (hm : fs.metadata path = .error .notFound)
    (hrel : fs.relativePath path scope.root = .ok relative) :
    scope.fate parse fs path = .delete (fileId relative) := by
  simp [Scope.fate, hm, hrel]

theorem Scope.fate_of_document {m : Metadata} {doc : IndexDocument} (hm : fs.metadata path = .ok m)
    (hfile : m.isFile = true) (hsize : m.size ≤ scope.config.maxFileBytes.toNat)
    (hdoc : buildDocument parse fs scope.config scope.root path = .ok doc) :
    scope.fate parse fs path = .upsert doc := by
  simp [Scope.fate, hm, hfile, Nat.not_lt.2 hsize, hdoc]

/-- A flush touches, for a path, the document of that path. -/
theorem Scope.isIdOf_of_fate {id : String} (h : (scope.fate parse fs path).id? = some id) :
    fs.IsIdOf scope.root path id := by
  cases hfate : scope.fate parse fs path with
  | upsert doc =>
      rw [hfate] at h
      cases h
      exact id_of_buildDocument (Scope.fate_eq_upsert hfate).2
  | delete id' =>
      rw [hfate] at h
      cases h
      exact (Scope.fate_eq_delete hfate).2
  | _ =>
      rw [hfate] at h
      cases h

end Fates

/-- No two of the paths stand for documents of one id. -/
def Scope.HasOwnIds (scope : Scope) (fs : FileSystem) (paths : List Path) : Prop :=
  ∀ p ∈ paths, ∀ q ∈ paths, ∀ relative relative',
    fs.relativePath p scope.root = .ok relative → fs.relativePath q scope.root = .ok relative' →
      fileId relative = fileId relative' → p = q

/-! ## Plans -/

namespace FlushPlan

variable (parse : Parser) (fs : FileSystem) (scope : Scope)

/-- The plan with one more path of the given fate. -/
def note (plan : FlushPlan) (path : Path) : Fate → FlushPlan
  | .upsert doc => { plan with upserts := plan.upserts ++ [(doc, path)] }
  | .delete id => { plan with deletes := plan.deletes ++ [(id, path)] }
  | .skip => { plan with report := { plan.report with skipped := plan.report.skipped + 1 } }
  | .fail => plan.addError
  | .nothing => plan

/-- The plan for some paths. -/
def forPaths (paths : List Path) : FlushPlan where
  upserts := paths.filterMap fun p => (scope.fate parse fs p).upsert?.map (·, p)
  deletes := paths.filterMap fun p => (scope.fate parse fs p).delete?.map (·, p)
  report :=
    { skipped := paths.countP fun p => scope.fate parse fs p = .skip
      errors := paths.countP fun p => scope.fate parse fs p = .fail }

theorem value_add (plan : FlushPlan) (p : PathAction) :
    (add parse fs scope plan p).value = plan.note p.1 (scope.fate parse fs p.1) := by
  unfold add Scope.fate
  cases fs.metadata p.1 with
  | ok m =>
      simp only
      split
      · unfold addFile
        split
        · rfl
        · split <;> simp only [Logged.value_bind, value_buildDocumentLogged] <;>
            cases buildDocument parse fs scope.config scope.root p.1 <;> rfl
      · rfl
  | error e =>
      cases e with
      | notFound =>
          unfold addMissing
          cases fs.relativePath p.1 scope.root <;> rfl
      | _ => rfl

theorem note_forPaths (paths : List Path) (p : Path) :
    (forPaths parse fs scope paths).note p (scope.fate parse fs p) =
      forPaths parse fs scope (paths ++ [p]) := by
  cases h : scope.fate parse fs p <;>
    simp [forPaths, note, addError, List.filterMap_append, List.countP_append, h, Fate.upsert?,
      Fate.delete?]

/-- The actions of the pending paths make no difference to a plan. -/
theorem value_ofPending (pending : List PathAction) :
    (ofPending parse fs scope pending).value =
      forPaths parse fs scope (pending.map Prod.fst) := by
  have h : ∀ done : List Path,
      pending.foldl (fun plan p => (add parse fs scope plan p).value)
          (forPaths parse fs scope done) =
        forPaths parse fs scope (done ++ pending.map Prod.fst) := by
    induction pending with
    | nil => simp
    | cons p pending ih =>
        intro done
        rw [List.foldl_cons, value_add, note_forPaths, ih, List.map_cons, List.append_assoc,
          List.singleton_append]
  rw [ofPending, Logged.value_foldlM]
  exact h []

variable {parse fs scope}

theorem mem_upserts_forPaths {paths : List Path} {doc : IndexDocument} {p : Path} :
    (doc, p) ∈ (forPaths parse fs scope paths).upserts ↔
      p ∈ paths ∧ scope.fate parse fs p = .upsert doc := by
  simp only [forPaths, List.mem_filterMap, Option.map_eq_some_iff, Prod.mk.injEq,
    Fate.upsert?_eq_some]
  constructor
  · intro h
    obtain ⟨q, hq, d, hd, rfl, rfl⟩ := h
    exact ⟨hq, hd⟩
  · intro h
    obtain ⟨hp, hdoc⟩ := h
    exact ⟨p, hp, doc, hdoc, rfl, rfl⟩

theorem mem_deletes_forPaths {paths : List Path} {id : String} {p : Path} :
    (id, p) ∈ (forPaths parse fs scope paths).deletes ↔
      p ∈ paths ∧ scope.fate parse fs p = .delete id := by
  simp only [forPaths, List.mem_filterMap, Option.map_eq_some_iff, Prod.mk.injEq,
    Fate.delete?_eq_some]
  constructor
  · intro h
    obtain ⟨q, hq, i, hi, rfl, rfl⟩ := h
    exact ⟨hq, hi⟩
  · intro h
    obtain ⟨hp, hid⟩ := h
    exact ⟨p, hp, id, hid, rfl, rfl⟩

end FlushPlan

/-! ## Flushes of any store -/

/-- Deletes one target after the other. -/
def FlushRun.deleteAll {σ : Type} (ops : DocumentStore σ) (run : FlushRun σ)
    (targets : List (String × Path)) : FlushRun σ :=
  targets.foldl (fun run target => (deleteOne ops run target).value) run

section AnyStore

variable {σ : Type} (ops : DocumentStore σ) (parse : Parser) (fs : FileSystem) (scope : Scope)

namespace FlushRun

@[simp] theorem deleteAll_nil (run : FlushRun σ) : deleteAll ops run [] = run := rfl

@[simp] theorem deleteAll_cons (run : FlushRun σ) (target : String × Path)
    (targets : List (String × Path)) :
    deleteAll ops run (target :: targets) =
      deleteAll ops (deleteOne ops run target).value targets := rfl

theorem value_carryOut (plan : FlushPlan) (b : Buffer) (store : σ) :
    (carryOut ops plan b store).value =
      deleteAll ops (upsertAll ops plan { report := plan.report, buffer := b, store }).value
        plan.deletes := by
  rw [carryOut, Logged.value_bind, Logged.value_foldlM]
  rfl

/-- An import leaves the buffer alone and tells whether it went through. -/
theorem importAll_cases (docs : List IndexDocument) (run : FlushRun σ) :
    let answer := (ops.importDocuments docs run.store).value
    let after := (importAll ops docs run).value
    after.2.store = answer.2 ∧ after.2.buffer = run.buffer ∧
      ((∃ summary, answer.1 = .ok summary ∧ after.1 = true) ∨
        (∃ e, answer.1 = .error e ∧ after.1 = false)) := by
  simp only [importAll, Logged.value_bind]
  cases hanswer : (ops.importDocuments docs run.store).value.1 with
  | ok summary => exact ⟨rfl, rfl, .inl ⟨summary, rfl, rfl⟩⟩
  | error e => exact ⟨rfl, rfl, .inr ⟨e, rfl, rfl⟩⟩

/-- All that the import of a plan can come to. -/
theorem upsertAll_cases (plan : FlushPlan) (run : FlushRun σ) :
    let answer := (ops.importDocuments (plan.upserts.map Prod.fst) run.store).value
    let after := (upsertAll ops plan run).value
    (plan.upserts = [] ∧ after = run) ∨
    (∃ summary, answer.1 = .ok summary ∧ after.store = answer.2 ∧
      after.buffer = run.buffer.remember (plan.upserts.map Prod.snd)) ∨
    (∃ e, answer.1 = .error e ∧ after.store = answer.2 ∧ after.buffer = run.buffer) := by
  intro answer after
  by_cases hempty : plan.upserts = []
  · exact .inl ⟨hempty, by simp [after, upsertAll, hempty]⟩
  · have hnonempty : plan.upserts.isEmpty = false := List.isEmpty_eq_false_iff.2 hempty
    obtain ⟨hstore, hbuffer, ⟨summary, hanswer, hwent⟩ | ⟨e, hanswer, hwent⟩⟩ :=
      importAll_cases ops (plan.upserts.map Prod.fst) run
    · refine .inr (.inl ⟨summary, hanswer, ?_, ?_⟩)
      · simpa [after, upsertAll, hnonempty, hwent] using hstore
      · simp [after, upsertAll, hnonempty, hwent, hbuffer]
    · refine .inr (.inr ⟨e, hanswer, ?_, ?_⟩)
      · simpa [after, upsertAll, hnonempty, hwent] using hstore
      · simpa [after, upsertAll, hnonempty, hwent] using hbuffer

theorem buffer_upsertAll (plan : FlushPlan) (run : FlushRun σ) :
    (upsertAll ops plan run).value.buffer = run.buffer ∨
      (upsertAll ops plan run).value.buffer =
        run.buffer.remember (plan.upserts.map Prod.snd) := by
  rcases upsertAll_cases ops plan run with ⟨-, h⟩ | ⟨-, -, -, h⟩ | ⟨-, -, -, h⟩
  · exact .inl (by rw [h])
  · exact .inr h
  · exact .inl h

/-- All that one delete can come to. -/
theorem deleteOne_cases (run : FlushRun σ) (target : String × Path) :
    let answer := (ops.deleteDocument target.1 run.store).value
    let after := (deleteOne ops run target).value
    after.store = answer.2 ∧
      ((∃ found, answer.1 = .ok found ∧ after.buffer = run.buffer.forget target.2) ∨
        (∃ e, answer.1 = .error e ∧ after.buffer = run.buffer)) := by
  simp only [deleteOne, Logged.value_bind]
  cases hanswer : (ops.deleteDocument target.1 run.store).value.1 with
  | ok found => cases found <;> exact ⟨rfl, .inl ⟨_, rfl, rfl⟩⟩
  | error e => exact ⟨rfl, .inr ⟨e, rfl, rfl⟩⟩

theorem buffer_deleteOne (run : FlushRun σ) (target : String × Path) :
    (deleteOne ops run target).value.buffer = run.buffer ∨
      (deleteOne ops run target).value.buffer = run.buffer.forget target.2 := by
  obtain ⟨-, ⟨-, -, h⟩ | ⟨-, -, h⟩⟩ := deleteOne_cases ops run target
  · exact .inr h
  · exact .inl h

/-- Deletes take paths out of those believed to be indexed and touch nothing else
of the buffer. -/
theorem buffer_deleteAll (targets : List (String × Path)) (run : FlushRun σ) :
    (deleteAll ops run targets).buffer.pending = run.buffer.pending ∧
      ∀ q ∈ (deleteAll ops run targets).buffer.indexed, q ∈ run.buffer.indexed := by
  induction targets generalizing run with
  | nil => exact ⟨rfl, fun q hq => hq⟩
  | cons target targets ih =>
      obtain ⟨hpending, hindexed⟩ := ih (deleteOne ops run target).value
      rw [deleteAll_cons]
      rcases buffer_deleteOne ops run target with h | h
      · exact ⟨by rw [hpending, h], fun q hq => h ▸ hindexed q hq⟩
      · refine ⟨by rw [hpending, h]; rfl, fun q hq => ?_⟩
        have hq' := hindexed q hq
        rw [h] at hq'
        exact (Buffer.mem_forget.1 hq').1

end FlushRun

namespace Buffer

/-- An empty plan changes nothing, so a flush of an empty buffer is no case of
its own. -/
theorem value_flush (b : Buffer) (store : σ) :
    (b.flush ops parse fs scope store).value =
      (FlushRun.carryOut ops (FlushPlan.forPaths parse fs scope b.pendingPaths)
        { b with pending := [] } store).value := by
  unfold flush
  split
  · rename_i hempty
    obtain ⟨pending, indexed⟩ := b
    obtain rfl : pending = [] := List.isEmpty_iff.1 hempty
    rfl
  · simp only [Logged.value_bind, Logged.value_pure, FlushPlan.value_ofPending]
    rfl

@[simp] theorem pending_flush (b : Buffer) (store : σ) :
    (b.flush ops parse fs scope store).value.buffer.pending = [] := by
  rw [value_flush, FlushRun.value_carryOut, (FlushRun.buffer_deleteAll ops _ _).1]
  rcases FlushRun.buffer_upsertAll ops _ _ with h | h
  · rw [h]
  · rw [h]
    rfl

/-- A flush can only come to believe a path indexed that was pending. -/
theorem mem_indexed_flush {b : Buffer} {store : σ} {q : Path}
    (h : q ∈ (b.flush ops parse fs scope store).value.buffer.indexed) :
    q ∈ b.indexed ∨ q ∈ b.pendingPaths := by
  rw [value_flush, FlushRun.value_carryOut] at h
  have hq := (FlushRun.buffer_deleteAll ops _ _).2 q h
  rcases FlushRun.buffer_upsertAll ops _ _ with hb | hb
  · rw [hb] at hq
    exact .inl hq
  · rw [hb] at hq
    rcases mem_remember hq with hq | hq
    · exact .inl hq
    · obtain ⟨⟨doc, p⟩, hp, rfl⟩ := List.mem_map.1 hq
      exact .inr (FlushPlan.mem_upserts_forPaths.1 hp).1

end Buffer

end AnyStore

/-! ## Flushes of the store in memory -/

namespace FlushPlan

variable (plan : FlushPlan) (s : MemoryStore)

/-- The documents after the imports of a plan. -/
def imported : List IndexDocument :=
  if s.failImports then s.documents
  else MemoryStore.insertAll (plan.upserts.map Prod.fst) s.documents

/-- The store after a plan was carried out. -/
def storeAfter : MemoryStore :=
  { s with
    documents :=
      if s.failDeletes then plan.imported s
      else MemoryStore.eraseAll (plan.deletes.map Prod.fst) (plan.imported s)
    imports :=
      if plan.upserts.isEmpty then s.imports
      else s.imports ++ [(plan.upserts.map Prod.fst).map (·.id)]
    deletes := s.deletes ++ plan.deletes.map Prod.fst }

/-- The paths believed to be indexed after the imports of a plan. -/
def remembered (b : Buffer) : List Path :=
  if plan.upserts.isEmpty || s.failImports then b.indexed
  else (b.remember (plan.upserts.map Prod.snd)).indexed

/-- The paths believed to be indexed after a plan was carried out. -/
def indexedAfter (b : Buffer) : List Path :=
  if s.failDeletes then plan.remembered s b
  else (plan.remembered s b).filter fun p => plan.deletes.all fun target => !p.same target.2

/-- The counts after a plan was carried out. -/
def reportAfter : FlushReport :=
  { upserted := plan.report.upserted + if s.failImports then 0 else plan.upserts.length
    deleted :=
      plan.report.deleted +
        if s.failDeletes then 0
        else MemoryStore.deletions (plan.deletes.map Prod.fst) (plan.imported s)
    skipped := plan.report.skipped
    errors :=
      plan.report.errors + (if s.failImports then plan.upserts.length else 0) +
        if s.failDeletes then plan.deletes.length else 0 }

end FlushPlan

namespace FlushRun

theorem value_upsertAll (plan : FlushPlan) (b : Buffer) (s : MemoryStore) :
    (upsertAll MemoryStore.operations plan { report := plan.report, buffer := b, store := s }).value =
      { report := { plan.report with
          upserted := plan.report.upserted + if s.failImports then 0 else plan.upserts.length
          errors := plan.report.errors + if s.failImports then plan.upserts.length else 0 }
        buffer := { b with indexed := plan.remembered s b }
        store := { s with
          documents := plan.imported s
          imports :=
            if plan.upserts.isEmpty then s.imports
            else s.imports ++ [(plan.upserts.map Prod.fst).map (·.id)] } } := by
  unfold upsertAll FlushPlan.imported FlushPlan.remembered
  cases hempty : plan.upserts.isEmpty with
  | true =>
      have hnil : plan.upserts = [] := List.isEmpty_iff.1 hempty
      simp [hnil, MemoryStore.insertAll]
  | false =>
      simp only [Bool.false_eq_true, if_false, Logged.value_bind, importAll,
        MemoryStore.operations, Logged.value_quiet, MemoryStore.importDocuments]
      cases hfail : s.failImports with
      | true => simp
      | false => simp [MemoryStore.foldl_insert, Buffer.remember]

variable (run : FlushRun MemoryStore) (targets : List (String × Path))

theorem deleteAll_of_failing (hfail : run.store.failDeletes = true) :
    deleteAll MemoryStore.operations run targets =
      { run with
        store := { run.store with deletes := run.store.deletes ++ targets.map Prod.fst }
        report := { run.report with errors := run.report.errors + targets.length } } := by
  induction targets generalizing run with
  | nil => simp
  | cons target targets ih =>
      obtain ⟨id, path⟩ := target
      have hone : (deleteOne MemoryStore.operations run (id, path)).value =
          { run with
            store := { run.store with deletes := run.store.deletes ++ [id] }
            report := { run.report with errors := run.report.errors + 1 } } := by
        simp [deleteOne, MemoryStore.operations, MemoryStore.deleteDocument, hfail]
      rw [deleteAll_cons, hone, ih]
      · simp [Nat.add_assoc, Nat.add_comm 1]
      · exact hfail

theorem deleteAll_of_working (hwork : run.store.failDeletes = false) :
    deleteAll MemoryStore.operations run targets =
      { store := { run.store with
          documents := MemoryStore.eraseAll (targets.map Prod.fst) run.store.documents
          deletes := run.store.deletes ++ targets.map Prod.fst }
        buffer := { run.buffer with
          indexed := run.buffer.indexed.filter fun p => targets.all fun t => !p.same t.2 }
        report := { run.report with
          deleted := run.report.deleted +
            MemoryStore.deletions (targets.map Prod.fst) run.store.documents } } := by
  induction targets generalizing run with
  | nil =>
      have hall : run.buffer.indexed.filter (fun _ => true) = run.buffer.indexed :=
        List.filter_eq_self.2 fun _ _ => rfl
      simp [MemoryStore.deletions, hall]
  | cons target targets ih =>
      obtain ⟨id, path⟩ := target
      have hone : (deleteOne MemoryStore.operations run (id, path)).value =
          { store := { run.store with
              documents := MemoryStore.eraseAll [id] run.store.documents
              deletes := run.store.deletes ++ [id] }
            buffer := run.buffer.forget path
            report := { run.report with
              deleted := run.report.deleted +
                if (run.store.documents.find? (·.id = id)).isSome then 1 else 0 } } := by
        rw [← MemoryStore.documents_erase]
        simp only [deleteOne, MemoryStore.operations, MemoryStore.deleteDocument,
          Logged.value_bind, Logged.value_quiet, hwork, MemoryStore.get?, MemoryStore.erase]
        cases (run.store.documents.find? (·.id = id)).isSome <;> rfl
      rw [deleteAll_cons, hone, ih]
      · simp [MemoryStore.deletions, MemoryStore.eraseAll_eraseAll, Buffer.forget, Nat.add_assoc,
          List.filter_filter, Bool.and_comm]
      · exact hwork

end FlushRun

/-- A flush of the store in memory, told from the plan. -/
theorem Buffer.value_flush_memory (parse : Parser) (fs : FileSystem) (scope : Scope) (b : Buffer)
    (s : MemoryStore) :
    (b.flush MemoryStore.operations parse fs scope s).value =
      let plan := FlushPlan.forPaths parse fs scope b.pendingPaths
      { report := plan.reportAfter s
        buffer := { pending := [], indexed := plan.indexedAfter s b }
        store := plan.storeAfter s } := by
  rw [value_flush, FlushRun.value_carryOut, FlushRun.value_upsertAll]
  generalize FlushPlan.forPaths parse fs scope b.pendingPaths = plan
  by_cases hfail : s.failDeletes = true
  · rw [FlushRun.deleteAll_of_failing _ _ (by exact hfail)]
    simp [FlushPlan.reportAfter, FlushPlan.indexedAfter, FlushPlan.storeAfter, hfail]
    rfl
  · rw [FlushRun.deleteAll_of_working _ _ (by exact Bool.eq_false_iff.2 hfail)]
    simp [FlushPlan.reportAfter, FlushPlan.indexedAfter, FlushPlan.storeAfter, hfail]
    rfl

theorem Maintainer.value_flush_memory (parse : Parser) (fs : FileSystem) (m : Maintainer)
    (s : MemoryStore) :
    (m.flush MemoryStore.operations parse fs s).value =
      let plan := FlushPlan.forPaths parse fs m.scope m.buffer.pendingPaths
      (plan.reportAfter s,
        { m with buffer := { pending := [], indexed := plan.indexedAfter s m.buffer } },
        plan.storeAfter s) := by
  simp only [flush, Logged.value_bind, Logged.value_pure, Buffer.value_flush_memory]

/-! ## One document -/

section OneDocument

variable {parse : Parser} {fs : FileSystem} {scope : Scope} {paths : List Path} {p : Path}
  {s : MemoryStore} {id : String}

/-- Deletes come last, so they count whatever was imported. -/
theorem FlushPlan.get?_storeAfter_of_delete {plan : FlushPlan} (hdeletes : s.failDeletes = false)
    (h : id ∈ plan.deletes.map Prod.fst) : (plan.storeAfter s).get? id = none := by
  simp only [storeAfter, MemoryStore.get?, hdeletes]
  exact (MemoryStore.find?_eraseAll _ _ id).trans (if_pos h)

theorem FlushPlan.get?_storeAfter {plan : FlushPlan} (himports : s.failImports = false)
    (h : id ∉ plan.deletes.map Prod.fst) :
    (plan.storeAfter s).get? id =
      ((plan.upserts.map Prod.fst).reverse.find? (·.id = id)).or (s.get? id) := by
  have hkept := (MemoryStore.find?_eraseAll (plan.deletes.map Prod.fst) (plan.imported s) id).trans
    (if_neg h)
  have himported := MemoryStore.find?_insertAll (plan.upserts.map Prod.fst) s.documents id
  simp only [imported, himports] at hkept himported
  simp only [storeAfter, MemoryStore.get?, imported, himports]
  cases hdeletes : s.failDeletes with
  | true => exact himported
  | false => exact hkept.trans himported

theorem FlushPlan.mem_deletes_iff :
    id ∈ (forPaths parse fs scope paths).deletes.map Prod.fst ↔
      ∃ q ∈ paths, scope.fate parse fs q = .delete id := by
  simp only [List.mem_map, Prod.exists, mem_deletes_forPaths]
  constructor
  · intro h
    obtain ⟨id', q, ⟨hq, hfate⟩, rfl⟩ := h
    exact ⟨q, hq, hfate⟩
  · intro h
    obtain ⟨q, hq, hfate⟩ := h
    exact ⟨id, q, ⟨hq, hfate⟩, rfl⟩

/-- An id that no pending path stands for keeps its document. -/
theorem FlushPlan.get?_of_untouched (himports : s.failImports = false)
    (h : ∀ q ∈ paths, (scope.fate parse fs q).id? ≠ some id) :
    ((forPaths parse fs scope paths).storeAfter s).get? id = s.get? id := by
  have hdelete : id ∉ (forPaths parse fs scope paths).deletes.map Prod.fst := by
    intro hmem
    obtain ⟨q, hq, hfate⟩ := mem_deletes_iff.1 hmem
    exact h q hq (by rw [hfate]; rfl)
  rw [get?_storeAfter himports hdelete]
  have hnone : ((forPaths parse fs scope paths).upserts.map Prod.fst).reverse.find? (·.id = id) =
      none := by
    refine List.find?_eq_none.2 fun doc hdoc hid => ?_
    obtain ⟨⟨doc', q⟩, hmem, rfl⟩ := List.mem_map.1 (List.mem_reverse.1 hdoc)
    obtain ⟨hq, hfate⟩ := mem_upserts_forPaths.1 hmem
    refine h q hq ?_
    rw [hfate]
    exact congrArg some (of_decide_eq_true hid)
  rw [hnone, Option.none_or]

/-- A document that only one pending path stands for is what that path leads to. -/
theorem FlushPlan.get?_of_upsert (himports : s.failImports = false) (hp : p ∈ paths)
    (hone : ∀ q ∈ paths, (scope.fate parse fs q).id? = some id → q = p) {doc : IndexDocument}
    (hdoc : scope.fate parse fs p = .upsert doc) (hid : doc.id = id) :
    ((forPaths parse fs scope paths).storeAfter s).get? id = some doc := by
  have hdelete : id ∉ (forPaths parse fs scope paths).deletes.map Prod.fst := by
    intro hmem
    obtain ⟨q, hq, hfate⟩ := mem_deletes_iff.1 hmem
    have hqp : q = p := hone q hq (by rw [hfate]; rfl)
    rw [hqp, hdoc] at hfate
    cases hfate
  rw [get?_storeAfter himports hdelete]
  have hfound : ((forPaths parse fs scope paths).upserts.map Prod.fst).reverse.find?
      (·.id = id) = some doc := by
    cases hfind : ((forPaths parse fs scope paths).upserts.map Prod.fst).reverse.find?
        (·.id = id) with
    | none =>
        have hmem : doc ∈ ((forPaths parse fs scope paths).upserts.map Prod.fst).reverse :=
          List.mem_reverse.2 (List.mem_map.2 ⟨_, mem_upserts_forPaths.2 ⟨hp, hdoc⟩, rfl⟩)
        exact absurd (decide_eq_true hid) (List.find?_eq_none.1 hfind doc hmem)
    | some doc' =>
        have hid' : doc'.id = id := by simpa using List.find?_some hfind
        obtain ⟨⟨d, q⟩, hmem, rfl⟩ :=
          List.mem_map.1 (List.mem_reverse.1 (List.mem_of_find?_eq_some hfind))
        obtain ⟨hq, hfate⟩ := mem_upserts_forPaths.1 hmem
        have hqp : q = p := hone q hq (by rw [hfate]; exact congrArg some hid')
        rw [hqp, hdoc] at hfate
        cases hfate
        rfl
  rw [hfound, Option.some_or]

end OneDocument

end SymbolIndex
