-- SUMMARY: The calls that a store gets, what they do to its documents, and a store in memory whose calls fail at will.
import SymbolIndex.Proofs.Store.Contents

/-!
# Calls to a store

A record of the calls can be kept beside any store and changes nothing else.
Stores that respect their documents change those that a call names, and no
others, and a call that fails changes nothing. The store in memory is such a
store, whichever of its calls fail.
-/

namespace SymbolIndex

/-! ## Records -/

inductive StoreCall where
  | health
  | stats
  | ensureCollection (reset : Bool)
  | importDocuments (docs : List IndexDocument)
  | deleteDocument (id : String)
  | search (params : List (String × String))
  deriving DecidableEq

namespace StoreCall

def isImport : StoreCall → Bool
  | importDocuments _ => true
  | _ => false

/-- The ids of the documents that the call is to change. -/
def ids : StoreCall → List String
  | importDocuments docs => docs.map (·.id)
  | deleteDocument id => [id]
  | _ => []

end StoreCall

namespace DocumentStore

variable {σ : Type}

/-- Makes a call and adds it to the record. -/
def noted (call : StoreCall) (step : σ → StoreStep σ α) (s : σ × List StoreCall) :
    Logged (Result α × σ × List StoreCall) := do
  let (outcome, after) ← step s.1
  return (outcome, after, s.2 ++ [call])

@[simp] theorem value_noted (call : StoreCall) (step : σ → StoreStep σ α)
    (s : σ × List StoreCall) :
    (noted call step s).value = ((step s.1).value.1, (step s.1).value.2, s.2 ++ [call]) := rfl

/-- The store together with a record of its calls, the oldest first. -/
def recording (ops : DocumentStore σ) : DocumentStore (σ × List StoreCall) where
  health := noted .health ops.health
  stats := noted .stats ops.stats
  ensureCollection reset := noted (.ensureCollection reset) (ops.ensureCollection reset)
  importDocuments docs := noted (.importDocuments docs) (ops.importDocuments docs)
  deleteDocument id := noted (.deleteDocument id) (ops.deleteDocument id)
  search params := noted (.search params) (ops.search params)

/-! ## Laws -/

/-- Imports and deletes change the documents that they name, a delete that goes
through leaves none, and calls that fail change nothing. -/
structure Respects (ops : DocumentStore σ) (get? : σ → String → Option IndexDocument) : Prop where
  import_other : ∀ docs s id, id ∉ docs.map (·.id) →
    get? (ops.importDocuments docs s).value.2 id = get? s id
  import_error : ∀ docs s e, (ops.importDocuments docs s).value.1 = .error e →
    ∀ id, get? (ops.importDocuments docs s).value.2 id = get? s id
  delete_other : ∀ id s id', id' ≠ id →
    get? (ops.deleteDocument id s).value.2 id' = get? s id'
  delete_ok : ∀ id s found, (ops.deleteDocument id s).value.1 = .ok found →
    get? (ops.deleteDocument id s).value.2 id = none
  delete_error : ∀ id s e, (ops.deleteDocument id s).value.1 = .error e →
    get? (ops.deleteDocument id s).value.2 id = get? s id

/-- From the states in `up` all imports and deletes go through. An import that
goes through leaves each of its documents in the store. -/
structure Works (ops : DocumentStore σ) (get? : σ → String → Option IndexDocument)
    (up : σ → Prop) : Prop extends ops.Respects get? where
  import_self : ∀ docs s summary, (ops.importDocuments docs s).value.1 = .ok summary →
    summary.failed = 0 → (docs.map (·.id)).Nodup →
    ∀ doc ∈ docs, get? (ops.importDocuments docs s).value.2 doc.id = some doc
  import_goes : ∀ docs s, up s →
    ∃ summary, (ops.importDocuments docs s).value.1 = .ok summary ∧ summary.failed = 0
  import_up : ∀ docs s, up s → up (ops.importDocuments docs s).value.2
  delete_goes : ∀ id s, up s → ∃ found, (ops.deleteDocument id s).value.1 = .ok found
  delete_up : ∀ id s, up s → up (ops.deleteDocument id s).value.2

end DocumentStore

/-! ## The store in memory -/

namespace MemoryStore

/-- An import changes nothing but the documents with the ids of the batch. -/
theorem get?_foldl_insert (docs : List IndexDocument) (s : MemoryStore) {id : String}
    (h : id ∉ docs.map (·.id)) : (docs.foldl insert s).get? id = s.get? id := by
  induction docs generalizing s with
  | nil => rfl
  | cons doc docs ih =>
      simp only [List.map_cons, List.mem_cons, not_or] at h
      rw [List.foldl_cons, ih _ h.2, get?_insert, if_neg (Ne.symm h.1)]

theorem respects_operations : operations.Respects get? where
  import_other docs s id h := by
    show (importDocuments docs s).2.get? id = s.get? id
    unfold importDocuments
    cases s.failImports with
    | true => rfl
    | false => exact get?_foldl_insert docs _ h
  import_error docs s e h id := by
    have hfail : (importDocuments docs s).1 = .error e := h
    show (importDocuments docs s).2.get? id = s.get? id
    unfold importDocuments at hfail ⊢
    cases hfails : s.failImports with
    | true => rfl
    | false => simp [hfails] at hfail
  delete_other id s id' h := by
    show (deleteDocument id s).2.get? id' = s.get? id'
    unfold deleteDocument
    cases s.failDeletes with
    | true => rfl
    | false => exact (get?_erase _ id id').trans (if_neg h)
  delete_ok id s found h := by
    have hdone : (deleteDocument id s).1 = .ok found := h
    show (deleteDocument id s).2.get? id = none
    unfold deleteDocument at hdone ⊢
    cases hfails : s.failDeletes with
    | true => simp [hfails] at hdone
    | false => exact (get?_erase _ id id).trans (if_pos rfl)
  delete_error id s e h := by
    have hfail : (deleteDocument id s).1 = .error e := h
    show (deleteDocument id s).2.get? id = s.get? id
    unfold deleteDocument at hfail ⊢
    cases hfails : s.failDeletes with
    | true => rfl
    | false => simp [hfails] at hfail

/-- The store in memory works as long as nothing is made to fail. -/
theorem works_operations :
    operations.Works get? fun s => s.failImports = false ∧ s.failDeletes = false where
  toRespects := respects_operations
  import_self docs s summary h _ hids doc hdoc := by
    have hdone : (importDocuments docs s).1 = .ok summary := h
    show (importDocuments docs s).2.get? doc.id = some doc
    unfold importDocuments at hdone ⊢
    cases hfails : s.failImports with
    | true => simp [hfails] at hdone
    | false =>
        have hown : ∀ d ∈ docs, ∀ d' ∈ docs, d.id = d'.id → d = d' :=
          fun _ hd _ hd' => List.inj_on_of_nodup_map hids hd hd'
        simp only [foldl_insert]
        exact find?_insertAll_of_mem hown hdoc _
  import_goes docs s h := by
    refine ⟨{ imported := docs.length }, ?_, rfl⟩
    show (importDocuments docs s).1 = _
    simp [importDocuments, h.1]
  import_up docs s h := by
    show (importDocuments docs s).2.failImports = false ∧
      (importDocuments docs s).2.failDeletes = false
    simp [importDocuments, foldl_insert, h]
  delete_goes id s h := by
    refine ⟨(s.get? id).isSome, ?_⟩
    show (deleteDocument id s).1 = _
    simp [deleteDocument, h.2, get?]
  delete_up id s h := by
    show (deleteDocument id s).2.failImports = false ∧
      (deleteDocument id s).2.failDeletes = false
    simp [deleteDocument, erase, h]

end MemoryStore

/-! ## Faults -/

/-- A store in memory and, for each of the coming imports and deletes, whether
it fails. Those behind the end of the list go through. -/
structure FaultyStore where
  memory : MemoryStore := {}
  faults : List Bool := []

namespace FaultyStore

def get? (s : FaultyStore) (id : String) : Option IndexDocument := s.memory.get? id

/-- The next call fails. -/
def fails (s : FaultyStore) : Bool := s.faults.headD false

def importDocuments (docs : List IndexDocument) (s : FaultyStore) :
    Result ImportSummary × FaultyStore :=
  let (outcome, memory) := MemoryStore.importDocuments docs { s.memory with failImports := s.fails }
  (outcome, { memory, faults := s.faults.tail })

def deleteDocument (id : String) (s : FaultyStore) : Result Bool × FaultyStore :=
  let (outcome, memory) := MemoryStore.deleteDocument id { s.memory with failDeletes := s.fails }
  (outcome, { memory, faults := s.faults.tail })

/-- A call that neither imports nor deletes goes to the store in memory. -/
def passed (step : MemoryStore → StoreStep MemoryStore α) (s : FaultyStore) :
    Logged (Result α × FaultyStore) := do
  let (outcome, memory) ← step s.memory
  return (outcome, { s with memory })

def operations : DocumentStore FaultyStore where
  health := passed MemoryStore.operations.health
  stats := passed MemoryStore.operations.stats
  ensureCollection reset := passed (MemoryStore.operations.ensureCollection reset)
  importDocuments docs s := Logged.quiet (importDocuments docs s)
  deleteDocument id s := Logged.quiet (deleteDocument id s)
  search params := passed (MemoryStore.operations.search params)

/-- Each call is one of the store in memory that is made to fail or not. -/
theorem respects_operations : operations.Respects get? where
  import_other docs _ := MemoryStore.respects_operations.import_other docs _
  import_error docs _ := MemoryStore.respects_operations.import_error docs _
  delete_other id _ := MemoryStore.respects_operations.delete_other id _
  delete_ok id _ := MemoryStore.respects_operations.delete_ok id _
  delete_error id _ := MemoryStore.respects_operations.delete_error id _

end FaultyStore

end SymbolIndex
