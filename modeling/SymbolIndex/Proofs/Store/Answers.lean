-- SUMMARY: The answers of a store: kept beside it, tallied, and what a store's imports have to say for the tallies to add up.
import Mathlib.Algebra.GroupWithZero.Nat
import SymbolIndex.Proofs.Store.Calls

/-!
# Answers of a store

The answers to imports and deletes can be kept beside any store. Whoever uses the
store sees nothing of them: a store that keeps its answers mirrors the one that
it is made of.
-/

namespace SymbolIndex

variable {σ τ : Type}

/-! ## Answers -/

/-- The answers to imports and to deletes, the oldest first. -/
structure StoreAnswers where
  imports : List (Result ImportSummary) := []
  deletes : List (Result Bool) := []

namespace StoreAnswers

/-- The documents that an import took. -/
def taken : Result ImportSummary → Nat
  | .ok summary => summary.imported
  | .error _ => 0

/-- The delete found no document. -/
def isMiss : Result Bool → Bool
  | .ok found => !found
  | .error _ => false

/-- The number of imports that failed as a whole. -/
def failedImports (a : StoreAnswers) : Nat := a.imports.countP fun answer => !answer.isOk

/-- The number of documents that the imports took. -/
def importedDocuments (a : StoreAnswers) : Nat := (a.imports.map taken).sum

/-- The number of deletes that found no document. -/
def missedDeletes (a : StoreAnswers) : Nat := a.deletes.countP isMiss

def addImport (a : StoreAnswers) (answer : Result ImportSummary) : StoreAnswers :=
  { a with imports := a.imports ++ [answer] }

def addDelete (a : StoreAnswers) (answer : Result Bool) : StoreAnswers :=
  { a with deletes := a.deletes ++ [answer] }

variable (a : StoreAnswers)

@[simp] theorem failedImports_addImport_ok (summary : ImportSummary) :
    (a.addImport (.ok summary)).failedImports = a.failedImports := by
  simp [failedImports, addImport, Except.isOk, Except.toBool]

@[simp] theorem failedImports_addImport_error (e : Error) :
    (a.addImport (.error e)).failedImports = a.failedImports + 1 := by
  simp [failedImports, addImport, Except.isOk, Except.toBool]

@[simp] theorem importedDocuments_addImport (answer : Result ImportSummary) :
    (a.addImport answer).importedDocuments = a.importedDocuments + taken answer := by
  simp [importedDocuments, addImport]

@[simp] theorem missedDeletes_addImport (answer : Result ImportSummary) :
    (a.addImport answer).missedDeletes = a.missedDeletes := rfl

@[simp] theorem missedDeletes_addDelete (answer : Result Bool) :
    (a.addDelete answer).missedDeletes = a.missedDeletes + (isMiss answer).toNat := by
  cases h : isMiss answer <;> simp [missedDeletes, addDelete, h]

end StoreAnswers

/-! ## Stores that keep their answers -/

namespace DocumentStore

/-- Makes a call and keeps its answer. -/
def keeping (keep : StoreAnswers → Result α → StoreAnswers) (step : σ → StoreStep σ α)
    (s : σ × StoreAnswers) : Logged (Result α × σ × StoreAnswers) := do
  let (answer, after) ← step s.1
  return (answer, after, keep s.2 answer)

@[simp] theorem value_keeping (keep : StoreAnswers → Result α → StoreAnswers)
    (step : σ → StoreStep σ α) (s : σ × StoreAnswers) :
    (keeping keep step s).value =
      ((step s.1).value.1, (step s.1).value.2, keep s.2 (step s.1).value.1) := rfl

/-- The store together with its answers to imports and deletes. -/
def answering (ops : DocumentStore σ) : DocumentStore (σ × StoreAnswers) where
  health := keeping (fun a _ => a) ops.health
  stats := keeping (fun a _ => a) ops.stats
  ensureCollection reset := keeping (fun a _ => a) (ops.ensureCollection reset)
  importDocuments docs := keeping .addImport (ops.importDocuments docs)
  deleteDocument id := keeping .addDelete (ops.deleteDocument id)
  search params := keeping (fun a _ => a) (ops.search params)

/-- For those that index and watch, the store with states `τ` is the one with states
`σ`, seen through `view`. -/
structure Mirrors (ops' : DocumentStore τ) (ops : DocumentStore σ) (view : τ → σ) : Prop where
  ensure : ∀ reset t, (ops.ensureCollection reset (view t)).value =
    ((ops'.ensureCollection reset t).value.1, view (ops'.ensureCollection reset t).value.2)
  imports : ∀ docs t, (ops.importDocuments docs (view t)).value =
    ((ops'.importDocuments docs t).value.1, view (ops'.importDocuments docs t).value.2)
  deletes : ∀ id t, (ops.deleteDocument id (view t)).value =
    ((ops'.deleteDocument id t).value.1, view (ops'.deleteDocument id t).value.2)

theorem answering_mirrors (ops : DocumentStore σ) : ops.answering.Mirrors ops Prod.fst where
  ensure _ _ := rfl
  imports _ _ := rfl
  deletes _ _ := rfl

/-- An import that does not fail as a whole says of each document whether it was
taken. -/
def CountsImports (ops : DocumentStore σ) : Prop :=
  ∀ docs s summary, (ops.importDocuments docs s).value.1 = .ok summary →
    summary.imported + summary.failed = docs.length

end DocumentStore

/-! ## Stores that count -/

theorem MemoryStore.countsImports_operations : MemoryStore.operations.CountsImports := by
  intro docs s summary h
  have hdone : (importDocuments docs s).1 = .ok summary := h
  unfold importDocuments at hdone
  cases hfails : s.failImports with
  | true => simp [hfails] at hdone
  | false =>
      simp only [hfails, Bool.false_eq_true, if_false, Except.ok.injEq] at hdone
      simp [← hdone]

namespace FaultyStore

/-- Imports the first of the documents and refuses the others, if the import goes
through at all. -/
def importFirst (docs : List IndexDocument) (s : FaultyStore) :
    Result ImportSummary × FaultyStore :=
  let (outcome, after) := importDocuments (docs.take 1) s
  (outcome.map fun summary =>
    { summary with
      failed := summary.failed + (docs.drop 1).length
      errors := summary.errors ++ (docs.drop 1).map fun _ => "refused" }, after)

/-- The store that takes one document of each import. -/
def sparing : DocumentStore FaultyStore :=
  { operations with importDocuments := fun docs s => Logged.quiet (importFirst docs s) }

theorem countsImports_sparing : sparing.CountsImports := by
  intro docs s summary h
  have hdone : (importFirst docs s).1 = .ok summary := h
  cases hfirst : (importDocuments (docs.take 1) s).1 with
  | error e => simp [importFirst, hfirst, Except.map] at hdone
  | ok first =>
      have hcounts := MemoryStore.countsImports_operations (docs.take 1) _ first hfirst
      simp only [importFirst, hfirst, Except.map, Except.ok.injEq] at hdone
      rw [List.length_take] at hcounts
      rw [← hdone]
      simp only [List.length_drop]
      omega

end FaultyStore

end SymbolIndex
