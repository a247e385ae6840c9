-- SUMMARY: Document stores: the operations that indexing, watching and searching need.
import SymbolIndex.Document.Basic
import SymbolIndex.Error
import SymbolIndex.Log
import SymbolIndex.Search.Response

/-! # Document stores

A store is given by its operations on a state. An operation that fails still
gives the state after it, since a request may have been sent. -/

namespace SymbolIndex

/-- What became of the documents of one import. -/
structure ImportSummary where
  imported : Nat := 0
  failed : Nat := 0
  /-- One message per failed document. -/
  errors : List String := []
  deriving DecidableEq, Repr

structure CollectionStats where
  name : String
  numDocuments : Nat
  deriving DecidableEq, Repr

/-- The outcome of a store operation, the state after it, and its log. -/
abbrev StoreStep (σ α : Type) := Logged (Result α × σ)

/-- The operations of a store with states `σ`. -/
structure DocumentStore (σ : Type) where
  /-- The server is up and answers. -/
  health : σ → StoreStep σ Bool
  /-- Nothing if there is no collection. -/
  stats : σ → StoreStep σ (Option CollectionStats)
  /-- Creates the collection unless there is one; with `reset` drops it first. -/
  ensureCollection (reset : Bool) : σ → StoreStep σ Unit
  /-- Inserts or replaces the documents in one call. -/
  importDocuments (docs : List IndexDocument) : σ → StoreStep σ ImportSummary
  /-- Gives `false` if there was no such document. -/
  deleteDocument (id : String) : σ → StoreStep σ Bool
  search (params : List (String × String)) : σ → StoreStep σ SearchResponse

end SymbolIndex
