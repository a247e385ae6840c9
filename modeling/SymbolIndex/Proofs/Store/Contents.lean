-- SUMMARY: What imports and deletes leave in the store in memory, whatever their order.
import Mathlib.Data.List.Dedup
import SymbolIndex.Store.Memory

/-!
# Contents of the store

After an import the last document of an id counts, and after a delete none
does. Documents with different ids can be inserted in any order, and ids can be
deleted in any order.
-/

namespace SymbolIndex.MemoryStore

variable {doc doc' : IndexDocument} {docs docs' ds : List IndexDocument} {ids ids' : List String}

/-! ## Imports -/

/-- Inserts documents one after the other. -/
def insertAll (docs ds : List IndexDocument) : List IndexDocument :=
  docs.foldl (fun ds doc => insertInto doc ds) ds

theorem foldl_insert (docs : List IndexDocument) (s : MemoryStore) :
    docs.foldl insert s = { s with documents := insertAll docs s.documents } := by
  induction docs generalizing s with
  | nil => rfl
  | cons doc docs ih => exact ih (s.insert doc)

theorem find?_insertAll (docs ds : List IndexDocument) (id : String) :
    (insertAll docs ds).find? (·.id = id) =
      (docs.reverse.find? (·.id = id)).or (ds.find? (·.id = id)) := by
  induction docs generalizing ds with
  | nil => rfl
  | cons doc docs ih =>
      have h := ih (insertInto doc ds)
      rw [find?_insertInto] at h
      rw [List.reverse_cons, List.find?_append]
      refine h.trans ?_
      by_cases hid : doc.id = id <;> cases docs.reverse.find? (·.id = id) <;> simp [hid]

/-- Two documents go to the same two places, whichever is inserted first. -/
theorem insertInto_comm (h : doc.id ≠ doc'.id) (ds : List IndexDocument) :
    insertInto doc (insertInto doc' ds) = insertInto doc' (insertInto doc ds) := by
  induction ds with
  | nil => grind [insertInto]
  | cons d ds ih =>
      -- by the order of the three ids; below both of the new ones the hypothesis is used
      grind [insertInto]

/-- An import does not depend on the order of documents with different ids. -/
theorem insertAll_perm (hp : docs.Perm docs')
    (hids : ∀ doc ∈ docs, ∀ doc' ∈ docs, doc.id = doc'.id → doc = doc')
    (ds : List IndexDocument) : insertAll docs ds = insertAll docs' ds := by
  refine hp.foldl_eq' ?_ ds
  intro doc hdoc doc' hdoc' ds
  by_cases h : doc.id = doc'.id
  · rw [hids doc hdoc doc' hdoc' h]
  · exact insertInto_comm (Ne.symm h) ds

theorem insertInto_insertInto (doc : IndexDocument) (ds : List IndexDocument) :
    insertInto doc (insertInto doc ds) = insertInto doc ds := by
  induction ds with
  | nil => simp [insertInto]
  | cons d ds ih => grind [insertInto]

/-- A document that comes again later adds nothing. -/
theorem insertAll_cons_of_mem (hdoc : doc ∈ docs)
    (hids : ∀ doc ∈ docs, ∀ doc' ∈ docs, doc.id = doc'.id → doc = doc')
    (ds : List IndexDocument) : insertAll (doc :: docs) ds = insertAll docs ds := by
  have hp : docs.Perm (doc :: docs.erase doc) := List.perm_cons_erase hdoc
  calc insertAll (doc :: docs) ds
      = insertAll docs (insertInto doc ds) := rfl
    _ = insertAll (doc :: docs.erase doc) (insertInto doc ds) := insertAll_perm hp hids _
    _ = insertAll (docs.erase doc) (insertInto doc (insertInto doc ds)) := rfl
    _ = insertAll (doc :: docs.erase doc) ds := by
        rw [insertInto_insertInto]
        rfl
    _ = insertAll docs ds := (insertAll_perm hp hids ds).symm

theorem insertAll_dedup (hids : ∀ doc ∈ docs, ∀ doc' ∈ docs, doc.id = doc'.id → doc = doc')
    (ds : List IndexDocument) : insertAll docs.dedup ds = insertAll docs ds := by
  induction docs generalizing ds with
  | nil => rfl
  | cons doc docs ih =>
      have hrest : ∀ doc ∈ docs, ∀ doc' ∈ docs, doc.id = doc'.id → doc = doc' :=
        fun d hd d' hd' => hids d (List.mem_cons_of_mem _ hd) d' (List.mem_cons_of_mem _ hd')
      by_cases hdoc : doc ∈ docs
      · rw [List.dedup_cons_of_mem hdoc, insertAll_cons_of_mem hdoc hrest]
        exact ih hrest ds
      · rw [List.dedup_cons_of_notMem hdoc]
        exact ih hrest (insertInto doc ds)

/-- An import depends on the documents alone, not on their order or on how often each
of them comes. -/
theorem insertAll_congr (hmem : ∀ doc, doc ∈ docs ↔ doc ∈ docs')
    (hids : ∀ doc ∈ docs, ∀ doc' ∈ docs, doc.id = doc'.id → doc = doc')
    (ds : List IndexDocument) : insertAll docs ds = insertAll docs' ds := by
  have hids' : ∀ doc ∈ docs', ∀ doc' ∈ docs', doc.id = doc'.id → doc = doc' :=
    fun d hd d' hd' => hids d ((hmem d).2 hd) d' ((hmem d').2 hd')
  have hp : docs.dedup.Perm docs'.dedup :=
    (List.perm_ext_iff_of_nodup docs.nodup_dedup docs'.nodup_dedup).2 (by simp [hmem])
  rw [← insertAll_dedup hids, ← insertAll_dedup hids']
  refine insertAll_perm hp (fun d hd d' hd' => ?_) ds
  exact hids d (List.mem_dedup.1 hd) d' (List.mem_dedup.1 hd')

/-- A second import of the same documents changes nothing. -/
theorem insertAll_insertAll
    (hids : ∀ doc ∈ docs, ∀ doc' ∈ docs, doc.id = doc'.id → doc = doc')
    (ds : List IndexDocument) : insertAll docs (insertAll docs ds) = insertAll docs ds := by
  have hmem : ∀ doc, doc ∈ docs ↔ doc ∈ docs ++ docs := by simp
  exact List.foldl_append.symm.trans (insertAll_congr hmem hids ds).symm

/-- A document with an id of its own is there after its import. -/
theorem find?_insertAll_of_mem
    (hids : ∀ doc ∈ docs, ∀ doc' ∈ docs, doc.id = doc'.id → doc = doc') (hdoc : doc ∈ docs)
    (ds : List IndexDocument) : (insertAll docs ds).find? (·.id = doc.id) = some doc := by
  rw [find?_insertAll]
  cases hfound : docs.reverse.find? (·.id = doc.id) with
  | none =>
      have hne := List.find?_eq_none.1 hfound doc (List.mem_reverse.2 hdoc)
      simp at hne
  | some d =>
      have hd : d ∈ docs := by simpa using List.mem_of_find?_eq_some hfound
      have hid : d.id = doc.id := by simpa using List.find?_some hfound
      rw [hids d hd doc hdoc hid, Option.some_or]

/-- What stands under another id stays. -/
theorem find?_insertAll_of_ne {id : String} (h : ∀ doc ∈ docs, doc.id ≠ id)
    (ds : List IndexDocument) :
    (insertAll docs ds).find? (·.id = id) = ds.find? (·.id = id) := by
  have hnone : docs.reverse.find? (·.id = id) = none := by simpa using h
  rw [find?_insertAll, hnone, Option.none_or]

/-! ## Order -/

/-- The documents of a store ascend by their ids. -/
def Sorted (ds : List IndexDocument) : Prop := ds.Pairwise (·.id < ·.id)

theorem sorted_insertInto (h : Sorted ds) : Sorted (insertInto doc ds) := by
  induction ds with
  | nil => exact List.pairwise_singleton _ _
  | cons d ds ih =>
      obtain ⟨hd, hds⟩ := List.pairwise_cons.1 h
      rw [insertInto]
      split
      case isTrue heq =>
        rw [← heq] at hd
        exact List.pairwise_cons.2 ⟨hd, hds⟩
      case isFalse hne =>
        split
        case isTrue hlt =>
          refine List.pairwise_cons.2 ⟨fun e he => ?_, h⟩
          rcases List.mem_cons.1 he with rfl | he
          · exact hlt
          · exact String.lt_trans hlt (hd e he)
        case isFalse hge =>
          refine List.pairwise_cons.2 ⟨fun e he => ?_, ih hds⟩
          rcases mem_insertInto he with rfl | he
          · exact Std.lt_of_le_of_ne (String.not_lt.1 hge) (Ne.symm hne)
          · exact hd e he

theorem sorted_insertAll (docs : List IndexDocument) (h : Sorted ds) :
    Sorted (insertAll docs ds) := by
  induction docs generalizing ds with
  | nil => exact h
  | cons doc docs ih => exact ih (sorted_insertInto h)

theorem mem_or_mem_of_mem_insertAll (h : doc ∈ insertAll docs ds) : doc ∈ docs ∨ doc ∈ ds := by
  induction docs generalizing ds with
  | nil => exact .inr h
  | cons d docs ih =>
      rcases ih h with h | h
      · exact .inl (List.mem_cons_of_mem d h)
      · rcases mem_insertInto h with rfl | h
        · exact .inl List.mem_cons_self
        · exact .inr h

/-- An import into an empty store leaves the documents that have ids of their own. -/
theorem mem_insertAll_nil_iff
    (hids : ∀ doc ∈ docs, ∀ doc' ∈ docs, doc.id = doc'.id → doc = doc') :
    doc ∈ insertAll docs [] ↔ doc ∈ docs := by
  constructor
  · intro h
    exact (mem_or_mem_of_mem_insertAll h).elim id fun h => nomatch h
  · intro h
    exact List.mem_of_find?_eq_some (find?_insertAll_of_mem hids h [])

/-! ## Deletes -/

/-- Deletes the documents with some ids. -/
def eraseAll (ids : List String) (ds : List IndexDocument) : List IndexDocument :=
  ds.filter fun d => d.id ∉ ids

/-- How many deletes find a document, one after the other. -/
def deletions : List String → List IndexDocument → Nat
  | [], _ => 0
  | id :: ids, ds =>
      (if (ds.find? (·.id = id)).isSome then 1 else 0) + deletions ids (eraseAll [id] ds)

@[simp] theorem eraseAll_nil (ds : List IndexDocument) : eraseAll [] ds = ds := by
  simp [eraseAll]

theorem documents_erase (s : MemoryStore) (id : String) :
    (s.erase id).documents = eraseAll [id] s.documents := by
  simp [erase, eraseAll]

theorem eraseAll_eraseAll (ids ids' : List String) (ds : List IndexDocument) :
    eraseAll ids' (eraseAll ids ds) = eraseAll (ids ++ ids') ds := by
  simp [eraseAll, List.filter_filter, Bool.and_comm]

theorem find?_eraseAll (ids : List String) (ds : List IndexDocument) (id : String) :
    (eraseAll ids ds).find? (·.id = id) =
      if id ∈ ids then none else ds.find? (·.id = id) := by
  rw [eraseAll, List.find?_filter]
  split
  · rename_i h
    refine List.find?_eq_none.2 fun d _ hd => ?_
    simp only [decide_eq_true_eq] at hd
    exact hd.1 (hd.2 ▸ h)
  · rename_i h
    congr 1
    funext d
    by_cases hd : d.id = id
    · simp [hd, h]
    · simp [hd]

theorem eraseAll_perm (hp : ids.Perm ids') (ds : List IndexDocument) :
    eraseAll ids ds = eraseAll ids' ds := by
  simp only [eraseAll, hp.mem_iff]

theorem deletions_perm (hp : ids.Perm ids') (ds : List IndexDocument) :
    deletions ids ds = deletions ids' ds := by
  induction hp generalizing ds with
  | nil => rfl
  | cons id _ ih => rw [deletions, deletions, ih]
  | swap id id' ids =>
      simp only [deletions, eraseAll_eraseAll, find?_eraseAll]
      rw [eraseAll_perm (List.perm_append_comm : ([id'] ++ [id]).Perm ([id] ++ [id']))]
      by_cases h : id = id'
      · rw [h]
      · simp [h, Ne.symm h, Nat.add_left_comm]
  | trans _ _ ih ih' => rw [ih, ih']

end SymbolIndex.MemoryStore
