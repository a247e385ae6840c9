-- SUMMARY: A document store in memory that keeps a record of its calls.
import SymbolIndex.Store.Basic
import SymbolIndex.Text.Lines

/-! # Store in memory

The documents are kept in ascending order of their ids. The calls are recorded,
and imports or deletes can be made to fail. -/

namespace SymbolIndex

structure MemoryStore where
  /-- In ascending order of the ids, each id once. -/
  documents : List IndexDocument := []
  /-- The ids of each import, in order. -/
  imports : List (List String) := []
  /-- The ids of the deletes, in order. -/
  deletes : List String := []
  /-- The `reset` flags of the calls that make sure of the collection. -/
  ensures : List Bool := []
  failImports : Bool := false
  failDeletes : Bool := false
  deriving DecidableEq, Repr

namespace MemoryStore

/-! ## Documents -/

/-- Inserts a document in its place, or in the place of the one with its id. -/
def insertInto (doc : IndexDocument) : List IndexDocument → List IndexDocument
  | [] => [doc]
  | d :: ds =>
      if doc.id = d.id then doc :: ds
      else if doc.id < d.id then doc :: d :: ds
      else d :: insertInto doc ds

def get? (s : MemoryStore) (id : String) : Option IndexDocument :=
  s.documents.find? (·.id = id)

def insert (s : MemoryStore) (doc : IndexDocument) : MemoryStore :=
  { s with documents := insertInto doc s.documents }

def erase (s : MemoryStore) (id : String) : MemoryStore :=
  { s with documents := s.documents.filter (·.id ≠ id) }

def clear (s : MemoryStore) : MemoryStore := { s with documents := [] }

theorem mem_insertInto {doc e : IndexDocument} {ds : List IndexDocument}
    (h : e ∈ insertInto doc ds) : e = doc ∨ e ∈ ds := by
  induction ds with
  | nil => simpa [insertInto] using h
  | cons d ds ih =>
      unfold insertInto at h
      split at h
      · simp only [List.mem_cons] at h ⊢
        exact h.elim .inl fun h => .inr (.inr h)
      · split at h
        · simpa using h
        · simp only [List.mem_cons] at h ⊢
          cases h with
          | inl h => exact .inr (.inl h)
          | inr h => exact (ih h).elim .inl fun h => .inr (.inr h)

theorem find?_insertInto (doc : IndexDocument) (ds : List IndexDocument) (id : String) :
    (insertInto doc ds).find? (·.id = id) =
      if doc.id = id then some doc else ds.find? (·.id = id) := by
  induction ds with
  | nil => by_cases h : doc.id = id <;> simp [insertInto, h]
  | cons d ds ih =>
      unfold insertInto
      split
      · rename_i h
        by_cases hd : doc.id = id
        · simp [hd]
        · simp [hd, ← h]
      · split
        · by_cases hd : doc.id = id <;> simp [hd]
        · rename_i h _
          by_cases hd : d.id = id
          · have hne : doc.id ≠ id := fun e => h (e.trans hd.symm)
            simp [hd, hne]
          · simp [hd, ih]

@[simp] theorem get?_insert (s : MemoryStore) (doc : IndexDocument) (id : String) :
    (s.insert doc).get? id = if doc.id = id then some doc else s.get? id :=
  find?_insertInto doc s.documents id

@[simp] theorem get?_erase (s : MemoryStore) (id id' : String) :
    (s.erase id).get? id' = if id' = id then none else s.get? id' := by
  unfold erase get?
  rw [List.find?_filter]
  split
  · rename_i h
    subst h
    simp
  · rename_i h
    congr 1
    funext d
    by_cases hd : d.id = id'
    · simp [hd, h]
    · simp [hd]

@[simp] theorem get?_clear (s : MemoryStore) (id : String) : s.clear.get? id = none := rfl

/-! ## Searching -/

/-- The value of the first parameter with a name; empty if there is none. -/
def param (params : List (String × String)) (name : String) : String :=
  ((params.find? (·.1 = name)).map Prod.snd).getD ""

/-- The parts of a list between the occurrences of a list that is not empty. -/
def splitOnList [DecidableEq α] (sep : List α) : (fuel : Nat) → List α → List (List α)
  | 0, xs => [xs]
  | _, [] => [[]]
  | fuel + 1, x :: xs =>
      match Text.stripFront? sep (x :: xs) with
      | some rest => [] :: splitOnList sep fuel rest
      | none =>
          match splitOnList sep fuel xs with
          | [] => [[x]]
          | part :: parts => (x :: part) :: parts

/-- The subsystems that a filter asks for. -/
def wantedSubsystems (filter : String) : List String :=
  ((splitOnList " && ".toList filter.toList.length filter.toList).filterMap
    (Text.stripFront? "subsystem:=".toList)).map String.ofList

/-- The query names one of the document's types, or is `*`, and all filters on
the subsystem hold. -/
def isHit (params : List (String × String)) (d : IndexDocument) : Bool :=
  let q := param params "q"
  (q = "*" || d.classNames.contains q) &&
    (wantedSubsystems (param params "filter_by")).all (d.subsystem = ·)

def hitOf (d : IndexDocument) : SearchHit :=
  { document := {
      id := d.id, path := d.path, relativePath := d.relativePath, filename := d.filename
      extension := d.extension, subsystem := d.subsystem, classNames := d.classNames } }

def responseTo (s : MemoryStore) (params : List (String × String)) : SearchResponse :=
  let hits := (s.documents.filter (isHit params)).map hitOf
  { found := .ofNat hits.length, hits }

/-! ## Operations -/

/-- The failure that a store reports when it is made to fail. -/
def injected (operation : String) : Error := .remoteStatus operation 500 "injected"

def importDocuments (docs : List IndexDocument) (s : MemoryStore) :
    Result ImportSummary × MemoryStore :=
  let s := { s with imports := s.imports ++ [docs.map (·.id)] }
  if s.failImports then (.error (injected "import"), s)
  else (.ok { imported := docs.length }, docs.foldl insert s)

def deleteDocument (id : String) (s : MemoryStore) : Result Bool × MemoryStore :=
  let s := { s with deletes := s.deletes ++ [id] }
  if s.failDeletes then (.error (injected "delete"), s)
  else (.ok (s.get? id).isSome, s.erase id)

def ensureCollection (reset : Bool) (s : MemoryStore) : Result Unit × MemoryStore :=
  let s := { s with ensures := s.ensures ++ [reset] }
  (.ok (), if reset then s.clear else s)

/-- The store as a set of operations; none of them logs anything. -/
def operations : DocumentStore MemoryStore where
  health s := Logged.quiet (.ok true, s)
  stats s := Logged.quiet (.ok (some ⟨"memory", s.documents.length⟩), s)
  ensureCollection reset s := Logged.quiet (ensureCollection reset s)
  importDocuments docs s := Logged.quiet (importDocuments docs s)
  deleteDocument id s := Logged.quiet (deleteDocument id s)
  search params s := Logged.quiet (.ok (s.responseTo params), s)

end MemoryStore

end SymbolIndex
