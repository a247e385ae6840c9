-- SUMMARY: Bulk runs that fail: what they fail of, and what they leave in the store in memory.
import SymbolIndex.Proofs.Bulk.Batches

/-!
# Failed bulk runs

A run fails before its first file or not at all: it cannot make sure of the
collection, has no room for a batch, or cannot list the files. The collection comes
first, and a reset empties it there. So a listing that fails finds an empty collection
after a reset, and the old one otherwise.
-/

namespace SymbolIndex

/-! ## Outcomes -/

section

variable {σ : Type} (memory : Nat) (ops : DocumentStore σ) (parse : Parser) (lister : Lister)
  (config : Config) (fs : FileSystem) (root : Path) (reset : Bool) (store : σ)

/-- All that a run can come to. -/
theorem bulkIndex_cases :
    let ensured := (ops.ensureCollection reset store).value
    let outcome := (bulkIndex memory ops parse lister config fs root reset store).value
    (∃ e, ensured.1 = .error e ∧ outcome = (.error e, ensured.2)) ∨
    (ensured.1 = .ok () ∧ ¬ config.HasRoom memory ∧
      outcome = (.panic config.batchPanic, ensured.2)) ∨
    (∃ e, ensured.1 = .ok () ∧ config.HasRoom memory ∧ lister fs root = .error e ∧
      outcome = (.error e, ensured.2)) ∨
    ∃ listed report after, ensured.1 = .ok () ∧ config.HasRoom memory ∧
      lister fs root = .ok listed ∧ outcome = (.ok report, after) := by
  intro ensured outcome
  cases hensure : ensured.1 with
  | error e =>
      exact .inl ⟨e, rfl, value_bulkIndex_of_ensure_error memory ops parse lister config fs root
        reset store hensure⟩
  | ok _ =>
      by_cases hroom : config.HasRoom memory
      · cases hlister : lister fs root with
        | error e =>
            exact .inr (.inr (.inl ⟨e, rfl, hroom, rfl, value_bulkIndex_of_lister_error memory ops
              parse lister config fs root reset store hensure hroom hlister⟩))
        | ok listed =>
            exact .inr (.inr (.inr ⟨listed, _, _, rfl, hroom, rfl, value_bulkIndex_of_listed memory
              ops parse lister config fs root reset store hensure hroom hlister⟩))
      · exact .inr (.inl ⟨rfl, hroom, value_bulkIndex_of_no_room memory ops parse lister config fs
          root reset store hensure hroom⟩)

/-- A run goes through once the collection is there, a batch has room and the files are
listed. -/
theorem exists_report_iff :
    (∃ report, (bulkIndex memory ops parse lister config fs root reset store).value.1 =
        .ok report) ↔
      (ops.ensureCollection reset store).value.1 = .ok () ∧ config.HasRoom memory ∧
        ∃ listed, lister fs root = .ok listed := by
  rcases bulkIndex_cases memory ops parse lister config fs root reset store with
    ⟨e, hensure, hrun⟩ | ⟨-, hroom, hrun⟩ | ⟨e, -, -, hlister, hrun⟩ |
      ⟨listed, report, after, hensure, hroom, hlister, hrun⟩
  · simp [hrun, hensure]
  · simp [hrun, hroom]
  · simp [hrun, hlister]
  · simp [hrun, hensure, hroom, hlister]

end

/-- A root may be written with any number of slashes, but not be listed then. -/
theorem Lister.repository_of_slashes {repository? : Option Repository} {fs : FileSystem}
    {b : UInt8} {n : Nat} (hb : b ≠ 0) (hn : argumentLimit ≤ n) :
    repository repository? fs ⟨47 :: b :: List.replicate n 47⟩ =
      .error (.io .argumentTooLong) := by
  have hnul : (0 : UInt8) ∉ 47 :: b :: List.replicate n 47 := by
    simp [List.mem_replicate, hb.symm]
  have hlong : argumentLimit < (47 :: b :: List.replicate n (47 : UInt8)).length := by
    simp only [List.length_cons, List.length_replicate]
    omega
  rw [repository, if_neg hnul, if_pos hlong]

/-! ## The store in memory -/

/-- A run over the store in memory fails exactly if a batch has room and the listing
fails. It has imported and deleted nothing then. The documents are those from before,
unless the run was to reset the collection: then there are none. -/
theorem bulkIndex_failure (memory : Nat) (parse : Parser) (lister : Lister) (config : Config)
    (fs : FileSystem) (root : Path) (reset : Bool) (s : MemoryStore) :
    ∃ (outcome : Exit BulkReport) (after : MemoryStore),
      (bulkIndex memory MemoryStore.operations parse lister config fs root reset s).value =
        (outcome, after) ∧
      (∀ e, outcome = .error e ↔ config.HasRoom memory ∧ lister fs root = .error e) ∧
      ∀ e, outcome = .error e →
        after.documents = (if reset then [] else s.documents) ∧
        after.imports = s.imports ∧ after.deletes = s.deletes := by
  rcases bulkIndex_cases memory MemoryStore.operations parse lister config fs root reset s with
    ⟨e, hensure, -⟩ | ⟨-, hroom, hrun⟩ | ⟨e, -, hroom, hlister, hrun⟩ |
      ⟨listed, report, after, -, -, hlister, hrun⟩
  · cases hensure
  · exact ⟨_, _, hrun, fun e => by simp [hroom], nofun⟩
  · refine ⟨.error e, _, hrun, ?_, ?_⟩
    · intro e'
      simp [hroom, hlister]
    · intro e' _
      cases reset <;> exact ⟨rfl, rfl, rfl⟩
  · exact ⟨.ok report, after, hrun, fun e => by simp [hlister], nofun⟩

/-- Without a reset the documents outlast a root that cannot be listed. -/
theorem bulkIndex_failure_kept :
    let s : MemoryStore := { documents := [{ id := "kept" }] }
    let root : Path := ⟨[47, 114, 0]⟩
    ∃ after,
      (bulkIndex 30000 MemoryStore.operations (fun _ => none) (.repository none) {} ⟨[], []⟩ root
        false s).value = (.error (.io .nulInArgument), after) ∧
      after.documents = [{ id := "kept" }] := by
  intro s root
  have hroom : ({} : Config).HasRoom 30000 := by decide
  have hlister : Lister.repository none ⟨[], []⟩ root = .error (.io .nulInArgument) := by
    simp [Lister.repository, root]
  obtain ⟨outcome, after, hrun, hfails, hleft⟩ := bulkIndex_failure 30000 (fun _ => none)
    (.repository none) {} ⟨[], []⟩ root false s
  obtain rfl := (hfails _).2 ⟨hroom, hlister⟩
  exact ⟨after, hrun, (hleft _ rfl).1⟩

/-- A root in too many slashes is that of a file all the same, but it cannot be listed.
A run that was to reset the collection loses the document. -/
theorem bulkIndex_failure_reset :
    let s : MemoryStore := { documents := [{ id := "kept" }] }
    let root : Path := ⟨47 :: 114 :: List.replicate 140000 47⟩
    ∃ after,
      (bulkIndex 30000 MemoryStore.operations (fun _ => none) (.repository none) {}
        ⟨[([[114]], .directory), ([[114], Utf8.encode "a.txt"], .file [97] 5)], []⟩ root true
        s).value = (.error (.io .argumentTooLong), after) ∧
      after.documents ≠ s.documents := by
  intro s root
  have hroom : ({} : Config).HasRoom 30000 := by decide
  have hlister : ∀ fs, Lister.repository none fs root = .error (.io .argumentTooLong) :=
    fun _ => Lister.repository_of_slashes (by decide) (by decide)
  refine ⟨_, value_bulkIndex_of_lister_error _ _ _ _ _ _ _ _ _ rfl hroom (hlister _), ?_⟩
  simp [s, MemoryStore.operations, MemoryStore.ensureCollection, MemoryStore.clear]

end SymbolIndex
