-- SUMMARY: The calls of a bulk run: the collection first, then the documents of the listed files in full batches, in their order.
import SymbolIndex.Proofs.Bulk.Contents
import SymbolIndex.Proofs.Store.Calls

/-!
# Calls of a bulk run

Which batches a run imports follows from the listing, not from the answers of the
store. At every moment the batches that were imported and the documents that wait
come to the documents of the entries taken so far. Each of those batches is full,
and what waits is too short for one.
-/

namespace SymbolIndex

variable {σ : Type}

/-- The number of documents in a full batch. -/
def Config.fullBatch (config : Config) : Nat := max config.batchSize.toNat 1

/-! ## Steps -/

namespace Listed

variable {parse : Parser} {fs : FileSystem} {config : Config} {root path : Path}

theorem document?_of_not_eligible (h : config.isEligible fs root path = false) :
    (Listed.file path).document? parse fs config root = none := by
  simp [document?, h]

theorem document?_of_error {e : Error} (h : buildDocument parse fs config root path = .error e) :
    (Listed.file path).document? parse fs config root = none := by
  simp [document?, h, Except.toOption]

theorem document?_of_ok {doc : IndexDocument} (h : config.isEligible fs root path = true)
    (hbuild : buildDocument parse fs config root path = .ok doc) :
    (Listed.file path).document? parse fs config root = some doc := by
  simp [document?, h, hbuild, Except.toOption]

end Listed

namespace BulkRun

section

variable (ops : DocumentStore σ) (run : BulkRun σ)

@[simp] theorem batch_flush : (flush ops run).value.batch = [] := by
  unfold flush
  cases hempty : run.batch.isEmpty with
  | true => simpa using hempty
  | false =>
      simp only [Bool.false_eq_true, if_false, Logged.value_bind]
      cases (ops.importDocuments run.batch run.store).value.1 <;> rfl

@[simp] theorem batch_enter (fs : FileSystem) (root path : Path) :
    (run.enter fs root path).value.batch = run.batch := by
  obtain ⟨subsystem, henter⟩ := run.exists_value_enter fs root path
  rw [henter]

@[simp] theorem batch_announce (config : Config) :
    (run.announce config).value.batch = run.batch := by
  obtain ⟨announced, hannounce⟩ := run.exists_value_announce config
  rw [hannounce]

def push (doc : IndexDocument) : BulkRun σ := { run with batch := run.batch ++ [doc] }

@[simp] theorem batch_push (doc : IndexDocument) : (run.push doc).batch = run.batch ++ [doc] := rfl

/-- Adds a document to the batch, and imports the batch if it is full then. -/
def add (config : Config) (doc : IndexDocument) : BulkRun σ :=
  if (run.push doc).batch.length < config.batchSize.toNat then run.push doc
  else ((flush ops (run.push doc)).value.announce config).value

variable {parse : Parser} {fs : FileSystem} {config : Config} {root path : Path}

theorem value_take_of_not_eligible (h : config.isEligible fs root path = false) :
    (take ops parse fs config root run (.file path)).value = run := by
  simp [take, h]

theorem value_take_of_error (h : config.isEligible fs root path = true) {e : Error}
    (hbuild : buildDocument parse fs config root path = .error e) :
    (take ops parse fs config root run (.file path)).value =
      let entered := (run.enter fs root path).value
      { entered with report := { entered.report with errors := entered.report.errors + 1 } } := by
  simp [take, h, hbuild]

theorem value_take_of_ok (h : config.isEligible fs root path = true) {doc : IndexDocument}
    (hbuild : buildDocument parse fs config root path = .ok doc) :
    (take ops parse fs config root run (.file path)).value =
      (run.enter fs root path).value.add ops config doc := by
  simp only [take, h, Bool.not_true, Bool.false_eq_true, if_false, Logged.value_bind,
    value_buildDocumentLogged, hbuild]
  exact apply_ite Logged.value _ _ _

end

/-! ## The record of a run -/

/-- The run with a record of the calls beside its store. -/
def withCalls (run : BulkRun σ) (calls : List StoreCall) : BulkRun (σ × List StoreCall) where
  store := (run.store, calls)
  batch := run.batch
  report := run.report
  subsystem := run.subsystem
  announced := run.announced

@[simp] theorem batch_withCalls (run : BulkRun σ) (calls : List StoreCall) :
    (run.withCalls calls).batch = run.batch := rfl

theorem push_withCalls (run : BulkRun σ) (calls : List StoreCall) (doc : IndexDocument) :
    (run.withCalls calls).push doc = (run.push doc).withCalls calls := rfl

/-- The batches that a flush imports: none if no document waits. -/
def batchesOfFlush (waiting : List IndexDocument) : List (List IndexDocument) :=
  if waiting.isEmpty then [] else [waiting]

/-- The batches that are imported when a document comes: the one that it fills. -/
def batchesOfAdd (config : Config) (waiting : List IndexDocument) (doc : IndexDocument) :
    List (List IndexDocument) :=
  if (waiting ++ [doc]).length < config.batchSize.toNat then [] else [waiting ++ [doc]]

/-- The batches that are imported when an entry is taken that has this document,
or none. -/
def batchesOfTake (config : Config) (waiting : List IndexDocument) :
    Option IndexDocument → List (List IndexDocument)
  | none => []
  | some doc => batchesOfAdd config waiting doc

variable (ops : DocumentStore σ) (run : BulkRun σ) (calls : List StoreCall)

theorem flush_recording :
    (flush ops.recording (run.withCalls calls)).value =
      (flush ops run).value.withCalls
        (calls ++ (batchesOfFlush run.batch).map .importDocuments) := by
  unfold flush batchesOfFlush
  cases hempty : run.batch.isEmpty with
  | true => simp [withCalls, hempty]
  | false =>
      simp only [withCalls, hempty, Bool.false_eq_true, if_false, Logged.value_bind,
        DocumentStore.recording, DocumentStore.value_noted]
      cases (ops.importDocuments run.batch run.store).value.1 <;> rfl

theorem enter_recording (fs : FileSystem) (root path : Path) :
    ((run.withCalls calls).enter fs root path).value =
      (run.enter fs root path).value.withCalls calls := by
  unfold enter
  cases fs.relativePath path root with
  | error e => rfl
  | ok relative =>
      by_cases hsame : subsystemOf relative = run.subsystem
      · simp [withCalls, hsame]
      · simp [withCalls, hsame]

theorem announce_recording (config : Config) :
    ((run.withCalls calls).announce config).value =
      (run.announce config).value.withCalls calls := by
  unfold announce
  split <;> rfl

theorem add_recording (config : Config) (doc : IndexDocument) :
    (run.withCalls calls).add ops.recording config doc =
      (run.add ops config doc).withCalls
        (calls ++ (batchesOfAdd config run.batch doc).map .importDocuments) := by
  unfold add batchesOfAdd
  rw [push_withCalls, batch_withCalls, batch_push]
  split
  · rw [List.map_nil, List.append_nil]
  · have hflush : batchesOfFlush (run.batch ++ [doc]) = [run.batch ++ [doc]] := by
      simp [batchesOfFlush]
    rw [flush_recording, announce_recording, batch_push, hflush]

theorem take_recording (parse : Parser) (fs : FileSystem) (config : Config) (root : Path)
    (l : Listed) :
    (take ops.recording parse fs config root (run.withCalls calls) l).value =
      (take ops parse fs config root run l).value.withCalls
        (calls ++ (batchesOfTake config run.batch (l.document? parse fs config root)).map
          .importDocuments) := by
  cases l with
  | notText name => simp [take, Listed.document?, batchesOfTake]
  | problem text => simp [take, Listed.document?, batchesOfTake]
  | file path =>
      cases heligible : config.isEligible fs root path with
      | false =>
          rw [value_take_of_not_eligible _ _ heligible, value_take_of_not_eligible _ _ heligible,
            Listed.document?_of_not_eligible heligible]
          simp [batchesOfTake]
      | true =>
          cases hbuild : buildDocument parse fs config root path with
          | error e =>
              rw [value_take_of_error _ _ heligible hbuild,
                value_take_of_error _ _ heligible hbuild, enter_recording,
                Listed.document?_of_error hbuild]
              simp [batchesOfTake, withCalls]
          | ok doc =>
              rw [value_take_of_ok _ _ heligible hbuild, value_take_of_ok _ _ heligible hbuild,
                enter_recording, add_recording, batch_enter,
                Listed.document?_of_ok heligible hbuild]
              rfl

/-! ## Batches -/

/-- The batches that were imported are full and come to `docs` with the documents
that wait, which are too few for another one. -/
structure IsBatched (run : BulkRun σ) (config : Config) (docs : List IndexDocument)
    (batches : List (List IndexDocument)) : Prop where
  flatten : batches.flatten ++ run.batch = docs
  full : ∀ b ∈ batches, b.length = config.fullBatch
  short : run.batch.length < config.fullBatch

namespace IsBatched

variable {run} {config : Config} {docs : List IndexDocument}
  {batches : List (List IndexDocument)}

/-- What the batch alone decides does not depend on the rest of the run. -/
theorem of_batch_eq {run' : BulkRun σ} (h : run.IsBatched config docs batches)
    (hbatch : run'.batch = run.batch) : run'.IsBatched config docs batches :=
  ⟨hbatch ▸ h.flatten, h.full, hbatch ▸ h.short⟩

theorem add (h : run.IsBatched config docs batches) (doc : IndexDocument) :
    (run.add ops config doc).IsBatched config (docs ++ [doc])
      (batches ++ batchesOfAdd config run.batch doc) := by
  have hshort := h.short
  have hlonger : batches.flatten ++ (run.push doc).batch = docs ++ [doc] := by
    rw [batch_push, ← h.flatten, List.append_assoc]
  have hlength : (run.push doc).batch.length = run.batch.length + 1 := by simp
  unfold BulkRun.add batchesOfAdd
  rw [Config.fullBatch] at hshort
  rw [← batch_push]
  split
  · rename_i hroom
    rw [List.append_nil]
    exact ⟨hlonger, h.full, Nat.lt_of_lt_of_le hroom (Nat.le_max_left _ _)⟩
  · rename_i hfull
    refine ⟨?_, ?_, ?_⟩
    · rw [batch_announce, batch_flush, List.append_nil, List.flatten_append,
        List.flatten_singleton, hlonger]
    · intro b hb
      rcases List.mem_append.1 hb with hb | hb
      · exact h.full b hb
      · rw [List.mem_singleton.1 hb, hlength, Config.fullBatch]
        omega
    · rw [batch_announce, batch_flush, List.length_nil, Config.fullBatch]
      omega

/-- A listed entry adds its document. -/
theorem take (h : run.IsBatched config docs batches) (parse : Parser) (fs : FileSystem)
    (root : Path) (l : Listed) :
    (BulkRun.take ops parse fs config root run l).value.IsBatched config
      (docs ++ (l.document? parse fs config root).toList)
      (batches ++ batchesOfTake config run.batch (l.document? parse fs config root)) := by
  have hnone : ∀ run' : BulkRun σ, run'.batch = run.batch →
      run'.IsBatched config (docs ++ []) (batches ++ []) := by
    intro run' hbatch
    rw [List.append_nil, List.append_nil]
    exact h.of_batch_eq hbatch
  cases l with
  | notText name => exact hnone _ rfl
  | problem text => exact hnone _ rfl
  | file path =>
      cases heligible : config.isEligible fs root path with
      | false =>
          rw [value_take_of_not_eligible _ _ heligible,
            Listed.document?_of_not_eligible heligible]
          exact hnone _ rfl
      | true =>
          have henter := run.batch_enter fs root path
          cases hbuild : buildDocument parse fs config root path with
          | error e =>
              rw [value_take_of_error _ _ heligible hbuild, Listed.document?_of_error hbuild]
              exact hnone _ henter
          | ok doc =>
              rw [value_take_of_ok _ _ heligible hbuild, Listed.document?_of_ok heligible hbuild]
              have hadded := (h.of_batch_eq henter).add ops doc
              rwa [henter] at hadded

/-- The listed entries add their documents, and the batches that these fill are
imported. -/
theorem takeAll (h : run.IsBatched config docs batches) (calls : List StoreCall)
    (parse : Parser) (fs : FileSystem) (root : Path) (listed : List Listed) :
    ∃ new,
      listed.foldl (fun run l => (BulkRun.take ops.recording parse fs config root run l).value)
          (run.withCalls calls) =
        (listed.foldl (fun run l => (BulkRun.take ops parse fs config root run l).value)
          run).withCalls (calls ++ new.map .importDocuments) ∧
      (listed.foldl (fun run l => (BulkRun.take ops parse fs config root run l).value)
        run).IsBatched config
          (docs ++ listed.filterMap (Listed.document? parse fs config root)) (batches ++ new) := by
  induction listed generalizing run calls docs batches with
  | nil => exact ⟨[], by simp, by simpa using h⟩
  | cons l listed ih =>
      obtain ⟨new, hcalls, hbatched⟩ := ih (h.take ops parse fs root l)
        (calls ++ (batchesOfTake config run.batch (l.document? parse fs config root)).map
          .importDocuments)
      refine ⟨batchesOfTake config run.batch (l.document? parse fs config root) ++ new, ?_, ?_⟩
      · rw [List.foldl_cons, take_recording, hcalls, List.foldl_cons, List.map_append,
          List.append_assoc]
      · have hdocs : (l :: listed).filterMap (Listed.document? parse fs config root) =
            (l.document? parse fs config root).toList ++
              listed.filterMap (Listed.document? parse fs config root) := by
          rw [List.filterMap_eq_flatMap_toList, List.flatMap_cons,
            ← List.filterMap_eq_flatMap_toList]
        rw [List.foldl_cons, hdocs, ← List.append_assoc, ← List.append_assoc]
        exact hbatched

/-- A last flush imports what waits, so that only the last batch may be short. -/
theorem flush (h : run.IsBatched config docs batches) :
    (batches ++ batchesOfFlush run.batch).flatten = docs ∧
    (∀ b ∈ batches ++ batchesOfFlush run.batch, b ≠ [] ∧ b.length ≤ config.fullBatch) ∧
    ∀ b ∈ (batches ++ batchesOfFlush run.batch).dropLast, b.length = config.fullBatch := by
  have hpos : 0 < config.fullBatch := Nat.zero_lt_of_lt h.short
  have hfull : ∀ b ∈ batches, b ≠ [] ∧ b.length ≤ config.fullBatch := by
    intro b hb
    have hlength := h.full b hb
    exact ⟨List.ne_nil_of_length_pos (by omega), Nat.le_of_eq hlength⟩
  have hflatten := h.flatten
  unfold batchesOfFlush
  by_cases hempty : run.batch = []
  · simp only [hempty, List.isEmpty_nil, if_true, List.append_nil] at hflatten ⊢
    exact ⟨hflatten, hfull, fun b hb => h.full b (List.dropLast_subset _ hb)⟩
  · simp only [List.isEmpty_iff, hempty, if_false]
    refine ⟨?_, ?_, ?_⟩
    · rw [List.flatten_append, List.flatten_singleton, hflatten]
    · intro b hb
      rcases List.mem_append.1 hb with hb | hb
      · exact hfull b hb
      · rw [List.mem_singleton.1 hb]
        exact ⟨hempty, Nat.le_of_lt h.short⟩
    · rw [List.dropLast_concat]
      exact h.full

end IsBatched

end BulkRun

/-! ## Runs -/

section

variable (memory : Nat) (ops : DocumentStore σ) (parse : Parser) (lister : Lister)
  (config : Config) (fs : FileSystem) (root : Path) (reset : Bool) (store : σ)

/-- With room for a batch the documents of the listed files are imported in batches,
of which only the last one may be short. -/
theorem exists_batches_of_listed
    (hensure : (ops.ensureCollection reset store).value.1 = .ok ())
    (hroom : config.HasRoom memory) {listed : List Listed} (hlisted : lister fs root = .ok listed) :
    ∃ (report : BulkReport) (after : σ) (batches : List (List IndexDocument)),
      (bulkIndex memory ops parse lister config fs root reset store).value = (.ok report, after) ∧
      (bulkIndex memory ops.recording parse lister config fs root reset (store, [])).value =
        (.ok report, after, .ensureCollection reset :: batches.map .importDocuments) ∧
      batches.flatten = listed.filterMap (Listed.document? parse fs config root) ∧
      (∀ b ∈ batches, b ≠ [] ∧ b.length ≤ config.fullBatch) ∧
      ∀ b ∈ batches.dropLast, b.length = config.fullBatch := by
  let start : BulkRun σ := { store := (ops.ensureCollection reset store).value.2 }
  have hstart : start.IsBatched config [] [] :=
    ⟨rfl, by simp, Nat.lt_of_lt_of_le Nat.zero_lt_one (Nat.le_max_right _ _)⟩
  obtain ⟨full, hcalls, hbatched⟩ :=
    hstart.takeAll ops [.ensureCollection reset] parse fs root listed
  let last := listed.foldl (fun run l => (run.take ops parse fs config root l).value) start
  refine ⟨(BulkRun.flush ops last).value.report, (BulkRun.flush ops last).value.store,
    full ++ BulkRun.batchesOfFlush last.batch, ?_, ?_, hbatched.flush⟩
  · exact value_bulkIndex_of_listed memory ops parse lister config fs root reset store hensure
      hroom hlisted
  · have hstarted : ({ store := (ops.recording.ensureCollection reset (store, [])).value.2 } :
        BulkRun (σ × List StoreCall)) = start.withCalls [.ensureCollection reset] := rfl
    rw [value_bulkIndex_of_listed memory ops.recording parse lister config fs root reset
      (store, []) hensure hroom hlisted, hstarted, hcalls, BulkRun.flush_recording]
    simp [BulkRun.withCalls, last]

end

/-- A run makes sure of the collection once and first, and ends there if that fails.
Without room for a batch it panics then. Otherwise it imports the documents of the
listed files in their order, however the imports end, in batches of which only the last
one may be short. -/
theorem bulkIndex_calls (memory : Nat) (ops : DocumentStore σ) (parse : Parser) (lister : Lister)
    (config : Config) (fs : FileSystem) (root : Path) (reset : Bool) (store : σ) :
    ∃ (outcome : Exit BulkReport) (after : σ) (calls : List StoreCall),
      (bulkIndex memory ops parse lister config fs root reset store).value = (outcome, after) ∧
      (bulkIndex memory ops.recording parse lister config fs root reset (store, [])).value =
        (outcome, after, .ensureCollection reset :: calls) ∧
      (∀ e, (ops.ensureCollection reset store).value.1 = .error e →
        outcome = .error e ∧ calls = []) ∧
      ((ops.ensureCollection reset store).value.1 = .ok () → ¬ config.HasRoom memory →
        outcome = .panic config.batchPanic ∧ calls = []) ∧
      (∀ e, (ops.ensureCollection reset store).value.1 = .ok () → config.HasRoom memory →
        lister fs root = .error e → outcome = .error e ∧ calls = []) ∧
      ∀ listed, (ops.ensureCollection reset store).value.1 = .ok () → config.HasRoom memory →
        lister fs root = .ok listed →
        (∃ report, outcome = .ok report) ∧
        ∃ batches : List (List IndexDocument),
          calls = batches.map .importDocuments ∧
          batches.flatten = listed.filterMap (Listed.document? parse fs config root) ∧
          (∀ b ∈ batches, b ≠ [] ∧ b.length ≤ config.fullBatch) ∧
          ∀ b ∈ batches.dropLast, b.length = config.fullBatch := by
  cases hensure : (ops.ensureCollection reset store).value.1 with
  | error e =>
      refine ⟨.error e, _, [],
        value_bulkIndex_of_ensure_error memory ops parse lister config fs root reset store hensure,
        value_bulkIndex_of_ensure_error memory ops.recording parse lister config fs root reset
          (store, []) hensure, ?_, nofun, nofun, nofun⟩
      rintro _ ⟨⟩
      exact ⟨rfl, rfl⟩
  | ok _ =>
      by_cases hroom : config.HasRoom memory
      · cases hlister : lister fs root with
        | error e =>
            refine ⟨.error e, _, [],
              value_bulkIndex_of_lister_error memory ops parse lister config fs root reset store
                hensure hroom hlister,
              value_bulkIndex_of_lister_error memory ops.recording parse lister config fs root
                reset (store, []) hensure hroom hlister, nofun, fun _ hno => absurd hroom hno, ?_,
              nofun⟩
            rintro _ - - ⟨⟩
            exact ⟨rfl, rfl⟩
        | ok listed =>
            obtain ⟨report, after, batches, hrun, hrecording, hbatches⟩ :=
              exists_batches_of_listed memory ops parse lister config fs root reset store hensure
                hroom hlister
            refine ⟨.ok report, after, _, hrun, hrecording, nofun, fun _ hno => absurd hroom hno,
              nofun, ?_⟩
            rintro _ - - ⟨⟩
            exact ⟨⟨report, rfl⟩, batches, rfl, hbatches⟩
      · exact ⟨.panic config.batchPanic, _, [],
          value_bulkIndex_of_no_room memory ops parse lister config fs root reset store hensure
            hroom,
          value_bulkIndex_of_no_room memory ops.recording parse lister config fs root reset
            (store, []) hensure hroom,
          nofun, fun _ _ => ⟨rfl, rfl⟩, fun _ _ hyes => absurd hyes hroom,
          fun _ _ hyes => absurd hyes hroom⟩

/-- The first import fails and one of the listed files is gone, and the last file is
imported all the same. Other runs fail to make sure of the collection or to list
the files. -/
theorem bulkIndex_calls_failedImport :
    let fs : FileSystem :=
      ⟨[([[114]], .directory), ([[114], Utf8.encode "a.txt"], .file [120] 5),
        ([[114], Utf8.encode "b.txt"], .file [120] 5),
        ([[114], Utf8.encode "c.txt"], .file [120] 5)], []⟩
    let root : Path := .ofString "/r"
    let config : Config := { batchSize := 2 }
    let lister : Lister :=
      .fixed (["/r/a.txt", "/r/gone.txt", "/r/b.txt", "/r/c.txt"].map Path.ofString)
    let ops := FaultyStore.operations
    let closed : DocumentStore FaultyStore :=
      { ops with ensureCollection := fun _ s => .quiet (.error (.io .nulInArgument), s) }
    let blind : Lister := fun _ _ => .error (.io .nulInArgument)
    (∃ (report : BulkReport) (after : FaultyStore) (batches : List (List IndexDocument)),
      (bulkIndex 1000 ops.recording (fun _ => none) lister config fs root false
        ({ faults := [true] }, [])).value =
          (.ok report, after, .ensureCollection false :: batches.map .importDocuments) ∧
      (∃ doc, buildDocument (fun _ => none) fs config root (.ofString "/r/c.txt") = .ok doc ∧
        ∃ b ∈ batches, doc ∈ b) ∧
      ∀ b ∈ batches.dropLast, b.length = 2) ∧
    (∃ after,
      (bulkIndex 1000 closed.recording (fun _ => none) lister config fs root true ({}, [])).value =
        (.error (.io .nulInArgument), after, [.ensureCollection true])) ∧
    ∃ after,
      (bulkIndex 1000 ops.recording (fun _ => none) blind config fs root true ({}, [])).value =
        (.error (.io .nulInArgument), after, [.ensureCollection true]) := by
  intro fs root config lister ops closed blind
  have hroom : config.HasRoom 1000 := by decide
  refine ⟨?_, ?_, ?_⟩
  · obtain ⟨_, after, _, -, hrun, -, -, -, hlisted⟩ := bulkIndex_calls 1000 ops (fun _ => none)
      lister config fs root false { faults := [true] }
    obtain ⟨⟨report, rfl⟩, batches, rfl, hdocs, -, hfull⟩ := hlisted _ rfl hroom rfl
    have hindexes : config.Indexes fs root (.ofString "/r/c.txt") :=
      ⟨by decide +kernel, [120], 5, by decide +kernel, by decide⟩
    obtain ⟨doc, hdoc, -⟩ := hindexes.exists_document fun _ => none
    have hmem : doc ∈ batches.flatten := by
      rw [hdocs]
      exact mem_documents_iff.2 ⟨_, by simp, hindexes, hdoc⟩
    exact ⟨report, after, batches, hrun, ⟨doc, hdoc, List.mem_flatten.1 hmem⟩, hfull⟩
  · obtain ⟨_, after, _, -, hrun, hensure, -, -, -⟩ := bulkIndex_calls 1000 closed (fun _ => none)
      lister config fs root true {}
    obtain ⟨rfl, rfl⟩ := hensure _ rfl
    exact ⟨after, hrun⟩
  · obtain ⟨_, after, _, -, hrun, -, -, hlister, -⟩ := bulkIndex_calls 1000 ops (fun _ => none)
      blind config fs root true {}
    obtain ⟨rfl, rfl⟩ := hlister _ rfl hroom rfl
    exact ⟨after, hrun⟩

/-- With the largest batches no document of a listing is imported. -/
theorem bulkIndex_calls_largestBatch :
    let fs : FileSystem :=
      ⟨[([[114]], .directory), ([[114], Utf8.encode "a.txt"], .file [120] 5)], []⟩
    let root : Path := .ofString "/r"
    let a : Path := .ofString "/r/a.txt"
    let config : Config := { batchSize := 18446744073709551615 }
    ([Listed.file a].filterMap (Listed.document? (fun _ => none) fs config root)).length = 1 ∧
      ∃ after,
        (bulkIndex (1 <<< 47) FaultyStore.operations.recording (fun _ => none) (.fixed [a]) config
          fs root false ({}, [])).value =
            (.panic .capacityOverflow, after, [.ensureCollection false]) := by
  intro fs root a config
  have hroom : ¬ config.HasRoom (1 <<< 47) := by decide
  have hindexes : config.Indexes fs root a :=
    ⟨by decide +kernel, [120], 5, by decide +kernel, by decide⟩
  obtain ⟨doc, hdoc, -⟩ := hindexes.exists_document fun _ => none
  have hpanic : config.batchPanic = .capacityOverflow := by decide
  constructor
  · rw [List.filterMap_cons_some (Listed.document?_of_ok hindexes.isEligible hdoc)]
    rfl
  · refine ⟨(FaultyStore.operations.ensureCollection false {}).value.2, ?_⟩
    rw [value_bulkIndex_of_no_room _ _ _ _ _ _ _ _ _ rfl hroom, hpanic]
    rfl

end SymbolIndex
