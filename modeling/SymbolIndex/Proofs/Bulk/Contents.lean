-- SUMMARY: What a bulk run leaves in the store in memory: the documents of the listed files, however they were batched, if there was room for a batch.
import SymbolIndex.Bulk
import SymbolIndex.Proofs.Document.Identity
import SymbolIndex.Proofs.Store.Contents

/-!
# Contents after a bulk run

A batch is only a delay: at every moment the store, with the documents that wait
for their import, holds what it would hold had each of them been imported at
once. So after a run each listed file has its document, and neither the order of
the listing nor the size of the batches shows. Without room for a full batch the
run panics before it lists a file.
-/

namespace SymbolIndex

/-! ## Indexed files -/

/-- The path is indexable and leads to a readable regular file within the size
limit. -/
structure Config.Indexes (config : Config) (fs : FileSystem) (root path : Path) : Prop where
  indexable : config.isIndexable path root = true
  readable : ∃ bytes mtime, fs.content? path = some (bytes, mtime) ∧
    bytes.length ≤ config.maxFileBytes.toNat

theorem Config.startsWith_of_isIndexable {config : Config} {path root : Path}
    (h : config.isIndexable path root = true) : path.startsWith root = true := by
  unfold isIndexable at h
  cases hstrip : path.stripBase? root with
  | none => simp [hstrip] at h
  | some relative => exact Path.startsWith_of_stripBase? hstrip

namespace Config.Indexes

variable {parse : Parser} {fs : FileSystem} {config : Config} {root path : Path}

theorem isEligible (h : config.Indexes fs root path) : config.isEligible fs root path = true := by
  obtain ⟨bytes, mtime, hcontent, hsize⟩ := h.readable
  simp [Config.isEligible, h.indexable, FileSystem.metadata_of_content? hcontent, hsize]

/-- A file of the index has a document. -/
theorem exists_document (parse : Parser) (h : config.Indexes fs root path) :
    ∃ doc, buildDocument parse fs config root path = .ok doc ∧ fs.IsIdOf root path doc.id := by
  obtain ⟨bytes, mtime, hcontent, -⟩ := h.readable
  obtain ⟨relative, hrel⟩ := fs.exists_relativePath (startsWith_of_isIndexable h.indexable)
  have hdoc := buildDocument_of_content parse config hcontent hrel
  exact ⟨_, hdoc, id_of_buildDocument hdoc⟩

/-- An eligible file that can be read is indexed. -/
theorem of_read {bytes : Bytes} (heligible : config.isEligible fs root path = true)
    (hread : fs.read path = .ok bytes) : config.Indexes fs root path := by
  obtain ⟨mtime, hcontent⟩ := FileSystem.content?_of_read hread
  simp only [Config.isEligible, FileSystem.metadata_of_content? hcontent, Bool.and_eq_true,
    decide_eq_true_eq] at heligible
  exact ⟨heligible.1, bytes, mtime, hcontent, heligible.2.2⟩

theorem of_buildDocument {doc : IndexDocument} (heligible : config.isEligible fs root path = true)
    (hdoc : buildDocument parse fs config root path = .ok doc) : config.Indexes fs root path := by
  obtain ⟨-, bytes, -, -, hread, -⟩ := exists_of_buildDocument hdoc
  exact of_read heligible hread

end Config.Indexes

/-! ## Listed entries -/

/-- The document that a listed entry comes to, if it comes to any. -/
def Listed.document? (parse : Parser) (fs : FileSystem) (config : Config) (root : Path) :
    Listed → Option IndexDocument
  | .file path =>
      if config.isEligible fs root path then (buildDocument parse fs config root path).toOption
      else none
  | _ => none

theorem Listed.document?_eq_some_iff {parse : Parser} {fs : FileSystem} {config : Config}
    {root : Path} {l : Listed} {doc : IndexDocument} :
    l.document? parse fs config root = some doc ↔
      ∃ path, l = .file path ∧ config.Indexes fs root path ∧
        buildDocument parse fs config root path = .ok doc := by
  cases l with
  | file path =>
      constructor
      · intro h
        rw [document?, Option.ite_none_right_eq_some] at h
        obtain ⟨heligible, h⟩ := h
        have hdoc : buildDocument parse fs config root path = .ok doc := by
          cases hbuild : buildDocument parse fs config root path with
          | ok doc' =>
              rw [hbuild] at h
              exact congrArg Except.ok (Option.some.inj h)
          | error e =>
              rw [hbuild] at h
              cases h
        exact ⟨path, rfl, .of_buildDocument heligible hdoc, hdoc⟩
      · rintro ⟨path', hpath, hindexes, hdoc⟩
        cases hpath
        rw [document?, if_pos hindexes.isEligible, hdoc]
        rfl
  | _ => simp [document?]

/-! ## Steps -/

namespace BulkRun

variable {σ : Type} (run : BulkRun σ)

theorem exists_value_enter (fs : FileSystem) (root path : Path) :
    ∃ subsystem, (run.enter fs root path).value = { run with subsystem } := by
  unfold enter
  split
  · exact ⟨run.subsystem, rfl⟩
  · dsimp only
    split
    · exact ⟨run.subsystem, rfl⟩
    · exact ⟨_, rfl⟩

theorem exists_value_announce (config : Config) :
    ∃ announced, (run.announce config).value = { run with announced } := by
  unfold announce
  split
  · exact ⟨run.announced, rfl⟩
  · exact ⟨_, rfl⟩

end BulkRun

/-- The store works, and with the documents of the batch it holds `ds`. -/
structure BulkRun.Holds (run : BulkRun MemoryStore) (ds : List IndexDocument) : Prop where
  works : run.store.failImports = false
  documents : MemoryStore.insertAll run.batch run.store.documents = ds

namespace BulkRun.Holds

variable {run : BulkRun MemoryStore} {ds : List IndexDocument}

/-- An import moves the batch into the store. -/
theorem flush (h : run.Holds ds) :
    let after := (run.flush MemoryStore.operations).value
    after.Holds ds ∧ after.batch = [] := by
  intro after
  by_cases hempty : run.batch = []
  · have hafter : after = run := by simp [after, BulkRun.flush, hempty]
    rw [hafter]
    exact ⟨h, hempty⟩
  · have hstore : after.store.documents = ds ∧ after.store.failImports = false := by
      have hdocs := h.documents
      simp [after, BulkRun.flush, hempty, MemoryStore.operations, MemoryStore.importDocuments,
        h.works, MemoryStore.foldl_insert, hdocs]
    have hbatch : after.batch = [] := by
      simp [after, BulkRun.flush, hempty, MemoryStore.operations, MemoryStore.importDocuments,
        h.works]
    refine ⟨⟨hstore.2, ?_⟩, hbatch⟩
    rw [hbatch]
    exact hstore.1

theorem enter (h : run.Holds ds) (fs : FileSystem) (root path : Path) :
    (run.enter fs root path).value.Holds ds := by
  obtain ⟨subsystem, henter⟩ := run.exists_value_enter fs root path
  rw [henter]
  exact ⟨h.works, h.documents⟩

theorem announce (h : run.Holds ds) (config : Config) : (run.announce config).value.Holds ds := by
  obtain ⟨announced, hannounce⟩ := run.exists_value_announce config
  rw [hannounce]
  exact ⟨h.works, h.documents⟩

theorem push (h : run.Holds ds) (doc : IndexDocument) :
    BulkRun.Holds { run with batch := run.batch ++ [doc] } (MemoryStore.insertAll [doc] ds) := by
  refine ⟨h.works, ?_⟩
  rw [← h.documents]
  exact List.foldl_append

variable (parse : Parser) (fs : FileSystem) (config : Config) (root : Path)

/-- A listed entry adds its document, whether or not the batch is full then. -/
theorem take (h : run.Holds ds) (l : Listed) :
    (run.take MemoryStore.operations parse fs config root l).value.Holds
      (MemoryStore.insertAll (l.document? parse fs config root).toList ds) := by
  cases l with
  | notText name => exact h
  | problem text => exact h
  | file path =>
      cases heligible : config.isEligible fs root path with
      | false => simpa [BulkRun.take, Listed.document?, heligible, MemoryStore.insertAll] using h
      | true =>
          have hentered := h.enter fs root path
          cases hbuild : buildDocument parse fs config root path with
          | error e =>
              simpa [BulkRun.take, Listed.document?, heligible, hbuild, Except.toOption]
                using ⟨hentered.works, hentered.documents⟩
          | ok doc =>
              have hpushed := hentered.push doc
              simp only [BulkRun.take, Listed.document?, heligible, hbuild, Bool.not_true,
                Bool.false_eq_true, if_false, if_true, Logged.value_bind,
                value_buildDocumentLogged, Except.toOption, Option.toList_some]
              -- a full batch is imported at once
              split
              · exact hpushed
              · exact hpushed.flush.1.announce config

theorem takeAll (h : run.Holds ds) (listed : List Listed) :
    (listed.foldl
      (fun run l => (run.take MemoryStore.operations parse fs config root l).value) run).Holds
        (MemoryStore.insertAll (listed.filterMap (Listed.document? parse fs config root)) ds) := by
  induction listed generalizing run ds with
  | nil => exact h
  | cons l listed ih =>
      have hrest := ih (h.take parse fs config root l)
      rw [List.foldl_cons]
      cases hdoc : l.document? parse fs config root with
      | none =>
          rw [hdoc] at hrest
          rwa [List.filterMap_cons_none hdoc]
      | some doc =>
          rw [hdoc] at hrest
          rwa [List.filterMap_cons_some hdoc]

end BulkRun.Holds

/-! ## Runs -/

section

variable {σ : Type} (memory : Nat) (ops : DocumentStore σ) (parse : Parser) (lister : Lister)
  (config : Config) (fs : FileSystem) (root : Path) (reset : Bool) (store : σ)

theorem value_bulkIndex_of_ensure_error {e : Error}
    (hensure : (ops.ensureCollection reset store).value.1 = .error e) :
    (bulkIndex memory ops parse lister config fs root reset store).value =
      (.error e, (ops.ensureCollection reset store).value.2) := by
  simp only [bulkIndex, Logged.value_bind, hensure]
  rfl

theorem value_bulkIndex_of_no_room
    (hensure : (ops.ensureCollection reset store).value.1 = .ok ())
    (hroom : ¬ config.HasRoom memory) :
    (bulkIndex memory ops parse lister config fs root reset store).value =
      (.panic config.batchPanic, (ops.ensureCollection reset store).value.2) := by
  simp only [bulkIndex, Logged.value_bind, hensure, hroom, not_false_eq_true, if_true]
  rfl

theorem value_bulkIndex_of_lister_error
    (hensure : (ops.ensureCollection reset store).value.1 = .ok ())
    (hroom : config.HasRoom memory) {e : Error} (hlister : lister fs root = .error e) :
    (bulkIndex memory ops parse lister config fs root reset store).value =
      (.error e, (ops.ensureCollection reset store).value.2) := by
  simp only [bulkIndex, Logged.value_bind, hensure, hroom, not_true_eq_false, if_false, hlister]
  rfl

theorem value_bulkIndex_of_listed
    (hensure : (ops.ensureCollection reset store).value.1 = .ok ())
    (hroom : config.HasRoom memory) {listed : List Listed} (hlisted : lister fs root = .ok listed) :
    (bulkIndex memory ops parse lister config fs root reset store).value =
      let run := (BulkRun.flush ops (listed.foldl
        (fun run l => (run.take ops parse fs config root l).value)
        { store := (ops.ensureCollection reset store).value.2 })).value
      (.ok run.report, run.store) := by
  simp only [bulkIndex, Logged.value_bind, hensure, hroom, not_true_eq_false, if_false, hlisted,
    Logged.value_foldlM]
  rfl

end

/-- With room for a batch a run goes through, and leaves what the listed documents
make of the store when they are imported one by one. -/
theorem exists_value_bulkIndex {memory : Nat} (parse : Parser) {lister : Lister} {config : Config}
    (hroom : config.HasRoom memory) {fs : FileSystem} {root : Path} {listed : List Listed}
    (hlisted : lister fs root = .ok listed) (reset : Bool) {s : MemoryStore}
    (hworks : s.failImports = false) :
    ∃ report after,
      (bulkIndex memory MemoryStore.operations parse lister config fs root reset s).value =
        (.ok report, after) ∧
      after.failImports = false ∧
      after.documents = MemoryStore.insertAll
        (listed.filterMap (Listed.document? parse fs config root))
        (if reset then [] else s.documents) := by
  have hstart : BulkRun.Holds { store := (s.ensureCollection reset).2 }
      (if reset then [] else s.documents) := by
    cases reset with
    | true => exact ⟨hworks, rfl⟩
    | false => exact ⟨hworks, rfl⟩
  let last := (BulkRun.flush MemoryStore.operations (listed.foldl
    (fun run l => (run.take MemoryStore.operations parse fs config root l).value)
    { store := (s.ensureCollection reset).2 })).value
  obtain ⟨hdone, hbatch⟩ : last.Holds _ ∧ last.batch = [] :=
    (hstart.takeAll parse fs config root listed).flush
  refine ⟨last.report, last.store, ?_, hdone.works, ?_⟩
  · exact value_bulkIndex_of_listed memory _ parse lister config fs root reset s rfl hroom hlisted
  · have hdocuments := hdone.documents
    rw [hbatch] at hdocuments
    exact hdocuments

/-- No two of the listed files that are indexed have the same id. -/
def Config.HasOwnIds (config : Config) (fs : FileSystem) (root : Path) (listed : List Listed) :
    Prop :=
  ∀ p q, .file p ∈ listed → .file q ∈ listed → config.Indexes fs root p →
    config.Indexes fs root q → ∀ id, fs.IsIdOf root p id → fs.IsIdOf root q id → p = q

/-- In a tree without links it is enough that the relative paths that are listed have
different digests. -/
theorem FileSystem.IsLinkFree.hasOwnIds {fs : FileSystem} {top : RealPath}
    (free : fs.IsLinkFree top) (config : Config) {listed : List Listed}
    (hbelow : ∀ p, .file p ∈ listed → ∃ key : RealPath, key.IsProper ∧ top <+: key ∧ key.toPath = p)
    (hdigests : ∀ key key' : RealPath, key.IsProper → key'.IsProper →
      .file key.toPath ∈ listed → .file key'.toPath ∈ listed →
      key.documentId top = key'.documentId top → key = key') :
    config.HasOwnIds fs top.toPath listed := by
  intro p q hp hq _ _ id hidp hidq
  obtain ⟨key, hkey, hunder, rfl⟩ := hbelow p hp
  obtain ⟨key', hkey', hunder', rfl⟩ := hbelow q hq
  rw [free.isIdOf_iff hkey hunder] at hidp
  rw [free.isIdOf_iff hkey' hunder'] at hidq
  rw [hdigests key key' hkey hkey' hp hq (hidp.symm.trans hidq)]

section

variable {parse : Parser} {fs : FileSystem} {config : Config} {root : Path}
  {listed listed' : List Listed} {doc : IndexDocument}

theorem mem_documents_iff :
    doc ∈ listed.filterMap (Listed.document? parse fs config root) ↔
      ∃ path, .file path ∈ listed ∧ config.Indexes fs root path ∧
        buildDocument parse fs config root path = .ok doc := by
  rw [List.mem_filterMap]
  constructor
  · rintro ⟨l, hl, hdoc⟩
    obtain ⟨path, rfl, h⟩ := Listed.document?_eq_some_iff.1 hdoc
    exact ⟨path, hl, h⟩
  · rintro ⟨path, hpath, h⟩
    exact ⟨.file path, hpath, Listed.document?_eq_some_iff.2 ⟨path, rfl, h⟩⟩

theorem Config.HasOwnIds.eq_of_id_eq (hids : config.HasOwnIds fs root listed) :
    ∀ doc ∈ listed.filterMap (Listed.document? parse fs config root),
      ∀ doc' ∈ listed.filterMap (Listed.document? parse fs config root),
        doc.id = doc'.id → doc = doc' := by
  intro doc hdoc doc' hdoc' hid
  obtain ⟨p, hp, hpindexes, hpdoc⟩ := mem_documents_iff.1 hdoc
  obtain ⟨q, hq, hqindexes, hqdoc⟩ := mem_documents_iff.1 hdoc'
  obtain rfl : p = q := hids p q hp hq hpindexes hqindexes doc.id (id_of_buildDocument hpdoc)
    (hid ▸ id_of_buildDocument hqdoc)
  exact Except.ok.inj (hpdoc.symm.trans hqdoc)

theorem mem_documents_congr (hsame : ∀ path, .file path ∈ listed' ↔ .file path ∈ listed) :
    doc ∈ listed'.filterMap (Listed.document? parse fs config root) ↔
      doc ∈ listed.filterMap (Listed.document? parse fs config root) := by
  simp only [mem_documents_iff, hsame]

end

/-- With room for a batch, each listed file that is indexed has its document in the
store after a bulk run, and under all other ids stands what stood there before. The
order of the listing, repetitions in it and the size of the batches make no difference,
and another run over the same tree changes nothing. Without room for a batch the run
panics, and no file has come to the store. -/
theorem bulkIndex_contents (memory : Nat) (parse : Parser) {lister : Lister} (config : Config)
    {fs : FileSystem} {root : Path} {listed : List Listed} (hlisted : lister fs root = .ok listed)
    (hids : config.HasOwnIds fs root listed) (reset : Bool) {s : MemoryStore}
    (hworks : s.failImports = false) :
    (¬ config.HasRoom memory →
      ∃ after,
        (bulkIndex memory MemoryStore.operations parse lister config fs root reset s).value =
          (.panic config.batchPanic, after) ∧
        after.documents = if reset then [] else s.documents) ∧
    (config.HasRoom memory →
      ∃ report after,
        (bulkIndex memory MemoryStore.operations parse lister config fs root reset s).value =
          (.ok report, after) ∧
        (∀ path, .file path ∈ listed → config.Indexes fs root path →
          ∃ doc, buildDocument parse fs config root path = .ok doc ∧
            fs.IsIdOf root path doc.id ∧ after.get? doc.id = some doc) ∧
        (∀ id, (∀ path, .file path ∈ listed → config.Indexes fs root path →
            ¬ fs.IsIdOf root path id) →
          after.get? id = if reset then none else s.get? id) ∧
        ∀ (lister' : Lister) (listed' : List Listed) (batchSize : UInt64),
          lister' fs root = .ok listed' → (∀ path, .file path ∈ listed' ↔ .file path ∈ listed) →
          { config with batchSize }.HasRoom memory →
            (∃ report' after',
              (bulkIndex memory MemoryStore.operations parse lister' { config with batchSize } fs
                root reset s).value = (.ok report', after') ∧
              after'.documents = after.documents) ∧
            ∀ again, (again = true → reset = true) →
              ∃ report' after',
                (bulkIndex memory MemoryStore.operations parse lister' { config with batchSize } fs
                  root again after).value = (.ok report', after') ∧
                after'.documents = after.documents) := by
  constructor
  · intro hroom
    have hpanic := value_bulkIndex_of_no_room memory MemoryStore.operations parse lister config
      fs root reset s rfl hroom
    refine ⟨_, hpanic, ?_⟩
    cases reset <;> rfl
  intro hroom
  obtain ⟨report, after, hrun, hafter, hdocuments⟩ :=
    exists_value_bulkIndex parse hroom hlisted reset hworks
  have hown : ∀ doc ∈ listed.filterMap (Listed.document? parse fs config root),
      ∀ doc' ∈ listed.filterMap (Listed.document? parse fs config root),
        doc.id = doc'.id → doc = doc' := hids.eq_of_id_eq
  have hget := fun id => congrArg (List.find? fun d : IndexDocument => d.id = id) hdocuments
  refine ⟨report, after, hrun, ?_, ?_, ?_⟩
  · intro path hpath hindexes
    obtain ⟨doc, hdoc, hid⟩ := hindexes.exists_document parse
    refine ⟨doc, hdoc, hid, (hget doc.id).trans ?_⟩
    exact MemoryStore.find?_insertAll_of_mem hown
      (mem_documents_iff.2 ⟨path, hpath, hindexes, hdoc⟩) _
  · intro id hother
    have hne : ∀ doc ∈ listed.filterMap (Listed.document? parse fs config root), doc.id ≠ id := by
      rintro doc hmem rfl
      obtain ⟨path, hpath, hindexes, hdoc⟩ := mem_documents_iff.1 hmem
      exact hother path hpath hindexes (id_of_buildDocument hdoc)
    refine (hget id).trans ((MemoryStore.find?_insertAll_of_ne hne _).trans ?_)
    cases reset <;> rfl
  · intro lister' listed' batchSize hlisted' hsame hroom'
    have hmem : ∀ doc, doc ∈ listed.filterMap (Listed.document? parse fs config root) ↔
        doc ∈ listed'.filterMap (Listed.document? parse fs config root) :=
      fun _ => (mem_documents_congr hsame).symm
    have hcongr := MemoryStore.insertAll_congr hmem hown
    constructor
    · obtain ⟨report', after', hrun', -, hdocuments'⟩ :=
        exists_value_bulkIndex parse hroom' hlisted' reset hworks
      exact ⟨report', after', hrun', hdocuments'.trans ((hcongr _).symm.trans hdocuments.symm)⟩
    · intro again hagain
      obtain ⟨report', after', hrun', -, hdocuments'⟩ :=
        exists_value_bulkIndex parse hroom' hlisted' again hafter
      refine ⟨report', after', hrun', hdocuments'.trans ((hcongr _).symm.trans ?_)⟩
      rw [hdocuments]
      -- a second reset starts from nothing as the first did; without one all is there already
      cases again with
      | true =>
          rw [hagain rfl]
          rfl
      | false => exact MemoryStore.insertAll_insertAll hown _

/-- One file is listed twice, with one that is gone in between, in batches of
one, over a store that holds another document. -/
theorem bulkIndex_contents_repeated :
    let fs : FileSystem :=
      ⟨[([[114]], .directory), ([[114], Utf8.encode "a.txt"], .file [120] 5)], []⟩
    let root : Path := .ofString "/r"
    let a : Path := .ofString "/r/a.txt"
    let config : Config := { batchSize := 1 }
    let lister : Lister := .fixed [a, .ofString "/r/b.txt", a]
    let s : MemoryStore := { documents := [{ id := "other" }] }
    ∃ report after,
      (bulkIndex 1000 MemoryStore.operations (fun _ => none) lister config fs root false s).value =
        (.ok report, after) ∧
      (∃ doc, buildDocument (fun _ => none) fs config root a = .ok doc ∧
        after.get? doc.id = some doc) ∧
      after.get? "other" = some { id := "other" } := by
  intro fs root a config lister s
  have hgone : fs.content? (.ofString "/r/b.txt") = none := by decide +kernel
  have hindexes : config.Indexes fs root a :=
    ⟨by decide +kernel, [120], 5, by decide +kernel, by decide⟩
  have honly : ∀ path, .file path ∈ [a, .ofString "/r/b.txt", a].map Listed.file →
      config.Indexes fs root path → path = a := by
    intro path hpath h
    simp only [List.map_cons, List.map_nil, List.mem_cons, List.not_mem_nil, or_false,
      Listed.file.injEq] at hpath
    rcases hpath with rfl | rfl | rfl
    · rfl
    · obtain ⟨bytes, mtime, hcontent, -⟩ := h.readable
      rw [hgone] at hcontent
      cases hcontent
    · rfl
  have hids : config.HasOwnIds fs root ([a, .ofString "/r/b.txt", a].map .file) := by
    intro p q hp hq hp' hq' _ _ _
    rw [honly p hp hp', honly q hq hq']
  obtain ⟨-, hholds⟩ := bulkIndex_contents 1000 (fun _ => none) config
    (rfl : lister fs root = .ok _) hids false (s := s) rfl
  obtain ⟨report, after, hrun, hheld, hothers, -⟩ := hholds (by decide)
  obtain ⟨doc, hdoc, -, hget⟩ := hheld a List.mem_cons_self hindexes
  refine ⟨report, after, hrun, ⟨doc, hdoc, hget⟩, (hothers "other" ?_).trans rfl⟩
  intro path hpath h hid
  have hrel : fs.relativePath a root = .ok "a.txt" := by decide +kernel
  rw [honly path hpath h] at hid
  have hsame : "other" = fileId "a.txt" := hid.eq ⟨_, hrel, rfl⟩
  exact absurd hsame (by decide +kernel)

/-- The largest batches leave a listed file out of the store. -/
theorem bulkIndex_contents_largestBatch :
    let fs : FileSystem :=
      ⟨[([[114]], .directory), ([[114], Utf8.encode "a.txt"], .file [120] 5)], []⟩
    let root : Path := .ofString "/r"
    let a : Path := .ofString "/r/a.txt"
    let config : Config := { batchSize := 18446744073709551615 }
    config.Indexes fs root a ∧
      ∃ after,
        (bulkIndex (1 <<< 47) MemoryStore.operations (fun _ => none) (.fixed [a]) config fs root
          false {}).value = (.panic .capacityOverflow, after) ∧
        after.documents = [] := by
  intro fs root a config
  have hroom : ¬ config.HasRoom (1 <<< 47) := by decide
  have hpanic : config.batchPanic = .capacityOverflow := by decide
  refine ⟨⟨by decide +kernel, [120], 5, by decide +kernel, by decide⟩,
    (({} : MemoryStore).ensureCollection false).2, ?_, rfl⟩
  rw [value_bulkIndex_of_no_room _ _ _ _ _ _ _ _ _ rfl hroom, hpanic]
  rfl

end SymbolIndex
