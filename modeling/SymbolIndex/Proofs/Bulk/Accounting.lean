-- SUMMARY: The report of a bulk run against the listing and the answers of the store: no file is counted twice, and none is lost.
import SymbolIndex.Proofs.Bulk.Failure
import SymbolIndex.Proofs.Store.Answers

/-!
# Accounts of a bulk run

At every moment the documents that the store took, the errors, and the documents
that wait come to the eligible files taken so far. A flush only moves the waiting
ones to one of the other two, whether the import fails as a whole, in part or not
at all.
-/

namespace SymbolIndex

variable {σ τ : Type}

/-- The entry is an eligible file. -/
def Listed.isEligible (config : Config) (fs : FileSystem) (root : Path) : Listed → Bool
  | .file path => config.isEligible fs root path
  | _ => false

/-! ## Mirrored runs -/

namespace BulkRun

/-- The run as it is over the state that `f` shows of its store. -/
def view (f : τ → σ) (run : BulkRun τ) : BulkRun σ where
  store := f run.store
  batch := run.batch
  report := run.report
  subsystem := run.subsystem
  announced := run.announced

section

variable {ops' : DocumentStore τ} {ops : DocumentStore σ} {f : τ → σ} (run : BulkRun τ)

theorem flush_view (h : ops'.Mirrors ops f) :
    (flush ops (run.view f)).value = (flush ops' run).value.view f := by
  unfold flush
  cases hempty : run.batch.isEmpty with
  | true => simp [view, hempty]
  | false =>
      simp only [view, hempty, Bool.false_eq_true, if_false, Logged.value_bind, h.imports]
      cases (ops'.importDocuments run.batch run.store).value.1 <;> rfl

theorem enter_view (fs : FileSystem) (root path : Path) :
    ((run.view f).enter fs root path).value = (run.enter fs root path).value.view f := by
  unfold enter
  cases fs.relativePath path root with
  | error e => rfl
  | ok relative =>
      by_cases hsame : subsystemOf relative = run.subsystem
      · simp [view, hsame]
      · simp [view, hsame]

theorem announce_view (config : Config) :
    ((run.view f).announce config).value = (run.announce config).value.view f := by
  unfold announce
  split <;> rfl

theorem add_view (h : ops'.Mirrors ops f) (config : Config) (doc : IndexDocument) :
    (run.view f).add ops config doc = (run.add ops' config doc).view f := by
  have hpush : (run.view f).push doc = (run.push doc).view f := rfl
  have hbatch : ((run.push doc).view f).batch = (run.push doc).batch := rfl
  unfold add
  rw [hpush, hbatch, flush_view _ h, announce_view]
  exact (apply_ite (view f) _ _ _).symm

theorem take_view (h : ops'.Mirrors ops f) (parse : Parser) (fs : FileSystem) (config : Config)
    (root : Path) (l : Listed) :
    (take ops parse fs config root (run.view f) l).value =
      (take ops' parse fs config root run l).value.view f := by
  cases l with
  | notText name => rfl
  | problem text => rfl
  | file path =>
      cases heligible : config.isEligible fs root path with
      | false =>
          rw [value_take_of_not_eligible _ _ heligible, value_take_of_not_eligible _ _ heligible]
      | true =>
          cases hbuild : buildDocument parse fs config root path with
          | error e =>
              rw [value_take_of_error _ _ heligible hbuild,
                value_take_of_error _ _ heligible hbuild, enter_view]
              rfl
          | ok doc =>
              rw [value_take_of_ok _ _ heligible hbuild, value_take_of_ok _ _ heligible hbuild,
                enter_view, add_view _ h]

end

end BulkRun

/-- A store that mirrors another one lets a run come out the same. -/
theorem bulkIndex_view {ops' : DocumentStore τ} {ops : DocumentStore σ} {f : τ → σ}
    (h : ops'.Mirrors ops f) (memory : Nat) (parse : Parser) (lister : Lister) (config : Config)
    (fs : FileSystem) (root : Path) (reset : Bool) (store : τ) :
    (bulkIndex memory ops parse lister config fs root reset (f store)).value =
      ((bulkIndex memory ops' parse lister config fs root reset store).value.1,
        f (bulkIndex memory ops' parse lister config fs root reset store).value.2) := by
  have hensured := h.ensure reset store
  cases hensure : (ops'.ensureCollection reset store).value.1 with
  | error e =>
      have hensure' : (ops.ensureCollection reset (f store)).value.1 = .error e := by
        rw [hensured, hensure]
      rw [value_bulkIndex_of_ensure_error memory ops' _ _ _ _ _ _ _ hensure,
        value_bulkIndex_of_ensure_error memory ops _ _ _ _ _ _ _ hensure', hensured]
  | ok _ =>
      have hensure' : (ops.ensureCollection reset (f store)).value.1 = .ok () := by
        rw [hensured, hensure]
      by_cases hroom : config.HasRoom memory
      · cases hlister : lister fs root with
        | error e =>
            rw [value_bulkIndex_of_lister_error memory ops' _ _ _ _ _ _ _ hensure hroom hlister,
              value_bulkIndex_of_lister_error memory ops _ _ _ _ _ _ _ hensure' hroom hlister,
              hensured]
        | ok listed =>
            rw [value_bulkIndex_of_listed memory ops' _ _ _ _ _ _ _ hensure hroom hlister,
              value_bulkIndex_of_listed memory ops _ _ _ _ _ _ _ hensure' hroom hlister, hensured]
            have hstart :
                ({ store := f (ops'.ensureCollection reset store).value.2 } : BulkRun σ) =
                  BulkRun.view f { store := (ops'.ensureCollection reset store).value.2 } := rfl
            have htake := fun run l => BulkRun.take_view run h parse fs config root l
            rw [hstart, List.foldl_hom (BulkRun.view f) htake, BulkRun.flush_view _ h]
            rfl
      · rw [value_bulkIndex_of_no_room memory ops' _ _ _ _ _ _ _ hensure hroom,
          value_bulkIndex_of_no_room memory ops _ _ _ _ _ _ _ hensure' hroom, hensured]

/-! ## Accounts -/

/-- The report and the batch of a run account for a number of files, and the report
tells what the store answered. -/
structure BulkRun.Accounts (run : BulkRun (σ × StoreAnswers)) (files : Nat) : Prop where
  files : run.report.indexed + run.report.errors + run.batch.length = files
  failedBatches : run.report.failedBatches = run.store.2.failedImports
  indexed : run.report.indexed = run.store.2.importedDocuments

namespace BulkRun.Accounts

variable {run : BulkRun (σ × StoreAnswers)} {files : Nat}

theorem enter (h : run.Accounts files) (fs : FileSystem) (root path : Path) :
    (run.enter fs root path).value.Accounts files := by
  obtain ⟨subsystem, henter⟩ := run.exists_value_enter fs root path
  rw [henter]
  exact ⟨h.files, h.failedBatches, h.indexed⟩

theorem announce (h : run.Accounts files) (config : Config) :
    (run.announce config).value.Accounts files := by
  obtain ⟨announced, hannounce⟩ := run.exists_value_announce config
  rw [hannounce]
  exact ⟨h.files, h.failedBatches, h.indexed⟩

theorem push (h : run.Accounts files) (doc : IndexDocument) :
    (run.push doc).Accounts (files + 1) where
  files := by
    rw [batch_push, List.length_append, List.length_singleton, ← h.files]
    rfl
  failedBatches := h.failedBatches
  indexed := h.indexed

/-- A file that cannot be read is an error. -/
theorem addError (h : run.Accounts files) :
    ({ run with report := { run.report with errors := run.report.errors + 1 } } :
      BulkRun (σ × StoreAnswers)).Accounts (files + 1) where
  files := by
    have hfiles := h.files
    simp only
    omega
  failedBatches := h.failedBatches
  indexed := h.indexed

variable {ops : DocumentStore σ}

/-- The batch is counted as the store answers its import. -/
theorem flush (h : run.Accounts files) (hops : ops.CountsImports) :
    (BulkRun.flush ops.answering run).value.Accounts files := by
  have hfiles := h.files
  have hfailed := h.failedBatches
  have hindexed := h.indexed
  unfold BulkRun.flush
  cases hempty : run.batch.isEmpty with
  | true => simpa using h
  | false =>
      simp only [Bool.false_eq_true, if_false, Logged.value_bind, DocumentStore.answering,
        DocumentStore.value_keeping]
      cases hanswer : (ops.importDocuments run.batch run.store.1).value.1 with
      | ok summary =>
          have hcounts := hops run.batch run.store.1 summary hanswer
          refine ⟨?_, ?_, ?_⟩
          · simp only [Logged.value_bind, Logged.value_pure, List.length_nil]
            omega
          · simpa using hfailed
          · simpa [StoreAnswers.taken] using hindexed
      | error e =>
          refine ⟨?_, ?_, ?_⟩
          · simp only [Logged.value_bind, Logged.value_pure, List.length_nil]
            omega
          · simpa using hfailed
          · simpa [StoreAnswers.taken] using hindexed

theorem add (h : run.Accounts files) (hops : ops.CountsImports) (config : Config)
    (doc : IndexDocument) : (run.add ops.answering config doc).Accounts (files + 1) := by
  unfold BulkRun.add
  split
  · exact h.push doc
  · exact ((h.push doc).flush hops).announce config

/-- A listed entry counts if it is an eligible file. -/
theorem take (h : run.Accounts files) (hops : ops.CountsImports) (parse : Parser)
    (fs : FileSystem) (config : Config) (root : Path) (l : Listed) :
    (BulkRun.take ops.answering parse fs config root run l).value.Accounts
      (files + (l.isEligible config fs root).toNat) := by
  cases l with
  | notText name => exact h
  | problem text => exact h
  | file path =>
      rw [Listed.isEligible]
      cases heligible : config.isEligible fs root path with
      | false =>
          rw [value_take_of_not_eligible _ _ heligible]
          exact h
      | true =>
          have hentered := h.enter fs root path
          cases hbuild : buildDocument parse fs config root path with
          | error e =>
              rw [value_take_of_error _ _ heligible hbuild]
              exact hentered.addError
          | ok doc =>
              rw [value_take_of_ok _ _ heligible hbuild]
              exact hentered.add hops config doc

theorem takeAll (h : run.Accounts files) (hops : ops.CountsImports) (parse : Parser)
    (fs : FileSystem) (config : Config) (root : Path) (listed : List Listed) :
    (listed.foldl (fun run l => (BulkRun.take ops.answering parse fs config root run l).value)
      run).Accounts (files + listed.countP (·.isEligible config fs root)) := by
  induction listed generalizing run files with
  | nil => exact h
  | cons l listed ih =>
      have hcount : files + (l :: listed).countP (·.isEligible config fs root) =
          files + (l.isEligible config fs root).toNat +
            listed.countP (·.isEligible config fs root) := by
        rw [List.countP_cons, Nat.add_assoc, Nat.add_comm (Bool.toNat _)]
        cases l.isEligible config fs root <;> rfl
      rw [List.foldl_cons, hcount]
      exact ih (h.take hops parse fs config root l)

end BulkRun.Accounts

/-- The report of a run over a store that keeps its answers, for any store that
counts its imports. -/
theorem BulkReport.accounts {ops : DocumentStore σ} (hops : ops.CountsImports) (memory : Nat)
    (parse : Parser) (lister : Lister) (config : Config) (fs : FileSystem) (root : Path)
    (reset : Bool) (store : σ) {report : BulkReport} {after : σ} {answers : StoreAnswers}
    (hrun : (bulkIndex memory ops.answering parse lister config fs root reset (store, {})).value =
      (.ok report, after, answers)) :
    ∃ listed, lister fs root = .ok listed ∧
      report.indexed + report.errors = listed.countP (·.isEligible config fs root) ∧
      report.failedBatches = answers.failedImports ∧
      report.indexed = answers.importedDocuments := by
  have hreport := (exists_report_iff memory ops.answering parse lister config fs root reset
    (store, {})).1 ⟨report, by rw [hrun]⟩
  obtain ⟨hensure, hroom, listed, hlister⟩ := hreport
  rw [value_bulkIndex_of_listed memory ops.answering _ _ _ _ _ _ _ hensure hroom hlister] at hrun
  let start : BulkRun (σ × StoreAnswers) :=
    { store := (ops.answering.ensureCollection reset (store, {})).value.2 }
  have hstart : start.Accounts 0 := ⟨rfl, rfl, rfl⟩
  let last := (BulkRun.flush ops.answering (listed.foldl
    (fun run l => (run.take ops.answering parse fs config root l).value) start)).value
  have hlast : last.Accounts (0 + listed.countP (·.isEligible config fs root)) :=
    (hstart.takeAll hops parse fs config root listed).flush hops
  have hbatch : last.batch = [] := BulkRun.batch_flush _ _
  have hlastReport : last.report = report := Exit.ok.inj (congrArg Prod.fst hrun)
  have hanswers : last.store.2 = answers := congrArg (fun outcome => outcome.2.2) hrun
  refine ⟨listed, hlister, ?_, ?_, ?_⟩
  · rw [← hlastReport]
    simpa [hbatch] using hlast.files
  · rw [← hlastReport, ← hanswers]
    exact hlast.failedBatches
  · rw [← hlastReport, ← hanswers]
    exact hlast.indexed

end SymbolIndex
