-- SUMMARY: The report of a flush against the pending paths and the answers of the store, and the accounts of bulk runs and flushes together.
import SymbolIndex.Proofs.Bulk.Accounting
import SymbolIndex.Proofs.Watch.Calls

/-!
# Accounts of a flush

Each pending path has one fate, and each fate is counted in one place: by the plan,
by the import of its documents, or by its delete. What no count of the report holds
are the paths that need nothing and the deletes that find no document.
-/

namespace SymbolIndex

variable {σ τ : Type}

/-! ## Mirrored flushes -/

namespace FlushRun

/-- The run as it is over the state that `f` shows of its store. -/
def view (f : τ → σ) (run : FlushRun τ) : FlushRun σ where
  report := run.report
  buffer := run.buffer
  store := f run.store

variable {ops' : DocumentStore τ} {ops : DocumentStore σ} {f : τ → σ} (run : FlushRun τ)

theorem importAll_view (h : ops'.Mirrors ops f) (docs : List IndexDocument) :
    (importAll ops docs (run.view f)).value =
      ((importAll ops' docs run).value.1, (importAll ops' docs run).value.2.view f) := by
  simp only [importAll, Logged.value_bind, view, h.imports]
  cases (ops'.importDocuments docs run.store).value.1 <;> rfl

theorem upsertAll_view (h : ops'.Mirrors ops f) (plan : FlushPlan) :
    (upsertAll ops plan (run.view f)).value = (upsertAll ops' plan run).value.view f := by
  unfold upsertAll
  cases plan.upserts.isEmpty with
  | true => rfl
  | false =>
      simp only [Bool.false_eq_true, if_false, Logged.value_bind, importAll_view _ h]
      cases (importAll ops' (plan.upserts.map Prod.fst) run).value.1 <;> rfl

theorem deleteOne_view (h : ops'.Mirrors ops f) (target : String × Path) :
    (deleteOne ops (run.view f) target).value = (deleteOne ops' run target).value.view f := by
  simp only [deleteOne, Logged.value_bind, view, h.deletes]
  cases (ops'.deleteDocument target.1 run.store).value.1 with
  | ok found => cases found <;> rfl
  | error e => rfl

end FlushRun

theorem Buffer.flush_view {ops' : DocumentStore τ} {ops : DocumentStore σ} {f : τ → σ}
    (h : ops'.Mirrors ops f) (parse : Parser) (fs : FileSystem) (scope : Scope) (b : Buffer)
    (store : τ) :
    (b.flush ops parse fs scope (f store)).value =
      (b.flush ops' parse fs scope store).value.view f := by
  have hupsert := FlushRun.upsertAll_view
    { report := (FlushPlan.forPaths parse fs scope b.pendingPaths).report
      buffer := { b with pending := [] }, store } h
    (FlushPlan.forPaths parse fs scope b.pendingPaths)
  have hdelete := fun run target => FlushRun.deleteOne_view run h target
  rw [value_flush, value_flush, FlushRun.value_carryOut, FlushRun.value_carryOut]
  refine (congrArg (FlushRun.deleteAll ops · _) hupsert).trans ?_
  exact List.foldl_hom (FlushRun.view f) hdelete

/-- A store that mirrors another one lets a flush come out the same. -/
theorem Maintainer.flush_view {ops' : DocumentStore τ} {ops : DocumentStore σ} {f : τ → σ}
    (h : ops'.Mirrors ops f) (parse : Parser) (fs : FileSystem) (m : Maintainer) (store : τ) :
    (m.flush ops parse fs (f store)).value =
      ((m.flush ops' parse fs store).value.1, (m.flush ops' parse fs store).value.2.1,
        f (m.flush ops' parse fs store).value.2.2) := by
  simp only [flush, Logged.value_bind, Logged.value_pure, Buffer.flush_view h]
  rfl

/-! ## Counts -/

/-- All that a flush counts. -/
def FlushReport.total (r : FlushReport) : Nat := r.upserted + r.deleted + r.skipped + r.errors

/-- What needs nothing exists and is no regular file. -/
theorem Scope.fate_eq_nothing_iff {parse : Parser} {fs : FileSystem} {scope : Scope}
    {path : Path} :
    scope.fate parse fs path = .nothing ↔ (fs.exists? path && !fs.isFile path) = true := by
  unfold Scope.fate FileSystem.exists? FileSystem.isFile
  cases fs.metadata path with
  | ok m =>
      dsimp only
      cases m.isFile with
      | false => simp [Except.isOk, Except.toBool]
      | true =>
          rw [if_pos rfl]
          split
          · simp
          · split <;> simp
  | error e =>
      cases e with
      | notFound =>
          dsimp only
          split <;> simp [Except.isOk, Except.toBool]
      | _ => simp [Except.isOk, Except.toBool]

namespace FlushPlan

/-- A plan counts each path once: as skipped or as an error, for the import, for a
delete, or among those that need nothing. -/
theorem total_forPaths (parse : Parser) (fs : FileSystem) (scope : Scope) (paths : List Path) :
    (forPaths parse fs scope paths).report.total +
        (forPaths parse fs scope paths).upserts.length +
        (forPaths parse fs scope paths).deletes.length +
        paths.countP (fun p => fs.exists? p && !fs.isFile p) =
      paths.length := by
  have hnothing : paths.countP (fun p => fs.exists? p && !fs.isFile p) =
      paths.countP fun p => scope.fate parse fs p = .nothing :=
    List.countP_congr fun p _ => by
      rw [decide_eq_true_eq, ← Scope.fate_eq_nothing_iff]
  rw [hnothing]
  clear hnothing
  induction paths with
  | nil => rfl
  | cons p paths ih =>
      simp only [forPaths, FlushReport.total] at ih ⊢
      rw [List.length_cons, ← ih]
      cases hfate : scope.fate parse fs p <;>
        simp [hfate, Fate.upsert?, Fate.delete?] <;> omega

end FlushPlan

namespace FlushRun

/-- What the report counts, and the deletes that found no document. -/
def tally (run : FlushRun (σ × StoreAnswers)) : Nat :=
  run.report.total + run.store.2.missedDeletes

variable {ops : DocumentStore σ}

theorem tally_importAll (hops : ops.CountsImports) (docs : List IndexDocument)
    (run : FlushRun (σ × StoreAnswers)) :
    (importAll ops.answering docs run).value.2.tally = run.tally + docs.length := by
  simp only [importAll, Logged.value_bind, DocumentStore.answering, DocumentStore.value_keeping]
  cases hanswer : (ops.importDocuments docs run.store.1).value.1 with
  | ok summary =>
      have hcounts := hops _ _ _ hanswer
      simp only [Logged.value_pure, tally, FlushReport.total, StoreAnswers.missedDeletes_addImport]
      omega
  | error e =>
      simp only [Logged.value_bind, Logged.value_pure, tally, FlushReport.total,
        StoreAnswers.missedDeletes_addImport]
      omega

theorem tally_upsertAll (hops : ops.CountsImports) (plan : FlushPlan)
    (run : FlushRun (σ × StoreAnswers)) :
    (upsertAll ops.answering plan run).value.tally = run.tally + plan.upserts.length := by
  have himport := tally_importAll hops (plan.upserts.map Prod.fst) run
  rw [List.length_map] at himport
  unfold upsertAll
  cases hempty : plan.upserts.isEmpty with
  | true => simp [List.isEmpty_iff.1 hempty]
  | false =>
      simp only [Bool.false_eq_true, if_false, Logged.value_bind]
      rw [← himport]
      cases (importAll ops.answering (plan.upserts.map Prod.fst) run).value.1 <;> rfl

theorem tally_deleteOne (run : FlushRun (σ × StoreAnswers)) (target : String × Path) :
    (deleteOne ops.answering run target).value.tally = run.tally + 1 := by
  simp only [deleteOne, Logged.value_bind, DocumentStore.answering, DocumentStore.value_keeping,
    tally]
  cases (ops.deleteDocument target.1 run.store.1).value.1 with
  | ok found =>
      cases found with
      | true =>
          simp [FlushReport.total, StoreAnswers.isMiss]
          omega
      | false =>
          simp [StoreAnswers.isMiss]
          omega
  | error e =>
      simp [FlushReport.total, StoreAnswers.isMiss]
      omega

theorem tally_deleteAll (run : FlushRun (σ × StoreAnswers)) (targets : List (String × Path)) :
    (deleteAll ops.answering run targets).tally = run.tally + targets.length := by
  induction targets generalizing run with
  | nil => rfl
  | cons target targets ih =>
      rw [deleteAll_cons, ih, tally_deleteOne, List.length_cons]
      omega

end FlushRun

/-- The report of a flush over a store that keeps its answers, for any store that
counts its imports. -/
theorem FlushReport.accounts {ops : DocumentStore σ} (hops : ops.CountsImports) (parse : Parser)
    (fs : FileSystem) (m : Maintainer) (store : σ) {report : FlushReport} {m' : Maintainer}
    {after : σ} {answers : StoreAnswers}
    (hrun : (m.flush ops.answering parse fs (store, {})).value = (report, m', after, answers)) :
    report.total + m.buffer.pendingPaths.countP (fun p => fs.exists? p && !fs.isFile p) +
      answers.missedDeletes = m.pendingCount := by
  let plan := FlushPlan.forPaths parse fs m.scope m.buffer.pendingPaths
  let run := (m.buffer.flush ops.answering parse fs m.scope (store, {})).value
  have hreport : run.report = report := congrArg Prod.fst hrun
  have hanswers : run.store.2 = answers := congrArg (fun outcome => outcome.2.2.2) hrun
  have htally : run.tally = plan.report.total + plan.upserts.length + plan.deletes.length := by
    simp only [run, Buffer.value_flush, FlushRun.value_carryOut, FlushRun.tally_deleteAll,
      FlushRun.tally_upsertAll hops]
    rfl
  have hcount : m.buffer.pendingPaths.length = m.pendingCount := List.length_map _
  have htotal := FlushPlan.total_forPaths parse fs m.scope m.buffer.pendingPaths
  rw [FlushRun.tally, hreport, hanswers] at htally
  simp only [plan] at htally
  omega

/-! ## All counts -/

/-- With any store that counts its imports, however these end, each eligible file of
a listing is indexed or an error of the bulk run, and the run tells how many imports
failed and what the others took. It tells so whenever the collection is there, a batch
has room and the files are listed. Each path that was pending is counted by the flush,
unless it is there and no regular file, or its delete found no document. -/
theorem reports_account_for_every_file {ops : DocumentStore σ} (hops : ops.CountsImports)
    (parse : Parser) :
    (∀ (memory : Nat) (lister : Lister) (config : Config) (fs : FileSystem) (root : Path)
        (reset : Bool) (store : σ),
      ∃ (outcome : Exit BulkReport) (after : σ) (answers : StoreAnswers),
        (bulkIndex memory ops parse lister config fs root reset store).value = (outcome, after) ∧
        (bulkIndex memory ops.answering parse lister config fs root reset (store, {})).value =
          (outcome, after, answers) ∧
        ((∃ report, outcome = .ok report) ↔
          (ops.ensureCollection reset store).value.1 = .ok () ∧ config.HasRoom memory ∧
            ∃ listed, lister fs root = .ok listed) ∧
        ∀ report, outcome = .ok report →
          ∃ listed, lister fs root = .ok listed ∧
            report.indexed + report.errors = listed.countP (·.isEligible config fs root) ∧
            report.failedBatches = answers.failedImports ∧
            report.indexed = answers.importedDocuments) ∧
    ∀ (fs : FileSystem) (m : Maintainer) (store : σ),
      ∃ (report : FlushReport) (m' : Maintainer) (after : σ) (answers : StoreAnswers),
        (m.flush ops parse fs store).value = (report, m', after) ∧
        (m.flush ops.answering parse fs (store, {})).value = (report, m', after, answers) ∧
        report.upserted + report.deleted + report.skipped + report.errors +
            m.buffer.pendingPaths.countP (fun p => fs.exists? p && !fs.isFile p) +
            answers.missedDeletes =
          m.pendingCount := by
  constructor
  · intro memory lister config fs root reset store
    have hview := bulkIndex_view ops.answering_mirrors memory parse lister config fs root reset
      (store, {})
    refine ⟨_, _, _, hview, rfl, ?_, ?_⟩
    · have hreport := exists_report_iff memory ops parse lister config fs root reset store
      rwa [hview] at hreport
    · intro report hreport
      exact BulkReport.accounts hops memory parse lister config fs root reset store
        (Prod.ext hreport rfl)
  · intro fs m store
    have hview := Maintainer.flush_view ops.answering_mirrors parse fs m (store, {})
    exact ⟨_, _, _, _, hview, rfl, FlushReport.accounts hops parse fs m store rfl⟩

/-- The store takes one document of each import. The bulk run lists a file that is gone
among three others, and its first import fails; the flush finds two files to import, a
directory, and a file that is gone. -/
theorem reports_account_for_every_file_sparing :
    let fs : FileSystem :=
      ⟨[([[114]], .directory), ([[114], Utf8.encode "a.txt"], .file [120] 5),
        ([[114], Utf8.encode "b.txt"], .file [120] 5),
        ([[114], Utf8.encode "c.txt"], .file [120] 5)], []⟩
    let root : Path := .ofString "/r"
    let config : Config := { batchSize := 2 }
    let lister : Lister :=
      .fixed (["/r/a.txt", "/r/gone.txt", "/r/b.txt", "/r/c.txt"].map Path.ofString)
    let m : Maintainer := {
      scope := { root, config }
      buffer.pending :=
        [(.ofString "/r/a.txt", .upsert), (.ofString "/r/b.txt", .upsert), (root, .upsert),
          (.ofString "/r/gone.txt", .delete)] }
    (∃ report after,
      (bulkIndex 1000 FaultyStore.sparing (fun _ => none) lister config fs root false
        { faults := [true] }).value = (.ok report, after) ∧
      report.indexed + report.errors = 3) ∧
    ∃ report m' after answers,
      (m.flush FaultyStore.sparing (fun _ => none) fs {}).value = (report, m', after) ∧
      (m.flush FaultyStore.sparing.answering (fun _ => none) fs ({}, {})).value =
        (report, m', after, answers) ∧
      report.upserted + report.deleted + report.skipped + report.errors + 1 +
        answers.missedDeletes = 4 := by
  intro fs root config lister m
  obtain ⟨hbulk, hflush⟩ :=
    reports_account_for_every_file FaultyStore.countsImports_sparing fun _ => none
  constructor
  · obtain ⟨outcome, after, answers, hrun, -, hgoes, hreport⟩ :=
      hbulk 1000 lister config fs root false { faults := [true] }
    obtain ⟨report, rfl⟩ := hgoes.2 ⟨rfl, by decide, _, rfl⟩
    obtain ⟨listed, hlisted, hfiles, -⟩ := hreport report rfl
    obtain rfl := Except.ok.inj hlisted
    refine ⟨report, after, hrun, hfiles.trans ?_⟩
    decide +kernel
  · obtain ⟨report, m', after, answers, hrun, hanswers, htotal⟩ := hflush fs m {}
    refine ⟨report, m', after, answers, hrun, hanswers, ?_⟩
    have hdirectories :
        m.buffer.pendingPaths.countP (fun p => fs.exists? p && !fs.isFile p) = 1 := by
      decide +kernel
    rw [hdirectories] at htotal
    exact htotal

end SymbolIndex
