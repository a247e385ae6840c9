-- SUMMARY: The calls that a flush makes, whatever the store, and the documents that it leaves alone.
import SymbolIndex.Proofs.Store.Calls
import SymbolIndex.Proofs.Watch.Flushing

/-!
# Calls of a flush

Which calls a flush makes follows from the plan, not from the answers of the
store: one import, if there is anything to import, and then the deletes. The
documents that none of them names are left alone.
-/

namespace SymbolIndex

variable {σ : Type}

/-! ## The record of a flush -/

namespace FlushPlan

/-- The import of a plan, if it has documents. -/
def importCalls (plan : FlushPlan) : List StoreCall :=
  if plan.upserts.isEmpty then [] else [.importDocuments (plan.upserts.map Prod.fst)]

def deleteCalls (plan : FlushPlan) : List StoreCall :=
  plan.deletes.map fun target => .deleteDocument target.1

/-- The calls that carry out a plan. -/
def calls (plan : FlushPlan) : List StoreCall := plan.importCalls ++ plan.deleteCalls

/-- A plan comes to one import of all that it has to import, and a delete for
each target. -/
theorem mem_calls {plan : FlushPlan} {call : StoreCall} :
    call ∈ plan.calls ↔
      (plan.upserts ≠ [] ∧ call = .importDocuments (plan.upserts.map Prod.fst)) ∨
        ∃ target ∈ plan.deletes, call = .deleteDocument target.1 := by
  have himport : call ∈ plan.importCalls ↔
      plan.upserts ≠ [] ∧ call = .importDocuments (plan.upserts.map Prod.fst) := by
    unfold importCalls
    cases plan.upserts with
    | nil => simp
    | cons target targets => simp
  have hdelete : call ∈ plan.deleteCalls ↔
      ∃ target ∈ plan.deletes, call = .deleteDocument target.1 := by
    simp only [deleteCalls, List.mem_map, eq_comm]
  rw [calls, List.mem_append, himport, hdelete]

@[simp] theorem ids_importCalls (plan : FlushPlan) :
    plan.importCalls.flatMap StoreCall.ids = plan.upserts.map (·.1.id) := by
  unfold importCalls
  split
  · rename_i hempty
    simp [List.isEmpty_iff.1 hempty]
  · simp [StoreCall.ids]

@[simp] theorem ids_deleteCalls (plan : FlushPlan) :
    plan.deleteCalls.flatMap StoreCall.ids = plan.deletes.map Prod.fst := by
  rw [deleteCalls, List.flatMap_map, List.map_eq_flatMap]
  rfl

theorem ids_calls (plan : FlushPlan) :
    plan.calls.flatMap StoreCall.ids =
      plan.upserts.map (·.1.id) ++ plan.deletes.map Prod.fst := by
  rw [calls, List.flatMap_append, ids_importCalls, ids_deleteCalls]

theorem countP_isImport_calls (plan : FlushPlan) : plan.calls.countP StoreCall.isImport ≤ 1 := by
  have hdeletes : plan.deleteCalls.countP StoreCall.isImport = 0 := by
    simp [deleteCalls, List.countP_eq_zero, StoreCall.isImport]
  have himports : plan.importCalls.countP StoreCall.isImport ≤ 1 := by
    unfold importCalls
    split
    · exact Nat.zero_le 1
    · exact Nat.le_refl 1
  rw [calls, List.countP_append, hdeletes]
  exact himports

end FlushPlan

namespace FlushRun

/-- The run with a record of the calls beside its store. -/
def withCalls (run : FlushRun σ) (calls : List StoreCall) : FlushRun (σ × List StoreCall) where
  report := run.report
  buffer := run.buffer
  store := (run.store, calls)

variable (ops : DocumentStore σ) (run : FlushRun σ) (calls : List StoreCall)

theorem importAll_recording (docs : List IndexDocument) :
    (importAll ops.recording docs (run.withCalls calls)).value =
      ((importAll ops docs run).value.1,
        (importAll ops docs run).value.2.withCalls (calls ++ [.importDocuments docs])) := by
  simp only [importAll, Logged.value_bind, DocumentStore.recording, DocumentStore.value_noted,
    withCalls]
  cases (ops.importDocuments docs run.store).value.1 <;> rfl

theorem upsertAll_recording (plan : FlushPlan) :
    (upsertAll ops.recording plan (run.withCalls calls)).value =
      (upsertAll ops plan run).value.withCalls (calls ++ plan.importCalls) := by
  unfold upsertAll FlushPlan.importCalls
  cases plan.upserts.isEmpty with
  | true => simp
  | false =>
      simp only [Bool.false_eq_true, if_false, Logged.value_bind, importAll_recording]
      cases (importAll ops (plan.upserts.map Prod.fst) run).value.1 <;> rfl

theorem deleteOne_recording (target : String × Path) :
    (deleteOne ops.recording (run.withCalls calls) target).value =
      (deleteOne ops run target).value.withCalls (calls ++ [.deleteDocument target.1]) := by
  simp only [deleteOne, Logged.value_bind, DocumentStore.recording, DocumentStore.value_noted,
    withCalls]
  cases (ops.deleteDocument target.1 run.store).value.1 with
  | ok found => cases found <;> rfl
  | error e => rfl

theorem deleteAll_recording (targets : List (String × Path)) :
    deleteAll ops.recording (run.withCalls calls) targets =
      (deleteAll ops run targets).withCalls
        (calls ++ targets.map fun target => .deleteDocument target.1) := by
  induction targets generalizing run calls with
  | nil => simp
  | cons target targets ih =>
      rw [deleteAll_cons, deleteOne_recording, ih, deleteAll_cons, List.map_cons]
      simp

end FlushRun

/-- The record shows the calls of the plan, and the flush is the same as without
it. -/
theorem Buffer.value_flush_recording (ops : DocumentStore σ) (parse : Parser) (fs : FileSystem)
    (scope : Scope) (b : Buffer) (store : σ) (calls : List StoreCall) :
    (b.flush ops.recording parse fs scope (store, calls)).value =
      (b.flush ops parse fs scope store).value.withCalls
        (calls ++ (FlushPlan.forPaths parse fs scope b.pendingPaths).calls) := by
  have hupsert := FlushRun.upsertAll_recording ops
    { report := (FlushPlan.forPaths parse fs scope b.pendingPaths).report
      buffer := { b with pending := [] }, store } calls
    (FlushPlan.forPaths parse fs scope b.pendingPaths)
  rw [value_flush, value_flush, FlushRun.value_carryOut, FlushRun.value_carryOut]
  refine (congrArg (FlushRun.deleteAll ops.recording · _) hupsert).trans ?_
  rw [FlushRun.deleteAll_recording, FlushPlan.calls, FlushPlan.deleteCalls, List.append_assoc]

/-- The calls that a flush now would make. -/
def Maintainer.callsOfFlush (ops : DocumentStore σ) (parse : Parser) (fs : FileSystem)
    (m : Maintainer) (store : σ) : List StoreCall :=
  (m.flush ops.recording parse fs (store, [])).value.2.2.2

theorem Maintainer.callsOfFlush_eq (ops : DocumentStore σ) (parse : Parser) (fs : FileSystem)
    (m : Maintainer) (store : σ) :
    m.callsOfFlush ops parse fs store =
      (FlushPlan.forPaths parse fs m.scope m.buffer.pendingPaths).calls := by
  simp only [callsOfFlush, flush, Logged.value_bind, Logged.value_pure,
    Buffer.value_flush_recording, List.nil_append]
  rfl

/-! ## Documents that no call names -/

section Untouched

variable {ops : DocumentStore σ} {get? : σ → String → Option IndexDocument} {id : String}

namespace FlushRun

theorem get?_upsertAll_of_notMem (hops : ops.Respects get?) {plan : FlushPlan} {run : FlushRun σ}
    (h : id ∉ plan.upserts.map (·.1.id)) :
    get? (upsertAll ops plan run).value.store id = get? run.store id := by
  have hother := hops.import_other (plan.upserts.map Prod.fst) run.store id
    (by rwa [List.map_map])
  rcases upsertAll_cases ops plan run with ⟨-, hsame⟩ | ⟨-, -, hstore, -⟩ | ⟨-, -, hstore, -⟩
  · rw [hsame]
  · rw [hstore, hother]
  · rw [hstore, hother]

theorem get?_deleteAll_of_notMem (hops : ops.Respects get?) {run : FlushRun σ}
    {targets : List (String × Path)} (h : id ∉ targets.map Prod.fst) :
    get? (deleteAll ops run targets).store id = get? run.store id := by
  induction targets generalizing run with
  | nil => rfl
  | cons target targets ih =>
      simp only [List.map_cons, List.mem_cons, not_or] at h
      rw [deleteAll_cons, ih h.2, (deleteOne_cases ops run target).1]
      exact hops.delete_other _ _ _ h.1

end FlushRun

theorem Buffer.get?_flush_of_notMem (hops : ops.Respects get?) (parse : Parser) (fs : FileSystem)
    (scope : Scope) {b : Buffer} {store : σ}
    (h : id ∉ (FlushPlan.forPaths parse fs scope b.pendingPaths).calls.flatMap StoreCall.ids) :
    get? (b.flush ops parse fs scope store).value.store id = get? store id := by
  rw [FlushPlan.ids_calls, List.mem_append, not_or] at h
  rw [value_flush, FlushRun.value_carryOut, FlushRun.get?_deleteAll_of_notMem hops h.2,
    FlushRun.get?_upsertAll_of_notMem hops h.1]

end Untouched

end SymbolIndex
