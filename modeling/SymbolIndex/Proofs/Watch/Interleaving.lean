-- SUMMARY: Flushes and intakes of events cut into the steps between which others come in.
import SymbolIndex.Proofs.Watch.Run

/-!
# Interleaving

A flush empties the buffer first and then goes on without it: it looks at one
path after the other, imports, remembers what it imported, and deletes one
document after the other. An intake looks at the disk, and for a directory that
is gone it reads the indexed paths, then the pending ones, before it fills the
buffer. In between the disk changes and others take their steps. With nothing in
between the steps come to a flush and to an intake as a whole.
-/

namespace SymbolIndex

/-! ## Intakes -/

/-- The action deletes what was below a path, as far as the disk tells. -/
def Scope.isVanished (scope : Scope) (fs : FileSystem) (p : PathAction) : Bool :=
  p.2 = .delete && !fs.isDir p.1 && !scope.isEligible p.1 && !fs.exists? p.1

/-- An intake under way, with the actions that are still to be looked at and the
actions that were found so far. -/
inductive Intake where
  /-- Looks at the disk next, or fills the buffer if nothing is left to look at. -/
  | looking (todo found : List PathAction)
  /-- Has seen that the directory is gone and reads the indexed paths next. -/
  | readingIndexed (dir : Path) (todo found : List PathAction)
  /-- Has read the indexed paths and reads the pending ones next. -/
  | readingPending (dir : Path) (known : List Path) (todo found : List PathAction)
  | done
  deriving DecidableEq, Repr

/-- The next step of an intake, with the buffer after it. -/
def Intake.advance (fs : FileSystem) (scope : Scope) (b : Buffer) : Intake → Buffer × Intake
  | looking [] found => (b.insertAll found, done)
  | looking (p :: todo) found =>
      if scope.isVanished fs p then (b, readingIndexed p.1 todo found)
      else (b, looking todo (found ++ b.expand fs scope p))
  | readingIndexed dir todo found =>
      (b, readingPending dir (b.indexed.filter (Buffer.isUnder dir)) todo found)
  | readingPending dir known todo found =>
      let known := known ++ b.pendingPaths.filter (Buffer.isUnder dir)
      (b, looking todo (found ++ known.map (·, .delete)))
  | done => (b, done)

/-! ## Flushes -/

/-- How far a flush is. -/
inductive FlushStage where
  /-- No flush is running. The last one reported this. -/
  | rest (report : FlushReport)
  /-- Looks at the next path, or imports if none is left. -/
  | planning (todo : List PathAction) (plan : FlushPlan)
  /-- Has imported and remembers the paths next. -/
  | remembering (plan : FlushPlan) (report : FlushReport)
  /-- Deletes the next document, or ends if none is left. -/
  | deleting (targets : List (String × Path)) (report : FlushReport)
  deriving DecidableEq, Repr

/-! ## Runs -/

/-- A world with a flush and intakes under way. -/
structure BusyWorld (σ : Type) extends World σ where
  stage : FlushStage := .rest {}
  /-- The oldest first. -/
  intakes : List Intake := []

/-- What happens while a flush and intakes are under way. -/
inductive BusyAct where
  /-- The disk changes. Nobody is told. -/
  | change (after : FileSystem)
  /-- An intake of an event begins. -/
  | event (e : ChangeEvent)
  /-- The intake with this number takes its next step. -/
  | intake (i : Nat)
  /-- A flush begins, unless one is running. -/
  | startFlush
  /-- The flush takes its next step. -/
  | flush

namespace BusyWorld

variable {σ : Type} (ops : DocumentStore σ) (parse : Parser)

def buffer (s : BusyWorld σ) : Buffer := s.maintainer.buffer

def scope (s : BusyWorld σ) : Scope := s.maintainer.scope

def withBuffer (s : BusyWorld σ) (buffer : Buffer) : BusyWorld σ :=
  { s with maintainer := { s.maintainer with buffer } }

/-- The pending actions move out of the buffer. -/
def startFlush (s : BusyWorld σ) : BusyWorld σ :=
  match s.stage with
  | .rest _ =>
      if s.buffer.pending.isEmpty then { s with stage := .rest {} }
      else
        { s.withBuffer { s.buffer with pending := [] } with
          stage := .planning s.buffer.pending {} }
  | _ => s

def importStep (s : BusyWorld σ) (plan : FlushPlan) : BusyWorld σ :=
  if plan.upserts.isEmpty then { s with stage := .deleting plan.deletes plan.report }
  else
    let imported :=
      (FlushRun.importAll ops (plan.upserts.map Prod.fst) ⟨plan.report, s.buffer, s.store⟩).value
    let report := imported.2.report
    { s with
      store := imported.2.store
      stage := if imported.1 then .remembering plan report else .deleting plan.deletes report }

def deleteStep (s : BusyWorld σ) (target : String × Path) (rest : List (String × Path))
    (report : FlushReport) : BusyWorld σ :=
  let run := (FlushRun.deleteOne ops ⟨report, s.buffer, s.store⟩ target).value
  { s.withBuffer run.buffer with store := run.store, stage := .deleting rest run.report }

def flushStep (s : BusyWorld σ) : BusyWorld σ :=
  match s.stage with
  | .rest _ => s
  | .planning (p :: todo) plan =>
      { s with stage := .planning todo (plan.add parse s.fs s.scope p).value }
  | .planning [] plan => s.importStep ops plan
  | .remembering plan report =>
      { s.withBuffer (s.buffer.remember (plan.upserts.map Prod.snd)) with
        stage := .deleting plan.deletes report }
  | .deleting (target :: rest) report => s.deleteStep ops target rest report
  | .deleting [] report => { s with stage := .rest report }

def intakeStep (s : BusyWorld σ) (i : Nat) : BusyWorld σ :=
  match s.intakes[i]? with
  | none => s
  | some intake =>
      let (buffer, next) := intake.advance s.fs s.scope s.buffer
      { s.withBuffer buffer with intakes := s.intakes.set i next }

def step (s : BusyWorld σ) : BusyAct → BusyWorld σ
  | .change after => { s with fs := after }
  | .event e => { s with intakes := s.intakes ++ [.looking (e.actions s.fs) []] }
  | .intake i => s.intakeStep i
  | .startFlush => s.startFlush
  | .flush => s.flushStep ops parse

@[simp] theorem step_flush (s : BusyWorld σ) : s.step ops parse .flush = s.flushStep ops parse :=
  rfl

def run (s : BusyWorld σ) (acts : List BusyAct) : BusyWorld σ := acts.foldl (step ops parse) s

@[simp] theorem run_nil (s : BusyWorld σ) : s.run ops parse [] = s := rfl

@[simp] theorem run_cons (s : BusyWorld σ) (act : BusyAct) (acts : List BusyAct) :
    s.run ops parse (act :: acts) = (s.step ops parse act).run ops parse acts := rfl

@[simp] theorem run_append (s : BusyWorld σ) (acts acts' : List BusyAct) :
    s.run ops parse (acts ++ acts') = (s.run ops parse acts).run ops parse acts' := by
  simp [run]

variable {ops parse}

/-- The start of a flush touches the pending actions and the stage alone. -/
theorem exists_startFlush_eq (s : BusyWorld σ) :
    ∃ pending stage, s.startFlush = { s.withBuffer { s.buffer with pending } with stage } := by
  unfold startFlush
  split
  · split
    · exact ⟨_, _, rfl⟩
    · exact ⟨[], _, rfl⟩
  · exact ⟨_, _, rfl⟩

variable (ops parse) in
/-- A step of a flush touches the indexed paths, the store and the stage alone. -/
theorem exists_flushStep_eq (s : BusyWorld σ) :
    ∃ indexed store stage, s.flushStep ops parse =
      { s.withBuffer { s.buffer with indexed } with store, stage } := by
  unfold flushStep
  split
  · exact ⟨_, _, _, rfl⟩
  · exact ⟨_, _, _, rfl⟩
  · unfold importStep
    split <;> exact ⟨_, _, _, rfl⟩
  · rename_i plan report hremembering
    exact ⟨(s.buffer.remember (plan.upserts.map Prod.snd)).indexed, _, _, rfl⟩
  · rename_i target rest report hdeleting
    let run := (FlushRun.deleteOne ops ⟨report, s.buffer, s.store⟩ target).value
    have hbuffer : run.buffer = { s.buffer with indexed := run.buffer.indexed } := by
      rcases FlushRun.buffer_deleteOne ops ⟨report, s.buffer, s.store⟩ target with hb | hb
      · rw [show run.buffer = s.buffer from hb]
      · rw [show run.buffer = s.buffer.forget target.2 from hb]
        rfl
    refine ⟨run.buffer.indexed, run.store, .deleting rest run.report, ?_⟩
    rw [← hbuffer]
    rfl
  · exact ⟨_, _, _, rfl⟩

/-- A step of an intake touches the buffer and the intakes alone. -/
theorem exists_intakeStep_eq (s : BusyWorld σ) (i : Nat) :
    ∃ buffer intakes, s.intakeStep i = { s.withBuffer buffer with intakes } := by
  unfold intakeStep
  split
  · exact ⟨s.buffer, _, rfl⟩
  · exact ⟨_, _, rfl⟩

@[simp] theorem scope_startFlush (s : BusyWorld σ) : s.startFlush.scope = s.scope := by
  obtain ⟨_, _, h⟩ := s.exists_startFlush_eq
  rw [h]
  rfl

@[simp] theorem scope_step (s : BusyWorld σ) (act : BusyAct) :
    (s.step ops parse act).scope = s.scope := by
  cases act with
  | change after => rfl
  | event e => rfl
  | intake i =>
      obtain ⟨_, _, h⟩ := s.exists_intakeStep_eq i
      exact (congrArg scope h).trans rfl
  | startFlush => exact scope_startFlush s
  | flush =>
      obtain ⟨_, _, _, h⟩ := s.exists_flushStep_eq ops parse
      exact (congrArg scope h).trans rfl

@[simp] theorem scope_run (s : BusyWorld σ) (acts : List BusyAct) :
    (s.run ops parse acts).scope = s.scope := by
  induction acts generalizing s with
  | nil => rfl
  | cons act acts ih => rw [run_cons, ih, scope_step]

@[simp] theorem fs_startFlush (s : BusyWorld σ) : s.startFlush.fs = s.fs := by
  obtain ⟨_, _, h⟩ := s.exists_startFlush_eq
  rw [h]
  rfl

/-- The disk changes in changes of the disk only. -/
theorem fs_step {act : BusyAct} (hact : ∀ after, act ≠ .change after) (s : BusyWorld σ) :
    (s.step ops parse act).fs = s.fs := by
  cases act with
  | change after => exact absurd rfl (hact after)
  | event e => rfl
  | intake i =>
      obtain ⟨_, _, h⟩ := s.exists_intakeStep_eq i
      exact (congrArg (·.fs) h).trans rfl
  | startFlush => exact fs_startFlush s
  | flush =>
      obtain ⟨_, _, _, h⟩ := s.exists_flushStep_eq ops parse
      exact (congrArg (·.fs) h).trans rfl

end BusyWorld

/-! ## With nothing in between -/

theorem Buffer.expand_of_isVanished {fs : FileSystem} {scope : Scope} {p : PathAction} (b : Buffer)
    (h : scope.isVanished fs p = true) :
    b.expand fs scope p = (b.knownUnder p.1).map (·, .delete) := by
  simp only [Scope.isVanished, Bool.and_eq_true, decide_eq_true_eq, Bool.not_eq_true'] at h
  obtain ⟨⟨⟨hdelete, hdir⟩, hname⟩, hgone⟩ := h
  simp [expand, hdir, hname, hgone, hdelete]

namespace BusyWorld

variable {σ : Type} {ops : DocumentStore σ} {parse : Parser}

@[simp] theorem withBuffer_buffer (s : BusyWorld σ) : s.withBuffer s.buffer = s := rfl

/-- The world with one more intake. -/
def withIntake (s : BusyWorld σ) (intake : Intake) : BusyWorld σ :=
  { s with intakes := s.intakes ++ [intake] }

theorem step_withIntake (s : BusyWorld σ) (intake : Intake) :
    (s.withIntake intake).step ops parse (.intake s.intakes.length) =
      (s.withBuffer (intake.advance s.fs s.scope s.buffer).1).withIntake
        (intake.advance s.fs s.scope s.buffer).2 := by
  simp [step, intakeStep, withIntake, withBuffer, scope, buffer]

variable (ops parse) in
theorem exists_run_looking (s : BusyWorld σ) (todo found : List PathAction) :
    ∃ n, (s.withIntake (.looking todo found)).run ops parse
        (.replicate n (.intake s.intakes.length)) =
      (s.withBuffer (s.buffer.insertAll
        (found ++ todo.flatMap (s.buffer.expand s.fs s.scope)))).withIntake .done := by
  induction todo generalizing found with
  | nil =>
      refine ⟨1, ?_⟩
      rw [List.replicate_one, run_cons, step_withIntake]
      simp [Intake.advance]
  | cons p todo ih =>
      obtain ⟨n, hn⟩ := ih (found ++ s.buffer.expand s.fs s.scope p)
      rw [List.append_assoc] at hn
      cases hvanished : s.scope.isVanished s.fs p with
      | false =>
          refine ⟨n + 1, ?_⟩
          rw [List.replicate_succ, run_cons, step_withIntake]
          simp only [Intake.advance, hvanished, Bool.false_eq_true, if_false]
          exact hn
      | true =>
          -- one look, and one step for each of the two sets that are read
          refine ⟨n + 3, ?_⟩
          rw [List.flatMap_cons, ← hn, Buffer.expand_of_isVanished _ hvanished]
          simp only [List.replicate_succ, run_cons, step_withIntake, Intake.advance, hvanished,
            if_true, withBuffer_buffer]
          rfl

/-- With nothing in between, an intake comes to what the maintainer makes of the event. -/
theorem exists_run_event (s : BusyWorld σ) (e : ChangeEvent) :
    ∃ n, s.run ops parse (.event e :: .replicate n (.intake s.intakes.length)) =
      (s.withBuffer (s.maintainer.handle s.fs e).value.buffer).withIntake .done := by
  obtain ⟨n, hn⟩ := s.exists_run_looking ops parse (e.actions s.fs) []
  exact ⟨n, hn⟩

/-! ### Flushes -/

theorem run_planning (s : BusyWorld σ) (todo : List PathAction) (plan : FlushPlan) :
    { s with stage := .planning todo plan }.run ops parse (.replicate todo.length .flush) =
      { s with
        stage := .planning []
          (todo.foldl (fun plan p => (plan.add parse s.fs s.scope p).value) plan) } := by
  induction todo generalizing plan with
  | nil => rfl
  | cons p todo ih => exact ih (plan.add parse s.fs s.scope p).value

variable (ops parse) in
theorem run_deleting (s : BusyWorld σ) (targets : List (String × Path)) (report : FlushReport) :
    { s with stage := .deleting targets report }.run ops parse
        (.replicate (targets.length + 1) .flush) =
      let run := FlushRun.deleteAll ops ⟨report, s.buffer, s.store⟩ targets
      { s.withBuffer run.buffer with store := run.store, stage := .rest run.report } := by
  induction targets generalizing s report with
  | nil => rfl
  | cons target targets ih =>
      let run := (FlushRun.deleteOne ops ⟨report, s.buffer, s.store⟩ target).value
      exact ih { s.withBuffer run.buffer with store := run.store } run.report

variable (ops parse) in
theorem exists_run_import (s : BusyWorld σ) (plan : FlushPlan) :
    ∃ n, { s with stage := .planning [] plan }.run ops parse (.replicate n .flush) =
      let run := (FlushRun.upsertAll ops plan ⟨plan.report, s.buffer, s.store⟩).value
      { s.withBuffer run.buffer with
        store := run.store, stage := .deleting plan.deletes run.report } := by
  by_cases hnone : plan.upserts.isEmpty = true
  · refine ⟨1, ?_⟩
    simp [step, flushStep, importStep, FlushRun.upsertAll, hnone]
  · let imported :=
      (FlushRun.importAll ops (plan.upserts.map Prod.fst) ⟨plan.report, s.buffer, s.store⟩).value
    have hbuffer : imported.2.buffer = s.buffer :=
      (FlushRun.importAll_cases ops (plan.upserts.map Prod.fst)
        ⟨plan.report, s.buffer, s.store⟩).2.1
    have hupsert : (FlushRun.upsertAll ops plan ⟨plan.report, s.buffer, s.store⟩).value =
        if imported.1 then
          { imported.2 with buffer := imported.2.buffer.remember (plan.upserts.map Prod.snd) }
        else imported.2 := by
      simp [FlushRun.upsertAll, hnone, imported]
    have himport : { s with stage := .planning [] plan }.step ops parse .flush =
        { s with
          store := imported.2.store
          stage :=
            if imported.1 then .remembering plan imported.2.report
            else .deleting plan.deletes imported.2.report } := if_neg hnone
    rw [hupsert]
    cases hwent : imported.1 with
    | true =>
        refine ⟨2, ?_⟩
        rw [List.replicate_succ, run_cons, himport, hwent, hbuffer]
        rfl
    | false =>
        refine ⟨1, ?_⟩
        rw [List.replicate_one, run_cons, himport, hwent]
        simp only [Bool.false_eq_true, if_false, hbuffer, withBuffer_buffer]
        rfl

/-- With nothing in between, a flush comes to what the maintainer makes of it. -/
theorem exists_run_startFlush (s : BusyWorld σ) {report : FlushReport}
    (hrest : s.stage = .rest report) :
    let flushed := (s.maintainer.flush ops parse s.fs s.store).value
    ∃ n, s.run ops parse (.startFlush :: .replicate n .flush) =
      { s with maintainer := flushed.2.1, store := flushed.2.2, stage := .rest flushed.1 } := by
  intro flushed
  by_cases hnone : s.buffer.pending.isEmpty = true
  · have hsame : flushed = ({}, s.maintainer, s.store) := by
      have hflush : s.maintainer.buffer.pending.isEmpty = true := hnone
      simp [flushed, Maintainer.flush, Buffer.flush, hflush]
    refine ⟨0, ?_⟩
    rw [hsame]
    simp [step, startFlush, hrest, hnone]
  · let emptied := s.withBuffer { s.buffer with pending := [] }
    let plan :=
      s.buffer.pending.foldl (fun plan p => (FlushPlan.add parse s.fs s.scope plan p).value) {}
    obtain ⟨n, hn⟩ := exists_run_import ops parse emptied plan
    refine ⟨s.buffer.pending.length + (n + (plan.deletes.length + 1)), ?_⟩
    have hstart : s.step ops parse .startFlush =
        { emptied with stage := .planning s.buffer.pending {} } := by
      simp [step, startFlush, hrest, hnone, emptied]
    rw [run_cons, hstart, List.replicate_add, List.replicate_add, run_append, run_append,
      run_planning]
    let upserted := (FlushRun.upsertAll ops plan ⟨plan.report, emptied.buffer, s.store⟩).value
    have hdelete := run_deleting ops parse
      { emptied.withBuffer upserted.buffer with store := upserted.store } plan.deletes
      upserted.report
    have hplan : plan = (FlushPlan.ofPending parse s.fs s.scope s.buffer.pending).value :=
      (Logged.value_foldlM _ _ _).symm
    have hflush : (s.buffer.flush ops parse s.fs s.scope s.store).value =
        FlushRun.deleteAll ops upserted plan.deletes := by
      unfold Buffer.flush
      rw [if_neg hnone]
      simp only [Logged.value_bind, Logged.value_pure, FlushRun.value_carryOut, ← hplan]
      rfl
    refine (congrArg (run ops parse · _) hn).trans (hdelete.trans ?_)
    have hflushed : flushed = ((FlushRun.deleteAll ops upserted plan.deletes).report,
        { s.maintainer with buffer := (FlushRun.deleteAll ops upserted plan.deletes).buffer },
        (FlushRun.deleteAll ops upserted plan.deletes).store) := by
      rw [← hflush]
      rfl
    rw [hflushed]
    rfl

end BusyWorld

end SymbolIndex
