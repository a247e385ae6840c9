-- SUMMARY: What a running flush, and an intake beside it, keep from step to step.
import SymbolIndex.Proofs.Store.Calls
import SymbolIndex.Proofs.Watch.SoundStates
import SymbolIndex.Proofs.Watch.VanishedDirectory

/-!
# Steps of a running flush

The running flush has taken the pending paths along, so an intake finds only
those that it leaves in the buffer: what is pending anew stays pending until the
next flush, and what is indexed stays so until its document is deleted. A path
that is neither, because the running flush has it and has not remembered it yet,
is out of sight of an intake that looks for the files of a directory.
-/

namespace SymbolIndex

namespace BusyWorld

variable {σ : Type} {ops : DocumentStore σ} {parse : Parser} {top : RealPath} {s : BusyWorld σ}

/-! ## Pending paths -/

theorem pendingPaths_flushStep (s : BusyWorld σ) :
    (s.flushStep ops parse).buffer.pendingPaths = s.buffer.pendingPaths := by
  obtain ⟨_, _, _, h⟩ := s.exists_flushStep_eq ops parse
  rw [h]
  rfl

/-- What is pending stays pending until a flush starts. -/
theorem mem_pendingPaths_step {act : BusyAct} (hact : act ≠ .startFlush) {q : Path}
    (h : q ∈ s.buffer.pendingPaths) : q ∈ (s.step ops parse act).buffer.pendingPaths := by
  cases act with
  | change after => exact h
  | event e => exact h
  | intake i =>
      dsimp only [step]
      unfold intakeStep
      split
      · exact h
      · exact Intake.mem_pending_advance h
  | startFlush => exact absurd rfl hact
  | flush =>
      dsimp only [step]
      rwa [pendingPaths_flushStep]

/-! ## Intakes under way -/

section Intakes

variable {i : Nat} {intake : Intake} {act : BusyAct} {q : Path}

/-- Nobody else takes the steps of an intake. -/
theorem getElem?_intakes_step (hi : s.intakes[i]? = some intake) (hact : act ≠ .intake i) :
    (s.step ops parse act).intakes[i]? = some intake := by
  have hlt : i < s.intakes.length := (List.getElem?_eq_some_iff.1 hi).1
  cases act with
  | change after => exact hi
  | event e => exact (List.getElem?_append_left hlt).trans hi
  | intake j =>
      have hne : j ≠ i := fun h => hact (congrArg BusyAct.intake h)
      dsimp only [step]
      unfold intakeStep
      split
      · exact hi
      · exact (List.getElem?_set_ne hne).trans hi
  | startFlush =>
      obtain ⟨_, _, h⟩ := s.exists_startFlush_eq
      exact (congrArg (·.intakes[i]?) h).trans hi
  | flush =>
      obtain ⟨_, _, _, h⟩ := s.exists_flushStep_eq ops parse
      exact (congrArg (·.intakes[i]?) h).trans hi

variable (ops parse) in
theorem step_intake (hi : s.intakes[i]? = some intake) :
    (s.step ops parse (.intake i)).intakes[i]? = some (intake.advance s.fs s.scope s.buffer).2 ∧
      (s.step ops parse (.intake i)).buffer = (intake.advance s.fs s.scope s.buffer).1 := by
  have hlt : i < s.intakes.length := (List.getElem?_eq_some_iff.1 hi).1
  dsimp only [step]
  unfold intakeStep
  rw [hi]
  exact ⟨List.getElem?_set_self hlt, rfl⟩

/-- The intake is going to fill in the path, or the path is pending. -/
def Finds (s : BusyWorld σ) (i : Nat) (q : Path) : Prop :=
  (∃ intake, s.intakes[i]? = some intake ∧ q ∈ intake.found) ∨ q ∈ s.buffer.pendingPaths

theorem Finds.step (h : s.Finds i q) (hs : s.IsSound top) (hact : act ≠ .startFlush) :
    (s.step ops parse act).Finds i q := by
  rcases h with ⟨intake, hi, hfound⟩ | hpending
  · by_cases hturn : act = .intake i
    · rw [hturn]
      obtain ⟨hnext, hbuffer⟩ := step_intake ops parse hi
      have hkept := Intake.mem_found_or_pending_advance s.fs s.scope
        (fun p hp => (hs.tracks p (.inr hp)).1)
        (fun p hp => ((hs.intakes intake (List.mem_of_getElem? hi)).found p hp).1) hfound
      rw [← hbuffer] at hkept
      exact hkept.imp (fun hq => ⟨_, hnext, hq⟩) id
    · exact .inl ⟨intake, getElem?_intakes_step hi hturn, hfound⟩
  · exact .inr (mem_pendingPaths_step hact hpending)

end Intakes

end BusyWorld

/-! ## Steps of a flush of the store in memory -/

/-- The documents that a flush is going to delete, with their paths. -/
def FlushStage.deletes : FlushStage → List (String × Path)
  | rest _ => []
  | planning _ plan => plan.deletes
  | remembering plan _ => plan.deletes
  | deleting targets _ => targets

/-- Nothing is imported any more before the next flush. -/
def FlushStage.hasImported : FlushStage → Bool
  | planning _ _ => false
  | _ => true

theorem FlushPlan.deletes_subset_note (plan : FlushPlan) (p : Path) (fate : Fate) :
    plan.deletes ⊆ (plan.note p fate).deletes := by
  cases fate with
  | delete id => exact List.subset_append_left _ _
  | _ => exact List.Subset.refl _

/-- An import of the store in memory leaves what it holds, or puts documents of the
batch in its place. -/
theorem FlushRun.importAll_memory (docs : List IndexDocument) (run : FlushRun MemoryStore) :
    let after := (importAll MemoryStore.operations docs run).value.2
    after.store.failDeletes = run.store.failDeletes ∧
      ∀ id, after.store.get? id = run.store.get? id ∨
        ∃ doc ∈ docs, doc.id = id ∧ after.store.get? id = some doc := by
  intro after
  have hstore : after.store = (MemoryStore.importDocuments docs run.store).2 :=
    (importAll_cases MemoryStore.operations docs run).1
  rw [hstore]
  unfold MemoryStore.importDocuments
  cases run.store.failImports with
  | true => exact ⟨rfl, fun _ => .inl rfl⟩
  | false =>
      simp only [Bool.false_eq_true, if_false, MemoryStore.foldl_insert, true_and]
      intro id
      have hfind := MemoryStore.find?_insertAll docs run.store.documents id
      cases hdocs : docs.reverse.find? (·.id = id) with
      | none =>
          rw [hdocs, Option.none_or] at hfind
          exact .inl hfind
      | some doc =>
          rw [hdocs, Option.some_or] at hfind
          exact .inr ⟨doc, List.mem_reverse.1 (List.mem_of_find?_eq_some hdocs),
            by simpa using List.find?_some hdocs, hfind⟩

theorem FlushRun.deleteOne_memory {run : FlushRun MemoryStore} (target : String × Path)
    (hworks : run.store.failDeletes = false) :
    let after := (deleteOne MemoryStore.operations run target).value
    after.buffer = run.buffer.forget target.2 ∧ after.store.failDeletes = false ∧
      ∀ id, after.store.get? id = if id = target.1 then none else run.store.get? id := by
  intro after
  have hafter := deleteAll_of_working run [target] hworks
  have hsame : after = deleteAll MemoryStore.operations run [target] := rfl
  rw [hsame, hafter]
  refine ⟨?_, hworks, fun id => ?_⟩
  · simp [Buffer.forget]
  · simpa [MemoryStore.get?] using MemoryStore.find?_eraseAll [target.1] run.store.documents id

namespace BusyWorld

/-- All that a step of a flush can come to. -/
inductive FlushMove (parse : Parser) (s t : BusyWorld MemoryStore) : Prop where
  | rest {report : FlushReport} (hstage : s.stage = .rest report) (h : t = s)
  | look {p : PathAction} {todo : List PathAction} {plan : FlushPlan}
      (hstage : s.stage = .planning (p :: todo) plan)
      (h : t = { s with stage := .planning todo (plan.note p.1 (s.scope.fate parse s.fs p.1)) })
  | importAll {plan : FlushPlan} (hstage : s.stage = .planning [] plan)
      (hdeletes : t.stage.deletes = plan.deletes) (himported : t.stage.hasImported = true)
      (hbuffer : t.buffer = s.buffer)
      (hstore : ∀ id, t.store.get? id = s.store.get? id ∨
        ∃ doc p, (doc, p) ∈ plan.upserts ∧ doc.id = id ∧ t.store.get? id = some doc)
  | remember {plan : FlushPlan} {report : FlushReport} (hstage : s.stage = .remembering plan report)
      (h : t = { s.withBuffer (s.buffer.remember (plan.upserts.map Prod.snd)) with
        stage := .deleting plan.deletes report })
  | delete {target : String × Path} {rest : List (String × Path)} {report report' : FlushReport}
      (hstage : s.stage = .deleting (target :: rest) report)
      (hafter : t.stage = .deleting rest report') (hbuffer : t.buffer = s.buffer.forget target.2)
      (hstore : ∀ id, t.store.get? id = if id = target.1 then none else s.store.get? id)
  | finish {report : FlushReport} (hstage : s.stage = .deleting [] report)
      (h : t = { s with stage := .rest report })

variable {parse : Parser} {top : RealPath} {s : BusyWorld MemoryStore}

theorem flushMove (parse : Parser) (hworks : s.store.failDeletes = false) :
    FlushMove parse s (s.flushStep MemoryStore.operations parse) ∧
      (s.flushStep MemoryStore.operations parse).store.failDeletes = false := by
  unfold flushStep
  split
  · rename_i report hstage
    exact ⟨.rest hstage rfl, hworks⟩
  · rename_i p todo plan hstage
    exact ⟨.look hstage (by rw [FlushPlan.value_add]), hworks⟩
  · rename_i plan hstage
    unfold importStep
    split
    · exact ⟨.importAll hstage rfl rfl rfl fun _ => .inl rfl, hworks⟩
    · obtain ⟨hfail, hget⟩ := FlushRun.importAll_memory (plan.upserts.map Prod.fst)
        ⟨plan.report, s.buffer, s.store⟩
      refine ⟨.importAll hstage ?_ ?_ rfl fun id => (hget id).imp_right ?_, hfail.trans hworks⟩
      · dsimp only
        split <;> rfl
      · dsimp only
        split <;> rfl
      · rintro ⟨doc, hdoc, hid, hfound⟩
        obtain ⟨⟨doc', p⟩, hmem, rfl⟩ := List.mem_map.1 hdoc
        exact ⟨doc', p, hmem, hid, hfound⟩
  · rename_i plan report hstage
    exact ⟨.remember hstage rfl, hworks⟩
  · rename_i target rest report hstage
    let run : FlushRun MemoryStore := ⟨report, s.buffer, s.store⟩
    have hrun : run.store.failDeletes = false := hworks
    obtain ⟨hbuffer, hfail, hget⟩ := FlushRun.deleteOne_memory target hrun
    exact ⟨.delete hstage rfl hbuffer hget, hfail⟩
  · rename_i report hstage
    exact ⟨.finish hstage rfl, hworks⟩

theorem store_startFlush (s : BusyWorld MemoryStore) : s.startFlush.store = s.store := by
  obtain ⟨_, _, h⟩ := s.exists_startFlush_eq
  rw [h]
  rfl

theorem indexed_startFlush (s : BusyWorld MemoryStore) :
    s.startFlush.buffer.indexed = s.buffer.indexed := by
  obtain ⟨_, _, h⟩ := s.exists_startFlush_eq
  rw [h]
  rfl

/-- Others touch neither the store nor the flush nor the indexed paths. -/
theorem frame_step (parse : Parser) {act : BusyAct} (hflush : act ≠ .flush)
    (hstart : act ≠ .startFlush) :
    (s.step MemoryStore.operations parse act).store = s.store ∧
      (s.step MemoryStore.operations parse act).stage = s.stage ∧
      (s.step MemoryStore.operations parse act).buffer.indexed = s.buffer.indexed := by
  cases act with
  | change after => exact ⟨rfl, rfl, rfl⟩
  | event e => exact ⟨rfl, rfl, rfl⟩
  | intake i =>
      dsimp only [step]
      unfold intakeStep
      split
      · exact ⟨rfl, rfl, rfl⟩
      · exact ⟨rfl, rfl, Intake.indexed_advance⟩
  | startFlush => exact absurd rfl hstart
  | flush => exact absurd rfl hflush

theorem works_step (hworks : s.store.failDeletes = false) {act : BusyAct}
    (hstart : act ≠ .startFlush) :
    (s.step MemoryStore.operations parse act).store.failDeletes = false := by
  by_cases hflush : act = .flush
  · rw [hflush]
    exact (flushMove parse hworks).2
  · rw [(frame_step parse hflush hstart).1]
    exact hworks

/-- What steps preserve, whoever takes them, holds until the next flush starts. -/
theorem run_induction {P : BusyWorld MemoryStore → Prop} {acts : List BusyAct}
    (hstep : ∀ (s : BusyWorld MemoryStore) act, act ∈ acts → s.IsSound top →
      s.store.failDeletes = false → P s → P (s.step MemoryStore.operations parse act))
    (hs : s.IsSound top) (hworks : s.store.failDeletes = false)
    (hacts : ∀ act ∈ acts, act.IsLinkFree top ∧ act ≠ .startFlush) (h : P s) :
    P (s.run MemoryStore.operations parse acts) := by
  induction acts generalizing s with
  | nil => exact h
  | cons act acts ih =>
      obtain ⟨hfree, hstart⟩ := hacts act List.mem_cons_self
      exact ih (fun s act' hact' => hstep s act' (List.mem_cons_of_mem _ hact')) (hs.step hfree)
        (works_step hworks hstart) (fun a ha => hacts a (List.mem_cons_of_mem _ ha))
        (hstep s act List.mem_cons_self hs hworks h)

/-! ## Documents that are gone -/

/-- Nothing stands under the id, and nothing is imported before the next flush. -/
structure Gone (s : BusyWorld MemoryStore) (id : String) : Prop where
  imported : s.stage.hasImported = true
  none : s.store.get? id = none

section

variable {act : BusyAct} {id : String} {q : Path}

theorem Gone.step (h : s.Gone id) (hworks : s.store.failDeletes = false)
    (hstart : act ≠ .startFlush) : (s.step MemoryStore.operations parse act).Gone id := by
  by_cases hflush : act = .flush
  · subst hflush
    have himported := h.imported
    cases (flushMove parse hworks).1 with
    | rest hstage hafter =>
        rw [step_flush, hafter]
        exact h
    | look hstage hafter =>
        rw [hstage] at himported
        cases himported
    | importAll hstage hdeletes hdone hbuffer hstore =>
        rw [hstage] at himported
        cases himported
    | remember hstage hafter =>
        rw [step_flush, hafter]
        exact ⟨rfl, h.none⟩
    | delete hstage hafter hbuffer hstore =>
        refine ⟨congrArg FlushStage.hasImported hafter, (hstore id).trans ?_⟩
        rw [h.none, ite_self]
    | finish hstage hafter =>
        rw [step_flush, hafter]
        exact ⟨rfl, h.none⟩
  · obtain ⟨hstore, hstage, -⟩ := frame_step (s := s) parse hflush hstart
    exact ⟨(congrArg FlushStage.hasImported hstage).trans h.imported,
      (congrArg (MemoryStore.get? · id) hstore).trans h.none⟩

/-- The flush is going to delete the document, or has done so. -/
def Dooms (s : BusyWorld MemoryStore) (id : String) (q : Path) : Prop :=
  (id, q) ∈ s.stage.deletes ∨ s.Gone id

theorem Dooms.step (h : s.Dooms id q) (hworks : s.store.failDeletes = false)
    (hstart : act ≠ .startFlush) : (s.step MemoryStore.operations parse act).Dooms id q := by
  rcases h with hmem | hgone
  · by_cases hflush : act = .flush
    · subst hflush
      cases (flushMove parse hworks).1 with
      | rest hstage hafter =>
          rw [hstage] at hmem
          cases hmem
      | @look p todo plan hstage hafter =>
          left
          rw [hstage] at hmem
          rw [step_flush, hafter]
          exact FlushPlan.deletes_subset_note plan _ _ hmem
      | importAll hstage hdeletes hdone hbuffer hstore =>
          rw [hstage] at hmem
          exact .inl (hdeletes ▸ hmem)
      | remember hstage hafter =>
          rw [hstage] at hmem
          rw [step_flush, hafter]
          exact .inl hmem
      | delete hstage hafter hbuffer hstore =>
          rw [hstage] at hmem
          rcases List.mem_cons.1 hmem with rfl | hmem
          · exact .inr ⟨congrArg FlushStage.hasImported hafter, (hstore id).trans (if_pos rfl)⟩
          · left
            rw [step_flush, hafter]
            exact hmem
      | finish hstage hafter =>
          rw [hstage] at hmem
          cases hmem
    · left
      rw [(frame_step parse hflush hstart).2.1]
      exact hmem
  · exact .inr (hgone.step hworks hstart)

/-- The flush is going to look at the path, or has found it gone. -/
def Faces (s : BusyWorld MemoryStore) (id : String) (q : Path) : Prop :=
  (∃ todo plan, s.stage = .planning todo plan ∧ q ∈ todo.map Prod.fst) ∨ s.Dooms id q

theorem Faces.step (h : s.Faces id q) (hworks : s.store.failDeletes = false)
    (hstart : act ≠ .startFlush) (hfate : s.scope.fate parse s.fs q = .delete id) :
    (s.step MemoryStore.operations parse act).Faces id q := by
  rcases h with ⟨todo, plan, hplanning, hmem⟩ | hdoomed
  · by_cases hflush : act = .flush
    · subst hflush
      cases todo with
      | nil => cases hmem
      | cons p todo =>
          have hlook : s.step MemoryStore.operations parse .flush =
              { s with
                stage := .planning todo (plan.note p.1 (s.scope.fate parse s.fs p.1)) } := by
            simp [step, flushStep, hplanning, FlushPlan.value_add]
          rw [hlook]
          rcases List.mem_cons.1 hmem with rfl | hmem
          · rw [hfate]
            exact .inr (.inl (List.mem_append_right _ List.mem_cons_self))
          · exact .inl ⟨todo, _, rfl, hmem⟩
    · left
      exact ⟨todo, plan, (frame_step parse hflush hstart).2.1.trans hplanning, hmem⟩
  · exact .inr (hdoomed.step hworks hstart)

end

/-! ## Files that are believed to be indexed -/

/-- The file is believed to be indexed, or its document is gone. -/
def Keeps (s : BusyWorld MemoryStore) (top key : RealPath) : Prop :=
  key.toPath ∈ s.buffer.indexed ∨ s.Gone (key.documentId top)

theorem Keeps.step {key : RealPath} (h : s.Keeps top key) (hkey : key.IsProper)
    (hs : s.IsSound top) (hworks : s.store.failDeletes = false) {act : BusyAct}
    (hstart : act ≠ .startFlush) :
    (s.step MemoryStore.operations parse act).Keeps top key := by
  rcases h with hindexed | hgone
  · by_cases hflush : act = .flush
    · subst hflush
      have hstaged := hs.stage
      cases (flushMove parse hworks).1 with
      | rest hstage hafter =>
          rw [step_flush, hafter]
          exact .inl hindexed
      | look hstage hafter =>
          rw [step_flush, hafter]
          exact .inl hindexed
      | importAll hstage hdeletes hdone hbuffer hstore =>
          left
          rw [step_flush, hbuffer]
          exact hindexed
      | @remember plan report hstage hafter =>
          left
          rw [hstage] at hstaged
          rw [step_flush, hafter]
          -- an equal key in another spelling would take its place, but all paths are normal
          refine (Buffer.mem_remember_iff fun p hp => ?_).2 (.inl hindexed)
          rcases hp with hp | hp
          · exact (hs.tracks p (.inl hp)).1
          · obtain ⟨⟨doc, q⟩, hmem, rfl⟩ := List.mem_map.1 hp
            exact (hstaged.upserts doc q hmem).1.1
      | @delete target rest report report' hstage hafter hbuffer hstore =>
          rw [hstage] at hstaged
          obtain ⟨-, key', hkey', hpath, hid⟩ := hstaged target.1 target.2 List.mem_cons_self
          -- the buffer forgets the file only together with its document
          by_cases heq : key = key'
          · subst heq
            exact .inr ⟨congrArg FlushStage.hasImported hafter,
              (hstore _).trans (if_pos hid.symm)⟩
          · left
            rw [step_flush, hbuffer]
            refine Buffer.mem_forget.2 ⟨hindexed, Bool.eq_false_iff.2 fun hsame => heq ?_⟩
            rw [hpath] at hsame
            exact (RealPath.same_toPath hkey hkey').1 hsame
      | finish hstage hafter =>
          rw [step_flush, hafter]
          exact .inl hindexed
    · left
      rw [(frame_step parse hflush hstart).2.2]
      exact hindexed
  · exact .inr (hgone.step hworks hstart)

/-! ## Documents of other paths -/

end BusyWorld

/-- The document was built, on some disk, from another path whose id is the same. -/
def IndexDocument.IsForeign (parse : Parser) (scope : Scope) (top key : RealPath)
    (doc : IndexDocument) : Prop :=
  ∃ key' : RealPath, key'.IsProper ∧ key' ≠ key ∧ key'.documentId top = key.documentId top ∧
    ∃ fs, buildDocument parse fs scope.config scope.root key'.toPath = .ok doc

namespace BusyWorld

variable {parse : Parser} {scope : Scope} {top key : RealPath} {s : BusyWorld MemoryStore}

/-- What stands under the id of a path, or is about to, is the document of another one. -/
structure HoldsForeign (s : BusyWorld MemoryStore) (parse : Parser) (scope : Scope)
    (top key : RealPath) : Prop where
  stored : ∀ doc, s.store.get? (key.documentId top) = some doc →
    doc.IsForeign parse scope top key
  planned : ∀ todo plan, s.stage = .planning todo plan → ∀ doc p, (doc, p) ∈ plan.upserts →
    doc.id = key.documentId top → doc.IsForeign parse scope top key

theorem HoldsForeign.of_hasImported {t : BusyWorld MemoryStore}
    (h : s.HoldsForeign parse scope top key)
    (hstage : t.stage.hasImported = true)
    (hstore : ∀ doc, t.store.get? (key.documentId top) = some doc →
      s.store.get? (key.documentId top) = some doc) : t.HoldsForeign parse scope top key := by
  refine ⟨fun doc hdoc => h.stored doc (hstore doc hdoc), fun todo plan hplanning => ?_⟩
  rw [hplanning] at hstage
  cases hstage

/-- A document that a flush finds for a path comes from another one than a path that is missing. -/
theorem isForeign_of_fate {fs : FileSystem} {p : Path} {doc : IndexDocument}
    (free : fs.IsLinkFree top) (hroot : scope.root = top.toPath) (hp : scope.Tracks p)
    (hmissing : fs.metadata key.toPath = .error .notFound)
    (hfate : scope.fate parse fs p = .upsert doc) (hid : doc.id = key.documentId top) :
    doc.IsForeign parse scope top key := by
  obtain ⟨hfile, hdoc⟩ := Scope.fate_eq_upsert hfate
  obtain ⟨-, key', hkey', rfl, hid'⟩ := hp.isTarget free hroot (id_of_buildDocument hdoc)
  refine ⟨key', hkey', ?_, hid'.symm.trans hid, fs, hdoc⟩
  rintro rfl
  simp [FileSystem.isFile, hmissing] at hfile

theorem HoldsForeign.step (h : s.HoldsForeign parse scope top key) (hs : s.IsSound top)
    (hscope : s.scope = scope) (hworks : s.store.failDeletes = false)
    (hmissing : s.fs.metadata key.toPath = .error .notFound) {act : BusyAct}
    (hstart : act ≠ .startFlush) :
    (s.step MemoryStore.operations parse act).HoldsForeign parse scope top key := by
  by_cases hflush : act = .flush
  · subst hflush
    have hstaged := hs.stage
    cases (flushMove parse hworks).1 with
    | rest hstage hafter =>
        rw [step_flush, hafter]
        exact h
    | @look p todo plan hstage hafter =>
        rw [step_flush, hafter]
        refine ⟨h.stored, ?_⟩
        rintro todo' plan' hplanning doc q hmem hid
        cases hplanning
        rw [hstage] at hstaged
        have hold := h.planned _ plan hstage doc q
        cases hfate : s.scope.fate parse s.fs p.1 with
        | upsert doc' =>
            rw [hfate] at hmem
            rcases List.mem_append.1 hmem with hmem | hmem
            · exact hold hmem hid
            · cases List.mem_singleton.1 hmem
              rw [hscope] at hfate hstaged
              exact isForeign_of_fate hs.linkFree (hscope ▸ hs.root_eq)
                (hstaged.1 p List.mem_cons_self) hmissing hfate hid
        | _ =>
            rw [hfate] at hmem
            exact hold hmem hid
    | @importAll plan hstage hdeletes hdone hbuffer hstore =>
        refine ⟨fun doc hdoc => ?_, fun todo plan hplanning => ?_⟩
        · rcases hstore (key.documentId top) with hsame | ⟨doc', p, hmem, hid, hfound⟩
          · exact h.stored doc (hsame.symm.trans hdoc)
          · cases hfound.symm.trans hdoc
            exact h.planned _ plan hstage doc p hmem hid
        · rw [step_flush] at hplanning
          rw [hplanning] at hdone
          cases hdone
    | remember hstage hafter =>
        rw [step_flush, hafter]
        exact h.of_hasImported rfl fun _ hdoc => hdoc
    | delete hstage hafter hbuffer hstore =>
        refine h.of_hasImported (congrArg FlushStage.hasImported hafter) fun doc hdoc => ?_
        have hget := (hstore (key.documentId top)).symm.trans hdoc
        split at hget
        · cases hget
        · exact hget
    | finish hstage hafter =>
        rw [step_flush, hafter]
        exact h.of_hasImported rfl fun _ hdoc => hdoc
  · obtain ⟨hstore, hstage, -⟩ := frame_step (s := s) parse hflush hstart
    refine ⟨fun doc hdoc => h.stored doc ?_, fun todo plan hplanning => ?_⟩
    · rwa [hstore] at hdoc
    · exact h.planned todo plan (hstage.symm.trans hplanning)

/-! ## Intakes of removals -/

/-- The intake is about to look at a path that was reported gone. -/
def LooksAt (s : BusyWorld MemoryStore) (i : Nat) (p : Path) : Prop :=
  ∃ todo found, s.intakes[i]? = some (.looking ((p, .delete) :: todo) found)

/-- The intake has seen that the directory is gone and is about to read the indexed paths. -/
def ReadsBelow (s : BusyWorld MemoryStore) (i : Nat) (dir : Path) : Prop :=
  ∃ todo found, s.intakes[i]? = some (.readingIndexed dir todo found)

section

variable {i : Nat} {p q : Path} {act : BusyAct}

theorem LooksAt.finds (h : s.LooksAt i p) (hdir : s.fs.isDir p = false)
    (heligible : s.scope.isEligible p = true) :
    (s.step MemoryStore.operations parse (.intake i)).Finds i p := by
  obtain ⟨todo, found, hi⟩ := h
  refine .inl ⟨_, (step_intake _ _ hi).1, ?_⟩
  simp [Intake.advance, Scope.isVanished, hdir, heligible, Buffer.expand, Intake.found]

theorem LooksAt.readsBelow (h : s.LooksAt i p) (hgone : s.fs.exists? p = false)
    (hname : s.scope.isEligible p = false) :
    (s.step MemoryStore.operations parse (.intake i)).ReadsBelow i p := by
  obtain ⟨todo, found, hi⟩ := h
  refine ⟨todo, found, (step_intake _ _ hi).1.trans ?_⟩
  simp [Intake.advance, Scope.isVanished, FileSystem.isDir_of_not_exists hgone, hname, hgone]

/-- When the intake is done, what it found is pending. -/
theorem Finds.mem_pendingPaths (h : s.Finds i q) (hdone : s.intakes[i]? = some .done) :
    q ∈ s.buffer.pendingPaths := by
  rcases h with ⟨intake, hi, hfound⟩ | hpending
  · cases hi.symm.trans hdone
    cases hfound
  · exact hpending

/-- The intake finds the file among the indexed ones or has found it, or its document is
gone. -/
def Notices (s : BusyWorld MemoryStore) (i : Nat) (top dir key : RealPath) : Prop :=
  (s.ReadsBelow i dir.toPath ∧ key.toPath ∈ s.buffer.indexed) ∨ s.Finds i key.toPath ∨
    s.Gone (key.documentId top)

theorem Notices.step {dir : RealPath} (h : s.Notices i top dir key) (hkey : key.IsProper)
    (hunder : dir <+: key) (hne : dir ≠ key) (hs : s.IsSound top)
    (hworks : s.store.failDeletes = false) (hstart : act ≠ .startFlush) :
    (s.step MemoryStore.operations parse act).Notices i top dir key := by
  rcases h with ⟨⟨todo, found, hi⟩, hindexed⟩ | hfinds | hgone
  · by_cases hturn : act = .intake i
    · subst hturn
      refine .inr (.inl (.inl ⟨_, (step_intake _ _ hi).1, ?_⟩))
      refine List.mem_append_right _ (List.mem_filter.2 ⟨hindexed, ?_⟩)
      exact Buffer.isUnder_toPath hkey hunder hne
    · -- before the intake reads the indexed paths, only a delete takes the file away
      have hkeeps : s.Keeps top key := .inl hindexed
      have hnext : (s.step MemoryStore.operations parse act).Keeps top key :=
        hkeeps.step hkey hs hworks hstart
      rcases hnext with hindexed | hgone
      · exact .inl ⟨⟨todo, found, getElem?_intakes_step hi hturn⟩, hindexed⟩
      · exact .inr (.inr hgone)
  · exact .inr (.inl (hfinds.step hs hstart))
  · exact .inr (.inr (hgone.step hworks hstart))

end

/-! ## Two flushes -/

section

variable {acts : List BusyAct}

theorem works_run (hs : s.IsSound top) (hworks : s.store.failDeletes = false)
    (hacts : ∀ act ∈ acts, act.IsLinkFree top ∧ act ≠ .startFlush) :
    (s.run MemoryStore.operations parse acts).store.failDeletes = false :=
  run_induction (P := fun s => s.store.failDeletes = false)
    (fun _ act hact _ hworks _ => works_step hworks (hacts act hact).2) hs hworks hacts hworks

theorem Dooms.gone {report : FlushReport} {id : String} {q : Path} (h : s.Dooms id q)
    (hrest : s.stage = .rest report) : s.Gone id := by
  rcases h with hmem | hgone
  · rw [hrest] at hmem
    cases hmem
  · exact hgone

/-- What steps preserve as long as a file is missing holds until the next flush starts. -/
theorem run_induction_of_missing {P : BusyWorld MemoryStore → Prop}
    (hstep : ∀ (s : BusyWorld MemoryStore) act, act ≠ .startFlush → s.IsSound top →
      s.scope = scope → s.store.failDeletes = false →
      s.fs.metadata key.toPath = .error .notFound →
      P s → P (s.step MemoryStore.operations parse act))
    (hs : s.IsSound top) (hscope : s.scope = scope) (hworks : s.store.failDeletes = false)
    (hmissing : s.fs.metadata key.toPath = .error .notFound)
    (hacts : ∀ act ∈ acts, act.IsLinkFree top ∧ act ≠ .startFlush)
    (hchanges : ∀ after, .change after ∈ acts → after.metadata key.toPath = .error .notFound)
    (h : P s) : P (s.run MemoryStore.operations parse acts) := by
  refine (run_induction (P := fun s => s.scope = scope ∧
    s.fs.metadata key.toPath = .error .notFound ∧ P s) ?_ hs hworks hacts
    ⟨hscope, hmissing, h⟩).2.2
  rintro s act hact hs hworks ⟨hscope, hmissing, h⟩
  refine ⟨(scope_step s act).trans hscope, ?_,
    hstep s act (hacts act hact).2 hs hscope hworks hmissing h⟩
  by_cases hchange : ∃ after, act = .change after
  · obtain ⟨after, rfl⟩ := hchange
    exact hchanges after hact
  · rw [fs_step fun after heq => hchange ⟨after, heq⟩]
    exact hmissing

/-- A flush that finds a pending file gone leaves nothing of it. -/
theorem get?_of_pending (hs : s.IsSound top) (hworks : s.store.failDeletes = false)
    (hkey : key.IsProper) {report report' : FlushReport} (hrest : s.stage = .rest report)
    (hpending : key.toPath ∈ s.buffer.pendingPaths)
    (hmissing : s.fs.metadata key.toPath = .error .notFound)
    (hacts : ∀ act ∈ acts, act.IsLinkFree top ∧ act ≠ .startFlush)
    (hchanges : ∀ after, .change after ∈ acts → after.metadata key.toPath = .error .notFound)
    (hlast : (s.startFlush.run MemoryStore.operations parse acts).stage = .rest report') :
    (s.startFlush.run MemoryStore.operations parse acts).store.get? (key.documentId top) =
      none := by
  have hunder : top <+: key := hs.prefix_of_knows hkey (.inr hpending)
  have hfate : ∀ t : BusyWorld MemoryStore, t.IsSound top →
      t.fs.metadata key.toPath = .error .notFound →
      t.scope.fate parse t.fs key.toPath = .delete (key.documentId top) := by
    intro t ht hmissing
    have hrel := ht.linkFree.relativePath_eq hkey hunder
    rw [← ht.root_eq] at hrel
    exact Scope.fate_of_missing hmissing hrel
  -- the pending path is looked at, found gone, and its document deleted
  have hstart : s.startFlush.Faces (key.documentId top) key.toPath := by
    have hsome : s.buffer.pending.isEmpty = false := by
      cases hnone : s.buffer.pending with
      | nil => simp [Buffer.pendingPaths, hnone] at hpending
      | cons p pending => rfl
    refine .inl ⟨s.buffer.pending, {}, ?_, hpending⟩
    simp [startFlush, hrest, hsome]
  have hfaces : (s.startFlush.run MemoryStore.operations parse acts).Faces (key.documentId top)
      key.toPath :=
    run_induction_of_missing (P := fun t => t.Faces (key.documentId top) key.toPath)
      (fun t act hact ht _ hworks hmissing h => h.step hworks hact (hfate t ht hmissing))
      hs.startFlush (scope_startFlush s) (by rwa [store_startFlush]) (by rwa [fs_startFlush])
      hacts hchanges hstart
  rcases hfaces with ⟨todo, plan, hplanning, -⟩ | hdoomed
  · cases hlast.symm.trans hplanning
  · exact (hdoomed.gone hlast).none

/-- A flush that does not find a file stores nothing under its id but what comes from
other paths. -/
theorem isForeign_of_gone (hs : s.IsSound top) (hworks : s.store.failDeletes = false)
    {report : FlushReport} (hrest : s.stage = .rest report)
    (hgone : s.store.get? (key.documentId top) = none)
    (hmissing : s.fs.metadata key.toPath = .error .notFound)
    (hacts : ∀ act ∈ acts, act.IsLinkFree top ∧ act ≠ .startFlush)
    (hchanges : ∀ after, .change after ∈ acts → after.metadata key.toPath = .error .notFound)
    {doc : IndexDocument}
    (hdoc : (s.startFlush.run MemoryStore.operations parse acts).store.get? (key.documentId top) =
      some doc) : doc.IsForeign parse s.scope top key := by
  have hstart : s.startFlush.HoldsForeign parse s.scope top key := by
    refine ⟨fun doc hdoc => ?_, fun todo plan hplanning doc p hmem => ?_⟩
    · rw [store_startFlush, hgone] at hdoc
      cases hdoc
    · have hplan : plan = {} := by
        simp only [startFlush, hrest] at hplanning
        split at hplanning
        · cases hplanning
        · cases hplanning
          rfl
      rw [hplan] at hmem
      cases hmem
  have hforeign : (s.startFlush.run MemoryStore.operations parse acts).HoldsForeign parse s.scope
      top key :=
    run_induction_of_missing (P := fun t => t.HoldsForeign parse s.scope top key)
      (fun t act hact ht hscope hworks hmissing h => h.step ht hscope hworks hmissing hact)
      hs.startFlush (scope_startFlush s) (by rwa [store_startFlush]) (by rwa [fs_startFlush])
      hacts hchanges hstart
  exact hforeign.stored doc hdoc

end

end BusyWorld

end SymbolIndex
