-- SUMMARY: A removal that is taken in while a flush is running counts in the next flush.
import SymbolIndex.Proofs.Watch.RunningFlush

/-!
# Late removals

A flush is running when the removal of a file, or of a directory above it, is
taken in. Once the intake is done the file is pending again, or the running flush
has deleted its document. A further flush then leaves nothing of it.
-/

namespace SymbolIndex

/-- What happens from the start of a flush on, while an intake takes in a removal, up to
the end of a further flush. -/
structure LateRemoval where
  parse : Parser
  /-- Where the root of the index is. -/
  top : RealPath
  /-- The file whose document is to go. -/
  key : RealPath
  start : BusyWorld MemoryStore
  /-- The number of the intake. -/
  intake : Nat
  /-- From the start of the flush until the intake looks at what was removed. -/
  before : List BusyAct
  /-- From there to the end of the flush. -/
  after : List BusyAct
  /-- While the further flush is running. -/
  further : List BusyAct

namespace LateRemoval

/-! ### The moments -/

variable (r : LateRemoval)

def running : BusyWorld MemoryStore := r.start.startFlush

def looks : BusyWorld MemoryStore := r.running.run MemoryStore.operations r.parse r.before

def looked : BusyWorld MemoryStore := r.looks.step MemoryStore.operations r.parse (.intake r.intake)

def done : BusyWorld MemoryStore := r.looked.run MemoryStore.operations r.parse r.after

def last : BusyWorld MemoryStore := r.done.startFlush.run MemoryStore.operations r.parse r.further

def path : Path := r.key.toPath

def id : String := r.key.documentId r.top

/-! ### The conditions -/

/-- The file is known when the flush starts, deletes go through, no links come up, and
no flush starts but the two. In the end the intake and both flushes are over. -/
structure IsFair : Prop where
  sound : r.start.IsSound r.top
  atRest : ∃ report, r.start.stage = .rest report
  works : r.start.store.failDeletes = false
  isProper : r.key.IsProper
  known : r.start.buffer.Knows r.path
  acts : ∀ act ∈ r.before ++ r.after ++ r.further, act.IsLinkFree r.top ∧ act ≠ .startFlush
  taken : r.done.intakes[r.intake]? = some .done
  ended : ∃ report, r.done.stage = .rest report
  endedAgain : ∃ report, r.last.stage = .rest report

/-- The disk is so when the further flush starts and as long as it is running. -/
def Stays (P : FileSystem → Prop) : Prop :=
  P r.done.fs ∧ ∀ disk, .change disk ∈ r.further → P disk

/-- The further flush does not find the file. -/
def IsMissing : Prop := r.Stays fun disk => disk.metadata r.path = .error .notFound

/-- The event names the file itself, and no directory stands there. -/
structure NamesFile : Prop where
  looksAt : r.looks.LooksAt r.intake r.path
  isFile : r.looks.fs.isDir r.path = false

/-- The event names a directory above the file, and nothing stands there. -/
structure NamesDirectory (dir : RealPath) : Prop where
  isAbove : dir <+: r.key
  ne : dir ≠ r.key
  looksAt : r.looks.LooksAt r.intake dir.toPath
  gone : r.looks.fs.exists? dir.toPath = false
  name : r.looks.scope.isEligible dir.toPath = false

/-- The file does not disappear from view together with the pending paths that the flush
took along. -/
inductive IsInView (dir : RealPath) : Prop where
  /-- It was indexed when the flush started. -/
  | indexed (h : r.path ∈ r.start.buffer.indexed)
  /-- It is indexed when the intake reads the indexed paths. -/
  | remembered (sooner later : List BusyAct) (hafter : r.after = sooner ++ later)
      (hreads : (r.looked.run MemoryStore.operations r.parse sooner).ReadsBelow r.intake dir.toPath)
      (h : r.path ∈ (r.looked.run MemoryStore.operations r.parse sooner).buffer.indexed)
  /-- The flush itself finds it gone. -/
  | foundGone (sooner later : List BusyAct)
      (hacts : r.before ++ .intake r.intake :: r.after = sooner ++ later)
      (h : (r.id, r.path) ∈ (r.running.run MemoryStore.operations r.parse sooner).stage.deletes)
  /-- It is pending again. -/
  | pending (h : r.path ∈ r.done.buffer.pendingPaths)

/-! ### The outcome -/

variable {r}

namespace IsFair

theorem acts_before (h : r.IsFair) : ∀ act ∈ r.before, act.IsLinkFree r.top ∧ act ≠ .startFlush :=
  fun act hact => h.acts act (List.mem_append_left _ (List.mem_append_left _ hact))

theorem acts_after (h : r.IsFair) : ∀ act ∈ r.after, act.IsLinkFree r.top ∧ act ≠ .startFlush :=
  fun act hact => h.acts act (List.mem_append_left _ (List.mem_append_right _ hact))

theorem acts_further (h : r.IsFair) :
    ∀ act ∈ r.further, act.IsLinkFree r.top ∧ act ≠ .startFlush :=
  fun act hact => h.acts act (List.mem_append_right _ hact)

theorem sound_running (h : r.IsFair) : r.running.IsSound r.top := h.sound.startFlush

theorem works_running (h : r.IsFair) : r.running.store.failDeletes = false := by
  unfold running
  rw [BusyWorld.store_startFlush]
  exact h.works

theorem sound_looks (h : r.IsFair) : r.looks.IsSound r.top :=
  h.sound_running.run fun act hact => (h.acts_before act hact).1

theorem works_looks (h : r.IsFair) : r.looks.store.failDeletes = false :=
  BusyWorld.works_run h.sound_running h.works_running h.acts_before

theorem sound_looked (h : r.IsFair) : r.looked.IsSound r.top := h.sound_looks.step trivial

theorem works_looked (h : r.IsFair) : r.looked.store.failDeletes = false :=
  BusyWorld.works_step h.works_looks (by simp)

theorem sound_done (h : r.IsFair) : r.done.IsSound r.top :=
  h.sound_looked.run fun act hact => (h.acts_after act hact).1

theorem works_done (h : r.IsFair) : r.done.store.failDeletes = false :=
  BusyWorld.works_run h.sound_looked h.works_looked h.acts_after

end IsFair

/-- A file that the event names is pending when the flush is over. -/
theorem NamesFile.mem_pendingPaths (hfile : r.NamesFile) (h : r.IsFair) :
    r.path ∈ r.done.buffer.pendingPaths := by
  have hscope : r.looks.scope = r.start.scope := by
    simp [looks, running]
  have heligible : r.looks.scope.isEligible r.path = true := by
    rw [hscope]
    exact (h.sound.tracks _ h.known).2
  have hlooked : r.looked.Finds r.intake r.path := hfile.looksAt.finds hfile.isFile heligible
  have hdone : r.done.Finds r.intake r.path :=
    BusyWorld.run_induction (P := fun s => s.Finds r.intake r.path)
      (fun s act hact hs _ hfinds => hfinds.step hs (h.acts_after act hact).2)
      h.sound_looked h.works_looked h.acts_after hlooked
  exact hdone.mem_pendingPaths h.taken

namespace NamesDirectory

variable {dir : RealPath}

/-- What the intake is about to notice at some moment it has noticed when the flush is over. -/
theorem of_notices (hdir : r.NamesDirectory dir) (h : r.IsFair) {sooner later : List BusyAct}
    (hafter : r.after = sooner ++ later)
    (hnotices : (r.looked.run MemoryStore.operations r.parse sooner).Notices r.intake r.top dir
      r.key) :
    r.path ∈ r.done.buffer.pendingPaths ∨ r.done.Gone r.id := by
  have hsooner : ∀ act ∈ sooner, act.IsLinkFree r.top ∧ act ≠ .startFlush :=
    fun act hact => h.acts_after act (hafter ▸ List.mem_append_left _ hact)
  have hlater : ∀ act ∈ later, act.IsLinkFree r.top ∧ act ≠ .startFlush :=
    fun act hact => h.acts_after act (hafter ▸ List.mem_append_right _ hact)
  have hdone : r.done.Notices r.intake r.top dir r.key := by
    unfold done
    rw [hafter, BusyWorld.run_append]
    exact BusyWorld.run_induction (P := fun s => s.Notices r.intake r.top dir r.key)
      (fun s act hact hs hworks hn =>
        hn.step h.isProper hdir.isAbove hdir.ne hs hworks (hlater act hact).2)
      (h.sound_looked.run fun act hact => (hsooner act hact).1)
      (BusyWorld.works_run h.sound_looked h.works_looked hsooner) hlater hnotices
  rcases hdone with ⟨⟨todo, found, hi⟩, -⟩ | hfinds | hgone
  · cases hi.symm.trans h.taken
  · exact .inl (hfinds.mem_pendingPaths h.taken)
  · exact .inr hgone

/-- A file in view below the directory is pending when the flush is over, unless the flush
has deleted its document. -/
theorem pending_or_gone (hdir : r.NamesDirectory dir) (hview : r.IsInView dir) (h : r.IsFair) :
    r.path ∈ r.done.buffer.pendingPaths ∨ r.done.Gone r.id := by
  have hreads : r.looked.ReadsBelow r.intake dir.toPath :=
    hdir.looksAt.readsBelow hdir.gone hdir.name
  cases hview with
  | indexed hindexed =>
      -- from the start on the file is indexed, or its document is gone for this flush
      have hrunning : r.running.Keeps r.top r.key := by
        left
        unfold running
        rwa [BusyWorld.indexed_startFlush]
      have hlooks : r.looks.Keeps r.top r.key :=
        BusyWorld.run_induction (P := fun s => s.Keeps r.top r.key)
          (fun s act hact hs hworks hk =>
            hk.step h.isProper hs hworks (h.acts_before act hact).2)
          h.sound_running h.works_running h.acts_before hrunning
      have hlooked : r.looked.Keeps r.top r.key :=
        hlooks.step h.isProper h.sound_looks h.works_looks (by simp)
      have hnotices : r.looked.Notices r.intake r.top dir r.key :=
        hlooked.elim (fun hindexed => .inl ⟨hreads, hindexed⟩) fun hgone => .inr (.inr hgone)
      exact hdir.of_notices h (List.nil_append r.after).symm hnotices
  | remembered sooner later hafter hreads hindexed =>
      exact hdir.of_notices h hafter (.inl ⟨hreads, hindexed⟩)
  | foundGone sooner later hacts hmem =>
      have hall : ∀ act ∈ sooner ++ later, act.IsLinkFree r.top ∧ act ≠ .startFlush := by
        intro act hact
        rw [← hacts] at hact
        simp only [List.mem_append, List.mem_cons] at hact
        rcases hact with hact | rfl | hact
        · exact h.acts_before act hact
        · exact ⟨trivial, by simp⟩
        · exact h.acts_after act hact
      have hsooner := fun act hact => hall act (List.mem_append_left _ hact)
      have hlater := fun act hact => hall act (List.mem_append_right _ hact)
      have hdone : r.done = (r.running.run MemoryStore.operations r.parse sooner).run
          MemoryStore.operations r.parse later := by
        rw [← BusyWorld.run_append, ← hacts, BusyWorld.run_append]
        rfl
      have hdoomed : r.done.Dooms r.id r.path := by
        rw [hdone]
        exact BusyWorld.run_induction (P := fun s => s.Dooms r.id r.path)
          (fun s act hact _ hworks hd => hd.step hworks (hlater act hact).2)
          (h.sound_running.run fun act hact => (hsooner act hact).1)
          (BusyWorld.works_run h.sound_running h.works_running hsooner) hlater (.inl hmem)
      obtain ⟨report, hended⟩ := h.ended
      exact .inr (hdoomed.gone hended)
  | pending hpending => exact .inl hpending

end NamesDirectory

/-- A removal is taken in while a flush is running. After a further flush that does not
find the file the store holds no document of it, if the event names the file itself, or a
directory above it that is gone and the file is in view. -/
theorem get?_last_eq_none_or (h : r.IsFair) (hmissing : r.IsMissing)
    (hnews : r.NamesFile ∨ ∃ dir, r.NamesDirectory dir ∧ r.IsInView dir) :
    r.last.store.get? r.id = none ∨
      ∃ doc, r.last.store.get? r.id = some doc ∧
        doc.IsForeign r.parse r.start.scope r.top r.key := by
  have hdone : r.path ∈ r.done.buffer.pendingPaths ∨ r.done.Gone r.id :=
    hnews.elim (fun hfile => .inl (hfile.mem_pendingPaths h))
      fun ⟨_, hdir, hview⟩ => hdir.pending_or_gone hview h
  obtain ⟨report, hended⟩ := h.ended
  obtain ⟨report', hlast⟩ := h.endedAgain
  -- the further flush deletes what is pending, and brings nothing back of what is gone
  rcases hdone with hpending | hgone
  · exact .inl (BusyWorld.get?_of_pending h.sound_done h.works_done h.isProper hended hpending
      hmissing.1 h.acts_further hmissing.2 hlast)
  · have hscope : r.done.scope = r.start.scope := by
      simp [done, looked, looks, running]
    cases hget : r.last.store.get? r.id with
    | none => exact .inl rfl
    | some doc =>
        refine .inr ⟨doc, rfl, ?_⟩
        rw [← hscope]
        exact BusyWorld.isForeign_of_gone h.sound_done h.works_done hended hgone.none hmissing.1
          h.acts_further hmissing.2 hget

/-! ### One file -/

def oneFileScope : Scope := { root := .ofString "/r", config := {} }

/-- The file `d/a.txt` is pending when a flush starts. When the flush has looked at it the
disk becomes another one, and the removal of `d` is reported. It becomes a third one when
the further flush has started. -/
def oneFile (indexed : List Path) (disk later : FileSystem) : LateRemoval where
  parse := fun _ => none
  top := [[114]]
  key := [[114], [100], Utf8.encode "a.txt"]
  start := { toWorld := ⟨.oneFile,
    { scope := oneFileScope, buffer := ⟨[(.ofString "/r/d/a.txt", .upsert)], indexed⟩ },
    {}⟩ }
  intake := 0
  before := [.flush, .change disk, .event ⟨.removed, [.ofString "/r/d"]⟩]
  after := [.intake 0, .intake 0, .intake 0, .flush, .flush, .flush]
  further := [.change later, .flush, .flush, .flush, .flush]

/-- The document of the file. -/
def oneFileDocument : IndexDocument :=
  (SourceFile.ofContent (.ofString "/r/d/a.txt") "d/a.txt" [120] 5).document (fun _ => none) {}

section OneFile

variable {indexed : List Path} {disk later : FileSystem}

/-- What can be computed of the scope and of a buffer that knows the file. -/
theorem computed_oneFile :
    (oneFileScope.isEligible (.ofString "/r/d") = false ∧
      oneFileScope.isEligible (.ofString "/r/d/a.txt") = true) ∧
    Buffer.insertAll { indexed := [.ofString "/r/d/a.txt"] }
        (([.ofString "/r/d/a.txt"].filter (Buffer.isUnder (.ofString "/r/d"))).map (·, .delete)) =
      ⟨[(.ofString "/r/d/a.txt", .delete)], [.ofString "/r/d/a.txt"]⟩ ∧
    Path.distinct ([.ofString "/r/d/a.txt"] ++ [.ofString "/r/d/a.txt"]) =
      [.ofString "/r/d/a.txt"] ∧
    oneFileDocument.id =
      RealPath.documentId [[114], [100], Utf8.encode "a.txt"] [[114]] := by
  decide +kernel

theorem path_oneFile (indexed : List Path) (disk later : FileSystem) :
    (oneFile indexed disk later).path = .ofString "/r/d/a.txt" :=
  FileSystem.computed_oneFile.2.1.2.1

theorem toPath_directory_oneFile : RealPath.toPath [[114], [100]] = .ofString "/r/d" :=
  FileSystem.computed_oneFile.2.1.1

theorem isEligible_directory_oneFile : oneFileScope.isEligible (.ofString "/r/d") = false :=
  computed_oneFile.1.1

theorem looks_oneFile (indexed : List Path) (disk later : FileSystem) :
    (oneFile indexed disk later).looks =
      { fs := disk
        maintainer := { scope := oneFileScope, buffer := ⟨[], indexed⟩ }
        store := {}
        stage := .planning [] { upserts := [(oneFileDocument, .ofString "/r/d/a.txt")] }
        intakes := [.looking [(.ofString "/r/d", .delete)] []] } := by
  obtain ⟨-, -, hcontent, hrel⟩ := FileSystem.computed_oneFile
  have hdoc := buildDocument_of_content (fun _ => none) {} hcontent hrel
  have hfate : oneFileScope.fate (fun _ => none) .oneFile
      (.ofString "/r/d/a.txt") = .upsert oneFileDocument :=
    Scope.fate_of_document (FileSystem.metadata_of_content? hcontent) rfl (by decide) hdoc
  have hadd := FlushPlan.value_add (fun _ => none) .oneFile oneFileScope {}
    (.ofString "/r/d/a.txt", .upsert)
  rw [hfate] at hadd
  let r := oneFile indexed disk later
  have hflush : r.running.step MemoryStore.operations (fun _ => none) .flush =
      { r.running with
        stage := .planning [] { upserts := [(oneFileDocument, .ofString "/r/d/a.txt")] } } :=
    congrArg (fun plan => { r.running with stage := .planning [] plan }) hadd
  unfold looks
  show BusyWorld.run MemoryStore.operations (fun _ => none)
    (r.running.step MemoryStore.operations (fun _ => none) .flush)
    [.change disk, .event ⟨.removed, [.ofString "/r/d"]⟩] = _
  rw [hflush]
  rfl

/-- The intake looks at `d`, and its name is not that of a file of the index. -/
theorem looksAt_oneFile (indexed : List Path) (disk later : FileSystem) :
    let s := (oneFile indexed disk later).looks
    s.LooksAt (oneFile indexed disk later).intake (RealPath.toPath [[114], [100]]) ∧
      s.scope.isEligible (RealPath.toPath [[114], [100]]) = false := by
  intro s
  rw [toPath_directory_oneFile, show s = _ from looks_oneFile indexed disk later]
  exact ⟨⟨[], [], rfl⟩, isEligible_directory_oneFile⟩

/-- The intake comes to nothing while `d` stands. -/
theorem intake_of_standing (indexed : List Path) (later : FileSystem)
    (hdir : disk.isDir (.ofString "/r/d") = true) :
    (oneFile indexed disk later).looked.run MemoryStore.operations (fun _ => none)
        [.intake 0, .intake 0, .intake 0] =
      { (oneFile indexed disk later).looks.withBuffer ⟨[], indexed⟩ with intakes := [.done] } := by
  have hvanished : oneFileScope.isVanished disk
      (.ofString "/r/d", .delete) = false := by
    simp [Scope.isVanished, hdir]
  have hexpand :
      ({ indexed } : Buffer).expand disk oneFileScope (.ofString "/r/d", .delete) = [] := by
    simp [Buffer.expand, hdir]
  unfold looked
  rw [looks_oneFile]
  simp [oneFile, BusyWorld.step, BusyWorld.intakeStep, BusyWorld.scope, BusyWorld.buffer,
    BusyWorld.withBuffer, Intake.advance, hvanished, hexpand, Buffer.insertAll]

/-- The intake takes along what is indexed below `d` once `d` is gone. -/
theorem intake_of_gone (indexed : List Path) (later : FileSystem)
    (hgone : disk.exists? (.ofString "/r/d") = false) :
    (oneFile indexed disk later).looked.run MemoryStore.operations (fun _ => none)
        [.intake 0, .intake 0, .intake 0] =
      { (oneFile indexed disk later).looks.withBuffer
          (Buffer.insertAll { indexed }
            ((indexed.filter (Buffer.isUnder (.ofString "/r/d"))).map (·, .delete))) with
        intakes := [.done] } := by
  have hvanished : oneFileScope.isVanished disk
      (.ofString "/r/d", .delete) = true := by
    simp [Scope.isVanished, FileSystem.isDir_of_not_exists hgone, isEligible_directory_oneFile,
      hgone]
  unfold looked
  rw [looks_oneFile]
  simp [oneFile, BusyWorld.step, BusyWorld.intakeStep, BusyWorld.scope, BusyWorld.buffer,
    BusyWorld.withBuffer, Intake.advance, hvanished, Buffer.pendingPaths]

/-- The world in which the flush has stored the document and the intake is done. -/
def oneFileStored (fs : FileSystem) (buffer : Buffer) (stage : FlushStage) :
    BusyWorld MemoryStore where
  fs
  maintainer := { scope := oneFileScope, buffer }
  store := { documents := [oneFileDocument], imports := [[oneFileDocument.id]] }
  stage
  intakes := [.done]

theorem done_oneFile {found : List PathAction}
    (hintake : (oneFile indexed disk later).looked.run MemoryStore.operations (fun _ => none)
        [.intake 0, .intake 0, .intake 0] =
      { (oneFile indexed disk later).looks.withBuffer ⟨found, indexed⟩ with intakes := [.done] }) :
    (oneFile indexed disk later).done =
      oneFileStored disk ⟨found, Path.distinct (indexed ++ [.ofString "/r/d/a.txt"])⟩
        (.rest { upserted := 1 }) := by
  have hafter : (oneFile indexed disk later).after =
      [.intake 0, .intake 0, .intake 0] ++ [.flush, .flush, .flush] := rfl
  unfold done
  rw [hafter, BusyWorld.run_append]
  refine (congrArg (BusyWorld.run _ _ · _) hintake).trans ?_
  rw [looks_oneFile]
  rfl

/-- Where nothing but the file is indexed, the intake takes the file along. -/
theorem done_of_gone (later : FileSystem) (hgone : disk.exists? (.ofString "/r/d") = false) :
    (oneFile [.ofString "/r/d/a.txt"] disk later).done =
      oneFileStored disk ⟨[(.ofString "/r/d/a.txt", .delete)], [.ofString "/r/d/a.txt"]⟩
        (.rest { upserted := 1 }) := by
  obtain ⟨-, hfound, hindexed, -⟩ := computed_oneFile
  have hintake := intake_of_gone [.ofString "/r/d/a.txt"] later hgone
  rw [hfound] at hintake
  rw [done_oneFile hintake, hindexed]

/-- With nothing pending the further flush is over at once. -/
theorem last_of_nothing {indexed' : List Path} {report : FlushReport}
    (hdone : (oneFile indexed disk later).done =
      oneFileStored disk ⟨[], indexed'⟩ (.rest report)) :
    (oneFile indexed disk later).last = oneFileStored later ⟨[], indexed'⟩ (.rest {}) := by
  unfold last
  rw [hdone]
  rfl

/-- With the file pending the further flush looks at it on the last disk. -/
theorem last_of_fate {indexed' : List Path} {report : FlushReport} {fate : Fate}
    (hdone : (oneFile indexed disk later).done =
      oneFileStored disk ⟨[(.ofString "/r/d/a.txt", .delete)], indexed'⟩ (.rest report))
    (hfate : oneFileScope.fate (fun _ => none) later (.ofString "/r/d/a.txt") = fate) :
    (oneFile indexed disk later).last =
      (oneFileStored later ⟨[], indexed'⟩
        (.planning [] (FlushPlan.note {} (.ofString "/r/d/a.txt") fate))).run
          MemoryStore.operations (fun _ => none) [.flush, .flush, .flush] := by
  have hadd := FlushPlan.value_add (fun _ => none) later oneFileScope {}
    (.ofString "/r/d/a.txt", .delete)
  rw [hfate] at hadd
  unfold last
  rw [hdone]
  exact congrArg (fun plan => (oneFileStored later ⟨[], indexed'⟩ (.planning [] plan)).run
    MemoryStore.operations (fun _ => none) [.flush, .flush, .flush]) hadd

theorem isFair_oneFile {found : List PathAction} {indexed' : List Path} {report : FlushReport}
    (hindexed : ∀ p ∈ indexed, p = .ofString "/r/d/a.txt")
    (hdisk : disk.IsLinkFree [[114]]) (hlater : later.IsLinkFree [[114]])
    (hdone : (oneFile indexed disk later).done =
      oneFileStored disk ⟨found, indexed'⟩ (.rest report))
    (hlast : ∃ report, (oneFile indexed disk later).last.stage = .rest report) :
    (oneFile indexed disk later).IsFair := by
  obtain ⟨⟨hfree, htop, -⟩, ⟨-, -, hkey⟩, -⟩ := FileSystem.computed_oneFile
  replace hfree := hfree.isLinkFree
  obtain ⟨⟨-, heligible⟩, -⟩ := computed_oneFile
  have hdir : RealPath.IsProper [[114], [100]] := by decide
  exact {
    sound := {
      wellFormed := hfree.wellFormed
      known := fun p hp => by
        have hp : p = .ofString "/r/d/a.txt" := hp.elim (hindexed p) List.mem_singleton.1
        rw [hp]
        refine ⟨?_, heligible⟩
        rw [← path_oneFile indexed disk later]
        exact hkey.isNormal
      linkFree := hfree
      root_eq := htop.symm
      stage := trivial
      intakes := fun _ h => absurd h List.not_mem_nil }
    atRest := ⟨{}, rfl⟩
    works := rfl
    isProper := hkey
    known := .inr (by rw [path_oneFile]; exact List.mem_cons_self)
    acts := by
      have hnormal : (Path.ofString "/r/d").IsNormal := toPath_directory_oneFile ▸ hdir.isNormal
      simp [oneFile, BusyAct.IsLinkFree, hdisk, hlater, hnormal]
    taken := by
      rw [hdone]
      rfl
    ended := ⟨report, congrArg BusyWorld.stage hdone⟩
    endedAgain := hlast }

theorem stays_oneFile {P : FileSystem → Prop} {s : BusyWorld MemoryStore}
    (hdone : (oneFile indexed disk later).done = s) (hdisk : P s.fs) (hlater : P later) :
    (oneFile indexed disk later).Stays P := by
  refine ⟨hdone ▸ hdisk, fun disk' hchange => ?_⟩
  simp only [oneFile, List.mem_cons, BusyAct.change.injEq, reduceCtorEq, or_false,
    List.not_mem_nil] at hchange
  exact hchange ▸ hlater

/-- Nothing stands at the file any more, and its document is still stored. -/
theorem keeps_of_last {found : List PathAction} {indexed' : List Path}
    {report report' : FlushReport}
    (hindexed : ∀ p ∈ indexed, p = .ofString "/r/d/a.txt")
    (hdisk : disk.IsLinkFree [[114]]) (hlater : later.IsLinkFree [[114]])
    (hmissing : disk.exists? (.ofString "/r/d/a.txt") = false)
    (hstays : later.exists? (.ofString "/r/d/a.txt") = false)
    (hdone : (oneFile indexed disk later).done =
      oneFileStored disk ⟨found, indexed'⟩ (.rest report))
    (hlast : (oneFile indexed disk later).last =
      oneFileStored later ⟨[], indexed'⟩ (.rest report')) :
    let r := oneFile indexed disk later
    r.IsFair ∧ r.Stays (fun disk => disk.exists? r.path = false) ∧
      r.last.store.get? r.id = some oneFileDocument := by
  intro r
  obtain ⟨-, -, -, hid⟩ := computed_oneFile
  refine ⟨isFair_oneFile hindexed hdisk hlater hdone ⟨report', congrArg BusyWorld.stage hlast⟩,
    ?_, ?_⟩
  · rw [show r.path = _ from path_oneFile _ _ _]
    exact stays_oneFile hdone hmissing hstays
  · rw [hlast]
    exact List.find?_cons_of_pos (decide_eq_true hid)

end OneFile

/-- The directory `d` is removed and reported while the flush is running: the further
flush deletes the document of the file. -/
theorem get?_last_eq_none_or_oneFile :
    let gone : FileSystem := FileSystem.oneFile.removeTree [[114], [100]]
    let r : LateRemoval := oneFile [.ofString "/r/d/a.txt"] gone gone
    r.IsFair ∧ r.IsMissing ∧ r.NamesDirectory [[114], [100]] ∧ r.IsInView [[114], [100]] ∧
      (r.last.store.get? r.id = none ∨
        ∃ doc, r.last.store.get? r.id = some doc ∧
          doc.IsForeign r.parse r.start.scope r.top r.key) := by
  intro gone r
  obtain ⟨⟨htree, hgone⟩, hmissing, hrel⟩ := FileSystem.computed_removed_oneFile
  have hfree := htree.isLinkFree
  have hdone := done_of_gone gone hgone
  have hlast := last_of_fate hdone (Scope.fate_of_missing hmissing hrel)
  have hfair : r.IsFair :=
    isFair_oneFile (by simp) hfree hfree hdone ⟨_, congrArg BusyWorld.stage hlast⟩
  have hpath : r.path = .ofString "/r/d/a.txt" := path_oneFile _ _ _
  have hstays : r.IsMissing := by
    unfold IsMissing
    rw [hpath]
    exact stays_oneFile hdone hmissing hmissing
  obtain ⟨hlooksAt, hname⟩ := looksAt_oneFile [.ofString "/r/d/a.txt"] gone gone
  have hdir : r.NamesDirectory [[114], [100]] := {
    isAbove := ⟨[Utf8.encode "a.txt"], rfl⟩
    ne := by simp [r, oneFile]
    looksAt := hlooksAt
    gone := by
      rw [show r.looks = _ from looks_oneFile _ _ _, toPath_directory_oneFile]
      exact hgone
    name := hname }
  have hview : r.IsInView [[114], [100]] := .indexed (hpath ▸ List.mem_cons_self)
  exact ⟨hfair, hstays, hdir, hview, get?_last_eq_none_or hfair hstays (.inr ⟨_, hdir, hview⟩)⟩

/-- The document stays where `d` stands again when its removal is taken in, where the file
is known to the running flush alone, and where a file takes the place of `d`. -/
theorem keeps_document_oneFile :
    let gone : FileSystem := FileSystem.oneFile.removeTree [[114], [100]]
    let remade : FileSystem := gone.put [[114], [100]] .directory
    let replaced : FileSystem := gone.put [[114], [100]] (.file [] 5)
    let a : Path := .ofString "/r/d/a.txt"
    ∀ r ∈ [oneFile [a] remade remade, oneFile [] gone gone, oneFile [a] gone replaced],
      (r.looks.LooksAt r.intake (RealPath.toPath [[114], [100]]) ∧
        r.looks.scope.isEligible (RealPath.toPath [[114], [100]]) = false) ∧
      r.IsFair ∧ r.Stays (fun disk => disk.exists? r.path = false) ∧
      r.last.store.get? r.id = some oneFileDocument := by
  intro gone remade replaced a r hr
  obtain ⟨⟨htree, hgone⟩, hnotFound, -⟩ := FileSystem.computed_removed_oneFile
  have hgoneFree := htree.isLinkFree
  have hgoneMissing : gone.exists? a = false := by
    unfold FileSystem.exists?
    rw [hnotFound]
    rfl
  simp only [List.mem_cons, List.not_mem_nil, or_false] at hr
  rcases hr with rfl | rfl | rfl
  · obtain ⟨hdir, hfree, hmissing⟩ : remade.isDir (.ofString "/r/d") = true ∧
        remade.IsLinkFree [[114]] ∧ remade.exists? (.ofString "/r/d/a.txt") = false := by
      decide +kernel
    have hdone := done_oneFile (intake_of_standing [a] remade hdir)
    exact ⟨looksAt_oneFile _ _ _,
      keeps_of_last (by simp [a]) hfree hfree hmissing hmissing hdone (last_of_nothing hdone)⟩
  · have hdone := done_oneFile (intake_of_gone [] gone hgone)
    exact ⟨looksAt_oneFile _ _ _,
      keeps_of_last (by simp) hgoneFree hgoneFree hgoneMissing hgoneMissing hdone
        (last_of_nothing hdone)⟩
  · obtain ⟨hfree, hmissing, herror⟩ : replaced.IsLinkFree [[114]] ∧
        replaced.exists? (.ofString "/r/d/a.txt") = false ∧
        replaced.metadata (.ofString "/r/d/a.txt") = .error .notADirectory := by
      decide +kernel
    have hfate : oneFileScope.fate (fun _ => none) replaced (.ofString "/r/d/a.txt") = .fail := by
      simp [Scope.fate, herror]
    have hdone := done_of_gone replaced hgone
    exact ⟨looksAt_oneFile _ _ _,
      keeps_of_last (by simp [a]) hgoneFree hfree hgoneMissing hmissing hdone
        (last_of_fate hdone hfate)⟩

end LateRemoval

end SymbolIndex
