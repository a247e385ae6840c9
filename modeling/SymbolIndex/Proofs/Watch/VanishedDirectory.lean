-- SUMMARY: The documents below a directory that is gone are deleted once somebody says so.
import SymbolIndex.Proofs.Watch.Run

/-!
# Vanished directories

A directory that is gone is reported with one path, for all the files it held.
The buffer stands in for the disk: what it knows below the directory becomes
pending, and the next flush deletes what it misses. That needs nothing to stand
in the place of the directory when the report is taken in.
-/

namespace SymbolIndex

variable {σ : Type} {ops : DocumentStore σ} {parse : Parser}

/-! ## Steps -/

theorem Buffer.isUnder_toPath {key dir : RealPath} (hkey : key.IsProper) (hunder : dir <+: key)
    (hne : dir ≠ key) : isUnder dir.toPath key.toPath = true := by
  have hdir : dir.IsProper := hkey.of_prefix hunder
  have hsame : key.toPath.same dir.toPath = false :=
    Bool.eq_false_iff.2 fun h => hne ((RealPath.same_toPath hkey hdir).1 h).symm
  rw [isUnder, (RealPath.startsWith_toPath hkey hdir).2 hunder, hsame]
  rfl

theorem FileSystem.isDir_of_not_exists {fs : FileSystem} {p : Path} (h : fs.exists? p = false) :
    fs.isDir p = false := by
  unfold isDir
  unfold exists? at h
  cases hm : fs.metadata p with
  | ok m => simp [hm, Except.isOk, Except.toBool] at h
  | error e => rfl

/-- A directory that is reported gone, and is, makes the files known below it
pending. -/
theorem World.IsNormal.pending_of_vanished {w : World σ} {e : ChangeEvent} {dir key : RealPath}
    (hw : w.IsNormal) (he : ∀ p ∈ e.paths, p.IsNormal)
    (hdelete : (dir.toPath, .delete) ∈ e.actions w.fs) (hgone : w.fs.exists? dir.toPath = false)
    (hname : w.maintainer.scope.isEligible dir.toPath = false) (hkey : key.IsProper)
    (hunder : dir <+: key) (hne : dir ≠ key) (hknown : w.maintainer.buffer.Knows key.toPath) :
    key.toPath ∈ (w.maintainer.handle w.fs e).value.buffer.pendingPaths := by
  have hexpand : (key.toPath, .delete) ∈
      w.maintainer.buffer.expand w.fs w.maintainer.scope (dir.toPath, .delete) :=
    Buffer.mem_expand.2 (.inr (.inr ⟨FileSystem.isDir_of_not_exists hgone, hname, hgone, rfl, rfl,
      Buffer.isUnder_toPath hkey hunder hne, hknown⟩))
  obtain ⟨q, hq, hsame⟩ := Maintainer.exists_same_pending_of_expand hdelete hexpand
  rwa [hkey.isNormal.eq_of_same (hw.known_handle he (.inr hq)).1 hsame]

/-- A directory that is reported gone, and is not, is no reason to do anything. -/
theorem Maintainer.buffer_handle_of_standing {fs : FileSystem} {m : Maintainer} {e : ChangeEvent}
    (h : ∀ a ∈ e.actions fs, a.2 = .delete ∧ fs.isDir a.1 = true) :
    (m.handle fs e).value.buffer = m.buffer := by
  have hnothing : (e.actions fs).flatMap (m.buffer.expand fs m.scope) = [] := by
    refine List.flatMap_eq_nil_iff.2 fun a ha => ?_
    obtain ⟨hdelete, hdir⟩ := h a ha
    simp [Buffer.expand, hdelete, hdir]
  rw [buffer_handle, hnothing]
  rfl

theorem World.pending_run_of_pending {w : World σ} {acts : List Act} {q : Path}
    (hacts : ∀ act ∈ acts, act ≠ .flush) (h : q ∈ w.maintainer.buffer.pendingPaths) :
    q ∈ (w.run ops parse acts).maintainer.buffer.pendingPaths := by
  induction acts generalizing w with
  | nil => exact h
  | cons act acts ih =>
      refine ih (fun a ha => hacts a (List.mem_cons_of_mem _ ha)) ?_
      cases act with
      | change after => exact h
      | event e => exact Maintainer.pending_handle_of_pending h
      | flush => exact absurd rfl (hacts _ List.mem_cons_self)

/-- A flush deletes the document of a pending file that the disk has no more. -/
theorem Buffer.get?_flush_of_missing {fs : FileSystem} {scope : Scope} {b : Buffer}
    {s : MemoryStore} {top key : RealPath} (tree : fs.IsTree top) (hroot : scope.root = top.toPath)
    (hkey : key.IsProper) (hunder : top <+: key) (hpending : key.toPath ∈ b.pendingPaths)
    (hgone : fs.metadata key.toPath = .error .notFound) (hworks : s.failDeletes = false) :
    (b.flush MemoryStore.operations parse fs scope s).value.store.get? (key.documentId top) =
      none := by
  have hrel := tree.relativePath_eq hkey hunder
  rw [← hroot] at hrel
  rw [value_flush_memory]
  exact FlushPlan.get?_storeAfter_of_delete hworks
    (FlushPlan.mem_deletes_iff.2 ⟨_, hpending, Scope.fate_of_missing hgone hrel⟩)

/-! ## Runs -/

/-- A directory is gone when an event says so. Whatever happens up to the next
flush, after it the store holds nothing of the files that were known below the
directory and that the flush does not find. -/
theorem World.Reachable.get?_of_vanished {top : RealPath} {w : World σ}
    (hw : w.Reachable ops parse top) {e : ChangeEvent} (he : ∀ p ∈ e.paths, p.IsNormal)
    {dir : RealPath} (hdir : top <+: dir) (hdelete : (dir.toPath, .delete) ∈ e.actions w.fs)
    (hgone : w.fs.exists? dir.toPath = false)
    (hname : w.maintainer.scope.isEligible dir.toPath = false) {acts : List Act}
    (hacts : ∀ act ∈ acts, act.KeepsTree top ∧ act ≠ .flush) {s : MemoryStore}
    (hworks : s.failDeletes = false) {key : RealPath} (hkey : key.IsProper) (hunder : dir <+: key)
    (hne : dir ≠ key) (hknown : w.maintainer.buffer.Knows key.toPath)
    (hmissing : (w.run ops parse (.event e :: acts)).fs.metadata key.toPath = .error .notFound) :
    let after := w.run ops parse (.event e :: acts)
    (after.maintainer.flush MemoryStore.operations parse after.fs s).value.2.2.get?
      (key.documentId top) = none := by
  intro after
  have hnow : key.toPath ∈ (w.step ops parse (.event e)).maintainer.buffer.pendingPaths :=
    hw.isNormal.1.pending_of_vanished he hdelete hgone hname hkey hunder hne hknown
  have hpending : key.toPath ∈
      ((w.step ops parse (.event e)).run ops parse acts).maintainer.buffer.pendingPaths :=
    World.pending_run_of_pending (fun act hact => (hacts act hact).2) hnow
  have hafter : after.Reachable ops parse top := by
    refine World.Reachable.run hw fun act hact => ?_
    rcases List.mem_cons.1 hact with rfl | hact
    · exact he
    · exact (hacts act hact).1
  obtain ⟨-, htree, hroot⟩ := hafter.isNormal
  exact Buffer.get?_flush_of_missing htree hroot hkey (hdir.trans hunder) hpending hmissing hworks

/-- The file `d/a.txt` in the root `/r`. -/
def FileSystem.oneFile : FileSystem where
  entries :=
    [([[114]], .directory), ([[114], [100]], .directory),
      ([[114], [100], Utf8.encode "a.txt"], .file [120] 5)]
  workingDir := []

/-- What can be computed of the tree: it is one, at `/r`, with one directory, and the file
has the directory in its name. -/
theorem FileSystem.computed_oneFile :
    (oneFile.IsTree [[114]] ∧ RealPath.toPath [[114]] = .ofString "/r" ∧
      oneFile.resolve (.ofString "/r") = .ok [[114]] ∧ oneFile.isDir (.ofString "/r") = true ∧
      oneFile.entries.filterMap (fun (key, e) =>
        if e = .directory && key.isBelow [[114]] then some key else none) = [[[114], [100]]]) ∧
    (RealPath.toPath [[114], [100]] = .ofString "/r/d" ∧
      RealPath.toPath [[114], [100], Utf8.encode "a.txt"] = .ofString "/r/d/a.txt" ∧
      RealPath.IsProper [[114], [100], Utf8.encode "a.txt"]) ∧
    oneFile.content? (.ofString "/r/d/a.txt") = some ([120], 5) ∧
      oneFile.relativePath (.ofString "/r/d/a.txt") (.ofString "/r") = .ok "d/a.txt" := by
  decide +kernel

/-- What can be computed of the tree without the directory. -/
theorem FileSystem.computed_removed_oneFile :
    let gone : FileSystem := oneFile.removeTree [[114], [100]]
    (gone.IsTree [[114]] ∧ gone.exists? (.ofString "/r/d") = false) ∧
      gone.metadata (.ofString "/r/d/a.txt") = .error .notFound ∧
      gone.relativePath (.ofString "/r/d/a.txt") (.ofString "/r") = .ok "d/a.txt" := by
  decide +kernel

theorem FileSystem.isTree_oneFile : oneFile.IsTree [[114]] := computed_oneFile.1.1

theorem World.reachable_oneFile (parse : Parser) (s : MemoryStore) :
    World.Reachable MemoryStore.operations parse [[114]]
      ⟨.oneFile, .atTop .oneFile {} [[114]], s⟩ := by
  obtain ⟨⟨tree, -, hroot, hdir, -⟩, -⟩ := FileSystem.computed_oneFile
  refine .start .oneFile {} (.ofString "/r") _ s tree hroot ?_
  rw [Maintainer.value_ofRoot hroot, if_pos hdir]

theorem FileSystem.directoriesFrom_oneFile :
    oneFile.directoriesFrom [[114]] = [[[114], [100]], [[114]]] := by
  obtain ⟨⟨-, -, -, -, hfound⟩, -⟩ := computed_oneFile
  rw [directoriesFrom, hfound]
  simp [List.mergeSort, List.MergeSort.Internal.splitInTwo]

theorem Maintainer.indexed_oneFile :
    (atTop .oneFile {} [[114]]).buffer.indexed = [.ofString "/r/d/a.txt"] := by
  obtain ⟨⟨-, htop, hroot, -⟩, -⟩ := FileSystem.computed_oneFile
  rw [atTop, Scope.filesUnder, htop, FileSystem.walk, hroot]
  dsimp only
  rw [FileSystem.levels, FileSystem.directoriesFrom_oneFile]
  decide +kernel

/-- The directory `d` is removed, reported, and the buffer flushed. -/
theorem World.get?_of_vanished_oneFile :
    let gone : FileSystem := FileSystem.oneFile.removeTree [[114], [100]]
    let e : ChangeEvent := ⟨.removed, [.ofString "/r/d"]⟩
    let s : MemoryStore := { documents := [{ id := fileId "d/a.txt" }] }
    let w : World MemoryStore := ⟨gone, .atTop .oneFile {} [[114]], s⟩
    let after := w.run MemoryStore.operations (fun _ => none) [.event e]
    (after.maintainer.flush MemoryStore.operations (fun _ => none) after.fs s).value.2.2.get?
      (RealPath.documentId [[114], [100], Utf8.encode "a.txt"] [[114]]) = none := by
  intro gone e s w
  obtain ⟨-, ⟨hd, ha, hproper⟩, -⟩ := FileSystem.computed_oneFile
  obtain ⟨⟨htree, hgone⟩, hmissing, -⟩ := FileSystem.computed_removed_oneFile
  have hw : w.Reachable MemoryStore.operations (fun _ => none) [[114]] :=
    .step _ (.change gone) (World.reachable_oneFile _ s) htree
  have hname : w.maintainer.scope.isEligible (RealPath.toPath [[114], [100]]) = false := by rfl
  have hnormal : ∀ p ∈ e.paths, p.IsNormal := by
    intro p hp
    rw [List.mem_singleton.1 hp, ← hd]
    exact RealPath.IsProper.isNormal (by decide)
  have hdelete : (RealPath.toPath [[114], [100]], .delete) ∈ e.actions w.fs := by
    rw [hd]
    exact List.mem_cons_self
  have hnone : ∀ act ∈ ([] : List Act), act.KeepsTree [[114]] ∧ act ≠ .flush := by simp
  have hknown : w.maintainer.buffer.Knows
      (RealPath.toPath [[114], [100], Utf8.encode "a.txt"]) := by
    rw [ha]
    refine .inl ?_
    rw [Maintainer.indexed_oneFile]
    exact List.mem_cons_self
  exact hw.get?_of_vanished hnormal (by decide) hdelete (hd ▸ hgone) hname hnone rfl hproper
    (by decide) (by decide) hknown (ha ▸ hmissing)

/-- The directory `d` is removed and made again before its removal is reported:
the document of the file stays. -/
theorem World.get?_of_remade_oneFile :
    let gone : FileSystem := FileSystem.oneFile.removeTree [[114], [100]]
    let remade : FileSystem := gone.put [[114], [100]] .directory
    let e : ChangeEvent := ⟨.removed, [.ofString "/r/d"]⟩
    let s : MemoryStore := { documents := [{ id := fileId "d/a.txt" }] }
    let w : World MemoryStore := ⟨remade, .atTop .oneFile {} [[114]], s⟩
    let after := w.run MemoryStore.operations (fun _ => none) [.event e]
    w.Reachable MemoryStore.operations (fun _ => none) [[114]] ∧
      w.maintainer.buffer.Knows (.ofString "/r/d/a.txt") ∧
      after.fs.metadata (.ofString "/r/d/a.txt") = .error .notFound ∧
      (after.maintainer.flush MemoryStore.operations (fun _ => none) after.fs s).value.2.2.get?
        (fileId "d/a.txt") = some { id := fileId "d/a.txt" } := by
  intro gone remade e s w after
  obtain ⟨⟨hgone, -⟩, -⟩ := FileSystem.computed_removed_oneFile
  obtain ⟨hremade, hdir, hmissing⟩ : remade.IsTree [[114]] ∧
      remade.isDir (.ofString "/r/d") = true ∧
      remade.metadata (.ofString "/r/d/a.txt") = .error .notFound := by decide +kernel
  have hw : w.Reachable MemoryStore.operations (fun _ => none) [[114]] :=
    .step _ (.change remade)
      (.step _ (.change gone) (World.reachable_oneFile _ s) hgone) hremade
  have hknown : Path.ofString "/r/d/a.txt" ∈ w.maintainer.buffer.indexed := by
    rw [Maintainer.indexed_oneFile]
    exact List.mem_cons_self
  have hbuffer : after.maintainer.buffer = w.maintainer.buffer :=
    Maintainer.buffer_handle_of_standing fun a ha => by
      rw [List.mem_singleton.1 ha]
      exact ⟨rfl, hdir⟩
  have hpending : w.maintainer.buffer.pendingPaths = [] := rfl
  refine ⟨hw, .inl hknown, hmissing, ?_⟩
  rw [Maintainer.value_flush_memory, hbuffer, hpending, FlushPlan.get?_of_untouched rfl]
  · exact List.find?_cons_of_pos (by simp)
  · intro q hq
    exact absurd hq List.not_mem_nil

end SymbolIndex
