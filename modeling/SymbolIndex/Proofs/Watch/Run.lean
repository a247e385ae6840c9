-- SUMMARY: Runs of a maintained index: the disk changes, events arrive, the buffer is flushed.
import SymbolIndex.Proofs.Ignore.Walking
import SymbolIndex.Proofs.Watch.Flushing

/-!
# Runs

A run is any list of changes of the disk, events and flushes, in any order.
The paths that a buffer knows, pending or indexed, come from the start of the
run, from events, and from walks of directories that events name.
-/

namespace SymbolIndex

/-! ## Steps -/

/-- What happens to a maintained index. -/
inductive Act where
  /-- The disk changes. Nobody is told. -/
  | change (after : FileSystem)
  | event (e : ChangeEvent)
  | flush

/-- The disk, a maintainer, and a store in state `σ`. -/
structure World (σ : Type) where
  fs : FileSystem
  maintainer : Maintainer
  store : σ

namespace World

variable {σ : Type} (ops : DocumentStore σ) (parse : Parser)

def step (w : World σ) : Act → World σ
  | .change after => { w with fs := after }
  | .event e => { w with maintainer := (w.maintainer.handle w.fs e).value }
  | .flush =>
      let flushed := (w.maintainer.flush ops parse w.fs w.store).value
      { w with maintainer := flushed.2.1, store := flushed.2.2 }

def run (w : World σ) (acts : List Act) : World σ := acts.foldl (step ops parse) w

@[simp] theorem run_nil (w : World σ) : w.run ops parse [] = w := rfl

@[simp] theorem run_cons (w : World σ) (act : Act) (acts : List Act) :
    w.run ops parse (act :: acts) = (w.step ops parse act).run ops parse acts := rfl

@[simp] theorem run_append (w : World σ) (acts acts' : List Act) :
    w.run ops parse (acts ++ acts') = (w.run ops parse acts).run ops parse acts' := by
  simp [run]

@[simp] theorem scope_step (w : World σ) (act : Act) :
    (w.step ops parse act).maintainer.scope = w.maintainer.scope := by
  cases act <;> rfl

@[simp] theorem scope_run (w : World σ) (acts : List Act) :
    (w.run ops parse acts).maintainer.scope = w.maintainer.scope := by
  induction acts generalizing w with
  | nil => rfl
  | cons act acts ih => rw [run_cons, ih, scope_step]

variable {ops parse} in
theorem separate_step {w : World σ} (act : Act)
    (h : Path.Separate w.maintainer.buffer.pendingPaths) :
    Path.Separate (w.step ops parse act).maintainer.buffer.pendingPaths := by
  cases act with
  | change after => exact h
  | event e => exact Maintainer.separate_handle h
  | flush =>
      have hnone : (w.step ops parse .flush).maintainer.buffer.pendingPaths = [] :=
        congrArg (List.map Prod.fst) (Buffer.pending_flush ops parse _ _ _ _)
      rw [hnone]
      exact .nil

variable {ops parse} in
/-- Whatever happens, no path is pending in two spellings. -/
theorem separate_run {w : World σ} (h : Path.Separate w.maintainer.buffer.pendingPaths)
    (acts : List Act) : Path.Separate (w.run ops parse acts).maintainer.buffer.pendingPaths := by
  induction acts generalizing w with
  | nil => exact h
  | cons act acts ih => exact ih (separate_step act h)

end World

/-! ## Known paths -/

/-- The path is believed to be indexed, or it is pending. -/
def Buffer.Knows (b : Buffer) (p : Path) : Prop := p ∈ b.indexed ∨ p ∈ b.pendingPaths

section KnownPaths

variable {fs : FileSystem} {m : Maintainer} {e : ChangeEvent} {q : Path}

theorem Buffer.mem_pendingPaths_insertAll {b : Buffer} {actions : List PathAction}
    (h : q ∈ (b.insertAll actions).pendingPaths) :
    q ∈ b.pendingPaths ∨ ∃ a ∈ actions, a.1 = q := by
  rw [Buffer.pendingPaths_insertAll] at h
  rcases Path.mem_or_mem_of_mem_extend h with h | h
  · exact .inl h
  · exact .inr (List.mem_map.1 h)

/-- What an action amounts to is pending after the event, in some spelling. -/
theorem Maintainer.exists_same_pending_of_expand {a p : PathAction} (hp : p ∈ e.actions fs)
    (ha : a ∈ m.buffer.expand fs m.scope p) :
    ∃ q ∈ (m.handle fs e).value.buffer.pendingPaths, a.1.same q = true := by
  have hmem : a.1 ∈ ((e.actions fs).flatMap (m.buffer.expand fs m.scope)).map Prod.fst :=
    List.mem_map.2 ⟨a, List.mem_flatMap.2 ⟨p, hp, ha⟩, rfl⟩
  rw [buffer_handle, Buffer.pendingPaths_insertAll]
  exact Path.exists_same_mem_extend hmem

/-- An eligible file for which an event asks for something is pending afterwards. -/
theorem Maintainer.exists_same_pending_handle {a : PathAction} (ha : a ∈ e.actions fs)
    (hdir : fs.isDir a.1 = false) (heligible : m.scope.isEligible a.1 = true) :
    ∃ q ∈ (m.handle fs e).value.buffer.pendingPaths, a.1.same q = true :=
  exists_same_pending_of_expand ha (Buffer.mem_expand.2 (.inr (.inl ⟨hdir, heligible, rfl⟩)))

/-- A path that an event brings to mind is named by the event, or found in a
directory that the event names. -/
theorem Maintainer.knows_handle (h : (m.handle fs e).value.buffer.Knows q) :
    m.buffer.Knows q ∨
      (m.scope.isEligible q = true ∧
        (q ∈ e.paths ∨ ∃ dir ∈ e.paths, fs.isDir dir = true ∧ q ∈ fs.walk dir)) := by
  rcases h with h | h
  · rw [indexed_handle] at h
    exact .inl (.inl h)
  · rw [buffer_handle] at h
    rcases Buffer.mem_pendingPaths_insertAll h with h | ⟨a, ha, rfl⟩
    · exact .inl (.inr h)
    · obtain ⟨p, hp, hexpand⟩ := List.mem_flatMap.1 ha
      have hpath := ChangeEvent.mem_paths_of_mem_actions hp
      rcases Buffer.mem_expand.1 hexpand with
        ⟨hdir, -, -, hunder⟩ | ⟨-, heligible, rfl⟩ | ⟨-, -, -, -, -, -, hknown⟩
      · obtain ⟨hwalk, heligible⟩ := List.mem_filter.1 hunder
        exact .inr ⟨heligible, .inr ⟨p.1, hpath, hdir, hwalk⟩⟩
      · exact .inr ⟨heligible, .inl hpath⟩
      · exact .inl hknown

theorem Buffer.knows_flush {σ : Type} {ops : DocumentStore σ} {parse : Parser} {scope : Scope}
    {b : Buffer} {store : σ} (h : (b.flush ops parse fs scope store).value.buffer.Knows q) :
    b.Knows q := by
  rcases h with h | h
  · exact mem_indexed_flush ops parse fs scope h
  · rw [pendingPaths, pending_flush] at h
    cases h

end KnownPaths

/-! ## Normal runs -/

/-- Disks are well-formed, and events carry normal paths. -/
def Act.IsNormal : Act → Prop
  | .change after => after.WellFormed
  | .event e => ∀ p ∈ e.paths, p.IsNormal
  | .flush => True

/-- The disk is well-formed, and what the buffer knows is written as real paths
and belongs to the index. -/
structure World.IsNormal (w : World σ) : Prop where
  wellFormed : w.fs.WellFormed
  known : ∀ p, w.maintainer.buffer.Knows p →
    p.IsNormal ∧ w.maintainer.scope.isEligible p = true

namespace World.IsNormal

variable {σ : Type} {ops : DocumentStore σ} {parse : Parser} {w : World σ} {act : Act}

theorem known_handle {e : ChangeEvent} (hw : w.IsNormal) (he : ∀ p ∈ e.paths, p.IsNormal) {q : Path}
    (hq : (w.maintainer.handle w.fs e).value.buffer.Knows q) :
    q.IsNormal ∧ w.maintainer.scope.isEligible q = true := by
  rcases Maintainer.knows_handle hq with hq | ⟨heligible, hq | ⟨dir, hdir, -, hwalk⟩⟩
  · exact hw.known q hq
  · exact ⟨he q hq, heligible⟩
  · exact ⟨hw.wellFormed.isNormal_of_mem_walk (he dir hdir) hwalk, heligible⟩

theorem step (hw : w.IsNormal) (hact : act.IsNormal) : (w.step ops parse act).IsNormal := by
  cases act with
  | change after => exact ⟨hact, hw.known⟩
  | event e => exact ⟨hw.wellFormed, fun q hq => hw.known_handle hact hq⟩
  | flush => exact ⟨hw.wellFormed, fun q hq => hw.known q (Buffer.knows_flush hq)⟩

end World.IsNormal

/-! ## Runs without links -/

/-- No links stand around the root, and events carry normal paths. -/
def Act.IsLinkFree (top : RealPath) : Act → Prop
  | .change after => after.IsLinkFree top
  | .event e => ∀ p ∈ e.paths, p.IsNormal
  | .flush => True

/-- A normal world whose disk has no links around the root of the index. -/
structure World.IsLinkFree (w : World σ) (top : RealPath) : Prop extends w.IsNormal where
  linkFree : w.fs.IsLinkFree top
  root_eq : w.maintainer.scope.root = top.toPath

theorem Act.IsLinkFree.isNormal {top : RealPath} {act : Act} (h : act.IsLinkFree top) :
    act.IsNormal := by
  cases act with
  | change after => exact h.wellFormed
  | event e => exact h
  | flush => trivial

namespace World.IsLinkFree

variable {σ : Type} {ops : DocumentStore σ} {parse : Parser} {w : World σ} {top : RealPath}

theorem prefix_of_knows (hw : w.IsLinkFree top) {key : RealPath} (hkey : key.IsProper)
    (h : w.maintainer.buffer.Knows key.toPath) : top <+: key := by
  have hstarts := Scope.startsWith_of_isEligible (hw.known _ h).2
  rw [hw.root_eq] at hstarts
  exact (RealPath.startsWith_toPath hkey hw.linkFree.isProper_top).1 hstarts

/-- What the buffer knows are real paths below the root. -/
theorem exists_key (hw : w.IsLinkFree top) {p : Path} (hp : w.maintainer.buffer.Knows p) :
    ∃ key : RealPath, key.IsProper ∧ top <+: key ∧ p = key.toPath := by
  obtain ⟨⟨key, hkey, rfl⟩, -⟩ := hw.known p hp
  exact ⟨key, hkey, hw.prefix_of_knows hkey hp, rfl⟩

theorem step {act : Act} (hw : w.IsLinkFree top) (hact : act.IsLinkFree top) :
    (w.step ops parse act).IsLinkFree top := by
  refine ⟨hw.toIsNormal.step hact.isNormal, ?_, by rw [scope_step, hw.root_eq]⟩
  cases act with
  | change after => exact hact
  | event e => exact hw.linkFree
  | flush => exact hw.linkFree

theorem run {acts : List Act} (hw : w.IsLinkFree top) (hacts : ∀ act ∈ acts, act.IsLinkFree top) :
    (w.run ops parse acts).IsLinkFree top := by
  induction acts generalizing w with
  | nil => exact hw
  | cons act acts ih =>
      exact ih (hw.step (hacts act List.mem_cons_self)) fun a ha =>
        hacts a (List.mem_cons_of_mem _ ha)

end World.IsLinkFree

/-! ## Runs over trees -/

/-- The tree below the root stays a tree, and events carry normal paths. -/
def Act.KeepsTree (top : RealPath) : Act → Prop
  | .change after => after.IsTree top
  | .event e => ∀ p ∈ e.paths, p.IsNormal
  | .flush => True

/-- What is reached from a new maintainer of the tree at `top`, whatever the
store does. -/
inductive World.Reachable {σ : Type} (ops : DocumentStore σ) (parse : Parser) (top : RealPath) :
    World σ → Prop where
  | start (fs : FileSystem) (config : Config) (root : Path) (m : Maintainer) (store : σ)
      (tree : fs.IsTree top) (hroot : fs.resolve root = .ok top)
      (hm : (Maintainer.ofRoot fs config root).value = .ok m) :
      Reachable ops parse top ⟨fs, m, store⟩
  | step (w : World σ) (act : Act) (h : Reachable ops parse top w) (hact : act.KeepsTree top) :
      Reachable ops parse top (w.step ops parse act)
  /-- The timer and the watch start, stop and go on. -/
  | retime (w : World σ) (timer : Option Phase) (isWatching : Bool)
      (h : Reachable ops parse top w) :
      Reachable ops parse top { w with maintainer := { w.maintainer with timer, isWatching } }

theorem World.Reachable.run {σ : Type} {ops : DocumentStore σ} {parse : Parser} {top : RealPath}
    {w : World σ} {acts : List Act} (hw : w.Reachable ops parse top)
    (hacts : ∀ act ∈ acts, act.KeepsTree top) : (w.run ops parse acts).Reachable ops parse top := by
  induction acts generalizing w with
  | nil => exact hw
  | cons act acts ih =>
      exact ih (.step w act hw (hacts act List.mem_cons_self))
        fun a ha => hacts a (List.mem_cons_of_mem _ ha)

theorem Act.KeepsTree.isNormal {top : RealPath} {act : Act} (h : act.KeepsTree top) :
    act.IsNormal := by
  cases act with
  | change after => exact h.wellFormed
  | event e => exact h
  | flush => trivial

theorem FileSystem.isFile_of_read {fs : FileSystem} {p : Path} {content : Bytes}
    (h : fs.read p = .ok content) : fs.isFile p = true := by
  unfold read at h
  cases hr : fs.resolve p with
  | error cause =>
      rw [hr] at h
      cases h
  | ok found =>
      simp only [hr, bind, Except.bind] at h
      split at h
      · rename_i bytes mtime he
        simp [isFile, metadata, hr, he, bind, Except.bind, Entry.metadata]
      · cases h
      · cases h
      · cases h

/-- Scope and walk read an ignore file alike. -/
theorem Scope.value_readRules (fs : FileSystem) (file : Path) :
    (readRules fs file).value = (Ignore.fileAt fs file).rules := by
  unfold readRules Ignore.fileAt
  cases hread : fs.read file with
  | error cause =>
      cases hfile : fs.isFile file with
      | false => rfl
      | true => rfl
  | ok content =>
      rw [FileSystem.isFile_of_read hread]
      simp only [Bool.not_true, Bool.false_eq_true, if_false]
      cases (Ignore.IgnoreFile.ofContent content).problemText? file with
      | none => rfl
      | some problem => rfl

/-- The scope of a real directory: its rules are those of its ignore file. -/
def Scope.atTop (fs : FileSystem) (config : Config) (top : RealPath) : Scope where
  root := top.toPath
  config := config
  rules := (readRules fs (top.toPath / ".gitignore")).value

/-- A new maintainer knows the files of a walk that belong to the index. -/
def Maintainer.atTop (fs : FileSystem) (config : Config) (top : RealPath) : Maintainer where
  scope := .atTop fs config top
  buffer := Buffer.remember {} ((Scope.atTop fs config top).filesUnder fs top.toPath)

/-- What a new maintainer knows is what the walk of the root found. -/
theorem Maintainer.mem_filesUnder_of_knows_atTop {fs : FileSystem} {config : Config}
    {top : RealPath} {p : Path} (h : (atTop fs config top).buffer.Knows p) :
    p ∈ (Scope.atTop fs config top).filesUnder fs top.toPath := by
  rcases h with h | h
  · rcases Buffer.mem_remember h with h | h
    · cases h
    · exact h
  · cases h

theorem World.isLinkFree_atTop {σ : Type} {fs : FileSystem} {config : Config} {top : RealPath}
    {store : σ} (free : fs.IsLinkFree top) :
    World.IsLinkFree ⟨fs, .atTop fs config top, store⟩ top where
  wellFormed := free.wellFormed
  known p hp := by
    obtain ⟨hwalk, heligible⟩ :=
      List.mem_filter.1 (Maintainer.mem_filesUnder_of_knows_atTop hp)
    exact ⟨free.wellFormed.isNormal_of_mem_walk free.isProper_top.isNormal hwalk, heligible⟩
  linkFree := free
  root_eq := rfl

theorem Maintainer.value_ofRoot {fs : FileSystem} {config : Config} {root : Path} {top : RealPath}
    (hroot : fs.resolve root = .ok top) :
    (ofRoot fs config root).value =
      if fs.isDir root then .ok (atTop fs config top)
      else .error (.config (.rootIsNoDirectory root)) := by
  simp only [ofRoot, Scope.ofRoot, FileSystem.canonicalize, hroot, Logged.value_bind]
  cases fs.isDir root with
  | false => rfl
  | true => rfl

theorem Maintainer.eq_of_ofRoot {fs : FileSystem} {config : Config} {root : Path} {top : RealPath}
    {m : Maintainer} (hroot : fs.resolve root = .ok top)
    (hm : (ofRoot fs config root).value = .ok m) : m = atTop fs config top := by
  rw [value_ofRoot hroot] at hm
  split at hm
  · exact (Except.ok.inj hm).symm
  · cases hm

theorem World.Reachable.isNormal {σ : Type} {ops : DocumentStore σ} {parse : Parser}
    {top : RealPath} {w : World σ} (h : w.Reachable ops parse top) :
    w.IsNormal ∧ w.fs.IsTree top ∧ w.maintainer.scope.root = top.toPath := by
  induction h with
  | start fs config root m store tree hroot hm =>
      obtain rfl := Maintainer.eq_of_ofRoot hroot hm
      exact ⟨(World.isLinkFree_atTop tree.isLinkFree).toIsNormal, tree, rfl⟩
  | step w act h hact ih =>
      obtain ⟨hnormal, htree, hroot⟩ := ih
      refine ⟨hnormal.step hact.isNormal, ?_, ?_⟩
      · cases act with
        | change after => exact hact
        | event e => exact htree
        | flush => exact htree
      · rw [scope_step, hroot]
  | retime w timer isWatching h ih => exact ⟨⟨ih.1.wellFormed, ih.1.known⟩, ih.2⟩

end SymbolIndex
