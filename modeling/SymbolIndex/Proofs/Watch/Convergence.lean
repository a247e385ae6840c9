-- SUMMARY: Whatever the order of changes, events and flushes, the store converges to the disk, path by path.
import SymbolIndex.Proofs.Watch.Run

/-!
# Convergence

At every moment of a run each file is pending, or it changed and no event has
named it since, or the store holds its document just as it would be built now.
Events may come late, twice or for no reason, since a flush looks at the disk
again.
-/

namespace SymbolIndex

/-! ## Tidy trees -/

/-- A tree of readable files within the size limit whose directories are those
that `dirs` tells. -/
structure FileSystem.IsTidy (fs : FileSystem) (top : RealPath) (config : Config)
    (dirs : RealPath → Prop) : Prop extends fs.IsTree top where
  readable : ∀ x ∈ fs.entries, top <+: x.1 → x.2 ≠ .unreadable
  small : ∀ x ∈ fs.entries, top <+: x.1 → (Entry.metadata x.2).isFile = true →
    (Entry.metadata x.2).size ≤ config.maxFileBytes.toNat
  apart : ∀ x ∈ fs.entries, top <+: x.1 → (x.2 = .directory ↔ dirs x.1)

instance (fs : FileSystem) (top : RealPath) (config : Config) (dirs : RealPath → Prop)
    [DecidablePred dirs] : Decidable (fs.IsTidy top config dirs) :=
  decidable_of_iff
    (fs.IsTree top ∧ (∀ x ∈ fs.entries, top <+: x.1 → x.2 ≠ .unreadable) ∧
      (∀ x ∈ fs.entries, top <+: x.1 → (FileSystem.Entry.metadata x.2).isFile = true →
        (FileSystem.Entry.metadata x.2).size ≤ config.maxFileBytes.toNat) ∧
      ∀ x ∈ fs.entries, top <+: x.1 → (x.2 = .directory ↔ dirs x.1))
    ⟨fun ⟨htree, hreadable, hsmall, hapart⟩ => ⟨htree, hreadable, hsmall, hapart⟩,
      fun h => ⟨h.toIsTree, h.readable, h.small, h.apart⟩⟩

/-- The system takes the spelling, and the path can be one of a file among the
given directories. -/
structure RealPath.IsFilePath (key top : RealPath) (dirs : RealPath → Prop) : Prop where
  limits : key.WithinLimits
  noRoot : key ≠ []
  noDir : ¬ dirs key
  way : ∀ dir, top <+: dir → dir <+: key → dir ≠ key → dir ≠ [] → dirs dir

namespace FileSystem.IsTidy

variable {fs : FileSystem} {top key : RealPath} {config : Config} {dirs : RealPath → Prop}

theorem dirs_iff (tidy : fs.IsTidy top config dirs) (hunder : top <+: key) (hne : key ≠ [])
    {e : Entry} (h : fs.entryAt? key = some e) : e = .directory ↔ dirs key :=
  tidy.apart _ (mem_of_entryAt? hne h) hunder

/-- A regular file has readable content of a size that is within the limit. -/
theorem content?_of_isFile (tidy : fs.IsTidy top config dirs) (hkey : key.IsProper)
    (hunder : top <+: key) (h : fs.isFile key.toPath = true) :
    ∃ bytes mtime, fs.content? key.toPath = some (bytes, mtime) ∧
      fs.entryAt? key = some (.file bytes mtime) ∧ bytes.length ≤ config.maxFileBytes.toNat := by
  obtain ⟨hlimits, e, he, hreg⟩ := (tidy.isFile_iff hkey hunder).1 h
  have hne : key ≠ [] := by
    rintro rfl
    rw [entryAt?_nil] at he
    cases he
    cases hreg
  have hmem := mem_of_entryAt? hne he
  cases e with
  | file bytes mtime =>
      exact ⟨bytes, mtime, tidy.content?_of_entry hunder hlimits he, he,
        tidy.small _ hmem hunder rfl⟩
  | unreadable => exact absurd rfl (tidy.readable _ hmem hunder)
  | directory => cases hreg
  | symlink target => cases hreg

theorem isFilePath (tidy : fs.IsTidy top config dirs) (hkey : key.IsProper) (hunder : top <+: key)
    (h : fs.isFile key.toPath = true) : key.IsFilePath top dirs := by
  obtain ⟨hlimits, e, he, hreg⟩ := (tidy.isFile_iff hkey hunder).1 h
  have hne : key ≠ [] := by
    rintro rfl
    rw [entryAt?_nil] at he
    cases he
    cases hreg
  refine ⟨hlimits, hne, ?_, ?_⟩
  · intro hdir
    rw [(tidy.dirs_iff hunder hne he).2 hdir] at hreg
    cases hreg
  · intro dir htop hdir hproper hnil
    exact (tidy.dirs_iff htop hnil (tidy.wellFormed.isDirectory_of_prefix he hdir hproper)).1 rfl

/-- At the path of a file there is a file or nothing. -/
theorem metadata_of_isFilePath (tidy : fs.IsTidy top config dirs) (hkey : key.IsProper)
    (hunder : top <+: key) (h : key.IsFilePath top dirs) :
    fs.isFile key.toPath = true ∨ fs.metadata key.toPath = .error .notFound := by
  have hway : ∀ dir, dir <+: key → dir ≠ key →
      ∀ e, fs.entryAt? dir = some e → e = .directory := by
    intro dir hdir hproper e he
    by_cases hnil : dir = []
    · rw [hnil, entryAt?_nil] at he
      exact (Option.some.inj he).symm
    · rcases List.prefix_or_prefix_of_prefix hdir hunder with hdt | htd
      · by_cases heq : dir = top
        · rw [heq, tidy.isDirectory] at he
          exact (Option.some.inj he).symm
        · rw [tidy.wellFormed.isDirectory_of_prefix tidy.isDirectory hdt heq] at he
          exact (Option.some.inj he).symm
      · exact (tidy.dirs_iff htd hnil he).2 (h.way dir htd hdir hproper hnil)
  have hmeta := tidy.metadata_eq hkey hunder h.limits hway
  cases he : fs.entryAt? key with
  | none =>
      rw [he] at hmeta
      exact .inr hmeta
  | some e =>
      have hmem := mem_of_entryAt? h.noRoot he
      have hlink := tidy.linkFree _ hmem hunder
      refine .inl ((tidy.isFile_iff hkey hunder).2 ⟨h.limits, e, he, ?_⟩)
      cases e with
      | directory => exact absurd ((tidy.dirs_iff hunder h.noRoot he).1 rfl) h.noDir
      | symlink target => cases hlink
      | _ => rfl

end FileSystem.IsTidy

/-! ## Settings -/

/-- What a run is about: the scope of the index, the real path of its root, the
paths that are directories whenever something stands there, and the files that
the run involves. -/
structure Setting where
  scope : Scope
  top : RealPath
  root_eq : scope.root = top.toPath
  dirs : RealPath → Prop
  involved : RealPath → Prop
  isProper : ∀ key, involved key → key.IsProper
  isUnder : ∀ key, involved key → top <+: key
  injective : ∀ key key', involved key → involved key' →
    key.documentId top = key'.documentId top → key = key'

namespace Setting

variable (S : Setting) (parse : Parser)

/-- The path is written as the real path of a file that the run involves. -/
def Involves (p : Path) : Prop := ∃ key, S.involved key ∧ p = key.toPath

/-- The disk stays tidy. Events are about changes of files, written as real
paths, and the files of the index among them are involved. Directories, those
above the root among them, are no files. -/
def Allows : Act → Prop
  | .change after => after.IsTidy S.top S.scope.config S.dirs
  | .event e =>
      e.kind ≠ .other ∧ (e.kind = .renamedBoth → e.paths.length ≤ 2) ∧
        ∀ p ∈ e.paths, ∃ key : RealPath, key.IsProper ∧ p = key.toPath ∧ ¬ S.dirs key ∧
          ¬ key <+: S.top ∧ (S.scope.isEligible p = true → S.involved key)
  | .flush => True

/-- The store holds the document of a file as it would be built now, and nothing
if there is no such file. -/
def Mirrors (w : World MemoryStore) (key : RealPath) : Prop :=
  if w.fs.isFile key.toPath then
    ∃ doc, buildDocument parse w.fs S.scope.config S.scope.root key.toPath = .ok doc ∧
      w.store.get? (key.documentId S.top) = some doc
  else w.store.get? (key.documentId S.top) = none

/-- The index has the scope of the setting, the disk is tidy, the store works,
and the buffer knows only involved files. -/
structure Fits (w : World MemoryStore) : Prop where
  scope_eq : w.maintainer.scope = S.scope
  tidy : w.fs.IsTidy S.top S.scope.config S.dirs
  imports : w.store.failImports = false
  deletes : w.store.failDeletes = false
  known : ∀ p, w.maintainer.buffer.Knows p → S.Involves p

/-- What a run starts from. -/
structure Starts (w : World MemoryStore) : Prop extends S.Fits w where
  mirrors : ∀ key, S.involved key → S.scope.isEligible key.toPath = true → S.Mirrors parse w key

/-- What every step of a run preserves. What is stored was a file once, so there
is a file or nothing at its path. -/
structure Invariant (w : World MemoryStore) : Prop extends S.Fits w where
  stored : ∀ key, S.involved key → S.scope.isEligible key.toPath = true →
    w.store.get? (key.documentId S.top) ≠ none → key.IsFilePath S.top S.dirs

variable {S parse} {w : World MemoryStore} {key : RealPath}

theorem Fits.relativePath_eq (hw : S.Fits w) (hkey : S.involved key) :
    w.fs.relativePath key.toPath S.scope.root = .ok (key.relativeTo S.top).display := by
  rw [S.root_eq]
  exact hw.tidy.relativePath_eq (S.isProper key hkey) (S.isUnder key hkey)

/-- Whether the store mirrors a file depends on the content of the file alone. -/
theorem Fits.mirrors_iff (hw : S.Fits w) (hkey : S.involved key) :
    S.Mirrors parse w key ↔
      w.store.get? (key.documentId S.top) = (w.fs.content? key.toPath).map fun c =>
        (SourceFile.ofContent key.toPath (key.relativeTo S.top).display c.1 c.2).document parse
          S.scope.config := by
  unfold Mirrors
  cases hcontent : w.fs.content? key.toPath with
  | none =>
      have hfile : w.fs.isFile key.toPath = false := by
        refine Bool.eq_false_iff.2 fun hfile => ?_
        obtain ⟨bytes, mtime, hsome, -⟩ :=
          hw.tidy.content?_of_isFile (S.isProper key hkey) (S.isUnder key hkey) hfile
        rw [hcontent] at hsome
        cases hsome
      simp [hfile]
  | some c =>
      obtain ⟨bytes, mtime⟩ := c
      have hdoc := buildDocument_of_content parse S.scope.config hcontent
        (hw.relativePath_eq hkey)
      rw [if_pos (FileSystem.isFile_of_content? hcontent), hdoc]
      constructor
      · intro h
        obtain ⟨doc, hok, hget⟩ := h
        rw [hget, ← Except.ok.inj hok]
        rfl
      · intro hget
        exact ⟨_, rfl, hget⟩

/-- The store holds documents only of what are files at the start. -/
theorem Starts.invariant (hw : S.Starts parse w) : S.Invariant w := by
  refine ⟨hw.toFits, fun key hkey heligible hstored => ?_⟩
  have hmirrors := hw.mirrors key hkey heligible
  unfold Mirrors at hmirrors
  split at hmirrors
  · rename_i hfile
    exact hw.tidy.isFilePath (S.isProper key hkey) (S.isUnder key hkey) hfile
  · exact absurd hmirrors hstored

/-! ## Flushes -/

/-- Only a file's own path touches its document. -/
theorem Fits.eq_of_id_of_fate (hw : S.Fits w) (hkey : S.involved key) {q : Path}
    (hq : q ∈ w.maintainer.buffer.pendingPaths)
    (h : (w.maintainer.scope.fate parse w.fs q).id? = some (key.documentId S.top)) :
    q = key.toPath := by
  obtain ⟨key', hkey', rfl⟩ := hw.known q (.inr hq)
  have hid := Scope.isIdOf_of_fate h
  rw [hw.scope_eq, S.root_eq] at hid
  rw [S.injective key key' hkey hkey'
    ((hw.tidy.isLinkFree.isIdOf_iff (S.isProper key' hkey') (S.isUnder key' hkey')).1 hid)]

/-- What a flush makes of the document of one file. -/
theorem Fits.get?_flush (parse : Parser) (hw : S.Fits w) (hkey : S.involved key) :
    let after := (w.step MemoryStore.operations parse .flush).store.get? (key.documentId S.top)
    let fate := S.scope.fate parse w.fs key.toPath
    (∃ doc, fate = .upsert doc ∧ after = some doc) ∨
    (fate = .delete (key.documentId S.top) ∧ after = none) ∨
    (after = w.store.get? (key.documentId S.top) ∧
      (key.toPath ∈ w.maintainer.buffer.pendingPaths →
        fate.id? ≠ some (key.documentId S.top))) := by
  have hone : ∀ q ∈ w.maintainer.buffer.pendingPaths,
      (w.maintainer.scope.fate parse w.fs q).id? = some (key.documentId S.top) → q = key.toPath :=
    fun q hq => hw.eq_of_id_of_fate hkey hq
  simp only [World.step, Maintainer.value_flush_memory]
  rw [hw.scope_eq] at hone ⊢
  by_cases htouched : key.toPath ∈ w.maintainer.buffer.pendingPaths ∧
      (S.scope.fate parse w.fs key.toPath).id? = some (key.documentId S.top)
  · obtain ⟨hpending, hid⟩ := htouched
    cases hfate : S.scope.fate parse w.fs key.toPath with
    | upsert doc =>
        rw [hfate] at hid
        exact .inl ⟨doc, rfl, FlushPlan.get?_of_upsert hw.imports hpending hone hfate
          (Option.some.inj hid)⟩
    | delete id =>
        rw [hfate] at hid
        obtain rfl : id = key.documentId S.top := Option.some.inj hid
        exact .inr (.inl ⟨rfl, FlushPlan.get?_storeAfter_of_delete hw.deletes
          (FlushPlan.mem_deletes_iff.2 ⟨_, hpending, hfate⟩)⟩)
    | _ =>
        rw [hfate] at hid
        cases hid
  · refine .inr (.inr ⟨FlushPlan.get?_of_untouched hw.imports fun q hq hid => ?_, ?_⟩)
    · have hqp := hone q hq hid
      rw [hqp] at hq hid
      exact htouched ⟨hq, hid⟩
    · intro hpending hid
      exact htouched ⟨hpending, hid⟩

/-! ## Steps -/

theorem Fits.isDir_eq_false (hw : S.Fits w) (hkey : key.IsProper) (hunder : S.top <+: key)
    (habove : ¬ key <+: S.top) (hdirs : ¬ S.dirs key) : w.fs.isDir key.toPath = false := by
  refine Bool.eq_false_iff.2 fun hdir => hdirs ?_
  have hne : key ≠ [] := fun hnil => habove (hnil ▸ List.nil_prefix)
  exact (hw.tidy.dirs_iff hunder hne ((hw.tidy.isDir_iff hkey hunder).1 hdir).2).1 rfl

theorem Fits.step {act : Act} (hw : S.Fits w) (hact : S.Allows act) :
    S.Fits (w.step MemoryStore.operations parse act) := by
  cases act with
  | change after => exact { hw with tidy := hact }
  | event e =>
      refine { hw with known := fun q hq => ?_ }
      rcases Maintainer.knows_handle hq with hq | ⟨heligible, hq | ⟨dir, hmem, hdir, hwalk⟩⟩
      · exact hw.known q hq
      · obtain ⟨key, -, rfl, -, -, hinvolved⟩ := hact.2.2 q hq
        exact ⟨key, hinvolved (hw.scope_eq ▸ heligible), rfl⟩
      · -- a directory that an event may name has no file of the index below it
        obtain ⟨key, hkey, rfl, hdirs, habove, -⟩ := hact.2.2 dir hmem
        obtain ⟨rest, hrest, rfl⟩ := hw.tidy.wellFormed.exists_of_mem_walk hkey hwalk
        have hunder : S.top <+: key ++ rest := by
          rw [hw.scope_eq] at heligible
          exact (RealPath.startsWith_toPath (hkey.append hrest) hw.tidy.isProper_top).1
            (S.root_eq ▸ Scope.startsWith_of_isEligible heligible)
        rcases List.prefix_or_prefix_of_prefix hunder (List.prefix_append key rest) with
          hbelow | hbelow
        · rw [hw.isDir_eq_false hkey hbelow habove hdirs] at hdir
          cases hdir
        · exact absurd hbelow habove
  | flush =>
      have hstore : (w.step MemoryStore.operations parse .flush).store =
          (FlushPlan.forPaths parse w.fs w.maintainer.scope
            w.maintainer.buffer.pendingPaths).storeAfter w.store := by
        simp only [World.step, Maintainer.value_flush_memory]
      refine ⟨hw.scope_eq, hw.tidy, ?_, ?_, fun q hq => hw.known q (Buffer.knows_flush hq)⟩
      · rw [hstore]
        exact hw.imports
      · rw [hstore]
        exact hw.deletes

theorem Invariant.step {act : Act} (hw : S.Invariant w) (hact : S.Allows act) :
    S.Invariant (w.step MemoryStore.operations parse act) := by
  refine ⟨hw.toFits.step hact, fun key hkey heligible hstored => ?_⟩
  cases act with
  | change after => exact hw.stored key hkey heligible hstored
  | event e => exact hw.stored key hkey heligible hstored
  | flush =>
      rcases hw.toFits.get?_flush parse hkey with
        ⟨doc, hfate, -⟩ | ⟨-, hnone⟩ | ⟨hsame, -⟩
      · exact hw.tidy.isFilePath (S.isProper key hkey) (S.isUnder key hkey)
          (Scope.fate_eq_upsert hfate).1
      · exact absurd hnone hstored
      · exact hw.stored key hkey heligible (hsame ▸ hstored)

/-- A flush brings the document of a pending file up to date, and keeps one that
is. -/
theorem Invariant.mirrors_flush (hw : S.Invariant w) (hkey : S.involved key)
    (heligible : S.scope.isEligible key.toPath = true)
    (h : key.toPath ∈ w.maintainer.buffer.pendingPaths ∨ S.Mirrors parse w key) :
    S.Mirrors parse (w.step MemoryStore.operations parse .flush) key := by
  have hproper := S.isProper key hkey
  have hunder := S.isUnder key hkey
  have hrel := hw.relativePath_eq hkey
  have hfs : (w.step MemoryStore.operations parse .flush).fs = w.fs := rfl
  unfold Mirrors at h ⊢
  rw [hfs]
  rcases hw.toFits.get?_flush parse hkey with
    ⟨doc, hfate, hget⟩ | ⟨hfate, hget⟩ | ⟨hsame, hid⟩
  · obtain ⟨hfile, hdoc⟩ := Scope.fate_eq_upsert hfate
    rw [if_pos hfile]
    exact ⟨doc, hdoc, hget⟩
  · have hfile : w.fs.isFile key.toPath = false := by
      simp [FileSystem.isFile, (Scope.fate_eq_delete hfate).1]
    rw [if_neg (by simp [hfile])]
    exact hget
  · rw [hsame]
    refine h.elim (fun hpending => ?_) id
    -- neither built nor gone: then there is no file, and there never was one
    have hfile : w.fs.isFile key.toPath = false := by
      refine Bool.eq_false_iff.2 fun hfile => hid hpending ?_
      obtain ⟨bytes, mtime, hcontent, -, hsmall⟩ :=
        hw.tidy.content?_of_isFile hproper hunder hfile
      have hdoc := buildDocument_of_content parse S.scope.config hcontent hrel
      rw [Scope.fate_of_document (FileSystem.metadata_of_content? hcontent) rfl hsmall hdoc]
      rfl
    rw [if_neg (by simp [hfile])]
    by_contra hstored
    rcases hw.tidy.metadata_of_isFilePath hproper hunder (hw.stored key hkey heligible hstored)
      with hthere | hgone
    · rw [hfile] at hthere
      cases hthere
    · refine hid hpending ?_
      rw [Scope.fate_of_missing hgone hrel]
      rfl

/-- A change of the disk elsewhere leaves a document as good as it was. -/
theorem Fits.mirrors_change {fs : FileSystem} (hw : S.Fits w)
    (hfs : fs.IsTidy S.top S.scope.config S.dirs) (hkey : S.involved key)
    (hsame : w.fs.content? key.toPath = fs.content? key.toPath) (h : S.Mirrors parse w key) :
    S.Mirrors parse { w with fs } key := by
  have hw' : S.Fits { w with fs } := { hw with tidy := hfs }
  rw [hw'.mirrors_iff hkey, ← hsame]
  exact (hw.mirrors_iff hkey).1 h

/-- Whatever an event says about a file of the index, the file is pending
afterwards. -/
theorem Fits.pending_of_named (parse : Parser) {e : ChangeEvent} (hw : S.Fits w)
    (he : S.Allows (.event e))
    (heligible : S.scope.isEligible key.toPath = true) (hkey : S.involved key)
    (hp : key.toPath ∈ e.paths) :
    key.toPath ∈ (w.maintainer.handle w.fs e).value.buffer.pendingPaths := by
  obtain ⟨hkind, hboth, hpaths⟩ := he
  obtain ⟨key', hproper, heq, hdirs, habove, -⟩ := hpaths _ hp
  obtain rfl : key = key' := (RealPath.toPath_inj (S.isProper key hkey) hproper).1 heq
  have hdir := hw.isDir_eq_false hproper (S.isUnder key hkey) habove hdirs
  obtain ⟨action, haction⟩ := ChangeEvent.exists_mem_actions hkind hboth hp hdir
  obtain ⟨q, hq, hsame⟩ := Maintainer.exists_same_pending_handle (m := w.maintainer) haction hdir
    (hw.scope_eq ▸ heligible)
  have hafter : S.Fits (w.step MemoryStore.operations parse (.event e)) :=
    hw.step ⟨hkind, hboth, hpaths⟩
  obtain ⟨key', hkey', rfl⟩ := hafter.known q (.inr hq)
  rwa [(RealPath.same_toPath hproper (S.isProper key' hkey')).1 hsame]

end Setting

/-! ## Runs -/

/-- The disk has changed at a path, and no event has named the path since. -/
def World.ChangedUnnamed {σ : Type} (ops : DocumentStore σ) (parse : Parser) (w : World σ)
    (acts : List Act) (p : Path) : Prop :=
  ∃ before after fs, acts = before ++ .change fs :: after ∧
    (w.run ops parse before).fs.content? p ≠ fs.content? p ∧ ∀ e, .event e ∈ after → p ∉ e.paths

namespace World

variable {σ : Type} {ops : DocumentStore σ} {parse : Parser} {w : World σ} {acts : List Act}
  {act : Act} {p : Path}

theorem changedUnnamed_concat (h : w.ChangedUnnamed ops parse acts p)
    (hact : ∀ e, act = .event e → p ∉ e.paths) :
    w.ChangedUnnamed ops parse (acts ++ [act]) p := by
  obtain ⟨before, after, fs, rfl, hne, hafter⟩ := h
  refine ⟨before, after ++ [act], fs, by simp, hne, fun e he => ?_⟩
  rcases List.mem_append.1 he with he | he
  · exact hafter e he
  · exact hact e (List.mem_singleton.1 he).symm

theorem changedUnnamed_change {fs : FileSystem}
    (h : (w.run ops parse acts).fs.content? p ≠ fs.content? p) :
    w.ChangedUnnamed ops parse (acts ++ [.change fs]) p :=
  ⟨acts, [], fs, rfl, h, fun _ he => absurd he List.not_mem_nil⟩

end World

namespace Setting

variable (S : Setting) (parse : Parser)

theorem invariant_run {w : World MemoryStore} {acts : List Act} (hw : S.Invariant w)
    (hacts : ∀ act ∈ acts, S.Allows act) :
    S.Invariant (w.run MemoryStore.operations parse acts) := by
  induction acts generalizing w with
  | nil => exact hw
  | cons act acts ih =>
      exact ih (hw.step (hacts act List.mem_cons_self)) fun a ha =>
        hacts a (List.mem_cons_of_mem _ ha)

/-- After a run the file is pending, or it changed and was not named since, or its
document is up to date. -/
def Tracks (w : World MemoryStore) (acts : List Act) (key : RealPath) : Prop :=
  key.toPath ∈ (w.run MemoryStore.operations parse acts).maintainer.buffer.pendingPaths ∨
    w.ChangedUnnamed MemoryStore.operations parse acts key.toPath ∨
    S.Mirrors parse (w.run MemoryStore.operations parse acts) key

variable {S parse} {w : World MemoryStore} {acts : List Act} {act : Act} {key : RealPath}

theorem Tracks.step (h : S.Tracks parse w acts key)
    (hw : S.Invariant (w.run MemoryStore.operations parse acts)) (hact : S.Allows act)
    (hkey : S.involved key) (heligible : S.scope.isEligible key.toPath = true) :
    S.Tracks parse w (acts ++ [act]) key := by
  unfold Tracks
  rw [World.run_append]
  cases act with
  | change fs =>
      rcases h with hpending | hchanged | hmirrors
      · exact .inl hpending
      · exact .inr (.inl (World.changedUnnamed_concat hchanged (by simp)))
      · by_cases hsame : (w.run MemoryStore.operations parse acts).fs.content? key.toPath =
            fs.content? key.toPath
        · exact .inr (.inr (hw.mirrors_change hact hkey hsame hmirrors))
        · exact .inr (.inl (World.changedUnnamed_change hsame))
  | event e =>
      by_cases hnamed : key.toPath ∈ e.paths
      · exact .inl (hw.pending_of_named parse hact heligible hkey hnamed)
      · rcases h with hpending | hchanged | hmirrors
        · exact .inl (Maintainer.pending_handle_of_pending hpending)
        · refine .inr (.inl (World.changedUnnamed_concat hchanged ?_))
          rintro e' heq
          cases heq
          exact hnamed
        · exact .inr (.inr hmirrors)
  | flush =>
      rcases h with hpending | hchanged | hmirrors
      · exact .inr (.inr (hw.mirrors_flush hkey heligible (.inl hpending)))
      · exact .inr (.inl (World.changedUnnamed_concat hchanged (by simp)))
      · exact .inr (.inr (hw.mirrors_flush hkey heligible (.inr hmirrors)))

theorem Starts.tracks_run (hstart : S.Starts parse w) (hacts : ∀ act ∈ acts, S.Allows act)
    (hkey : S.involved key) (heligible : S.scope.isEligible key.toPath = true) :
    S.Tracks parse w acts key := by
  induction acts using List.reverseRecOn with
  | nil => exact .inr (.inr (hstart.mirrors key hkey heligible))
  | append_singleton acts act ih =>
      have hbefore : ∀ a ∈ acts, S.Allows a := fun a ha => hacts a (List.mem_append_left _ ha)
      exact (ih hbefore).step (S.invariant_run parse hstart.invariant hbefore)
        (hacts act (by simp)) hkey heligible

variable (S parse)

/-- After every run each file of the index is pending, or it changed and was not
named since, or its document is up to date. -/
theorem converges (w : World MemoryStore) (hstart : S.Starts parse w) (acts : List Act)
    (hacts : ∀ act ∈ acts, S.Allows act) (key : RealPath) (hkey : S.involved key)
    (heligible : S.scope.isEligible key.toPath = true) :
    key.toPath ∈
        (w.run MemoryStore.operations parse acts).maintainer.buffer.pendingPaths ∨
      w.ChangedUnnamed MemoryStore.operations parse acts key.toPath ∨
      S.Mirrors parse (w.run MemoryStore.operations parse acts) key :=
  hstart.tracks_run hacts hkey heligible

/-- The files `/r/a.txt` and `/r/b.txt` of an index of `/r`. -/
def twoFiles : Setting where
  scope := { root := RealPath.toPath [[114]], config := {} }
  top := [[114]]
  root_eq := rfl
  dirs key := key = [[114]]
  involved key := key ∈ ["a.txt", "b.txt"].map fun name => [[114], Utf8.encode name]
  isProper := by decide +kernel
  isUnder := by decide +kernel
  injective := by
    have hids : ∀ key ∈ ["a.txt", "b.txt"].map fun name => [[114], Utf8.encode name],
        ∀ key' ∈ ["a.txt", "b.txt"].map fun name => [[114], Utf8.encode name],
          RealPath.documentId key [[114]] = RealPath.documentId key' [[114]] → key = key' := by
      decide +kernel
    exact fun key key' hkey hkey' => hids key hkey key' hkey'

instance : DecidablePred twoFiles.dirs := fun key => inferInstanceAs (Decidable (key = [[114]]))

instance : DecidablePred twoFiles.involved := fun key =>
  inferInstanceAs (Decidable (key ∈ ["a.txt", "b.txt"].map fun name => [[114], Utf8.encode name]))

/-- The file `a.txt` is written, reported and indexed; then it is renamed to
`b.txt`, which is not reported. -/
theorem converges_twoFiles :
    let empty : FileSystem := ⟨[([[114]], .directory)], []⟩
    let a : RealPath := [[114], Utf8.encode "a.txt"]
    let b : RealPath := [[114], Utf8.encode "b.txt"]
    let written := empty.put a (.file [120] 5)
    let w : World MemoryStore := ⟨empty, { scope := twoFiles.scope }, {}⟩
    let acts := [.change written, .event ⟨.created, [a.toPath]⟩, .flush,
      .change (written.rename a b)]
    b.toPath ∈
        (w.run MemoryStore.operations (fun _ => none) acts).maintainer.buffer.pendingPaths ∨
      w.ChangedUnnamed MemoryStore.operations (fun _ => none) acts b.toPath ∨
      twoFiles.Mirrors (fun _ => none) (w.run MemoryStore.operations (fun _ => none) acts) b := by
  intro empty a b written w acts
  have htidy : empty.IsTidy twoFiles.top twoFiles.scope.config twoFiles.dirs := by decide +kernel
  have hstart : twoFiles.Starts (fun _ => none) w := by
    refine ⟨⟨rfl, htidy, rfl, rfl, ?_⟩, fun key hkey _ => ?_⟩
    · rintro p (hp | hp) <;> exact absurd hp List.not_mem_nil
    · have hentries : ∀ key ∈ ["a.txt", "b.txt"].map fun name => [[114], Utf8.encode name],
          empty.entryAt? key = none := by decide +kernel
      have hfile : w.fs.isFile key.toPath = false := by
        refine Bool.eq_false_iff.2 fun hfile => ?_
        obtain ⟨-, e, he, -⟩ := (htidy.isFile_iff (twoFiles.isProper key hkey)
          (twoFiles.isUnder key hkey)).1 hfile
        rw [hentries key hkey] at he
        cases he
      unfold Mirrors
      rw [if_neg (by simp [hfile])]
      rfl
  have hacts : ∀ act ∈ acts, twoFiles.Allows act := by
    intro act hact
    simp only [acts, List.mem_cons, List.not_mem_nil, or_false] at hact
    rcases hact with rfl | rfl | rfl | rfl
    · show written.IsTidy twoFiles.top twoFiles.scope.config twoFiles.dirs
      decide +kernel
    · refine ⟨by decide, by decide, fun p hp => ⟨a, by decide +kernel, List.mem_singleton.1 hp, ?_⟩⟩
      refine ⟨by decide +kernel, by decide +kernel, fun _ => ?_⟩
      show twoFiles.involved a
      decide +kernel
    · trivial
    · show (written.rename a b).IsTidy twoFiles.top twoFiles.scope.config twoFiles.dirs
      decide +kernel
  exact twoFiles.converges (fun _ => none) w hstart acts hacts b (by decide +kernel)
    (by decide +kernel)

/-- A run that ends in a flush leaves nothing pending. So a file that was named since
its last change has its document up to date. -/
theorem mirrors_of_flushed (w : World MemoryStore) (hstart : S.Starts parse w) (acts : List Act)
    (hacts : ∀ act ∈ acts, S.Allows act) (key : RealPath) (hkey : S.involved key)
    (heligible : S.scope.isEligible key.toPath = true)
    (hnamed : ¬ w.ChangedUnnamed MemoryStore.operations parse (acts ++ [.flush]) key.toPath) :
    let after := w.run MemoryStore.operations parse (acts ++ [.flush])
    after.maintainer.buffer.pendingPaths = [] ∧ S.Mirrors parse after key := by
  intro after
  have hempty : after.maintainer.buffer.pendingPaths = [] := by
    rw [Buffer.pendingPaths, List.map_eq_nil_iff]
    simp only [after, World.run_append]
    exact Buffer.pending_flush _ _ _ _ _ _
  have hallowed : ∀ act ∈ acts ++ [.flush], S.Allows act := by
    intro act hact
    rcases List.mem_append.1 hact with hact | hact
    · exact hacts act hact
    · rw [List.mem_singleton.1 hact]
      trivial
  refine ⟨hempty, ?_⟩
  rcases hstart.tracks_run hallowed hkey heligible with hpending | hchanged | hmirrors
  · rw [hempty] at hpending
    cases hpending
  · exact absurd hchanged hnamed
  · exact hmirrors

end Setting

end SymbolIndex
