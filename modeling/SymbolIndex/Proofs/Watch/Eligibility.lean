-- SUMMARY: Only paths of the index get into the buffer, so a flush concerns documents of such paths alone.
import SymbolIndex.Proofs.Watch.Calls
import SymbolIndex.Proofs.Watch.Run

/-!
# Eligible paths

Paths come to a buffer from events, from walks, and from what it knew before,
and go from pending to indexed. All of these ways are checked against the scope,
so in every run, on whatever disks and with whatever store, a flush is about
paths of the index. None of them is ever found outside of the root.
-/

namespace SymbolIndex

/-! ## What a scope covers -/

/-- The path lies under the root and its extension is tracked, no name below the
root is excluded or starts with a dot, and the rules do not ignore it. -/
structure Scope.Covers (scope : Scope) (p : Path) : Prop where
  under : p.startsWith scope.root = true
  tracked : ∃ extension, p.extension? = some extension ∧
    scope.config.isTrackedExtension (Utf8.decode extension) = true
  named : ∀ relative, p.stripBase? scope.root = some relative →
    ∀ name, .normal name ∈ relative.components →
      (Utf8.decode name).toList.head? ≠ some '.' ∧ Utf8.decode name ∉ scope.config.excludeDirs
  unignored : ∀ relative, p.stripBase? scope.root = some relative →
    Ignore.verdictUpward? scope.rules relative ≠ some .ignored

theorem Config.isExcludedPath_eq_false {c : Config} {relative : Path} :
    c.isExcludedPath relative = false ↔
      ∀ name, .normal name ∈ relative.components →
        (Utf8.decode name).toList.head? ≠ some '.' ∧ Utf8.decode name ∉ c.excludeDirs := by
  unfold isExcludedPath
  rw [List.any_eq_false]
  constructor
  · intro h name hname
    have hkept := h _ hname
    simpa [isExcludedComponent] using hkept
  · intro h component hcomponent
    cases component with
    | normal name =>
        have hkept := h name hcomponent
        simpa [isExcludedComponent] using hkept
    | _ => simp

theorem Scope.isEligible_iff {scope : Scope} {p : Path} :
    scope.isEligible p = true ↔ scope.Covers p := by
  constructor
  · intro h
    have hunder := startsWith_of_isEligible h
    obtain ⟨relative, hstrip⟩ := Path.exists_stripBase? hunder
    unfold isEligible Config.isIndexable at h
    cases hextension : p.extension? with
    | none => simp [hextension] at h
    | some extension =>
        simp only [hextension, hstrip, Bool.and_eq_true, Bool.not_eq_true', bne_iff_ne] at h
        obtain ⟨⟨htracked, hnamed⟩, hunignored⟩ := h
        refine ⟨hunder, ⟨extension, hextension, htracked⟩, ?_, ?_⟩
        · intro relative' hstrip'
          obtain rfl : relative = relative' := Option.some.inj (hstrip.symm.trans hstrip')
          exact Config.isExcludedPath_eq_false.1 hnamed
        · intro relative' hstrip'
          obtain rfl : relative = relative' := Option.some.inj (hstrip.symm.trans hstrip')
          exact hunignored
  · intro h
    obtain ⟨relative, hstrip⟩ := Path.exists_stripBase? h.under
    obtain ⟨extension, hextension, htracked⟩ := h.tracked
    have hnamed := Config.isExcludedPath_eq_false.2 (h.named relative hstrip)
    have hunignored := h.unignored relative hstrip
    unfold isEligible Config.isIndexable
    simp [hextension, hstrip, htracked, hnamed, hunignored]

/-! ## Documents of covered files -/

/-- A document fails to be built for want of a relative path only if there is
none. -/
theorem buildDocument_ne_io {parse : Parser} {fs : FileSystem} {config : Config} {root p : Path}
    {relative : String} (h : fs.relativePath p root = .ok relative) (e : IoError) :
    buildDocument parse fs config root p ≠ .error (.io e) := by
  intro hbuild
  unfold buildDocument SourceFile.read at hbuild
  cases hmeta : fs.metadata p with
  | error e' => simp [hmeta, Except.mapError, bind, Except.bind] at hbuild
  | ok m =>
      cases hread : fs.read p with
      | error e' => simp [hmeta, hread, Except.mapError, bind, Except.bind] at hbuild
      | ok bytes => simp [hmeta, hread, h, Except.mapError, bind, Except.bind] at hbuild

/-! ## Runs -/

/-- What the buffer knows belongs to the index. -/
def World.IsEligible {σ : Type} (w : World σ) : Prop :=
  ∀ p, w.maintainer.buffer.Knows p → w.maintainer.scope.isEligible p = true

namespace World.IsEligible

variable {σ : Type} {ops : DocumentStore σ} {parse : Parser} {w : World σ}

theorem step (hw : w.IsEligible) (act : Act) : (w.step ops parse act).IsEligible := by
  cases act with
  | change after => exact hw
  | event e =>
      intro q hq
      rcases Maintainer.knows_handle hq with hq | ⟨heligible, -⟩
      · exact hw q hq
      · exact heligible
  | flush =>
      intro q hq
      exact hw q (Buffer.knows_flush hq)

theorem run (hw : w.IsEligible) (acts : List Act) : (w.run ops parse acts).IsEligible := by
  induction acts generalizing w with
  | nil => exact hw
  | cons act acts ih => exact ih (hw.step act)

end World.IsEligible

namespace Maintainer

variable {fs : FileSystem} {config : Config} {root : Path} {m : Maintainer}

theorem exists_eq_atTop (hm : (ofRoot fs config root).value = .ok m) :
    ∃ top, fs.resolve root = .ok top ∧ m = atTop fs config top := by
  cases hresolve : fs.resolve root with
  | ok top => exact ⟨top, rfl, eq_of_ofRoot hresolve hm⟩
  | error e =>
      have hscope : ∃ e', (Scope.ofRoot fs config root).value = .error e' := by
        simp only [Scope.ofRoot, FileSystem.canonicalize, hresolve]
        cases fs.isDir root with
        | false => exact ⟨_, rfl⟩
        | true => exact ⟨_, rfl⟩
      obtain ⟨e', hscope⟩ := hscope
      simp [ofRoot, hscope] at hm

end Maintainer

/-- The calls that carry out a plan come from the fates of its paths. -/
theorem FlushPlan.mem_calls_forPaths {parse : Parser} {fs : FileSystem} {scope : Scope}
    {paths : List Path} {call : StoreCall} (h : call ∈ (forPaths parse fs scope paths).calls) :
    (∃ docs, call = .importDocuments docs ∧
      ∀ doc ∈ docs, ∃ p ∈ paths, scope.fate parse fs p = .upsert doc) ∨
    (∃ id, call = .deleteDocument id ∧ ∃ p ∈ paths, scope.fate parse fs p = .delete id) := by
  rcases mem_calls.1 h with ⟨-, rfl⟩ | ⟨⟨id, p⟩, hmem, rfl⟩
  · refine .inl ⟨_, rfl, fun doc hdoc => ?_⟩
    obtain ⟨⟨doc', p⟩, hmem, rfl⟩ := List.mem_map.1 hdoc
    exact ⟨p, mem_upserts_forPaths.1 hmem⟩
  · exact .inr ⟨id, rfl, p, mem_deletes_forPaths.1 hmem⟩

/-- In every run of a new maintainer the buffer knows only paths that its scope
covers, a flush imports and deletes the documents of such paths alone, and all
of them have a relative path, whatever the disk. -/
theorem Maintainer.covers_of_knows_run {σ : Type} (ops : DocumentStore σ) (parse : Parser)
    {fs : FileSystem} {config : Config} {root : Path} {m : Maintainer}
    (hm : (ofRoot fs config root).value = .ok m) (store : σ) (acts : List Act) :
    ∃ top, fs.canonicalize root = .ok top ∧
      let scope : Scope :=
        { root := top, config, rules := (Scope.readRules fs (top / ".gitignore")).value }
      let w := World.run ops parse ⟨fs, m, store⟩ acts
      (∀ p, w.maintainer.buffer.Knows p →
        w.maintainer.scope.isEligible p = true ∧ scope.Covers p) ∧
      (∀ call ∈ w.maintainer.callsOfFlush ops parse w.fs w.store,
        (∃ docs, call = .importDocuments docs ∧ ∀ doc ∈ docs,
          ∃ p, scope.Covers p ∧ buildDocument parse w.fs config top p = .ok doc) ∨
        (∃ id, call = .deleteDocument id ∧
          ∃ p, scope.Covers p ∧ w.fs.exists? p = false ∧ w.fs.IsIdOf top p id)) ∧
      (∀ p, w.maintainer.buffer.Knows p → ∀ disk : FileSystem,
        (∃ relative, disk.relativePath p top = .ok relative) ∧
          ∀ path base, buildDocument parse disk config top p ≠
            .error (.io (.outsideRoot path base))) := by
  obtain ⟨top, hresolve, rfl⟩ := exists_eq_atTop hm
  refine ⟨top.toPath, by rw [FileSystem.canonicalize, hresolve]; rfl, ?_⟩
  intro scope w
  have hscope : w.maintainer.scope = scope := World.scope_run ops parse _ acts
  have heligible : w.IsEligible := World.IsEligible.run
    (fun p hp => (List.mem_filter.1 (mem_filesUnder_of_knows_atTop hp)).2) acts
  have hcovers : ∀ p, w.maintainer.buffer.Knows p → scope.Covers p := fun p hp =>
    Scope.isEligible_iff.1 (hscope ▸ heligible p hp)
  refine ⟨fun p hp => ⟨heligible p hp, hcovers p hp⟩, fun call hcall => ?_, fun p hp disk => ?_⟩
  · rw [callsOfFlush_eq, hscope] at hcall
    rcases FlushPlan.mem_calls_forPaths hcall with
      ⟨docs, rfl, hdocs⟩ | ⟨id, rfl, p, hp, hfate⟩
    · refine .inl ⟨docs, rfl, fun doc hdoc => ?_⟩
      obtain ⟨p, hp, hfate⟩ := hdocs doc hdoc
      exact ⟨p, hcovers p (.inr hp), (Scope.fate_eq_upsert hfate).2⟩
    · obtain ⟨hmissing, hid⟩ := Scope.fate_eq_delete hfate
      refine .inr ⟨id, rfl, p, hcovers p (.inr hp), ?_, hid⟩
      simp [FileSystem.exists?, hmissing, Except.isOk, Except.toBool]
  · obtain ⟨relative, hrel⟩ := disk.exists_relativePath (hcovers p hp).under
    exact ⟨⟨relative, hrel⟩, fun path base => buildDocument_ne_io hrel _⟩

/-- In `/r`, the file `b.txt` is ignored and `a.txt` is not. -/
def FileSystem.ignoredFile : FileSystem where
  entries :=
    [([[114]], .directory), ([[114], Utf8.encode ".gitignore"], .file (Utf8.encode "b.txt\n") 5),
      ([[114], Utf8.encode "a.txt"], .file [120] 5), ([[114], Utf8.encode "b.txt"], .file [121] 5)]
  workingDir := []

theorem Scope.rules_ignoredFile :
    (Scope.atTop .ignoredFile {} [[114]]).rules =
      (Ignore.IgnoreFile.ofContent (Utf8.encode "b.txt\n")).rules := by
  have hread : FileSystem.ignoredFile.read (RealPath.toPath [[114]] / ".gitignore") =
      .ok (Utf8.encode "b.txt\n") := by decide +kernel
  rw [atTop, value_readRules, Ignore.fileAt, hread]

/-- Both files are reported, before and after a flush: `b.txt` stays unknown. -/
theorem Maintainer.covers_of_knows_ignoredFile :
    let m : Maintainer := .atTop .ignoredFile {} [[114]]
    let e : ChangeEvent := ⟨.created, [.ofString "/r/a.txt", .ofString "/r/b.txt"]⟩
    let before := World.run FaultyStore.operations (fun _ => none)
      ⟨.ignoredFile, m, { faults := [true] }⟩ [.event e, .flush]
    let w := before.step FaultyStore.operations (fun _ => none) (.event e)
    (ofRoot .ignoredFile {} (.ofString "/r")).value = .ok m ∧
      (∃ p, w.maintainer.buffer.Knows p ∧ (Path.ofString "/r/a.txt").same p = true) ∧
      ¬ w.maintainer.buffer.Knows (.ofString "/r/b.txt") := by
  intro m e before w
  obtain ⟨hroot, hdir, hfile, hstrip⟩ :
      FileSystem.ignoredFile.resolve (.ofString "/r") = .ok [[114]] ∧
      FileSystem.ignoredFile.isDir (.ofString "/r") = true ∧
      FileSystem.ignoredFile.isDir (.ofString "/r/a.txt") = false ∧
      (Path.ofString "/r/b.txt").stripBase? (RealPath.toPath [[114]]) =
        some (.ofString "b.txt") := by decide +kernel
  have hm : (ofRoot .ignoredFile {} (.ofString "/r")).value = .ok m := by
    rw [value_ofRoot hroot, if_pos hdir]
  refine ⟨hm, ?_, fun hb => ?_⟩
  · have heligible : m.scope.isEligible (.ofString "/r/a.txt") = true := by
      show (Scope.atTop .ignoredFile {} [[114]]).isEligible _ = true
      rw [Scope.isEligible, Scope.rules_ignoredFile]
      decide +kernel
    obtain ⟨p, hp, hsame⟩ := exists_same_pending_handle (a := (.ofString "/r/a.txt", .upsert))
      (e := e) (m := before.maintainer) List.mem_cons_self hfile
      (by rw [World.scope_run]; exact heligible)
    exact ⟨p, .inr hp, hsame⟩
  · obtain ⟨top, htop, hcovers, -, -⟩ := covers_of_knows_run FaultyStore.operations
      (fun _ => none) hm { faults := [true] } [.event e, .flush, .event e]
    have hverdict : Ignore.verdictUpward?
        (Ignore.IgnoreFile.ofContent (Utf8.encode "b.txt\n")).rules (.ofString "b.txt") =
          some .ignored := by decide +kernel
    obtain rfl : RealPath.toPath [[114]] = top := by
      rw [FileSystem.canonicalize, hroot] at htop
      exact Except.ok.inj htop
    refine (hcovers _ hb).2.unignored _ hstrip ?_
    rw [← hverdict, ← Scope.rules_ignoredFile]
    rfl

end SymbolIndex
