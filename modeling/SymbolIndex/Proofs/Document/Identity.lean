-- SUMMARY: What a document depends on: its id on the relative path alone, the rest on the content of its file.
import SymbolIndex.Document.Build
import SymbolIndex.Proofs.File.Tree

/-!
# Identity of documents

Where there are no links the relative path of a normal path is a matter of
spelling, whether the path exists or not. So the id of a document can be told
without a look at the disk, and the document itself from the content and the
time of its file.
-/

namespace SymbolIndex

/-! ## Relative paths -/

/-- The id of the document of a file in a tree. -/
def RealPath.documentId (key top : RealPath) : String := fileId (key.relativeTo top).display

namespace FileSystem

variable {fs : FileSystem} {top key : RealPath}

theorem IsLinkFree.bothCanonical_eq (free : fs.IsLinkFree top) (hkey : key.IsProper)
    (hunder : top <+: key) :
    fs.bothCanonical key.toPath top.toPath = (key.toPath, top.toPath) := by
  unfold bothCanonical
  split
  · rename_i path root hpath hroot
    rw [free.canonicalize_ok hkey hunder hpath,
      free.canonicalize_ok free.isProper_top List.prefix_rfl hroot]
  · rfl

theorem IsLinkFree.relativePath_eq (free : fs.IsLinkFree top) (hkey : key.IsProper)
    (hunder : top <+: key) :
    fs.relativePath key.toPath top.toPath = .ok (key.relativeTo top).display := by
  unfold relativePath
  simp only [free.bothCanonical_eq hkey hunder,
    RealPath.stripBase?_toPath hkey free.isProper_top hunder]

theorem IsTree.relativePath_eq (tree : fs.IsTree top) (hkey : key.IsProper)
    (hunder : top <+: key) :
    fs.relativePath key.toPath top.toPath = .ok (key.relativeTo top).display :=
  tree.isLinkFree.relativePath_eq hkey hunder

end FileSystem

/-- A path that is written under the root has a relative path on every disk. -/
theorem FileSystem.exists_relativePath (fs : FileSystem) {p root : Path}
    (h : p.startsWith root = true) : ∃ relative, fs.relativePath p root = .ok relative := by
  obtain ⟨relative, hstrip⟩ := Path.exists_stripBase? h
  unfold relativePath
  dsimp only
  split
  · exact ⟨_, rfl⟩
  · rw [hstrip]
    exact ⟨_, rfl⟩

/-- The id of the document of a path. -/
def FileSystem.IsIdOf (fs : FileSystem) (root path : Path) (id : String) : Prop :=
  ∃ relative, fs.relativePath path root = .ok relative ∧ id = fileId relative

namespace FileSystem

variable {fs : FileSystem} {root path : Path} {top key : RealPath} {id id' : String}

/-- A path has one id. -/
theorem IsIdOf.eq (h : fs.IsIdOf root path id) (h' : fs.IsIdOf root path id') : id = id' := by
  obtain ⟨relative, hrel, rfl⟩ := h
  obtain ⟨relative', hrel', rfl⟩ := h'
  rw [hrel] at hrel'
  rw [Except.ok.inj hrel']

/-- Without links the id is a matter of spelling too. -/
theorem IsLinkFree.isIdOf_iff (free : fs.IsLinkFree top) (hkey : key.IsProper)
    (hunder : top <+: key) : fs.IsIdOf top.toPath key.toPath id ↔ id = key.documentId top := by
  have hrel := free.relativePath_eq hkey hunder
  constructor
  · intro h
    exact h.eq ⟨_, hrel, rfl⟩
  · intro h
    exact ⟨_, hrel, h⟩

end FileSystem

/-! ## Content -/

/-- Content and modification time of the readable file that `p` leads to. -/
def FileSystem.content? (fs : FileSystem) (p : Path) : Option (Bytes × Int) :=
  match fs.resolve p with
  | .error _ => none
  | .ok key =>
      match fs.entryAt? key with
      | some (.file bytes mtime) => some (bytes, mtime)
      | _ => none

namespace FileSystem

variable {fs : FileSystem} {p : Path} {bytes : Bytes} {mtime : Int}

theorem entry_of_content? (h : fs.content? p = some (bytes, mtime)) :
    ∃ key, fs.resolve p = .ok key ∧ fs.entryAt? key = some (.file bytes mtime) := by
  unfold content? at h
  split at h
  · cases h
  · rename_i key hkey
    split at h
    · rename_i he
      cases h
      exact ⟨key, hkey, he⟩
    · cases h

theorem metadata_of_content? (h : fs.content? p = some (bytes, mtime)) :
    fs.metadata p = .ok ⟨true, false, bytes.length, mtime⟩ := by
  obtain ⟨key, hkey, he⟩ := entry_of_content? h
  simp [metadata, hkey, he, bind, Except.bind, Entry.metadata]

theorem read_of_content? (h : fs.content? p = some (bytes, mtime)) : fs.read p = .ok bytes := by
  obtain ⟨key, hkey, he⟩ := entry_of_content? h
  simp [read, hkey, he, bind, Except.bind]

theorem content?_of_read (h : fs.read p = .ok bytes) :
    ∃ mtime, fs.content? p = some (bytes, mtime) := by
  unfold read at h
  cases hresolve : fs.resolve p with
  | error e =>
      rw [hresolve] at h
      cases h
  | ok key =>
      simp only [hresolve, bind, Except.bind] at h
      split at h
      · rename_i content mtime hentry
        cases h
        exact ⟨mtime, by simp [content?, hresolve, hentry]⟩
      · cases h
      · cases h
      · cases h

theorem isFile_of_content? (h : fs.content? p = some (bytes, mtime)) : fs.isFile p = true := by
  simp [isFile, metadata_of_content? h]

theorem IsTree.content?_of_entry {top key : RealPath} (tree : fs.IsTree top) (hunder : top <+: key)
    (hlimits : key.WithinLimits) (h : fs.entryAt? key = some (.file bytes mtime)) :
    fs.content? key.toPath = some (bytes, mtime) := by
  simp [content?, tree.resolve_of_entry hunder hlimits h, h]

end FileSystem

/-! ## Documents -/

/-- A file with the given content, as it is read. -/
def SourceFile.ofContent (path : Path) (relativePath : String) (bytes : Bytes) (mtime : Int) :
    SourceFile where
  path := path
  relativePath := relativePath
  extension := extensionOf path
  subsystem := subsystemOf relativePath
  mtime := if mtime < 0 then 0 else mtime
  bytes := bytes

/-- The document of a file with the given content. -/
def SourceFile.document (parse : Parser) (config : Config) (f : SourceFile) : IndexDocument :=
  f.project (extractFile parse f.extension f.bytes) config

namespace SourceFile

variable (parse : Parser) (config : Config) (f : SourceFile)

@[simp] theorem path_document : (f.document parse config).path = f.path.display := rfl

@[simp] theorem subsystem_document : (f.document parse config).subsystem = f.subsystem := rfl

@[simp] theorem classNames_document :
    (f.document parse config).classNames = (extractFile parse f.extension f.bytes).classNames := by
  rw [document, project]

end SourceFile

theorem buildDocument_of_content (parse : Parser) {fs : FileSystem} (config : Config)
    {root p : Path} {relative : String} {bytes : Bytes} {mtime : Int}
    (hcontent : fs.content? p = some (bytes, mtime)) (hrel : fs.relativePath p root = .ok relative) :
    buildDocument parse fs config root p =
      .ok ((SourceFile.ofContent p relative bytes mtime).document parse config) := by
  have hmeta := FileSystem.metadata_of_content? hcontent
  have hread := FileSystem.read_of_content? hcontent
  simp [buildDocument, SourceFile.read, hmeta, hread, hrel, Except.mapError, bind, Except.bind,
    SourceFile.document, SourceFile.ofContent]

/-- What was read for a document. -/
theorem exists_of_buildDocument {parse : Parser} {fs : FileSystem} {config : Config} {root p : Path}
    {doc : IndexDocument} (h : buildDocument parse fs config root p = .ok doc) :
    ∃ metadata bytes relative, fs.metadata p = .ok metadata ∧ fs.read p = .ok bytes ∧
      fs.relativePath p root = .ok relative ∧
      (SourceFile.ofContent p relative bytes metadata.mtime).document parse config = doc := by
  unfold buildDocument SourceFile.read at h
  cases hmeta : fs.metadata p with
  | error e => simp [hmeta, Except.mapError, bind, Except.bind] at h
  | ok metadata =>
      cases hread : fs.read p with
      | error e => simp [hmeta, hread, Except.mapError, bind, Except.bind] at h
      | ok bytes =>
          cases hrel : fs.relativePath p root with
          | error e => simp [hmeta, hread, hrel, Except.mapError, bind, Except.bind] at h
          | ok relative =>
              simp only [hmeta, hread, hrel, Except.mapError, bind, Except.bind,
                Except.ok.injEq] at h
              exact ⟨metadata, bytes, relative, rfl, rfl, rfl, h⟩

/-- Whatever is read, the id comes from the relative path. -/
theorem id_of_buildDocument {parse : Parser} {fs : FileSystem} {config : Config} {root p : Path}
    {doc : IndexDocument} (h : buildDocument parse fs config root p = .ok doc) :
    fs.IsIdOf root p doc.id := by
  obtain ⟨metadata, bytes, relative, -, -, hrel, rfl⟩ := exists_of_buildDocument h
  exact ⟨relative, hrel, rfl⟩

end SymbolIndex
