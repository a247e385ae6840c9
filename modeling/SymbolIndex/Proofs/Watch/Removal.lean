-- SUMMARY: Which document the removal of a file addresses, with links on the way to the file.
import SymbolIndex.File.Edit
import SymbolIndex.Proofs.File.Resolution
import SymbolIndex.Proofs.Watch.Flushing

/-!
# Removed files

While a file stands, its relative path is that of the place its path leads to.
Once it is gone only the spelling is left. So a removal addresses the document
that was built for the file, unless links lead to another place below the root.
-/

namespace SymbolIndex

namespace FileSystem

variable {fs : FileSystem}

/-! ## Relative paths in the two cases -/

variable {top key real : RealPath}

/-- A path that leads nowhere is taken as it is written. -/
theorem relativePath_of_error {e : IoError} (htop : top.IsProper) (hkey : key.IsProper)
    (hunder : top <+: key) (h : fs.canonicalize key.toPath = .error e) :
    fs.relativePath key.toPath top.toPath = .ok (key.relativeTo top).display := by
  have hboth : fs.bothCanonical key.toPath top.toPath = (key.toPath, top.toPath) := by
    unfold bothCanonical
    rw [h]
  unfold relativePath
  simp only [hboth, RealPath.stripBase?_toPath hkey htop hunder]

/-- A path that leads below the root is taken from there, and as it is written
if it leads elsewhere. -/
theorem relativePath_of_resolve (htop : top.IsProper) (hkey : key.IsProper)
    (hreal : real.IsProper) (hunder : top <+: key) (hcanonical : fs.resolve top.toPath = .ok top)
    (hresolve : fs.resolve key.toPath = .ok real) :
    fs.relativePath key.toPath top.toPath =
      .ok ((if top <+: real then real else key).relativeTo top).display := by
  have hboth : fs.bothCanonical key.toPath top.toPath = (real.toPath, top.toPath) := by
    unfold bothCanonical canonicalize
    rw [hresolve, hcanonical]
    rfl
  unfold relativePath
  simp only [hboth]
  by_cases hbelow : top <+: real
  · rw [if_pos hbelow, RealPath.stripBase?_toPath hreal htop hbelow]
  · rw [if_neg hbelow, RealPath.stripBase?_toPath_eq_none hreal htop hbelow]
    simp only [RealPath.stripBase?_toPath hkey htop hunder]

end FileSystem

/-! ## Documents and their removal -/

/-- The removal of a file addresses the document built for it exactly if its
path led out of the root, or to a place whose document has the same id. -/
theorem FlushPlan.deletes_built_document_iff (parse : Parser) (scope : Scope)
    {fs gone : FileSystem} {top key real : RealPath} {bytes : Bytes} {mtime : Int}
    (hfs : fs.WellFormed) (hgone : gone.WellFormed) (hroot : scope.root = top.toPath)
    (hcanonical : fs.resolve top.toPath = .ok top) (hkey : key.IsProper) (hunder : top <+: key)
    (hresolve : fs.resolve key.toPath = .ok real)
    (hfile : fs.entryAt? real = some (.file bytes mtime))
    (hmissing : gone.metadata key.toPath = .error .notFound) :
    ∃ doc id, buildDocument parse fs scope.config scope.root key.toPath = .ok doc ∧
      (∀ action, (ofPending parse gone scope [(key.toPath, action)]).value.deletes =
        [(id, key.toPath)]) ∧
      (doc.id = id ↔ ¬ top <+: real ∨ real.documentId top = key.documentId top) := by
  have hreal : real.IsProper := hfs.isProper hfile
  obtain ⟨entry, hentry⟩ := Option.isSome_iff_exists.1
    (hfs.isSome_of_resolve RealPath.isAbsolute_toPath hcanonical)
  have htop : top.IsProper := hfs.isProper hentry
  have hcontent : fs.content? key.toPath = some (bytes, mtime) := by
    simp [FileSystem.content?, hresolve, hfile]
  have hbuilt := FileSystem.relativePath_of_resolve htop hkey hreal hunder hcanonical hresolve
  have hwritten := FileSystem.relativePath_of_error htop hkey hunder
    (hgone.canonicalize_of_error RealPath.isAbsolute_toPath hmissing)
  rw [← hroot] at hbuilt hwritten
  refine ⟨_, key.documentId top, buildDocument_of_content parse scope.config hcontent hbuilt,
    fun action => ?_, ?_⟩
  · rw [value_ofPending]
    simp [forPaths, Scope.fate_of_missing hmissing hwritten, Fate.delete?, RealPath.documentId]
  · show (if top <+: real then real else key).documentId top = key.documentId top ↔ _
    by_cases hbelow : top <+: real
    · simp [hbelow]
    · simp [hbelow]

/-! ## A link out of the root, and one that stays below it -/

/-- In `/r` the link `out` leads to `/s`, and the link `d` to `e`. Both `/s` and
`/r/e` hold a file `x.txt`. -/
def FileSystem.linkedDirectories : FileSystem where
  entries :=
    [([[114]], .directory), ([[115]], .directory), ([[115], Utf8.encode "x.txt"], .file [120] 5),
      ([[114], [101]], .directory), ([[114], [101], Utf8.encode "x.txt"], .file [121] 5),
      ([[114], [100]], .symlink (.ofString "e")),
      ([[114], Utf8.encode "out"], .symlink (.ofString "/s"))]
  workingDir := []

/-- `/r/out/x.txt` is removed: its document is deleted, since the link leads out
of the root. -/
theorem FlushPlan.deletes_built_document_out :
    let fs : FileSystem := .linkedDirectories
    let key : RealPath := [[114], Utf8.encode "out", Utf8.encode "x.txt"]
    let gone := fs.apply (.remove key.toPath)
    let scope : Scope := { root := RealPath.toPath [[114]], config := {} }
    ∃ doc id, buildDocument (fun _ => none) fs scope.config scope.root key.toPath = .ok doc ∧
      (∀ action, (ofPending (fun _ => none) gone scope [(key.toPath, action)]).value.deletes =
        [(id, key.toPath)]) ∧
      doc.id = id := by
  intro fs key gone scope
  obtain ⟨hfs, hroot, hproper, hunder, hresolve, hfile, hgone, hmissing⟩ : fs.WellFormed ∧
      fs.resolve (RealPath.toPath [[114]]) = .ok [[114]] ∧ key.IsProper ∧ [[114]] <+: key ∧
      fs.resolve key.toPath = .ok [[115], Utf8.encode "x.txt"] ∧
      fs.entryAt? [[115], Utf8.encode "x.txt"] = some (.file [120] 5) ∧ gone.WellFormed ∧
      gone.metadata key.toPath = .error .notFound := by decide +kernel
  obtain ⟨doc, id, hdoc, hdeletes, hids⟩ :=
    deletes_built_document_iff (fun _ => none) scope hfs hgone rfl hroot hproper hunder
      hresolve hfile hmissing
  exact ⟨doc, id, hdoc, hdeletes, hids.2 (.inl (by decide +kernel))⟩

/-- `/r/d/x.txt` is removed: the document that was built for it is that of
`/r/e/x.txt`, and stays. -/
theorem FlushPlan.deletes_other_document_linkedDirectories :
    let fs : FileSystem := .linkedDirectories
    let path : Path := .ofString "/r/d/x.txt"
    let gone := fs.apply (.remove path)
    let scope : Scope := { root := .ofString "/r", config := {} }
    path.IsNormal ∧ scope.isEligible path = true ∧ fs.canonicalize scope.root = .ok scope.root ∧
      gone.metadata path = .error .notFound ∧
      ∃ doc, buildDocument (fun _ => none) fs scope.config scope.root path = .ok doc ∧
        doc.id ≠ fileId "d/x.txt" ∧
        ∀ action, (ofPending (fun _ => none) gone scope [(path, action)]).value.deletes =
          [(fileId "d/x.txt", path)] := by
  intro fs path gone scope
  let key : RealPath := [[114], [100], Utf8.encode "x.txt"]
  obtain ⟨⟨hproper, hpath⟩, heligible, hcanonical, hmissing, hcontent, hbuilt, hwritten, hids⟩ :
      (key.IsProper ∧ key.toPath = path) ∧ scope.isEligible path = true ∧
      fs.canonicalize scope.root = .ok scope.root ∧ gone.metadata path = .error .notFound ∧
      fs.content? path = some ([121], 5) ∧ fs.relativePath path scope.root = .ok "e/x.txt" ∧
      gone.relativePath path scope.root = .ok "d/x.txt" ∧
      fileId "e/x.txt" ≠ fileId "d/x.txt" := by decide +kernel
  refine ⟨⟨key, hproper, hpath⟩, heligible, hcanonical, hmissing, _,
    buildDocument_of_content _ scope.config hcontent hbuilt, hids, fun action => ?_⟩
  rw [value_ofPending]
  simp [forPaths, Scope.fate_of_missing hmissing hwritten, Fate.delete?]

end SymbolIndex
