-- SUMMARY: The files that a search picks after a bulk run, and what a query on them still finds.
import SymbolIndex.Proofs.Bulk.Contents
import SymbolIndex.Proofs.File.Resolution
import SymbolIndex.Proofs.Query.Declarations
import SymbolIndex.Proofs.Search.Filters
import SymbolIndex.Proofs.Text.Utf8
import SymbolIndex.Proofs.Watch.Pending
import SymbolIndex.Query.Files

/-!
# Files from a search

A search for a type comes before a query for the sake of speed, so it may leave
no file out that the query would find something in. What is indexed of a file
are the names of its types; the file that a hit leads to is the one that was
indexed, and on it the query runs as it would without the search.
-/

namespace SymbolIndex

open Syntax

/-! ## Files of hits -/

section

variable {fs : FileSystem} {p : Path} {name : String}

/-- The path is text. -/
def Path.IsText (p : Path) : Prop := ∃ s, p = ofString s

theorem Path.IsText.ofString_display (h : p.IsText) : Path.ofString p.display = p := by
  obtain ⟨s, rfl⟩ := h
  exact congrArg Path.ofString (Utf8.decode_encode s)

/-- Nothing is called by an empty text. -/
theorem FileSystem.ne_empty_of_isFile {s : String} (h : fs.isFile (.ofString s) = true) :
    s ≠ "" := by
  rintro rfl
  simp [isFile, metadata, resolve, Path.ofString, Utf8.encode, bind, Except.bind] at h

theorem find?_candidates (root? : Option Path) {d : HitDocument}
    (hfile : fs.isFile (.ofString d.path) = true) :
    (d.candidates root?).find? fs.isFile = some (.ofString d.path) := by
  unfold HitDocument.candidates
  rw [if_neg (FileSystem.ne_empty_of_isFile hfile), List.singleton_append,
    List.find?_cons_of_pos hfile]

/-- The file of a document that is still in its place is the file of its hit. -/
theorem value_hitFile (root? : Option Path) {d : IndexDocument}
    (hfile : fs.isFile (.ofString d.path) = true) :
    (hitFile fs root? (MemoryStore.hitOf d)).value = some (.ofString d.path) := by
  have hfound := find?_candidates root? (d := (MemoryStore.hitOf d).document) hfile
  unfold hitFile
  rw [hfound]
  rfl

theorem value_responseFiles (root? : Option Path) (r : SearchRequest) {response : SearchResponse}
    {ds : List IndexDocument} (hhits : response.hits = ds.map MemoryStore.hitOf)
    (hfiles : ∀ d ∈ ds, fs.isFile (.ofString d.path) = true) :
    (responseFiles fs root? r response).value =
      Path.distinct (ds.map fun d => .ofString d.path) := by
  have hfound : response.hits.map (fun hit => (hitFile fs root? hit).value) =
      (ds.map fun d => Path.ofString d.path).map some := by
    rw [hhits, List.map_map, List.map_map]
    exact List.map_congr_left fun d hd => value_hitFile root? (hfiles d hd)
  simp only [responseFiles, Logged.value_bind, Logged.value_mapM, Logged.value_pure]
  rw [hfound, List.filterMap_map]
  simp

end

/-! ## Types that a file records -/

/-- The symbols extracted from the file have the type. -/
def FileSystem.RecordsType (fs : FileSystem) (parse : Parser) (p : Path) (name : String) : Prop :=
  ∃ bytes, fs.read p = .ok bytes ∧ name ∈ (extractFile parse (extensionOf p) bytes).classNames

/-- The file lies in the subsystem. -/
def FileSystem.LiesIn (fs : FileSystem) (root p : Path) (subsystem : String) : Prop :=
  ∃ relative, fs.relativePath p root = .ok relative ∧ subsystemOf relative = subsystem

namespace SearchRequest

section

variable (r : SearchRequest) (parse : Parser) (config : Config) (fs : FileSystem) (root : Path)
  (listed : List Listed)

/-- The file is listed and eligible, it has the type asked for, and it lies in all the
subsystems that the store reads. -/
structure Finds (p : Path) : Prop where
  listed : .file p ∈ listed
  eligible : config.isEligible fs root p = true
  recorded : fs.RecordsType parse p r.query
  within : ∀ c ∈ r.subsystemsRead, fs.LiesIn root p c

/-- The documents that the search finds. -/
def documentsFound (ds : List IndexDocument) : List IndexDocument :=
  ds.filter fun d => d.classNames.contains r.query && r.subsystemsRead.all (d.subsystem = ·)

end

variable {r : SearchRequest} {parse : Parser} {config : Config} {fs : FileSystem} {root p : Path}
  {listed : List Listed} {doc : IndexDocument}

/-- What a search asks of a document was read of its file. -/
theorem exists_read_of_buildDocument (hdoc : buildDocument parse fs config root p = .ok doc) :
    ∃ bytes relative, fs.read p = .ok bytes ∧ fs.relativePath p root = .ok relative ∧
      doc.path = p.display ∧
      doc.classNames = (extractFile parse (extensionOf p) bytes).classNames ∧
      doc.subsystem = subsystemOf relative := by
  obtain ⟨metadata, bytes, relative, -, hread, hrel, hdoc⟩ := exists_of_buildDocument hdoc
  refine ⟨bytes, relative, hread, hrel, ?_, ?_, ?_⟩
  · rw [← hdoc, SourceFile.path_document]
    rfl
  · rw [← hdoc, SourceFile.classNames_document]
    rfl
  · rw [← hdoc, SourceFile.subsystem_document]
    rfl

theorem found_iff_of_buildDocument (hdoc : buildDocument parse fs config root p = .ok doc) :
    (doc.classNames.contains r.query && r.subsystemsRead.all (doc.subsystem = ·)) = true ↔
      fs.RecordsType parse p r.query ∧ ∀ c ∈ r.subsystemsRead, fs.LiesIn root p c := by
  obtain ⟨bytes, relative, hread, hrel, -, hnames, hsubsystem⟩ := exists_read_of_buildDocument hdoc
  have hrecords : fs.RecordsType parse p r.query ↔ r.query ∈ doc.classNames := by
    rw [hnames]
    constructor
    · rintro ⟨bytes', hread', hmem⟩
      obtain rfl := Except.ok.inj (hread.symm.trans hread')
      exact hmem
    · intro hmem
      exact ⟨bytes, hread, hmem⟩
  have hlies : ∀ c, fs.LiesIn root p c ↔ doc.subsystem = c := by
    intro c
    rw [hsubsystem]
    constructor
    · rintro ⟨relative', hrel', heq⟩
      obtain rfl := Except.ok.inj (hrel.symm.trans hrel')
      exact heq
    · intro heq
      exact ⟨relative, hrel, heq⟩
  simp only [hrecords, hlies, Bool.and_eq_true, List.contains_iff_mem, List.all_eq_true,
    decide_eq_true_eq]

theorem mem_documentsFound
    (hids : config.HasOwnIds fs root listed) :
    doc ∈ r.documentsFound (MemoryStore.insertAll
        (listed.filterMap (Listed.document? parse fs config root)) []) ↔
      ∃ p, r.Finds parse config fs root listed p ∧
        buildDocument parse fs config root p = .ok doc := by
  rw [documentsFound, List.mem_filter, MemoryStore.mem_insertAll_nil_iff hids.eq_of_id_eq,
    mem_documents_iff]
  constructor
  · rintro ⟨⟨p, hlisted, hindexes, hdoc⟩, hfound⟩
    obtain ⟨hrecorded, hwithin⟩ := (found_iff_of_buildDocument hdoc).1 hfound
    exact ⟨p, ⟨hlisted, hindexes.isEligible, hrecorded, hwithin⟩, hdoc⟩
  · rintro ⟨p, hfinds, hdoc⟩
    exact ⟨⟨p, hfinds.listed, .of_buildDocument hfinds.eligible hdoc, hdoc⟩,
      (found_iff_of_buildDocument hdoc).2 ⟨hfinds.recorded, hfinds.within⟩⟩

theorem Finds.exists_document (h : r.Finds parse config fs root listed p) :
    ∃ doc, buildDocument parse fs config root p = .ok doc := by
  obtain ⟨bytes, hread, -⟩ := h.recorded
  obtain ⟨doc, hdoc, -⟩ := (Config.Indexes.of_read h.eligible hread).exists_document parse
  exact ⟨doc, hdoc⟩

theorem hits_eq_documentsFound (hstar : r.query ≠ "*") (s : MemoryStore) :
    (s.responseTo r.params).hits = (r.documentsFound s.documents).map MemoryStore.hitOf := by
  rw [hits_responseTo, documentsFound]
  simp only [hstar, decide_false, Bool.false_or]

theorem Finds.isFile (h : r.Finds parse config fs root listed p) : fs.isFile p = true := by
  obtain ⟨bytes, hread, -⟩ := h.recorded
  obtain ⟨mtime, hcontent⟩ := FileSystem.content?_of_read hread
  exact FileSystem.isFile_of_content? hcontent

/-- A path that is text comes back from its document. -/
theorem ofString_path_of_buildDocument (htext : p.IsText)
    (hdoc : buildDocument parse fs config root p = .ok doc) : Path.ofString doc.path = p := by
  obtain ⟨-, -, -, -, hpath, -⟩ := exists_read_of_buildDocument hdoc
  rw [hpath, htext.ofString_display]

theorem path_of_mem_documentsFound (hids : config.HasOwnIds fs root listed)
    (htext : ∀ p, .file p ∈ listed → config.isEligible fs root p = true → p.IsText)
    (hdoc : doc ∈ r.documentsFound (MemoryStore.insertAll
      (listed.filterMap (Listed.document? parse fs config root)) [])) :
    r.Finds parse config fs root listed (.ofString doc.path) ∧
      buildDocument parse fs config root (.ofString doc.path) = .ok doc := by
  obtain ⟨p, hfinds, hdoc⟩ := (mem_documentsFound hids).1 hdoc
  rw [ofString_path_of_buildDocument (htext p hfinds.listed hfinds.eligible) hdoc]
  exact ⟨hfinds, hdoc⟩

/-- The files of the answer of a store that holds the documents of the listed files:
those that the search finds, each in one spelling, in the order of the documents. -/
theorem files_of_documents (hids : config.HasOwnIds fs root listed)
    (htext : ∀ p, .file p ∈ listed → config.isEligible fs root p = true → p.IsText)
    (hstar : r.query ≠ "*") (root? : Option Path) {s : MemoryStore}
    (hdocuments : s.documents = MemoryStore.insertAll
      (listed.filterMap (Listed.document? parse fs config root)) []) :
    let files := (responseFiles fs root? r (s.responseTo r.params)).value
    (∀ p ∈ files, r.Finds parse config fs root listed p) ∧
    (∀ p, r.Finds parse config fs root listed p → ∃ q ∈ files, p.same q = true) ∧
    Path.Separate files ∧
    ∃ docs, MemoryStore.Sorted docs ∧
      List.Forall₂ (fun p doc => buildDocument parse fs config root p = .ok doc) files docs := by
  intro files
  let found := r.documentsFound s.documents
  have hfound : ∀ d ∈ found, r.Finds parse config fs root listed (.ofString d.path) ∧
      buildDocument parse fs config root (.ofString d.path) = .ok d := by
    intro d hd
    refine path_of_mem_documentsFound hids htext ?_
    rwa [← hdocuments]
  have hfiles : files = Path.distinct (found.map fun d => .ofString d.path) :=
    value_responseFiles root? r (hits_eq_documentsFound hstar s) fun d hd => (hfound d hd).1.isFile
  rw [hfiles]
  refine ⟨fun p hp => ?_, fun p hp => ?_, Path.separate_extend .nil, ?_⟩
  · obtain ⟨d, hd, rfl⟩ := List.mem_map.1 ((Path.distinct_sublist _).subset hp)
    exact (hfound d hd).1
  · obtain ⟨doc, hdoc⟩ := hp.exists_document
    have hmem : doc ∈ found := by
      dsimp only [found]
      rw [hdocuments]
      exact (mem_documentsFound hids).2 ⟨p, hp, hdoc⟩
    have hpath := ofString_path_of_buildDocument (htext p hp.listed hp.eligible) hdoc
    exact Path.exists_same_mem_extend (List.mem_map.2 ⟨doc, hmem, hpath⟩)
  · obtain ⟨docs, hsub, hdocs⟩ := List.sublist_map_iff.1 (Path.distinct_sublist
      (found.map fun d => Path.ofString d.path))
    have hsorted : MemoryStore.Sorted s.documents := by
      rw [hdocuments]
      exact MemoryStore.sorted_insertAll _ .nil
    refine ⟨docs, hsorted.sublist (hsub.trans List.filter_sublist), ?_⟩
    rw [hdocs, List.forall₂_map_left_iff, List.forall₂_same]
    exact fun d hd => (hfound d (hsub.subset hd)).2

end SearchRequest

/-! ## Queries on files -/

section

variable {parse : Parser} {fs : FileSystem} {mode : QueryMode} {p q : Path} {bytes : Bytes}
  {tree n : Node} {name : String} {h : FileHits}

theorem ofExtension?_of_isCSharp (hp : isCSharp p = true) :
    Language.ofExtension? (extensionOf p) = some .csharp := by
  unfold isCSharp at hp
  unfold extensionOf
  cases hextension : p.extension? with
  | none =>
      rw [hextension] at hp
      cases hp
  | some extension =>
      rw [hextension] at hp
      have hcs : Text.lowerAscii (Utf8.decode extension) = "cs" := of_decide_eq_true hp
      dsimp only
      rw [hcs]
      decide

/-- What declares a type has it recorded. -/
theorem FileSystem.recordsType_of_declaration (hp : isCSharp p = true)
    (hread : fs.read p = .ok bytes) (htree : parse bytes = some tree) (hname : name ≠ "")
    (hdeclared : (n, name) ∈ (Source.ofBytes bytes).declarations typeKinds tree) :
    fs.RecordsType parse p name := by
  refine ⟨bytes, hread, ?_⟩
  unfold extractFile
  rw [ofExtension?_of_isCSharp hp, htree]
  dsimp only
  rw [Source.classNames_extract, Text.mem_distinct]
  exact ⟨List.mem_map.2 ⟨(n, name), hdeclared, rfl⟩, hname⟩

theorem queryFile_of_read (hread : fs.read p = .ok bytes) :
    queryFile parse fs mode p = .ok {
      path := p
      hits := ((parse bytes).map ((Source.ofBytes bytes).query · mode)).getD []
      lines := (Source.ofBytes bytes).lines } := by
  unfold queryFile
  rw [hread]
  rfl

theorem exists_read_of_queryFile (hq : queryFile parse fs mode p = .ok h) :
    ∃ bytes, fs.read p = .ok bytes := by
  unfold queryFile at hq
  cases hread : fs.read p with
  | error e =>
      rw [hread] at hq
      cases hq
  | ok bytes => exact ⟨bytes, rfl⟩

theorem mem_queryFiles {paths : List Path} :
    h ∈ (queryFiles parse fs mode paths).value ↔
      ∃ p ∈ paths, queryFile parse fs mode p = .ok h := by
  simp only [queryFiles, Logged.value_bind, Logged.value_mapM, Logged.value_pure,
    List.mem_filterMap, List.mem_map]
  constructor
  · rintro ⟨found, ⟨p, hp, rfl⟩, hfound⟩
    refine ⟨p, hp, ?_⟩
    split at hfound
    · rename_i hits heq
      rw [heq, Option.some.inj hfound]
    · cases hfound
  · rintro ⟨p, hp, heq⟩
    exact ⟨some h, ⟨p, hp, by rw [heq]; rfl⟩, rfl⟩

/-- Two spellings of a path that can both be read have one content. -/
theorem FileSystem.read_eq_of_same {bytes' : Bytes} (hsame : p.same q = true)
    (hp : fs.read p = .ok bytes) (hq : fs.read q = .ok bytes') : bytes = bytes' := by
  obtain ⟨mtime, hp⟩ := content?_of_read hp
  obtain ⟨mtime', hq⟩ := content?_of_read hq
  obtain ⟨key, hkey, hentry⟩ := entry_of_content? hp
  obtain ⟨key', hkey', hentry'⟩ := entry_of_content? hq
  rw [resolve_eq_of_same hsame hkey hkey', hentry'] at hentry
  exact (Entry.file.inj (Option.some.inj hentry)).1.symm

theorem path_of_queryFile (hq : queryFile parse fs mode p = .ok h) : h.path = p := by
  obtain ⟨bytes, hread⟩ := exists_read_of_queryFile hq
  rw [queryFile_of_read hread] at hq
  rw [← Except.ok.inj hq]

/-- In another spelling of its path a query finds the same in a file. -/
theorem queryFile_of_same (hsame : p.same q = true) (hq : fs.read q = .ok bytes)
    (hp : queryFile parse fs mode p = .ok h) :
    queryFile parse fs mode q = .ok { h with path := q } := by
  obtain ⟨bytes', hread⟩ := exists_read_of_queryFile hp
  obtain rfl := FileSystem.read_eq_of_same hsame hread hq
  rw [queryFile_of_read hread] at hp
  rw [queryFile_of_read hq, ← Except.ok.inj hp]

/-- The hit shows a declaration of the type in the file. -/
def FileSystem.ShowsType (fs : FileSystem) (parse : Parser) (p : Path) (name : String)
    (hit : Hit) : Prop :=
  ∃ bytes tree n, fs.read p = .ok bytes ∧ parse bytes = some tree ∧
    (n, name) ∈ (Source.ofBytes bytes).declarations typeKinds tree ∧
    hit = ⟨(Source.ofBytes bytes).line n, (Source.ofBytes bytes).typeText n name⟩

/-- What is shown of a declaration is a hit of the query for classes. -/
theorem FileSystem.ShowsType.mem_hits {hit : Hit} (hshows : fs.ShowsType parse p name hit)
    (hp : queryFile parse fs .classes p = .ok h) : hit ∈ h.hits := by
  obtain ⟨bytes, tree, n, hread, htree, hdeclared, rfl⟩ := hshows
  rw [queryFile_of_read hread, htree] at hp
  rw [← Except.ok.inj hp, Option.map_some, Option.getD_some, Source.query, Source.classes_eq]
  exact List.mem_map.2 ⟨(n, name), hdeclared, rfl⟩

end

/-! ## One class -/

/-- The tree of `class A { }`. -/
def Syntax.Node.emptyClass : Node :=
  .mk "class_declaration" true none 0 11
    [.mk "class" false none 0 5 [], .mk "identifier" true (some "name") 6 7 [],
      .mk "declaration_list" true (some "body") 8 11
        [.mk "\x7b" false none 8 9 [], .mk "\x7d" false none 10 11 []]]

/-- The file `/r/a/A.cs` with one class. -/
def FileSystem.oneClass : FileSystem :=
  ⟨[([[114]], .directory), ([[114], [97]], .directory),
    ([[114], [97], Utf8.encode "A.cs"], .file (Utf8.encode "class A \x7b \x7d") 5)], []⟩

namespace FileSystem.oneClass

/-- The class is read from any text. -/
def parse : Parser := fun _ => some .emptyClass

def top : RealPath := [[114]]

def root : Path := top.toPath

def key : RealPath := [[114], [97], Utf8.encode "A.cs"]

def file : Path := key.toPath

/-- What can be computed of the file and its tree. -/
theorem computed :
    (oneClass.IsTree top ∧ key.IsProper ∧ isCSharp file = true) ∧
      oneClass.read file = .ok (Utf8.encode "class A \x7b \x7d") ∧
      ({} : Config).isEligible oneClass root file = true ∧
      oneClass.relativePath file root = .ok "a/A.cs" ∧ file = .ofString "/r/a/A.cs" := by
  decide +kernel

theorem isTree : oneClass.IsTree top := computed.1.1

theorem isProper_key : key.IsProper := computed.1.2.1

theorem isCSharp_file : isCSharp file = true := computed.1.2.2

theorem read_file : oneClass.read file = .ok (Utf8.encode "class A \x7b \x7d") := computed.2.1

theorem isEligible_file : ({} : Config).isEligible oneClass root file = true := computed.2.2.1

theorem relativePath_file : oneClass.relativePath file root = .ok "a/A.cs" := computed.2.2.2.1

theorem mem_declarations :
    (Syntax.Node.emptyClass, "A") ∈ (Source.ofBytes (Utf8.encode "class A \x7b \x7d")).declarations
      typeKinds Syntax.Node.emptyClass := by
  rw [Source.declarations_eq, if_pos (by decide)]
  refine List.mem_append_left _ (List.mem_map.2 ⟨"A", ?_, rfl⟩)
  decide +kernel

theorem recordsType_file : oneClass.RecordsType parse file "A" :=
  recordsType_of_declaration isCSharp_file read_file rfl (by decide) mem_declarations

theorem showsType_file : oneClass.ShowsType parse file "A" ⟨1, "[class] A"⟩ :=
  ⟨_, .emptyClass, .emptyClass, read_file, rfl, mem_declarations, by rfl⟩

theorem exists_queryFiles :
    ∃ h ∈ (queryFiles parse oneClass .classes [file]).value,
      h.path = file ∧ (⟨1, "[class] A"⟩ : Hit) ∈ h.hits := by
  have hquery : queryFile parse oneClass .classes file = .ok _ := queryFile_of_read read_file
  exact ⟨_, mem_queryFiles.2 ⟨file, List.mem_singleton_self _, hquery⟩, rfl,
    showsType_file.mem_hits hquery⟩

theorem eq_file {p : Path} (h : .file p ∈ [file].map Listed.file) : p = file :=
  Listed.file.inj (List.mem_singleton.1 h)

theorem hasOwnIds : ({} : Config).HasOwnIds oneClass root ([file].map .file) := by
  refine isTree.isLinkFree.hasOwnIds {} (fun p hp => ?_) fun other other' h h' hp hp' _ => ?_
  · exact ⟨key, isProper_key, by decide, (eq_file hp).symm⟩
  · exact (RealPath.toPath_inj h h').1 ((eq_file hp).trans (eq_file hp').symm)

theorem isText {p : Path} (h : .file p ∈ [file].map Listed.file) : p.IsText :=
  ⟨"/r/a/A.cs", (eq_file h).trans computed.2.2.2.2⟩

end FileSystem.oneClass

/-! ## Search after a bulk run -/

open FileSystem (oneClass)

/-- After a bulk run with room for a batch into an emptied store, a search for a type
picks those of the listed eligible files that have it recorded, each in one spelling and
in the order of the ids of their documents. Among them are all the C# files in which the
query for classes shows a type of that name, and there it finds what it would find without
the search. The one thing that may leave a file out is a subsystem that the store reads in
the request, which takes a separator in the extension. -/
theorem SearchRequest.files_after_bulkIndex {memory : Nat} (parse : Parser) {lister : Lister}
    {config : Config} (hroom : config.HasRoom memory) {fs : FileSystem} {root : Path}
    {listed : List Listed} (hlisted : lister fs root = .ok listed)
    (hids : config.HasOwnIds fs root listed)
    (htext : ∀ p, .file p ∈ listed → config.isEligible fs root p = true → p.IsText)
    {s : MemoryStore} (hworks : s.failImports = false) {r : SearchRequest}
    (hname : r.query ≠ "") (hstar : r.query ≠ "*") (hsub : r.wantedSubsystem? = none)
    (root? : Option Path) :
    ∃ report after response,
      (bulkIndex memory MemoryStore.operations parse lister config fs root true s).value =
        (.ok report, after) ∧
      (MemoryStore.operations.search r.params after).value = (.ok response, after) ∧
      let files := (responseFiles fs root? r response).value
      (∀ p ∈ files, r.Finds parse config fs root listed p) ∧
      (∀ p, r.Finds parse config fs root listed p → ∃ q ∈ files, p.same q = true) ∧
      Path.Separate files ∧
      (∃ docs, MemoryStore.Sorted docs ∧
        List.Forall₂ (fun p doc => buildDocument parse fs config root p = .ok doc) files docs) ∧
      ((∀ e ∈ r.extension, ¬ MemoryStore.separator <:+: e.toList) → r.subsystemsRead = []) ∧
      (r.subsystemsRead = [] → ∀ paths : List Path,
        (∀ p ∈ paths, .file p ∈ listed ∧ config.isEligible fs root p = true ∧
          isCSharp p = true) →
        ∀ h ∈ (queryFiles parse fs .classes paths).value, ∀ hit ∈ h.hits,
          fs.ShowsType parse h.path r.query hit →
          ∃ h' ∈ (queryFiles parse fs .classes files).value,
            h.path.same h'.path = true ∧ h'.hits = h.hits ∧ h'.lines = h.lines) := by
  obtain ⟨report, after, hrun, -, hdocuments⟩ :=
    exists_value_bulkIndex parse hroom hlisted true hworks
  refine ⟨report, after, after.responseTo r.params, hrun, rfl, ?_⟩
  intro files
  obtain ⟨hsound, hcomplete, hseparate, hsorted⟩ :=
    files_of_documents hids htext hstar root? hdocuments
  refine ⟨hsound, hcomplete, hseparate, hsorted, r.subsystemsRead_eq_nil hsub, ?_⟩
  intro hread paths hpaths h hh hit _ hshows
  obtain ⟨p, hp, hquery⟩ := mem_queryFiles.1 hh
  obtain ⟨bytes, tree, n, hbytes, htree, hdeclared, -⟩ := hshows
  have hpath := path_of_queryFile hquery
  rw [hpath] at hbytes
  obtain ⟨hlistedp, heligible, hcsharp⟩ := hpaths p hp
  have hrecorded := FileSystem.recordsType_of_declaration hcsharp hbytes htree hname hdeclared
  have hfinds : r.Finds parse config fs root listed p :=
    ⟨hlistedp, heligible, hrecorded, by simp [hread]⟩
  obtain ⟨q, hq, hsame⟩ := hcomplete p hfinds
  obtain ⟨bytesq, hreadq, -⟩ := (hsound q hq).recorded
  exact ⟨_, mem_queryFiles.2 ⟨q, hq, queryFile_of_same hsame hreadq hquery⟩,
    hpath ▸ hsame, rfl, rfl⟩

/-- An extension that goes on like a second condition: the store reads a subsystem where
none is asked for, and the file is not found. -/
theorem SearchRequest.misses_type_joinedExtension :
    let r : SearchRequest := { query := "A", extension := some "cs && subsystem:=b" }
    r.wantedSubsystem? = none ∧
      ({} : Config).isEligible oneClass oneClass.root oneClass.file = true ∧
      oneClass.RecordsType oneClass.parse oneClass.file "A" ∧
      ∃ report after response,
        (bulkIndex 30000 MemoryStore.operations oneClass.parse (.fixed [oneClass.file]) {} oneClass
          oneClass.root true {}).value = (.ok report, after) ∧
        (MemoryStore.operations.search r.params after).value = (.ok response, after) ∧
        (responseFiles oneClass none r response).value = [] := by
  intro r
  have hroom : ({} : Config).HasRoom 30000 := by decide
  obtain ⟨report, after, hrun, -, hdocuments⟩ := exists_value_bulkIndex oneClass.parse hroom
    (rfl : Lister.fixed [oneClass.file] oneClass oneClass.root = .ok _) true (s := {}) rfl
  refine ⟨rfl, oneClass.isEligible_file, oneClass.recordsType_file, report, after,
    after.responseTo r.params, hrun, rfl, ?_⟩
  obtain ⟨hsound, -⟩ := files_of_documents (r := r) oneClass.hasOwnIds
    (fun _ hp _ => oneClass.isText hp) (by decide) none hdocuments
  rw [List.eq_nil_iff_forall_not_mem]
  intro p hp
  have hfinds := hsound p hp
  obtain rfl := oneClass.eq_file hfinds.listed
  have hread : r.subsystemsRead = ["b"] := by decide
  have hb : "b" ∈ r.subsystemsRead := by
    rw [hread]
    exact List.mem_singleton_self _
  obtain ⟨relative, hrelative, hb⟩ := hfinds.within "b" hb
  obtain rfl := Except.ok.inj (oneClass.relativePath_file.symm.trans hrelative)
  exact absurd hb (by decide)

/-- The search picks the file of the class, and the query for classes shows the class. -/
theorem SearchRequest.files_after_bulkIndex_oneClass :
    let r : SearchRequest := { query := "A", extension := some "cs" }
    ∃ report after response,
      (bulkIndex 30000 MemoryStore.operations oneClass.parse (.fixed [oneClass.file]) {} oneClass
        oneClass.root true {}).value = (.ok report, after) ∧
      (MemoryStore.operations.search r.params after).value = (.ok response, after) ∧
      let files := (responseFiles oneClass none r response).value
      files = [oneClass.file] ∧
      ∃ h ∈ (queryFiles oneClass.parse oneClass .classes files).value,
        (⟨1, "[class] A"⟩ : Hit) ∈ h.hits := by
  intro r
  have hroom : ({} : Config).HasRoom 30000 := by decide
  obtain ⟨report, after, response, hrun, hsearch, hsound, hcomplete, hseparate, -, hnone, hquery⟩ :=
    files_after_bulkIndex oneClass.parse hroom
      (rfl : Lister.fixed [oneClass.file] oneClass oneClass.root = .ok _) oneClass.hasOwnIds
      (fun _ hp _ => oneClass.isText hp) (s := {}) rfl (r := r) (by decide) (by decide) rfl none
  refine ⟨report, after, response, hrun, hsearch, ?_⟩
  intro files
  have hread : r.subsystemsRead = [] := by
    refine hnone fun e he => ?_
    rw [← Option.some.inj he]
    decide
  have hfinds : r.Finds oneClass.parse {} oneClass oneClass.root ([oneClass.file].map .file)
      oneClass.file :=
    ⟨List.mem_cons_self, oneClass.isEligible_file, oneClass.recordsType_file, by simp [hread]⟩
  have honly : ∀ p ∈ files, p = oneClass.file := fun p hp => oneClass.eq_file (hsound p hp).listed
  have hfiles : files = [oneClass.file] := by
    refine List.perm_singleton.1 ((List.perm_ext_iff_of_nodup hseparate.nodup
      (List.nodup_singleton _)).2 fun p => ?_)
    rw [List.mem_singleton]
    constructor
    · exact honly p
    · rintro rfl
      obtain ⟨q, hq, -⟩ := hcomplete _ hfinds
      rwa [honly q hq] at hq
  refine ⟨hfiles, ?_⟩
  obtain ⟨h, hh, hpath, hhit⟩ := oneClass.exists_queryFiles
  have hpaths : ∀ p ∈ [oneClass.file], Listed.file p ∈ [oneClass.file].map Listed.file ∧
      ({} : Config).isEligible oneClass oneClass.root p = true ∧ isCSharp p = true := by
    intro p hp
    rw [List.mem_singleton.1 hp]
    exact ⟨List.mem_cons_self, oneClass.isEligible_file, oneClass.isCSharp_file⟩
  obtain ⟨h', hh', -, hhits, -⟩ :=
    hquery hread [oneClass.file] hpaths h hh _ hhit (hpath ▸ oneClass.showsType_file)
  exact ⟨h', hh', hhits ▸ hhit⟩

end SymbolIndex
