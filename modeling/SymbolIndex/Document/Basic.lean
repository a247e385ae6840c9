-- SUMMARY: Index documents: what the store holds for one file.
import SymbolIndex.Config
import SymbolIndex.Digest.Md5
import SymbolIndex.Json.Value
import SymbolIndex.Symbols.Record

/-! # Index documents

A file and its symbols make one document. Its id is the digest of the relative
path, so that the document of a file that is gone can still be addressed. -/

namespace SymbolIndex

/-! ## Attributes of a path -/

/-- The id of the document for a relative path. -/
def fileId (relativePath : String) : String := Md5.hex (Utf8.encode relativePath)

/-- The extension in lower case, empty if there is none. -/
def extensionOf (path : Path) : String :=
  match path.extension? with
  | some extension => Text.lowerAscii (Utf8.decode extension)
  | none => ""

/-- The first part of a relative path that is not empty. -/
def subsystemOf (relativePath : String) : String :=
  ((Text.split '/' relativePath).find? (· ≠ "")).getD ""

/-- Rank of an extension in search results. -/
def priorityOf (extension : String) : Nat :=
  if extension = "cs" then 3
  else if ["h", "hpp", "cpp", "c", "idl"].contains extension then 2
  else if ["py", "ts", "js", "ps1", "sh", "cmd", "bat"].contains extension then 1
  else 0

/-! ## Documents -/

/-- A file as read from the file system. -/
structure SourceFile where
  path : Path
  /-- Relative to the source root. -/
  relativePath : String
  extension : String
  subsystem : String
  /-- Unix seconds. -/
  mtime : Int
  bytes : Bytes
  deriving DecidableEq, Repr

def SourceFile.filename (f : SourceFile) : String := Utf8.decode (f.path.fileName?.getD [])

structure IndexDocument where
  id : String := ""
  path : String := ""
  relativePath : String := ""
  filename : String := ""
  extension : String := ""
  subsystem : String := ""
  namespaceName : String := ""
  classNames : List String := []
  methodNames : List String := []
  /-- Names of types and members. The store requires one, so a file without
  any has the empty name. -/
  symbols : List String := []
  content : String := ""
  mtime : Int := 0
  priority : Int := 0
  baseTypes : List String := []
  callSites : List String := []
  methodSigs : List String := []
  typeRefs : List String := []
  attributes : List String := []
  usings : List String := []
  deriving DecidableEq, Repr

/-- The names that a record declares, or the empty name. -/
def SymbolRecord.documentSymbols (r : SymbolRecord) : List String :=
  match r.declaredNames with
  | [] => [""]
  | names => names

/-- The document of a file with the given symbols. -/
def SourceFile.project (f : SourceFile) (r : SymbolRecord) (config : Config) : IndexDocument where
  id := fileId f.relativePath
  path := f.path.display
  relativePath := f.relativePath
  filename := f.filename
  extension := f.extension
  subsystem := f.subsystem
  namespaceName := r.namespaceName
  classNames := r.classNames
  methodNames := r.methodNames
  symbols := r.documentSymbols
  content := .ofList ((Utf8.decodeChars f.bytes).take config.maxContentChars.toNat)
  mtime := f.mtime
  priority := priorityOf f.extension
  baseTypes := r.baseTypes
  callSites := r.callSites
  methodSigs := r.methodSigs
  typeRefs := r.typeRefs
  attributes := r.attributes
  usings := r.usings

/-! ## JSON form -/

/-- The document as the store takes it. -/
def IndexDocument.toJson (d : IndexDocument) : Json :=
  .object [
    ("id", .text d.id),
    ("path", .text d.path),
    ("relative_path", .text d.relativePath),
    ("filename", .text d.filename),
    ("extension", .text d.extension),
    ("subsystem", .text d.subsystem),
    ("namespace", .text d.namespaceName),
    ("class_names", .ofTexts d.classNames),
    ("method_names", .ofTexts d.methodNames),
    ("symbols", .ofTexts d.symbols),
    ("content", .text d.content),
    ("mtime", .ofInt d.mtime),
    ("priority", .ofInt d.priority),
    ("base_types", .ofTexts d.baseTypes),
    ("call_sites", .ofTexts d.callSites),
    ("method_sigs", .ofTexts d.methodSigs),
    ("type_refs", .ofTexts d.typeRefs),
    ("attributes", .ofTexts d.attributes),
    ("usings", .ofTexts d.usings)]

/-- The document that a JSON value holds; every field has to be there. -/
def IndexDocument.ofJson? (v : Json) : Option IndexDocument := do
  let text (name : String) : Option String := (v.field? name).bind Json.text?
  let texts (name : String) : Option (List String) := (v.field? name).bind Json.texts?
  let int (name : String) : Option Int := (v.field? name).bind Json.int?
  some {
    id := ← text "id"
    path := ← text "path"
    relativePath := ← text "relative_path"
    filename := ← text "filename"
    extension := ← text "extension"
    subsystem := ← text "subsystem"
    namespaceName := ← text "namespace"
    classNames := ← texts "class_names"
    methodNames := ← texts "method_names"
    symbols := ← texts "symbols"
    content := ← text "content"
    mtime := ← int "mtime"
    priority := ← int "priority"
    baseTypes := ← texts "base_types"
    callSites := ← texts "call_sites"
    methodSigs := ← texts "method_sigs"
    typeRefs := ← texts "type_refs"
    attributes := ← texts "attributes"
    usings := ← texts "usings" }

/-- Nothing of a document is lost in its JSON form. -/
@[simp] theorem IndexDocument.ofJson?_toJson (d : IndexDocument) : ofJson? d.toJson = some d := by
  simp [ofJson?, toJson, Json.field?, Json.text?, Json.int?, Json.ofInt]

end SymbolIndex
