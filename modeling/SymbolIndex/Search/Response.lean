-- SUMMARY: Answers to a search: their JSON form and their rendering for people.
import SymbolIndex.Config.Format
import SymbolIndex.Search.Request

/-! # Search responses -/

namespace SymbolIndex

open Json (RecordField Reader)

/-! ## Data -/

/-- A stored document as far as a hit shows it. -/
structure HitDocument where
  id : String := ""
  path : String := ""
  relativePath : String := ""
  filename : String := ""
  extension : String := ""
  subsystem : String := ""
  namespaceName : String := ""
  classNames : List String := []
  methodNames : List String := []
  baseTypes : List String := []
  methodSigs : List String := []
  attributes : List String := []
  usings : List String := []
  deriving DecidableEq, Repr

/-- A part of a field around a match. -/
structure Highlight where
  field : String := ""
  snippet : String := ""
  deriving DecidableEq, Repr

structure SearchHit where
  document : HitDocument := {}
  highlights : List Highlight := []
  deriving DecidableEq, Repr

structure FacetValue where
  value : String := ""
  count : UInt64 := 0
  deriving DecidableEq, Repr

/-- How many matches have each value of a field. -/
structure FacetCount where
  fieldName : String := ""
  counts : List FacetValue := []
  deriving DecidableEq, Repr

structure SearchResponse where
  found : UInt64 := 0
  hits : List SearchHit := []
  facetCounts : List FacetCount := []
  deriving DecidableEq, Repr

/-! ## Reading -/

def HitDocument.fields : List (RecordField HitDocument) :=
  [.set "id" Json.string ({ · with id := · }),
    .set "path" Json.string ({ · with path := · }),
    .set "relative_path" Json.string ({ · with relativePath := · }),
    .set "filename" Json.string ({ · with filename := · }),
    .set "extension" Json.string ({ · with extension := · }),
    .set "subsystem" Json.string ({ · with subsystem := · }),
    .set "namespace" Json.string ({ · with namespaceName := · }),
    .set "class_names" Json.strings ({ · with classNames := · }),
    .set "method_names" Json.strings ({ · with methodNames := · }),
    .set "base_types" Json.strings ({ · with baseTypes := · }),
    .set "method_sigs" Json.strings ({ · with methodSigs := · }),
    .set "attributes" Json.strings ({ · with attributes := · }),
    .set "usings" Json.strings ({ · with usings := · })]

def HitDocument.read : Reader HitDocument := Json.record "struct HitDocument" fields {}

def Highlight.fields : List (RecordField Highlight) :=
  [.set "field" Json.string ({ · with field := · }),
    .set "snippet" Json.string ({ · with snippet := · })]

def Highlight.read : Reader Highlight := Json.record "struct Highlight" fields {}

def SearchHit.fields : List (RecordField SearchHit) :=
  [.set "document" HitDocument.read ({ · with document := · }),
    .set "highlights" (Json.sequence Highlight.read) ({ · with highlights := · })]

def SearchHit.read : Reader SearchHit := Json.record "struct SearchHit" fields {}

def FacetValue.fields : List (RecordField FacetValue) :=
  [.set "value" Json.string ({ · with value := · }),
    .set "count" (Json.word64 "u64") ({ · with count := · })]

def FacetValue.read : Reader FacetValue := Json.record "struct FacetValue" fields {}

def FacetCount.fields : List (RecordField FacetCount) :=
  [.set "field_name" Json.string ({ · with fieldName := · }),
    .set "counts" (Json.sequence FacetValue.read) ({ · with counts := · })]

def FacetCount.read : Reader FacetCount := Json.record "struct FacetCount" fields {}

def SearchResponse.fields : List (RecordField SearchResponse) :=
  [.set "found" (Json.word64 "u64") ({ · with found := · }),
    .set "hits" (Json.sequence SearchHit.read) ({ · with hits := · }),
    .set "facet_counts" (Json.sequence FacetCount.read) ({ · with facetCounts := · })]

def SearchResponse.read : Reader SearchResponse := Json.record "struct SearchResponse" fields {}

def SearchResponse.parse (input : Bytes) : Except Json.Failure SearchResponse :=
  Json.decode read input

/-! ## Writing -/

def HitDocument.toJson (d : HitDocument) : Json :=
  .object [
    ("id", .text d.id),
    ("path", .text d.path),
    ("relative_path", .text d.relativePath),
    ("filename", .text d.filename),
    ("extension", .text d.extension),
    ("subsystem", .text d.subsystem),
    ("namespace", .text d.namespaceName),
    ("class_names", .ofTexts d.classNames),
    ("method_names", .ofTexts d.methodNames),
    ("base_types", .ofTexts d.baseTypes),
    ("method_sigs", .ofTexts d.methodSigs),
    ("attributes", .ofTexts d.attributes),
    ("usings", .ofTexts d.usings)]

def Highlight.toJson (h : Highlight) : Json :=
  .object [("field", .text h.field), ("snippet", .text h.snippet)]

def SearchHit.toJson (h : SearchHit) : Json :=
  .object [
    ("document", h.document.toJson),
    ("highlights", .list (h.highlights.map Highlight.toJson))]

def FacetValue.toJson (v : FacetValue) : Json :=
  .object [("value", .text v.value), ("count", .ofNat v.count.toNat)]

def FacetCount.toJson (c : FacetCount) : Json :=
  .object [("field_name", .text c.fieldName), ("counts", .list (c.counts.map FacetValue.toJson))]

def SearchResponse.toJson (r : SearchResponse) : Json :=
  .object [
    ("found", .ofNat r.found.toNat),
    ("hits", .list (r.hits.map SearchHit.toJson)),
    ("facet_counts", .list (r.facetCounts.map FacetCount.toJson))]

/-! ## Rendering -/

/-- Fields whose highlights are worth a line. -/
def snippetFields : List String :=
  ["content", "method_sigs", "base_types", "call_sites", "type_refs", "attributes"]

/-- A labelled line with at most `limit` of the items; no line without items. -/
def itemsLine (label separator : String) (limit : Nat) (items : List String) : List String :=
  if items.isEmpty then [] else ["   " ++ label ++ separator.intercalate (items.take limit)]

namespace SearchHit

/-- The text of the first highlight worth a line, on one line. -/
def snippet (h : SearchHit) : String :=
  match h.highlights.find? (snippetFields.contains ·.field) with
  | some highlight =>
      Text.trim (.ofList (highlight.snippet.toList.map fun c => if c = '\n' then ' ' else c))
  | none => ""

/-- The lines of the hit with the given number. -/
def lines (number : Nat) (h : SearchHit) : List String :=
  let d := h.document
  [toString number ++ ". " ++ d.relativePath] ++
    itemsLine "Classes    : " ", " 5 d.classNames ++
    itemsLine "Implements : " ", " 5 d.baseTypes ++
    (if d.methodSigs.isEmpty then itemsLine "Members    : " ", " 6 d.methodNames
      else itemsLine "Signatures : " "; " 3 d.methodSigs) ++
    itemsLine "Attributes : " ", " 5 d.attributes ++
    itemsLine "Usings     : " ", " 4 d.usings ++
    (if d.namespaceName = "" then [] else ["   NS         : " ++ d.namespaceName]) ++
    (if h.snippet = "" then [] else ["   Match      : ..." ++ h.snippet ++ "..."]) ++
    [""]

end SearchHit

/-- A facet with its most frequent values. -/
def FacetCount.line (c : FacetCount) : String :=
  "  [" ++ c.fieldName ++ "] " ++
    ", ".intercalate ((c.counts.take 15).map fun v =>
      v.value ++ "(" ++ toString v.count.toNat ++ ")")

namespace SearchResponse

/-- Facets are shown on request, and if there are matches but none was sent. -/
def facetLines (r : SearchResponse) (showFacets : Bool) : List String :=
  if showFacets || (0 < r.found && r.hits.isEmpty) then
    (r.facetCounts.filter (!·.counts.isEmpty)).map FacetCount.line ++ [""]
  else []

def hitLines (r : SearchResponse) : List String :=
  if r.hits.isEmpty then ["No results found."]
  else r.hits.zipIdx.flatMap fun (hit, i) => hit.lines (i + 1)

/-- The rendering of a response, every line with its `\n`. -/
def render (r : SearchResponse) (request : SearchRequest) (showFacets : Bool) : String :=
  let header := "=== Search: \"" ++ request.query ++ "\" (" ++ toString r.found.toNat ++
    " results) [fields: " ++ request.mode.queryBy ++ "] ==="
  String.join (([header, ""] ++ r.facetLines showFacets ++ r.hitLines).map (· ++ "\n"))

end SearchResponse

end SymbolIndex
