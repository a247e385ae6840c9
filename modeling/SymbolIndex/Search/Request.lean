-- SUMMARY: Full-text searches: modes, filters and the parameters sent to the store.
import SymbolIndex.Text.Names

/-! # Search requests

A request names the words to look for, the fields to look in, and filters. The
store takes it as a list of parameters in a fixed order. -/

namespace SymbolIndex

/-! ## Modes -/

/-- What a search looks at. -/
inductive SearchMode where
  /-- File names, symbols and content. -/
  | text
  /-- Names of types and members. -/
  | symbols
  /-- Types that inherit from or implement the query. -/
  | implements
  /-- Files that call a method. -/
  | callers
  /-- Method signatures. -/
  | sig
  /-- Files that refer to a type in a declaration. -/
  | uses
  /-- Files with an attribute. -/
  | attr
  deriving DecidableEq, Repr

namespace SearchMode

/-- The document fields that the query is matched against, best first. -/
def fields : SearchMode → List String
  | text => ["filename", "symbols", "class_names", "method_names", "content"]
  | symbols => ["symbols", "class_names", "method_names", "filename"]
  | implements => ["base_types", "class_names", "filename"]
  | callers => ["call_sites", "filename"]
  | sig => ["method_sigs", "method_names", "filename"]
  | uses => ["type_refs", "symbols", "class_names", "filename"]
  | attr => ["attributes", "filename"]

def queryBy (m : SearchMode) : String := ",".intercalate m.fields

end SearchMode

/-! ## Requests -/

structure SearchRequest where
  query : String
  mode : SearchMode := .text
  /-- With or without leading dots. -/
  extension : Option String := none
  subsystem : Option String := none
  limit : UInt64 := 10
  deriving DecidableEq, Repr

/-- Fields whose matches the store returns in full. -/
def fullHighlightFields : List String :=
  ["symbols", "class_names", "method_names", "filename", "base_types", "method_sigs"]

namespace SearchRequest

/-- The extension asked for; the empty one asks for nothing. -/
def wantedExtension? (r : SearchRequest) : Option String := r.extension.filter (· ≠ "")

def wantedSubsystem? (r : SearchRequest) : Option String := r.subsystem.filter (· ≠ "")

/-- The conditions that a document has to meet. -/
def filters (r : SearchRequest) : List String :=
  (r.wantedExtension?.map fun e => "extension:=" ++ .ofList (e.toList.dropWhile (· = '.'))).toList ++
    (r.wantedSubsystem?.map ("subsystem:=" ++ ·)).toList

def filterBy? (r : SearchRequest) : Option String :=
  match r.filters with
  | [] => none
  | filters => some (" && ".intercalate filters)

/-- The parameters of the request, in the order sent. A search over all
extensions ranks by priority after the match. -/
def params (r : SearchRequest) : List (String × String) :=
  [("q", r.query),
    ("query_by", r.mode.queryBy),
    ("per_page", toString r.limit.toNat),
    ("highlight_full_fields", ",".intercalate fullHighlightFields),
    ("snippet_threshold", "30"),
    ("num_typos", "1"),
    ("prefix", "false"),
    ("facet_by", "subsystem,extension")] ++
  (r.filterBy?.map ("filter_by", ·)).toList ++
  (if r.wantedExtension?.isNone then [("sort_by", "_text_match:desc,priority:desc")] else [])

/-- The search that picks files for a structural query: C# files unless another
extension is given. -/
def forQuery (query : String) (subsystem extension : Option String) (limit : UInt64) :
    SearchRequest :=
  { query, subsystem, extension := some (extension.getD "cs"), limit }

end SearchRequest

end SymbolIndex
