-- SUMMARY: The schema of the collection that holds the index documents.
import SymbolIndex.Json.Value

/-! # Collection schema

Fields with symbols are optional, so that files without symbols can be stored
too. -/

namespace SymbolIndex

/-- A field of the collection. -/
structure SchemaField where
  name : String
  type : String
  /-- Values are counted per search. -/
  facet : Bool := false
  optional : Bool := false
  indexed : Bool := true
  deriving DecidableEq, Repr

def SchemaField.toJson (f : SchemaField) : Json :=
  .object ([("name", .text f.name), ("type", .text f.type)] ++
    (if f.optional then [("optional", .boolean true)] else []) ++
    (if f.indexed then [] else [("index", .boolean false)]) ++
    (if f.facet then [("facet", .boolean true)] else []))

def schemaFields : List SchemaField :=
  [{ name := "id", type := "string" },
    { name := "path", type := "string", optional := true, indexed := false },
    { name := "relative_path", type := "string" },
    { name := "filename", type := "string" },
    { name := "extension", type := "string", facet := true },
    { name := "subsystem", type := "string", facet := true },
    { name := "namespace", type := "string", optional := true },
    { name := "class_names", type := "string[]", optional := true },
    { name := "method_names", type := "string[]", optional := true },
    { name := "symbols", type := "string[]" },
    { name := "content", type := "string" },
    { name := "mtime", type := "int64" },
    { name := "base_types", type := "string[]", optional := true },
    { name := "call_sites", type := "string[]", optional := true },
    { name := "method_sigs", type := "string[]", optional := true },
    { name := "type_refs", type := "string[]", optional := true },
    { name := "attributes", type := "string[]", facet := true, optional := true },
    { name := "usings", type := "string[]", optional := true },
    { name := "priority", type := "int32" }]

/-- The definition of a collection. -/
def collectionSchema (name : String) : Json :=
  .object [("name", .text name), ("fields", .list (schemaFields.map SchemaField.toJson))]

end SymbolIndex
