-- SUMMARY: The node kinds of the C# grammar that declare, and those that hold text.
import SymbolIndex.Syntax.Node

/-! # Node kinds

The tables shared by extraction and queries. -/

namespace SymbolIndex.Syntax

/-- Declarations of types. -/
def typeKinds : List String :=
  ["class_declaration", "interface_declaration", "struct_declaration", "enum_declaration",
   "record_declaration", "record_struct_declaration", "delegate_declaration"]

/-- Declarations of members. -/
def memberKinds : List String :=
  ["method_declaration", "constructor_declaration", "property_declaration", "field_declaration",
   "event_declaration", "event_field_declaration", "local_function_statement"]

/-- Nodes whose descendants are text and not code. -/
def literalKinds : List String :=
  ["comment", "string_literal", "verbatim_string_literal", "raw_string_literal",
   "character_literal", "interpolated_string_expression",
   "interpolated_verbatim_string_expression"]

/-- The occurrence stands inside a comment, a string or a character literal. -/
def Occurrence.inLiteral (o : Occurrence) : Bool := (o.ancestorOfKinds? literalKinds).isSome

end SymbolIndex.Syntax
