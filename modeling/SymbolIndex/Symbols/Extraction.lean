-- SUMMARY: Extraction: the symbols that the nodes of a tree contribute, in document order.
import SymbolIndex.Symbols.Record
import SymbolIndex.Syntax.Declaration

/-! # Extraction

Every node contributes a small record of its own. The record of a file is the
concatenation of these contributions in document order, normalized. -/

namespace SymbolIndex

open Syntax

namespace Source

variable (src : Source)

/-! ## Contributions by kind -/

def namespaceSymbols (n : Node) : SymbolRecord :=
  let name :=
    match src.fieldText? n "name" with
    | some name => some name
    | none => (n.childOfKinds? ["qualified_name", "identifier"]).map src.trimmed
  { namespaceName := name.getD "" }

def usingSymbols (n : Node) : SymbolRecord := { usings := (src.usingTarget? n).toList }

/-- `[Obsolete]`, `[ObsoleteAttribute]` and `[System.Obsolete]` all count as
`Obsolete`. -/
def attributeSymbols (n : Node) : SymbolRecord :=
  { attributes :=
      ((src.fieldText? n "name").map (Text.attributeName <| Text.lastSegment ·)).toList }

def typeSymbols (n : Node) : SymbolRecord :=
  { classNames := (src.declaredName? n).toList, baseTypes := src.baseTypes n }

/-- Methods and local functions. Only methods refer to types: by the return
type and by the types of the parameters. -/
def methodSymbols (n : Node) : SymbolRecord :=
  match src.declaredName? n with
  | none => {}
  | some name =>
      { methodNames := [name]
        methodSigs := (src.signature? false n).toList
        typeRefs :=
          if n.kind = "method_declaration" then
            (src.returnType? n).toList ++ (parameters n).filterMap src.parameterType?
          else [] }

def constructorSymbols (n : Node) : SymbolRecord :=
  { methodNames := (src.declaredName? n).toList }

/-- Properties, fields and events. -/
def memberSymbols (n : Node) : SymbolRecord :=
  { methodNames := src.declaredNames n, typeRefs := (src.memberType? n).toList }

def callSymbols (n : Node) : SymbolRecord := { callSites := (src.callee? n).toList }

/-- What one node contributes, its children left aside. -/
def symbols (n : Node) : SymbolRecord :=
  match n.kind with
  | "namespace_declaration" | "file_scoped_namespace_declaration" => src.namespaceSymbols n
  | "using_directive" => src.usingSymbols n
  | "attribute" => src.attributeSymbols n
  | "class_declaration" | "interface_declaration" | "struct_declaration" | "enum_declaration"
  | "record_declaration" | "record_struct_declaration" | "delegate_declaration" =>
      src.typeSymbols n
  | "method_declaration" | "local_function_statement" => src.methodSymbols n
  | "constructor_declaration" => src.constructorSymbols n
  | "property_declaration" | "event_declaration" | "field_declaration"
  | "event_field_declaration" => src.memberSymbols n
  | "invocation_expression" => src.callSymbols n
  | _ => {}

/-! ## Whole trees -/

/-- The symbols of a tree. -/
def extract (tree : Node) : SymbolRecord :=
  (SymbolRecord.concat (tree.occurrences.map fun o => src.symbols o.node)).normalized

end Source

/-! ## Files -/

/-- A parser for C#: the tree of a source text, unless it gives up. -/
abbrev Parser := Bytes → Option Node

inductive Language where
  | csharp
  deriving DecidableEq, Repr

namespace Language

def name : Language → String
  | csharp => "csharp"

/-- The language with extraction for a file extension, with or without leading
dots. -/
def ofExtension? (extension : String) : Option Language :=
  if Text.lowerAscii (.ofList (extension.toList.dropWhile (· = '.'))) = "cs" then some csharp
  else none

end Language

/-- Extensions with extraction. -/
def supportedExtensions : List String := ["cs"]

/-- The symbols of a file. Files without a parser for their language, and those
that the parser gives up on, have none. -/
def extractFile (parse : Parser) (extension : String) (bytes : Bytes) : SymbolRecord :=
  match Language.ofExtension? extension with
  | none => {}
  | some .csharp =>
      match parse bytes with
      | none => {}
      | some tree => (Source.ofBytes bytes).extract tree

end SymbolIndex
