-- SUMMARY: Queries that list declarations: types, members, usings, attributes, sources, parameters.
import SymbolIndex.Query.Mode
import SymbolIndex.Syntax.Declaration

/-! # Listings of declarations

Each query goes through the nodes of some kinds in document order and renders
each one. -/

namespace SymbolIndex

open Syntax

namespace Source

variable (src : Source)

/-! ## Types -/

/-- `[kind] Name : Base1, Base2`. -/
def typeHeader? (n : Node) : Option String :=
  (src.declaredName? n).map fun name =>
    let bases := src.baseTypes n
    let header := "[" ++ kindLabel n.kind ++ "] " ++ name
    if bases.isEmpty then header else header ++ " : " ++ ", ".intercalate bases

def typeHit? (n : Node) : Option Hit := (src.typeHeader? n).map (⟨src.line n, ·⟩)

def classes (tree : Node) : List Hit :=
  (tree.findKinds typeKinds).filterMap fun o => src.typeHit? o.node

/-! ## Members -/

/-- `[tag] Type name` for every name that a field, an event or a property
declares. -/
def typedHits (tag : String) (n : Node) : List Hit :=
  (src.declaredNames n).map fun name =>
    ⟨src.line n, "[" ++ tag ++ "] " ++ (src.memberType? n).getD "" ++ " " ++ name⟩

/-- `[tag] signature`. -/
def signatureHits (tag : String) (n : Node) : List Hit :=
  ((src.signature? true n).map fun sig => ⟨src.line n, "[" ++ tag ++ "] " ++ sig⟩).toList

def memberHits (n : Node) : List Hit :=
  match n.kind with
  | "field_declaration" => src.typedHits "field" n
  | "event_field_declaration" => src.typedHits "event" n
  | "property_declaration" => src.typedHits "prop" n
  | "event_declaration" => src.typedHits "event" n
  | "constructor_declaration" => src.signatureHits "ctor" n
  | _ => src.signatureHits "method" n

def methods (tree : Node) : List Hit :=
  (tree.findKinds memberKinds).flatMap fun o => src.memberHits o.node

/-- Fields and properties; field-like events are not among them. -/
def fields (tree : Node) : List Hit :=
  (tree.findKinds ["field_declaration", "property_declaration"]).flatMap
    fun o => src.memberHits o.node

/-! ## Using directives and attributes -/

def usings (tree : Node) : List Hit :=
  (tree.findKinds ["using_directive"]).map fun o =>
    let text := Text.dropTail (· = ';') (src.trimmed o.node).toList
    ⟨src.line o.node, .ofList (Text.trimEndChars text)⟩

/-- The attribute is meant by `wanted`: by its written name, or by the written
name without the suffix `Attribute`. -/
def attributeMatches (wanted? : Option String) (written : String) : Bool :=
  match wanted? with
  | none => true
  | some wanted => written = wanted || Text.attributeName written = wanted

/-- `[Name](args)`. -/
def attributeHit? (wanted? : Option String) (n : Node) : Option Hit :=
  match src.fieldText? n "name" with
  | none => none
  | some written =>
      if attributeMatches wanted? written then
        let arguments :=
          match n.childByField? "arguments" with
          | some a => some a
          | none => n.childOfKind? "attribute_argument_list"
        some ⟨src.line n, "[" ++ written ++ "]" ++ (arguments.map src.trimmed).getD ""⟩
      else none

def attrs (wanted? : Option String) (tree : Node) : List Hit :=
  (tree.findKinds ["attribute"]).filterMap fun o => src.attributeHit? wanted? o.node

/-! ## Sources and parameters -/

/-- A header and the lines that a declaration spans. -/
def blockHit (name : String) (n : Node) : Hit :=
  let first := src.line n
  let last := src.lastLine n
  let header := "[" ++ kindLabel n.kind ++ "] " ++ name ++ " (lines " ++ toString first ++ "-" ++
    toString last ++ ")"
  ⟨first, "\n".intercalate (header :: (src.lines.take last).drop (first - 1))⟩

def find (name : String) (tree : Node) : List Hit :=
  ((tree.findKinds (typeKinds ++ memberKinds)).filter fun o =>
    (src.declaredNames o.node).contains name).map fun o => src.blockHit name o.node

/-- `  {mods }{type} {name}{ = default}`. -/
def parameterLine (p : Node) : String :=
  let modifiers := src.parameterModifiers p
  let front := if modifiers.isEmpty then "  " else "  " ++ " ".intercalate modifiers ++ " "
  let default :=
    match src.parameterDefault? p with
    | some d => " = " ++ d
    | none => ""
  Text.trimEnd (front ++ (src.parameterType? p).getD "" ++ " " ++
    (src.parameterName? p).getD "" ++ default)

def parametersHit (n : Node) : Hit :=
  let lines := (parameters n).map src.parameterLine
  ⟨src.line n, if lines.isEmpty then "(no parameters)" else "\n".intercalate lines⟩

/-- The kinds that `params` looks at. -/
def methodKinds : List String :=
  ["method_declaration", "constructor_declaration", "local_function_statement"]

def params (name : String) (tree : Node) : List Hit :=
  ((tree.findKinds methodKinds).filter fun o => src.declaredName? o.node = some name).map
    fun o => src.parametersHit o.node

end Source

end SymbolIndex
