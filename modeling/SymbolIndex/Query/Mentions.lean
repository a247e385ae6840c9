-- SUMMARY: Queries that look for mentions of a name or a type.
import SymbolIndex.Query.Listings

/-! # Mentions

Types are compared by their bare names, so `IFoo` and `IFoo<T>` both find
`IFoo<int>` and never `IFooBar`. Queries for mentions in code leave out what
stands inside literals, and report each line once. -/

namespace SymbolIndex

open Syntax

namespace Source

variable (src : Source)

/-! ## Lines -/

/-- The first occurrence on every row that is not among `seen`. -/
def firstPerRow (seen : List Nat) : List Occurrence → List Occurrence
  | [] => []
  | o :: os =>
      if src.row o.node ∈ seen then firstPerRow seen os
      else o :: firstPerRow (src.row o.node :: seen) os

/-- One hit per line, with the trimmed line as its text. -/
def lineHits (os : List Occurrence) : List Hit :=
  (src.firstPerRow [] os).map fun o => ⟨src.line o.node, src.lineText o.node⟩

/-- Two type texts name the same type up to generic arguments. -/
def sameType (declared pattern : String) : Bool := Text.bareName declared = Text.bareName pattern

/-! ## Calls and base types -/

/-- Longest text of a call before it is cut. -/
def callTextLimit : Nat := 140

/-- A text on one line: line feeds become blanks, carriage returns go. -/
def onOneLine (s : String) : String :=
  .ofList ((s.toList.filter (· ≠ '\r')).map fun c => if c = '\n' then ' ' else c)

def calls (name : String) (tree : Node) : List Hit :=
  ((tree.findKinds ["invocation_expression"]).filter fun o =>
    !o.inLiteral && src.callee? o.node = some name).map fun o =>
      ⟨src.line o.node, Text.truncate (onOneLine (src.text o.node)) callTextLimit⟩

def implements (type : String) (tree : Node) : List Hit :=
  ((tree.findKinds typeKinds).filter fun o =>
    (src.baseTypes o.node).any (sameType · type)).filterMap fun o => src.typeHit? o.node

/-! ## Identifiers -/

def isIdentifier (name : String) (o : Occurrence) : Bool :=
  o.node.kind = "identifier" && src.text o.node = name

/-- The occurrence is the name that its parent declares or accesses. -/
def isNameOfParent (o : Occurrence) : Bool := o.isFieldOfParent "name"

/-- The occurrence that stands for an identifier in an expression: the
`generic_name` around it if there is one. -/
def nameExpression (o : Occurrence) : Occurrence :=
  match o.parent? with
  | some p => if p.node.kind = "generic_name" then p else o
  | none => o

/-- `Foo()`, `Foo<T>()`, or the `Foo` of `x.Foo`. -/
def isInvocationTarget (o : Occurrence) : Bool :=
  let e := nameExpression o
  match e.parent? with
  | none => false
  | some p =>
      if p.node.kind = "invocation_expression" then e.isFieldOfParent "function"
      else if p.node.kind = "member_access_expression" then e.isFieldOfParent "name"
      else false

def uses (name : String) (tree : Node) : List Hit :=
  src.lineHits ((tree.findAll (src.isIdentifier name)).filter fun o =>
    !o.inLiteral && !isNameOfParent o && !isInvocationTarget o)

def ident (name : String) (tree : Node) : List Hit :=
  src.lineHits ((tree.findAll (src.isIdentifier name)).filter fun o => !o.inLiteral)

def casts (type : String) (tree : Node) : List Hit :=
  src.lineHits ((tree.findKinds ["cast_expression"]).filter fun o =>
    !o.inLiteral && (src.fieldText? o.node "type").any (sameType · type))

/-! ## Declared types -/

/-- `  [in Type]` behind a member of a type. -/
def enclosingSuffix (o : Occurrence) : String :=
  match src.enclosingType? o with
  | some type => "  [in " ++ type ++ "]"
  | none => ""

def fieldTypeHits (type : String) (o : Occurrence) : List Hit :=
  match src.memberType? o.node with
  | none => []
  | some declared =>
      if sameType declared type then
        (src.memberHits o.node).map fun hit => { hit with text := hit.text ++ src.enclosingSuffix o }
      else []

def fieldType (type : String) (tree : Node) : List Hit :=
  (tree.findKinds ["field_declaration", "property_declaration"]).flatMap (src.fieldTypeHits type)

/-- The kinds that `paramType` looks at. -/
def parameterizedKinds : List String :=
  ["method_declaration", "constructor_declaration", "local_function_statement",
   "delegate_declaration", "lambda_expression"]

/-- The name of a declaration with parameters; a lambda has none. -/
def ownerName (n : Node) : String :=
  if n.kind = "lambda_expression" then "<lambda>" else (src.declaredName? n).getD ""

/-- `[kind] Owner({mods }{type} {name})`. -/
def paramTypeHit? (type : String) (owner p : Node) : Option Hit :=
  match src.parameterType? p with
  | none => none
  | some declared =>
      if sameType declared type then
        let joined := " ".intercalate (src.parameterModifiers p)
        let modifiers := if joined = "" then "" else joined ++ " "
        some ⟨src.line p, "[" ++ kindLabel owner.kind ++ "] " ++ src.ownerName owner ++ "(" ++
          modifiers ++ declared ++ " " ++ (src.parameterName? p).getD "" ++ ")"⟩
      else none

def paramType (type : String) (tree : Node) : List Hit :=
  (tree.findKinds parameterizedKinds).flatMap fun o =>
    (parameters o.node).filterMap (src.paramTypeHit? type o.node)

end Source

end SymbolIndex
