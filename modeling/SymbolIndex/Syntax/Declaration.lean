-- SUMMARY: What declarations say: names, base types, member types, parameters and signatures.
import SymbolIndex.Syntax.Kinds
import SymbolIndex.Syntax.Source
import SymbolIndex.Text.Names

/-! # Declarations

Accessors on declaration nodes. Releases of the grammar differ in the fields
they use, so an accessor asks for every known field before it falls back to the
kinds of the children. -/

namespace SymbolIndex

open Syntax

/-! ## Names -/

/-- The label of a node kind: `class_declaration` is a `class`,
`record_struct_declaration` a `record struct`. -/
def Syntax.kindLabel (kind : String) : String :=
  .ofList ((Text.dropSuffixes "_statement" (Text.dropSuffixes "_declaration" kind)).toList.map
    fun c => if c = '_' then ' ' else c)

namespace Source

variable (src : Source)

/-- The declared name of a type or member. Fields declare one name per variable
and are read by `variableNames`. -/
def declaredName? (n : Node) : Option String :=
  match src.fieldText? n "name" with
  | some name => some name
  | none => (n.childOfKind? "identifier").map src.trimmed

/-- The name in front of the type arguments of a `generic_name`. -/
def genericName (n : Node) : String :=
  match n.childOfKind? "identifier" with
  | some id => src.trimmed id
  | none => Text.bareName (src.text n)

/-- The name of a type node without generic arguments. -/
def typeName (n : Node) : String :=
  if n.kind = "generic_name" then src.genericName n else Text.bareName (src.text n)

/-- The node that names the type in one entry of a base list. -/
def baseTypeNode? (entry : Node) : Option Node :=
  if entry.kind = "identifier" || entry.kind = "qualified_name" || entry.kind = "generic_name" then
    some entry
  else if entry.kind = "simple_base_type" || entry.kind = "primary_constructor_base_type" then
    match entry.childByField? "type" with
    | some t => some t
    | none =>
        match entry.childByField? "name" with
        | some t => some t
        | none => entry.namedChildren.head?
  else none

/-- The names in the base list of a type declaration, without generic
arguments but with their qualifiers. -/
def baseTypes (n : Node) : List String :=
  match n.childOfKind? "base_list" with
  | none => []
  | some list => (list.namedChildren.filterMap baseTypeNode?).map src.typeName |>.filter (· ≠ "")

/-! ## Types of members -/

/-- The return type of a method, a local function or a delegate. -/
def returnType? (n : Node) : Option String :=
  match src.fieldText? n "returns" with
  | some t => some t
  | none => src.fieldText? n "type"

/-- Fields and field-like events declare a list of variables. -/
def declaresVariables (n : Node) : Bool :=
  n.kind = "field_declaration" || n.kind = "event_field_declaration"

/-- The declared type of a field, an event or a property. -/
def memberType? (n : Node) : Option String :=
  if declaresVariables n then
    match n.childOfKind? "variable_declaration" with
    | some d => src.fieldText? d "type"
    | none => none
  else src.fieldText? n "type"

/-- The names of the variables that a field or a field-like event declares. -/
def variableNames (n : Node) : List String :=
  match n.childOfKind? "variable_declaration" with
  | none => []
  | some d =>
      (d.namedChildren.filter (·.kind = "variable_declarator")).filterMap src.declaredName?

/-- Every name that a type or member declaration introduces. -/
def declaredNames (n : Node) : List String :=
  if declaresVariables n then src.variableNames n else (src.declaredName? n).toList

/-! ## Parameters -/

/-- Parameter modifiers that the grammar writes as bare tokens. -/
def modifierTokens : List String := ["ref", "out", "in", "params", "this", "scoped", "readonly"]

/-- Nodes that wrap a parameter modifier. -/
def isModifierNode (n : Node) : Bool := n.kind = "modifier" || n.kind = "parameter_modifier"

def parameterList? (n : Node) : Option Node :=
  match n.childByField? "parameters" with
  | some l => some l
  | none => n.childOfKinds? ["parameter_list", "bracketed_parameter_list"]

/-- The parameters of a parameter list. -/
def parametersOf (list : Node) : List Node := list.namedChildren.filter (·.kind = "parameter")

/-- The parameters of a method-like declaration. -/
def parameters (n : Node) : List Node :=
  match parameterList? n with
  | some l => parametersOf l
  | none => []

/-- The declared type of a parameter. Some releases of the grammar put
modifiers under the same field. -/
def parameterType? (p : Node) : Option String :=
  ((p.childrenByField "type").find?
    (fun t => !isModifierNode t && !modifierTokens.contains t.kind)).map src.trimmed

def parameterName? (p : Node) : Option String := src.declaredName? p

/-- The modifiers of a parameter in source order. -/
def parameterModifiers (p : Node) : List String :=
  p.children.filterMap fun c =>
    if isModifierNode c then some (src.trimmed c)
    else if !c.named && modifierTokens.contains c.kind then some c.kind
    else none

/-- The value in a clause `= value`, for clauses that are nodes. -/
def clauseValue (n : Node) : String :=
  let whole := Text.trim (.ofList ((src.trimmed n).toList.dropWhile (· = '=')))
  if n.kind = "equals_value_clause" then (n.namedChildren.getLast?.map src.trimmed).getD whole
  else whole

/-- The first named node behind the token `=`. -/
def valueBehindEquals? : List Node → Option Node
  | [] => none
  | c :: cs => if !c.named && c.kind = "=" then cs.find? (·.named) else valueBehindEquals? cs

/-- The default value of a parameter. -/
def parameterDefault? (p : Node) : Option String :=
  match p.childByField? "default" with
  | some d => some (src.clauseValue d)
  | none =>
      match p.childOfKind? "equals_value_clause" with
      | some c => some (src.clauseValue c)
      | none => (valueBehindEquals? p.children).map src.trimmed

/-! ## Signatures -/

/-- A parameter in a signature: its type, followed by its name if names are
shown. -/
def parameterText (withNames : Bool) (p : Node) : String :=
  let type := (src.parameterType? p).getD ""
  if withNames then Text.trim (type ++ " " ++ (src.parameterName? p).getD "") else type

/-- `Ret Name(T1, T2)`, or `Ret Name(T1 a, T2 b)` with parameter names.
Constructors have no return type. -/
def signature? (withNames : Bool) (n : Node) : Option String :=
  (src.declaredName? n).map fun name =>
    let params := ((parameters n).map (src.parameterText withNames)).filter (· ≠ "")
    let call := name ++ "(" ++ ", ".intercalate params ++ ")"
    match src.returnType? n with
    | some ret =>
        if ret ≠ "" && n.kind ≠ "constructor_declaration" then ret ++ " " ++ call else call
    | none => call

/-! ## Using directives and invocations -/

/-- The namespace or type that a using directive names; for an alias, what it
stands for. -/
def usingTarget? (n : Node) : Option String :=
  (n.namedChildren.reverse.find? fun c =>
    ["qualified_name", "identifier", "generic_name", "alias_qualified_name"].contains c.kind).map
    src.trimmed

/-- The node that names what an invocation calls: the accessed member, or the
called identifier itself. -/
def calleeNode? (invocation : Node) : Option Node := do
  let function ←
    match invocation.childByField? "function" with
    | some f => some f
    | none => invocation.namedChildren.head?
  if function.kind = "member_access_expression" || function.kind = "member_binding_expression" then
    function.childByField? "name"
  else if function.kind = "identifier" || function.kind = "generic_name" then
    some function
  else if function.kind = "conditional_access_expression" then
    let binding ←
      function.namedChildren.reverse.find? (·.kind = "member_binding_expression")
    binding.childByField? "name"
  else none

/-- The name of what an invocation calls, without generic arguments. -/
def callee? (invocation : Node) : Option String :=
  ((calleeNode? invocation).map src.typeName).filter (· ≠ "")

/-- The name of the innermost type declaration around an occurrence. -/
def enclosingType? (o : Occurrence) : Option String :=
  (o.ancestorOfKinds? typeKinds).bind src.declaredName?

end Source

end SymbolIndex
