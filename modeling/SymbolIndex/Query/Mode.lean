-- SUMMARY: What a structural query looks for, and what it finds.

/-! # Query modes and hits -/

namespace SymbolIndex

/-- What to look for in the syntax tree of a file. -/
inductive QueryMode where
  /-- Every type declaration. -/
  | classes
  /-- Every member: methods, constructors, properties, fields, events, local functions. -/
  | methods
  /-- Fields and properties. -/
  | fields
  /-- Invocations of a method name. -/
  | calls (name : String)
  /-- Types whose base list names the type. -/
  | implements (type : String)
  /-- Mentions of a name that are neither declarations nor invocations. -/
  | uses (name : String)
  /-- Fields and properties of the type. -/
  | fieldType (type : String)
  /-- Parameters of the type. -/
  | paramType (type : String)
  /-- Casts to the type. -/
  | casts (type : String)
  /-- Every mention of an identifier in code. -/
  | ident (name : String)
  /-- Attributes, all or those of one name. -/
  | attrs (name? : Option String)
  /-- Using directives. -/
  | usings
  /-- The whole source of the declarations of a name. -/
  | find (name : String)
  /-- The parameters of the methods of a name. -/
  | params (name : String)
  deriving DecidableEq, Repr

namespace QueryMode

def name : QueryMode → String
  | classes => "classes"
  | methods => "methods"
  | fields => "fields"
  | calls _ => "calls"
  | implements _ => "implements"
  | uses _ => "uses"
  | fieldType _ => "field_type"
  | paramType _ => "param_type"
  | casts _ => "casts"
  | ident _ => "ident"
  | attrs _ => "attrs"
  | usings => "usings"
  | find _ => "find"
  | params _ => "params"

/-- Lines around a hit are of no use where the hit is a whole block. -/
def supportsContext : QueryMode → Bool
  | find _ => false
  | _ => true

end QueryMode

/-- One match: its line, counted from 1, and its text. -/
structure Hit where
  line : Nat
  text : String
  deriving DecidableEq, Repr

end SymbolIndex
