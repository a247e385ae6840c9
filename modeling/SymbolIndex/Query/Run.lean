-- SUMMARY: Running a query mode on a tree.
import SymbolIndex.Query.Mentions

/-! # Running queries -/

namespace SymbolIndex

open Syntax

/-- The hits of a query in a tree over a source, in the order of the mode. -/
def Source.query (src : Source) (tree : Node) : QueryMode → List Hit
  | .classes => src.classes tree
  | .methods => src.methods tree
  | .fields => src.fields tree
  | .calls name => src.calls name tree
  | .implements type => src.implements type tree
  | .uses name => src.uses name tree
  | .fieldType type => src.fieldType type tree
  | .paramType type => src.paramType type tree
  | .casts type => src.casts type tree
  | .ident name => src.ident name tree
  | .attrs wanted? => src.attrs wanted? tree
  | .usings => src.usings tree
  | .find name => src.find name tree
  | .params name => src.params name tree

end SymbolIndex
