-- SUMMARY: The folded form of host names.
import SymbolIndex.Text.Composition
import SymbolIndex.Web.Host.FoldingTable

/-! # Folded host names

Two host names are the same if their folded forms are. A character folds to
itself, to others or to nothing, and some are refused. -/

namespace SymbolIndex.Host

/-- What a character folds to, if names may have it. One that is a mere spelling
of others folds as they do. -/
def foldChar? (c : Char) : Option (List Char) :=
  if refusedSet.contains c then none
  else
    match foldingMap.target? c with
    | some target => some target
    | none => some ((Text.decompose c).flatMap fun d => (foldingMap.target? d).getD [d])

/-- The folded form of a text, in composed characters. -/
def fold? (cs : List Char) : Option (List Char) :=
  (cs.mapM foldChar?).map fun targets => Text.composed targets.flatten

end SymbolIndex.Host
