-- SUMMARY: The symbols of one source file.
import SymbolIndex.Text.Distinct
import SymbolIndex.Text.Space

/-! # Symbol records

What the index knows about a file besides its text. In a normalized record
every list holds the first occurrences of texts that are not empty, and the
namespace has no white space around it. -/

namespace SymbolIndex

structure SymbolRecord where
  namespaceName : String := ""
  classNames : List String := []
  methodNames : List String := []
  baseTypes : List String := []
  callSites : List String := []
  /-- Signatures without parameter names. -/
  methodSigs : List String := []
  typeRefs : List String := []
  /-- Attribute names without the suffix `Attribute`. -/
  attributes : List String := []
  usings : List String := []
  deriving DecidableEq, Repr, Inhabited

namespace SymbolRecord

def empty : SymbolRecord := {}

def isEmpty (r : SymbolRecord) : Bool := r == empty

def normalized (r : SymbolRecord) : SymbolRecord where
  namespaceName := Text.trim r.namespaceName
  classNames := Text.distinct r.classNames
  methodNames := Text.distinct r.methodNames
  baseTypes := Text.distinct r.baseTypes
  callSites := Text.distinct r.callSites
  methodSigs := Text.distinct r.methodSigs
  typeRefs := Text.distinct r.typeRefs
  attributes := Text.distinct r.attributes
  usings := Text.distinct r.usings

/-- The entries of one record followed by those of another; the first namespace
that is not empty counts. -/
def append (r s : SymbolRecord) : SymbolRecord where
  namespaceName := if r.namespaceName = "" then s.namespaceName else r.namespaceName
  classNames := r.classNames ++ s.classNames
  methodNames := r.methodNames ++ s.methodNames
  baseTypes := r.baseTypes ++ s.baseTypes
  callSites := r.callSites ++ s.callSites
  methodSigs := r.methodSigs ++ s.methodSigs
  typeRefs := r.typeRefs ++ s.typeRefs
  attributes := r.attributes ++ s.attributes
  usings := r.usings ++ s.usings

instance : Append SymbolRecord := ⟨append⟩

/-- The entries of all records, in order. -/
def concat (rs : List SymbolRecord) : SymbolRecord := rs.foldr append empty

@[simp] theorem concat_nil : concat [] = empty := rfl

@[simp] theorem concat_cons (r : SymbolRecord) (rs : List SymbolRecord) :
    concat (r :: rs) = r.append (concat rs) := rfl

/-- The types and members by name, each once. -/
def declaredNames (r : SymbolRecord) : List String :=
  Text.distinct (r.classNames ++ r.methodNames)

end SymbolRecord

end SymbolIndex
