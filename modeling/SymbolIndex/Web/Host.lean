-- SUMMARY: Hosts of web addresses in their normal form.
import SymbolIndex.Web.Escape
import SymbolIndex.Web.Host.Label
import SymbolIndex.Web.Host.Number

/-! # Hosts

The host of an address is a name, four bytes, or eight groups in brackets. In
addresses that are not for the web it is any text without the characters that
addresses need for themselves. -/

namespace SymbolIndex.Host

/-- Characters that divide an address. -/
def dividers : List Char :=
  ['#', '/', ':', '<', '>', '?', '@', '[', '\\', ']', '^', '|']

/-- ASCII characters that no host name has. -/
def isForbidden (c : Char) : Bool :=
  c.toNat ≤ 0x20 || c.toNat = 0x7F || c = '%' || dividers.contains c

/-- The normal form of a name or number. -/
def name? (cs : List Char) : Option String := do
  let text ← Utf8.decode? (Escape.undo cs)
  let name ← asciiName? text.toList
  if name.isEmpty || name.any isForbidden then none
  else if endsInNumber name then dotted? name
  else some (.ofList name)

/-- A host that is taken as it is, apart from escapes. -/
def plain? (cs : List Char) : Option String :=
  if cs.any fun c => c.toNat = 0 || c = ' ' || dividers.contains c then none
  else some (Escape.text [] cs)

/-- The normal form of a host. -/
def read? (isName : Bool) (cs : List Char) : Option String :=
  if cs.head? = some '[' then
    if cs.getLast? = some ']' then bracketed? (cs.drop 1).dropLast else none
  else if isName then name? cs
  else plain? cs

end SymbolIndex.Host
