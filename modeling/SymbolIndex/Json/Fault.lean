-- SUMMARY: What can be wrong with a JSON text, and where.
import SymbolIndex.Text.Quoted
import SymbolIndex.Text.Utf8

/-! # Faults in JSON texts

A reader works on the bytes that are left. A fault therefore notes how many
bytes stand behind it; the line and the column, both in bytes, follow from that
and the whole text. -/

namespace SymbolIndex.Json

/-! ## Problems -/

/-- A value of another type than the wanted one. -/
inductive Found where
  | null
  | boolean (value : Bool)
  | integer (value : Int)
  /-- A number with a fraction, an exponent or too many digits, by its shortest
  text. -/
  | real (digits : String)
  | text (value : String)
  | sequence
  | map
  deriving DecidableEq, Repr

def Found.describe : Found → String
  | null => "null"
  | boolean value => "boolean `" ++ toString value ++ "`"
  | integer value => "integer `" ++ toString value ++ "`"
  | real digits => "floating point `" ++ digits ++ "`"
  | text value => "string " ++ Text.quoted value
  | sequence => "sequence"
  | map => "map"

inductive Problem where
  | endInList
  | endInObject
  | endInString
  | endInValue
  | expectedColon
  | expectedListEnd
  | expectedObjectEnd
  | expectedWord
  | expectedValue
  | badEscape
  | badNumber
  | numberOutOfRange
  | controlCharacter
  | keyNotText
  | loneSurrogate
  | endInEscape
  | trailingComma
  | trailingCharacters
  | tooDeep
  | wrongType (found : Found) (expected : String)
  | outOfRange (value : Int) (expected : String)
  | repeatedField (name : String)
  deriving DecidableEq, Repr

def Problem.message : Problem → String
  | endInList => "EOF while parsing a list"
  | endInObject => "EOF while parsing an object"
  | endInString => "EOF while parsing a string"
  | endInValue => "EOF while parsing a value"
  | expectedColon => "expected `:`"
  | expectedListEnd => "expected `,` or `]`"
  | expectedObjectEnd => "expected `,` or `\x7d`"
  | expectedWord => "expected ident"
  | expectedValue => "expected value"
  | badEscape => "invalid escape"
  | badNumber => "invalid number"
  | numberOutOfRange => "number out of range"
  | controlCharacter => "control character (\\u0000-\\u001F) found while parsing a string"
  | keyNotText => "key must be a string"
  | loneSurrogate => "lone leading surrogate in hex escape"
  | endInEscape => "unexpected end of hex escape"
  | trailingComma => "trailing comma"
  | trailingCharacters => "trailing characters"
  | tooDeep => "recursion limit exceeded"
  | wrongType found expected => "invalid type: " ++ found.describe ++ ", expected " ++ expected
  | outOfRange value expected =>
      "invalid value: " ++ (Found.integer value).describe ++ ", expected " ++ expected
  | repeatedField name => "duplicate field `" ++ name ++ "`"

/-! ## Places -/

/-- A problem and the number of bytes behind its place. -/
structure Fault where
  problem : Problem
  behind : Nat
  deriving DecidableEq, Repr

/-- The place in front of what is left. -/
def Fault.here (problem : Problem) (rest : Bytes) : Fault := ⟨problem, rest.length⟩

/-- The place behind the next byte, if there is one. -/
def Fault.next (problem : Problem) (rest : Bytes) : Fault := ⟨problem, rest.length - 1⟩

/-- A problem with its line, from 1, and the number of bytes before it in that
line. -/
structure Failure where
  problem : Problem
  line : Nat
  column : Nat
  deriving DecidableEq, Repr

/-- The line and the column of a fault in a text. -/
def Fault.inText (input : Bytes) (f : Fault) : Failure :=
  let before := input.take (input.length - f.behind)
  ⟨f.problem, before.count 10 + 1, (before.reverse.takeWhile (· ≠ 10)).length⟩

def Failure.message (f : Failure) : String :=
  f.problem.message ++ " at line " ++ toString f.line ++ " column " ++ toString f.column

end SymbolIndex.Json
